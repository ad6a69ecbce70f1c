import ClassroomC.Proofs.Brackets

/-!
# The reader with a clock

`Reading` names each function of the reader with the arguments it takes
besides the tokens, and `Reading.run` is that function, answering with the
value it read and the tokens after it. `Reading.clocked` reads the same way
with a clock: every call of a reading takes one tick of its fuel, and when
the fuel runs out the clock stops (`none`) instead of answering.

A reading on the same tokens is a call to a reading of lower `Reading.rank`;
every other call is on fewer tokens. So `Reading.bound`, five ticks a token
plus the rank, is fuel enough: with more ticks the clock gives the reader's
own answer (`Reading.clocked_eq_run`).
-/

namespace ClassroomC.Parser

/-- Reading with a clock: an answer, an error or a stop when the fuel ran
out. -/
abbrev Clock (α : Type) := ExceptT ParseError Option α

/-- The clock answers as the reader does. -/
def Clock.answer {α : Type} (result : Except ParseError α) : Clock α :=
  ExceptT.mk (some result)

/-- The clock ran out. -/
def Clock.stop {α : Type} : Clock α :=
  ExceptT.mk none

/-- The value read and the tokens after it. -/
def Parsed.pair {tokens : List Token} {α : Type} (result : Parsed tokens α) : α × List Token :=
  (result.value, result.rest)

/-- The value read and the tokens after it. -/
def Consumed.pair {tokens : List Token} {α : Type} (result : Consumed tokens α) :
    α × List Token :=
  (result.value, result.rest)

/-- The functions of the reader, each with the arguments it takes besides
the tokens, indexed by what it reads. -/
inductive Reading : Type → Type where
  | expression : Reading Expr
  | binary (least : Nat) : Reading Expr
  | binaryTail (least : Nat) (left : Expr) : Reading Expr
  | unary : Reading Expr
  | primary : Reading Expr
  | strings : Reading String
  | target : Reading Target
  | simpleStatement : Reading Stmt
  | arrayElements (name : String) (acc : Array Int) : Reading (Array Int)
  | initializerList (name : String) : Reading (List Int)
  | arrayDeclarator (name : String) (line : Nat) : Reading Stmt
  | declarator : Reading Stmt
  | moreDeclarators (acc : Array Stmt) : Reading (Array Stmt)
  | declaration : Reading (List Stmt)
  | arguments (acc : Array Expr) : Reading (Array Expr)
  | call : Reading Stmt
  | condition (keyword : String) : Reading Expr
  | returnStatement : Reading Stmt
  | forInit : Reading (Option Stmt)
  | forHeader : Reading (Option Stmt × Option Expr × Option Stmt)
  | blockItems (inLoop : Bool) : Reading (List Stmt)
  | body (inLoop : Bool) : Reading (List Stmt)
  | statement (inLoop : Bool) : Reading (List Stmt)
  | elseChain (inLoop : Bool) (branches : Array Branch) : Reading (List Branch × List Stmt)
  | ifStatement (inLoop : Bool) : Reading (List Stmt)
  | forStatement : Reading (List Stmt)
  | whileStatement : Reading (List Stmt)
  | doStatement : Reading (List Stmt)
  | mainFunction : Reading (List Stmt)
  | fileScope (headers : Array String) (declared : Array Stmt) :
      Reading (Array String × Array Stmt)

namespace Reading

/-- The reader's function for a reading. -/
def run {α : Type} : Reading α → List Token → Except ParseError (α × List Token)
  | .expression, tokens => (Parser.expression tokens).map Parsed.pair
  | .binary least, tokens => (Parser.binary least tokens).map Parsed.pair
  | .binaryTail least left, tokens => (Parser.binaryTail least left tokens).map Parsed.pair
  | .unary, tokens => (Parser.unary tokens).map Parsed.pair
  | .primary, tokens => (Parser.primary tokens).map Parsed.pair
  | .strings, tokens => .ok ((Parser.strings tokens).1, (Parser.strings tokens).2.rest)
  | .target, tokens => (Parser.target tokens).map Consumed.pair
  | .simpleStatement, tokens => (Parser.simpleStatement tokens).map Consumed.pair
  | .arrayElements name acc, tokens => (Parser.arrayElements name acc tokens).map Parsed.pair
  | .initializerList name, tokens => (Parser.initializerList name tokens).map Consumed.pair
  | .arrayDeclarator name line, tokens =>
    (Parser.arrayDeclarator name line tokens).map Consumed.pair
  | .declarator, tokens => (Parser.declarator tokens).map Consumed.pair
  | .moreDeclarators acc, tokens => (Parser.moreDeclarators acc tokens).map Parsed.pair
  | .declaration, tokens => (Parser.declaration tokens).map Consumed.pair
  | .arguments acc, tokens => (Parser.arguments acc tokens).map Parsed.pair
  | .call, tokens => (Parser.call tokens).map Consumed.pair
  | .condition keyword, tokens => (Parser.condition keyword tokens).map Consumed.pair
  | .returnStatement, tokens => (Parser.returnStatement tokens).map Consumed.pair
  | .forInit, tokens => (Parser.forInit tokens).map Parsed.pair
  | .forHeader, tokens => (Parser.forHeader tokens).map Consumed.pair
  | .blockItems inLoop, tokens => (Parser.blockItems inLoop tokens).map Parsed.pair
  | .body inLoop, tokens => (Parser.body inLoop tokens).map Consumed.pair
  | .statement inLoop, tokens => (Parser.statement inLoop tokens).map Consumed.pair
  | .elseChain inLoop branches, tokens =>
    (Parser.elseChain inLoop branches tokens).map Parsed.pair
  | .ifStatement inLoop, tokens => (Parser.ifStatement inLoop tokens).map Consumed.pair
  | .forStatement, tokens => (Parser.forStatement tokens).map Consumed.pair
  | .whileStatement, tokens => (Parser.whileStatement tokens).map Consumed.pair
  | .doStatement, tokens => (Parser.doStatement tokens).map Consumed.pair
  | .mainFunction, tokens => (Parser.mainFunction tokens).map Parsed.pair
  | .fileScope headers declared, tokens =>
    (Parser.fileScope headers declared tokens).map Parsed.pair

/-- The rank of a reading: a reading calls readings of lower rank on the
tokens it was given, and any reading on fewer tokens. -/
def rank {α : Type} : Reading α → Nat
  | .expression => 4
  | .binary _ | .blockItems _ | .body _ | .forHeader => 3
  | .unary | .statement _ | .forInit => 2
  | .primary | .simpleStatement | .fileScope .. => 1
  | .binaryTail .. | .strings | .target | .arrayElements .. | .initializerList _
  | .arrayDeclarator .. | .declarator | .moreDeclarators _ | .declaration | .arguments _ | .call
  | .condition _ | .returnStatement | .elseChain .. | .ifStatement _ | .forStatement
  | .whileStatement | .doStatement | .mainFunction => 0

/-- Fuel enough for a reading: five ticks a token, plus its rank. -/
def bound {α : Type} (reading : Reading α) (tokens : List Token) : Nat :=
  5 * tokens.length + reading.rank

/-- Read as the reader does, one tick a call, stopping when the fuel runs
out. -/
def clocked : {α : Type} → Nat → Reading α → List Token → Clock (α × List Token)
  | _, 0, _, _ => Clock.stop
  | _, fuel + 1, .expression, tokens => do
    let (expr, rest) ← clocked fuel (.binary 1) tokens
    let next := peek rest
    if next.kind == .op && refusedAfterExpression.contains next.text then
      match refusedOperator? next.text with
      | some message => throw (errorAt next message)
      | none => pure (expr, rest)
    else pure (expr, rest)
  | _, fuel + 1, .binary least, tokens => do
    let (left, rest) ← clocked fuel .unary tokens
    clocked fuel (.binaryTail least left) rest
  | _, fuel + 1, .binaryTail least left, token :: after =>
    match binaryOperator? token with
    | some (op, precedence) =>
      if precedence < least then pure (left, token :: after)
      else do
        let (right, rest) ← clocked fuel (.binary (precedence + 1)) after
        clocked fuel (.binaryTail least (.binary op left right)) rest
    | none => pure (left, token :: after)
  | _, _ + 1, .binaryTail _ left, [] => pure (left, [])
  | _, fuel + 1, .unary, token :: after =>
    match unaryOperator? token with
    | some op => do
      let (operand, rest) ← clocked fuel .unary after
      pure (applyUnary op operand, rest)
    | none => clocked fuel .primary (token :: after)
  | _, fuel + 1, .unary, [] => clocked fuel .primary []
  | _, fuel + 1, .primary, token :: after =>
    match token.kind with
    | .number | .char => do
      let value ← Clock.answer (literalValue token)
      pure (.int value, after)
    | .string => do
      let (text, rest) ← clocked fuel .strings (token :: after)
      pure (.str text, rest)
    | .ident =>
      match after with
      | next :: afterNext =>
        if next.isOp "(" then
          let name := token.text
          throw (errorAt token s!"Function calls are not supported in expressions: '{name}()'")
        else if next.isOp "[" then do
          let (index, rest) ← clocked fuel .expression afterNext
          let name := token.text
          let closed ← Clock.answer (expectOp "]" s!"to close the index of '{name}'" rest)
          pure (.index token.text index, closed.rest)
        else pure (.var token.text, next :: afterNext)
      | [] => pure (.var token.text, [])
    | _ =>
      if token.isOp "(" then do
        let (expr, rest) ← clocked fuel .expression after
        let closed ← Clock.answer (expectOp ")" "to close the parenthesised expression" rest)
        pure (expr, closed.rest)
      else
        match (if token.kind == .op then refusedOperator? token.text else none) with
        | some message => throw (errorAt token message)
        | none =>
          let shown := token.describe
          throw (errorAt token s!"Expected an expression, found {shown}")
  | _, _ + 1, .primary, [] => throw (errorAt endToken "Expected an expression, found end of input")
  | _, fuel + 1, .strings, token :: rest =>
    if token.kind == .string then do
      let (text, after) ← clocked fuel .strings rest
      let inner := String.ofList (token.text.toList.drop 1).dropLast
      pure (inner ++ text, after)
    else pure ("", token :: rest)
  | _, _ + 1, .strings, [] => pure ("", [])
  | _, fuel + 1, .target, token :: after =>
    if token.kind != .ident then
      if token.isKeyword "int" then throw (errorAt token "Declarations are not allowed here")
      else
        let shown := token.describe
        throw (errorAt token s!"Expected a statement, found {shown}")
    else
      match after with
      | next :: afterNext =>
        if next.isOp "[" then do
          let (index, rest) ← clocked fuel .expression afterNext
          let name := token.text
          let closed ← Clock.answer (expectOp "]" s!"to close the index of '{name}'" rest)
          pure (.index token.text index, closed.rest)
        else pure (.var token.text, next :: afterNext)
      | [] => pure (.var token.text, [])
  | _, _ + 1, .target, [] => throw (errorAt endToken "Expected a statement, found end of input")
  | _, fuel + 1, .simpleStatement, token :: after =>
    if token.isOp "++" || token.isOp "--" then do
      let (written, rest) ← clocked fuel .target after
      let op := if token.isOp "++" then AssignOp.add else AssignOp.sub
      pure (.assign written op (.int 1) token.line, rest)
    else do
      let (written, rest) ← clocked fuel .target (token :: after)
      match rest with
      | opToken :: afterOp =>
        if opToken.isOp "++" || opToken.isOp "--" then
          let op := if opToken.isOp "++" then AssignOp.add else AssignOp.sub
          pure (.assign written op (.int 1) token.line, afterOp)
        else
          match assignOperator? opToken with
          | some op => do
            let (value, final) ← clocked fuel .expression afterOp
            pure (.assign written op value token.line, final)
          | none =>
            let shown := opToken.describe
            let text := token.text
            throw (errorAt opToken s!"Expected an assignment, found {shown} after '{text}'")
      | [] =>
        let text := token.text
        throw (errorAt endToken s!"Expected an assignment, found end of input after '{text}'")
  | _, _ + 1, .simpleStatement, [] =>
    throw (errorAt endToken "Expected a statement, found end of input")
  | _, fuel + 1, .arrayElements name acc, token :: after =>
    if token.isOp "," then
      if (peek after).isOp "\x7d" then pure (acc, after)
      else do
        let element ← Clock.answer (arrayElement name after)
        clocked fuel (.arrayElements name (acc.push element.value)) element.rest
    else pure (acc, token :: after)
  | _, _ + 1, .arrayElements _ acc, [] => pure (acc, [])
  | _, fuel + 1, .initializerList name, tokens => do
    let opened ← Clock.answer
      (expectOp "\x7b" s!"to open the initializer list of '{name}'" tokens)
    let (values, beforeClose) ←
      if (peek opened.rest).isOp "\x7d" then pure (#[], opened.rest)
      else do
        let first ← Clock.answer (arrayElement name opened.rest)
        clocked fuel (.arrayElements name #[first.value]) first.rest
    let closed ← Clock.answer
      (expectOp "\x7d" s!"to close the initializer list of '{name}'" beforeClose)
    pure (values.toList, closed.rest)
  | _, fuel + 1, .arrayDeclarator name line, tokens => do
    let (size, afterSize) ← (match tokens with
      | token :: after =>
        if token.isOp "]" then pure (none, token :: after)
        else if token.kind != .number then
          let shown := token.describe
          throw (errorAt token s!"Array size of '{name}' must be an integer literal, found {shown}")
        else do
          let size ← Clock.answer (literalValue token)
          if size ≤ 0 then throw (errorAt token s!"Array size of '{name}' must be positive")
          pure (some size.toNat, after)
      | [] => pure (none, []) : Clock (Option Nat × List Token))
    let closed ← Clock.answer (expectOp "]" s!"in the declaration of '{name}'" afterSize)
    let (values, final) ← (match closed.rest with
      | token :: after =>
        if token.isOp "=" then clocked fuel (.initializerList name) after
        else pure ([], token :: after)
      | [] => pure ([], []) : Clock (List Int × List Token))
    match size with
    | none =>
      if values.isEmpty then
        throw (.compile ⟨s!"Array '{name}' needs a size or a non-empty initializer list", some line⟩)
    | some size =>
      if values.length > size then
        let count := values.length
        throw (.compile ⟨s!"Too many initializers for array '{name}' ({count} > {size})", some line⟩)
    let stmt ← Clock.answer (arrayDeclNode name size values line)
    pure (stmt, final)
  | _, fuel + 1, .declarator, tokens => do
    let nameToken := peek tokens
    if nameToken.isOp "*" then throw (errorAt nameToken "Pointers are not supported")
    let named ← Clock.answer (expectIdent "a variable name" tokens)
    match named.rest with
    | token :: after =>
      if token.isOp "[" then clocked fuel (.arrayDeclarator named.value.text nameToken.line) after
      else if token.isOp "=" then do
        let (value, final) ← clocked fuel .expression after
        pure (.decl named.value.text (some value) nameToken.line, final)
      else pure (.decl named.value.text none nameToken.line, token :: after)
    | [] => pure (.decl named.value.text none nameToken.line, [])
  | _, fuel + 1, .moreDeclarators acc, token :: after =>
    if token.isOp "," then do
      let (stmt, rest) ← clocked fuel .declarator after
      clocked fuel (.moreDeclarators (acc.push stmt)) rest
    else pure (acc, token :: after)
  | _, _ + 1, .moreDeclarators acc, [] => pure (acc, [])
  | _, fuel + 1, .declaration, tokens => do
    let keyword ← Clock.answer (expectKeyword "int" tokens)
    let (first, rest) ← clocked fuel .declarator keyword.rest
    let (stmts, beforeSemi) ← clocked fuel (.moreDeclarators #[first]) rest
    let ended ← Clock.answer (expectOp ";" "after declaration" beforeSemi)
    pure (stmts.toList, ended.rest)
  | _, fuel + 1, .arguments acc, token :: after =>
    if token.isOp "," then do
      let (arg, rest) ← clocked fuel .expression after
      clocked fuel (.arguments (acc.push arg)) rest
    else pure (acc, token :: after)
  | _, _ + 1, .arguments acc, [] => pure (acc, [])
  | _, fuel + 1, .call, nameToken :: after => do
    let name := nameToken.text
    if name != "printf" then
      throw (errorAt nameToken s!"Unsupported function '{name}'; only printf can be called")
    let opened ← Clock.answer (expectOp "(" "after 'printf'" after)
    let formatToken := peek opened.rest
    if formatToken.kind != .string then
      let shown := formatToken.describe
      throw (errorAt formatToken s!"printf needs a string literal format, found {shown}")
    let (format, afterFormat) ← clocked fuel .strings opened.rest
    let (args, beforeClose) ← clocked fuel (.arguments #[]) afterFormat
    let closed ← Clock.answer (expectOp ")" "to close the printf call" beforeClose)
    let ended ← Clock.answer (expectOp ";" "after the printf call" closed.rest)
    pure (.print format args.toList nameToken.line, ended.rest)
  | _, _ + 1, .call, [] =>
    throw (errorAt endToken "Unsupported function ''; only printf can be called")
  | _, fuel + 1, .condition keyword, tokens => do
    let opened ← Clock.answer (expectOp "(" s!"after '{keyword}'" tokens)
    let (expr, beforeClose) ← clocked fuel .expression opened.rest
    let closed ← Clock.answer (expectOp ")" s!"to close the '{keyword}' condition" beforeClose)
    pure (expr, closed.rest)
  | _, fuel + 1, .returnStatement, tokens => do
    let keyword ← Clock.answer (expectKeyword "return" tokens)
    let (value, beforeSemi) ←
      if (peek keyword.rest).isOp ";" then pure (none, keyword.rest)
      else do
        let (expr, rest) ← clocked fuel .expression keyword.rest
        if let .str _ := expr then throw (errorAt keyword.value "main must return an integer")
        pure (some expr, rest)
    let ended ← Clock.answer (expectOp ";" "after 'return'" beforeSemi)
    pure (.ret value keyword.value.line, ended.rest)
  | _, fuel + 1, .forInit, token :: after =>
    if token.isKeyword "int" then do
      let (stmt, rest) ← clocked fuel .declarator after
      let next := peek rest
      if next.isOp "," then
        throw (errorAt next "Only one variable may be declared in a for-loop initializer")
      pure (some stmt, rest)
    else if token.isOp ";" then pure (none, token :: after)
    else do
      let (stmt, rest) ← clocked fuel .simpleStatement (token :: after)
      pure (some stmt, rest)
  | _, _ + 1, .forInit, [] => throw (errorAt endToken "Expected a statement, found end of input")
  | _, fuel + 1, .forHeader, tokens => do
    let (init, afterInit) ← clocked fuel .forInit tokens
    let semi ← Clock.answer (expectOp ";" "after the for-loop initializer" afterInit)
    let (cond, afterCond) ←
      if (peek semi.rest).isOp ";" then pure (none, semi.rest)
      else do
        let (expr, rest) ← clocked fuel .expression semi.rest
        pure (some expr, rest)
    let semi2 ← Clock.answer (expectOp ";" "after the for-loop condition" afterCond)
    let (step, afterStep) ←
      if (peek semi2.rest).isOp ")" then pure (none, semi2.rest)
      else do
        let (stmt, rest) ← clocked fuel .simpleStatement semi2.rest
        pure (some stmt, rest)
    let closed ← Clock.answer (expectOp ")" "to close the for-loop header" afterStep)
    pure ((init, cond, step), closed.rest)
  | _, fuel + 1, .blockItems inLoop, token :: after =>
    if token.isOp "\x7d" then pure ([], after)
    else if token.kind == .eof then throw (errorAt token "Expected '\x7d' before end of input")
    else do
      let (stmts, rest) ← clocked fuel (.statement inLoop) (token :: after)
      let (more, final) ← clocked fuel (.blockItems inLoop) rest
      pure (stmts ++ more, final)
  | _, _ + 1, .blockItems _, [] => throw (errorAt endToken "Expected '\x7d' before end of input")
  | _, fuel + 1, .body inLoop, token :: after =>
    if token.isOp "\x7b" then clocked fuel (.blockItems inLoop) after
    else clocked fuel (.statement inLoop) (token :: after)
  | _, fuel + 1, .body inLoop, [] => clocked fuel (.statement inLoop) []
  | _, fuel + 1, .statement inLoop, token :: after =>
    if token.kind == .keyword then
      match token.text with
      | "int" => clocked fuel .declaration (token :: after)
      | "if" => clocked fuel (.ifStatement inLoop) (token :: after)
      | "for" => clocked fuel .forStatement (token :: after)
      | "while" => clocked fuel .whileStatement (token :: after)
      | "do" => clocked fuel .doStatement (token :: after)
      | "break" => do
        let jumped ← Clock.answer (jump "break" inLoop (token :: after))
        pure ([jumped.value], jumped.rest)
      | "continue" => do
        let jumped ← Clock.answer (jump "continue" inLoop (token :: after))
        pure ([jumped.value], jumped.rest)
      | "return" => do
        let (stmt, rest) ← clocked fuel .returnStatement (token :: after)
        pure ([stmt], rest)
      | word =>
        if refusedTypes.contains word then
          throw (errorAt token s!"Type '{word}' is not supported; only 'int' variables are available")
        else throw (errorAt token (refusedKeyword word))
    else if token.isOp "\x7b" then clocked fuel (.blockItems inLoop) after
    else if token.isOp ";" then pure ([], after)
    else if token.kind == .ident && (peek after).isOp "(" then do
      let (stmt, rest) ← clocked fuel .call (token :: after)
      pure ([stmt], rest)
    else do
      let (stmt, rest) ← clocked fuel .simpleStatement (token :: after)
      let ended ← Clock.answer (expectOp ";" "after statement" rest)
      pure ([stmt], ended.rest)
  | _, _ + 1, .statement _, [] => throw (errorAt endToken "Expected a statement, found end of input")
  | _, fuel + 1, .elseChain inLoop branches, token :: after =>
    if token.isKeyword "else" then
      match after with
      | next :: afterNext =>
        if next.isKeyword "if" then do
          let (cond, afterCond) ← clocked fuel (.condition "else if") afterNext
          let (stmts, afterBody) ← clocked fuel (.body inLoop) afterCond
          clocked fuel (.elseChain inLoop (branches.push (.mk cond stmts))) afterBody
        else do
          let (stmts, final) ← clocked fuel (.body inLoop) (next :: afterNext)
          pure ((branches.toList, stmts), final)
      | [] => do
        let (stmts, final) ← clocked fuel (.body inLoop) []
        pure ((branches.toList, stmts), final)
    else pure ((branches.toList, []), token :: after)
  | _, _ + 1, .elseChain _ branches, [] => pure ((branches.toList, []), [])
  | _, fuel + 1, .ifStatement inLoop, tokens => do
    let keyword ← Clock.answer (expectKeyword "if" tokens)
    let (cond, afterCond) ← clocked fuel (.condition "if") keyword.rest
    let (stmts, afterBody) ← clocked fuel (.body inLoop) afterCond
    let ((branches, elseBody), final) ←
      clocked fuel (.elseChain inLoop #[.mk cond stmts]) afterBody
    let stmt ← Clock.answer (condNode branches elseBody keyword.value.line)
    pure ([stmt], final)
  | _, fuel + 1, .forStatement, tokens => do
    let keyword ← Clock.answer (expectKeyword "for" tokens)
    let opened ← Clock.answer (expectOp "(" "after 'for'" keyword.rest)
    let ((init, cond, step), afterHeader) ← clocked fuel .forHeader opened.rest
    let (stmts, final) ← clocked fuel (.body true) afterHeader
    pure ([.forLoop init cond step stmts keyword.value.line], final)
  | _, fuel + 1, .whileStatement, tokens => do
    let keyword ← Clock.answer (expectKeyword "while" tokens)
    let (cond, afterCond) ← clocked fuel (.condition "while") keyword.rest
    let (stmts, final) ← clocked fuel (.body true) afterCond
    pure ([.whileLoop cond stmts keyword.value.line], final)
  | _, fuel + 1, .doStatement, tokens => do
    let keyword ← Clock.answer (expectKeyword "do" tokens)
    let (stmts, afterBody) ← clocked fuel (.body true) keyword.rest
    let closing ← Clock.answer (expectKeyword "while" afterBody)
    let (cond, afterCond) ← clocked fuel (.condition "while") closing.rest
    let ended ← Clock.answer (expectOp ";" "after do-while" afterCond)
    pure ([.doWhile stmts cond keyword.value.line], ended.rest)
  | _, fuel + 1, .mainFunction, tokens => do
    let keyword ← Clock.answer (expectKeyword "int" tokens)
    let named ← Clock.answer (expectIdent "a function name" keyword.rest)
    if named.value.text != "main" then
      let text := named.value.text
      throw (errorAt named.value s!"Only a single 'main' function is supported, found '{text}'")
    let opened ← Clock.answer (expectOp "(" "after 'main'" named.rest)
    let afterVoid := match opened.rest with
      | token :: after => if token.isKeyword "void" then after else token :: after
      | [] => []
    let closed ← Clock.answer (expectOp ")" "in the parameter list of 'main'" afterVoid)
    let braced ← Clock.answer (expectOp "\x7b" "to open the body of 'main'" closed.rest)
    clocked fuel (.blockItems false) braced.rest
  | _, fuel + 1, .fileScope headers declared, token :: after =>
    if token.kind == .directive then
      match includedHeader? token.text with
      | some header => clocked fuel (.fileScope (headers.push header) declared) after
      | none =>
        let text := token.text
        throw (errorAt token s!"Preprocessor directive not supported: {text}")
    else if token.isKeyword "int" && (peekAt 0 after).kind == .ident &&
        (peekAt 1 after).isOp "(" then do
      let (stmts, final) ← clocked fuel .mainFunction (token :: after)
      pure ((headers, declared ++ stmts.toArray), final)
    else if token.isKeyword "int" then do
      let (stmts, rest) ← clocked fuel .declaration (token :: after)
      clocked fuel (.fileScope headers (declared ++ stmts.toArray)) rest
    else if token.kind == .eof then throw (errorAt token "Missing 'int main()' function")
    else
      let shown := token.describe
      throw (errorAt token s!"Expected a declaration or 'int main()', found {shown}")
  | _, _ + 1, .fileScope .., [] => throw (errorAt endToken "Missing 'int main()' function")

end Reading

/-- Read a whole program with a clock of `fuel` ticks. -/
def clockedProgram (fuel : Nat) (tokens : List Token) : Clock Program := do
  let ((headers, stmts), rest) ← Reading.clocked fuel (.fileScope #[] #[]) tokens
  let token := peek rest
  if token.kind != .eof then
    if (token.isKeyword "int" || token.isKeyword "void") && (peekAt 2 rest).isOp "(" then
      throw (errorAt token "Only a single 'main' function is supported")
    let shown := token.describe
    throw (errorAt token s!"Unexpected {shown} after the end of main")
  pure ⟨headers.toList, stmts.toList⟩

end ClassroomC.Parser
