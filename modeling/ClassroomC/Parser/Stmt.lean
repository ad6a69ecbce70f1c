import ClassroomC.Parser.Expr
/-!
# Parsing statements

Statements are declarations (`int` with one or more declarators, arrays
included), assignments and compound assignments, `++` and `--` in prefix or
postfix form, `printf` calls, `if` chains, `for`, `while` and `do` loops,
`break`, `continue` and `return`. A braced block is flattened into the
enclosing body, and an empty statement `;` yields nothing: the language has
one scope.

`break` and `continue` are accepted only inside a loop body. The parser
carries whether it is inside one; a loop's header is read outside it and its
body inside it.
-/

namespace ClassroomC.Parser

/-- The types of C that the language refuses by name. -/
def refusedTypes : List String :=
  ["char", "float", "double", "long", "short", "unsigned", "signed", "void", "const", "static"]

/-- Why another keyword cannot start a statement. -/
def refusedKeyword (word : String) : String :=
  match word with
  | "struct" => "structs are not supported"
  | "switch" => "switch statements are not supported; use if/else if/else"
  | "case" => "'case' outside of a switch is not supported"
  | "default" => "'default' outside of a switch is not supported"
  | "goto" => "goto is not supported"
  | "else" => "'else' without a matching 'if'"
  | _ => s!"Unsupported keyword '{word}'"

/-- The assignment operator a token stands for. -/
def assignOperator? (token : Token) : Option AssignOp :=
  if token.kind != .op then none
  else
    match token.text with
    | "=" => some .set
    | "+=" => some .add
    | "-=" => some .sub
    | "*=" => some .mul
    | "/=" => some .div
    | "%=" => some .mod
    | _ => none

/-- The target of an assignment: a variable or an array element. -/
def target (tokens : List Token) : Except ParseError (Consumed tokens Target) :=
  match tokens with
  | token :: after =>
    if token.kind != .ident then
      if token.isKeyword "int" then throw (errorAt token "Declarations are not allowed here")
      else
        let shown := token.describe
        throw (errorAt token s!"Expected a statement, found {shown}")
    else
      match after with
      | next :: afterNext =>
        if next.isOp "[" then do
          let ⟨index, rest, restLe⟩ ← expression afterNext
          let name := token.text
          let ⟨(), final, finalLt⟩ ← expectOp "]" s!"to close the index of '{name}'" rest
          pure ⟨.index token.text index, final, length_lt_cons_cons restLe finalLt⟩
        else pure ⟨.var token.text, next :: afterNext, length_lt_cons token (next :: afterNext)⟩
      | [] => pure ⟨.var token.text, [], length_lt_cons token []⟩
  | [] => throw (errorAt endToken "Expected a statement, found end of input")

/-- An assignment, a compound assignment, or `++`/`--` in either position,
without the closing semicolon. -/
def simpleStatement (tokens : List Token) : Except ParseError (Consumed tokens Stmt) :=
  match tokens with
  | token :: after =>
    if token.isOp "++" || token.isOp "--" then do
      let ⟨written, rest, restLt⟩ ← target after
      let op := if token.isOp "++" then AssignOp.add else AssignOp.sub
      pure ⟨.assign written op (.int 1) token.line, rest, by
        simp only [List.length_cons] at restLt ⊢; omega⟩
    else do
      let ⟨written, rest, restLt⟩ ← target (token :: after)
      match rest, restLt with
      | opToken :: afterOp, restLt =>
        if opToken.isOp "++" || opToken.isOp "--" then
          let op := if opToken.isOp "++" then AssignOp.add else AssignOp.sub
          pure ⟨.assign written op (.int 1) token.line, afterOp, by
            simp only [List.length_cons] at restLt ⊢; omega⟩
        else
          match assignOperator? opToken with
          | some op => do
            let ⟨value, final, finalLe⟩ ← expression afterOp
            pure ⟨.assign written op value token.line, final, by
              simp only [List.length_cons] at restLt finalLe ⊢; omega⟩
          | none =>
            let shown := opToken.describe
            let text := token.text
            throw (errorAt opToken s!"Expected an assignment, found {shown} after '{text}'")
      | [], _ =>
        let text := token.text
        throw (errorAt endToken s!"Expected an assignment, found end of input after '{text}'")
  | [] => do
    let ⟨_, _, impossible⟩ ← target []
    nomatch impossible

/-- The declaration of the array `name`, built as a syntax tree node is
built: the node checks itself (`arrayDeclProblem?`), and a node that fails
its check is refused by the host. -/
def arrayDeclNode (name : String) (size : Option Nat) (values : List Int) (line : Nat) :
    Except ParseError Stmt :=
  match arrayDeclProblem? name size values with
  | some problem => throw (.host (.validation "ArrayDeclaration" problem))
  | none => pure (.arrayDecl name size values line)

/-- The `if` chain of `branches`, built as a syntax tree node is built. -/
def condNode (branches : List Branch) (elseBody : List Stmt) (line : Nat) :
    Except ParseError Stmt :=
  match condProblem? branches with
  | some problem => throw (.host (.validation "Conditional" problem))
  | none => pure (.cond branches elseBody line)

/-- A number or character literal, negated if `negative`. -/
def literalElement (name : String) (negative : Bool) (tokens : List Token) :
    Except ParseError (Consumed tokens Int) :=
  match tokens with
  | token :: after =>
    if token.kind == .number || token.kind == .char then do
      let value ← literalValue token
      pure ⟨if negative then -value else value, after, length_lt_cons token after⟩
    else
      let shown := token.describe
      throw (errorAt token s!"Elements of array '{name}' must be integer literals, found {shown}")
  | [] => throw (errorAt endToken s!"Elements of array '{name}' must be integer literals, found end of input")

/-- One element of an initializer list: a number or character literal,
optionally negated. -/
def arrayElement (name : String) (tokens : List Token) : Except ParseError (Consumed tokens Int) :=
  match tokens with
  | token :: after =>
    if token.isOp "-" then do
      let ⟨value, rest, restLt⟩ ← literalElement name true after
      pure ⟨value, rest, by simp only [List.length_cons]; omega⟩
    else literalElement name false (token :: after)
  | [] => literalElement name false []

/-- The elements after a comma of an initializer list, up to its closing
brace: a comma right before the brace is allowed. -/
def arrayElements (name : String) (acc : Array Int) (tokens : List Token) :
    Except ParseError (Parsed tokens (Array Int)) :=
  match tokens with
  | token :: after =>
    if token.isOp "," then
      if (peek after).isOp "\x7d" then pure ⟨acc, after, by simp⟩
      else do
        let ⟨value, rest, restLt⟩ ← arrayElement name after
        let ⟨values, final, finalLe⟩ ← arrayElements name (acc.push value) rest
        pure ⟨values, final, by simp only [List.length_cons]; omega⟩
    else pure (Parsed.here (token :: after) acc)
  | [] => pure (Parsed.here [] acc)
termination_by tokens.length
decreasing_by simp only [List.length_cons]; omega

/-- The initializer list `{...}` of array `name`, after its `=`. -/
def initializerList (name : String) (tokens : List Token) :
    Except ParseError (Consumed tokens (List Int)) := do
  let ⟨(), afterOpen, openLt⟩ ← expectOp "\x7b" s!"to open the initializer list of '{name}'" tokens
  let ⟨values, beforeClose, closeLe⟩ ←
    if (peek afterOpen).isOp "\x7d" then pure (Parsed.here afterOpen #[])
    else do
      let ⟨first, rest, restLt⟩ ← arrayElement name afterOpen
      let ⟨values, final, finalLe⟩ ← arrayElements name #[first] rest
      pure (⟨values, final, by omega⟩ : Parsed afterOpen (Array Int))
  let ⟨(), final, finalLt⟩ ← expectOp "\x7d" s!"to close the initializer list of '{name}'" beforeClose
  pure ⟨values.toList, final, by omega⟩

/-- The rest of an array declarator after its `[`: the size, the closing
bracket and an optional initializer list. The declarator starts on `line`. -/
def arrayDeclarator (name : String) (line : Nat) (tokens : List Token) :
    Except ParseError (Consumed tokens Stmt) := do
  let ⟨size, afterSize, sizeLe⟩ ← (match tokens with
    | token :: after =>
      if token.isOp "]" then pure (Parsed.here (token :: after) none)
      else if token.kind != .number then
        let shown := token.describe
        throw (errorAt token s!"Array size of '{name}' must be an integer literal, found {shown}")
      else do
        let size ← literalValue token
        if size ≤ 0 then throw (errorAt token s!"Array size of '{name}' must be positive")
        pure (⟨some size.toNat, after, by simp⟩ : Parsed (token :: after) (Option Nat))
    | [] => pure (Parsed.here [] none) : Except ParseError (Parsed tokens (Option Nat)))
  let ⟨(), afterClose, closeLt⟩ ← expectOp "]" s!"in the declaration of '{name}'" afterSize
  let ⟨values, final, finalLe⟩ ← (match afterClose with
    | token :: after =>
      if token.isOp "=" then do
        let ⟨values, rest, restLt⟩ ← initializerList name after
        pure ⟨values, rest, by simp only [List.length_cons]; omega⟩
      else pure (Parsed.here (token :: after) [])
    | [] => pure (Parsed.here [] []) : Except ParseError (Parsed afterClose (List Int)))
  match size with
  | none =>
    if values.isEmpty then
      throw (.compile ⟨s!"Array '{name}' needs a size or a non-empty initializer list", some line⟩)
  | some size =>
    if values.length > size then
      let count := values.length
      throw (.compile ⟨s!"Too many initializers for array '{name}' ({count} > {size})", some line⟩)
  let stmt ← arrayDeclNode name size values line
  pure ⟨stmt, final, by omega⟩

/-- One declarator: a name, an optional array part, an optional
initializer. -/
def declarator (tokens : List Token) : Except ParseError (Consumed tokens Stmt) := do
  let nameToken := peek tokens
  if nameToken.isOp "*" then throw (errorAt nameToken "Pointers are not supported")
  let ⟨name, rest, restLt⟩ ← expectIdent "a variable name" tokens
  match rest, restLt with
  | token :: after, restLt =>
    if token.isOp "[" then do
      let ⟨stmt, final, finalLt⟩ ← arrayDeclarator name.text nameToken.line after
      pure ⟨stmt, final, by simp only [List.length_cons] at restLt; omega⟩
    else if token.isOp "=" then do
      let ⟨value, final, finalLe⟩ ← expression after
      pure ⟨.decl name.text (some value) nameToken.line, final, by
        simp only [List.length_cons] at restLt; omega⟩
    else pure ⟨.decl name.text none nameToken.line, token :: after, restLt⟩
  | [], restLt => pure ⟨.decl name.text none nameToken.line, [], restLt⟩

/-- The declarators after the first, each after a comma. -/
def moreDeclarators (acc : Array Stmt) (tokens : List Token) :
    Except ParseError (Parsed tokens (Array Stmt)) :=
  match tokens with
  | token :: after =>
    if token.isOp "," then do
      let ⟨stmt, rest, restLt⟩ ← declarator after
      let ⟨stmts, final, finalLe⟩ ← moreDeclarators (acc.push stmt) rest
      pure ⟨stmts, final, by simp only [List.length_cons]; omega⟩
    else pure (Parsed.here (token :: after) acc)
  | [] => pure (Parsed.here [] acc)
termination_by tokens.length
decreasing_by simp only [List.length_cons]; omega

/-- A declaration: `int`, declarators separated by commas, a semicolon. -/
def declaration (tokens : List Token) : Except ParseError (Consumed tokens (List Stmt)) := do
  let ⟨_, afterInt, intLt⟩ ← expectKeyword "int" tokens
  let ⟨first, rest, restLt⟩ ← declarator afterInt
  let ⟨stmts, beforeSemi, semiLe⟩ ← moreDeclarators #[first] rest
  let ⟨(), final, finalLt⟩ ← expectOp ";" "after declaration" beforeSemi
  pure ⟨stmts.toList, final, by omega⟩

/-- The arguments after the format, each after a comma. -/
def arguments (acc : Array Expr) (tokens : List Token) :
    Except ParseError (Parsed tokens (Array Expr)) :=
  match tokens with
  | token :: after =>
    if token.isOp "," then do
      let ⟨arg, rest, restLe⟩ ← expression after
      let ⟨args, final, finalLe⟩ ← arguments (acc.push arg) rest
      pure ⟨args, final, by simp only [List.length_cons]; omega⟩
    else pure (Parsed.here (token :: after) acc)
  | [] => pure (Parsed.here [] acc)
termination_by tokens.length
decreasing_by simp only [List.length_cons]; omega

/-- A call statement; only `printf` with a literal format may be called. -/
def call (tokens : List Token) : Except ParseError (Consumed tokens Stmt) :=
  match tokens with
  | nameToken :: after => do
    let name := nameToken.text
    if name != "printf" then
      throw (errorAt nameToken s!"Unsupported function '{name}'; only printf can be called")
    let ⟨(), afterOpen, openLt⟩ ← expectOp "(" "after 'printf'" after
    let formatToken := peek afterOpen
    if formatToken.kind != .string then
      let shown := formatToken.describe
      throw (errorAt formatToken s!"printf needs a string literal format, found {shown}")
    let (format, afterFormat) := strings afterOpen
    let ⟨args, beforeClose, argsLe⟩ ← arguments #[] afterFormat.rest
    let ⟨(), beforeSemi, closeLt⟩ ← expectOp ")" "to close the printf call" beforeClose
    let ⟨(), final, semiLt⟩ ← expectOp ";" "after the printf call" beforeSemi
    have formatLe := afterFormat.le
    pure ⟨.print format args.toList nameToken.line, final, by
      simp only [List.length_cons]; omega⟩
  | [] => throw (errorAt endToken "Unsupported function ''; only printf can be called")

/-- A parenthesised condition after `keyword`. -/
def condition (keyword : String) (tokens : List Token) : Except ParseError (Consumed tokens Expr) := do
  let ⟨(), afterOpen, openLt⟩ ← expectOp "(" s!"after '{keyword}'" tokens
  let ⟨expr, beforeClose, exprLe⟩ ← expression afterOpen
  let ⟨(), final, closeLt⟩ ← expectOp ")" s!"to close the '{keyword}' condition" beforeClose
  pure ⟨expr, final, by omega⟩

/-- `return`, with an optional integer value. -/
def returnStatement (tokens : List Token) : Except ParseError (Consumed tokens Stmt) := do
  let ⟨keyword, afterKeyword, keywordLt⟩ ← expectKeyword "return" tokens
  let ⟨value, beforeSemi, valueLe⟩ ←
    if (peek afterKeyword).isOp ";" then pure (Parsed.here afterKeyword none)
    else do
      let ⟨expr, rest, restLe⟩ ← expression afterKeyword
      if let .str _ := expr then throw (errorAt keyword "main must return an integer")
      pure (⟨some expr, rest, restLe⟩ : Parsed afterKeyword (Option Expr))
  let ⟨(), final, semiLt⟩ ← expectOp ";" "after 'return'" beforeSemi
  pure ⟨.ret value keyword.line, final, by omega⟩

/-- `break` or `continue`, accepted only inside a loop body. -/
def jump (word : String) (inLoop : Bool) (tokens : List Token) :
    Except ParseError (Consumed tokens Stmt) := do
  let ⟨keyword, afterKeyword, keywordLt⟩ ← expectKeyword word tokens
  if !inLoop then throw (errorAt keyword s!"'{word}' outside of a loop")
  let ⟨(), final, semiLt⟩ ← expectOp ";" s!"after '{word}'" afterKeyword
  let stmt := if word == "break" then Stmt.breakLoop keyword.line else Stmt.continueLoop keyword.line
  pure ⟨stmt, final, by omega⟩

/-- The initializer of a `for` header: one declarator after `int`, a simple
statement, or nothing. -/
def forInit (tokens : List Token) : Except ParseError (Parsed tokens (Option Stmt)) :=
  match tokens with
  | token :: after =>
    if token.isKeyword "int" then do
      let ⟨stmt, rest, restLt⟩ ← declarator after
      let next := peek rest
      if next.isOp "," then
        throw (errorAt next "Only one variable may be declared in a for-loop initializer")
      pure ⟨some stmt, rest, by simp only [List.length_cons]; omega⟩
    else if token.isOp ";" then pure (Parsed.here (token :: after) none)
    else do
      let ⟨stmt, rest, restLt⟩ ← simpleStatement (token :: after)
      pure ⟨some stmt, rest, by omega⟩
  | [] => do
    let ⟨_, _, impossible⟩ ← simpleStatement []
    nomatch impossible

/-- The header of a `for` loop after its `(`, up to and including its `)`. -/
def forHeader (tokens : List Token) :
    Except ParseError (Consumed tokens (Option Stmt × Option Expr × Option Stmt)) := do
  let ⟨init, afterInit, initLe⟩ ← forInit tokens
  let ⟨(), afterSemi, semiLt⟩ ← expectOp ";" "after the for-loop initializer" afterInit
  let ⟨cond, afterCond, condLe⟩ ←
    if (peek afterSemi).isOp ";" then pure (Parsed.here afterSemi none)
    else do
      let ⟨expr, rest, restLe⟩ ← expression afterSemi
      pure (⟨some expr, rest, restLe⟩ : Parsed afterSemi (Option Expr))
  let ⟨(), afterSemi2, semi2Lt⟩ ← expectOp ";" "after the for-loop condition" afterCond
  let ⟨step, afterStep, stepLe⟩ ←
    if (peek afterSemi2).isOp ")" then pure (Parsed.here afterSemi2 none)
    else do
      let ⟨stmt, rest, restLt⟩ ← simpleStatement afterSemi2
      pure (⟨some stmt, rest, Nat.le_of_lt restLt⟩ : Parsed afterSemi2 (Option Stmt))
  let ⟨(), final, closeLt⟩ ← expectOp ")" "to close the for-loop header" afterStep
  pure ⟨(init, cond, step), final, by omega⟩

mutual

/-- The statements of a block up to and including its closing brace. -/
def blockItems (inLoop : Bool) (tokens : List Token) :
    Except ParseError (Parsed tokens (List Stmt)) :=
  match tokens with
  | token :: after =>
    if token.isOp "\x7d" then pure ⟨[], after, by simp⟩
    else if token.kind == .eof then throw (errorAt token "Expected '\x7d' before end of input")
    else do
      let ⟨stmts, rest, restLt⟩ ← statement inLoop (token :: after)
      let ⟨more, final, finalLe⟩ ← blockItems inLoop rest
      pure ⟨stmts ++ more, final, by omega⟩
  | [] => throw (errorAt endToken "Expected '\x7d' before end of input")
termination_by (tokens.length, 2)
decreasing_by
  all_goals
    try simp only [List.length_cons] at *
    apply Measure.lex_lt
    omega

/-- The body of a branch or loop: a braced block or a single statement. -/
def body (inLoop : Bool) (tokens : List Token) :
    Except ParseError (Consumed tokens (List Stmt)) :=
  match tokens with
  | token :: after =>
    if token.isOp "\x7b" then do
      let ⟨stmts, rest, restLe⟩ ← blockItems inLoop after
      pure ⟨stmts, rest, by simp only [List.length_cons]; omega⟩
    else statement inLoop (token :: after)
  | [] => statement inLoop []
termination_by (tokens.length, 2)
decreasing_by
  all_goals
    try simp only [List.length_cons] at *
    apply Measure.lex_lt
    omega

/-- One statement; a declaration with several declarators yields several,
a block its statements, an empty statement none. -/
def statement (inLoop : Bool) (tokens : List Token) :
    Except ParseError (Consumed tokens (List Stmt)) :=
  match tokens with
  | token :: after =>
    if token.kind == .keyword then
      match token.text with
      | "int" => declaration (token :: after)
      | "if" => ifStatement inLoop (token :: after)
      | "for" => forStatement (token :: after)
      | "while" => whileStatement (token :: after)
      | "do" => doStatement (token :: after)
      | "break" => do
        let ⟨stmt, rest, restLt⟩ ← jump "break" inLoop (token :: after)
        pure ⟨[stmt], rest, restLt⟩
      | "continue" => do
        let ⟨stmt, rest, restLt⟩ ← jump "continue" inLoop (token :: after)
        pure ⟨[stmt], rest, restLt⟩
      | "return" => do
        let ⟨stmt, rest, restLt⟩ ← returnStatement (token :: after)
        pure ⟨[stmt], rest, restLt⟩
      | word =>
        if refusedTypes.contains word then
          throw (errorAt token s!"Type '{word}' is not supported; only 'int' variables are available")
        else throw (errorAt token (refusedKeyword word))
    else if token.isOp "\x7b" then do
      let ⟨stmts, rest, restLe⟩ ← blockItems inLoop after
      pure ⟨stmts, rest, by simp only [List.length_cons]; omega⟩
    else if token.isOp ";" then pure ⟨[], after, by simp⟩
    else if token.kind == .ident && (peek after).isOp "(" then do
      let ⟨stmt, rest, restLt⟩ ← call (token :: after)
      pure ⟨[stmt], rest, restLt⟩
    else do
      let ⟨stmt, rest, restLt⟩ ← simpleStatement (token :: after)
      let ⟨(), final, finalLt⟩ ← expectOp ";" "after statement" rest
      pure ⟨[stmt], final, by omega⟩
  | [] => do
    let ⟨_, _, impossible⟩ ← simpleStatement []
    nomatch impossible
termination_by (tokens.length, 1)
decreasing_by
  all_goals
    try simp only [List.length_cons] at *
    apply Measure.lex_lt
    omega

/-- The `else if` and `else` parts of an `if` chain after the branches
`branches`. -/
def elseChain (inLoop : Bool) (branches : Array Branch) (tokens : List Token) :
    Except ParseError (Parsed tokens (List Branch × List Stmt)) :=
  match tokens with
  | token :: after =>
    if token.isKeyword "else" then
      match after with
      | next :: afterNext =>
        if next.isKeyword "if" then do
          let ⟨cond, afterCond, condLt⟩ ← condition "else if" afterNext
          let ⟨stmts, afterBody, bodyLt⟩ ← body inLoop afterCond
          let ⟨chain, final, finalLe⟩ ← elseChain inLoop (branches.push (.mk cond stmts)) afterBody
          pure ⟨chain, final, by simp only [List.length_cons]; omega⟩
        else do
          let ⟨stmts, final, finalLt⟩ ← body inLoop (next :: afterNext)
          pure ⟨(branches.toList, stmts), final, by simp only [List.length_cons] at *; omega⟩
      | [] => do
        let ⟨stmts, final, finalLt⟩ ← body inLoop []
        pure ⟨(branches.toList, stmts), final, by simp only [List.length_cons] at *; omega⟩
    else pure (Parsed.here (token :: after) (branches.toList, []))
  | [] => pure (Parsed.here [] (branches.toList, []))
termination_by (tokens.length, 0)
decreasing_by
  all_goals
    try simp only [List.length_cons] at *
    apply Measure.lex_lt
    omega

/-- An `if` statement with its `else if` and `else` parts. -/
def ifStatement (inLoop : Bool) (tokens : List Token) :
    Except ParseError (Consumed tokens (List Stmt)) := do
  let ⟨keyword, afterKeyword, keywordLt⟩ ← expectKeyword "if" tokens
  let ⟨cond, afterCond, condLt⟩ ← condition "if" afterKeyword
  let ⟨stmts, afterBody, bodyLt⟩ ← body inLoop afterCond
  let ⟨(branches, elseBody), final, finalLe⟩ ← elseChain inLoop #[.mk cond stmts] afterBody
  let stmt ← condNode branches elseBody keyword.line
  pure ⟨[stmt], final, by omega⟩
termination_by (tokens.length, 0)
decreasing_by
  all_goals
    try simp only [List.length_cons] at *
    apply Measure.lex_lt
    omega

/-- A `for` loop. -/
def forStatement (tokens : List Token) : Except ParseError (Consumed tokens (List Stmt)) := do
  let ⟨keyword, afterKeyword, keywordLt⟩ ← expectKeyword "for" tokens
  let ⟨(), afterOpen, openLt⟩ ← expectOp "(" "after 'for'" afterKeyword
  let ⟨(init, cond, step), afterHeader, headerLt⟩ ← forHeader afterOpen
  let ⟨stmts, final, bodyLt⟩ ← body true afterHeader
  pure ⟨[.forLoop init cond step stmts keyword.line], final, by omega⟩
termination_by (tokens.length, 0)
decreasing_by
  all_goals
    try simp only [List.length_cons] at *
    apply Measure.lex_lt
    omega

/-- A `while` loop. -/
def whileStatement (tokens : List Token) : Except ParseError (Consumed tokens (List Stmt)) := do
  let ⟨keyword, afterKeyword, keywordLt⟩ ← expectKeyword "while" tokens
  let ⟨cond, afterCond, condLt⟩ ← condition "while" afterKeyword
  let ⟨stmts, final, bodyLt⟩ ← body true afterCond
  pure ⟨[.whileLoop cond stmts keyword.line], final, by omega⟩
termination_by (tokens.length, 0)
decreasing_by
  all_goals
    try simp only [List.length_cons] at *
    apply Measure.lex_lt
    omega

/-- A `do` ... `while` loop. -/
def doStatement (tokens : List Token) : Except ParseError (Consumed tokens (List Stmt)) := do
  let ⟨keyword, afterKeyword, keywordLt⟩ ← expectKeyword "do" tokens
  let ⟨stmts, afterBody, bodyLt⟩ ← body true afterKeyword
  let ⟨_, afterWhile, whileLt⟩ ← expectKeyword "while" afterBody
  let ⟨cond, afterCond, condLt⟩ ← condition "while" afterWhile
  let ⟨(), final, semiLt⟩ ← expectOp ";" "after do-while" afterCond
  pure ⟨[.doWhile stmts cond keyword.line], final, by omega⟩
termination_by (tokens.length, 0)
decreasing_by
  all_goals
    try simp only [List.length_cons] at *
    apply Measure.lex_lt
    omega

end

end ClassroomC.Parser
