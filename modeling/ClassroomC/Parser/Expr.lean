import ClassroomC.Parser.Cursor
import ClassroomC.Syntax
import ClassroomC.Literal
/-!
# Parsing expressions

Binary operators are read by precedence climbing over six levels, loosest
first: `||`; `&&`; `==` and `!=`; the comparisons; `+` and `-`; `*`, `/` and
`%`. Every binary operator is left-associative: the right operand of an
operator only takes operators that bind tighter. Unary `-`, `+` and `!` may
repeat; a minus applied directly to an integer literal is folded into the
literal. Operands are literals, variables, array elements `a[i]` and
parenthesised expressions.

Operators of C that the language leaves out are refused with a message that
says so, wherever an operand or the end of an expression is expected.
-/

namespace ClassroomC.Parser

/-- The binary operator a token stands for, with its precedence (higher binds
tighter). -/
def binaryOperator? (token : Token) : Option (BinOp × Nat) :=
  if token.kind != .op then none
  else
    match token.text with
    | "||" => some (.or, 1)
    | "&&" => some (.and, 2)
    | "==" => some (.eq, 3)
    | "!=" => some (.ne, 3)
    | "<" => some (.lt, 4)
    | "<=" => some (.le, 4)
    | ">" => some (.gt, 4)
    | ">=" => some (.ge, 4)
    | "+" => some (.add, 5)
    | "-" => some (.sub, 5)
    | "*" => some (.mul, 6)
    | "/" => some (.div, 6)
    | "%" => some (.mod, 6)
    | _ => none

/-- The unary operator a token stands for. -/
def unaryOperator? (token : Token) : Option UnOp :=
  if token.kind != .op then none
  else
    match token.text with
    | "-" => some .neg
    | "+" => some .pos
    | "!" => some .not
    | _ => none

/-- Why an operator of C that the language leaves out is refused. -/
def refusedOperator? : String → Option String
  | "&" => some "Bitwise and address-of '&' is not supported"
  | "|" => some "Bitwise '|' is not supported; use '||' for logical OR"
  | "^" => some "Bitwise '^' is not supported"
  | "~" => some "Bitwise '~' is not supported; use '!' for logical NOT"
  | "?" => some "The conditional operator '?:' is not supported; use if/else"
  | "." => some "Member access '.' is not supported"
  | "++" => some "'++' is only supported as a statement (e.g. 'i++;')"
  | "--" => some "'--' is only supported as a statement (e.g. 'i--;')"
  | "=" | "+=" | "-=" | "*=" | "/=" | "%=" => some "Assignment is not allowed inside an expression"
  | _ => none

/-- The operators refused right after a complete expression. -/
def refusedAfterExpression : List String :=
  ["++", "--", "=", "?", "&", "|", "^", "."]

/-- The value of a number or character token. -/
def literalValue (token : Token) : Except ParseError Int :=
  let decoded :=
    if token.kind == .char then (Literal.ofChar token.text).map fun code => (code : Int)
    else Literal.ofInt token.text
  match decoded with
  | .ok value => .ok value
  | .error error => .error (error.toParseError (some token.line))

/-- Apply a unary operator, folding a minus into an integer literal. -/
def applyUnary (op : UnOp) (operand : Expr) : Expr :=
  match op, operand with
  | .neg, .int value => .int (-value)
  | _, _ => .unary op operand

mutual

/-- An expression, refusing an excluded operator right after it. -/
def expression (tokens : List Token) : Except ParseError (Parsed tokens Expr) := do
  let ⟨expr, rest, restLe⟩ ← binary 1 tokens
  let next := peek rest
  if next.kind == .op && refusedAfterExpression.contains next.text then
    match refusedOperator? next.text with
    | some message => throw (errorAt next message)
    | none => pure ⟨expr, rest, restLe⟩
  else pure ⟨expr, rest, restLe⟩
termination_by (tokens.length, 4)
decreasing_by
  all_goals
    try simp only [List.length_cons] at *
    apply Measure.lex_lt
    omega

/-- An operand followed by operators of precedence at least `least`. -/
def binary (least : Nat) (tokens : List Token) : Except ParseError (Parsed tokens Expr) := do
  let ⟨left, rest, restLe⟩ ← unary tokens
  let ⟨expr, after, afterLe⟩ ← binaryTail least left rest
  pure ⟨expr, after, Nat.le_trans afterLe restLe⟩
termination_by (tokens.length, 3)
decreasing_by
  all_goals
    try simp only [List.length_cons] at *
    apply Measure.lex_lt
    omega

/-- The operators of precedence at least `least` after the operand `left`,
applied from the left. -/
def binaryTail (least : Nat) (left : Expr) (tokens : List Token) :
    Except ParseError (Parsed tokens Expr) :=
  match tokens with
  | token :: after =>
    match binaryOperator? token with
    | some (op, precedence) =>
      if precedence < least then pure (Parsed.here (token :: after) left)
      else do
        let ⟨right, rest, restLe⟩ ← binary (precedence + 1) after
        let ⟨expr, final, finalLe⟩ ← binaryTail least (.binary op left right) rest
        pure ⟨expr, final, by simp only [List.length_cons]; omega⟩
    | none => pure (Parsed.here (token :: after) left)
  | [] => pure (Parsed.here [] left)
termination_by (tokens.length, 2)
decreasing_by
  all_goals
    try simp only [List.length_cons] at *
    apply Measure.lex_lt
    omega

/-- Unary operators, then an operand. -/
def unary (tokens : List Token) : Except ParseError (Parsed tokens Expr) :=
  match tokens with
  | token :: after =>
    match unaryOperator? token with
    | some op => do
      let ⟨operand, rest, restLe⟩ ← unary after
      pure ⟨applyUnary op operand, rest, by simp only [List.length_cons]; omega⟩
    | none => primary (token :: after)
  | [] => primary []
termination_by (tokens.length, 1)
decreasing_by
  all_goals
    try simp only [List.length_cons] at *
    apply Measure.lex_lt
    omega

/-- A literal, a variable, an array element or a parenthesised expression. -/
def primary (tokens : List Token) : Except ParseError (Parsed tokens Expr) :=
  match tokens with
  | token :: after =>
    match token.kind with
    | .number | .char => do
      let value ← literalValue token
      pure ⟨.int value, after, by simp⟩
    | .string =>
      let (text, rest) := strings (token :: after)
      pure ⟨.str text, rest.rest, rest.le⟩
    | .ident =>
      match after with
      | next :: afterNext =>
        if next.isOp "(" then
          let name := token.text
          throw (errorAt token s!"Function calls are not supported in expressions: '{name}()'")
        else if next.isOp "[" then do
          let ⟨index, rest, restLe⟩ ← expression afterNext
          let name := token.text
          let ⟨(), final, finalLt⟩ ← expectOp "]" s!"to close the index of '{name}'" rest
          pure ⟨.index token.text index, final, by simp only [List.length_cons]; omega⟩
        else pure ⟨.var token.text, next :: afterNext, by simp⟩
      | [] => pure ⟨.var token.text, [], by simp⟩
    | _ =>
      if token.isOp "(" then do
        let ⟨expr, rest, restLe⟩ ← expression after
        let ⟨(), final, finalLt⟩ ← expectOp ")" "to close the parenthesised expression" rest
        pure ⟨expr, final, by simp only [List.length_cons]; omega⟩
      else
        match (if token.kind == .op then refusedOperator? token.text else none) with
        | some message => throw (errorAt token message)
        | none =>
          let shown := token.describe
          throw (errorAt token s!"Expected an expression, found {shown}")
  | [] => throw (errorAt endToken "Expected an expression, found end of input")
termination_by (tokens.length, 0)
decreasing_by
  all_goals
    try simp only [List.length_cons] at *
    apply Measure.lex_lt
    omega

end

end ClassroomC.Parser
