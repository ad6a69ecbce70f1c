import ClassroomC.Measure
import ClassroomC.Token
import ClassroomC.Error
/-!
# Reading a token list

The parser works on the list of tokens still to read. The list ends with the
end-of-input token, which is never consumed: looking past the end shows that
token again.

Every parsing function returns the tokens it leaves together with a proof
that it did not add any (`Parsed`), or that it consumed at least one
(`Consumed`). Those proofs are what makes the mutually recursive parser
terminate: a call on the same tokens goes to a function of lower rank, and
every other call is on fewer tokens.
-/

namespace ClassroomC.Parser

/-- The token that stands for the end when the list holds nothing else. -/
def endToken : Token := ⟨.eof, "", 0⟩

/-- The token at the front. -/
def peek (tokens : List Token) : Token :=
  tokens.headD endToken

/-- The token `offset` places ahead, or the last one if the list is shorter. -/
def peekAt (offset : Nat) (tokens : List Token) : Token :=
  tokens[offset]?.getD (tokens.getLast?.getD endToken)

/-- A value read from `tokens`, and the tokens after it. -/
structure Parsed (tokens : List Token) (α : Type) where
  value : α
  rest : List Token
  le : rest.length ≤ tokens.length

/-- A value read from `tokens` by consuming at least one of them. -/
structure Consumed (tokens : List Token) (α : Type) where
  value : α
  rest : List Token
  lt : rest.length < tokens.length

/-- A consumed value is also a parsed one. -/
def Consumed.toParsed {tokens : List Token} {α : Type} (result : Consumed tokens α) :
    Parsed tokens α :=
  ⟨result.value, result.rest, Nat.le_of_lt result.lt⟩

/-- The result of parsing nothing. -/
def Parsed.here {α : Type} (tokens : List Token) (value : α) : Parsed tokens α :=
  ⟨value, tokens, Nat.le_refl _⟩

-- The length facts below are cited by name in the parsing functions: a
-- `by simp` in their place is elaborated into an auxiliary lemma, and which
-- earlier one it is shared with depends on what is compiled alongside.

/-- Reading the front token leaves fewer tokens. -/
theorem length_lt_cons (token : Token) (rest : List Token) : rest.length < (token :: rest).length :=
  Nat.lt_succ_self rest.length

/-- Reading the front token, or not, leaves no more tokens. -/
theorem length_le_cons (token : Token) (rest : List Token) : rest.length ≤ (token :: rest).length :=
  Nat.le_succ rest.length

/-- Reading two tokens and then consuming within what follows them leaves
fewer tokens. -/
theorem length_lt_cons_cons {token next : Token} {after rest final : List Token}
    (restLe : rest.length ≤ after.length) (finalLt : final.length < rest.length) :
    final.length < (token :: next :: after).length :=
  Nat.lt_succ_of_lt (Nat.lt_succ_of_lt (Nat.lt_of_lt_of_le finalLt restLe))

/-- A compile error at the line of `token`. -/
def errorAt (token : Token) (message : String) : ParseError :=
  .compile ⟨message, some token.line⟩

/-- `Expected '<op>' <context>, found <token>`. -/
def expectedOp (op context : String) (found : Token) : ParseError :=
  let place := if context.isEmpty then "" else " " ++ context
  let shown := found.describe
  errorAt found s!"Expected '{op}'{place}, found {shown}"

/-- Consume the operator `op`, or report what stands in its place. -/
def expectOp (op context : String) (tokens : List Token) :
    Except ParseError (Consumed tokens Unit) :=
  match tokens with
  | token :: rest =>
    if token.isOp op then .ok ⟨(), rest, by simp⟩ else .error (expectedOp op context token)
  | [] => .error (expectedOp op context endToken)

/-- Consume the keyword `word`, or report what stands in its place. -/
def expectKeyword (word : String) (tokens : List Token) :
    Except ParseError (Consumed tokens Token) :=
  match tokens with
  | token :: rest =>
    if token.isKeyword word then .ok ⟨token, rest, by simp⟩
    else
      let shown := token.describe
      .error (errorAt token s!"Expected '{word}', found {shown}")
  | [] => .error (errorAt endToken s!"Expected '{word}', found end of input")

/-- Consume an identifier, or report what stands in its place as not being
`what`. -/
def expectIdent (what : String) (tokens : List Token) :
    Except ParseError (Consumed tokens Token) :=
  match tokens with
  | token :: rest =>
    if token.kind == .ident then .ok ⟨token, rest, by simp⟩
    else
      let shown := token.describe
      .error (errorAt token s!"Expected {what}, found {shown}")
  | [] => .error (errorAt endToken s!"Expected {what}, found end of input")

/-- Join the adjacent string tokens at the front, each without its quotes. -/
def strings (tokens : List Token) : String × Parsed tokens Unit :=
  match tokens with
  | token :: rest =>
    if token.kind == .string then
      let (text, after) := strings rest
      let inner := String.ofList (token.text.toList.drop 1).dropLast
      (inner ++ text, ⟨(), after.rest, by have := after.le; simp; omega⟩)
    else ("", Parsed.here (token :: rest) ())
  | [] => ("", Parsed.here [] ())

end ClassroomC.Parser
