import ClassroomC.Parser.Stmt
import ClassroomC.Lexer
import ClassroomC.Unicode.Space
/-!
# Parsing a program

A program is a sequence of `#include` lines and file-scope declarations, then
`int main()` (or `int main(void)`) with its body, and nothing after it. The
file-scope declarations come first in the program's statements, followed by
the statements of `main`.

An include line is `#`, the word `include`, and a header name between `<` or
`"` and `>` or `"`, with blanks allowed around the parts; every other
preprocessor line is refused.
-/

namespace ClassroomC.Parser

/-- Drop blank characters at both ends. -/
def trimSpace (cs : List Char) : List Char :=
  ((cs.dropWhile Unicode.isSpace).reverse.dropWhile Unicode.isSpace).reverse

/-- The header named by an include line, if the line is one. -/
def includedHeader? (text : String) : Option String :=
  match text.toList with
  | '#' :: rest =>
    match (rest.dropWhile Unicode.isSpace) with
    | 'i' :: 'n' :: 'c' :: 'l' :: 'u' :: 'd' :: 'e' :: afterWord =>
      match afterWord.dropWhile Unicode.isSpace with
      | opener :: afterOpener =>
        if opener == '<' || opener == '"' then
          let name := afterOpener.takeWhile fun c => c != '>' && c != '"'
          match afterOpener.dropWhile (fun c => c != '>' && c != '"') with
          | _ :: afterCloser =>
            if !name.isEmpty && afterCloser.all Unicode.isSpace then
              some (String.ofList (trimSpace name))
            else none
          | [] => none
        else none
      | [] => none
    | _ => none
  | _ => none

/-- The statements of `main`, from its `int` to its closing brace. -/
def mainFunction (tokens : List Token) : Except ParseError (Parsed tokens (List Stmt)) := do
  let ⟨_, afterInt, intLt⟩ ← expectKeyword "int" tokens
  let ⟨name, afterName, nameLt⟩ ← expectIdent "a function name" afterInt
  if name.text != "main" then
    let text := name.text
    throw (errorAt name s!"Only a single 'main' function is supported, found '{text}'")
  let ⟨(), afterOpen, openLt⟩ ← expectOp "(" "after 'main'" afterName
  let ⟨(), afterVoid, voidLe⟩ ← (match afterOpen with
    | token :: after =>
      if token.isKeyword "void" then pure ⟨(), after, length_le_cons token after⟩
      else pure (Parsed.here (token :: after) ())
    | [] => pure (Parsed.here [] ()) : Except ParseError (Parsed afterOpen Unit))
  let ⟨(), afterClose, closeLt⟩ ← expectOp ")" "in the parameter list of 'main'" afterVoid
  let ⟨(), afterBrace, braceLt⟩ ← expectOp "\x7b" "to open the body of 'main'" afterClose
  let ⟨stmts, final, finalLe⟩ ← blockItems false afterBrace
  pure ⟨stmts, final, by omega⟩

/-- The include lines and file-scope declarations before `main`, then `main`
itself: the headers and the statements, in order. -/
def fileScope (headers : Array String) (declared : Array Stmt) (tokens : List Token) :
    Except ParseError (Parsed tokens (Array String × Array Stmt)) :=
  match tokens with
  | token :: after =>
    if token.kind == .directive then
      match includedHeader? token.text with
      | some header => do
        let ⟨result, final, finalLe⟩ ← fileScope (headers.push header) declared after
        pure ⟨result, final, by simp only [List.length_cons]; omega⟩
      | none =>
        let text := token.text
        throw (errorAt token s!"Preprocessor directive not supported: {text}")
    else if token.isKeyword "int" && (peekAt 0 after).kind == .ident && (peekAt 1 after).isOp "(" then do
      let ⟨stmts, final, finalLe⟩ ← mainFunction (token :: after)
      pure ⟨(headers, declared ++ stmts.toArray), final, finalLe⟩
    else if token.isKeyword "int" then do
      let ⟨stmts, rest, restLt⟩ ← declaration (token :: after)
      let ⟨result, final, finalLe⟩ ← fileScope headers (declared ++ stmts.toArray) rest
      pure ⟨result, final, by omega⟩
    else if token.kind == .eof then throw (errorAt token "Missing 'int main()' function")
    else
      let shown := token.describe
      throw (errorAt token s!"Expected a declaration or 'int main()', found {shown}")
  | [] => throw (errorAt endToken "Missing 'int main()' function")
termination_by tokens.length
decreasing_by all_goals (simp only [List.length_cons] at *; omega)

/-- Parse a token list that ends with the end-of-input token. -/
def parseTokens (tokens : List Token) : Except ParseError Program := do
  let ⟨(headers, stmts), rest, _⟩ ← fileScope #[] #[] tokens
  let token := peek rest
  if token.kind != .eof then
    if (token.isKeyword "int" || token.isKeyword "void") && (peekAt 2 rest).isOp "(" then
      throw (errorAt token "Only a single 'main' function is supported")
    let shown := token.describe
    throw (errorAt token s!"Unexpected {shown} after the end of main")
  pure ⟨headers.toList, stmts.toList⟩

/-- Scan and parse a source text. -/
def parseProgram (source : String) : Except ParseError Program :=
  match Lexer.tokenize source with
  | .error error => .error (.compile error)
  | .ok tokens => parseTokens tokens.toList

/-- Scan a source text and read the expression it starts with; the tokens
after the expression are left unread. -/
def parseExpression (source : String) : Except ParseError Expr :=
  match Lexer.tokenize source with
  | .error error => .error (.compile error)
  | .ok tokens => (expression tokens.toList).map Parsed.value

end ClassroomC.Parser
