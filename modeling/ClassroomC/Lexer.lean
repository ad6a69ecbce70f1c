import ClassroomC.Token
import ClassroomC.Error
import ClassroomC.Text.Quoted
import ClassroomC.Unicode.Digit
import ClassroomC.Unicode.Space
/-!
# Scanning source text into tokens

At each point of the text the first of these alternatives that matches is
taken, and it takes as much as its own rule allows:

1. blanks: space, tab, carriage return, form feed, vertical tab;
2. a newline, which starts the next line;
3. a line comment `//` up to the end of the line;
4. a block comment `/*` up to the first `*/`, whose newlines count;
5. `/*` with no `*/` after it, which is refused;
6. a preprocessor line `#` up to the end of the line;
7. a number: `0x` or `0X` with hexadecimal digits, or a run of decimal digits
   of any script;
8. a character literal and 9. a string literal, in which a backslash escapes
   the next character, whatever it is, and an unescaped newline is refused;
10. a word `[A-Za-z_][A-Za-z0-9_]*`, a keyword if the language reserves it;
11. an operator or punctuator, two-character ones first.

Only the newline alternative and block comments advance the line count. A
position where nothing matches is refused: an opening quote as an
unterminated literal, anything else as an unexpected character.
-/

namespace ClassroomC.Lexer

/-- What an alternative found at the front of the text. -/
inductive Lexeme where
  | blank
  | newline
  | lineComment
  | blockComment
  | openComment
  | directive
  | number
  | char
  | string
  | word
  | op
  deriving Repr, BEq, DecidableEq

/-- The length of the longest prefix whose characters all satisfy `p`. -/
def runLength (p : Char → Bool) : List Char → Nat
  | c :: rest => if p c then runLength p rest + 1 else 0
  | [] => 0

/-- Blank characters within a line. -/
def isInlineBlank (c : Char) : Bool :=
  c == ' ' || c == '\t' || c == '\r' || c == '\x0c' || c == '\x0b'

/-- Characters that may follow the first character of a word. -/
def isWordTail (c : Char) : Bool :=
  c.isAlphanum || c == '_'

/-- Hexadecimal digits. -/
def isHexDigit (c : Char) : Bool :=
  c.isDigit || ('a' ≤ c && c ≤ 'f') || ('A' ≤ c && c ≤ 'F')

/-- The length of a comment body up to and including the first `*/`, or
zero when there is none. -/
def commentBody : List Char → Nat
  | '*' :: '/' :: _ => 2
  | _ :: rest =>
    let tail := commentBody rest
    if tail == 0 then 0 else tail + 1
  | [] => 0

/-- The length of a literal body up to and including the closing `quote`, or
zero when the literal is not closed on its line. -/
def literalBody (quote : Char) : List Char → Nat
  | '\\' :: _ :: rest =>
    let tail := literalBody quote rest
    if tail == 0 then 0 else tail + 2
  | c :: rest =>
    if c == quote then 1
    else if c == '\n' || c == '\\' then 0
    else
      let tail := literalBody quote rest
      if tail == 0 then 0 else tail + 1
  | [] => 0

/-- The operators and punctuators of two characters. -/
def twoCharOps : List String :=
  ["++", "--", "+=", "-=", "*=", "/=", "%=", "==", "!=", "<=", ">=", "&&", "||"]

/-- The operators and punctuators of one character. -/
def oneCharOps : List Char :=
  ['+', '-', '*', '/', '%', '<', '>', '=', '!', '(', ')', '{', '}', '[', ']', ';', ',',
    '&', '|', '^', '~', '?', ':', '.']

/-- The length of the operator at the front, or zero. -/
def opLength : List Char → Nat
  | a :: b :: _ =>
    if twoCharOps.contains (String.ofList [a, b]) then 2
    else if oneCharOps.contains a then 1 else 0
  | [a] => if oneCharOps.contains a then 1 else 0
  | [] => 0

/-- The length of a number at the front, or zero. -/
def numberLength : List Char → Nat
  | '0' :: x :: rest =>
    let hex := runLength isHexDigit rest
    if (x == 'x' || x == 'X') && hex > 0 then hex + 2
    else runLength Unicode.isDecimalDigit ('0' :: x :: rest)
  | cs => runLength Unicode.isDecimalDigit cs

/-- The first alternative that matches at the front of the text, with the
length it takes. The length is zero when no alternative matches. -/
def classify (cs : List Char) : Lexeme × Nat :=
  let blank := runLength isInlineBlank cs
  if blank > 0 then (.blank, blank) else
  match cs with
  | '\n' :: _ => (.newline, 1)
  | '/' :: '/' :: rest => (.lineComment, runLength (· != '\n') rest + 2)
  | '/' :: '*' :: rest =>
    let body := commentBody rest
    if body > 0 then (.blockComment, body + 2) else (.openComment, 2)
  | '#' :: rest => (.directive, runLength (· != '\n') rest + 1)
  | c :: rest =>
    let number := numberLength cs
    if number > 0 then (.number, number)
    else if c == '\'' || c == '"' then
      let body := literalBody c rest
      if body > 0 then (if c == '\'' then .char else .string, body + 1) else (.op, 0)
    else if c.isAlpha || c == '_' then (.word, runLength isWordTail rest + 1)
    else (.op, opLength cs)
  | [] => (.op, 0)

/-- The error for a position where no alternative matches. -/
def unmatched (c : Char) (line : Nat) : CompileError :=
  if c == '"' || c == '\'' then ⟨"Unterminated string or character literal", some line⟩
  else ⟨"Unexpected character " ++ Text.quote (String.singleton c), some line⟩

/-- The token a lexeme stands for, if it stands for one. -/
def tokenOf (lexeme : Lexeme) (text : List Char) (line : Nat) : Option Token :=
  match lexeme with
  | .directive =>
    let trimmed := (text.dropWhile Unicode.isSpace).reverse.dropWhile Unicode.isSpace
    some ⟨.directive, String.ofList trimmed.reverse, line⟩
  | .number => some ⟨.number, String.ofList text, line⟩
  | .char => some ⟨.char, String.ofList text, line⟩
  | .string => some ⟨.string, String.ofList text, line⟩
  | .word =>
    let word := String.ofList text
    some ⟨if Token.keywords.contains word then .keyword else .ident, word, line⟩
  | .op => some ⟨.op, String.ofList text, line⟩
  | _ => none

/-- Scan `cs`, which starts on line `line`, after the tokens `acc`. -/
def scan (line : Nat) (acc : Array Token) (cs : List Char) : Except CompileError (Array Token) :=
  match cs with
  | [] => .ok (acc.push ⟨.eof, "", line⟩)
  | c :: rest =>
    let (lexeme, length) := classify (c :: rest)
    if 0 < length then
      let text := (c :: rest).take length
      if lexeme == .openComment then .error ⟨"Unterminated comment", some line⟩
      else
        let next := match lexeme with
          | .newline => line + 1
          | .blockComment => line + text.count '\n'
          | _ => line
        let acc := match tokenOf lexeme text line with
          | some token => acc.push token
          | none => acc
        scan next acc ((c :: rest).drop length)
    else .error (unmatched c line)
termination_by cs.length
decreasing_by simp only [List.length_drop, List.length_cons]; omega

/-- The tokens of a source text, ending with one end-of-input token. -/
def tokenize (source : String) : Except CompileError (Array Token) :=
  scan 1 #[] source.toList

end ClassroomC.Lexer
