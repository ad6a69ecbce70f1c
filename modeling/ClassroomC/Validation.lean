import ClassroomC.Lexer
import ClassroomC.Unicode.Space
import ClassroomC.Unicode.Digit
import ClassroomC.Unicode.WordChar
/-!
# The structural gate

Before a submission is read, its text must pass five checks, in this order,
and the first that fails is the one reported:

1. it includes `<stdio.h>`;
2. it has `int main()` or `int main(void)` opening a body;
3. a `return` of an integer constant follows that opening;
4. its braces `{` `}` are equal in number;
5. its parentheses `(` `)` are equal in number.

The checks look at a *masked* text, where comments and the insides of string
and character literals are blanked, so that `printf("{")` counts no brace.
Blanking turns every character but a line end into a space and keeps the
quotes; a literal must close on its line, and a block comment that never
closes is left as it is. Blanks in the patterns below are any whitespace,
and a word must not continue one on its left.
-/

namespace ClassroomC.Validation

open Unicode

/-- Blank every character except line ends. -/
def blank (text : List Char) : List Char :=
  text.map fun c => if c == '\n' then c else ' '

/-- The text with its comments and the insides of its literals blanked. -/
def mask (text : List Char) : List Char :=
  match text with
  | '/' :: '/' :: rest =>
    let length := Lexer.runLength (· != '\n') rest
    blank (text.take (length + 2)) ++ mask (rest.drop length)
  | '/' :: '*' :: rest =>
    let length := Lexer.commentBody rest
    if length == 0 then '/' :: mask ('*' :: rest)
    else blank (text.take (length + 2)) ++ mask (rest.drop length)
  | first :: rest =>
    let length := if first == '"' || first == '\x27' then Lexer.literalBody first rest else 0
    if length == 0 then first :: mask rest
    else first :: blank (rest.take (length - 1)) ++ first :: mask (rest.drop length)
  | [] => []
termination_by text.length
decreasing_by
  all_goals simp only [List.length_cons, List.length_drop]
  all_goals omega

/-! ## Patterns on the masked text -/

/-- The rest after `word`, if the text starts with it. -/
def afterWord (word : String) (text : List Char) : Option (List Char) :=
  if word.toList.isPrefixOf text then some (text.drop word.length) else none

/-- The rest after the leading whitespace. -/
def skipBlanks (text : List Char) : List Char :=
  text.dropWhile isSpace

/-- The rest after leading whitespace that must not be empty. -/
def afterBlanks (text : List Char) : Option (List Char) :=
  match text with
  | c :: _ => if isSpace c then some (skipBlanks text) else none
  | [] => none

/-- `#include <stdio.h>`, blanks allowed after `#` and before `<`. -/
def headerAt (text : List Char) : Bool :=
  match text with
  | '#' :: rest =>
    match afterWord "include" (skipBlanks rest) with
    | some rest => (afterWord "<stdio.h>" (skipBlanks rest)).isSome
    | none => false
  | _ => false

/-- `int main()` or `int main(void)` and the opening brace: the rest after
the brace. -/
def mainAt (text : List Char) : Option (List Char) := do
  let rest ← afterWord "int" text
  let rest ← afterBlanks rest
  let rest ← afterWord "main" rest
  let rest ← afterWord "(" (skipBlanks rest)
  let rest := skipBlanks rest
  let rest ← match afterWord ")" rest with
    | some closed => some closed
    | none => do
      let rest ← afterWord "void" rest
      afterWord ")" (skipBlanks rest)
  afterWord "\x7b" (skipBlanks rest)

/-- `main` followed by an opening parenthesis. -/
def mainCallAt (text : List Char) : Option (List Char) := do
  let rest ← afterWord "main" text
  afterWord "(" (skipBlanks rest)

/-- `return`, blanks, an optionally negative decimal constant and `;`. -/
def returnAt (text : List Char) : Option (List Char) := do
  let rest ← afterWord "return" text
  let rest ← afterBlanks rest
  let rest := match rest with
    | '-' :: digits@(c :: _) => if isDecimalDigit c then digits else rest
    | _ => rest
  match rest with
  | c :: _ =>
    if isDecimalDigit c then afterWord ";" (skipBlanks (rest.dropWhile isDecimalDigit))
    else none
  | [] => none

/-- Whether `pattern` matches at some position of the text. -/
def occurs (pattern : List Char → Bool) : List Char → Bool
  | [] => pattern []
  | c :: rest => pattern (c :: rest) || occurs pattern rest

/-- The rest after the first match of `pattern` at a position that no word
character precedes; `afterWordChar` says whether one precedes the text. -/
def searchWord (pattern : List Char → Option (List Char)) (afterWordChar : Bool) :
    List Char → Option (List Char)
  | [] => if afterWordChar then none else pattern []
  | c :: rest =>
    match (if afterWordChar then none else pattern (c :: rest)) with
    | some found => some found
    | none => searchWord pattern (isWordChar c) rest

/-! ## The checks -/

/-- Why a submission fails the gate. -/
inductive Problem where
  | missingHeader
  /-- No accepted `main`; `named` says whether some `main(` occurs. -/
  | invalidMain (named : Bool)
  | missingReturn
  | braces (opening closing : Nat)
  | parentheses (opening closing : Nat)
  deriving Repr, BEq, DecidableEq

namespace Problem

/-- The title line of a problem. -/
def title : Problem → String
  | missingHeader => "Missing required header file."
  | invalidMain _ => "Invalid or missing main function."
  | missingReturn => "Missing return statement in main function."
  | braces .. => "Mismatched braces."
  | parentheses .. => "Mismatched parentheses."

/-- What was expected and what was found. -/
def details : Problem → String
  | missingHeader => "Expected: #include <stdio.h>\nFound: no #include <stdio.h> directive"
  | invalidMain named =>
    let found := if named then "a 'main' with an unsupported signature" else "no 'main' function"
    "Expected: int main() \x7b\nFound: " ++ found
  | missingReturn => "Expected: return 0;\nFound: no 'return <integer>;' inside main"
  | braces opening closing =>
    s!"Expected: equal numbers of '\x7b' and '\x7d'\nFound: {opening} opening braces '\x7b' and {closing} closing braces '\x7d'"
  | parentheses opening closing =>
    s!"Expected: equal numbers of '(' and ')'\nFound: {opening} opening '(' and {closing} closing ')'"

/-- How to fix a problem. -/
def fix : Problem → String
  | missingHeader => "Add '#include <stdio.h>' at the top of your program."
  | invalidMain _ => "Your program must have a main function with signature 'int main() \x7b'"
  | missingReturn => "Add 'return 0;' at the end of your main function."
  | braces .. => "Check that every '\x7b' has a matching '\x7d'"
  | parentheses .. => "Check that every '(' has a matching ')'"

/-- The diagnostic shown for a problem. -/
def diagnostic (problem : Problem) : String :=
  s!"Compilation Error: {problem.title}\n\n{problem.details}\nFix: {problem.fix}"

end Problem

/-- Run the checks on `source`; the first that fails is reported. -/
def check (source : String) : Except Problem Unit := do
  let text := mask source.toList
  if !occurs headerAt text then throw .missingHeader
  let some body := searchWord mainAt false text
    | throw (.invalidMain (searchWord mainCallAt false text).isSome)
  if (searchWord returnAt false body).isNone then throw .missingReturn
  let opening := text.count '\x7b'
  let closing := text.count '\x7d'
  if opening != closing then throw (.braces opening closing)
  let opening := text.count '('
  let closing := text.count ')'
  if opening != closing then throw (.parentheses opening closing)

end ClassroomC.Validation
