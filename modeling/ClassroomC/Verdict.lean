import ClassroomC.Unicode.Space
/-!
# Judging output

Printed output is judged against an expected text after both are brought to
a normal form: carriage returns become line breaks (a `\r\n` pair becomes
one), every run of blanks within a line becomes one space, every line is
trimmed of blanks, and so is the whole text. Line breaks and case still
count, so `Sum: 8` and `sum: 8` differ while a trailing newline does not.
-/

namespace ClassroomC.Verdict

/-- Turn `\r\n` and a lone `\r` into `\n`. -/
def unifyBreaks : List Char → List Char
  | '\r' :: '\n' :: rest => '\n' :: unifyBreaks rest
  | '\r' :: rest => '\n' :: unifyBreaks rest
  | c :: rest => c :: unifyBreaks rest
  | [] => []

/-- A blank other than the line break. -/
def isInlineBlank (c : Char) : Bool :=
  Unicode.isSpace c && c != '\n'

/-- Replace every run of inline blanks by one space. -/
def collapseBlanks : List Char → List Char
  | c :: rest =>
    if isInlineBlank c then ' ' :: collapseBlanks (rest.dropWhile isInlineBlank)
    else c :: collapseBlanks rest
  | [] => []
termination_by cs => cs.length
decreasing_by
  all_goals simp only [List.length_cons]
  · have := (List.dropWhile_suffix (l := rest) isInlineBlank).length_le
    omega
  · omega

/-- Drop blanks at both ends. -/
def trimBlanks (cs : List Char) : List Char :=
  ((cs.dropWhile Unicode.isSpace).reverse.dropWhile Unicode.isSpace).reverse

/-- The normal form of a text. -/
def normalize (text : String) : String :=
  let lines := (unifyBreaks text.toList).splitOn '\n'
  let cleaned := lines.map fun line => trimBlanks (collapseBlanks line)
  String.ofList (trimBlanks (List.intercalate ['\n'] cleaned))

/-- Whether the output matches the expected text once both are normal. -/
def judge (actual expected : String) : Bool :=
  normalize actual == normalize expected

end ClassroomC.Verdict
