import ClassroomC.Literal
/-!
# Escapes in printed text

The literal text of a format is printed with its escapes expanded: a
backslash followed by one of the escape letters of character literals (`n t r
0`, the backslash and both quotes) stands for that character; a backslash
followed by anything else, a newline included, is kept as written, and so is
a backslash at the very end.
-/

namespace ClassroomC.Printf

/-- Expand the escapes of `text`. -/
def expandEscapes : List Char → List Char
  | '\\' :: c :: rest =>
    match Literal.escapedChar? c with
    | some expanded => expanded :: expandEscapes rest
    | none => '\\' :: c :: expandEscapes rest
  | c :: rest => c :: expandEscapes rest
  | [] => []

/-- Expand the escapes of a string. -/
def expandEscapesIn (text : String) : String :=
  String.ofList (expandEscapes text.toList)

example : expandEscapes ['a', '\\', 'n', '\\', 'q', '\\'] = ['a', '\n', '\\', 'q', '\\'] := by
  decide

end ClassroomC.Printf
