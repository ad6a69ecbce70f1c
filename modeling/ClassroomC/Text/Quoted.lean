import ClassroomC.Unicode.Printable
/-!
# Quoted text

The quoted form in which messages show a piece of source text: the text
between quotes, single quotes unless the text holds a single quote and no
double quote. Inside, the backslash and the chosen quote are escaped, tab,
newline and carriage return are written `\t \n \r`, other characters that are
not printable are written by their code (`\xhh` below `0x100`, `\uhhhh`
below `0x10000`, `\Uhhhhhhhh` above), and printable characters stand as
they are.
-/

namespace ClassroomC.Text

/-- The lower-case hexadecimal digits of `value`, padded with zeros to `width`. -/
def hexDigits (width : Nat) (value : Nat) : String :=
  let digits := Nat.toDigits 16 value
  String.ofList (List.replicate (width - digits.length) '0' ++ digits)

/-- The escaped form of one character inside quotes of kind `quote`. -/
def escapeChar (quote : Char) (c : Char) : String :=
  if c == quote || c == '\\' then String.ofList ['\\', c]
  else if c == '\t' then "\\t"
  else if c == '\n' then "\\n"
  else if c == '\r' then "\\r"
  else if Unicode.isPrintable c then String.singleton c
  else if c.toNat < 0x100 then "\\x" ++ hexDigits 2 c.toNat
  else if c.toNat < 0x10000 then "\\u" ++ hexDigits 4 c.toNat
  else "\\U" ++ hexDigits 8 c.toNat

/-- The quoted form of `text`. -/
def quote (text : String) : String :=
  let mark := if text.contains '\'' && !text.contains '"' then '"' else '\''
  String.singleton mark ++ String.join (text.toList.map (escapeChar mark)) ++ String.singleton mark

example : (quote "$" == "'$'" && quote "\\" == "'\\\\'" && quote "\x00" == "'\\x00'") = true := by
  cbv
example : (quote "it's" == "\"it's\"" && quote "a\tb" == "'a\\tb'") = true := by cbv

end ClassroomC.Text
