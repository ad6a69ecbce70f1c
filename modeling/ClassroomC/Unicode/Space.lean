/-!
# Blank characters

Two classes of blank characters of the Unicode database.

* `isSpace`: the characters whose bidirectional class is a white space, a
  segment separator or a paragraph separator, together with the space
  separators (`Zs`). This is the class that the masking patterns, the
  line normaliser and trimming of text treat as blank. It holds the four
  information separators `U+001C` to `U+001F`.
* `isWhiteSpace`: the `White_Space` property. It is `isSpace` without the
  four information separators, and is what integer conversion and numeric
  fields trim.
-/

namespace ClassroomC.Unicode

/-- Blank in the sense of the bidirectional classes WS, B, S and the space
separators: `\t \n \v \f \r`, `U+001C`–`U+001F`, space, `U+0085`, no-break
space, ogham space mark, the typographic spaces `U+2000`–`U+200A`, the line
and paragraph separators, narrow no-break space, medium mathematical space
and ideographic space. -/
def isSpace (c : Char) : Bool :=
  let code := c.toNat
  (9 ≤ code && code ≤ 13) || (28 ≤ code && code ≤ 32) || code == 0x85 || code == 0xA0 ||
    code == 0x1680 || (0x2000 ≤ code && code ≤ 0x200A) || code == 0x2028 || code == 0x2029 ||
    code == 0x202F || code == 0x205F || code == 0x3000

/-- The Unicode `White_Space` property: `isSpace` less the information
separators `U+001C`–`U+001F`. -/
def isWhiteSpace (c : Char) : Bool :=
  isSpace c && !(28 ≤ c.toNat && c.toNat ≤ 31)

example : isSpace ' ' ∧ isSpace '\x0b' ∧ isSpace '\x1f' ∧ isSpace '\u3000' := by decide
example : ¬ isSpace '\u200b' ∧ ¬ isSpace '\ufeff' ∧ ¬ isSpace 'a' := by decide
example : isWhiteSpace ' ' ∧ ¬ isWhiteSpace '\x1c' := by decide

/-- Every character that core calls whitespace is blank here too. -/
theorem isSpace_of_isWhitespace (c : Char) (h : c.isWhitespace = true) : isSpace c = true := by
  simp only [Char.isWhitespace, Bool.or_eq_true, decide_eq_true_eq] at h
  simp only [isSpace, Bool.or_eq_true, Bool.and_eq_true, decide_eq_true_eq, beq_iff_eq]
  rcases h with ((h | h) | h) | h <;> subst h <;> decide

end ClassroomC.Unicode
