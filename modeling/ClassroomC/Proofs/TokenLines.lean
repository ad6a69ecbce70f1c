import ClassroomC.Proofs.Masking

/-!
# The line of every token

The scanner keeps a line count as it goes: a newline piece adds one, a block
comment adds the line ends inside it, and no other piece adds anything. Every
other piece but the two literals is read within its line (`Reads.inLine`), so
the count is that of the line ends before the scanner's place, except those
inside character and string literals: a backslash there escapes whatever
follows it, a line end too, and the literal goes on to the next line
uncounted.

`tokensFrom` says where the tokens of a run of pieces stand: each on the start
line plus the line ends the pieces before it hold outside literals
(`pieceBreaks`). A successful scan gives exactly those tokens, then the end
token on the line the whole text reaches (`scan_lines`); a failed one stops at
the front of the text after the pieces it cut off, with an error on the line
those pieces reach (`scan_refuses`).
-/

namespace ClassroomC.Lexer

open Validation

/-! ## The line ends a piece holds -/

instance : LawfulBEq Lexeme where
  eq_of_beq {a b} := by cases a <;> cases b <;> decide
  rfl {a} := by cases a <;> decide

/-- A character or string literal. -/
def Lexeme.isLiteral : Lexeme → Bool
  | .char | .string => true
  | _ => false

/-- The line ends of a piece that the line count takes in: all of them, but
none inside a character or string literal. -/
def pieceBreaks (piece : Lexeme × List Char) : Nat :=
  if piece.1.isLiteral then 0 else piece.2.count '\n'

/-- The line ends the count takes in over a run of pieces. -/
def breaksIn : List (Lexeme × List Char) → Nat
  | [] => 0
  | piece :: more => pieceBreaks piece + breaksIn more

@[simp] theorem breaksIn_nil : breaksIn [] = 0 := rfl

@[simp] theorem breaksIn_cons (piece : Lexeme × List Char) (pieces : List (Lexeme × List Char)) :
    breaksIn (piece :: pieces) = pieceBreaks piece + breaksIn pieces := rfl

/-- The tokens of a run of pieces that starts on line `line`: each piece's
token stands on the line its piece starts on. -/
def tokensFrom (line : Nat) : List (Lexeme × List Char) → List Token
  | [] => []
  | piece :: more => (tokenOf piece.1 piece.2 line).toList ++ tokensFrom (line + pieceBreaks piece) more

/-- A run holds no character that fails its test. -/
theorem runLength_count {p : Char → Bool} {c : Char} (fails : p c = false) (cs : List Char) :
    (cs.take (runLength p cs)).count c = 0 :=
  List.count_eq_zero.mpr fun mem => by simp [runLength_take c mem] at fails

/-- No operator starts with a line end. -/
theorem opLength_newline (rest : List Char) : opLength ('\n' :: rest) = 0 := by
  cases rest with
  | nil => decide
  | cons d rest =>
    have notTwo : ¬ twoCharOps.contains (String.ofList ['\n', d]) = true :=
      fun two => absurd (twoCharOps_chars two).1 (by decide)
    simp only [opLength, notTwo]
    decide

/-- Every piece but a line end, a block comment and a literal is read within
its line. -/
theorem Reads.inLine {cs : List Char} {lexeme : Lexeme} {length : Nat} (reads : Reads cs lexeme length)
    (spans : lexeme ∉ [.newline, .blockComment, .char, .string]) : (cs.take length).count '\n' = 0 := by
  cases reads with
  | blank => exact runLength_count (by decide) cs
  | lineComment | directive =>
    simp only [List.take_succ_cons, List.count_cons]
    rw [runLength_count (by decide)]
    decide
  | number =>
    refine List.count_eq_zero.mpr fun mem => ?_
    rcases numberLength_chars cs '\n' mem with newline | newline | newline | newline <;>
      exact absurd newline (by decide)
  | @word c rest start =>
    rw [List.take_succ_cons, List.count_cons, runLength_count (by decide)]
    have notNewline : c ≠ '\n' := by
      rintro rfl
      revert start
      decide
    simp [notNewline]
  | @op c rest _ positive =>
    refine List.count_eq_zero.mpr fun mem => ?_
    rcases op_shape positive with single | ⟨d, pair, first, second⟩
    · rw [single, List.mem_singleton] at mem
      subst mem
      exact absurd positive (by rw [opLength_newline]; decide)
    · rw [pair] at mem
      simp only [List.mem_cons, List.not_mem_nil, or_false] at mem
      rcases mem with rfl | rfl
      · revert first; decide
      · revert second; decide
  | newline | blockComment | char | string => simp at spans

/-- The scanner's count after a piece is the count before it plus the line
ends the piece holds outside literals. -/
theorem Reads.nextLine {cs : List Char} {lexeme : Lexeme} {length : Nat} (line : Nat) :
    Reads cs lexeme length →
    (match lexeme with
      | .newline => line + 1
      | .blockComment => line + (cs.take length).count '\n'
      | _ => line) = line + pieceBreaks (lexeme, cs.take length) := by
  intro reads
  have inLine := reads.inLine
  cases lexeme with
  | newline =>
    cases reads
    rfl
  | blockComment | char | string => rfl
  | blank | lineComment | directive | number | word | op =>
    simp [pieceBreaks, Lexeme.isLiteral, inLine (by decide)]
  | openComment => cases reads

/-- The only unclosed alternative is a comment that opens and never closes. -/
theorem classify_openComment {cs : List Char} {length : Nat}
    (classified : classify cs = (.openComment, length)) :
    ∃ rest, cs = '/' :: '*' :: rest ∧ commentBody rest = 0 := by
  by_cases blank : 0 < runLength isInlineBlank cs
  · rw [classify_of_blank blank] at classified
    cases classified
  unfold classify at classified
  simp only [blank, if_false] at classified
  split at classified
  · cases classified
  · cases classified
  · next rest =>
    split at classified
    · cases classified
    · exact ⟨rest, rfl, by omega⟩
  · cases classified
  · split at classified
    · cases classified
    split at classified
    · split at classified
      · split at classified <;> cases classified
      · cases classified
    split at classified <;> cases classified
  · cases classified

/-! ## Where a scan stands -/

/-- The pieces a scan cuts off the front of a text before it comes to
`rest`: each is what `classify` reads where the one before it ends. -/
inductive Cuts : List Char → List (Lexeme × List Char) → List Char → Prop
  | nil {cs : List Char} : Cuts cs [] cs
  | cons {cs : List Char} {lexeme : Lexeme} {length : Nat} {pieces : List (Lexeme × List Char)}
      {rest : List Char} :
      Reads cs lexeme length → Cuts (cs.drop length) pieces rest →
      Cuts cs ((lexeme, cs.take length) :: pieces) rest

/-- Where a scan gives up, with the error it gives there on line `line`. -/
inductive Refuses : List Char → Nat → CompileError → Prop
  /-- a comment opens and never closes -/
  | openComment {rest : List Char} {line : Nat} : commentBody rest = 0 →
      Refuses ('/' :: '*' :: rest) line ⟨"Unterminated comment", some line⟩
  /-- no alternative matches -/
  | noMatch {c : Char} {rest : List Char} {line : Nat} : (classify (c :: rest)).2 = 0 →
      Refuses (c :: rest) line (unmatched c line)

/-- The tokens a piece adds to those before it. -/
theorem pushed_toList (acc : Array Token) (lexeme : Lexeme) (text : List Char) (line : Nat) :
    (match tokenOf lexeme text line with
      | some token => acc.push token
      | none => acc).toList = acc.toList ++ (tokenOf lexeme text line).toList := by
  cases tokenOf lexeme text line <;> simp

/-- One step of the scanner: where `classify` reads a piece, the scan goes on
after it, with the piece's token added and the line count moved past it. -/
theorem scan_piece {line : Nat} {acc : Array Token} {c : Char} {rest : List Char} {lexeme : Lexeme}
    {length : Nat} (classified : classify (c :: rest) = (lexeme, length)) (positive : 0 < length)
    (notOpen : lexeme ≠ .openComment) :
    scan line acc (c :: rest) =
      scan (line + pieceBreaks (lexeme, (c :: rest).take length))
        (acc ++ (tokenOf lexeme ((c :: rest).take length) line).toArray) ((c :: rest).drop length) := by
  have reads := classify_reads classified positive notOpen
  rw [scan.eq_def]
  simp only [classified, positive, if_true]
  rw [if_neg (by simpa using notOpen)]
  congr 1
  · exact Reads.nextLine line reads
  · split <;> simp [*]

/-- A successful scan gives the tokens of the pieces it cuts, each on its
start line plus the line ends before it outside literals, then the end token
on the line the whole text reaches. -/
theorem scan_lines {line : Nat} {acc out : Array Token} {cs : List Char}
    (scanned : scan line acc cs = .ok out) :
    ∃ pieces, Splits cs pieces ∧
      out.toList = acc.toList ++ tokensFrom line pieces ++ [⟨.eof, "", line + breaksIn pieces⟩] := by
  induction line, acc, cs using scan.induct with
  | case1 line acc =>
    unfold scan at scanned
    cases scanned
    exact ⟨[], .nil, by simp [tokensFrom]⟩
  | case2 line acc c rest lexeme length classified positive isOpen =>
    unfold scan at scanned
    simp only [classified, positive, if_true, isOpen] at scanned
    cases scanned
  | case3 line acc c rest lexeme length classified positive text notOpen next acc' ih =>
    unfold scan at scanned
    simp only [classified, positive, if_true] at scanned
    rw [if_neg notOpen] at scanned
    obtain ⟨pieces, splits, tokens⟩ := ih scanned
    have reads := classify_reads classified positive (fun same => notOpen (by rw [same]; rfl))
    have moved : next = line + pieceBreaks (lexeme, text) := Reads.nextLine line reads
    refine ⟨(lexeme, text) :: pieces, .cons reads splits, ?_⟩
    rw [tokens, moved, show acc'.toList = _ from pushed_toList acc lexeme text line]
    simp [tokensFrom, Nat.add_assoc]
  | case4 line acc c rest lexeme length classified notPositive =>
    unfold scan at scanned
    simp only [classified, notPositive, if_false] at scanned
    cases scanned

/-- A failed scan stops at the front of the text after the pieces it cut off,
with an error on its start line plus the line ends of those pieces outside
literals. -/
theorem scan_refuses {line : Nat} {acc : Array Token} {cs : List Char} {error : CompileError}
    (scanned : scan line acc cs = .error error) :
    ∃ pieces rest, Cuts cs pieces rest ∧ Refuses rest (line + breaksIn pieces) error := by
  induction line, acc, cs using scan.induct with
  | case1 line acc =>
    unfold scan at scanned
    cases scanned
  | case2 line acc c rest lexeme length classified positive isOpen =>
    unfold scan at scanned
    simp only [classified, positive, if_true, isOpen] at scanned
    cases scanned
    obtain ⟨body, same, unclosed⟩ := classify_openComment (show classify (c :: rest) = _ by
      rw [classified, show lexeme = .openComment by simpa using isOpen])
    rw [same]
    exact ⟨[], _, .nil, .openComment unclosed⟩
  | case3 line acc c rest lexeme length classified positive text notOpen next acc' ih =>
    unfold scan at scanned
    simp only [classified, positive, if_true] at scanned
    rw [if_neg notOpen] at scanned
    obtain ⟨pieces, stop, cuts, refuses⟩ := ih scanned
    have reads := classify_reads classified positive (fun same => notOpen (by rw [same]; rfl))
    have moved : next = line + pieceBreaks (lexeme, text) := Reads.nextLine line reads
    refine ⟨(lexeme, text) :: pieces, stop, .cons reads cuts, ?_⟩
    rw [breaksIn_cons, ← Nat.add_assoc, ← moved]
    exact refuses
  | case4 line acc c rest lexeme length classified notPositive =>
    unfold scan at scanned
    simp only [classified, notPositive, if_false] at scanned
    cases scanned
    exact ⟨[], _, .nil, .noMatch (by rw [classified]; omega)⟩

/-! ## The tokens of a source text -/

/-- Every token of a source text stands on line one plus the line ends before
it that lie outside character and string literals, and the end token on line
one plus all the line ends outside them; where the scan is refused, the error
stands on the line reached the same way at the place it stops. -/
theorem token_lines_skip_literal_breaks (source : String) :
    (∀ tokens, tokenize source = .ok tokens →
      ∃ pieces, Splits source.toList pieces ∧
        tokens.toList = tokensFrom 1 pieces ++ [⟨.eof, "", 1 + breaksIn pieces⟩]) ∧
    (∀ error, tokenize source = .error error →
      ∃ pieces rest, Cuts source.toList pieces rest ∧ Refuses rest (1 + breaksIn pieces) error) := by
  constructor
  · intro tokens scanned
    simpa using scan_lines scanned
  · intro error scanned
    exact scan_refuses scanned

/-- A line end escaped inside a string is not counted: the word after the
string stands on the first line, though a line end comes before it. -/
theorem token_lines_skip_literal_breaks_escaped :
    tokenize "\"\\\n\" x" = .ok #[⟨.string, "\"\\\n\"", 1⟩, ⟨.ident, "x", 1⟩, ⟨.eof, "", 1⟩] ∧
      ∃ pieces, Splits "\"\\\n\" x".toList pieces ∧
        #[(⟨.string, "\"\\\n\"", 1⟩ : Token), ⟨.ident, "x", 1⟩, ⟨.eof, "", 1⟩].toList =
          tokensFrom 1 pieces ++ [⟨.eof, "", 1 + breaksIn pieces⟩] := by
  have scanned : tokenize "\"\\\n\" x" =
      .ok #[⟨.string, "\"\\\n\"", 1⟩, ⟨.ident, "x", 1⟩, ⟨.eof, "", 1⟩] := by
    have chars : "\"\\\n\" x".toList = ['"', '\\', '\n', '"', ' ', 'x'] := by decide
    have literal : classify ['"', '\\', '\n', '"', ' ', 'x'] = (.string, 4) := by decide
    have blank : classify [' ', 'x'] = (.blank, 1) := by decide
    have word : classify ['x'] = (.word, 1) := by decide
    -- the string, the blank and the word, then the end
    rw [tokenize, chars, scan_piece literal (by decide) (by decide)]
    rw [show List.drop 4 ['"', '\\', '\n', '"', ' ', 'x'] = [' ', 'x'] from rfl,
      scan_piece blank (by decide) (by decide)]
    rw [show List.drop 1 [' ', 'x'] = ['x'] from rfl, scan_piece word (by decide) (by decide)]
    rw [show List.drop 1 ['x'] = [] from rfl, scan.eq_def]
    rfl
  exact ⟨scanned, (token_lines_skip_literal_breaks _).1 _ scanned⟩

end ClassroomC.Lexer
