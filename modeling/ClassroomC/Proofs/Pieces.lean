import ClassroomC.Lexer
import ClassroomC.Proofs.Brackets

/-!
# The scanner splits a text into pieces

A successful scan cuts its text into consecutive *pieces*: at each place the
first alternative of `classify` that matches takes its length, and the next
piece starts where it ends. Blanks, line ends and comments are pieces that
stand for no token; every other piece stands for exactly one. `Reads` says
what each alternative takes, `Splits` says that a list of pieces is the cut
the scanner makes, and `scan_splits` is the link with the scanner: its tokens
are those of the pieces, in order, and the end token.
-/

namespace ClassroomC.Lexer

/-- What `classify` takes at the front of a text, with the condition under
which that alternative is the one taken and the length it takes. -/
inductive Reads : List Char → Lexeme → Nat → Prop
  | blank {cs : List Char} : 0 < runLength isInlineBlank cs →
      Reads cs .blank (runLength isInlineBlank cs)
  | newline {rest : List Char} : Reads ('\n' :: rest) .newline 1
  | lineComment {rest : List Char} :
      Reads ('/' :: '/' :: rest) .lineComment (runLength (· != '\n') rest + 2)
  | blockComment {rest : List Char} : 0 < commentBody rest →
      Reads ('/' :: '*' :: rest) .blockComment (commentBody rest + 2)
  | directive {rest : List Char} :
      Reads ('#' :: rest) .directive (runLength (· != '\n') rest + 1)
  | number {cs : List Char} : 0 < numberLength cs → Reads cs .number (numberLength cs)
  | char {rest : List Char} : 0 < literalBody '\'' rest →
      Reads ('\'' :: rest) .char (literalBody '\'' rest + 1)
  | string {rest : List Char} : 0 < literalBody '"' rest →
      Reads ('"' :: rest) .string (literalBody '"' rest + 1)
  | word {c : Char} {rest : List Char} : (c.isAlpha || c == '_') = true →
      Reads (c :: rest) .word (runLength isWordTail rest + 1)
  -- a slash is an operator only where no comment starts with it
  | op {c : Char} {rest : List Char} : (c = '/' → ∀ d ∈ rest.head?, d ≠ '/' ∧ d ≠ '*') →
      0 < opLength (c :: rest) → Reads (c :: rest) .op (opLength (c :: rest))

theorem classify_of_blank {cs : List Char} (blank : 0 < runLength isInlineBlank cs) :
    classify cs = (.blank, runLength isInlineBlank cs) := by
  unfold classify
  split <;> simp [blank]

/-- Every length `classify` gives, but for an unclosed comment, is read by
the alternative it names. -/
theorem classify_reads {cs : List Char} {lexeme : Lexeme} {length : Nat}
    (classified : classify cs = (lexeme, length)) (positive : 0 < length)
    (closed : lexeme ≠ .openComment) : Reads cs lexeme length := by
  by_cases blank : 0 < runLength isInlineBlank cs
  · rw [classify_of_blank blank] at classified
    cases classified
    exact .blank blank
  unfold classify at classified
  simp only [blank, if_false] at classified
  split at classified
  · cases classified
    exact .newline
  · cases classified
    exact .lineComment
  · split at classified
    · cases classified
      exact .blockComment ‹_›
    · cases classified
      exact absurd rfl closed
  · cases classified
    exact .directive
  next c rest notNewline notLineComment notBlockComment notDirective =>
    split at classified
    · cases classified
      exact .number ‹_›
    split at classified
    next quote =>
      split at classified
      next body =>
        split at classified
        next isChar =>
          cases classified
          obtain rfl : c = '\'' := by simpa using isChar
          exact .char body
        next notChar =>
          cases classified
          obtain rfl : c = '"' := by simp_all
          exact .string body
      · cases classified
        exact absurd positive (Nat.lt_irrefl 0)
    split at classified
    · cases classified
      exact .word ‹_›
    · cases classified
      refine .op ?_ positive
      rintro rfl d first
      cases rest with
      | nil => cases first
      | cons d' rest' =>
        cases first
        exact ⟨fun same => notLineComment rest' rfl (same ▸ rfl),
          fun same => notBlockComment rest' rfl (same ▸ rfl)⟩
  · cases classified
    exact absurd positive (Nat.lt_irrefl 0)

/-! ## Lengths -/

section Lengths

variable {p : Char → Bool} {cs : List Char}

theorem runLength_le (p : Char → Bool) (cs : List Char) : runLength p cs ≤ cs.length := by
  induction cs with
  | nil => simp [runLength]
  | cons c rest ih =>
    simp only [runLength, List.length_cons]
    split <;> omega

/-- The characters of a run all pass the test. -/
theorem runLength_take (c : Char) (mem : c ∈ cs.take (runLength p cs)) : p c = true := by
  induction cs with
  | nil => simp at mem
  | cons d rest ih =>
    simp only [runLength] at mem
    split at mem
    next passes =>
      rcases List.mem_cons.mp mem with rfl | later
      · exact passes
      · exact ih later
    · simp at mem

/-- A run stops at a character that fails the test, or at the end. -/
theorem runLength_stop (c : Char) (mem : c ∈ (cs.drop (runLength p cs)).head?) : p c = false := by
  induction cs with
  | nil => simp at mem
  | cons d rest ih =>
    simp only [runLength] at mem
    split at mem
    · exact ih mem
    next fails =>
      simp only [List.drop_zero, List.head?_cons, Option.mem_def, Option.some.injEq] at mem
      exact mem ▸ by simpa using fails

/-- A run over text whose characters all pass goes on into what follows. -/
theorem runLength_append {front : List Char} (passes : ∀ c ∈ front, p c = true) (back : List Char) :
    runLength p (front ++ back) = front.length + runLength p back := by
  induction front with
  | nil => simp
  | cons c front ih =>
    simp only [List.cons_append, runLength, passes c List.mem_cons_self, if_true, List.length_cons,
      ih (fun d mem => passes d (List.mem_cons_of_mem c mem))]
    omega

theorem runLength_eq_zero (fails : ∀ c ∈ cs.head?, p c = false) : runLength p cs = 0 := by
  cases cs with
  | nil => rfl
  | cons c rest => simp [runLength, fails c rfl]

theorem commentBody_le (cs : List Char) : commentBody cs ≤ cs.length := by
  fun_induction commentBody cs <;> simp +zetaDelta at *
  omega

theorem literalBody_le (quote : Char) (cs : List Char) : literalBody quote cs ≤ cs.length := by
  fun_induction literalBody quote cs <;> simp +zetaDelta at * <;> omega

theorem numberLength_le (cs : List Char) : numberLength cs ≤ cs.length := by
  unfold numberLength
  split
  next x rest =>
    have := runLength_le isHexDigit rest
    have := runLength_le Unicode.isDecimalDigit ('0' :: x :: rest)
    simp only [List.length_cons] at *
    split <;> omega
  · exact runLength_le _ _

/-- Every character of a number is a digit of some base, or the `x` of a
hexadecimal prefix. -/
theorem numberLength_chars (cs : List Char) :
    ∀ c ∈ cs.take (numberLength cs),
      c = 'x' ∨ c = 'X' ∨ isHexDigit c = true ∨ Unicode.isDecimalDigit c = true := by
  unfold numberLength
  split
  next x rest =>
    dsimp only
    split
    next hex =>
      simp only [Bool.and_eq_true, Bool.or_eq_true, beq_iff_eq] at hex
      intro c mem
      simp only [List.take_succ_cons, List.mem_cons] at mem
      rcases mem with rfl | rfl | digit
      · exact .inr (.inr (.inl (by decide)))
      · exact hex.1.elim .inl (.inr ∘ .inl)
      · exact .inr (.inr (.inl (runLength_take c digit)))
    · exact fun c mem => .inr (.inr (.inr (runLength_take c mem)))
  · exact fun c mem => .inr (.inr (.inr (runLength_take c mem)))

theorem opLength_le (cs : List Char) : opLength cs ≤ cs.length := by
  unfold opLength
  split
  · simp only [List.length_cons]
    split
    · omega
    · split <;> omega
  · simp only [List.length_cons]
    split <;> omega
  · simp

end Lengths

namespace Reads

variable {cs : List Char} {lexeme : Lexeme} {length : Nat}

theorem pos (reads : Reads cs lexeme length) : 0 < length := by
  cases reads <;> omega

theorem le (reads : Reads cs lexeme length) : length ≤ cs.length := by
  cases reads with
  | blank => exact runLength_le _ _
  | newline => simp
  | lineComment => simpa using runLength_le (· != '\n') _
  | blockComment => simpa using commentBody_le _
  | directive => simpa using runLength_le (· != '\n') _
  | number => exact numberLength_le _
  | char => simpa using literalBody_le _ _
  | string => simpa using literalBody_le _ _
  | word => simpa using runLength_le isWordTail _
  | op => exact opLength_le _

end Reads

/-! ## Pieces -/

/-- The cut a successful scan makes of a text: each piece is what `classify`
reads where the piece before it ends. -/
inductive Splits : List Char → List (Lexeme × List Char) → Prop
  | nil : Splits [] []
  | cons {cs : List Char} {lexeme : Lexeme} {length : Nat} {pieces : List (Lexeme × List Char)} :
      Reads cs lexeme length → Splits (cs.drop length) pieces →
      Splits cs ((lexeme, cs.take length) :: pieces)

namespace Splits

variable {cs : List Char} {pieces front back : List (Lexeme × List Char)}

/-- The pieces make up the text. -/
theorem flatten (splits : Splits cs pieces) : cs = pieces.flatMap Prod.snd := by
  induction splits with
  | nil => rfl
  | cons _ _ ih => simp [← ih]

/-- The pieces after any of them are the cut of the text they make up. -/
theorem suffix (splits : Splits cs (front ++ back)) : Splits (back.flatMap Prod.snd) back := by
  induction front generalizing cs with
  | nil => exact splits.flatten ▸ splits
  | cons piece front ih =>
    cases splits with
    | cons _ later => exact ih later

/-- Every piece is what `classify` reads at its place. -/
theorem reads_of_mem (splits : Splits cs pieces) {piece : Lexeme × List Char} (mem : piece ∈ pieces) :
    ∃ text length, Reads text piece.1 length ∧ piece.2 = text.take length := by
  induction splits with
  | nil => cases mem
  | cons reads _ ih =>
    rcases List.mem_cons.mp mem with rfl | later
    · exact ⟨_, _, reads, rfl⟩
    · exact ih later

/-- The first piece starts the text. -/
theorem head_mem {piece : Lexeme × List Char} {more : List (Lexeme × List Char)}
    (splits : Splits cs (piece :: more)) : ∀ c ∈ piece.2.head?, c ∈ cs.head? := by
  cases splits with
  | cons reads _ =>
    intro c mem
    simpa [List.head?_take, Nat.pos_iff_ne_zero.mp reads.pos] using mem

/-- A piece stands in front of the text after it. -/
theorem head_cons {piece next : Lexeme × List Char} {more : List (Lexeme × List Char)}
    (splits : Splits cs (piece :: next :: more)) :
    ∃ length, Reads cs piece.1 length ∧ piece.2 = cs.take length ∧
      ∀ c ∈ next.2.head?, c ∈ (cs.drop length).head? := by
  cases splits with
  | cons reads later => exact ⟨_, reads, rfl, later.head_mem⟩

end Splits

/-- A word is as long as it can be: the next piece starts with no character
that could continue it. -/
theorem word_ends {piece next : Lexeme × List Char} {more : List (Lexeme × List Char)} {cs : List Char}
    (splits : Splits cs (piece :: next :: more)) (isWord : piece.1 = .word) :
    ∀ c ∈ next.2.head?, isWordTail c = false := by
  obtain ⟨length, reads, -, follows⟩ := splits.head_cons
  rw [isWord] at reads
  cases reads with
  | word =>
    intro c mem
    exact runLength_stop c (by simpa using follows c mem)

/-- A preprocessor line runs to the end of its line: the next piece starts
with the line end. -/
theorem directive_ends {piece next : Lexeme × List Char} {more : List (Lexeme × List Char)}
    {cs : List Char} (splits : Splits cs (piece :: next :: more)) (isDirective : piece.1 = .directive) :
    ∀ c ∈ next.2.head?, c = '\n' := by
  obtain ⟨length, reads, -, follows⟩ := splits.head_cons
  rw [isDirective] at reads
  cases reads with
  | directive =>
    intro c mem
    have stops := runLength_stop c (by simpa using follows c mem)
    simpa using stops

/-- A preprocessor line holds no line end. -/
theorem directive_inLine {piece : Lexeme × List Char} {cs : List Char}
    {pieces : List (Lexeme × List Char)} (splits : Splits cs pieces) (mem : piece ∈ pieces)
    (isDirective : piece.1 = .directive) : '\n' ∉ piece.2 := by
  obtain ⟨text, length, reads, pieceIs⟩ := splits.reads_of_mem mem
  rw [isDirective] at reads
  cases reads with
  | directive =>
    rw [pieceIs, List.take_succ_cons]
    intro mem
    rcases List.mem_cons.mp mem with same | inRun
    · exact absurd same (by decide)
    · simpa using runLength_take '\n' inRun

/-! ## The tokens of the pieces -/

/-- The kind and text of the token a piece stands for, if it stands for one. -/
def pieceView (piece : Lexeme × List Char) : Option (TokenKind × String) :=
  (tokenOf piece.1 piece.2 0).map Token.view

theorem tokenOf_view (lexeme : Lexeme) (text : List Char) (line : Nat) :
    (tokenOf lexeme text line).map Token.view = pieceView (lexeme, text) := by
  cases lexeme <;> rfl

theorem pushed_views (acc : Array Token) (lexeme : Lexeme) (text : List Char) (line : Nat) :
    (match tokenOf lexeme text line with
      | some token => acc.push token
      | none => acc).toList.map Token.view =
      acc.toList.map Token.view ++ (pieceView (lexeme, text)).toList := by
  rw [← tokenOf_view lexeme text line]
  cases tokenOf lexeme text line <;> simp

/-- The tokens of a scan are those of the pieces it cuts the text into, in
order, and the end token. -/
theorem scan_splits {line : Nat} {acc out : Array Token} {cs : List Char}
    (scanned : scan line acc cs = .ok out) :
    ∃ pieces, Splits cs pieces ∧
      out.toList.map Token.view =
        acc.toList.map Token.view ++ pieces.filterMap pieceView ++ [(.eof, "")] := by
  induction line, acc, cs using scan.induct with
  | case1 line acc =>
    unfold scan at scanned
    cases scanned
    exact ⟨[], .nil, by simp [Token.view]⟩
  | case2 line acc c rest lexeme length classified positive isOpen =>
    unfold scan at scanned
    simp only [classified, positive, if_true, isOpen] at scanned
    cases scanned
  | case3 line acc c rest lexeme length classified positive text notOpen next acc' ih =>
    unfold scan at scanned
    simp only [classified, positive, if_true] at scanned
    rw [if_neg notOpen] at scanned
    obtain ⟨pieces, splits, views⟩ := ih scanned
    have reads := classify_reads classified positive (fun same => notOpen (by rw [same]; rfl))
    refine ⟨(lexeme, text) :: pieces, .cons reads splits, ?_⟩
    rw [views, show acc'.toList.map Token.view = _ from pushed_views acc lexeme text line]
    rw [List.filterMap_cons]
    cases pieceView (lexeme, text) <;> simp
  | case4 line acc c rest lexeme length classified notPositive =>
    unfold scan at scanned
    simp only [classified, notPositive, if_false] at scanned
    cases scanned

theorem tokenize_splits {source : String} {tokens : Array Token}
    (scanned : tokenize source = .ok tokens) :
    ∃ pieces, Splits source.toList pieces ∧
      tokens.toList.map Token.view = pieces.filterMap pieceView ++ [(.eof, "")] := by
  obtain ⟨pieces, splits, views⟩ := scan_splits scanned
  exact ⟨pieces, splits, by simpa using views⟩

/-- No piece stands for the end token. -/
theorem pieceView_kind {piece : Lexeme × List Char} {view : TokenKind × String}
    (some : pieceView piece = some view) : view.1 ≠ .eof := by
  obtain ⟨lexeme, text⟩ := piece
  cases lexeme <;> simp only [pieceView, tokenOf, Option.map_some, Option.map_none,
    Option.some.injEq, reduceCtorEq] at some <;> rw [← some] <;> simp [Token.view]
  split <;> simp

end ClassroomC.Lexer
