import ClassroomC.Validation
import ClassroomC.Proofs.Pieces
import Mathlib.Data.List.Infix

/-!
# The mask reads the scanner's pieces

The validator blanks comments and the insides of literals by a scan of its
own, character by character. It stays in step with the scanner: started
where a piece of the scanner's cut begins, it takes the piece as a whole (it
blanks a comment exactly where the scanner reads one, blanks the inside of a
literal the scanner reads, and copies every other piece) and starts again
where the next piece begins. A preprocessor line is the one piece it reads
character by character; a line with no comment opening and no backslash at
its end keeps it within the line (`mask_line`).

So the masked text is the concatenation of what the mask makes of each piece
(`mask_pieces`), and its brackets are those of the operator tokens
(`count_mask`).
-/

namespace ClassroomC.Validation

open Lexer

/-! ## The mask's own steps -/

section Steps

variable {c : Char} {rest : List Char}

theorem mask_copy (notQuote : c ≠ '"' ∧ c ≠ '\'')
    (noComment : c = '/' → ∀ d ∈ rest.head?, d ≠ '/' ∧ d ≠ '*') :
    mask (c :: rest) = c :: mask rest := by
  rw [mask.eq_3 c rest (fun _ slash next => (noComment slash _ (by simp [next])).1 rfl)
    (fun _ slash next => (noComment slash _ (by simp [next])).2 rfl)]
  simp [notQuote]

@[simp] theorem mask_nil : mask [] = [] := mask.eq_4

theorem mask_lineComment :
    mask ('/' :: '/' :: rest) =
      blank ('/' :: '/' :: rest.take (runLength (· != '\n') rest)) ++
        mask (rest.drop (runLength (· != '\n') rest)) := by
  rw [mask.eq_1]
  rfl

theorem mask_blockComment (closed : 0 < commentBody rest) :
    mask ('/' :: '*' :: rest) =
      blank ('/' :: '*' :: rest.take (commentBody rest)) ++ mask (rest.drop (commentBody rest)) := by
  rw [mask.eq_2]
  simp [Nat.pos_iff_ne_zero.mp closed]

theorem mask_literal (quote : c = '"' ∨ c = '\'') (closed : 0 < literalBody c rest) :
    mask (c :: rest) =
      c :: blank (rest.take (literalBody c rest - 1)) ++ c :: mask (rest.drop (literalBody c rest)) := by
  have notSlash : c ≠ '/' := by rcases quote with rfl | rfl <;> decide
  rw [mask.eq_3 c rest (fun _ slash => absurd slash notSlash) (fun _ slash => absurd slash notSlash)]
  rcases quote with rfl | rfl <;> simp [Nat.pos_iff_ne_zero.mp closed]

theorem mask_unclosed (quote : c = '"' ∨ c = '\'') (unclosed : literalBody c rest = 0) :
    mask (c :: rest) = c :: mask rest := by
  have notSlash : c ≠ '/' := by rcases quote with rfl | rfl <;> decide
  rw [mask.eq_3 c rest (fun _ slash => absurd slash notSlash) (fun _ slash => absurd slash notSlash)]
  rcases quote with rfl | rfl <;> simp [unclosed]

end Steps

/-! ## Characters the mask copies -/

/-- The characters the mask and the bracket counts react to: a slash, which
may open a comment, the two quotes and the four brackets. -/
def signals : List Char := ['/', '"', '\'', '\x7b', '\x7d', '(', ')']

/-- The brackets the validator counts. -/
def brackets : List Char := ['\x7b', '\x7d', '(', ')']

/-- A character that is no signal: the mask copies it and no count sees it. -/
def Inert (c : Char) : Prop := c ∉ signals

instance : DecidablePred Inert := fun c => inferInstanceAs (Decidable (c ∉ signals))

namespace Inert

variable {c : Char}

/-- A test that no signal passes passes only inert characters. -/
theorem of_test {p : Char → Bool} (refuses : signals.all (fun c => !p c) = true)
    (passes : p c = true) : Inert c := by
  intro mem
  have := List.all_eq_true.mp refuses c mem
  simp [passes] at this

theorem not_quote (inert : Inert c) : c ≠ '"' ∧ c ≠ '\'' := by
  simp only [Inert, signals, List.mem_cons, List.not_mem_nil, or_false, not_or] at inert
  exact ⟨inert.2.1, inert.2.2.1⟩

theorem not_slash (inert : Inert c) : c ≠ '/' := by
  simp only [Inert, signals, List.mem_cons, List.not_mem_nil, or_false, not_or] at inert
  exact inert.1

theorem not_bracket (inert : Inert c) : c ∉ brackets := by
  simp only [Inert, signals, List.mem_cons, List.not_mem_nil, or_false, not_or] at inert
  simp [brackets, inert.2.2.2.1, inert.2.2.2.2.1, inert.2.2.2.2.2.1, inert.2.2.2.2.2.2]

end Inert

/-- The mask copies inert text. -/
theorem mask_inert {text : List Char} (inert : ∀ c ∈ text, Inert c) (rest : List Char) :
    mask (text ++ rest) = text ++ mask rest := by
  induction text with
  | nil => rfl
  | cons c text ih =>
    have first := inert c List.mem_cons_self
    rw [List.cons_append, mask_copy first.not_quote (fun slash => absurd slash first.not_slash),
      ih (fun d mem => inert d (List.mem_cons_of_mem c mem)), List.cons_append]

/-! ## A preprocessor line -/

/-- A stretch of text the mask reads within itself: no line end, no comment
opening, and no backslash at its end that could escape what follows. -/
structure Line (text : List Char) : Prop where
  noNewline : '\n' ∉ text
  noComment : ¬ ['/', '*'] <:+: text
  noEscape : ¬ ['\\'] <:+ text

theorem Line.suffix {text text' : List Char} (line : Line text) (suffix : text' <:+ text) :
    Line text' :=
  ⟨fun mem => line.noNewline (suffix.subset mem),
    fun inside => line.noComment (inside.trans suffix.isInfix),
    fun escape => line.noEscape (escape.trans suffix)⟩

/-- Within a line, a literal ends where it ends before the line end. -/
theorem literalBody_line {q : Char} {body rest : List Char} (notNewline : q ≠ '\n')
    (line : Line body) (ends : ∀ c ∈ rest.head?, c = '\n') :
    literalBody q (body ++ rest) = literalBody q body := by
  fun_induction literalBody q body with
  | case1 d r tail zero ih =>
    -- an escape pair is read as one in both
    rw [List.cons_append, List.cons_append, literalBody.eq_1,
      ih (line.suffix ((List.suffix_cons _ _).trans (List.suffix_cons _ _))), if_pos zero]
  | case2 d r tail nonzero ih =>
    rw [List.cons_append, List.cons_append, literalBody.eq_1,
      ih (line.suffix ((List.suffix_cons _ _).trans (List.suffix_cons _ _))), if_neg nonzero]
  | case3 c r notPair same =>
    rw [List.cons_append, literalBody.eq_2 q c (r ++ rest) (escapeFree line notPair), if_pos same]
  | case4 c r notPair other stop =>
    rw [List.cons_append, literalBody.eq_2 q c (r ++ rest) (escapeFree line notPair), if_neg other,
      if_pos stop]
  | case5 c r notPair other goesOn tail zero ih =>
    rw [List.cons_append, literalBody.eq_2 q c (r ++ rest) (escapeFree line notPair), if_neg other,
      if_neg goesOn]
    simp only [ih (line.suffix (List.suffix_cons _ _))]
    rw [if_pos zero]
  | case6 c r notPair other goesOn tail nonzero ih =>
    rw [List.cons_append, literalBody.eq_2 q c (r ++ rest) (escapeFree line notPair), if_neg other,
      if_neg goesOn]
    simp only [ih (line.suffix (List.suffix_cons _ _))]
    rw [if_neg nonzero]
  | case7 =>
    cases rest with
    | nil => rfl
    | cons d rest =>
      obtain rfl : d = '\n' := ends d rfl
      rw [List.nil_append, literalBody.eq_2 q '\n' rest (fun _ _ same => nomatch same)]
      simp [Ne.symm notNewline]
where
  /-- A backslash in a line is followed by a character of the line. -/
  escapeFree {c : Char} {r : List Char} (line : Line (c :: r))
      (notPair : ∀ d r', c = '\\' → r = d :: r' → False) :
      ∀ d r', c = '\\' → r ++ rest = d :: r' → False := by
    rintro d r' rfl joined
    cases r with
    | nil => exact line.noEscape (List.suffix_refl _)
    | cons e r => exact notPair e r rfl rfl

/-- Where no comment opens in a text, none opens across its end into what
follows a line. -/
theorem no_comment_after {first : Char} {r rest : List Char}
    (notLine : ∀ r', first = '/' → r = '/' :: r' → False)
    (notBlock : ∀ r', first = '/' → r = '*' :: r' → False) (ends : ∀ c ∈ rest.head?, c = '\n') :
    first = '/' → ∀ d ∈ (r ++ rest).head?, d ≠ '/' ∧ d ≠ '*' := by
  intro slash d mem
  cases r with
  | nil =>
    obtain rfl := ends d (by simpa using mem)
    decide
  | cons e r =>
    simp only [List.cons_append, List.head?_cons, Option.mem_def, Option.some.injEq] at mem
    subst mem
    exact ⟨fun same => notLine r slash (same ▸ rfl), fun same => notBlock r slash (same ▸ rfl)⟩

/-- The mask reads a line within itself when a line end, or the end of the
text, follows it. -/
theorem mask_line {text rest : List Char} (line : Line text) (ends : ∀ c ∈ rest.head?, c = '\n') :
    mask (text ++ rest) = mask text ++ mask rest := by
  induction text using mask.induct with
  | case1 r length ih =>
    -- a line comment runs to the line end in both
    have inLine : ∀ c ∈ r, (c != '\n') = true := by
      intro c mem
      have : c ≠ '\n' := fun same => line.noNewline (List.mem_cons_of_mem _
        (List.mem_cons_of_mem _ (same ▸ mem)))
      simpa using this
    have whole : runLength (· != '\n') (r ++ rest) = r.length := by
      rw [runLength_append inLine, runLength_eq_zero (fun c mem => by simp [ends c mem])]
      simp
    have alone : runLength (· != '\n') r = r.length := by
      simpa [runLength] using runLength_append inLine []
    rw [List.cons_append, List.cons_append, mask_lineComment, mask_lineComment, whole, alone]
    simp
  | case2 r length zero ih =>
    exact absurd (List.prefix_append ['/', '*'] r).isInfix line.noComment
  | case3 r length nonzero ih =>
    exact absurd (List.prefix_append ['/', '*'] r).isInfix line.noComment
  | case4 first r notLine notBlock length zero ih =>
    have tailLine := line.suffix (List.suffix_cons _ _)
    by_cases quote : first = '"' ∨ first = '\''
    · have isQuote : (first == '"' || first == '\'') = true := by
        rcases quote with rfl | rfl <;> decide
      have notNewline : first ≠ '\n' := by rcases quote with rfl | rfl <;> decide
      have unclosed : literalBody first r = 0 := by simpa +zetaDelta [isQuote] using zero
      rw [List.cons_append, mask_unclosed quote (by rw [literalBody_line notNewline tailLine ends,
        unclosed]), mask_unclosed quote unclosed, ih tailLine, List.cons_append]
    · have notQuote : first ≠ '"' ∧ first ≠ '\'' := not_or.mp quote
      have endsNil : ∀ c ∈ ([] : List Char).head?, c = '\n' :=
        fun c mem => absurd mem (Option.not_mem_none c)
      rw [List.cons_append, mask_copy notQuote (no_comment_after notLine notBlock ends),
        mask_copy notQuote (by simpa using no_comment_after notLine notBlock endsNil),
        ih tailLine, List.cons_append]
  | case5 first r notLine notBlock length nonzero ih =>
    have quote : first = '"' ∨ first = '\'' := by
      by_contra notQuote
      have : ¬ (first == '"' || first == '\'') = true := by simpa using notQuote
      simp +zetaDelta [this] at nonzero
    have isQuote : (first == '"' || first == '\'') = true := by
      rcases quote with rfl | rfl <;> decide
    have notNewline : first ≠ '\n' := by rcases quote with rfl | rfl <;> decide
    have tailLine := line.suffix (List.suffix_cons _ _)
    have closed : 0 < literalBody first r := by
      have : literalBody first r ≠ 0 := by simpa +zetaDelta [isQuote] using nonzero
      omega
    have within : literalBody first r ≤ r.length := literalBody_le first r
    have restLine := tailLine.suffix (List.drop_suffix (literalBody first r) r)
    have same := literalBody_line notNewline tailLine ends
    rw [List.cons_append, mask_literal quote (same ▸ closed), mask_literal quote closed, same,
      List.take_append_of_le_length (by omega), List.drop_append_of_le_length within]
    have lengthIs : length = literalBody first r := by simp [length, isQuote]
    rw [lengthIs] at ih
    rw [ih restLine]
    simp
  | case6 => simp

/-! ## What the mask makes of each piece -/

/-- What the mask makes of a piece: a comment is blanked, a literal keeps its
quotes around a blanked inside, a preprocessor line is masked on its own,
and every other piece is copied. -/
def image : Lexeme × List Char → List Char
  | (.lineComment, text) => blank text
  | (.blockComment, text) => blank text
  | (.directive, text) => mask text
  | (.char, quote :: body) => quote :: blank body.dropLast ++ [quote]
  | (.string, quote :: body) => quote :: blank body.dropLast ++ [quote]
  | (_, text) => text

/-- The first characters of the two-character operators. -/
def opFirsts : List Char := ['+', '-', '*', '/', '%', '=', '!', '<', '>', '&', '|']

/-- The second characters of the two-character operators. -/
def opSeconds : List Char := ['+', '-', '=', '&', '|']

theorem twoCharOps_chars {a b : Char} (two : twoCharOps.contains (String.ofList [a, b]) = true) :
    a ∈ opFirsts ∧ b ∈ opSeconds := by
  have listed : [a, b] ∈ twoCharOps.map String.toList :=
    List.mem_map.mpr ⟨_, List.contains_iff_mem.mp two, String.toList_ofList⟩
  simp [twoCharOps] at listed
  rcases listed with ⟨rfl, rfl⟩ | ⟨rfl, rfl⟩ | ⟨rfl, rfl⟩ | ⟨rfl, rfl⟩ | ⟨rfl, rfl⟩ | ⟨rfl, rfl⟩ |
    ⟨rfl, rfl⟩ | ⟨rfl, rfl⟩ | ⟨rfl, rfl⟩ | ⟨rfl, rfl⟩ | ⟨rfl, rfl⟩ | ⟨rfl, rfl⟩ | ⟨rfl, rfl⟩ <;> decide

theorem oneCharOps_not_quote {c : Char} (one : oneCharOps.contains c = true) :
    c ≠ '"' ∧ c ≠ '\'' := by
  constructor <;> rintro rfl <;> revert one <;> decide

theorem numberLength_inert (cs : List Char) : ∀ c ∈ cs.take (numberLength cs), Inert c := by
  intro c mem
  rcases numberLength_chars cs c mem with rfl | rfl | digit | digit
  · decide
  · decide
  · exact Inert.of_test (by decide) digit
  · exact Inert.of_test (by decide) digit

/-- Blanks, line ends, numbers and words are inert throughout. -/
theorem reads_inert {cs : List Char} {lexeme : Lexeme} {length : Nat} (reads : Reads cs lexeme length)
    (copied : lexeme ∈ [.blank, .newline, .number, .word]) : ∀ c ∈ cs.take length, Inert c := by
  cases reads with
  | blank => exact fun c mem => Inert.of_test (by decide) (runLength_take c mem)
  | newline =>
    intro c mem
    obtain rfl : c = '\n' := by simpa using mem
    decide
  | number => exact numberLength_inert _
  | @word c rest start =>
    intro d mem
    simp only [List.take_succ_cons, List.mem_cons] at mem
    rcases mem with rfl | tail
    · exact @Inert.of_test d (fun c => c.isAlpha || c == '_') (by decide) start
    · exact Inert.of_test (by decide) (runLength_take d tail)
  | _ => simp at copied

/-- An operator is copied: a slash in it opens no comment. -/
theorem mask_op {c : Char} {rest : List Char}
    (noComment : c = '/' → ∀ d ∈ rest.head?, d ≠ '/' ∧ d ≠ '*') (positive : 0 < opLength (c :: rest)) :
    mask (c :: rest) =
      (c :: rest).take (opLength (c :: rest)) ++ mask ((c :: rest).drop (opLength (c :: rest))) := by
  cases rest with
  | nil =>
    simp only [opLength] at positive ⊢
    split at positive
    next one =>
      rw [if_pos one, mask_copy (oneCharOps_not_quote one) (by simp)]
      rfl
    · exact absurd positive (Nat.lt_irrefl 0)
  | cons b rest =>
    simp only [opLength] at positive ⊢
    split
    next two =>
      obtain ⟨first, second⟩ := twoCharOps_chars two
      have secondInert : Inert b := by
        revert second
        intro second notInert
        simp only [opSeconds, List.mem_cons, List.not_mem_nil, or_false] at second
        rcases second with rfl | rfl | rfl | rfl | rfl <;> revert notInert <;> decide
      have firstNotQuote : c ≠ '"' ∧ c ≠ '\'' := by
        simp only [opFirsts, List.mem_cons, List.not_mem_nil, or_false] at first
        constructor <;> rintro rfl <;> simp at first
      rw [mask_copy firstNotQuote (fun _ d mem => by
          obtain rfl : b = d := by simpa using mem
          exact ⟨fun same => secondInert.not_slash same, fun same => by
            subst same; simp [opSeconds] at second⟩),
        mask_copy secondInert.not_quote (fun slash => absurd slash secondInert.not_slash)]
      rfl
    split
    next notTwo one =>
      rw [mask_copy (oneCharOps_not_quote one) noComment]
      rfl
    · rw [if_neg ‹_›, if_neg ‹_›] at positive
      exact absurd positive (Nat.lt_irrefl 0)

theorem dropLast_take_of_le {l : List Char} {n : Nat} (le : n ≤ l.length) :
    (l.take n).dropLast = l.take (n - 1) := by
  rw [List.dropLast_eq_take, List.take_take, List.length_take]
  congr 1
  omega

/-- The mask takes each piece the scanner reads as a whole. -/
theorem mask_reads {cs : List Char} {lexeme : Lexeme} {length : Nat} (reads : Reads cs lexeme length)
    (line : lexeme = .directive → Line (cs.take length)) :
    mask cs = image (lexeme, cs.take length) ++ mask (cs.drop length) := by
  by_cases copied : lexeme ∈ [.blank, .newline, .number, .word]
  · have copy := mask_inert (reads_inert reads copied) (cs.drop length)
    rw [List.take_append_drop] at copy
    rw [copy]
    simp only [List.mem_cons, List.not_mem_nil, or_false] at copied
    rcases copied with rfl | rfl | rfl | rfl <;> rfl
  cases reads with
  | lineComment =>
    rw [mask_lineComment]
    rfl
  | blockComment closed =>
    rw [mask_blockComment closed]
    rfl
  | directive =>
    rename_i rest
    have ends : ∀ c ∈ (rest.drop (runLength (· != '\n') rest)).head?, c = '\n' :=
      fun c mem => by simpa using runLength_stop c mem
    conv_lhs => rw [← List.take_append_drop (runLength (· != '\n') rest + 1) ('#' :: rest)]
    exact mask_line (line rfl) ends
  | char closed =>
    rename_i rest
    rw [mask_literal (Or.inr rfl) closed]
    simp only [List.take_succ_cons, List.drop_succ_cons, image,
      dropLast_take_of_le (literalBody_le _ rest)]
    simp
  | string closed =>
    rename_i rest
    rw [mask_literal (Or.inl rfl) closed]
    simp only [List.take_succ_cons, List.drop_succ_cons, image,
      dropLast_take_of_le (literalBody_le _ rest)]
    simp
  | op noComment positive => exact mask_op noComment positive
  | _ => simp at copied

/-- The masked text is what the mask makes of each piece, in order, when the
preprocessor lines are lines the mask reads within themselves. -/
theorem mask_pieces {cs : List Char} {pieces : List (Lexeme × List Char)} (splits : Splits cs pieces)
    (lines : ∀ piece ∈ pieces, piece.1 = .directive → Line piece.2) :
    mask cs = pieces.flatMap image := by
  induction splits with
  | nil => simp
  | cons reads later ih =>
    rw [mask_reads reads (lines _ List.mem_cons_self),
      ih (fun piece mem => lines piece (List.mem_cons_of_mem _ mem))]
    simp

/-! ## What the images hold -/

theorem mem_blank {c : Char} {text : List Char} (mem : c ∈ blank text) : c ∈ text ∨ c = ' ' := by
  simp only [blank, List.mem_map] at mem
  obtain ⟨d, inText, rfl⟩ := mem
  by_cases line : d = '\n'
  · subst line
    simp [inText]
  · simp [line]

/-- Masking only blanks: every character of the masked text is one of the
text or a space. -/
theorem mem_mask {c : Char} {text : List Char} (mem : c ∈ mask text) : c ∈ text ∨ c = ' ' := by
  induction text using mask.induct with
  | case1 r length ih =>
    rw [mask_lineComment] at mem
    rcases List.mem_append.mp mem with blanked | later
    · rcases mem_blank blanked with inText | space
      · exact .inl (List.cons_subset_cons _ (List.cons_subset_cons _ (List.take_subset _ _)) inText)
      · exact .inr space
    · rcases ih later with inText | space
      · exact .inl (List.mem_cons_of_mem _ (List.mem_cons_of_mem _ (List.mem_of_mem_drop inText)))
      · exact .inr space
  | case2 r length zero ih =>
    rw [mask.eq_2, if_pos zero] at mem
    rcases List.mem_cons.mp mem with rfl | later
    · exact .inl List.mem_cons_self
    · rcases ih later with inText | space
      · exact .inl (List.mem_cons_of_mem _ inText)
      · exact .inr space
  | case3 r length nonzero ih =>
    rw [mask.eq_2, if_neg nonzero] at mem
    rcases List.mem_append.mp mem with blanked | later
    · rcases mem_blank blanked with inText | space
      · exact .inl (List.cons_subset_cons _ (List.cons_subset_cons _ (List.take_subset _ _)) inText)
      · exact .inr space
    · rcases ih later with inText | space
      · exact .inl (List.mem_cons_of_mem _ (List.mem_cons_of_mem _ (List.mem_of_mem_drop inText)))
      · exact .inr space
  | case4 first r notLine notBlock length zero ih =>
    rw [mask.eq_3 first r notLine notBlock, show (if (first == '"' || first == '\'') = true then
      literalBody first r else 0) = length by simp only [length, dite_eq_ite], if_pos zero] at mem
    rcases List.mem_cons.mp mem with rfl | later
    · exact .inl List.mem_cons_self
    · rcases ih later with inText | space
      · exact .inl (List.mem_cons_of_mem _ inText)
      · exact .inr space
  | case5 first r notLine notBlock length nonzero ih =>
    rw [mask.eq_3 first r notLine notBlock, show (if (first == '"' || first == '\'') = true then
      literalBody first r else 0) = length by simp only [length, dite_eq_ite], if_neg nonzero] at mem
    simp only [List.cons_append, List.mem_cons, List.mem_append] at mem
    rcases mem with rfl | blanked | rfl | later
    · exact .inl List.mem_cons_self
    · rcases mem_blank blanked with inText | space
      · exact .inl (List.mem_cons_of_mem _ (List.mem_of_mem_take inText))
      · exact .inr space
    · exact .inl List.mem_cons_self
    · rcases ih later with inText | space
      · exact .inl (List.mem_cons_of_mem _ (List.mem_of_mem_drop inText))
      · exact .inr space
  | case6 => simp at mem

/-- Characters of layout: blanks within a line and the line end. -/
def isLayout (c : Char) : Bool := isInlineBlank c || c == '\n'

theorem layout_of_blank {c : Char} {text : List Char} (mem : c ∈ blank text) : isLayout c = true := by
  simp only [blank, List.mem_map] at mem
  obtain ⟨d, -, rfl⟩ := mem
  by_cases line : d = '\n' <;> simp [line, isLayout, isInlineBlank]

/-- Layout is white space and no word character. -/
theorem space_of_layout {c : Char} (layout : isLayout c = true) :
    Unicode.isSpace c = true ∧ Unicode.isWordChar c = false := by
  simp only [isLayout, isInlineBlank, Bool.or_eq_true, beq_iff_eq] at layout
  rcases layout with ((((rfl | rfl) | rfl) | rfl) | rfl) | rfl <;> decide

/-- Blanks, line ends and comments stand for no token, and the mask makes
of each a nonempty stretch of layout. -/
theorem image_layout {cs : List Char} {lexeme : Lexeme} {length : Nat} (reads : Reads cs lexeme length)
    (noToken : pieceView (lexeme, cs.take length) = none) :
    image (lexeme, cs.take length) ≠ [] ∧ ∀ c ∈ image (lexeme, cs.take length), isLayout c = true := by
  have nonempty : cs.take length ≠ [] := by
    have := reads.pos
    have := reads.le
    intro empty
    rw [List.take_eq_nil_iff] at empty
    rcases empty with zero | rfl
    · omega
    · simp at this
      omega
  cases reads with
  | blank =>
    exact ⟨nonempty, fun c mem => by simp [isLayout, runLength_take c mem]⟩
  | newline =>
    exact ⟨by simp [image], fun c mem => by simp_all [image, isLayout]⟩
  | lineComment =>
    exact ⟨by simp [image, blank], fun c mem => layout_of_blank mem⟩
  | blockComment =>
    exact ⟨by simp [image, blank], fun c mem => layout_of_blank mem⟩
  | _ => simp [pieceView, tokenOf] at noToken

/-- A word or an operator is copied, and its text is the token's. -/
theorem image_of_view {lexeme : Lexeme} {piece : List Char} {kind : TokenKind} {text : String}
    (view : pieceView (lexeme, piece) = some (kind, text)) (named : kind ∈ [.keyword, .ident, .op]) :
    image (lexeme, piece) = text.toList ∧ piece = text.toList := by
  cases lexeme with
  | word | op =>
    simp only [pieceView, tokenOf, Option.map_some, Token.view, Option.some.injEq,
      Prod.mk.injEq] at view
    obtain ⟨-, rfl⟩ := view
    simp [image]
  | number | char | string | directive =>
    simp only [pieceView, tokenOf, Option.map_some, Token.view, Option.some.injEq,
      Prod.mk.injEq] at view
    obtain ⟨rfl, -⟩ := view
    simp at named
  | blank | newline | lineComment | blockComment | openComment =>
    simp [pieceView, tokenOf] at view

/-! ## Brackets -/

/-- A preprocessor line the mask reads within itself, with no bracket in it. -/
structure QuietLine (text : List Char) : Prop extends Line text where
  noBracket : ∀ c ∈ text, c ∉ brackets

theorem op_shape {c : Char} {rest : List Char} (positive : 0 < opLength (c :: rest)) :
    (c :: rest).take (opLength (c :: rest)) = [c] ∨
      ∃ d, (c :: rest).take (opLength (c :: rest)) = [c, d] ∧ c ∈ opFirsts ∧ d ∈ opSeconds := by
  cases rest with
  | nil =>
    simp only [opLength] at positive ⊢
    split at positive
    next one =>
      rw [if_pos one]
      exact .inl rfl
    · exact absurd positive (Nat.lt_irrefl 0)
  | cons d rest =>
    simp only [opLength] at positive ⊢
    split
    next two => exact .inr ⟨d, rfl, twoCharOps_chars two⟩
    split
    · exact .inl rfl
    · rw [if_neg ‹_›, if_neg ‹_›] at positive
      exact absurd positive (Nat.lt_irrefl 0)

/-- Only operators hold brackets in their images. -/
theorem image_no_bracket {cs : List Char} {lexeme : Lexeme} {length : Nat}
    (reads : Reads cs lexeme length) (notOp : lexeme ≠ .op)
    (quiet : lexeme = .directive → ∀ c ∈ cs.take length, c ∉ brackets) :
    ∀ c ∈ image (lexeme, cs.take length), c ∉ brackets := by
  have layout : ∀ c, isLayout c = true → c ∉ brackets := by
    intro c isLayout' bracket
    simp only [isLayout, isInlineBlank, Bool.or_eq_true, beq_iff_eq] at isLayout'
    simp only [brackets, List.mem_cons, List.not_mem_nil, or_false] at bracket
    rcases bracket with rfl | rfl | rfl | rfl <;> simp at isLayout'
  by_cases copied : lexeme ∈ [.blank, .newline, .number, .word]
  · intro c mem
    have inert := reads_inert reads copied
    simp only [List.mem_cons, List.not_mem_nil, or_false] at copied
    rcases copied with rfl | rfl | rfl | rfl <;> exact (inert c mem).not_bracket
  cases reads with
  | lineComment | blockComment => exact fun c mem => layout c (layout_of_blank mem)
  | directive =>
    intro c mem
    rcases mem_mask mem with inText | rfl
    · exact quiet rfl c inText
    · decide
  | char closed | string closed =>
    intro c mem
    simp only [List.take_succ_cons, image, List.cons_append, List.mem_cons, List.mem_append,
      List.not_mem_nil, or_false] at mem
    rcases mem with rfl | blanked | rfl
    · decide
    · exact layout c (layout_of_blank blanked)
    · decide
  | op => exact absurd rfl notOp
  | _ => simp at copied

/-- A piece's image holds a bracket once where the piece is that bracket as
an operator, and nowhere else. -/
theorem count_image {cs : List Char} {lexeme : Lexeme} {length : Nat} (reads : Reads cs lexeme length)
    (quiet : lexeme = .directive → ∀ c ∈ cs.take length, c ∉ brackets) {b : Char}
    (bracket : b ∈ brackets) :
    (image (lexeme, cs.take length)).count b =
      (pieceView (lexeme, cs.take length)).toList.count (.op, String.ofList [b]) := by
  by_cases isOp : lexeme = .op
  · subst isOp
    cases reads with
    | @op c rest noComment positive =>
      rcases op_shape positive with single | ⟨d, pair, first, second⟩
      · rw [single]
        simp [image, pieceView, tokenOf, Token.view, List.count_singleton]
      · have notFirst : b ≠ c := fun same => by
          subst same
          simp only [brackets, opFirsts, List.mem_cons, List.not_mem_nil, or_false] at bracket first
          rcases bracket with rfl | rfl | rfl | rfl <;> simp at first
        have notSecond : b ≠ d := fun same => by
          subst same
          simp only [brackets, opSeconds, List.mem_cons, List.not_mem_nil, or_false] at bracket second
          rcases bracket with rfl | rfl | rfl | rfl <;> simp at second
        have different : String.ofList [c, d] ≠ String.ofList [b] := by
          rw [Ne, String.ofList_inj]
          simp
        rw [pair]
        show [c, d].count b =
          [(TokenKind.op, String.ofList [c, d])].count (TokenKind.op, String.ofList [b])
        rw [List.count_singleton, List.count_eq_zero.mpr (by simp [notFirst, notSecond]),
          if_neg (by simpa using different)]
  · have absent := image_no_bracket reads isOp quiet
    have noView : (pieceView (lexeme, cs.take length)).toList.count (.op, String.ofList [b]) = 0 := by
      cases lexeme <;> simp [pieceView, tokenOf, Token.view] at isOp ⊢
      split <;> simp
    rw [noView, List.count_eq_zero]
    exact fun mem => absent b mem bracket

/-- The brackets of the masked text are those of the operator tokens. -/
theorem count_mask {cs : List Char} {pieces : List (Lexeme × List Char)} (splits : Splits cs pieces)
    (lines : ∀ piece ∈ pieces, piece.1 = .directive → QuietLine piece.2) {b : Char}
    (bracket : b ∈ brackets) :
    (mask cs).count b = (pieces.filterMap pieceView).count (.op, String.ofList [b]) := by
  induction splits with
  | nil => simp
  | cons reads later ih =>
    have here := lines _ List.mem_cons_self
    rw [mask_reads reads (fun isDirective => (here isDirective).toLine), List.count_append,
      count_image reads (fun isDirective => (here isDirective).noBracket) bracket,
      ih (fun piece mem => lines piece (List.mem_cons_of_mem _ mem)), List.filterMap_cons]
    cases pieceView _ <;> simp [List.count_cons, Nat.add_comm]

end ClassroomC.Validation
