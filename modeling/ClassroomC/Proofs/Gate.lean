import Mathlib
import ClassroomC.Proofs.Masking

/-!
# The gate never refuses the structure of a parsed program

The structural gate checks, on the masked text, that `int main()` opens a
body and that braces and parentheses are equal in number. The parser checks
the same things on the tokens, and more strictly: it reads brackets only in
pairs and reads `int main()` right after an include line, a declaration or
nothing. So on every text the parser accepts, the gate can refuse only for a
missing `#include <stdio.h>` or a missing `return`, provided the include
lines name headers that the mask reads as the scanner does: no bracket and
no comment opening in them.

The link goes through the scanner's pieces (`Lexer.Splits`): the masked text
is the concatenation of the pieces' images, the parser's tokens are the
pieces' tokens, and each image is either layout, the token's own text, or a
blanked comment or literal with no bracket in it.
-/

namespace ClassroomC

open Lexer Validation

/-! ## Include lines -/

namespace Parser

/-- A character that opens no comment, escapes nothing and is no bracket. -/
def Calm (c : Char) : Prop := c ∉ ['/', '*', '\\', '\x7b', '\x7d', '(', ')']

instance : DecidablePred Calm := fun c => inferInstanceAs (Decidable (c ∉ _))

theorem calm_of_space {c : Char} (space : Unicode.isSpace c = true) : Calm c := by
  intro mem
  simp only [List.mem_cons, List.not_mem_nil, or_false] at mem
  rcases mem with rfl | rfl | rfl | rfl | rfl | rfl | rfl <;> revert space <;> decide

theorem takeWhile_passes {p : Char → Bool} {l : List Char} {c : Char} (mem : c ∈ l.takeWhile p) :
    p c = true :=
  List.all_eq_true.mp List.all_takeWhile c mem

/-- Trimming drops blanks at both ends and keeps what is between. -/
theorem trimSpace_frame (cs : List Char) :
    ∃ lead trail, cs = lead ++ trimSpace cs ++ trail ∧
      (∀ c ∈ lead, Unicode.isSpace c = true) ∧ ∀ c ∈ trail, Unicode.isSpace c = true := by
  have front : cs.takeWhile Unicode.isSpace ++ cs.dropWhile Unicode.isSpace = cs :=
    List.takeWhile_append_dropWhile
  have back : ((cs.dropWhile Unicode.isSpace).reverse.takeWhile Unicode.isSpace ++
      (cs.dropWhile Unicode.isSpace).reverse.dropWhile Unicode.isSpace) =
      (cs.dropWhile Unicode.isSpace).reverse :=
    List.takeWhile_append_dropWhile
  refine ⟨cs.takeWhile Unicode.isSpace,
    ((cs.dropWhile Unicode.isSpace).reverse.takeWhile Unicode.isSpace).reverse, ?_,
    fun c mem => takeWhile_passes mem, fun c mem => takeWhile_passes (List.mem_reverse.mp mem)⟩
  have inner := congrArg List.reverse back
  rw [List.reverse_append, List.reverse_reverse] at inner
  conv_lhs => rw [← front, ← inner]
  simp [trimSpace]

/-- An include line is its header with calm text around it: before the
header `#`, blanks, `include`, an opening `<` or `"` and blanks; after it
blanks, a closing `>` or `"` and blanks. -/
theorem includedHeader?_frame {text header : String} (included : includedHeader? text = some header) :
    ∃ front back, text.toList = front ++ header.toList ++ back ∧ back ≠ [] ∧
      (∀ c ∈ front, Calm c) ∧ ∀ c ∈ back, Calm c := by
  unfold includedHeader? at included
  split at included
  next rest textIs =>
    split at included
    next afterWord wordIs =>
      split at included
      next opener afterOpener openerIs =>
        split at included
        next isOpener =>
          split at included
          next closer afterCloser closerIs =>
            dsimp only at included
            split at included
            next named =>
              cases included
              simp only [Bool.and_eq_true, List.all_eq_true] at named
              obtain ⟨lead, trail, nameIs, leadSpace, trailSpace⟩ := trimSpace_frame
                (afterOpener.takeWhile fun c => c != '>' && c != '"')
              have closing : (closer != '>' && closer != '"') = false := by
                have stops := List.head_dropWhile_not (fun c => c != '>' && c != '"')
                  (show afterOpener.dropWhile (fun c => c != '>' && c != '"') ≠ [] by simp [closerIs])
                simpa [closerIs] using stops
              have restIs : rest = rest.takeWhile Unicode.isSpace ++
                  'i' :: 'n' :: 'c' :: 'l' :: 'u' :: 'd' :: 'e' :: afterWord := by
                rw [← wordIs, List.takeWhile_append_dropWhile]
              have afterWordIs : afterWord = afterWord.takeWhile Unicode.isSpace ++
                  opener :: afterOpener := by
                rw [← openerIs, List.takeWhile_append_dropWhile]
              have afterOpenerIs : afterOpener =
                  afterOpener.takeWhile (fun c => c != '>' && c != '"') ++ closer :: afterCloser := by
                rw [← closerIs, List.takeWhile_append_dropWhile]
              refine ⟨'#' :: rest.takeWhile Unicode.isSpace ++ ['i', 'n', 'c', 'l', 'u', 'd', 'e'] ++
                  afterWord.takeWhile Unicode.isSpace ++ opener :: lead,
                trail ++ closer :: afterCloser, ?_, by simp, ?_, ?_⟩
              · conv_lhs => rw [textIs, restIs, afterWordIs, afterOpenerIs, nameIs]
                simp
              · intro c mem
                simp only [List.cons_append, List.mem_cons, List.mem_append] at mem
                rcases mem with rfl | (((space | word) | space) | rfl | leading)
                · decide
                · exact calm_of_space (takeWhile_passes space)
                · simp only [List.not_mem_nil, or_false] at word
                  rcases word with rfl | rfl | rfl | rfl | rfl | rfl | rfl <;> decide
                · exact calm_of_space (takeWhile_passes space)
                · simp only [Bool.or_eq_true, beq_iff_eq] at isOpener
                  rcases isOpener with rfl | rfl <;> decide
                · exact calm_of_space (leadSpace c leading)
              · intro c mem
                simp only [List.mem_append, List.mem_cons] at mem
                rcases mem with trailing | rfl | after
                · exact calm_of_space (trailSpace c trailing)
                · simp only [Bool.and_eq_false_iff, bne_eq_false_iff_eq] at closing
                  rcases closing with rfl | rfl <;> decide
                · exact calm_of_space (named.2 c after)
            · cases included
          · cases included
        · cases included
      · cases included
    · cases included
  · cases included

/-! ## Preprocessor lines the mask reads as the scanner does -/

/-- Two characters side by side in a joined text stand in one part or
across the joint. -/
theorem pair_infix_append {a b : Char} {xs ys : List Char} (inside : [a, b] <:+: xs ++ ys) :
    [a, b] <:+: xs ∨ [a, b] <:+: ys ∨ (a ∈ xs ∧ b ∈ ys) := by
  obtain ⟨s, t, joined⟩ := inside
  rw [List.append_assoc] at joined
  rcases List.append_eq_append_iff.mp joined with ⟨middle, xsIs, restIs⟩ | ⟨middle, sIs, ysIs⟩
  · -- the pair starts within `xs`
    cases middle with
    | nil =>
      exact .inr (.inl ⟨[], t, by simpa using restIs⟩)
    | cons m middle =>
      cases middle with
      | nil =>
        simp only [List.cons_append, List.nil_append, List.cons.injEq] at restIs
        exact .inr (.inr ⟨by rw [xsIs, restIs.1]; simp, by rw [← restIs.2]; simp⟩)
      | cons m' middle =>
        simp only [List.cons_append, List.cons.injEq] at restIs
        obtain ⟨rfl, rfl, rest⟩ := restIs
        exact .inl ⟨s, middle, by rw [xsIs]; simp⟩
  · -- the pair starts within `ys`
    exact .inr (.inl ⟨middle, t, by rw [ysIs]; simp⟩)

/-- A text whose only loud part is a header with no bracket and no comment
opening, after calm text and before nonempty calm text, on one line, is a
quiet line. -/
theorem quietLine_frame {front middle back : List Char} (calmFront : ∀ c ∈ front, Calm c)
    (calmBack : ∀ c ∈ back, Calm c) (closed : back ≠ [])
    (noBracket : ∀ c ∈ middle, c ∉ brackets) (noComment : ¬ ['/', '*'] <:+: middle)
    (inLine : '\n' ∉ front ++ middle ++ back) : QuietLine (front ++ middle ++ back) := by
  have calmNot : ∀ c, Calm c → c ≠ '/' ∧ c ≠ '*' ∧ c ≠ '\\' ∧ c ∉ brackets := by
    intro c calm
    simp only [Calm, List.mem_cons, List.not_mem_nil, or_false, not_or] at calm
    refine ⟨calm.1, calm.2.1, calm.2.2.1, ?_⟩
    simp [brackets, calm.2.2.2.1, calm.2.2.2.2.1, calm.2.2.2.2.2.1, calm.2.2.2.2.2.2]
  refine ⟨⟨inLine, ?_, ?_⟩, ?_⟩
  · intro inside
    rcases pair_infix_append inside with inFront | inBack | ⟨slash, star⟩
    · rcases pair_infix_append inFront with inFront | inMiddle | ⟨slash, -⟩
      · exact (calmNot '/' (calmFront '/' (inFront.subset (by simp)))).1 rfl
      · exact noComment inMiddle
      · exact (calmNot '/' (calmFront '/' slash)).1 rfl
    · exact (calmNot '/' (calmBack '/' (inBack.subset (by simp)))).1 rfl
    · exact (calmNot '*' (calmBack '*' star)).2.1 rfl
  · intro escape
    rw [List.singleton_suffix_iff_getLast?_eq_some, List.getLast?_append] at escape
    obtain ⟨last, lastIs⟩ := Option.isSome_iff_exists.mp (List.getLast?_isSome.mpr closed)
    rw [lastIs, Option.some_or] at escape
    cases escape
    exact (calmNot _ (calmBack _ (List.mem_of_getLast? lastIs))).2.2.1 rfl
  · intro c mem
    simp only [List.mem_append] at mem
    rcases mem with (inFront | inMiddle) | inBack
    · exact (calmNot c (calmFront c inFront)).2.2.2
    · exact noBracket c inMiddle
    · exact (calmNot c (calmBack c inBack)).2.2.2

/-- A preprocessor piece stands for the token of its trimmed text. -/
theorem pieceView_directive (text : List Char) :
    pieceView (.directive, text) = some (.directive, String.ofList (trimSpace text)) := rfl

/-- A preprocessor piece whose line includes a header with no bracket and no
comment opening is a quiet line. -/
theorem directive_quiet {cs : List Char} {pieces : List (Lexeme × List Char)}
    {piece : Lexeme × List Char} (splits : Splits cs pieces) (mem : piece ∈ pieces)
    (isDirective : piece.1 = .directive) {header : String}
    (included : includedHeader? (String.ofList (trimSpace piece.2)) = some header)
    (noBracket : ∀ c ∈ header.toList, c ∉ brackets) (noComment : ¬ ['/', '*'] <:+: header.toList) :
    QuietLine piece.2 := by
  obtain ⟨lead, trail, trimmed, leadSpace, trailSpace⟩ := trimSpace_frame piece.2
  obtain ⟨front, back, lineIs, closed, calmFront, calmBack⟩ := includedHeader?_frame included
  rw [String.toList_ofList] at lineIs
  have whole : piece.2 = (lead ++ front) ++ header.toList ++ (back ++ trail) := by
    conv_lhs => rw [trimmed, lineIs]
    simp
  have inLine := directive_inLine splits mem isDirective
  rw [whole] at inLine ⊢
  refine quietLine_frame ?_ ?_ (by simp [closed]) noBracket noComment inLine
  · intro c inFront
    rcases List.mem_append.mp inFront with leading | inFront
    · exact calm_of_space (leadSpace c leading)
    · exact calmFront c inFront
  · intro c inBack
    rcases List.mem_append.mp inBack with inBack | trailing
    · exact calmBack c inBack
    · exact calm_of_space (trailSpace c trailing)

/-! ## The parser's tokens are the pieces' tokens -/

theorem countP_isOp (tokens : List Token) (text : String) :
    tokens.countP (·.isOp text) = (tokens.map Token.view).count (.op, text) := by
  induction tokens with
  | nil => rfl
  | cons token tokens ih =>
    rw [List.countP_cons, List.map_cons, List.count_cons, ih]
    congr 1

/-- The parser reads every token before the end token, and perhaps the end
token too. -/
theorem views_of_parsed {tokens taken rest : List Token} {views : List (TokenKind × String)}
    (split : tokens = taken ++ rest) (ends : (peek rest).kind = .eof)
    (scanned : tokens.map Token.view = views ++ [(.eof, "")])
    (noEnd : ∀ view ∈ views, view.1 ≠ .eof) :
    taken.map Token.view = views ∨ taken.map Token.view = views ++ [(.eof, "")] := by
  rw [split, List.map_append] at scanned
  cases rest with
  | nil => exact .inr (by simpa using scanned)
  | cons last more =>
    have lastEnd : last.kind = .eof := ends
    cases more with
    | nil => exact .inl (List.append_inj' scanned rfl).1
    | cons next more =>
      -- an end token before the last one would be the token of a piece
      have joined : (taken.map Token.view ++ [last.view]) ++ (next :: more).map Token.view =
          views ++ [(.eof, "")] := by
        simpa using scanned
      have inViews : last.view ∈ views := by
        rcases List.append_eq_append_iff.mp joined with ⟨middle, viewsIs, -⟩ | ⟨middle, prefixIs, endIs⟩
        · rw [viewsIs]
          simp
        · cases middle with
          | nil =>
            rw [List.append_nil] at prefixIs
            rw [← prefixIs]
            simp
          | cons m middle => simp at endIs
      exact absurd lastEnd (noEnd _ inViews)

/-- The brackets of what the file scope reads are in pairs. -/
theorem FileRead.counts {headers : List String} {taken : List Token} (read : FileRead headers taken) :
    taken.countP (·.isOp "\x7b") = taken.countP (·.isOp "\x7d") ∧
      taken.countP (·.isOp "(") = taken.countP (·.isOp ")") := by
  obtain ⟨before, header, body, void, rfl, preamble, -, balanced⟩ := read
  have braces := balanced.braces
  have parens := balanced.parens
  have beforeBraces := preamble.braces
  have beforeParens := preamble.parens
  rw [List.append_assoc]
  simp only [List.countP_append] at braces parens ⊢
  omega

end Parser

/-! ## The gate's patterns on the masked text -/

namespace Validation

theorem afterWord_append (word : String) (rest : List Char) :
    afterWord word (word.toList ++ rest) = some rest := by
  simp [afterWord, ← String.length_toList]

theorem skipBlanks_layout {layout : List Char} (spaces : ∀ c ∈ layout, Unicode.isSpace c = true)
    (rest : List Char) : skipBlanks (layout ++ rest) = skipBlanks rest := by
  induction layout with
  | nil => rfl
  | cons c layout ih =>
    rw [List.cons_append, skipBlanks, List.dropWhile_cons, if_pos (spaces c List.mem_cons_self)]
    exact ih (fun d mem => spaces d (List.mem_cons_of_mem c mem))

theorem skipBlanks_text {text : String} {first : Char} {others : List Char}
    (textIs : text.toList = first :: others) (notSpace : Unicode.isSpace first = false)
    (rest : List Char) : skipBlanks (text.toList ++ rest) = text.toList ++ rest := by
  simp [textIs, skipBlanks, notSpace]

theorem afterBlanks_layout {layout : List Char} (nonempty : layout ≠ [])
    (spaces : ∀ c ∈ layout, Unicode.isSpace c = true) (rest : List Char) :
    afterBlanks (layout ++ rest) = some (skipBlanks rest) := by
  cases layout with
  | nil => exact absurd rfl nonempty
  | cons c layout =>
    rw [List.cons_append, afterBlanks, if_pos (spaces c List.mem_cons_self), ← List.cons_append,
      skipBlanks_layout spaces]

/-- A match at a place no word character precedes is found, there or
earlier. -/
theorem searchWord_found {pattern : List Char → Option (List Char)} {back found : List Char}
    (matched : pattern back = some found) :
    ∀ {front : List Char} {afterWordChar : Bool}, (front = [] → afterWordChar = false) →
      (∀ c ∈ front.getLast?, Unicode.isWordChar c = false) →
      (searchWord pattern afterWordChar (front ++ back)).isSome
  | [], afterWordChar, start, _ => by
    obtain rfl := start rfl
    cases back with
    | nil => simp [searchWord, matched]
    | cons c rest => simp [searchWord, matched]
  | c :: front, afterWordChar, _, boundary => by
    rw [List.cons_append, searchWord]
    split
    · rfl
    · apply searchWord_found matched
      · rintro rfl
        exact boundary c rfl
      · intro d last
        apply boundary d
        rw [List.getLast?_cons, Option.mem_def.mp last]
        rfl

/-! ## Walking the pieces of `main`'s header -/

variable {cs : List Char} {pieces : List (Lexeme × List Char)}

/-- Pieces that stand for no token are layout in the masked text. -/
theorem noise_layout (splits : Splits cs pieces) {noise : List (Lexeme × List Char)}
    (within : ∀ piece ∈ noise, piece ∈ pieces) (none : ∀ piece ∈ noise, pieceView piece = none) :
    (noise ≠ [] → noise.flatMap image ≠ []) ∧ ∀ c ∈ noise.flatMap image, isLayout c = true := by
  have each : ∀ piece ∈ noise, image piece ≠ [] ∧ ∀ c ∈ image piece, isLayout c = true := by
    intro piece mem
    obtain ⟨text, length, reads, pieceIs⟩ := splits.reads_of_mem (within piece mem)
    obtain ⟨lexeme, piece⟩ := piece
    simp only at pieceIs reads
    subst pieceIs
    exact image_layout reads (none _ mem)
  refine ⟨fun nonempty => ?_, fun c mem => ?_⟩
  · obtain ⟨first, others, rfl⟩ := List.exists_cons_of_ne_nil nonempty
    simp [(each first List.mem_cons_self).1]
  · obtain ⟨piece, pieceMem, inImage⟩ := List.mem_flatMap.mp mem
    exact (each piece pieceMem).2 c inImage

/-- A word piece stands for a keyword or a name. -/
theorem word_of_view {piece : Lexeme × List Char} {kind : TokenKind} {text : String}
    (view : pieceView piece = some (kind, text)) (named : kind = .keyword ∨ kind = .ident) :
    piece.1 = .word := by
  obtain ⟨lexeme, piece⟩ := piece
  cases lexeme <;> simp [pieceView, tokenOf, Token.view] at view <;>
    rcases named with rfl | rfl <;> simp_all

/-- After layout, the masked text goes on with the next token's own text. -/
theorem skipBlanks_token (splits : Splits cs pieces) {kind : TokenKind} {text : String}
    {views : List (TokenKind × String)} (viewsIs : pieces.filterMap pieceView = (kind, text) :: views)
    (named : kind ∈ [.keyword, .ident, .op]) {first : Char} {others : List Char}
    (textIs : text.toList = first :: others) (notSpace : Unicode.isSpace first = false) :
    ∃ after, skipBlanks (pieces.flatMap image) = text.toList ++ after.flatMap image ∧
      after.filterMap pieceView = views ∧ Splits (after.flatMap Prod.snd) after := by
  obtain ⟨noise, piece, after, rfl, noiseNone, pieceIs, afterViews⟩ :=
    List.filterMap_eq_cons_iff.mp viewsIs
  have layout := (noise_layout splits (fun p mem => by simp [mem]) noiseNone).2
  have copied := (image_of_view pieceIs named).1
  have rest : Splits cs ((noise ++ [piece]) ++ after) := by
    rwa [List.append_assoc, List.singleton_append]
  refine ⟨after, ?_, afterViews, rest.suffix⟩
  rw [List.flatMap_append, List.flatMap_cons, skipBlanks_layout (fun c mem =>
    (space_of_layout (layout c mem)).1), copied, skipBlanks_text textIs notSpace]

/-- `int main()` or `int main(void)` with its brace, as the scanner reads
them, is what the gate looks for as `main` in the masked text. -/
theorem mainAt_pieces {int : Lexeme × List Char} {more : List (Lexeme × List Char)}
    (splits : Splits cs (int :: more)) (intView : pieceView int = some (.keyword, "int"))
    {void : Bool} {views : List (TokenKind × String)}
    (viewsIs : more.filterMap pieceView = (Parser.mainHeader void).tail ++ views) :
    (mainAt ((int :: more).flatMap image)).isSome := by
  have intText := (image_of_view intView (by simp)).1
  obtain ⟨noise, name, after, rfl, noiseNone, nameView, afterViews⟩ :=
    List.filterMap_eq_cons_iff.mp viewsIs
  have nameText := image_of_view nameView (by simp)
  -- `int` is a whole word, so the layout between it and `main` is not empty
  have separated : noise ≠ [] := by
    rintro rfl
    have ends := word_ends splits (word_of_view intView (.inl rfl)) 'm' (by rw [nameText.2]; rfl)
    revert ends
    decide
  obtain ⟨someLayout, layout⟩ := noise_layout splits (fun p mem => by simp [mem]) noiseNone
  have afterSplits : Splits (after.flatMap Prod.snd) after := by
    have whole : Splits cs ((int :: noise ++ [name]) ++ after) := by
      simpa using splits
    exact whole.suffix
  have spaces : ∀ c ∈ noise.flatMap image, Unicode.isSpace c = true :=
    fun c mem => (space_of_layout (layout c mem)).1
  obtain ⟨afterOpen, openSkip, openViews, openSplits⟩ :=
    skipBlanks_token afterSplits afterViews (by simp) rfl (by decide)
  rw [List.flatMap_cons, intText, List.flatMap_append, List.flatMap_cons, nameText.1]
  unfold mainAt
  simp only [afterWord_append, Option.bind_eq_bind, Option.bind_some, afterBlanks_layout (someLayout separated) spaces,
    skipBlanks_text (show "main".toList = 'm' :: "ain".toList from rfl) (by decide), openSkip]
  cases void with
  | false =>
    obtain ⟨afterClose, closeSkip, closeViews, closeSplits⟩ :=
      skipBlanks_token openSplits (by simpa [Parser.mainHeader] using openViews) (by simp) rfl (by decide)
    obtain ⟨afterBrace, braceSkip, -, -⟩ :=
      skipBlanks_token closeSplits closeViews (by simp) rfl (by decide)
    simp only [closeSkip, afterWord_append, braceSkip, Option.isSome_some]
  | true =>
    obtain ⟨afterVoid, voidSkip, voidViews, voidSplits⟩ :=
      skipBlanks_token openSplits (by simpa [Parser.mainHeader] using openViews) (by simp) rfl (by decide)
    obtain ⟨afterClose, closeSkip, closeViews, closeSplits⟩ :=
      skipBlanks_token voidSplits voidViews (by simp) rfl (by decide)
    obtain ⟨afterBrace, braceSkip, -, -⟩ :=
      skipBlanks_token closeSplits closeViews (by simp) rfl (by decide)
    have notClosed : afterWord ")" ("void".toList ++ afterVoid.flatMap image) = none := by
      simp [afterWord]
    simp only [voidSkip, notClosed, afterWord_append, Option.bind_some, closeSkip, braceSkip,
      Option.isSome_some]

/-- A piece stands for a preprocessor line only when it is one. -/
theorem directive_of_view {piece : Lexeme × List Char} {text : String}
    (view : pieceView piece = some (.directive, text)) : piece.1 = .directive := by
  obtain ⟨lexeme, piece⟩ := piece
  cases lexeme <;> simp [pieceView, tokenOf, Token.view] at view ⊢
  split at view <;> simp at view

/-- No word character stands right before `int` in the masked text: what
comes before is a `;`, layout, or nothing; an include line cannot, as a
line end follows it. -/
theorem boundary_before_main {front more : List (Lexeme × List Char)} {int : Lexeme × List Char}
    (splits : Splits cs (front ++ int :: more)) (intView : pieceView int = some (.keyword, "int"))
    (separated : ∀ view ∈ (front.filterMap pieceView).getLast?,
      view = (.op, ";") ∨ view.1 = .directive) :
    ∀ c ∈ (front.flatMap image).getLast?, Unicode.isWordChar c = false := by
  rcases List.eq_nil_or_concat' front with rfl | ⟨init, last, rfl⟩
  · simp
  have lastSplits : Splits ((last :: int :: more).flatMap Prod.snd) (last :: int :: more) := by
    have whole : Splits cs (init ++ (last :: int :: more)) := by simpa using splits
    exact whole.suffix
  have lastMem : last ∈ init ++ [last] ++ int :: more := by simp
  intro c lastChar
  rw [List.flatMap_append, List.flatMap_cons, List.flatMap_nil, List.append_nil] at lastChar
  cases lastView : pieceView last with
  | none =>
    -- layout: the image is not empty, so it holds the last character
    obtain ⟨text, length, reads, lastIs⟩ := splits.reads_of_mem lastMem
    obtain ⟨lexeme, piece⟩ := last
    simp only at lastIs reads
    subst lastIs
    obtain ⟨nonempty, layout⟩ := image_layout reads lastView
    obtain ⟨final, finalIs⟩ := Option.isSome_iff_exists.mp (List.getLast?_isSome.mpr nonempty)
    rw [List.getLast?_append, finalIs, Option.some_or, Option.mem_def, Option.some.injEq] at lastChar
    subst lastChar
    exact (space_of_layout (layout _ (List.mem_of_getLast? finalIs))).2
  | some view =>
    have viewLast : view ∈ ((init ++ [last]).filterMap pieceView).getLast? := by
      simp [List.filterMap_append, lastView]
    rcases separated view viewLast with rfl | isDirective
    · -- a `;` is its own image
      have semicolon := (image_of_view lastView (by simp)).1
      rw [semicolon, List.getLast?_append] at lastChar
      simp only [Option.mem_def] at lastChar
      have : c = ';' := by simpa using lastChar.symm
      subst this
      decide
    · -- an include line is followed by its line end, not by `int`
      obtain ⟨kind, text⟩ := view
      simp only at isDirective
      subst isDirective
      have ends := directive_ends lastSplits (directive_of_view lastView) 'i'
        (by rw [(image_of_view intView (by simp)).2]; rfl)
      exact absurd ends (by decide)

/-! ## The gate on a parsed program

The lemmas below take a text cut into `pieces` and the tokens `taken` that
the file scope reads of it: the pieces' tokens, with or without the end
token. -/

/-- Every preprocessor piece of a parsed text is the include line of a listed
header, so quiet headers make quiet lines. -/
theorem directive_lines {taken : List Token} {headers : List String} (splits : Splits cs pieces)
    (takenViews : taken.map Token.view = pieces.filterMap pieceView ∨
      taken.map Token.view = pieces.filterMap pieceView ++ [(.eof, "")])
    (read : Parser.FileRead headers taken)
    (quiet : ∀ header ∈ headers,
      (∀ c ∈ header.toList, c ∉ brackets) ∧ ¬ ['/', '*'] <:+: header.toList) :
    ∀ piece ∈ pieces, piece.1 = .directive → QuietLine piece.2 := by
  rintro ⟨lexeme, text⟩ mem (rfl : lexeme = .directive)
  obtain ⟨before, header, body, void, takenIs, preamble, -, balanced⟩ := read
  have viewMem : (TokenKind.directive, String.ofList (Parser.trimSpace text)) ∈ taken.map Token.view := by
    have inPieces := List.mem_filterMap.mpr ⟨_, mem, Parser.pieceView_directive text⟩
    rcases takenViews with same | same <;> rw [same] <;> simp [inPieces]
  obtain ⟨token, tokenMem, tokenView⟩ := List.mem_map.mp viewMem
  have tokenKind : token.kind = .directive := congrArg Prod.fst tokenView
  have tokenText : token.text = String.ofList (Parser.trimSpace text) := congrArg Prod.snd tokenView
  rw [takenIs, List.append_assoc] at tokenMem
  -- the body of `main` holds no preprocessor line, so the token is an include line before it
  rcases List.mem_append.mp tokenMem with inBefore | inMain
  · obtain ⟨name, named, included⟩ := preamble.includes token inBefore tokenKind
    rw [tokenText] at included
    exact Parser.directive_quiet splits mem rfl included (quiet name named).1 (quiet name named).2
  · exact absurd tokenKind (balanced.noDirective token inMain)

/-- Each bracket of the masked text is an operator token the parser reads. -/
theorem count_taken {taken : List Token} {b : Char} (splits : Splits cs pieces)
    (takenViews : taken.map Token.view = pieces.filterMap pieceView ∨
      taken.map Token.view = pieces.filterMap pieceView ++ [(.eof, "")])
    (lines : ∀ piece ∈ pieces, piece.1 = .directive → QuietLine piece.2) (bracket : b ∈ brackets) :
    (mask cs).count b = taken.countP (·.isOp (String.ofList [b])) := by
  rw [count_mask splits lines bracket, Parser.countP_isOp]
  rcases takenViews with same | same <;> rw [same]
  simp

/-- The tokens of the pieces run through the header of `main` after the
preamble: the end token, if the parser reads it, comes after the header. -/
theorem views_of_fileRead {taken before header body : List Token} {void : Bool}
    (takenViews : taken.map Token.view = pieces.filterMap pieceView ∨
      taken.map Token.view = pieces.filterMap pieceView ++ [(.eof, "")])
    (takenIs : taken = before ++ header ++ body) (headerViews : header.map Token.view = Parser.mainHeader void) :
    ∃ after, pieces.filterMap pieceView = before.map Token.view ++ (Parser.mainHeader void ++ after) := by
  have takenMap : taken.map Token.view =
      before.map Token.view ++ (Parser.mainHeader void ++ body.map Token.view) := by
    rw [takenIs]
    simp [headerViews]
  rcases takenViews with same | same
  · exact ⟨_, same.symm.trans takenMap⟩
  · rw [takenMap] at same
    rcases List.eq_nil_or_concat' (body.map Token.view) with empty | ⟨init, last, bodyIs⟩
    · -- the header ends with a brace, not with the end token
      rw [empty, List.append_nil] at same
      have lastOf := congrArg List.getLast? same
      cases void <;> simp [Parser.mainHeader] at lastOf
    · rw [bodyIs, ← List.append_assoc, ← List.append_assoc] at same
      exact ⟨init, by rw [← List.append_assoc]; exact ((List.append_inj' same rfl).1).symm⟩

/-- Where the pieces' tokens are a separated preamble and then the header of
`main`, the gate finds `main` in the masked text. -/
theorem main_found {before : List Token} {void : Bool} {after : List (TokenKind × String)}
    (splits : Splits cs pieces) (lines : ∀ piece ∈ pieces, piece.1 = .directive → QuietLine piece.2)
    (viewsIs : pieces.filterMap pieceView = before.map Token.view ++ (Parser.mainHeader void ++ after))
    (separated : Parser.Separated before) :
    (searchWord mainAt false (mask cs)).isSome := by
  obtain ⟨front, back, rfl, frontViews, backViews⟩ := List.filterMap_eq_append_iff.mp viewsIs
  obtain ⟨noise, int, more, rfl, noiseNone, intView, moreViews⟩ :=
    List.filterMap_eq_cons_iff.mp (show back.filterMap pieceView =
        (.keyword, "int") :: ((Parser.mainHeader void).tail ++ after) by
      rw [backViews]
      cases void <;> rfl)
  have whole : Splits cs ((front ++ noise) ++ int :: more) := by simpa using splits
  obtain ⟨found, foundIs⟩ := Option.isSome_iff_exists.mp (mainAt_pieces whole.suffix intView moreViews)
  -- what stands before `int` ends with a semicolon or an include line
  have boundary := boundary_before_main whole intView (by
    intro view last
    rw [List.filterMap_append, List.filterMap_eq_nil_iff.mpr noiseNone, List.append_nil, frontViews,
      List.getLast?_map] at last
    obtain ⟨token, tokenLast, rfl⟩ := Option.map_eq_some_iff.mp last
    rcases separated token tokenLast with semicolon | directive
    · exact .inl (Token.view_of_isOp semicolon)
    · exact .inr directive)
  rw [mask_pieces splits (fun piece mem isDirective => (lines piece mem isDirective).toLine),
    show front ++ (noise ++ int :: more) = (front ++ noise) ++ int :: more by simp, List.flatMap_append]
  exact searchWord_found foundIs (fun _ => rfl) boundary

/-- A text the parser accepts scans, and its tokens read as the program. -/
theorem Parser.parseProgram_ok {source : String} {program : Program}
    (parsed : Parser.parseProgram source = .ok program) :
    ∃ tokens, tokenize source = .ok tokens ∧ Parser.parseTokens tokens.toList = .ok program := by
  unfold Parser.parseProgram at parsed
  split at parsed
  · cases parsed
  · next tokens scanned => exact ⟨tokens, scanned, parsed⟩

/-- On a text the parser accepts, whose include lines name headers with no
bracket and no comment opening, the masked text has `main` where the gate
looks for it and its brackets in equal numbers. -/
theorem parsed_masked {source : String} {program : Program}
    (parsed : Parser.parseProgram source = .ok program)
    (quiet : ∀ header ∈ program.headers,
      (∀ c ∈ header.toList, c ∉ brackets) ∧ ¬ ['/', '*'] <:+: header.toList) :
    (searchWord mainAt false (mask source.toList)).isSome ∧
      (mask source.toList).count '\x7b' = (mask source.toList).count '\x7d' ∧
      (mask source.toList).count '(' = (mask source.toList).count ')' := by
  obtain ⟨tokens, scanned, read⟩ := Parser.parseProgram_ok parsed
  obtain ⟨pieces, splits, scannedViews⟩ := tokenize_splits scanned
  obtain ⟨taken, rest, split, ends, fileRead⟩ := Parser.parseTokens_reads read
  have takenViews := Parser.views_of_parsed split ends scannedViews (by
    intro view mem
    obtain ⟨piece, -, isView⟩ := List.mem_filterMap.mp mem
    exact pieceView_kind isView)
  have lines := directive_lines splits takenViews fileRead quiet
  obtain ⟨braces, parens⟩ := fileRead.counts
  obtain ⟨before, header, body, void, takenIs, preamble, headerViews, -⟩ := fileRead
  obtain ⟨after, viewsIs⟩ := views_of_fileRead takenViews takenIs headerViews
  refine ⟨main_found splits lines viewsIs preamble.separated, ?_, ?_⟩
  · rw [count_taken splits takenViews lines (show '\x7b' ∈ brackets by decide),
      count_taken splits takenViews lines (show '\x7d' ∈ brackets by decide)]
    exact braces
  · rw [count_taken splits takenViews lines (show '(' ∈ brackets by decide),
      count_taken splits takenViews lines (show ')' ∈ brackets by decide)]
    exact parens

/-- The gate never refuses the structure of a program the parser accepts,
as long as its include lines name headers with no bracket and no comment
opening: it may still ask for a header or for a return in `main`, but it
always finds `main` and sees its braces and parentheses in pairs. -/
theorem check_of_parsed {source : String} {program : Program}
    (parsed : Parser.parseProgram source = .ok program)
    (quiet : ∀ header ∈ program.headers,
      (∀ c ∈ header.toList, c ∉ ['\x7b', '\x7d', '(', ')']) ∧ ¬ ['/', '*'] <:+: header.toList) :
    check source = .ok () ∨ check source = .error .missingHeader ∨
      check source = .error .missingReturn := by
  obtain ⟨found, braces, parens⟩ := parsed_masked parsed quiet
  obtain ⟨body, bodyIs⟩ := Option.isSome_iff_exists.mp found
  unfold check
  by_cases header : occurs headerAt (mask source.toList) = true
  · by_cases returned : (searchWord returnAt false body).isNone = true
    · refine .inr (.inr ?_)
      simp only [header, bodyIs, returned]
      rfl
    · refine .inl ?_
      simp [header, bodyIs, returned, braces, parens]
      rfl
  · refine .inr (.inl ?_)
    simp only [header]
    rfl

set_option maxRecDepth 100000 in
theorem check_of_parsed_hello :
    Parser.parseProgram "#include <stdio.h>\nint main()\x7breturn 0;\x7d" =
        .ok ⟨["stdio.h"], [.ret (some (.int 0)) 2]⟩ ∧
      (check "#include <stdio.h>\nint main()\x7breturn 0;\x7d" = .ok () ∨
        check "#include <stdio.h>\nint main()\x7breturn 0;\x7d" = .error .missingHeader ∨
        check "#include <stdio.h>\nint main()\x7breturn 0;\x7d" = .error .missingReturn) := by
  have parsed : Parser.parseProgram "#include <stdio.h>\nint main()\x7breturn 0;\x7d" =
      .ok ⟨["stdio.h"], [.ret (some (.int 0)) 2]⟩ := by cbv
  refine ⟨parsed, check_of_parsed parsed ?_⟩
  simp only [List.mem_singleton, forall_eq]
  refine ⟨by simp, fun inside => ?_⟩
  -- the header has no star, so no comment opening
  have star := inside.subset (List.mem_cons_of_mem '/' (List.mem_singleton_self '*'))
  simp at star

end Validation

end ClassroomC
