import Mathlib.Data.List.TakeWhile
import ClassroomC.Printf.Render
import ClassroomC.Proofs.NormalForm

/-!
# Expanding escapes before or after finding the specifiers

`printf` cuts its raw format into literal text and specifiers, and expands
the escapes of the literal text alone. A C compiler expands the escapes of
the whole string first, and the specifiers are found in what it made. Main
statement: the two orders give the same result, text, warnings and errors
alike (`render_eq_substitute_expandEscapes`). `substitute` is the rendering
that prints literal text as it stands.

The two scans never meet. What an escape expands to (a line break, tab,
carriage return, NUL, backslash or quote), and the backslash kept before an
unknown escape, is no character a specifier is written with, and it ends
one (`Inert`). So a specifier is read the same whatever follows the
characters it takes (`read?_append_stops`), escapes expand alike before and
after it, and the pieces of the expanded format are those of the raw
format with their literal text expanded (`pieces_expandEscapes`).
-/

namespace ClassroomC.Printf

/-! ## Characters that end a specifier -/

/-- A character that no specifier holds and that ends one: no flag, digit,
point or conversion character. -/
def Inert (c : Char) : Prop :=
  Spec.isFlag c = false ∧ Unicode.isDecimalDigit c = false ∧ c ≠ '.' ∧ Spec.isConversion c = false

instance : DecidablePred Inert := fun _ =>
  inferInstanceAs (Decidable (_ ∧ _ ∧ _ ∧ _))

/-- A text that ends a specifier before it: empty, or starting with an inert
character. -/
def Stops (rest : List Char) : Prop :=
  ∀ c ∈ rest.head?, Inert c

theorem inert_backslash : Inert '\\' := by decide +kernel

theorem percent_not_inert : ¬ Inert '%' := by decide

/-- What an escape expands to is inert. -/
theorem inert_of_escapedChar? {c e : Char} (escape : Literal.escapedChar? c = some e) : Inert e := by
  unfold Literal.escapedChar? at escape
  split at escape <;> cases escape <;> decide +kernel

theorem takeWhile_append_stops {p : Char → Bool} {cs rest : List Char}
    (stop : ∀ c ∈ rest.head?, p c = false) : (cs ++ rest).takeWhile p = cs.takeWhile p := by
  have none : rest.takeWhile p = [] := by
    cases rest with
    | nil => rfl
    | cons c more => simp [stop c rfl]
  rw [List.takeWhile_append]
  split
  · next whole =>
      rw [none, List.append_nil]
      exact (List.IsPrefix.eq_of_length (List.takeWhile_prefix p) whole).symm
  · rfl

/-- No modifier or conversion reaches past the characters it takes into an
inert rest. -/
theorem modifierAndConversion_append_stops {front rest : List Char} (stop : Stops rest) :
    Spec.modifierAndConversion (front ++ rest) = Spec.modifierAndConversion front := by
  rcases rest with _ | ⟨x, rest⟩
  · simp
  have notConversion := (stop x rfl).2.2.2
  have modifiers : Spec.isConversion 'h' = true ∧ Spec.isConversion 'l' = true ∧
      Spec.isConversion 'z' = true := by decide
  have notH : x ≠ 'h' := by rintro rfl; simp_all
  have notL : x ≠ 'l' := by rintro rfl; simp_all
  have notZ : x ≠ 'z' := by rintro rfl; simp_all
  -- a modifier is read from at most the first two characters, and the third
  -- is looked at only after `hh` or `ll`
  rcases front with _ | ⟨a, _ | ⟨b, _ | ⟨c, more⟩⟩⟩
  · simp [Spec.modifierAndConversion, notH, notL, notZ, notConversion]
  · by_cases isH : a = 'h'
    · subst isH; simp [Spec.modifierAndConversion, notH, notConversion, modifiers]
    by_cases isL : a = 'l'
    · subst isL; simp [Spec.modifierAndConversion, notL, notConversion, modifiers]
    by_cases isZ : a = 'z'
    · subst isZ; simp [Spec.modifierAndConversion, notConversion, modifiers]
    · simp [Spec.modifierAndConversion, isH, isL, isZ]
  · by_cases isH : a = 'h'
    · subst isH
      by_cases double : b = 'h'
      · subst double; simp [Spec.modifierAndConversion, notConversion, modifiers]
      · simp [Spec.modifierAndConversion, double]
    by_cases isL : a = 'l'
    · subst isL
      by_cases double : b = 'l'
      · subst double; simp [Spec.modifierAndConversion, notConversion, modifiers]
      · simp [Spec.modifierAndConversion, double]
    by_cases isZ : a = 'z'
    · subst isZ; simp [Spec.modifierAndConversion]
    · simp [Spec.modifierAndConversion, isH, isL, isZ]
  · by_cases isH : a = 'h'
    · subst isH
      by_cases double : b = 'h'
      · subst double; simp [Spec.modifierAndConversion]
      · simp [Spec.modifierAndConversion, double]
    by_cases isL : a = 'l'
    · subst isL
      by_cases double : b = 'l'
      · subst double; simp [Spec.modifierAndConversion]
      · simp [Spec.modifierAndConversion, double]
    by_cases isZ : a = 'z'
    · subst isZ; simp [Spec.modifierAndConversion]
    · simp [Spec.modifierAndConversion, isH, isL, isZ]

theorem modifierAndConversion_length {cs modifier : List Char} {conversion : Char}
    (found : Spec.modifierAndConversion cs = some (modifier, conversion)) :
    modifier.length + 1 ≤ cs.length := by
  unfold Spec.modifierAndConversion at found
  split at found <;> (try split at found) <;> cases found <;> simp

/-- A specifier is read the same whatever inert text follows it: flags and
digits stop at the inert character, and no point, modifier or conversion is
taken from it. -/
theorem read?_append_stops {cs rest : List Char} (stop : Stops rest) :
    Spec.read? (cs ++ rest) = Spec.read? cs := by
  have flagStop : ∀ c ∈ rest.head?, Spec.isFlag c = false := fun c h => (stop c h).1
  have digitStop : ∀ c ∈ rest.head?, Unicode.isDecimalDigit c = false := fun c h => (stop c h).2.1
  simp only [Spec.read?, takeWhile_append_stops flagStop]
  rw [List.drop_append_of_le_length (List.takeWhile_prefix _).length_le,
    takeWhile_append_stops digitStop,
    List.drop_append_of_le_length (List.takeWhile_prefix _).length_le]
  generalize ((cs.drop _).drop _) = afterWidth
  rw [modifierAndConversion_append_stops stop]
  rcases afterWidth with _ | ⟨c, afterWidth⟩
  · -- a precision would have to start in the inert rest
    rcases rest with _ | ⟨x, more⟩
    · rfl
    · have notPoint : x ≠ '.' := (stop x rfl).2.2.1
      simp [notPoint]
  · by_cases point : c = '.'
    · subst point
      simp only [List.cons_append]
      rw [takeWhile_append_stops digitStop,
        List.drop_append_of_le_length (List.takeWhile_prefix _).length_le,
        modifierAndConversion_append_stops stop]
    · simp [point]

/-- A specifier takes no more characters than there are. -/
theorem read?_taken_le {cs : List Char} {spec : Spec} {taken : Nat}
    (found : Spec.read? cs = some (spec, taken)) : taken ≤ cs.length := by
  simp only [Spec.read?] at found
  have flagsLe := (List.takeWhile_prefix Spec.isFlag (l := cs)).length_le
  generalize cs.takeWhile Spec.isFlag = flags at found flagsLe
  generalize afterFlagsEq : cs.drop flags.length = afterFlags at found
  have afterFlagsLength : afterFlags.length = cs.length - flags.length := by
    rw [← afterFlagsEq, List.length_drop]
  have widthLe := (List.takeWhile_prefix Unicode.isDecimalDigit (l := afterFlags)).length_le
  generalize afterFlags.takeWhile Unicode.isDecimalDigit = width at found widthLe
  generalize afterWidthEq : afterFlags.drop width.length = afterWidth at found
  have afterWidthLength : afterWidth.length = afterFlags.length - width.length := by
    rw [← afterWidthEq, List.length_drop]
  -- without a precision, the modifier and conversion come right after the width
  have plain : ∀ modifier conversion,
      Spec.modifierAndConversion afterWidth = some (modifier, conversion) →
      flags.length + width.length + modifier.length + 1 ≤ cs.length := by
    intro modifier conversion read
    have := modifierAndConversion_length read
    omega
  split at found
  · next precise =>
    split at precise
    · next rest =>
      have digitsLe := (List.takeWhile_prefix Unicode.isDecimalDigit (l := rest)).length_le
      obtain ⟨⟨modifier, conversion⟩, read, same⟩ := Option.map_eq_some_iff.mp precise
      have := modifierAndConversion_length read
      cases found
      cases same
      simp only [List.length_cons, List.length_drop] at afterWidthLength this ⊢
      omega
    · cases precise
  · obtain ⟨⟨modifier, conversion⟩, read, same⟩ := Option.map_eq_some_iff.mp found
    cases same
    exact plain modifier conversion read

/-! ## Escapes -/

theorem expandEscapes_cons {c : Char} (plain : c ≠ '\\') (rest : List Char) :
    expandEscapes (c :: rest) = c :: expandEscapes rest :=
  expandEscapes.eq_2 c rest fun _ _ same _ => plain same

theorem expandEscapes_known {c e : Char} (escape : Literal.escapedChar? c = some e) (rest : List Char) :
    expandEscapes ('\\' :: c :: rest) = e :: expandEscapes rest := by
  simp [expandEscapes, escape]

theorem expandEscapes_unknown {c : Char} (unknown : Literal.escapedChar? c = none) (rest : List Char) :
    expandEscapes ('\\' :: c :: rest) = '\\' :: c :: expandEscapes rest := by
  simp [expandEscapes, unknown]

/-- Text without a backslash passes through unchanged. -/
theorem expandEscapes_append {front : List Char} (plain : '\\' ∉ front) (rest : List Char) :
    expandEscapes (front ++ rest) = front ++ expandEscapes rest := by
  induction front with
  | nil => rfl
  | cons c front ih =>
    have notBackslash : c ≠ '\\' := fun same => plain (same ▸ List.mem_cons_self)
    rw [List.cons_append, expandEscapes_cons notBackslash, ih (fun mem => plain (List.mem_cons_of_mem c mem)),
      List.cons_append]

theorem expandEscapes_eq_nil_iff {text : List Char} : expandEscapes text = [] ↔ text = [] := by
  fun_cases expandEscapes text <;> simp_all

/-- Every text is the text before its first backslash, and the rest. -/
theorem exists_backslash_split (text : List Char) :
    ∃ front rest, text = front ++ rest ∧ '\\' ∉ front ∧ ∀ c ∈ rest.head?, c = '\\' := by
  refine ⟨text.takeWhile (· != '\\'), text.dropWhile (· != '\\'), (List.takeWhile_append_dropWhile).symm,
    fun mem => ?_, fun c first => ?_⟩
  · simpa using List.mem_takeWhile_imp mem
  · simpa using Verdict.dropWhile_headSolid (· != '\\') text c first

theorem stops_of_backslash {rest : List Char} (escape : ∀ c ∈ rest.head?, c = '\\') : Stops rest :=
  fun c first => escape c first ▸ inert_backslash

/-- What a text starting at a backslash expands to ends a specifier. -/
theorem stops_expandEscapes {rest : List Char} (escape : ∀ c ∈ rest.head?, c = '\\') :
    Stops (expandEscapes rest) := by
  rcases rest with _ | ⟨b, _ | ⟨c, more⟩⟩
  · simp [Stops, expandEscapes]
  · obtain rfl : b = '\\' := escape b rfl
    simpa [Stops, expandEscapes] using inert_backslash
  · obtain rfl : b = '\\' := escape b rfl
    cases known : Literal.escapedChar? c with
    | none => simpa [Stops, expandEscapes_unknown known] using inert_backslash
    | some e => simpa [Stops, expandEscapes_known known] using inert_of_escapedChar? known

/-- The specifier after a `%` is read the same before and after the escapes
are expanded. -/
theorem read?_expandEscapes (rest : List Char) : Spec.read? (expandEscapes rest) = Spec.read? rest := by
  obtain ⟨front, back, rfl, plain, escape⟩ := exists_backslash_split rest
  rw [expandEscapes_append plain, read?_append_stops (stops_expandEscapes escape),
    read?_append_stops (stops_of_backslash escape)]

/-- After a specifier, the expanded text goes on with the expansion of the
raw text that follows it. -/
theorem drop_expandEscapes {rest : List Char} {spec : Spec} {taken : Nat}
    (found : Spec.read? rest = some (spec, taken)) :
    (expandEscapes rest).drop taken = expandEscapes (rest.drop taken) := by
  obtain ⟨front, back, rfl, plain, escape⟩ := exists_backslash_split rest
  rw [read?_append_stops (stops_of_backslash escape)] at found
  have within := read?_taken_le found
  have plainAfter : '\\' ∉ front.drop taken := fun mem => plain (List.mem_of_mem_drop mem)
  rw [expandEscapes_append plain, List.drop_append_of_le_length within,
    List.drop_append_of_le_length within, expandEscapes_append plainAfter]

/-! ## Pieces -/

/-- Put literal text in front of a list of pieces, joining it to a literal
piece that is already there. -/
def prependLiteral (text : List Char) : List Piece → List Piece
  | .literal more :: rest => .literal (text ++ more) :: rest
  | .spec spec :: rest => if text.isEmpty then .spec spec :: rest else .literal text :: .spec spec :: rest
  | [] => if text.isEmpty then [] else [.literal text]

@[simp]
theorem prependLiteral_nil (ps : List Piece) : prependLiteral [] ps = ps := by
  rcases ps with _ | ⟨_ | _, ps⟩ <;> simp [prependLiteral]

theorem prependLiteral_prependLiteral (front back : List Char) (ps : List Piece) :
    prependLiteral front (prependLiteral back ps) = prependLiteral (front ++ back) ps := by
  rcases ps with _ | ⟨_ | _, ps⟩ <;> cases back <;> simp [prependLiteral]

/-- The text read so far stands in front of the pieces of the rest. -/
theorem pieces_go (pending cs : List Char) :
    pieces.go pending cs = prependLiteral pending.reverse (pieces.go [] cs) := by
  induction cs generalizing pending with
  | nil => cases pending <;> simp [pieces.go.eq_3, prependLiteral]
  | cons c rest ih =>
    by_cases percent : c = '%'
    · subst percent
      rw [pieces.go.eq_1, pieces.go.eq_1]
      cases read : Spec.read? rest with
      | none => simp only [ih ['%'], ih ('%' :: pending), prependLiteral_prependLiteral, List.reverse_cons]; rfl
      | some found => cases pending <;> simp [prependLiteral]
    · rw [pieces.go.eq_2 _ _ _ percent, pieces.go.eq_2 _ _ _ percent, ih (c :: pending), ih [c],
        prependLiteral_prependLiteral, List.reverse_cons, List.reverse_singleton]

theorem pieces_nil : pieces [] = [] := by
  simp [pieces, pieces.go.eq_3]

theorem pieces_cons {c : Char} (plain : c ≠ '%') (rest : List Char) :
    pieces (c :: rest) = prependLiteral [c] (pieces rest) := by
  rw [pieces, pieces.go.eq_2 _ _ _ plain, pieces_go]
  rfl

theorem pieces_percent_spec {rest : List Char} {spec : Spec} {taken : Nat}
    (found : Spec.read? rest = some (spec, taken)) :
    pieces ('%' :: rest) = .spec spec :: pieces (rest.drop taken) := by
  rw [pieces, pieces.go.eq_1, found]
  rfl

theorem pieces_percent_literal {rest : List Char} (none : Spec.read? rest = none) :
    pieces ('%' :: rest) = prependLiteral ['%'] (pieces rest) := by
  rw [pieces, pieces.go.eq_1, none, pieces_go]
  rfl

/-- Text without a `%` is literal text in front of the pieces of the rest. -/
theorem pieces_append {front : List Char} (plain : '%' ∉ front) (rest : List Char) :
    pieces (front ++ rest) = prependLiteral front (pieces rest) := by
  induction front with
  | nil => simp [pieces]
  | cons c front ih =>
    have notPercent : c ≠ '%' := fun same => plain (same ▸ List.mem_cons_self)
    rw [List.cons_append, pieces_cons notPercent, ih (fun mem => plain (List.mem_cons_of_mem c mem)),
      prependLiteral_prependLiteral, List.singleton_append]

/-! ## The pieces of the expanded format -/

/-- A piece with the escapes of its literal text expanded. -/
def Piece.expand : Piece → Piece
  | .literal text => .literal (expandEscapes text)
  | .spec found => .spec found

/-- Literal text put in front expands to its expansion put in front, when
it expands the same whatever text follows it. -/
theorem map_expand_prependLiteral (front front' : List Char)
    (shift : ∀ more, expandEscapes (front ++ more) = front' ++ expandEscapes more) (ps : List Piece) :
    (prependLiteral front ps).map Piece.expand = prependLiteral front' (ps.map Piece.expand) := by
  have whole : expandEscapes front = front' := by simpa [expandEscapes] using shift []
  have empty : front'.isEmpty = front.isEmpty := by
    rw [← whole, Bool.eq_iff_iff, List.isEmpty_iff, List.isEmpty_iff, expandEscapes_eq_nil_iff]
  rcases ps with _ | ⟨_ | _, ps⟩ <;> cases isEmpty : front.isEmpty <;>
    simp [prependLiteral, Piece.expand, shift, whole, empty, isEmpty]

/-- One step of the expansion: a front that holds no `%` and expands the
same whatever follows it. -/
theorem pieces_expandEscapes_append (front front' : List Char) {rest : List Char} (plain : '%' ∉ front)
    (plain' : '%' ∉ front') (shift : ∀ more, expandEscapes (front ++ more) = front' ++ expandEscapes more)
    (ih : pieces (expandEscapes rest) = (pieces rest).map Piece.expand) :
    pieces (expandEscapes (front ++ rest)) = (pieces (front ++ rest)).map Piece.expand := by
  rw [shift, pieces_append plain', ih, pieces_append plain, map_expand_prependLiteral front front' shift]

section Percent

variable {rest : List Char}
  (ih : ∀ shorter : List Char, shorter.length ≤ rest.length →
    pieces (expandEscapes shorter) = (pieces shorter).map Piece.expand)
include ih

/-- A `%` starts the same specifier before and after the expansion, or is
literal text in both. -/
theorem pieces_expandEscapes_percent :
    pieces (expandEscapes ('%' :: rest)) = (pieces ('%' :: rest)).map Piece.expand := by
  have shift : ∀ more, expandEscapes ('%' :: more) = '%' :: expandEscapes more :=
    expandEscapes_cons (by decide)
  rw [shift]
  cases read : Spec.read? rest with
  | none =>
    rw [pieces_percent_literal ((read?_expandEscapes rest).trans read), pieces_percent_literal read,
      ih rest le_rfl, map_expand_prependLiteral ['%'] ['%'] shift]
  | some found =>
    obtain ⟨spec, taken⟩ := found
    rw [pieces_percent_spec ((read?_expandEscapes rest).trans read), drop_expandEscapes read,
      pieces_percent_spec read, ih (rest.drop taken) (by simp)]
    rfl

/-- A backslash before a `%` is kept, and the `%` starts the same specifier
before and after the expansion, or is literal text in both. -/
theorem pieces_expandEscapes_backslash_percent :
    pieces (expandEscapes ('\\' :: '%' :: rest)) = (pieces ('\\' :: '%' :: rest)).map Piece.expand := by
  have shift : ∀ more, expandEscapes ('\\' :: '%' :: more) = '\\' :: '%' :: expandEscapes more :=
    expandEscapes_unknown (by decide)
  rw [shift, pieces_cons (c := '\\') (by decide), pieces_cons (c := '\\') (by decide)]
  cases read : Spec.read? rest with
  | none =>
    rw [pieces_percent_literal ((read?_expandEscapes rest).trans read), pieces_percent_literal read,
      ih rest le_rfl, prependLiteral_prependLiteral, prependLiteral_prependLiteral, List.singleton_append,
      map_expand_prependLiteral ['\\', '%'] ['\\', '%'] shift]
  | some found =>
    obtain ⟨spec, taken⟩ := found
    rw [pieces_percent_spec ((read?_expandEscapes rest).trans read), drop_expandEscapes read,
      pieces_percent_spec read, ih (rest.drop taken) (by simp)]
    simp [prependLiteral, Piece.expand, expandEscapes]

end Percent

/-- The pieces of the expanded format are the pieces of the raw format with
their literal text expanded. -/
theorem pieces_expandEscapes (format : List Char) :
    pieces (expandEscapes format) = (pieces format).map Piece.expand := by
  -- strong induction on the length: after a specifier the format goes on
  -- shorter by what the specifier took, not by one character
  induction length : format.length using Nat.strong_induction_on generalizing format with
  | _ n ih =>
    subst length
    have shorter : ∀ rest : List Char, rest.length < format.length →
        pieces (expandEscapes rest) = (pieces rest).map Piece.expand :=
      fun rest less => ih rest.length less rest rfl
    rcases format with _ | ⟨c, rest⟩
    · simp [expandEscapes, pieces_nil]
    by_cases percent : c = '%'
    · subst percent
      exact pieces_expandEscapes_percent fun g within => shorter g (by simp; omega)
    by_cases backslash : c = '\\'
    · subst backslash
      rcases rest with _ | ⟨d, rest⟩
      · simp [expandEscapes, pieces_cons, pieces_nil, prependLiteral, Piece.expand]
      cases known : Literal.escapedChar? d with
      | none =>
        by_cases escapedPercent : d = '%'
        · subst escapedPercent
          exact pieces_expandEscapes_backslash_percent fun g within => shorter g (by simp; omega)
        · exact pieces_expandEscapes_append ['\\', d] ['\\', d]
            (by simp [Ne.symm escapedPercent]) (by simp [Ne.symm escapedPercent])
            (expandEscapes_unknown known) (shorter rest (by simp only [List.length_cons]; omega))
      | some e =>
        have notPercent : d ≠ '%' := by rintro rfl; cases known
        have expandedNotPercent : e ≠ '%' := by
          rintro rfl
          exact percent_not_inert (inert_of_escapedChar? known)
        exact pieces_expandEscapes_append ['\\', d] [e]
          (by simp [Ne.symm notPercent]) (by simp [Ne.symm expandedNotPercent])
          (expandEscapes_known known) (shorter rest (by simp only [List.length_cons]; omega))
    · exact pieces_expandEscapes_append [c] [c] (by simp [Ne.symm percent])
        (by simp [Ne.symm percent]) (expandEscapes_cons backslash) (shorter rest (by simp))

/-! ## Rendering -/

/-- Render the pieces of a format, printing each literal text as `literal`
makes it. -/
def renderPiecesWith (literal : List Char → List Char) (store : Store) (line : Option Nat) :
    List Piece → List Expr → Progress → Except Failure (Progress × List Expr)
  | [], args, progress => .ok (progress, args)
  | .literal text :: more, args, progress =>
    renderPiecesWith literal store line more args
      { progress with printed := progress.printed.push (String.ofList (literal text)) }
  | .spec spec :: more, args, progress => do
    let (progress, args) ← renderSpec store line spec args progress
    renderPiecesWith literal store line more args progress

/-- Render a call, printing each literal text of its format as `literal`
makes it. -/
def renderWith (literal : List Char → List Char) (store : Store) (line : Option Nat) (format : String)
    (args : List Expr) : Except Failure Rendered := do
  let (progress, left) ← renderPiecesWith literal store line (pieces format.toList) args {}
  let warnings :=
    if left.isEmpty then progress.warnings
    else
      let count := left.length
      progress.warnings.push s!"{count} argument(s) not used by the format string"
  pure ⟨String.join progress.printed.toList, warnings⟩

/-- Substitute the arguments into a format whose escapes are already
expanded: its literal text is printed as it stands. -/
def substitute (store : Store) (line : Option Nat) (format : String) (args : List Expr) :
    Except Failure Rendered :=
  renderWith id store line format args

theorem renderPieces_eq_renderPiecesWith (store : Store) (line : Option Nat) (ps : List Piece)
    (args : List Expr) (progress : Progress) :
    renderPieces store line ps args progress = renderPiecesWith expandEscapes store line ps args progress := by
  induction ps generalizing args progress with
  | nil => rfl
  | cons piece more ih =>
    cases piece with
    | literal text => exact ih _ _
    | spec spec => simp only [renderPieces, renderPiecesWith, ih]

/-- Printing expanded pieces as they stand is printing the raw pieces
expanded. -/
theorem renderPiecesWith_map_expand (store : Store) (line : Option Nat) (ps : List Piece)
    (args : List Expr) (progress : Progress) :
    renderPiecesWith id store line (ps.map Piece.expand) args progress =
      renderPiecesWith expandEscapes store line ps args progress := by
  induction ps generalizing args progress with
  | nil => rfl
  | cons piece more ih =>
    cases piece with
    | literal text => exact ih _ _
    | spec spec => simp only [List.map_cons, Piece.expand, renderPiecesWith, ih]

theorem render_eq_renderWith (store : Store) (line : Option Nat) (format : String) (args : List Expr) :
    render store line format args = renderWith expandEscapes store line format args := by
  simp only [render, renderWith, renderPieces_eq_renderPiecesWith]

/-- Expanding the escapes of literal text after the format is cut into
pieces gives what substituting into the fully expanded format gives: the
same text, the same warnings, and the same errors. -/
theorem render_eq_substitute_expandEscapes (store : Store) (line : Option Nat) (format : String)
    (args : List Expr) :
    render store line format args = substitute store line (expandEscapesIn format) args := by
  rw [render_eq_renderWith, substitute, renderWith, renderWith, expandEscapesIn, String.toList_ofList,
    pieces_expandEscapes, renderPiecesWith_map_expand]

end ClassroomC.Printf
