import Mathlib.Data.List.Chain
import ClassroomC.Verdict

/-!
# Normal forms of judged output

A text is in normal form (`IsNormal`) when its only blanks are spaces and
line breaks, two spaces never meet, no space touches a line break, and it
neither starts nor ends with a blank. The main statements: the normal form
of every text is normal, and a normal text is its own normal form. So
normalizing twice is normalizing once, the texts that normalizing leaves
alone are exactly the normal ones, and every text is judged equal to its
normal form.

The proof goes through the lines. A text is `Spaced` when, put between two
line breaks, it has no two spaces side by side and no space beside a break:
a cleaned line is spaced, and a text joined from lines by line breaks is
spaced exactly when each of its lines is.
-/

namespace ClassroomC.Verdict

open Unicode

/-- Two neighbouring characters of normal text: not two spaces, and not a
space beside a line break. -/
def Neighbours (a b : Char) : Prop :=
  ¬ (a = ' ' ∧ b = ' ') ∧ ¬ (a = ' ' ∧ b = '\n') ∧ ¬ (a = '\n' ∧ b = ' ')

instance : DecidableRel Neighbours := fun a b =>
  inferInstanceAs (Decidable (¬ (a = ' ' ∧ b = ' ') ∧ ¬ (a = ' ' ∧ b = '\n') ∧ ¬ (a = '\n' ∧ b = ' ')))

/-- A text whose blanks are spaces and line breaks, and which, put between
two line breaks, has no two spaces side by side and no space beside a
break. -/
structure Spaced (cs : List Char) : Prop where
  blanks : ∀ c ∈ cs, isSpace c = true → c = ' ' ∨ c = '\n'
  framed : ('\n' :: cs ++ ['\n']).IsChain Neighbours

/-- A text in normal form: its only blanks are spaces and line breaks, two
spaces never meet, no space touches a line break, and it neither starts nor
ends with a blank. A carriage return is a blank, so a normal text has none. -/
structure IsNormal (cs : List Char) : Prop where
  blanks : ∀ c ∈ cs, isSpace c = true → c = ' ' ∨ c = '\n'
  neighbours : cs.IsChain Neighbours
  headSolid : ∀ c ∈ cs.head?, isSpace c = false
  lastSolid : ∀ c ∈ cs.getLast?, isSpace c = false

-- Decided through Boolean scans: a quantifier over all characters would be
-- decided by running through every character.
instance (cs : List Char) : Decidable (IsNormal cs) :=
  decidable_of_iff
    ((cs.all fun c => !isSpace c || c == ' ' || c == '\n') = true ∧ cs.IsChain Neighbours ∧
      (cs.head?.all fun c => !isSpace c) = true ∧ (cs.getLast?.all fun c => !isSpace c) = true)
    ⟨fun ⟨blanks, neighbours, headSolid, lastSolid⟩ =>
      ⟨by simpa [or_iff_not_imp_left] using blanks, neighbours, by simpa [Option.all_eq_true] using headSolid,
        by simpa [Option.all_eq_true] using lastSolid⟩,
      fun normal => ⟨by simpa [or_iff_not_imp_left] using normal.blanks, normal.neighbours,
        by simpa [Option.all_eq_true] using normal.headSolid, by simpa [Option.all_eq_true] using normal.lastSolid⟩⟩

example : IsNormal ['S', 'u', 'm', ':', ' ', '8', '\n', '\n', 'o', 'k'] := by decide
example : ¬ IsNormal ['a', ' ', '\n', 'b'] ∧ ¬ IsNormal ['a', '\r'] := by decide

/-! ## Spaced texts and their lines -/

section Spaced

variable {cs : List Char}

theorem Spaced.chain (spaced : Spaced cs) : cs.IsChain Neighbours :=
  spaced.framed.infix ⟨['\n'], ['\n'], rfl⟩

/-- A spaced text neither starts nor ends with a space. -/
theorem Spaced.head_ne (spaced : Spaced cs) : ∀ c ∈ cs.head?, c ≠ ' ' := by
  intro c first same
  subst same
  rw [Option.mem_def] at first
  have afterBreak := (List.isChain_cons.mp spaced.framed).1 ' ' (by simp [List.head?_append, first])
  exact afterBreak.2.2 ⟨rfl, rfl⟩

theorem Spaced.last_ne (spaced : Spaced cs) : ∀ c ∈ cs.getLast?, c ≠ ' ' := by
  intro c final same
  subst same
  rw [Option.mem_def] at final
  have beforeBreak :=
    (List.isChain_append.mp spaced.framed).2.2 ' ' (by simp [List.getLast?_cons, final]) '\n' rfl
  exact beforeBreak.2.1 ⟨rfl, rfl⟩

theorem spaced_nil : Spaced [] :=
  ⟨by simp, by simp [Neighbours]⟩

/-- Two texts joined by a line break are spaced exactly when both are. -/
theorem spaced_break_iff {front back : List Char} :
    Spaced (front ++ '\n' :: back) ↔ Spaced front ∧ Spaced back := by
  -- the break between them frames both
  have framing : '\n' :: (front ++ '\n' :: back) ++ ['\n'] =
      ('\n' :: front) ++ '\n' :: (back ++ ['\n']) := by simp
  constructor
  · rintro ⟨blanks, framed⟩
    rw [framing, List.isChain_split] at framed
    exact ⟨⟨fun c mem => blanks c (by simp [mem]), framed.1⟩,
      ⟨fun c mem => blanks c (by simp [mem]), framed.2⟩⟩
  · rintro ⟨⟨frontBlanks, frontFramed⟩, ⟨backBlanks, backFramed⟩⟩
    refine ⟨fun c mem => ?_, ?_⟩
    · simp only [List.mem_append, List.mem_cons] at mem
      rcases mem with inFront | rfl | inBack
      · exact frontBlanks c inFront
      · exact fun _ => .inr rfl
      · exact backBlanks c inBack
    · rw [framing, List.isChain_split]
      exact ⟨frontFramed, backFramed⟩

/-- Lines joined by line breaks are spaced exactly when every line is. -/
theorem spaced_intercalate_iff (lines : List (List Char)) :
    Spaced (['\n'].intercalate lines) ↔ ∀ line ∈ lines, Spaced line := by
  induction lines with
  | nil => simpa using spaced_nil
  | cons line more ih =>
      cases more with
      | nil => simp
      | cons next rest =>
          rw [List.intercalate_cons_cons, List.append_assoc, List.singleton_append,
            spaced_break_iff, ih]
          simp

end Spaced

/-! ## Trimming -/

section Trim

variable {cs : List Char}

/-- What is left after dropping a run starts with no member of the run. -/
theorem dropWhile_headSolid (p : Char → Bool) (cs : List Char) :
    ∀ c ∈ (cs.dropWhile p).head?, p c = false := by
  intro c first
  have solid := List.head?_dropWhile_not p cs
  rw [Option.mem_def.mp first] at solid
  exact solid

theorem dropWhile_of_head {p : Char → Bool} {cs : List Char} (solid : ∀ c ∈ cs.head?, p c = false) :
    cs.dropWhile p = cs := by
  cases cs with
  | nil => rfl
  | cons c rest => simp_all

/-- Trimming keeps the front of the text after its leading blanks. -/
theorem trimBlanks_isPrefix_dropWhile (cs : List Char) : trimBlanks cs <+: cs.dropWhile isSpace := by
  have kept := List.reverse_prefix.mpr (List.dropWhile_suffix (l := (cs.dropWhile isSpace).reverse) isSpace)
  rwa [List.reverse_reverse] at kept

theorem trimBlanks_isInfix_self (cs : List Char) : trimBlanks cs <:+: cs :=
  (trimBlanks_isPrefix_dropWhile cs).isInfix.trans (List.dropWhile_suffix isSpace).isInfix

theorem trimBlanks_headSolid (cs : List Char) : ∀ c ∈ (trimBlanks cs).head?, isSpace c = false := by
  intro c first
  obtain ⟨rest, whole⟩ := trimBlanks_isPrefix_dropWhile cs
  apply dropWhile_headSolid isSpace cs
  rw [← whole, List.head?_append, Option.mem_def.mp first]
  rfl

theorem trimBlanks_lastSolid (cs : List Char) : ∀ c ∈ (trimBlanks cs).getLast?, isSpace c = false := by
  intro c final
  rw [trimBlanks, List.getLast?_reverse] at final
  exact dropWhile_headSolid isSpace _ c final

/-- A text with no member of a run at either end is left alone when the runs
at both ends are dropped. -/
theorem trim_eq_self {p : Char → Bool} (headSolid : ∀ c ∈ cs.head?, p c = false)
    (lastSolid : ∀ c ∈ cs.getLast?, p c = false) : ((cs.dropWhile p).reverse.dropWhile p).reverse = cs := by
  have back : ∀ c ∈ cs.reverse.head?, p c = false := by simpa using lastSolid
  rw [dropWhile_of_head headSolid, dropWhile_of_head back, List.reverse_reverse]

/-- A text with no blank at either end is its own trimming. -/
theorem trimBlanks_eq_self (headSolid : ∀ c ∈ cs.head?, isSpace c = false)
    (lastSolid : ∀ c ∈ cs.getLast?, isSpace c = false) : trimBlanks cs = cs :=
  trim_eq_self headSolid lastSolid

/-- Trimming a text whose blanks are spaces and line breaks, with no space
beside a space or a break, gives a normal text. -/
theorem isNormal_trimBlanks (blanks : ∀ c ∈ cs, isSpace c = true → c = ' ' ∨ c = '\n')
    (chain : cs.IsChain Neighbours) : IsNormal (trimBlanks cs) where
  blanks c mem := blanks c ((trimBlanks_isInfix_self cs).subset mem)
  neighbours := chain.infix (trimBlanks_isInfix_self cs)
  headSolid := trimBlanks_headSolid cs
  lastSolid := trimBlanks_lastSolid cs

theorem IsNormal.spaced (normal : IsNormal cs) : Spaced cs where
  blanks := normal.blanks
  framed := by
    have headNe : ∀ c ∈ cs.head?, c ≠ ' ' := fun c first same => by
      simpa [same, isSpace] using normal.headSolid c first
    have lastNe : ∀ c ∈ cs.getLast?, c ≠ ' ' := fun c final same => by
      simpa [same, isSpace] using normal.lastSolid c final
    refine List.isChain_append.mpr ⟨List.isChain_cons.mpr ⟨?_, normal.neighbours⟩, by simp, ?_⟩
    · intro c first
      exact ⟨by simp, by simp, fun both => headNe c first both.2⟩
    · intro last final next isBreak
      simp only [List.head?_cons, Option.mem_def, Option.some.injEq] at isBreak
      simp only [List.getLast?_cons, Option.mem_def, Option.some.injEq] at final
      subst isBreak final
      -- the text before the closing break ends in its own last character, or is empty
      cases lastOf : cs.getLast? with
      | none => decide
      | some last => simp [Neighbours, lastNe last lastOf]

end Trim

/-! ## Collapsing runs of blanks -/

section Collapse

theorem collapseBlanks_cons_blank {c : Char} {rest : List Char} (blank : isInlineBlank c = true) :
    collapseBlanks (c :: rest) = ' ' :: collapseBlanks (rest.dropWhile isInlineBlank) := by
  -- through the unfolding lemma: proving the equation lemmas first tries
  -- definitional unfolding of the well-founded recursion, which is slow
  rw [collapseBlanks.eq_def]
  simp [blank]

theorem collapseBlanks_cons_solid {c : Char} {rest : List Char} (solid : isInlineBlank c = false) :
    collapseBlanks (c :: rest) = c :: collapseBlanks rest := by
  rw [collapseBlanks.eq_def]
  simp [solid]

theorem isInlineBlank_space : isInlineBlank ' ' = true := by decide

theorem ne_space_of_solid {c : Char} (solid : isInlineBlank c = false) : c ≠ ' ' := by
  rintro rfl
  simp [isInlineBlank_space] at solid

/-- Collapsing keeps the text of a line that starts with no blank. -/
theorem collapseBlanks_head {cs : List Char} (solid : ∀ c ∈ cs.head?, isInlineBlank c = false) :
    (collapseBlanks cs).head? = cs.head? := by
  cases cs with
  | nil => simp [collapseBlanks.eq_def]
  | cons c rest => simp [collapseBlanks_cons_solid (solid c rfl)]

/-- What collapsing leaves: spaces, and the characters of the text that are
no inline blank. -/
theorem mem_collapseBlanks {cs : List Char} {c : Char} (mem : c ∈ collapseBlanks cs) :
    c = ' ' ∨ c ∈ cs ∧ isInlineBlank c = false := by
  fun_induction collapseBlanks cs with
  | case1 first rest blank ih =>
      simp only [List.mem_cons] at mem
      rcases mem with same | inRest
      · exact .inl same
      · rcases ih inRest with space | ⟨kept, solid⟩
        · exact .inl space
        · exact .inr ⟨List.mem_cons_of_mem _ ((List.dropWhile_suffix _).subset kept), solid⟩
  | case2 first rest solid ih =>
      simp only [List.mem_cons] at mem
      rcases mem with same | inRest
      · subst same
        exact .inr ⟨List.mem_cons_self, by simpa using solid⟩
      · rcases ih inRest with space | ⟨kept, solid⟩
        · exact .inl space
        · exact .inr ⟨List.mem_cons_of_mem _ kept, solid⟩
  | case3 => simp at mem

/-- After collapsing, two spaces never meet. -/
theorem collapseBlanks_chain (cs : List Char) :
    (collapseBlanks cs).IsChain fun a b => ¬ (a = ' ' ∧ b = ' ') := by
  fun_induction collapseBlanks cs with
  | case1 first rest blank ih =>
      -- the run is gone: what follows the space is no blank
      have solid := dropWhile_headSolid isInlineBlank rest
      refine List.isChain_cons.mpr ⟨fun next follows ⟨_, same⟩ => ?_, ih⟩
      rw [collapseBlanks_head solid] at follows
      have blank := solid next follows
      rw [same, isInlineBlank_space] at blank
      exact Bool.noConfusion blank
  | case2 first rest solid ih =>
      exact List.isChain_cons.mpr
        ⟨fun _ _ ⟨same, _⟩ => ne_space_of_solid (by simpa using solid) same, ih⟩
  | case3 => simp

/-- A line whose blanks are single spaces is left as it is. -/
theorem collapseBlanks_eq_self {cs : List Char} (blanks : ∀ c ∈ cs, isInlineBlank c = true → c = ' ')
    (single : cs.IsChain fun a b => ¬ (a = ' ' ∧ b = ' ')) : collapseBlanks cs = cs := by
  fun_induction collapseBlanks cs with
  | case1 first rest blank ih =>
      have space := blanks first List.mem_cons_self blank
      subst space
      -- a space is followed by no blank, so the run is the space alone
      have unchanged : rest.dropWhile isInlineBlank = rest := by
        apply dropWhile_of_head
        intro next follows
        cases isBlank : isInlineBlank next
        · rfl
        · have space := blanks next (List.mem_cons_of_mem _ (List.mem_of_mem_head? follows)) isBlank
          exact absurd ⟨rfl, space⟩ ((List.isChain_cons.mp single).1 next follows)
      rw [unchanged] at ih ⊢
      rw [ih (fun c mem => blanks c (List.mem_cons_of_mem _ mem)) single.tail]
  | case2 first rest solid ih =>
      rw [ih (fun c mem => blanks c (List.mem_cons_of_mem _ mem)) single.tail]
  | case3 => simp

end Collapse

/-! ## Lines -/

section Lines

variable {line : List Char}

/-- A line without breaks, collapsed and trimmed, is spaced. -/
theorem spaced_cleaned (unbroken : '\n' ∉ line) : Spaced (trimBlanks (collapseBlanks line)) := by
  have kept : ∀ c ∈ collapseBlanks line, c = ' ' ∨ c ≠ '\n' ∧ isInlineBlank c = false :=
    fun c mem => (mem_collapseBlanks mem).imp_right
      fun found => ⟨fun same => unbroken (same ▸ found.1), found.2⟩
  have blanks : ∀ c ∈ collapseBlanks line, isSpace c = true → c = ' ' ∨ c = '\n' := by
    intro c mem blank
    rcases kept c mem with space | ⟨notBreak, solid⟩
    · exact .inl space
    · simp [isInlineBlank, blank, notBreak] at solid
  have chain : (collapseBlanks line).IsChain Neighbours := by
    refine (collapseBlanks_chain line).imp_of_mem_imp fun a b inA inB single => ⟨single, ?_, ?_⟩
    · rintro ⟨-, rfl⟩
      rcases kept _ inB with bad | ⟨bad, -⟩ <;> simp at bad
    · rintro ⟨rfl, -⟩
      rcases kept _ inA with bad | ⟨bad, -⟩ <;> simp at bad
  exact (isNormal_trimBlanks blanks chain).spaced

/-- A spaced line without breaks is left as it is by cleaning. -/
theorem cleaned_of_spaced (spaced : Spaced line) (unbroken : '\n' ∉ line) :
    trimBlanks (collapseBlanks line) = line := by
  have onlySpaces : ∀ c ∈ line, isSpace c = true → c = ' ' := fun c mem blank =>
    (spaced.blanks c mem blank).resolve_right fun same => unbroken (same ▸ mem)
  have collapsed : collapseBlanks line = line := by
    refine collapseBlanks_eq_self (fun c mem blank => onlySpaces c mem ?_) ?_
    · simp only [isInlineBlank, Bool.and_eq_true] at blank
      exact blank.1
    · exact spaced.chain.imp fun _ _ neighbours => neighbours.1
  have headSolid : ∀ c ∈ line.head?, isSpace c = false := fun c first => by
    cases blank : isSpace c
    · rfl
    · exact absurd (onlySpaces c (List.mem_of_mem_head? first) blank) (spaced.head_ne c first)
  have lastSolid : ∀ c ∈ line.getLast?, isSpace c = false := fun c final => by
    cases blank : isSpace c
    · rfl
    · exact absurd (onlySpaces c (List.mem_of_getLast? final) blank) (spaced.last_ne c final)
  rw [collapsed, trimBlanks_eq_self headSolid lastSolid]

/-- The lines of a text hold no line break. -/
theorem break_not_mem_of_mem_splitOn {cs : List Char} (mem : line ∈ cs.splitOn '\n') :
    '\n' ∉ line := by
  induction cs generalizing line with
  | nil =>
      simp only [List.splitOn_nil, List.mem_singleton] at mem
      simp [mem]
  | cons c rest ih =>
      rw [List.splitOn_cons_eq_if_modifyHead] at mem
      split at mem
      · simp only [List.mem_cons] at mem
        rcases mem with rfl | inRest
        · simp
        · exact ih inRest
      · next notBreak =>
          obtain ⟨first, others, lines⟩ := List.exists_cons_of_ne_nil (List.splitOn_ne_nil '\n' rest)
          rw [lines, List.modifyHead_cons, List.mem_cons] at mem
          rcases mem with rfl | inOthers
          · simp only [List.mem_cons, not_or]
            refine ⟨fun same => ?_, ih (lines ▸ List.mem_cons_self)⟩
            subst same
            exact notBreak (beq_self_eq_true _)
          · exact ih (lines ▸ List.mem_cons_of_mem _ inOthers)

end Lines

/-! ## The normal form -/

/-- A text without carriage returns has its line breaks already unified. -/
theorem unifyBreaks_eq_self {cs : List Char} (noReturn : '\r' ∉ cs) : unifyBreaks cs = cs := by
  fun_induction unifyBreaks cs with
  | case1 rest ih => simp at noReturn
  | case2 rest ih => simp at noReturn
  | case3 c rest _ _ ih => rw [ih (fun mem => noReturn (List.mem_cons_of_mem _ mem))]
  | case4 => rfl

theorem toList_normalize (text : String) :
    (normalize text).toList = trimBlanks (['\n'].intercalate
      (((unifyBreaks text.toList).splitOn '\n').map fun line => trimBlanks (collapseBlanks line))) := by
  simp [normalize]

/-- Every text normalizes to a normal text. -/
theorem isNormal_normalize (text : String) : IsNormal (normalize text).toList := by
  rw [toList_normalize]
  have spaced := (spaced_intercalate_iff (((unifyBreaks text.toList).splitOn '\n').map
      fun line => trimBlanks (collapseBlanks line))).mpr fun cleaned mem => by
    obtain ⟨line, isLine, rfl⟩ := List.mem_map.mp mem
    exact spaced_cleaned (break_not_mem_of_mem_splitOn isLine)
  exact isNormal_trimBlanks spaced.blanks spaced.chain

/-- A normal text is its own normal form. -/
theorem normalize_of_isNormal {text : String} (normal : IsNormal text.toList) :
    normalize text = text := by
  have noReturn : '\r' ∉ text.toList := fun mem => by
    simpa using normal.blanks '\r' mem (by decide)
  -- a normal text is spaced, so each of its lines is, and cleaning leaves the lines alone
  have linesSpaced := (spaced_intercalate_iff (text.toList.splitOn '\n')).mp
    ((List.intercalate_splitOn '\n').symm ▸ normal.spaced)
  have cleaned : (text.toList.splitOn '\n').map (fun line => trimBlanks (collapseBlanks line)) =
      text.toList.splitOn '\n' := by
    conv_rhs => rw [← List.map_id (text.toList.splitOn '\n')]
    exact List.map_congr_left fun line mem =>
      cleaned_of_spaced (linesSpaced line mem) (break_not_mem_of_mem_splitOn mem)
  rw [← String.toList_inj, toList_normalize, unifyBreaks_eq_self noReturn, cleaned,
    List.intercalate_splitOn, trimBlanks_eq_self normal.headSolid normal.lastSolid]

/-- The texts that normalizing leaves alone are exactly the normal ones. -/
theorem normalize_eq_self_iff {text : String} : normalize text = text ↔ IsNormal text.toList := by
  constructor
  · intro fixed
    rw [← fixed]
    exact isNormal_normalize text
  · exact normalize_of_isNormal

@[simp] theorem normalize_normalize (text : String) : normalize (normalize text) = normalize text :=
  normalize_of_isNormal (isNormal_normalize text)

/-- A text is judged equal to its normal form. -/
theorem judge_normalize (text : String) : judge text (normalize text) = true := by
  simp [judge]

/-- Normalizing projects onto the normal texts: it is idempotent, its fixed
points are exactly the normal texts, and every text passes the judge against
its own normal form. -/
theorem normalize_projects_onto_normal_texts :
    (∀ text, normalize (normalize text) = normalize text) ∧
      (∀ text, normalize text = text ↔ IsNormal text.toList) ∧
      ∀ text, judge text (normalize text) = true :=
  ⟨normalize_normalize, fun _ => normalize_eq_self_iff, judge_normalize⟩

end ClassroomC.Verdict
