import ClassroomC.Proofs.Marks

/-!
# Runs without advance marks

The prepared store marks declared only names that the program declares at
its top level: nested declarations get storage but no mark. So a run from the
prepared store is a run whose marks are ahead, by top-level names only, of
those of the run from the same store with every mark removed, where a name
is marked exactly when a declaration of it has run.

When no top-level name is read before a declaration of it has surely run,
the two runs agree on everything but the marks: every access that succeeds
in the program's run follows a declaration of that name that the run itself
executed.
-/

namespace ClassroomC

theorem bind_eq_ok {ε α β : Type} {x : Except ε α} {f : α → Except ε β} {result : β}
    (bound : x >>= f = .ok result) : ∃ value, x = .ok value ∧ f value = .ok result := by
  cases x with
  | error error => cases bound
  | ok value => exact ⟨value, rfl, bound⟩

theorem bind_eq_error {ε α β : Type} {x : Except ε α} {f : α → Except ε β} {error : ε}
    (failed : x >>= f = .error error) :
    x = .error error ∨ ∃ value, x = .ok value ∧ f value = .error error := by
  cases x with
  | error error' =>
      cases failed
      exact .inl rfl
  | ok value => exact .inr ⟨value, rfl, failed⟩

theorem mapError_eq_ok {ε ε' α : Type} {f : ε → ε'} {x : Except ε α} {value : α}
    (mapped : x.mapError f = .ok value) : x = .ok value := by
  cases x with
  | error error => cases mapped
  | ok value' =>
      cases mapped
      rfl

theorem mapError_eq_error {ε ε' α : Type} {f : ε → ε'} {x : Except ε α} {error : ε'}
    (mapped : x.mapError f = .error error) : ∃ cause, x = .error cause ∧ error = f cause := by
  cases x with
  | error cause =>
      cases mapped
      exact ⟨cause, rfl, rfl⟩
  | ok value => cases mapped

namespace Binding

/-- Every name `state'` marks declared was marked in `state` already, or is
one of `names`. -/
def MarksFrom (state state' : State) (names : List String) : Prop :=
  ∀ name, state'.store.declared.contains name = true →
    state.store.declared.contains name = true ∨ name ∈ names

namespace MarksFrom

variable {state state' state'' : State} {names names' : List String}

theorem refl : MarksFrom state state names :=
  fun _ marked => .inl marked

theorem of_store (same : state'.store = state.store) : MarksFrom state state' names :=
  fun _ marked => .inl (same ▸ marked)

theorem trans (first : MarksFrom state state' names) (second : MarksFrom state' state'' names') :
    MarksFrom state state'' (names ++ names') := by
  intro name marked
  rcases second name marked with before | listed
  · rcases first name before with earlier | listedFirst
    · exact .inl earlier
    · exact .inr (List.mem_append_left _ listedFirst)
  · exact .inr (List.mem_append_right _ listed)

theorem mono (marks : MarksFrom state state' names) (sub : names ⊆ names') :
    MarksFrom state state' names' := by
  intro name marked
  rcases marks name marked with before | listed
  · exact .inl before
  · exact .inr (sub listed)

theorem of_mark {name : String} {reached : Bool}
    (marked : state'.store.declared =
      if reached then state.store.declared.insert name else state.store.declared.erase name) :
    MarksFrom state state' (if reached then [name] else []) := by
  intro name' markedThere
  rw [marked] at markedThere
  cases reached with
  | false =>
      rw [if_neg Bool.false_ne_true, Std.HashSet.contains_erase, Bool.and_eq_true] at markedThere
      exact .inl markedThere.2
  | true =>
      rw [if_pos rfl, Std.HashSet.contains_insert, Bool.or_eq_true] at markedThere
      rcases markedThere with same | before
      · exact .inr (by simpa using (beq_iff_eq.mp same).symm)
      · exact .inl before

end MarksFrom

variable {topLevel : Bool} {state state' : State}

theorem declare_marks {name : String} {value : Option Expr} {line : Nat}
    (bound : declare topLevel state name value line = .ok state') :
    MarksFrom state state' (if topLevel then [name] else []) := by
  obtain ⟨store, seen, constant⟩ := state
  simp only [declare, bind, Except.bind] at bound
  -- every way through the initializer ends in the same update of the store
  repeat' split at bound
  all_goals cases bound
  all_goals exact MarksFrom.of_mark Store.declareScalar_declared

theorem assign_store {target : Target} {op : AssignOp} {value : Expr} {line : Nat}
    (bound : bindStmt topLevel state (.assign target op value line) = .ok state') :
    state'.store = state.store := by
  simp only [bindStmt, bind, Except.bind] at bound
  repeat' split at bound
  all_goals cases bound
  all_goals rfl

theorem forLoop_bound {init : Option Stmt} {condition : Option Expr} {step : Option Stmt}
    {body : List Stmt} {line : Nat}
    (bound : bindStmt topLevel state (.forLoop init condition step body line) = .ok state') :
    ∃ initState bodyState, bindPart topLevel state init = .ok initState ∧
      bindBody initState body = .ok bodyState ∧ bindPart false bodyState step = .ok state' := by
  obtain ⟨initState, initBound, afterInit⟩ := bind_eq_ok bound
  have afterCondition :
      (do let state ← bindBody initState body; bindPart false state step) = .ok state' := by
    cases condition with
    | none => exact afterInit
    | some condition =>
        simp only at afterInit
        obtain ⟨_, _, afterCheck⟩ := bind_eq_ok afterInit
        exact afterCheck
  obtain ⟨bodyState, bodyBound, stepBound⟩ := bind_eq_ok afterCondition
  exact ⟨initState, bodyState, initBound, bodyBound, stepBound⟩

theorem whileLoop_bound {condition : Expr} {body : List Stmt} {line : Nat}
    (bound : bindStmt topLevel state (.whileLoop condition body line) = .ok state') :
    bindBody state body = .ok state' := by
  obtain ⟨_, _, bodyBound⟩ := bind_eq_ok bound
  exact bodyBound

theorem doWhile_bound {body : List Stmt} {condition : Expr} {line : Nat}
    (bound : bindStmt topLevel state (.doWhile body condition line) = .ok state') :
    bindBody state body = .ok state' := by
  obtain ⟨bodyState, bodyBound, afterBody⟩ := bind_eq_ok bound
  obtain ⟨_, _, returned⟩ := bind_eq_ok afterBody
  cases returned
  exact bodyBound

theorem print_bound {format : String} {args : List Expr} {line : Nat}
    (bound : bindStmt topLevel state (.print format args line) = .ok state') : state' = state := by
  obtain ⟨_, _, returned⟩ := bind_eq_ok bound
  cases returned
  rfl

theorem ret_bound {value : Expr} {line : Nat}
    (bound : bindStmt topLevel state (.ret (some value) line) = .ok state') : state' = state := by
  obtain ⟨_, _, returned⟩ := bind_eq_ok bound
  cases returned
  rfl

/-- The binder marks only what a statement walked at the top level
declares; nested walks mark nothing. -/
theorem bind_marks :
    (∀ topLevel state stmt state', bindStmt topLevel state stmt = .ok state' →
      MarksFrom state state' (if topLevel then stmt.declares else [])) ∧
    (∀ topLevel state part state', bindPart topLevel state part = .ok state' →
      MarksFrom state state' (if topLevel then Stmt.partDeclares part else [])) ∧
    (∀ state body state', bindBody state body = .ok state' → MarksFrom state state' []) ∧
    (∀ line state branches state', bindBranches line state branches = .ok state' →
      MarksFrom state state' []) := by
  apply bindStmt.mutual_induct
    (fun topLevel state stmt => ∀ state', bindStmt topLevel state stmt = .ok state' →
      MarksFrom state state' (if topLevel then stmt.declares else []))
    (fun topLevel state part => ∀ state', bindPart topLevel state part = .ok state' →
      MarksFrom state state' (if topLevel then Stmt.partDeclares part else []))
    (fun state body => ∀ state', bindBody state body = .ok state' → MarksFrom state state' [])
    (fun line state branches => ∀ state', bindBranches line state branches = .ok state' →
      MarksFrom state state' [])
  · intro topLevel state name value line state' bound
    have marks := declare_marks bound
    cases topLevel <;> exact marks
  · intro topLevel name size values line store seen constant state' bound
    cases bound
    have marks : MarksFrom ⟨store, seen, constant⟩
        ⟨store.declareArray name values (arrayLength size values) topLevel, seen.insert name,
          constant.erase name⟩ (if topLevel then [name] else []) :=
      MarksFrom.of_mark Store.declareArray_declared
    cases topLevel <;> exact marks
  · intro topLevel state target op value line state' bound
    exact MarksFrom.of_store (assign_store bound)
  · intro topLevel state branches elseBody line armsMark elseMark state' bound
    obtain ⟨armsState, armsBound, elseBound⟩ := bind_eq_ok bound
    exact ((armsMark armsState armsBound).trans (elseMark armsState state' elseBound)).mono
      fun _ mem => by simp at mem
  · intro topLevel state init condition step body line initMark bodyMark stepMark state' bound
    obtain ⟨initState, bodyState, initBound, bodyBound, stepBound⟩ := forLoop_bound bound
    have marks := ((initMark initState initBound).trans
      (bodyMark initState bodyState bodyBound)).trans (stepMark bodyState state' stepBound)
    rw [Stmt.declares_forLoop]
    exact marks.mono fun _ mem => by simpa using mem
  · intro topLevel state condition body line bodyMark state' bound
    exact (bodyMark state' (whileLoop_bound bound)).mono fun _ mem => by simp at mem
  · intro topLevel state body condition line bodyMark state' bound
    exact (bodyMark state' (doWhile_bound bound)).mono fun _ mem => by simp at mem
  · intro topLevel state format args line state' bound
    cases print_bound bound
    exact MarksFrom.refl
  · intro topLevel state line value state' bound
    cases ret_bound bound
    exact MarksFrom.refl
  · intro topLevel state line state' bound
    cases bound
    exact MarksFrom.refl
  · intro topLevel state line state' bound
    cases bound
    exact MarksFrom.refl
  · intro topLevel state line state' bound
    cases bound
    exact MarksFrom.refl
  · intro line state state' bound
    cases bound
    exact MarksFrom.refl
  · intro line state condition body more bodyMark moreMark state' bound
    obtain ⟨_, _, afterCondition⟩ := bind_eq_ok bound
    obtain ⟨bodyState, bodyBound, moreBound⟩ := bind_eq_ok afterCondition
    exact (bodyMark bodyState bodyBound).trans (moreMark bodyState state' moreBound)
  · intro state state' bound
    cases bound
    exact MarksFrom.refl
  · intro state stmt more stmtMark moreMark state' bound
    obtain ⟨stmtState, stmtBound, moreBound⟩ := bind_eq_ok bound
    exact (stmtMark stmtState stmtBound).trans (moreMark stmtState state' moreBound)
  · intro topLevel state stmt stmtMark state' bound
    exact stmtMark state' bound
  · intro topLevel state state' bound
    cases bound
    exact MarksFrom.refl

theorem bindTop_marks (body : List Stmt) (bound : bindTop state body = .ok state') :
    MarksFrom state state' (body.flatMap Stmt.declares) := by
  induction body generalizing state with
  | nil =>
      cases bound
      exact MarksFrom.refl
  | cons stmt more ih =>
      obtain ⟨stmtState, stmtBound, moreBound⟩ := bind_eq_ok bound
      have first := bind_marks.1 true state stmt stmtState stmtBound
      rw [List.flatMap_cons]
      exact first.trans (ih moreBound)

end Binding

/-- The prepared store marks declared only names that the program declares
at its top level. -/
theorem Program.bind_marks {program : Program} {store : Store} (bound : program.bind = .ok store)
    (name : String) (marked : store.declared.contains name = true) :
    name ∈ program.body.flatMap Stmt.declares := by
  obtain ⟨state, walked, returned⟩ := bind_eq_ok bound
  cases returned
  rcases Binding.bindTop_marks program.body walked name marked with before | listed
  · simp at before
  · exact listed

/-- The store with no name marked declared. -/
def Store.unmarked (store : Store) : Store := { store with declared := {} }

/-- A finished run with its marks forgotten. -/
def Finished.unmarked (finished : Finished) : Finished :=
  { finished with machine := finished.machine.remark {} }

/-- A program that reads no top-level name before a declaration of it has
surely run runs from its prepared store as from that store with every mark
removed: the same failure, or the same output, warnings, slots, loop count
and exit code. -/
theorem reads_follow_executed_declarations {program : Program} {store : Store}
    (bound : program.bind = .ok store)
    (declaredFirst : ∀ name ∈ Stmt.bodyFreeNames program.body,
      name ∉ program.body.flatMap Stmt.declares)
    (limits : Limits) :
    (execute limits store program.body).map Finished.unmarked =
      (execute limits store.unmarked program.body).map Finished.unmarked := by
  obtain ⟨ending, ran⟩ := Runs.body_exists limits (Machine.start store.unmarked) 0 program.body
  have ahead : (Machine.start store.unmarked).MarksAhead
      (· ∈ program.body.flatMap Stmt.declares) store.declared := by
    constructor
    · intro name unmarked
      simp [Machine.start, Store.unmarked] at unmarked
    · intro name marked
      exact .inr (Program.bind_marks bound name marked)
  have covers : (Machine.start store.unmarked).Covers (· ∈ program.body.flatMap Stmt.declares)
      (Code.body program.body).freeNames :=
    fun name free declaredTop => absurd declaredTop (declaredFirst name free)
  obtain ⟨marks, marked, _⟩ := ran.remark ahead covers
  have start : (Machine.start store.unmarked).remark store.declared = Machine.start store := rfl
  rw [start] at marked
  rw [execute_eq_of_runs marked, execute_eq_of_runs ran]
  cases ending with
  | done machine iterations flow => cases flow <;> rfl
  | failed failure count => rfl

theorem reads_follow_executed_declarations_printing :
    (⟨["stdio.h"], [.decl "x" (some (.int 1)) 3, .print "%d" [.var "x"] 4]⟩ : Program).bind =
        .ok (Store.empty.declareScalar "x" (Arith.wrap 1) true) ∧
      (∀ name ∈ Stmt.bodyFreeNames [.decl "x" (some (.int 1)) 3, .print "%d" [.var "x"] 4],
        name ∉ [Stmt.decl "x" (some (.int 1)) 3, .print "%d" [.var "x"] 4].flatMap Stmt.declares) ∧
      (execute {} (Store.empty.declareScalar "x" (Arith.wrap 1) true)
          [.decl "x" (some (.int 1)) 3, .print "%d" [.var "x"] 4]).map Finished.unmarked =
        (execute {} (Store.empty.declareScalar "x" (Arith.wrap 1) true).unmarked
          [.decl "x" (some (.int 1)) 3, .print "%d" [.var "x"] 4]).map Finished.unmarked := by
  have bound :
      (⟨["stdio.h"], [.decl "x" (some (.int 1)) 3, .print "%d" [.var "x"] 4]⟩ : Program).bind =
        .ok (Store.empty.declareScalar "x" (Arith.wrap 1) true) := by
    simp [Program.bind, Binding.bindTop, Binding.bindStmt, Binding.declare, Binding.foldable,
      Binding.checkExpr, Binding.checkName, Expr.references, Store.isArray, Store.declareScalar,
      Store.mark, eval, Store.empty, bind, Except.bind, pure, Except.pure]
  have declaredFirst :
      ∀ name ∈ Stmt.bodyFreeNames [.decl "x" (some (.int 1)) 3, .print "%d" [.var "x"] 4],
        name ∉ [Stmt.decl "x" (some (.int 1)) 3, .print "%d" [.var "x"] 4].flatMap
          Stmt.declares := by
    decide
  exact ⟨bound, declaredFirst, reads_follow_executed_declarations bound declaredFirst {}⟩

end ClassroomC
