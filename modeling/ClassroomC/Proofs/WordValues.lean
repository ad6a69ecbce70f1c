import ClassroomC.Proofs.Ring
import ClassroomC.Proofs.References

/-!
# Every integer of a run is a word

Values are wrapped to 32 bits where they are made: a literal when it is
evaluated, the result of every arithmetic operator, and every value written
to the store. Comparisons and the logical operators give `0` or `1`. The
other expressions pass a value on unchanged: a variable or an element read
from the store, and the operand of unary `+`. So in a store that holds words
every value of an expression is a word, however large the literals in it
(`eval_isWord`); only the reads need the store's invariant.

A run keeps the store's representation invariant (`Store.WellFormed`),
since declarations and writes store wrapped values, and the value of a
`return` is the value of an expression. So every value a run stores, every
value it returns as the program's exit code, and every value that `%d` or
`%i` prints is a word (`integers_are_words`).
-/

namespace ClassroomC

/-! ## Expressions -/

namespace Eval

theorem ofBool_isWord (b : Bool) : Arith.IsWord (ofBool b) := by
  cases b <;> exact ⟨by decide, by decide⟩

theorem applyUnary_isWord (op : UnOp) {operand : Int} (word : Arith.IsWord operand) :
    Arith.IsWord (applyUnary op operand) := by
  cases op with
  | neg => exact Arith.isWord_wrap _
  | pos => exact word
  | not => exact ofBool_isWord _

/-- A binary operator gives a word whatever its operands: it wraps what it
computes, or gives a truth value. -/
theorem applyBinary_isWord {op : BinOp} {left right value : Int} {line : Option Nat}
    (applied : applyBinary op left right line = .ok value) : Arith.IsWord value := by
  cases op
  case div | mod =>
    simp only [applyBinary] at applied
    split at applied
    · cases applied
    · cases applied
      exact Arith.isWord_wrap _
  case add | sub | mul =>
    cases applied
    exact Arith.isWord_wrap _
  all_goals
    cases applied
    exact ofBool_isWord _

end Eval

/-- In a store that holds words, the value of every expression is a word. -/
theorem eval_isWord {store : Store} (words : store.HoldsWords) {line : Option Nat} :
    ∀ {expr : Expr} {value : Int}, eval store line expr = .ok value → Arith.IsWord value := by
  intro expr
  -- the reads take their words from the store and `+` passes its operand's
  -- on; every other expression makes a new word
  induction expr with
  | int literal =>
      intro value evaluated
      cases evaluated
      exact Arith.isWord_wrap literal
  | str text =>
      intro value evaluated
      cases evaluated
  | var name =>
      intro value evaluated
      exact Store.get_isWord words evaluated
  | index name position _ =>
      intro value evaluated
      obtain ⟨index, -, read⟩ := bind_eq_ok evaluated
      exact Store.getElement_isWord words read
  | unary op operand ih =>
      intro value evaluated
      obtain ⟨operandValue, operandEvaluated, applied⟩ := bind_eq_ok evaluated
      cases applied
      exact Eval.applyUnary_isWord op (ih operandEvaluated)
  | binary op left right =>
      intro value evaluated
      cases op
      case and | or =>
        obtain ⟨first, -, decided⟩ := bind_eq_ok evaluated
        split at decided
        · cases decided
          exact ⟨by decide, by decide⟩
        · obtain ⟨second, -, combined⟩ := bind_eq_ok decided
          cases combined
          exact Eval.ofBool_isWord _
      all_goals
        obtain ⟨first, -, rest⟩ := bind_eq_ok evaluated
        obtain ⟨second, -, applied⟩ := bind_eq_ok rest
        exact Eval.applyBinary_isWord applied

/-! ## Runs -/

namespace Store

variable {store store' : Store}

theorem declare_wellFormed (wf : store.WellFormed) {name : String} {value : Option Expr}
    {line : Nat} (stored : store.declare name value line = .ok store') : store'.WellFormed := by
  obtain ⟨initial, rfl, -, -⟩ := Store.declare_ok stored
  exact declareScalar_wellFormed wf initial true

theorem assign_wellFormed (wf : store.WellFormed) {target : Target} {op : AssignOp}
    {value : Expr} {line : Nat} (assigned : store.assign target op value line = .ok store') :
    store'.WellFormed := by
  rcases assign_writes assigned with ⟨name, written, stored⟩ | ⟨name, index, written, stored⟩
  · exact set_wellFormed wf stored
  · exact setElement_wellFormed wf stored

end Store

/-- The value a flow returns, if it returns one, is a word. -/
def Flow.ReturnsWord : Flow → Prop
  | .returned (some value) => Arith.IsWord value
  | _ => True

/-- A run keeps to words: when it finishes, its store is well formed and the
value it returns, if it returns one, is a word. -/
def Ending.KeepsWords : Ending → Prop
  | .done machine _ flow => machine.store.WellFormed ∧ flow.ReturnsWord
  | .failed .. => True

theorem Ending.keepsWords_of_exit {ending ending' : Ending} (exits : ending.exit? = some ending')
    (keeps : ending.KeepsWords) : ending'.KeepsWords := by
  cases ending with
  | done machine iterations flow =>
      cases flow with
      | next | continueLoop => cases exits
      | breakLoop =>
          cases exits
          exact ⟨keeps.1, trivial⟩
      | returned value =>
          cases exits
          exact keeps
  | failed failure count =>
      cases exits
      trivial

/-- The run lemma: a run from a well-formed store keeps to words. -/
theorem Runs.keepsWords {limits : Limits} {code : Code} {machine : Machine} {iterations : Nat}
    {ending : Ending} (ran : Runs limits code machine iterations ending)
    (wf : machine.store.WellFormed) : ending.KeepsWords := by
  induction ran with
  | declare declared =>
      obtain ⟨store, stored, rfl⟩ := Machine.declare_ok declared
      exact ⟨Store.declare_wellFormed wf stored, trivial⟩
  | declareArray =>
      refine ⟨?_, trivial⟩
      show (Machine.declareArray _ _ _ _).store.WellFormed
      rw [Machine.declareArray_eq]
      exact Store.declareArray_wellFormed wf _ _ true
  | assign assigned =>
      obtain ⟨store, stored, rfl⟩ := Machine.assign_ok assigned
      exact ⟨Store.assign_wellFormed wf stored, trivial⟩
  | print printed =>
      obtain ⟨rendered, _, _, rfl⟩ := Machine.print_ok printed
      exact ⟨wf, trivial⟩
  | returnValue evaluated => exact ⟨wf, eval_isWord wf.holdsWords evaluated⟩
  | breakLoop | continueLoop | returnNothing | partNone | bodyNil | forEnds | whileEnds =>
      exact ⟨wf, trivial⟩
  | declareFails | assignFails | printFails | returnFails | branchFails | forFails
  | whileFails | forOverBudget | whileOverBudget | doOverBudget | doFails => trivial
  | cond _ arms | forInitStops _ _ arms | whileLoop _ arms | doWhile _ arms | partSome _ arms
  | bodyStops _ _ arms | branchesElse _ arms | branchTaken _ _ arms | branchSkipped _ _ arms =>
      exact arms wf
  | forLoop _ _ initialized loop | bodyCons _ _ initialized loop =>
      exact loop (initialized wf).1
  | forExits _ _ _ exits ran | whileExits _ _ _ exits ran | doExits _ _ exits ran =>
      exact Ending.keepsWords_of_exit exits (ran wf)
  | forStepStops _ _ _ _ _ _ ran stepped => exact stepped (ran wf).1
  | forRepeats _ _ _ _ _ _ ran steppedOn loop => exact loop (steppedOn (ran wf).1).1
  | whileRepeats _ _ _ _ _ ran loop => exact loop (ran wf).1
  | doEnds _ _ _ _ ran => exact ⟨(ran wf).1, trivial⟩
  | doRepeats _ _ _ _ _ ran loop => exact loop (ran wf).1

/-- A program run from a well-formed store leaves a well-formed store, and
exits with a word if it returns a value. -/
theorem execute_keepsWords {limits : Limits} {store : Store} {body : List Stmt}
    {finished : Finished} (wf : store.WellFormed)
    (executed : execute limits store body = .ok finished) :
    finished.machine.store.WellFormed ∧ ∀ code, finished.exitCode = some code → Arith.IsWord code := by
  obtain ⟨ending, ran⟩ := Runs.body_exists limits (Machine.start store) 0 body
  have keeps := ran.keepsWords wf
  rw [execute_eq_of_runs ran] at executed
  cases ending with
  | failed failure count => cases executed
  | done machine iterations flow =>
      cases flow with
      | returned value =>
          cases executed
          refine ⟨keeps.1, fun code exits => ?_⟩
          cases exits
          exact keeps.2
      | next =>
          cases executed
          exact ⟨keeps.1, fun code exits => by cases exits⟩
      | breakLoop | continueLoop => cases executed

/-! ## Printing -/

namespace Printf

/-- `%d` and `%i` print the value of an argument that is no string literal,
laid out as an integer. -/
theorem renderSpec_signed {store : Store} {line : Option Nat} {spec : Spec} {arg : Expr}
    {rest : List Expr} {progress : Progress} {result : Progress × List Expr}
    (signed : spec.conversion = 'd' ∨ spec.conversion = 'i') (notString : ∀ text, arg ≠ .str text)
    (rendered : renderSpec store line spec (arg :: rest) progress = .ok result) :
    ∃ value text, eval store line arg = .ok value ∧ renderInteger spec value = .ok text ∧
      result =
        ({ progress with taken := progress.taken + 1, printed := progress.printed.push text }, rest) := by
  -- `d` and `i` pass every check on the conversion before the argument is read
  obtain ⟨notPercent, supported, notS, notC⟩ : (spec.conversion == '%') = false ∧
      supportedConversions.contains spec.conversion = true ∧ (spec.conversion == 's') = false ∧
      (spec.conversion == 'c') = false := by
    rcases signed with same | same <;> simp [same, supportedConversions]
  unfold renderSpec at rendered
  simp only [notPercent, supported, notS, notC, Bool.false_eq_true, if_false, Bool.not_true]
    at rendered
  -- past the checks on the conversion, every argument but a string literal
  -- is evaluated and laid out
  cases arg
  case str text => exact absurd rfl (notString text)
  all_goals
    obtain ⟨value, evaluated, laying⟩ := bind_eq_ok rendered
    obtain ⟨text, laid, pushed⟩ := bind_eq_ok laying
    cases pushed
    exact ⟨value, text, mapError_eq_ok evaluated, mapError_eq_ok laid, rfl⟩

end Printf

/-! ## Every integer a run makes -/

/-- Every integer that computing from `store` produces is a word: the value
of every expression, every value stored and returned by a run from it, every
value that `%d` or `%i` prints in it, and the exit code of a program run from
it. -/
structure Store.WordsThroughout (store : Store) : Prop where
  values : ∀ line expr value, eval store line expr = .ok value → Arith.IsWord value
  runs : ∀ limits code (machine : Machine) iterations ending, machine.store = store →
    Runs limits code machine iterations ending → ending.KeepsWords
  signedPrints : ∀ line spec arg rest progress result,
    (spec.conversion = 'd' ∨ spec.conversion = 'i') → (∀ text, arg ≠ .str text) →
    Printf.renderSpec store line spec (arg :: rest) progress = .ok result →
    ∃ value text, Arith.IsWord value ∧ Printf.renderInteger spec value = .ok text ∧
      result.1.printed = progress.printed.push text
  exitCodes : ∀ limits body finished code, execute limits store body = .ok finished →
    finished.exitCode = some code → Arith.IsWord code

/-- Every integer a run produces from a well-formed store is a word, whatever
the size of the literals in the program. -/
theorem integers_are_words {store : Store} (wf : store.WellFormed) : store.WordsThroughout where
  values _ _ _ evaluated := eval_isWord wf.holdsWords evaluated
  runs _ _ machine _ _ isStore ran := ran.keepsWords (isStore ▸ wf)
  signedPrints _ _ _ _ _ _ signed notString rendered := by
    obtain ⟨value, text, evaluated, laid, rfl⟩ := Printf.renderSpec_signed signed notString rendered
    exact ⟨value, text, eval_isWord wf.holdsWords evaluated, laid, rfl⟩
  exitCodes _ _ _ _ executed exits := (execute_keepsWords wf executed).2 _ exits

/-- The store holding the largest word is one the theorem speaks of. -/
theorem integers_are_words_largest :
    (Store.empty.declareScalar "x" 2147483647 true).WellFormed ∧
      (Store.empty.declareScalar "x" 2147483647 true).WordsThroughout :=
  have wf := Store.declareScalar_wellFormed Store.empty_wellFormed 2147483647 true
  ⟨wf, integers_are_words wf⟩

end ClassroomC
