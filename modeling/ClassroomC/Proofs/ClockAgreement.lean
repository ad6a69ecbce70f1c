import ClassroomC.Proofs.ClockedReader

/-!
# The clock answers as the reader does

`Reading.clocked` spends one tick on each call and hands what is left to the
readings the call makes. Given more ticks than a reading's bound, five a
token plus its rank, it never stops: it gives the reader's own answer, the
value read with the tokens after it, or the same error (`Reading.clocked_eq_run`,
by induction on the fuel). A whole program needs five ticks a token and two
more (`clockedProgram_eq`).

Each function of the reader gets one lemma, `clocked_X`: given the answer
for every reading below the fuel, the clocked reading answers as the
function does. The lemmas step both sides at once, over the parts that read
no tokens of their own (`Clock.bind_answer`) and over the readings made in
between (`Clock.bind_parsed`, `Clock.bind_consumed`, `Clock.answer_tail`).
A reading made on the same tokens has a lower rank, any other is made on
fewer tokens, so each stays below the fuel left.
-/

namespace ClassroomC.Parser

@[simp] theorem Clock.answer_ok_bind {α β : Type} (value : α) (next : α → Clock β) :
    (Clock.answer (.ok value) >>= next) = next value := rfl

@[simp] theorem Clock.pure_eq {α : Type} (value : α) :
    (pure value : Clock α) = Clock.answer (.ok value) := rfl

@[simp] theorem Clock.throw_eq {α : Type} (error : ParseError) :
    (throw error : Clock α) = Clock.answer (.error error) := rfl

@[simp] theorem Parsed.pair_mk {tokens : List Token} {α : Type} (value : α) (rest : List Token)
    (le : rest.length ≤ tokens.length) :
    (⟨value, rest, le⟩ : Parsed tokens α).pair = (value, rest) := rfl

section ExceptLemmas

variable {ε α β : Type}

theorem Except.ok_bind_eq (value : α) (next : α → Except ε β) :
    (Except.ok value >>= next) = next value := rfl

theorem Except.pure_eq_ok (value : α) : (pure value : Except ε α) = .ok value := rfl

theorem Except.throw_eq_error (error : ε) : (throw error : Except ε α) = .error error := rfl

theorem Except.map_ok_eq (f : α → β) (value : α) :
    (Except.ok value : Except ε α).map f = .ok (f value) := rfl

theorem Except.map_error_eq (f : α → β) (error : ε) :
    (Except.error error : Except ε α).map f = .error error := rfl

end ExceptLemmas

section Peeling

variable {α β γ : Type} {tokens : List Token}

/-- A step both readers take through a function that reads no tokens of its
own: they go on alike from each of its answers. -/
theorem Clock.bind_answer {x : Except ParseError α} {f : α → Clock β}
    {g : α → Except ParseError γ} {h : γ → β}
    (next : ∀ value, x = .ok value → f value = Clock.answer ((g value).map h)) :
    (Clock.answer x >>= f) = Clock.answer ((x >>= g).map h) := by
  cases x with
  | error error => rfl
  | ok value => exact next value rfl

/-- A reading both readers make alike, then go on alike from each of its
answers. -/
theorem Clock.bind_parsed {x : Clock (α × List Token)} {y : Except ParseError (Parsed tokens α)}
    {f : α × List Token → Clock β} {g : Parsed tokens α → Except ParseError γ} {h : γ → β}
    (first : x = Clock.answer (y.map Parsed.pair))
    (next : ∀ value rest (le : rest.length ≤ tokens.length), y = .ok ⟨value, rest, le⟩ →
      f (value, rest) = Clock.answer ((g ⟨value, rest, le⟩).map h)) :
    (x >>= f) = Clock.answer ((y >>= g).map h) := by
  subst first
  cases y with
  | error error => rfl
  | ok result => exact next result.value result.rest result.le rfl

/-- A reading both readers make alike, then go on alike from each of its
answers. -/
theorem Clock.bind_consumed {x : Clock (α × List Token)}
    {y : Except ParseError (Consumed tokens α)}
    {f : α × List Token → Clock β} {g : Consumed tokens α → Except ParseError γ} {h : γ → β}
    (first : x = Clock.answer (y.map Consumed.pair))
    (next : ∀ value rest (lt : rest.length < tokens.length), y = .ok ⟨value, rest, lt⟩ →
      f (value, rest) = Clock.answer ((g ⟨value, rest, lt⟩).map h)) :
    (x >>= f) = Clock.answer ((y >>= g).map h) := by
  subst first
  cases y with
  | error error => rfl
  | ok result => exact next result.value result.rest result.lt rfl

/-- A reading that ends by handing its tokens to another answers what that
other reading answers. -/
theorem Clock.answer_tail {σ τ : Type} {y : Except ParseError σ}
    {g : σ → Except ParseError τ} {p : σ → α} {q : τ → α}
    (keep : ∀ result, y = .ok result → (g result).map q = .ok (p result)) :
    Clock.answer (y.map p) = Clock.answer ((y >>= g).map q) := by
  cases y with
  | error error => rfl
  | ok result => exact congrArg Clock.answer (keep result rfl).symm

/-- An error raised before any reading stops both readers alike. -/
theorem Clock.throw_bind (error : ParseError) {f : α → Clock β}
    {g : α → Except ParseError γ} {h : γ → β} :
    ((throw error : Clock α) >>= f) =
      Clock.answer (((throw error : Except ParseError α) >>= g).map h) :=
  rfl

end Peeling

namespace Reading

/-- The clock answers as the reader does on every reading its fuel covers. -/
def Agrees (fuel : Nat) : Prop :=
  ∀ {α : Type} (reading : Reading α) (tokens : List Token),
    reading.bound tokens < fuel → reading.clocked fuel tokens = Clock.answer (reading.run tokens)

variable {fuel : Nat} {tokens : List Token}

theorem clocked_target (agrees : Agrees fuel) (within : target.bound tokens < fuel + 1) :
    target.clocked (fuel + 1) tokens = Clock.answer (target.run tokens) := by
  dsimp only [run]
  cases tokens with
  | nil =>
      unfold Parser.target
      rfl
  | cons token after =>
      unfold Parser.target
      dsimp only [clocked]
      split
      · split <;> rfl
      · cases after with
        | nil => rfl
        | cons next afterNext =>
            simp only
            split
            · refine Clock.bind_parsed (agrees .expression afterNext
                (by dsimp only [bound, rank, List.length_cons] at within ⊢; omega))
                fun index rest restLe _ => ?_
              cases expectOp "]" _ rest <;> rfl
            · rfl

theorem clocked_simpleStatement (agrees : Agrees fuel)
    (within : simpleStatement.bound tokens < fuel + 1) :
    simpleStatement.clocked (fuel + 1) tokens = Clock.answer (simpleStatement.run tokens) := by
  dsimp only [run]
  cases tokens with
  | nil =>
      unfold Parser.simpleStatement Parser.target
      rfl
  | cons token after =>
      unfold Parser.simpleStatement
      dsimp only [clocked]
      split
      · exact Clock.bind_consumed (agrees .target after
          (by dsimp only [bound, rank, List.length_cons] at within ⊢; omega)) fun _ _ _ _ => rfl
      · refine Clock.bind_consumed (agrees .target (token :: after)
          (by dsimp only [bound, rank] at within ⊢; omega)) fun written rest restLt _ => ?_
        cases rest with
        | nil => rfl
        | cons opToken afterOp =>
            simp only
            split
            · rfl
            · cases assignOperator? opToken with
              | none => rfl
              | some op =>
                  exact Clock.bind_parsed (agrees .expression afterOp
                    (by dsimp only [bound, rank, List.length_cons] at within restLt ⊢; omega))
                    fun _ _ _ _ => rfl

theorem clocked_arrayElements {name : String} {acc : Array Int} (agrees : Agrees fuel)
    (within : (arrayElements name acc).bound tokens < fuel + 1) :
    (arrayElements name acc).clocked (fuel + 1) tokens =
      Clock.answer ((arrayElements name acc).run tokens) := by
  dsimp only [run]
  cases tokens with
  | nil =>
      unfold Parser.arrayElements
      rfl
  | cons token after =>
      unfold Parser.arrayElements
      dsimp only [clocked]
      split
      · split
        · rfl
        · refine Clock.bind_answer fun element _ => ?_
          obtain ⟨value, rest, restLt⟩ := element
          exact (agrees (.arrayElements name (acc.push value)) rest
            (by dsimp only [bound, rank, List.length_cons] at within restLt ⊢; omega)).trans
            (Clock.answer_tail fun _ _ => rfl)
      · rfl

theorem clocked_initializerList {name : String} (agrees : Agrees fuel)
    (within : (initializerList name).bound tokens < fuel + 1) :
    (initializerList name).clocked (fuel + 1) tokens =
      Clock.answer ((initializerList name).run tokens) := by
  dsimp only [run]
  unfold Parser.initializerList
  dsimp only [clocked]
  refine Clock.bind_answer fun opening _ => ?_
  obtain ⟨⟨⟩, afterOpen, openLt⟩ := opening
  split
  · simp only [Clock.pure_eq, Clock.answer_ok_bind, Except.pure_eq_ok, Except.ok_bind_eq,
      Parsed.here]
    cases expectOp "\x7d" _ afterOpen <;> rfl
  · refine Clock.bind_answer fun element _ => ?_
    obtain ⟨first, rest, restLt⟩ := element
    refine Clock.bind_parsed (agrees (.arrayElements name #[first]) rest
      (by dsimp only [bound, rank] at within restLt ⊢; omega)) fun values beforeClose closeLe _ => ?_
    simp only [Except.pure_eq_ok, Except.ok_bind_eq]
    exact Clock.bind_answer fun _ _ => rfl

theorem clocked_arrayDeclarator {name : String} {line : Nat} (agrees : Agrees fuel)
    (within : (arrayDeclarator name line).bound tokens < fuel + 1) :
    (arrayDeclarator name line).clocked (fuel + 1) tokens =
      Clock.answer ((arrayDeclarator name line).run tokens) := by
  dsimp only [run]
  unfold Parser.arrayDeclarator
  dsimp only [clocked]
  refine Clock.bind_parsed ?size fun size afterSize sizeLe _ => ?_
  case size =>
    cases tokens with
    | nil => rfl
    | cons token after =>
        simp only
        split
        · rfl
        · split
          · rfl
          · cases literalValue token with
            | error error => rfl
            | ok size =>
                simp only [Clock.answer_ok_bind, Except.ok_bind_eq]
                split <;> rfl
  refine Clock.bind_answer fun closing _ => ?_
  obtain ⟨⟨⟩, afterClose, closeLt⟩ := closing
  refine Clock.bind_parsed ?values fun values final finalLe _ => ?_
  case values =>
    cases afterClose with
    | nil => rfl
    | cons token after =>
        simp only
        split
        · exact (agrees (.initializerList name) after
            (by dsimp only [bound, rank, List.length_cons] at within closeLt ⊢; omega)).trans
            (Clock.answer_tail fun _ _ => rfl)
        · rfl
  -- the two checks of the declared size, alike on both sides, then the node
  cases size with
  | none =>
      by_cases empty : values.isEmpty = true
      · simp only [empty, ↓reduceIte]
        rfl
      · simp only [empty, Bool.false_eq_true, ↓reduceIte]
        exact Clock.bind_answer fun _ _ => rfl
  | some size =>
      by_cases many : values.length > size
      · simp only [many, ↓reduceIte]
        rfl
      · simp only [many, ↓reduceIte]
        exact Clock.bind_answer fun _ _ => rfl

theorem clocked_declarator (agrees : Agrees fuel) (within : declarator.bound tokens < fuel + 1) :
    declarator.clocked (fuel + 1) tokens = Clock.answer (declarator.run tokens) := by
  dsimp only [run]
  unfold Parser.declarator
  dsimp only [clocked]
  split
  · exact Clock.throw_bind _
  · simp only [Clock.pure_eq, Except.pure_eq_ok]
    refine Clock.bind_answer fun named _ => ?_
    obtain ⟨name, rest, restLt⟩ := named
    cases rest with
    | nil => rfl
    | cons token after =>
        simp only
        split
        · exact (agrees (.arrayDeclarator name.text (peek tokens).line) after
            (by dsimp only [bound, rank, List.length_cons] at within restLt ⊢; omega)).trans
            (Clock.answer_tail fun _ _ => rfl)
        · split
          · refine Clock.bind_parsed (agrees .expression after
              (by dsimp only [bound, rank, List.length_cons] at within restLt ⊢; omega))
              fun _ _ _ _ => rfl
          · rfl

theorem clocked_moreDeclarators {acc : Array Stmt} (agrees : Agrees fuel)
    (within : (moreDeclarators acc).bound tokens < fuel + 1) :
    (moreDeclarators acc).clocked (fuel + 1) tokens =
      Clock.answer ((moreDeclarators acc).run tokens) := by
  dsimp only [run]
  cases tokens with
  | nil =>
      unfold Parser.moreDeclarators
      rfl
  | cons token after =>
      unfold Parser.moreDeclarators
      dsimp only [clocked]
      split
      · refine Clock.bind_consumed (agrees .declarator after
          (by dsimp only [bound, rank, List.length_cons] at within ⊢; omega)) fun stmt rest restLt _ => ?_
        simp only
        exact (agrees (.moreDeclarators (acc.push stmt)) rest
          (by dsimp only [bound, rank, List.length_cons] at within restLt ⊢; omega)).trans
          (Clock.answer_tail fun _ _ => rfl)
      · rfl

theorem clocked_declaration (agrees : Agrees fuel) (within : declaration.bound tokens < fuel + 1) :
    declaration.clocked (fuel + 1) tokens = Clock.answer (declaration.run tokens) := by
  dsimp only [run]
  unfold Parser.declaration
  dsimp only [clocked]
  refine Clock.bind_answer fun keyword _ => ?_
  obtain ⟨word, afterInt, intLt⟩ := keyword
  refine Clock.bind_consumed (agrees .declarator afterInt
    (by dsimp only [bound, rank] at within ⊢; omega)) fun first rest restLt _ => ?_
  refine Clock.bind_parsed (agrees (.moreDeclarators #[first]) rest
    (by dsimp only [bound, rank] at within restLt ⊢; omega)) fun stmts beforeSemi semiLe _ => ?_
  refine Clock.bind_answer fun _ _ => rfl

theorem clocked_arguments {acc : Array Expr} (agrees : Agrees fuel)
    (within : (arguments acc).bound tokens < fuel + 1) :
    (arguments acc).clocked (fuel + 1) tokens = Clock.answer ((arguments acc).run tokens) := by
  dsimp only [run]
  cases tokens with
  | nil =>
      unfold Parser.arguments
      rfl
  | cons token after =>
      unfold Parser.arguments
      dsimp only [clocked]
      split
      · refine Clock.bind_parsed (agrees .expression after
          (by dsimp only [bound, rank, List.length_cons] at within ⊢; omega)) fun arg rest restLe _ => ?_
        simp only
        exact (agrees (.arguments (acc.push arg)) rest
          (by dsimp only [bound, rank, List.length_cons] at within restLe ⊢; omega)).trans
          (Clock.answer_tail fun _ _ => rfl)
      · rfl

theorem clocked_call (agrees : Agrees fuel) (within : call.bound tokens < fuel + 1) :
    call.clocked (fuel + 1) tokens = Clock.answer (call.run tokens) := by
  dsimp only [run]
  cases tokens with
  | nil =>
      unfold Parser.call
      rfl
  | cons nameToken after =>
      unfold Parser.call
      dsimp only [clocked]
      split
      · exact Clock.throw_bind _
      · simp only [Clock.pure_eq, Except.pure_eq_ok]
        refine Clock.bind_answer fun opened _ => ?_
        obtain ⟨⟨⟩, afterOpen, openLt⟩ := opened
        split
        · exact Clock.throw_bind _
        · simp only
          rw [agrees .strings afterOpen
            (by dsimp only [bound, rank, List.length_cons] at within openLt ⊢; omega)]
          simp only [run, Clock.answer_ok_bind]
          refine Clock.bind_parsed (agrees (.arguments #[]) (Parser.strings afterOpen).2.rest
            (by have := (Parser.strings afterOpen).2.le
                dsimp only [bound, rank, List.length_cons] at within openLt ⊢; omega))
            fun args beforeClose argsLe _ => ?_
          refine Clock.bind_answer fun closing _ => ?_
          refine Clock.bind_answer fun _ _ => rfl

theorem clocked_condition {keyword : String} (agrees : Agrees fuel)
    (within : (condition keyword).bound tokens < fuel + 1) :
    (condition keyword).clocked (fuel + 1) tokens = Clock.answer ((condition keyword).run tokens) := by
  dsimp only [run]
  unfold Parser.condition
  dsimp only [clocked]
  refine Clock.bind_answer fun opened _ => ?_
  obtain ⟨⟨⟩, afterOpen, openLt⟩ := opened
  refine Clock.bind_parsed (agrees .expression afterOpen
    (by dsimp only [bound, rank] at within ⊢; omega)) fun _ _ _ _ => ?_
  refine Clock.bind_answer fun _ _ => rfl

theorem clocked_returnStatement (agrees : Agrees fuel)
    (within : returnStatement.bound tokens < fuel + 1) :
    returnStatement.clocked (fuel + 1) tokens = Clock.answer (returnStatement.run tokens) := by
  dsimp only [run]
  unfold Parser.returnStatement
  dsimp only [clocked]
  refine Clock.bind_answer fun keyword _ => ?_
  obtain ⟨word, afterKeyword, keywordLt⟩ := keyword
  simp only
  split
  · simp only [Clock.pure_eq, Clock.answer_ok_bind, Except.pure_eq_ok, Except.ok_bind_eq,
      Parsed.here]
    exact Clock.bind_answer fun _ _ => rfl
  · refine Clock.bind_parsed (agrees .expression afterKeyword
      (by dsimp only [bound, rank] at within ⊢; omega)) fun expr rest restLe _ => ?_
    simp only
    cases expr
    case str =>
      exact Clock.throw_bind _
    all_goals
      simp only [Clock.pure_eq, Clock.answer_ok_bind, Except.pure_eq_ok, Except.ok_bind_eq]
      exact Clock.bind_answer fun _ _ => rfl

theorem clocked_forInit (agrees : Agrees fuel) (within : forInit.bound tokens < fuel + 1) :
    forInit.clocked (fuel + 1) tokens = Clock.answer (forInit.run tokens) := by
  dsimp only [run]
  cases tokens with
  | nil =>
      unfold Parser.forInit Parser.simpleStatement Parser.target
      rfl
  | cons token after =>
      unfold Parser.forInit
      dsimp only [clocked]
      split
      · refine Clock.bind_consumed (agrees .declarator after
          (by dsimp only [bound, rank, List.length_cons] at within ⊢; omega)) fun stmt rest restLt _ => ?_
        simp only
        by_cases listed : (peek rest).isOp "," = true <;>
          simp only [listed, ↓reduceIte] <;> rfl
      · split
        · rfl
        · exact Clock.bind_consumed (agrees .simpleStatement (token :: after)
            (by dsimp only [bound, rank] at within ⊢; omega)) fun _ _ _ _ => rfl

theorem clocked_forHeader (agrees : Agrees fuel) (within : forHeader.bound tokens < fuel + 1) :
    forHeader.clocked (fuel + 1) tokens = Clock.answer (forHeader.run tokens) := by
  dsimp only [run]
  unfold Parser.forHeader
  dsimp only [clocked]
  refine Clock.bind_parsed (agrees .forInit tokens
    (by dsimp only [bound, rank] at within ⊢; omega)) fun init afterInit initLe _ => ?_
  refine Clock.bind_answer fun semicolon _ => ?_
  obtain ⟨⟨⟩, afterSemi, semiLt⟩ := semicolon
  simp only at semiLt ⊢
  -- the condition, if any, then the same steps after it
  split
  case' isTrue =>
    simp only [Clock.pure_eq, Clock.answer_ok_bind, Except.pure_eq_ok, Except.ok_bind_eq,
      Parsed.here]
  case' isFalse =>
    refine Clock.bind_parsed (agrees .expression afterSemi
      (by dsimp only [bound, rank] at within ⊢; omega)) fun expr rest restLe _ => ?_
    simp only [Clock.pure_eq, Clock.answer_ok_bind, Except.pure_eq_ok,
      Except.ok_bind_eq]
  all_goals
    refine Clock.bind_answer fun semicolon _ => ?_
    obtain ⟨⟨⟩, afterSemi2, semi2Lt⟩ := semicolon
    split
    · simp only [Parsed.here]
      exact Clock.bind_answer fun _ _ => rfl
    · refine Clock.bind_consumed (agrees .simpleStatement afterSemi2
        (by dsimp only [bound, rank] at within ⊢; omega)) fun _ _ _ _ => ?_
      exact Clock.bind_answer fun _ _ => rfl

theorem clocked_blockItems {inLoop : Bool} (agrees : Agrees fuel)
    (within : (blockItems inLoop).bound tokens < fuel + 1) :
    (blockItems inLoop).clocked (fuel + 1) tokens = Clock.answer ((blockItems inLoop).run tokens) := by
  dsimp only [run]
  cases tokens with
  | nil =>
      unfold Parser.blockItems
      rfl
  | cons token after =>
      unfold Parser.blockItems
      dsimp only [clocked]
      split
      · rfl
      · split
        · rfl
        · refine Clock.bind_consumed (agrees (.statement inLoop) (token :: after)
            (by dsimp only [bound, rank] at within ⊢; omega)) fun stmts rest restLt _ => ?_
          exact Clock.bind_parsed (agrees (.blockItems inLoop) rest
            (by dsimp only [bound, rank, List.length_cons] at within restLt ⊢; omega)) fun _ _ _ _ => rfl

theorem clocked_body {inLoop : Bool} (agrees : Agrees fuel)
    (within : (body inLoop).bound tokens < fuel + 1) :
    (body inLoop).clocked (fuel + 1) tokens = Clock.answer ((body inLoop).run tokens) := by
  dsimp only [run]
  cases tokens with
  | nil =>
      unfold Parser.body
      dsimp only [clocked]
      rw [agrees (.statement inLoop) [] (by dsimp only [bound, rank] at within ⊢; omega)]
      rfl
  | cons token after =>
      unfold Parser.body
      dsimp only [clocked]
      split
      · exact (agrees (.blockItems inLoop) after
          (by dsimp only [bound, rank, List.length_cons] at within ⊢; omega)).trans
          (Clock.answer_tail fun _ _ => rfl)
      · rw [agrees (.statement inLoop) (token :: after)
          (by dsimp only [bound, rank] at within ⊢; omega)]
        rfl

theorem clocked_statement {inLoop : Bool} (agrees : Agrees fuel)
    (within : (statement inLoop).bound tokens < fuel + 1) :
    (statement inLoop).clocked (fuel + 1) tokens = Clock.answer ((statement inLoop).run tokens) := by
  dsimp only [run]
  cases tokens with
  | nil =>
      unfold Parser.statement Parser.simpleStatement Parser.target
      rfl
  | cons token after =>
      -- every reading a statement starts on its first token ranks below it
      have same {β : Type} (reading : Reading β) (lower : reading.rank < 2) :
          reading.bound (token :: after) < fuel := by
        dsimp only [bound] at within ⊢
        dsimp only [rank] at within
        omega
      unfold Parser.statement
      dsimp only [clocked]
      split
      · generalize token.text = word
        split
        · rw [agrees .declaration _ (same .declaration Nat.zero_lt_two)]; rfl
        · rw [agrees (.ifStatement inLoop) _ (same (.ifStatement inLoop) Nat.zero_lt_two)]; rfl
        · rw [agrees .forStatement _ (same .forStatement Nat.zero_lt_two)]; rfl
        · rw [agrees .whileStatement _ (same .whileStatement Nat.zero_lt_two)]; rfl
        · rw [agrees .doStatement _ (same .doStatement Nat.zero_lt_two)]; rfl
        · exact Clock.bind_answer fun _ _ => rfl
        · exact Clock.bind_answer fun _ _ => rfl
        · exact Clock.bind_consumed (agrees .returnStatement _
            (same .returnStatement Nat.zero_lt_two)) fun _ _ _ _ => rfl
        · -- a keyword that starts no statement: the reader's own match ends
          -- in the same arm
          split <;> simp_all [Clock.throw_eq, Except.throw_eq_error, Except.map_error_eq]
      · split
        · exact (agrees (.blockItems inLoop) after
            (by dsimp only [bound, rank, List.length_cons] at within ⊢; omega)).trans
            (Clock.answer_tail fun _ _ => rfl)
        · split
          · rfl
          · split
            · exact Clock.bind_consumed (agrees .call _ (same .call Nat.zero_lt_two)) fun _ _ _ _ => rfl
            · refine Clock.bind_consumed (agrees .simpleStatement _
                (same .simpleStatement Nat.one_lt_two)) fun _ _ _ _ => ?_
              exact Clock.bind_answer fun _ _ => rfl

theorem clocked_elseChain {inLoop : Bool} {branches : Array Branch} (agrees : Agrees fuel)
    (within : (elseChain inLoop branches).bound tokens < fuel + 1) :
    (elseChain inLoop branches).clocked (fuel + 1) tokens =
      Clock.answer ((elseChain inLoop branches).run tokens) := by
  dsimp only [run]
  cases tokens with
  | nil =>
      unfold Parser.elseChain
      rfl
  | cons token after =>
      unfold Parser.elseChain
      dsimp only [clocked]
      split
      · cases after with
        | nil =>
            exact Clock.bind_consumed (agrees (.body inLoop) []
              (by dsimp only [bound, rank, List.length_cons] at within ⊢; omega)) fun _ _ _ _ => rfl
        | cons next afterNext =>
            simp only
            split
            · refine Clock.bind_consumed (agrees (.condition "else if") afterNext
                (by dsimp only [bound, rank, List.length_cons] at within ⊢; omega))
                fun cond afterCond condLt _ => ?_
              refine Clock.bind_consumed (agrees (.body inLoop) afterCond
                (by dsimp only [bound, rank, List.length_cons] at within condLt ⊢; omega))
                fun stmts afterBody bodyLt _ => ?_
              exact (agrees (.elseChain inLoop (branches.push (.mk cond stmts))) afterBody
                (by dsimp only [bound, rank, List.length_cons] at within condLt bodyLt ⊢; omega)).trans
                (Clock.answer_tail fun _ _ => rfl)
            · exact Clock.bind_consumed (agrees (.body inLoop) (next :: afterNext)
                (by dsimp only [bound, rank, List.length_cons] at within ⊢; omega)) fun _ _ _ _ => rfl
      · rfl

theorem clocked_ifStatement {inLoop : Bool} (agrees : Agrees fuel)
    (within : (ifStatement inLoop).bound tokens < fuel + 1) :
    (ifStatement inLoop).clocked (fuel + 1) tokens =
      Clock.answer ((ifStatement inLoop).run tokens) := by
  dsimp only [run]
  unfold Parser.ifStatement
  dsimp only [clocked]
  refine Clock.bind_answer fun keyword _ => ?_
  obtain ⟨word, afterKeyword, keywordLt⟩ := keyword
  refine Clock.bind_consumed (agrees (.condition "if") afterKeyword
    (by dsimp only [bound, rank] at within ⊢; omega)) fun cond afterCond condLt _ => ?_
  refine Clock.bind_consumed (agrees (.body inLoop) afterCond
    (by dsimp only [bound, rank] at within condLt ⊢; omega)) fun stmts afterBody bodyLt _ => ?_
  exact Clock.bind_parsed (agrees (.elseChain inLoop #[.mk cond stmts]) afterBody
    (by dsimp only [bound, rank] at within condLt bodyLt ⊢; omega))
    fun _ _ _ _ => Clock.bind_answer fun _ _ => rfl

theorem clocked_forStatement (agrees : Agrees fuel) (within : forStatement.bound tokens < fuel + 1) :
    forStatement.clocked (fuel + 1) tokens = Clock.answer (forStatement.run tokens) := by
  dsimp only [run]
  unfold Parser.forStatement
  dsimp only [clocked]
  refine Clock.bind_answer fun keyword _ => ?_
  obtain ⟨word, afterKeyword, keywordLt⟩ := keyword
  refine Clock.bind_answer fun opened _ => ?_
  obtain ⟨⟨⟩, afterOpen, openLt⟩ := opened
  refine Clock.bind_consumed (agrees .forHeader afterOpen
    (by dsimp only [bound, rank] at within openLt ⊢; omega)) fun parts afterHeader headerLt _ => ?_
  exact Clock.bind_consumed (agrees (.body true) afterHeader
    (by dsimp only [bound, rank] at within openLt headerLt ⊢; omega)) fun _ _ _ _ => rfl

theorem clocked_whileStatement (agrees : Agrees fuel)
    (within : whileStatement.bound tokens < fuel + 1) :
    whileStatement.clocked (fuel + 1) tokens = Clock.answer (whileStatement.run tokens) := by
  dsimp only [run]
  unfold Parser.whileStatement
  dsimp only [clocked]
  refine Clock.bind_answer fun keyword _ => ?_
  obtain ⟨word, afterKeyword, keywordLt⟩ := keyword
  refine Clock.bind_consumed (agrees (.condition "while") afterKeyword
    (by dsimp only [bound, rank] at within ⊢; omega)) fun cond afterCond condLt _ => ?_
  exact Clock.bind_consumed (agrees (.body true) afterCond
    (by dsimp only [bound, rank] at within condLt ⊢; omega)) fun _ _ _ _ => rfl

theorem clocked_doStatement (agrees : Agrees fuel) (within : doStatement.bound tokens < fuel + 1) :
    doStatement.clocked (fuel + 1) tokens = Clock.answer (doStatement.run tokens) := by
  dsimp only [run]
  unfold Parser.doStatement
  dsimp only [clocked]
  refine Clock.bind_answer fun keyword _ => ?_
  obtain ⟨word, afterKeyword, keywordLt⟩ := keyword
  refine Clock.bind_consumed (agrees (.body true) afterKeyword
    (by dsimp only [bound, rank] at within ⊢; omega)) fun stmts afterBody bodyLt _ => ?_
  refine Clock.bind_answer fun closing _ => ?_
  obtain ⟨word', afterWhile, whileLt⟩ := closing
  refine Clock.bind_consumed (agrees (.condition "while") afterWhile
    (by dsimp only [bound, rank] at within bodyLt whileLt ⊢; omega))
    fun _ _ _ _ => ?_
  exact Clock.bind_answer fun _ _ => rfl

theorem clocked_mainFunction (agrees : Agrees fuel) (within : mainFunction.bound tokens < fuel + 1) :
    mainFunction.clocked (fuel + 1) tokens = Clock.answer (mainFunction.run tokens) := by
  dsimp only [run]
  unfold Parser.mainFunction
  dsimp only [clocked]
  refine Clock.bind_answer fun keyword _ => ?_
  obtain ⟨word, afterInt, intLt⟩ := keyword
  refine Clock.bind_answer fun named _ => ?_
  obtain ⟨name, afterName, nameLt⟩ := named
  split
  · exact Clock.throw_bind _
  · simp only [Except.pure_eq_ok]
    refine Clock.bind_answer fun opened _ => ?_
    obtain ⟨⟨⟩, afterOpen, openLt⟩ := opened
    -- the optional 'void' is skipped; the rest of 'main' reads the same either way
    obtain _ | ⟨token, after⟩ := afterOpen <;> dsimp only [Except.ok_bind_eq]
    case' cons =>
      generalize token.isKeyword "void" = isVoid
      cases isVoid
    all_goals
      refine Clock.bind_answer fun closed _ => ?_
      obtain ⟨⟨⟩, afterClose, closeLt⟩ := closed
      refine Clock.bind_answer fun braced _ => ?_
      obtain ⟨⟨⟩, afterBrace, braceLt⟩ := braced
      exact (agrees (.blockItems false) afterBrace
        (by
          dsimp only [bound, rank] at within ⊢
          simp only [List.length_cons, Bool.false_eq_true, ↓reduceIte]
            at nameLt openLt closeLt braceLt
          omega)).trans
        (Clock.answer_tail fun _ _ => rfl)

theorem clocked_expression (agrees : Agrees fuel) (within : expression.bound tokens < fuel + 1) :
    expression.clocked (fuel + 1) tokens = Clock.answer (expression.run tokens) := by
  dsimp only [run]
  unfold Parser.expression
  dsimp only [clocked]
  refine Clock.bind_parsed (agrees (.binary 1) tokens
    (by dsimp only [bound, rank] at within ⊢; omega)) fun expr rest restLe _ => ?_
  split
  · cases refusedOperator? (peek rest).text <;> rfl
  · rfl

theorem clocked_binary {least : Nat} (agrees : Agrees fuel)
    (within : (binary least).bound tokens < fuel + 1) :
    (binary least).clocked (fuel + 1) tokens = Clock.answer ((binary least).run tokens) := by
  dsimp only [run]
  unfold Parser.binary
  dsimp only [clocked]
  refine Clock.bind_parsed (agrees .unary tokens
    (by dsimp only [bound, rank] at within ⊢; omega)) fun left rest restLe _ => ?_
  exact (agrees (.binaryTail least left) rest
    (by dsimp only [bound, rank] at within ⊢; omega)).trans (Clock.answer_tail fun _ _ => rfl)

theorem clocked_binaryTail {least : Nat} {left : Expr} (agrees : Agrees fuel)
    (within : (binaryTail least left).bound tokens < fuel + 1) :
    (binaryTail least left).clocked (fuel + 1) tokens =
      Clock.answer ((binaryTail least left).run tokens) := by
  dsimp only [run]
  cases tokens with
  | nil =>
      unfold Parser.binaryTail
      rfl
  | cons token after =>
      unfold Parser.binaryTail
      dsimp only [clocked]
      cases binaryOperator? token with
      | none => rfl
      | some operator =>
          obtain ⟨op, precedence⟩ := operator
          dsimp only
          split
          · rfl
          · refine Clock.bind_parsed (agrees (.binary (precedence + 1)) after
              (by dsimp only [bound, rank, List.length_cons] at within ⊢; omega)) fun right rest restLe _ => ?_
            exact (agrees (.binaryTail least (.binary op left right)) rest
              (by dsimp only [bound, rank, List.length_cons] at within ⊢; omega)).trans
              (Clock.answer_tail fun _ _ => rfl)

theorem clocked_unary (agrees : Agrees fuel) (within : unary.bound tokens < fuel + 1) :
    unary.clocked (fuel + 1) tokens = Clock.answer (unary.run tokens) := by
  dsimp only [run]
  cases tokens with
  | nil =>
      unfold Parser.unary
      exact agrees .primary [] (by dsimp only [bound, rank] at within ⊢; omega)
  | cons token after =>
      unfold Parser.unary
      dsimp only [clocked]
      cases unaryOperator? token with
      | none =>
          exact agrees .primary (token :: after) (by dsimp only [bound, rank] at within ⊢; omega)
      | some op =>
          exact Clock.bind_parsed (agrees .unary after
            (by dsimp only [bound, rank, List.length_cons] at within ⊢; omega)) fun _ _ _ _ => rfl

theorem clocked_strings (agrees : Agrees fuel) (within : strings.bound tokens < fuel + 1) :
    strings.clocked (fuel + 1) tokens = Clock.answer (strings.run tokens) := by
  dsimp only [run]
  cases tokens with
  | nil => rfl
  | cons token rest =>
      unfold Parser.strings
      dsimp only [clocked]
      split
      · rw [agrees .strings rest (by dsimp only [bound, rank, List.length_cons] at within ⊢; omega)]
        dsimp only [run]
        rcases Parser.strings rest with ⟨text, after⟩
        rfl
      · rfl

theorem clocked_primary (agrees : Agrees fuel) (within : primary.bound tokens < fuel + 1) :
    primary.clocked (fuel + 1) tokens = Clock.answer (primary.run tokens) := by
  dsimp only [run]
  cases tokens with
  | nil =>
      unfold Parser.primary
      rfl
  | cons token after =>
      unfold Parser.primary
      dsimp only [clocked]
      cases kind : token.kind
      case number | char => cases literalValue token <;> rfl
      case string =>
        rw [agrees .strings (token :: after) (by dsimp only [bound, rank] at within ⊢; omega)]
        dsimp only [run]
        rcases Parser.strings (token :: after) with ⟨text, rest⟩
        rfl
      case ident =>
        cases after with
        | nil => rfl
        | cons next afterNext =>
            simp only
            split
            · rfl
            · split
              · refine Clock.bind_parsed (agrees .expression afterNext
                  (by dsimp only [bound, rank, List.length_cons] at within ⊢; omega))
                  fun _ _ _ _ => ?_
                exact Clock.bind_answer fun _ _ => rfl
              · rfl
      -- the other kinds: taking the token apart lets its kind reduce everywhere
      all_goals
        obtain ⟨kind', text, line⟩ := token
        cases kind
        dsimp only
        split
        · refine Clock.bind_parsed (agrees .expression after
            (by dsimp only [bound, rank, List.length_cons] at within ⊢; omega)) fun _ _ _ _ => ?_
          exact Clock.bind_answer fun _ _ => rfl
        · cases refusedOperator? text <;> rfl

theorem clocked_fileScope {headers : Array String} {declared : Array Stmt} (agrees : Agrees fuel)
    (within : (fileScope headers declared).bound tokens < fuel + 1) :
    (fileScope headers declared).clocked (fuel + 1) tokens =
      Clock.answer ((fileScope headers declared).run tokens) := by
  dsimp only [run]
  cases tokens with
  | nil =>
      unfold Parser.fileScope
      rfl
  | cons token after =>
      unfold Parser.fileScope
      dsimp only [clocked]
      split
      · cases includedHeader? token.text with
        | none => rfl
        | some header =>
            exact (agrees (.fileScope (headers.push header) declared) after
              (by dsimp only [bound, rank, List.length_cons] at within ⊢; omega)).trans
              (Clock.answer_tail fun _ _ => rfl)
      · split
        · exact Clock.bind_parsed (agrees .mainFunction (token :: after)
            (by dsimp only [bound, rank] at within ⊢; omega)) fun _ _ _ _ => rfl
        · split
          · refine Clock.bind_consumed (agrees .declaration (token :: after)
              (by dsimp only [bound, rank] at within ⊢; omega)) fun stmts rest restLt _ => ?_
            exact (agrees (.fileScope headers (declared ++ stmts.toArray)) rest
              (by dsimp only [bound, rank, List.length_cons] at within restLt ⊢; omega)).trans
              (Clock.answer_tail fun _ _ => rfl)
          · split <;> rfl

/-- Every reading the fuel covers gets the reader's answer from the clock:
by induction on the fuel, each call of the clock spends one tick on a
reading whose bound is smaller. -/
theorem agrees_at (fuel : Nat) : Agrees fuel := by
  induction fuel with
  | zero =>
      intro _ _ _ within
      exact absurd within (Nat.not_lt_zero _)
  | succ fuel below =>
      intro _ reading _ within
      cases reading with
      | expression => exact clocked_expression below within
      | binary => exact clocked_binary below within
      | binaryTail => exact clocked_binaryTail below within
      | unary => exact clocked_unary below within
      | primary => exact clocked_primary below within
      | strings => exact clocked_strings below within
      | target => exact clocked_target below within
      | simpleStatement => exact clocked_simpleStatement below within
      | arrayElements => exact clocked_arrayElements below within
      | initializerList => exact clocked_initializerList below within
      | arrayDeclarator => exact clocked_arrayDeclarator below within
      | declarator => exact clocked_declarator below within
      | moreDeclarators => exact clocked_moreDeclarators below within
      | declaration => exact clocked_declaration below within
      | arguments => exact clocked_arguments below within
      | call => exact clocked_call below within
      | condition => exact clocked_condition below within
      | returnStatement => exact clocked_returnStatement below within
      | forInit => exact clocked_forInit below within
      | forHeader => exact clocked_forHeader below within
      | blockItems => exact clocked_blockItems below within
      | body => exact clocked_body below within
      | statement => exact clocked_statement below within
      | elseChain => exact clocked_elseChain below within
      | ifStatement => exact clocked_ifStatement below within
      | forStatement => exact clocked_forStatement below within
      | whileStatement => exact clocked_whileStatement below within
      | doStatement => exact clocked_doStatement below within
      | mainFunction => exact clocked_mainFunction below within
      | fileScope => exact clocked_fileScope below within

theorem clocked_eq_run {α : Type} (reading : Reading α) (tokens : List Token) {fuel : Nat}
    (within : reading.bound tokens < fuel) :
    reading.clocked fuel tokens = Clock.answer (reading.run tokens) :=
  agrees_at fuel reading tokens within

end Reading

/-- A whole program read with a clock of five ticks a token and two more
gets the parser's answer. -/
theorem clockedProgram_eq (tokens : List Token) {fuel : Nat}
    (within : 5 * tokens.length + 1 < fuel) :
    clockedProgram fuel tokens = Clock.answer (parseTokens tokens) := by
  unfold clockedProgram parseTokens
  rw [Reading.clocked_eq_run (.fileScope #[] #[]) tokens
    (by dsimp only [Reading.bound, Reading.rank]; omega)]
  simp only [Reading.run]
  cases fileScope #[] #[] tokens with
  | error error => rfl
  | ok result =>
      obtain ⟨⟨headers, stmts⟩, rest, _⟩ := result
      simp only [Except.map_ok_eq, Parsed.pair_mk, Clock.answer_ok_bind, Except.ok_bind_eq]
      split
      · split <;> rfl
      · rfl

end ClassroomC.Parser
