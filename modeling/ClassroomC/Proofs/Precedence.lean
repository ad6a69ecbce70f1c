import ClassroomC.Parser.Expr
import ClassroomC.Proofs.Unmarked

/-!
# Precedence climbing is the layered grammar

The parser reads binary operators by precedence climbing: one loop that
takes every operator binding at least as tight as a bound, and reads each
right operand with the bound raised above the operator's own precedence.
The grammar of the language is the layered one,

  `E_k ::= E_(k+1) (op_k E_(k+1))*`, folded to the left,

for the six levels of the operator table, with `E_7` a unary expression.
The two read every token list alike: the same tree and the same tokens
left, or the same error.

The proof goes down the levels. A climb from bound `k` is a climb from
`k + 1` followed by the operators of precedence exactly `k` (`climb_split`),
because a climb stops only before an operator looser than its bound
(`Stops`).
-/

namespace ClassroomC.Parser

/-! ## The layered grammar -/

mutual

/-- Level `k` of the layered grammar: operands of level `k + 1` joined by
the operators of precedence `k`, folded to the left; from level 7 on, a
unary expression. -/
def level (k : Nat) (tokens : List Token) : Except ParseError (Parsed tokens Expr) :=
  if _below : k < 7 then do
    let ⟨left, rest, restLe⟩ ← level (k + 1) tokens
    let ⟨expr, after, afterLe⟩ ← levelTail k left rest
    pure ⟨expr, after, Nat.le_trans afterLe restLe⟩
  else unary tokens
termination_by (tokens.length, 2 * (7 - k) + 1)
decreasing_by
  all_goals
    apply Measure.lex_lt
    omega

/-- The operators of precedence exactly `k` after the operand `left`, each
with its right operand of level `k + 1`, applied from the left. -/
def levelTail (k : Nat) (left : Expr) (tokens : List Token) :
    Except ParseError (Parsed tokens Expr) :=
  match tokens with
  | token :: after =>
    match binaryOperator? token with
    | some (op, precedence) =>
      if precedence = k then do
        let ⟨right, rest, restLe⟩ ← level (k + 1) after
        let ⟨expr, final, finalLe⟩ ← levelTail k (.binary op left right) rest
        pure ⟨expr, final, by simp only [List.length_cons]; omega⟩
      else pure (Parsed.here (token :: after) left)
    | none => pure (Parsed.here (token :: after) left)
  | [] => pure (Parsed.here [] left)
termination_by (tokens.length, 0)
decreasing_by
  all_goals
    try simp only [List.length_cons] at *
    apply Measure.lex_lt
    omega

end

/-! ## What a parse gives -/

/-- What a parse gives: the value read and the tokens it leaves, or the
error. -/
def result {tokens : List Token} {α : Type} (parsed : Except ParseError (Parsed tokens α)) :
    Except ParseError (α × List Token) :=
  parsed.map fun read => (read.value, read.rest)

section Results

variable {tokens : List Token} {α : Type}

/-- A parse is determined by what it gives: the proof that it consumed no
more than its tokens is all the rest. -/
theorem result_inj {parsed parsed' : Except ParseError (Parsed tokens α)}
    (same : result parsed = result parsed') : parsed = parsed' := by
  cases parsed with
  | error error =>
      cases parsed' with
      | error error' => simpa [result, Except.map] using same
      | ok read' => simp [result, Except.map] at same
  | ok read =>
      cases parsed' with
      | error error' => simp [result, Except.map] at same
      | ok read' =>
          obtain ⟨value, rest, restLe⟩ := read
          obtain ⟨value', rest', restLe'⟩ := read'
          simp only [result, Except.map, Except.ok.injEq, Prod.mk.injEq] at same
          obtain ⟨rfl, rfl⟩ := same
          rfl

theorem result_le {parsed : Except ParseError (Parsed tokens α)} {value : α}
    {rest : List Token} (gave : result parsed = .ok (value, rest)) :
    rest.length ≤ tokens.length := by
  cases parsed with
  | error error => simp [result, Except.map] at gave
  | ok read =>
      simp only [result, Except.map, Except.ok.injEq, Prod.mk.injEq] at gave
      obtain ⟨-, rfl⟩ := gave
      exact read.le

@[simp] theorem result_here (value : α) :
    result (pure (Parsed.here tokens value) : Except ParseError (Parsed tokens α)) =
      .ok (value, tokens) :=
  rfl

end Results

/-! ## One step of each parsing function, as what it gives -/

theorem result_binary (least : Nat) (tokens : List Token) :
    result (binary least tokens) =
      result (unary tokens) >>= fun read => result (binaryTail least read.1 read.2) := by
  rw [binary]
  cases unary tokens with
  | error error => rfl
  | ok read =>
      obtain ⟨left, rest, restLe⟩ := read
      show result (binaryTail least left rest >>= _) = result (binaryTail least left rest)
      cases binaryTail least left rest <;> rfl

theorem result_binaryTail_nil (least : Nat) (left : Expr) :
    result (binaryTail least left []) = .ok (left, []) := by
  rw [binaryTail]
  rfl

theorem result_binaryTail_cons (least : Nat) (left : Expr) (token : Token) (after : List Token) :
    result (binaryTail least left (token :: after)) =
      match binaryOperator? token with
      | some (op, precedence) =>
        if precedence < least then .ok (left, token :: after)
        else result (binary (precedence + 1) after) >>= fun read =>
          result (binaryTail least (.binary op left read.1) read.2)
      | none => .ok (left, token :: after) := by
  rw [binaryTail]
  dsimp only
  cases found : binaryOperator? token with
  | none => rfl
  | some entry =>
      obtain ⟨op, precedence⟩ := entry
      dsimp only
      by_cases loose : precedence < least
      · simp only [loose, if_true]
        rfl
      · simp only [loose, if_false]
        cases binary (precedence + 1) after with
        | error error => rfl
        | ok read =>
            obtain ⟨right, rest, restLe⟩ := read
            show result (binaryTail least (.binary op left right) rest >>= _) =
              result (binaryTail least (.binary op left right) rest)
            cases binaryTail least (.binary op left right) rest <;> rfl

theorem result_level (k : Nat) (tokens : List Token) :
    result (level k tokens) =
      if k < 7 then result (level (k + 1) tokens) >>= fun read => result (levelTail k read.1 read.2)
      else result (unary tokens) := by
  rw [level]
  split
  · cases level (k + 1) tokens with
    | error error => rfl
    | ok read =>
        obtain ⟨left, rest, restLe⟩ := read
        show result (levelTail k left rest >>= _) = result (levelTail k left rest)
        cases levelTail k left rest <;> rfl
  · rfl

theorem result_levelTail_nil (k : Nat) (left : Expr) :
    result (levelTail k left []) = .ok (left, []) := by
  rw [levelTail]
  rfl

theorem result_levelTail_cons (k : Nat) (left : Expr) (token : Token) (after : List Token) :
    result (levelTail k left (token :: after)) =
      match binaryOperator? token with
      | some (op, precedence) =>
        if precedence = k then result (level (k + 1) after) >>= fun read =>
          result (levelTail k (.binary op left read.1) read.2)
        else .ok (left, token :: after)
      | none => .ok (left, token :: after) := by
  rw [levelTail]
  dsimp only
  cases found : binaryOperator? token with
  | none => rfl
  | some entry =>
      obtain ⟨op, precedence⟩ := entry
      dsimp only
      by_cases exact : precedence = k
      · simp only [exact, if_true]
        cases level (k + 1) after with
        | error error => rfl
        | ok read =>
            obtain ⟨right, rest, restLe⟩ := read
            show result (levelTail k (.binary op left right) rest >>= _) =
              result (levelTail k (.binary op left right) rest)
            cases levelTail k (.binary op left right) rest <;> rfl
      · simp only [exact, if_false]
        rfl

/-! ## Where a climb stops -/

/-- Every binary operator has a precedence from `1` to `6`. -/
theorem binaryOperator?_precedence {token : Token} {op : BinOp} {precedence : Nat}
    (found : binaryOperator? token = some (op, precedence)) : 1 ≤ precedence ∧ precedence ≤ 6 := by
  unfold binaryOperator? at found
  split at found
  · cases found
  · split at found <;> cases found <;> decide

/-- The tokens a climb from bound `least` stops before: none, or a token
that is not an operator binding at least as tight as `least`. -/
def Stops (least : Nat) : List Token → Prop
  | [] => True
  | token :: _ =>
    ∀ op precedence, binaryOperator? token = some (op, precedence) → precedence < least

theorem stops_of_seven_le {least : Nat} (loose : 7 ≤ least) (tokens : List Token) :
    Stops least tokens := by
  cases tokens with
  | nil => trivial
  | cons token after =>
      intro op precedence found
      have := binaryOperator?_precedence found
      omega

/-- Before a token it stops at, a climb takes nothing. -/
theorem binaryTail_of_stops {least : Nat} {tokens : List Token} (stops : Stops least tokens)
    (left : Expr) : result (binaryTail least left tokens) = .ok (left, tokens) := by
  cases tokens with
  | nil => exact result_binaryTail_nil least left
  | cons token after =>
      rw [result_binaryTail_cons]
      cases found : binaryOperator? token with
      | none => rfl
      | some entry =>
          obtain ⟨op, precedence⟩ := entry
          dsimp only
          rw [if_pos (stops op precedence found)]

/-- A climb ends at a token it stops at. The induction follows the climb's
loop: each operator it takes is followed by a shorter rest. -/
theorem binaryTail_stops (least : Nat) (tokens : List Token) (left expr : Expr)
    (rest : List Token) (climbed : result (binaryTail least left tokens) = .ok (expr, rest)) :
    Stops least rest := by
  cases tokens with
  | nil =>
      rw [result_binaryTail_nil] at climbed
      cases climbed
      trivial
  | cons token after =>
      rw [result_binaryTail_cons] at climbed
      cases found : binaryOperator? token with
      | none =>
          rw [found] at climbed
          cases climbed
          intro op precedence operator
          rw [found] at operator
          cases operator
      | some entry =>
          obtain ⟨op, precedence⟩ := entry
          rw [found] at climbed
          dsimp only at climbed
          split at climbed
          · next loose =>
              cases climbed
              intro op' precedence' operator
              rw [found] at operator
              cases operator
              exact loose
          · obtain ⟨⟨right, rest'⟩, parsed, more⟩ := bind_eq_ok climbed
            have shorter := result_le parsed
            exact binaryTail_stops least rest' (.binary op left right) expr rest more
termination_by tokens.length
decreasing_by
  all_goals
    subst_vars
    simp only [List.length_cons]
    omega

theorem binary_stops {least : Nat} {tokens : List Token} {expr : Expr} {rest : List Token}
    (climbed : result (binary least tokens) = .ok (expr, rest)) : Stops least rest := by
  rw [result_binary] at climbed
  obtain ⟨⟨left, rest'⟩, -, more⟩ := bind_eq_ok climbed
  exact binaryTail_stops least rest' left expr rest more

/-! ## A climb is the levels above its bound -/

/-- A climb from bound `k` is a climb from `k + 1`, then the operators of
precedence exactly `k`, each with a right operand of level `k + 1`, given
that climbs from `k + 1` read as level `k + 1` does. The induction follows
the climb's loop, on the tokens it has left. -/
theorem climb_split (k : Nat)
    (climbs : ∀ tokens, result (binary (k + 1) tokens) = result (level (k + 1) tokens))
    (tokens : List Token) (left : Expr) :
    result (binaryTail k left tokens) =
      result (binaryTail (k + 1) left tokens) >>= fun read => result (levelTail k read.1 read.2) := by
  cases tokens with
  | nil =>
      rw [result_binaryTail_nil, result_binaryTail_nil]
      exact (result_levelTail_nil k left).symm
  | cons token after =>
      rw [result_binaryTail_cons, result_binaryTail_cons]
      cases found : binaryOperator? token with
      | none =>
          show _ = result (levelTail k left (token :: after))
          rw [result_levelTail_cons, found]
      | some entry =>
          obtain ⟨op, precedence⟩ := entry
          dsimp only
          rcases Nat.lt_trichotomy precedence k with looser | same | tighter
          · -- a looser operator ends all three
            rw [if_pos looser, if_pos (by omega)]
            show _ = result (levelTail k left (token :: after))
            rw [result_levelTail_cons, found]
            dsimp only
            rw [if_neg (by omega)]
          · -- an operator of precedence `k` ends the climb from `k + 1`, and the
            -- level's tail takes it with a right operand of level `k + 1`
            subst same
            rw [if_neg (by omega), if_pos (by omega)]
            show _ = result (levelTail precedence left (token :: after))
            rw [result_levelTail_cons, found]
            dsimp only
            rw [if_pos rfl, ← climbs after]
            cases parsed : result (binary (precedence + 1) after) with
            | error error => rfl
            | ok read =>
                obtain ⟨right, rest⟩ := read
                have shorter := result_le parsed
                show result (binaryTail precedence (.binary op left right) rest) =
                  result (levelTail precedence (.binary op left right) rest)
                rw [climb_split precedence climbs rest,
                  binaryTail_of_stops (binary_stops parsed)]
                rfl
          · -- a tighter operator is taken by both climbs alike
            rw [if_neg (by omega), if_neg (by omega), bind_assoc]
            cases parsed : result (binary (precedence + 1) after) with
            | error error => rfl
            | ok read =>
                obtain ⟨right, rest⟩ := read
                have shorter := result_le parsed
                exact climb_split k climbs rest (.binary op left right)
termination_by tokens.length
decreasing_by
  all_goals
    subst_vars
    simp only [List.length_cons]
    omega

/-- A climb from bound `k` reads as level `k` of the grammar. The induction
goes down the levels, from the unary expressions at level 7. -/
theorem climb_eq_level (k : Nat) (tokens : List Token) :
    result (binary k tokens) = result (level k tokens) := by
  rw [result_level, result_binary]
  split
  · next below =>
      rw [← climb_eq_level (k + 1) tokens, result_binary, bind_assoc]
      congr 1
      funext read
      exact climb_split k (climb_eq_level (k + 1)) read.2 read.1
  · next above =>
      -- from level 7 on no operator binds tight enough to be taken
      have stops : ∀ read : Expr × List Token,
          result (binaryTail k read.1 read.2) = pure read :=
        fun read => binaryTail_of_stops (stops_of_seven_le (by omega) read.2) read.1
      simp only [stops, bind_pure]
termination_by 7 - k

end ClassroomC.Parser
