import ClassroomC.Proofs.ClockAgreement

/-!
# The reader stops before the end of input

A function of the reader that succeeds has read past tokens none of which is
the end of input (`Reading.Stays`): every token it consumes has been seen to
be an operator, a keyword, a name, a literal, a string or a preprocessor
line. The one function that consumes a token without looking at it, a call
at its name, is made only where a name stands (`Reading.Opens`). Each
function gets one lemma, `stays_X`, and `Reading.stays_below` puts them
together by induction on the fuel that covers a reading, as the clock's
agreement does.

On a token list that ends with the end of input, what a reading leaves
therefore still ends with it (`Advances.keeps_end`). With the clock this is
`parser_stops_before_end`: the reader stops on every such list, every chain
of calls shorter than the bound, and never reads past the end.
-/

namespace ClassroomC.Parser

/-- `rest` is what is left of `tokens` after reading past tokens none of
which is the end of input. -/
def Advances (tokens rest : List Token) : Prop :=
  ∃ taken, tokens = taken ++ rest ∧ ∀ token ∈ taken, token.kind ≠ .eof

namespace Advances

variable {tokens rest rest' after : List Token} {token : Token}

theorem refl : Advances tokens tokens :=
  ⟨[], rfl, fun _ mem => absurd mem List.not_mem_nil⟩

theorem trans (first : Advances tokens rest) (second : Advances rest rest') :
    Advances tokens rest' := by
  obtain ⟨taken, rfl, notEnd⟩ := first
  obtain ⟨taken', rfl, notEnd'⟩ := second
  refine ⟨taken ++ taken', (List.append_assoc _ _ _).symm, fun token mem => ?_⟩
  rcases List.mem_append.mp mem with inFirst | inSecond
  · exact notEnd token inFirst
  · exact notEnd' token inSecond

theorem cons (notEnd : token.kind ≠ .eof) (next : Advances after rest) :
    Advances (token :: after) rest := by
  obtain ⟨taken, rfl, notEnd'⟩ := next
  refine ⟨token :: taken, rfl, fun token' mem => ?_⟩
  rcases List.mem_cons.mp mem with rfl | inTaken
  · exact notEnd
  · exact notEnd' token' inTaken

end Advances

end ClassroomC.Parser

namespace ClassroomC.Token

variable {token : Token} {text : String}

theorem kind_of_isKeyword (isWord : token.isKeyword text = true) : token.kind = .keyword := by
  simp only [isKeyword, Bool.and_eq_true, beq_iff_eq] at isWord
  exact isWord.1

theorem notEnd_of_isOp (isText : token.isOp text = true) : token.kind ≠ .eof := by
  rw [kind_of_isOp isText]
  decide

theorem notEnd_of_isKeyword (isWord : token.isKeyword text = true) : token.kind ≠ .eof := by
  rw [kind_of_isKeyword isWord]
  decide

theorem notEnd_of_step (step : (token.isOp "++" || token.isOp "--") = true) :
    token.kind ≠ .eof := by
  rcases Bool.or_eq_true_iff.mp step with isText | isText
  · exact notEnd_of_isOp isText
  · exact notEnd_of_isOp isText

end ClassroomC.Token

namespace ClassroomC.Parser

variable {tokens : List Token}

/-! ## Reading single tokens -/

theorem binaryOperator?_kind {token : Token} {entry : BinOp × Nat}
    (found : binaryOperator? token = some entry) : token.kind = .op := by
  unfold binaryOperator? at found
  split at found
  · cases found
  · next isOp => simpa using isOp

theorem unaryOperator?_kind {token : Token} {op : UnOp}
    (found : unaryOperator? token = some op) : token.kind = .op := by
  unfold unaryOperator? at found
  split at found
  · cases found
  · next isOp => simpa using isOp

theorem assignOperator?_kind {token : Token} {op : AssignOp}
    (found : assignOperator? token = some op) : token.kind = .op := by
  unfold assignOperator? at found
  split at found
  · cases found
  · next isOp => simpa using isOp

theorem expectOp_advances {op context : String} {result : Consumed tokens Unit}
    (read : expectOp op context tokens = .ok result) : Advances tokens result.rest := by
  obtain ⟨token, isOp, split⟩ := expectOp_ok read
  generalize result.rest = rest at split ⊢
  subst split
  exact Advances.cons (Token.notEnd_of_isOp isOp) Advances.refl

theorem expectKeyword_advances {word : String} {result : Consumed tokens Token}
    (read : expectKeyword word tokens = .ok result) : Advances tokens result.rest := by
  obtain ⟨isWord, split⟩ := expectKeyword_ok read
  generalize result.rest = rest at split ⊢
  rw [split]
  exact Advances.cons (Token.notEnd_of_isKeyword isWord) Advances.refl

theorem expectIdent_advances {what : String} {result : Consumed tokens Token}
    (read : expectIdent what tokens = .ok result) : Advances tokens result.rest := by
  obtain ⟨isIdent, split⟩ := expectIdent_ok read
  generalize result.rest = rest at split ⊢
  rw [split]
  exact Advances.cons (by rw [isIdent]; decide) Advances.refl

theorem strings_advances (tokens : List Token) : Advances tokens (strings tokens).2.rest := by
  induction tokens with
  | nil => exact Advances.refl
  | cons token rest ih =>
      unfold strings
      split
      · next isString => exact Advances.cons (by simp_all) ih
      · exact Advances.refl

theorem literalElement_advances {name : String} {negative : Bool} {result : Consumed tokens Int}
    (parsed : literalElement name negative tokens = .ok result) : Advances tokens result.rest := by
  unfold literalElement at parsed
  split at parsed
  · next token after =>
      split at parsed
      · next isLiteral =>
          obtain ⟨value, _, done⟩ := bind_eq_ok parsed
          cases done
          have kind : token.kind = .number ∨ token.kind = .char := by simpa using isLiteral
          refine Advances.cons ?_ Advances.refl
          rcases kind with kind | kind <;> rw [kind] <;> decide
      · cases parsed
  · cases parsed

theorem arrayElement_advances {name : String} {result : Consumed tokens Int}
    (parsed : arrayElement name tokens = .ok result) : Advances tokens result.rest := by
  unfold arrayElement at parsed
  split at parsed
  · next token after =>
      split at parsed
      · next isMinus =>
          obtain ⟨⟨value, rest, restLt⟩, read, done⟩ := bind_eq_ok parsed
          cases done
          exact Advances.cons (Token.notEnd_of_isOp isMinus) (literalElement_advances read)
      · exact literalElement_advances parsed
  · exact literalElement_advances parsed

theorem jump_advances {word : String} {inLoop : Bool} {result : Consumed tokens Stmt}
    (parsed : jump word inLoop tokens = .ok result) : Advances tokens result.rest := by
  unfold jump at parsed
  obtain ⟨keyword, keywordRead, afterKeyword⟩ := bind_eq_ok parsed
  simp only at afterKeyword
  split at afterKeyword
  · obtain ⟨_, thrown, _⟩ := bind_eq_ok afterKeyword
    cases thrown
  · obtain ⟨semicolon, semiRead, done⟩ := bind_eq_ok afterKeyword
    cases done
    exact (expectKeyword_advances keywordRead).trans (expectOp_advances semiRead)

namespace Reading

/-- Where a reading may start: a call at a token other than the end, as the
statement that makes it has checked. -/
def Opens {α : Type} : Reading α → List Token → Prop
  | .call, tokens => (peek tokens).kind ≠ .eof
  | _, _ => True

/-- Whatever a reading leaves follows tokens none of which is the end. -/
def Stays {α : Type} (reading : Reading α) (tokens : List Token) : Prop :=
  reading.Opens tokens → ∀ value rest, reading.run tokens = .ok (value, rest) → Advances tokens rest

/-- Every reading below `fuel` stays before the end. -/
def StaysBelow (fuel : Nat) : Prop :=
  ∀ {α : Type} (reading : Reading α) (tokens : List Token), reading.bound tokens < fuel →
    reading.Stays tokens

variable {α : Type} {reading : Reading α} {fuel : Nat}

section Answers

/-! A reading runs a function of the reader and pairs its answer up into the
value and the rest; these lemmas move between the two, for any answer type. -/

variable {σ : Type} {x : Except ParseError σ} {pair : σ → α × List Token}

theorem Stays.answer (stays : reading.Stays tokens) (opens : reading.Opens tokens)
    (runs : reading.run tokens = x.map pair) {result : σ} (read : x = .ok result) :
    Advances tokens (pair result).2 :=
  stays opens (pair result).1 (pair result).2 (by rw [runs, read]; rfl)

theorem Stays.of_answer (runs : reading.run tokens = x.map pair)
    (each : ∀ result, x = .ok result → Advances tokens (pair result).2) : reading.Stays tokens := by
  intro _ value rest ran
  rw [runs] at ran
  cases read : x with
  | error error =>
      rw [read] at ran
      cases ran
  | ok result =>
      rw [read] at ran
      have same : (pair result).2 = rest := congrArg Prod.snd (Except.ok.inj ran)
      exact same ▸ each result read

end Answers

theorem Stays.parsed (stays : reading.Stays tokens) (opens : reading.Opens tokens)
    {x : Except ParseError (Parsed tokens α)} (runs : reading.run tokens = x.map Parsed.pair)
    {result : Parsed tokens α} (read : x = .ok result) : Advances tokens result.rest :=
  stays.answer opens runs read

theorem Stays.consumed (stays : reading.Stays tokens) (opens : reading.Opens tokens)
    {x : Except ParseError (Consumed tokens α)} (runs : reading.run tokens = x.map Consumed.pair)
    {result : Consumed tokens α} (read : x = .ok result) : Advances tokens result.rest :=
  stays.answer opens runs read

theorem Stays.of_parsed {x : Except ParseError (Parsed tokens α)}
    (runs : reading.run tokens = x.map Parsed.pair)
    (each : ∀ result, x = .ok result → Advances tokens result.rest) : reading.Stays tokens :=
  Stays.of_answer runs each

theorem Stays.of_consumed {x : Except ParseError (Consumed tokens α)}
    (runs : reading.run tokens = x.map Consumed.pair)
    (each : ∀ result, x = .ok result → Advances tokens result.rest) : reading.Stays tokens :=
  Stays.of_answer runs each

/-! ## Expressions -/

theorem stays_expression (below : StaysBelow fuel) (within : expression.bound tokens < fuel + 1) :
    expression.Stays tokens := by
  refine Stays.of_parsed rfl fun result parsed => ?_
  unfold Parser.expression at parsed
  obtain ⟨read, readOk, afterRead⟩ := bind_eq_ok parsed
  have moved : Advances tokens read.rest :=
    (below (.binary 1) tokens (by dsimp only [bound, rank] at within ⊢; omega)).parsed trivial rfl
      readOk
  simp only at afterRead
  split at afterRead
  · split at afterRead
    · cases afterRead
    · cases afterRead
      exact moved
  · cases afterRead
    exact moved

theorem stays_binary {least : Nat} (below : StaysBelow fuel)
    (within : (binary least).bound tokens < fuel + 1) : (binary least).Stays tokens := by
  refine Stays.of_parsed rfl fun result parsed => ?_
  unfold Parser.binary at parsed
  obtain ⟨left, leftOk, afterLeft⟩ := bind_eq_ok parsed
  obtain ⟨tail, tailOk, done⟩ := bind_eq_ok afterLeft
  cases done
  have leftLe := left.le
  exact ((below .unary tokens (by dsimp only [bound, rank] at within ⊢; omega)).parsed trivial rfl
    leftOk).trans ((below (.binaryTail least left.value) left.rest
      (by dsimp only [bound, rank] at within ⊢; omega)).parsed trivial rfl tailOk)

theorem stays_binaryTail {least : Nat} {left : Expr} (below : StaysBelow fuel)
    (within : (binaryTail least left).bound tokens < fuel + 1) :
    (binaryTail least left).Stays tokens := by
  refine Stays.of_parsed rfl fun result parsed => ?_
  cases tokens with
  | nil =>
      unfold Parser.binaryTail at parsed
      cases parsed
      exact Advances.refl
  | cons token after =>
      unfold Parser.binaryTail at parsed
      split at parsed
      · next op precedence found =>
          split at parsed
          · cases parsed
            exact Advances.refl
          · obtain ⟨right, rightOk, afterRight⟩ := bind_eq_ok parsed
            obtain ⟨tail, tailOk, done⟩ := bind_eq_ok afterRight
            cases done
            have rightLe := right.le
            refine Advances.cons (by rw [binaryOperator?_kind found]; decide) ?_
            exact ((below (.binary (precedence + 1)) after
              (by dsimp only [bound, rank, List.length_cons] at within ⊢; omega)).parsed (by trivial)
                rfl rightOk).trans ((below (.binaryTail least (.binary op left right.value)) right.rest
                  (by dsimp only [bound, rank, List.length_cons] at within ⊢; omega)).parsed trivial
                    rfl tailOk)
      · cases parsed
        exact Advances.refl

theorem stays_unary (below : StaysBelow fuel) (within : unary.bound tokens < fuel + 1) :
    unary.Stays tokens := by
  refine Stays.of_parsed rfl fun result parsed => ?_
  cases tokens with
  | nil =>
      unfold Parser.unary at parsed
      exact (below .primary [] (by dsimp only [bound, rank] at within ⊢; omega)).parsed trivial rfl
        parsed
  | cons token after =>
      unfold Parser.unary at parsed
      split at parsed
      · next op found =>
          obtain ⟨operand, operandOk, done⟩ := bind_eq_ok parsed
          cases done
          exact Advances.cons (by rw [unaryOperator?_kind found]; decide)
            ((below .unary after (by dsimp only [bound, rank, List.length_cons] at within ⊢; omega)).parsed
              trivial rfl operandOk)
      · exact (below .primary (token :: after) (by dsimp only [bound, rank] at within ⊢; omega)).parsed
          trivial rfl parsed

theorem stays_strings : strings.Stays tokens := by
  intro _ value rest ran
  cases ran
  exact strings_advances tokens

theorem stays_primary (below : StaysBelow fuel) (within : primary.bound tokens < fuel + 1) :
    primary.Stays tokens := by
  refine Stays.of_parsed rfl fun result parsed => ?_
  cases tokens with
  | nil =>
      unfold Parser.primary at parsed
      cases parsed
  | cons token after =>
      unfold Parser.primary at parsed
      split at parsed
      · next kind =>
          obtain ⟨value, _, done⟩ := bind_eq_ok parsed
          cases done
          exact Advances.cons (by rw [kind]; decide) Advances.refl
      · next kind =>
          obtain ⟨value, _, done⟩ := bind_eq_ok parsed
          cases done
          exact Advances.cons (by rw [kind]; decide) Advances.refl
      · cases parsed
        exact strings_advances _
      · next kind =>
          split at parsed
          · next next afterNext =>
              split at parsed
              · cases parsed
              · split at parsed
                · next isIndex =>
                    obtain ⟨index, indexOk, afterIndex⟩ := bind_eq_ok parsed
                    obtain ⟨closing, closeOk, done⟩ := bind_eq_ok afterIndex
                    cases done
                    refine Advances.cons (by rw [kind]; decide)
                      (Advances.cons (Token.notEnd_of_isOp isIndex) ?_)
                    exact ((below .expression afterNext
                      (by dsimp only [bound, rank, List.length_cons] at within ⊢; omega)).parsed
                        trivial rfl indexOk).trans (expectOp_advances closeOk)
                · cases parsed
                  exact Advances.cons (by rw [kind]; decide) Advances.refl
          · cases parsed
            exact Advances.cons (by rw [kind]; decide) Advances.refl
      · split at parsed
        · next isOpen =>
            obtain ⟨inner, innerOk, afterInner⟩ := bind_eq_ok parsed
            obtain ⟨closing, closeOk, done⟩ := bind_eq_ok afterInner
            cases done
            exact Advances.cons (Token.notEnd_of_isOp isOpen)
              (((below .expression after
                (by dsimp only [bound, rank, List.length_cons] at within ⊢; omega)).parsed trivial rfl
                  innerOk).trans (expectOp_advances closeOk))
        · split at parsed <;> cases parsed

/-! ## Statements -/

theorem stays_target (below : StaysBelow fuel) (within : target.bound tokens < fuel + 1) :
    target.Stays tokens := by
  refine Stays.of_consumed rfl fun result parsed => ?_
  unfold Parser.target at parsed
  split at parsed
  · next token after =>
      split at parsed
      · split at parsed <;> cases parsed
      · next isIdent =>
          have named : token.kind ≠ .eof := by simp_all
          split at parsed
          · next next afterNext =>
              split at parsed
              · next isIndex =>
                  obtain ⟨⟨index, rest, restLe⟩, indexOk, afterIndex⟩ := bind_eq_ok parsed
                  obtain ⟨⟨⟨⟩, final, finalLt⟩, closeOk, done⟩ := bind_eq_ok afterIndex
                  cases done
                  refine Advances.cons named (Advances.cons (Token.notEnd_of_isOp isIndex) ?_)
                  exact ((below .expression afterNext
                    (by dsimp only [bound, rank, List.length_cons] at within ⊢; omega)).parsed
                      trivial rfl indexOk).trans (expectOp_advances closeOk)
              · cases parsed
                exact Advances.cons named Advances.refl
          · cases parsed
            exact Advances.cons named Advances.refl
  · cases parsed

theorem stays_simpleStatement (below : StaysBelow fuel)
    (within : simpleStatement.bound tokens < fuel + 1) : simpleStatement.Stays tokens := by
  refine Stays.of_consumed rfl fun result parsed => ?_
  unfold Parser.simpleStatement at parsed
  split at parsed
  · next token after =>
      split at parsed
      · next isStep =>
          obtain ⟨⟨written, rest, restLt⟩, writtenOk, done⟩ := bind_eq_ok parsed
          cases done
          exact Advances.cons (Token.notEnd_of_step isStep)
            ((below .target after (by dsimp only [bound, rank, List.length_cons] at within ⊢; omega)).consumed
              trivial rfl writtenOk)
      · obtain ⟨⟨written, rest, restLt⟩, writtenOk, afterWritten⟩ := bind_eq_ok parsed
        have toTarget : Advances (token :: after) rest :=
          (below .target (token :: after) (by dsimp only [bound, rank] at within ⊢; omega)).consumed
            trivial rfl writtenOk
        cases rest with
        | nil => cases afterWritten
        | cons opToken afterOp =>
            simp only at afterWritten
            by_cases isStep : (opToken.isOp "++" || opToken.isOp "--") = true
            · rw [if_pos isStep] at afterWritten
              cases afterWritten
              exact toTarget.trans (Advances.cons (Token.notEnd_of_step isStep) Advances.refl)
            · rw [if_neg isStep] at afterWritten
              cases assigned : assignOperator? opToken with
              | none =>
                  simp only [assigned] at afterWritten
                  cases afterWritten
              | some op =>
                  simp only [assigned] at afterWritten
                  obtain ⟨⟨value, final, finalLe⟩, valueOk, done⟩ := bind_eq_ok afterWritten
                  cases done
                  refine toTarget.trans
                    (Advances.cons (by rw [assignOperator?_kind assigned]; decide) ?_)
                  exact (below .expression afterOp
                    (by dsimp only [bound, rank, List.length_cons] at within restLt ⊢; omega)).parsed
                      trivial rfl valueOk
  · obtain ⟨⟨_, _, impossible⟩, _, _⟩ := bind_eq_ok parsed
    exact absurd impossible (Nat.not_lt_zero _)

theorem stays_arrayElements {name : String} {acc : Array Int} (below : StaysBelow fuel)
    (within : (arrayElements name acc).bound tokens < fuel + 1) :
    (arrayElements name acc).Stays tokens := by
  refine Stays.of_parsed rfl fun result parsed => ?_
  cases tokens with
  | nil =>
      unfold Parser.arrayElements at parsed
      cases parsed
      exact Advances.refl
  | cons token after =>
      unfold Parser.arrayElements at parsed
      split at parsed
      · next isComma =>
          split at parsed
          · cases parsed
            exact Advances.cons (Token.notEnd_of_isOp isComma) Advances.refl
          · obtain ⟨element, elementOk, afterElement⟩ := bind_eq_ok parsed
            obtain ⟨values, valuesOk, done⟩ := bind_eq_ok afterElement
            cases done
            have elementLt := element.lt
            exact Advances.cons (Token.notEnd_of_isOp isComma)
              ((arrayElement_advances elementOk).trans
                ((below (.arrayElements name (acc.push element.value)) element.rest
                  (by dsimp only [bound, rank, List.length_cons] at within ⊢; omega)).parsed trivial rfl
                    valuesOk))
      · cases parsed
        exact Advances.refl

theorem stays_initializerList {name : String} (below : StaysBelow fuel)
    (within : (initializerList name).bound tokens < fuel + 1) :
    (initializerList name).Stays tokens := by
  refine Stays.of_consumed rfl fun result parsed => ?_
  unfold Parser.initializerList at parsed
  obtain ⟨⟨⟨⟩, afterOpen, openLt⟩, openOk, afterOpening⟩ := bind_eq_ok parsed
  have toOpen := expectOp_advances openOk
  simp only at afterOpening
  split at afterOpening
  · obtain ⟨here, madeHere, afterHere⟩ := bind_eq_ok afterOpening
    cases madeHere
    obtain ⟨closing, closeOk, done⟩ := bind_eq_ok afterHere
    cases done
    exact toOpen.trans (expectOp_advances closeOk)
  · obtain ⟨⟨first, rest, restLt⟩, firstOk, afterFirst⟩ := bind_eq_ok afterOpening
    obtain ⟨⟨values, final, finalLe⟩, moreOk, afterMore⟩ := bind_eq_ok afterFirst
    obtain ⟨packed, packedMade, afterPacked⟩ := bind_eq_ok afterMore
    cases packedMade
    obtain ⟨closing, closeOk, done⟩ := bind_eq_ok afterPacked
    cases done
    exact toOpen.trans ((arrayElement_advances firstOk).trans
      (((below (.arrayElements name #[first]) rest
        (by dsimp only [bound, rank] at within openLt ⊢; omega)).parsed trivial rfl moreOk).trans
          (expectOp_advances closeOk)))

theorem stays_arrayDeclarator {name : String} {line : Nat} (below : StaysBelow fuel)
    (within : (arrayDeclarator name line).bound tokens < fuel + 1) :
    (arrayDeclarator name line).Stays tokens := by
  refine Stays.of_consumed rfl fun result parsed => ?_
  unfold Parser.arrayDeclarator at parsed
  obtain ⟨⟨size, afterSize, sizeLe⟩, sized, afterSizing⟩ := bind_eq_ok parsed
  obtain ⟨⟨⟨⟩, afterClose, closeLt⟩, closeOk, afterClosing⟩ := bind_eq_ok afterSizing
  obtain ⟨⟨values, final, finalLe⟩, valued, checked⟩ := bind_eq_ok afterClosing
  -- the size: nothing before the bracket, or one number
  have toSize : Advances tokens afterSize := by
    split at sized
    · next token after =>
        split at sized
        · cases sized
          exact Advances.refl
        · split at sized
          · cases sized
          · next isNumber =>
              obtain ⟨size', _, afterValue⟩ := bind_eq_ok sized
              split at afterValue
              · cases afterValue
              · cases afterValue
                exact Advances.cons (by simp_all) Advances.refl
    · cases sized
      exact Advances.refl
  -- the values: nothing, or an initializer list after its equals sign
  have toValues : Advances afterClose final := by
    split at valued
    · next token after closeLt =>
        split at valued
        · next isAssign =>
            obtain ⟨⟨values', rest, restLt⟩, innerOk, done⟩ := bind_eq_ok valued
            cases done
            exact Advances.cons (Token.notEnd_of_isOp isAssign)
              ((below (.initializerList name) after
                (by dsimp only [bound, rank, List.length_cons] at within closeLt ⊢; omega)).consumed
                  trivial rfl innerOk)
        · cases valued
          exact Advances.refl
    · cases valued
      exact Advances.refl
  -- the checks of the size against the values only refuse, and the node comes last
  have same : result.rest = final := by
    simp only at checked
    split at checked
    · split at checked
      · obtain ⟨_, thrown, _⟩ := bind_eq_ok checked
        cases thrown
      · exact rest_of_built checked
    · split at checked
      · obtain ⟨_, thrown, _⟩ := bind_eq_ok checked
        cases thrown
      · exact rest_of_built checked
  rw [same]
  exact toSize.trans ((expectOp_advances closeOk).trans toValues)

theorem stays_declarator (below : StaysBelow fuel) (within : declarator.bound tokens < fuel + 1) :
    declarator.Stays tokens := by
  refine Stays.of_consumed rfl fun result parsed => ?_
  unfold Parser.declarator at parsed
  simp only at parsed
  split at parsed
  · obtain ⟨_, thrown, _⟩ := bind_eq_ok parsed
    cases thrown
  · obtain ⟨named, nameOk, afterName⟩ := bind_eq_ok parsed
    have toName := expectIdent_advances nameOk
    have nameLt := named.lt
    split at afterName
    · next token after _ restIs _ =>
        rw [restIs] at toName nameLt
        split at afterName
        · next isIndex =>
            obtain ⟨stmt, stmtOk, done⟩ := bind_eq_ok afterName
            cases done
            exact toName.trans (Advances.cons (Token.notEnd_of_isOp isIndex)
              ((below (.arrayDeclarator named.value.text (peek tokens).line) after
                (by dsimp only [bound, rank, List.length_cons] at within nameLt ⊢; omega)).consumed
                  trivial rfl stmtOk))
        · split at afterName
          · next isAssign =>
              obtain ⟨value, valueOk, done⟩ := bind_eq_ok afterName
              cases done
              exact toName.trans (Advances.cons (Token.notEnd_of_isOp isAssign)
                ((below .expression after
                  (by dsimp only [bound, rank, List.length_cons] at within nameLt ⊢; omega)).parsed
                    trivial rfl valueOk))
          · cases afterName
            exact toName
    · next _ restIs _ =>
        rw [restIs] at toName
        cases afterName
        exact toName

theorem stays_moreDeclarators {acc : Array Stmt} (below : StaysBelow fuel)
    (within : (moreDeclarators acc).bound tokens < fuel + 1) :
    (moreDeclarators acc).Stays tokens := by
  refine Stays.of_parsed rfl fun result parsed => ?_
  cases tokens with
  | nil =>
      unfold Parser.moreDeclarators at parsed
      cases parsed
      exact Advances.refl
  | cons token after =>
      unfold Parser.moreDeclarators at parsed
      split at parsed
      · next isComma =>
          obtain ⟨stmt, stmtOk, afterStmt⟩ := bind_eq_ok parsed
          obtain ⟨stmts, stmtsOk, done⟩ := bind_eq_ok afterStmt
          cases done
          have stmtLt := stmt.lt
          exact Advances.cons (Token.notEnd_of_isOp isComma)
            (((below .declarator after
              (by dsimp only [bound, rank, List.length_cons] at within ⊢; omega)).consumed trivial rfl
                stmtOk).trans ((below (.moreDeclarators (acc.push stmt.value)) stmt.rest
                  (by dsimp only [bound, rank, List.length_cons] at within ⊢; omega)).parsed trivial rfl
                    stmtsOk))
      · cases parsed
        exact Advances.refl

theorem stays_declaration (below : StaysBelow fuel) (within : declaration.bound tokens < fuel + 1) :
    declaration.Stays tokens := by
  refine Stays.of_consumed rfl fun result parsed => ?_
  unfold Parser.declaration at parsed
  obtain ⟨keyword, keywordOk, afterKeyword⟩ := bind_eq_ok parsed
  obtain ⟨first, firstOk, afterFirst⟩ := bind_eq_ok afterKeyword
  obtain ⟨more, moreOk, afterMore⟩ := bind_eq_ok afterFirst
  obtain ⟨semicolon, semiOk, done⟩ := bind_eq_ok afterMore
  cases done
  have keywordLt := keyword.lt
  have firstLt := first.lt
  exact (expectKeyword_advances keywordOk).trans
    (((below .declarator keyword.rest (by dsimp only [bound, rank] at within ⊢; omega)).consumed
      trivial rfl firstOk).trans
      (((below (.moreDeclarators #[first.value]) first.rest
        (by dsimp only [bound, rank] at within ⊢; omega)).parsed trivial rfl moreOk).trans
          (expectOp_advances semiOk)))

theorem stays_arguments {acc : Array Expr} (below : StaysBelow fuel)
    (within : (arguments acc).bound tokens < fuel + 1) : (arguments acc).Stays tokens := by
  refine Stays.of_parsed rfl fun result parsed => ?_
  cases tokens with
  | nil =>
      unfold Parser.arguments at parsed
      cases parsed
      exact Advances.refl
  | cons token after =>
      unfold Parser.arguments at parsed
      split at parsed
      · next isComma =>
          obtain ⟨arg, argOk, afterArg⟩ := bind_eq_ok parsed
          obtain ⟨args, argsOk, done⟩ := bind_eq_ok afterArg
          cases done
          have argLe := arg.le
          exact Advances.cons (Token.notEnd_of_isOp isComma)
            (((below .expression after
              (by dsimp only [bound, rank, List.length_cons] at within ⊢; omega)).parsed trivial rfl
                argOk).trans ((below (.arguments (acc.push arg.value)) arg.rest
                  (by dsimp only [bound, rank, List.length_cons] at within ⊢; omega)).parsed trivial rfl
                    argsOk))
      · cases parsed
        exact Advances.refl

/-- A call consumes its name without looking at it: the statement that makes
the call has seen that the name is no end of input. -/
theorem stays_call (below : StaysBelow fuel) (within : call.bound tokens < fuel + 1) :
    call.Stays tokens := by
  intro opens
  refine Stays.of_consumed rfl (fun result parsed => ?_) opens
  cases tokens with
  | nil =>
      unfold Parser.call at parsed
      cases parsed
  | cons nameToken after =>
      have named : nameToken.kind ≠ .eof := opens
      unfold Parser.call at parsed
      simp only at parsed
      split at parsed
      · obtain ⟨_, thrown, _⟩ := bind_eq_ok parsed
        cases thrown
      · obtain ⟨opened, openOk, afterOpen⟩ := bind_eq_ok parsed
        split at afterOpen
        · obtain ⟨_, thrown, _⟩ := bind_eq_ok afterOpen
          cases thrown
        · obtain ⟨args, argsOk, afterArgs⟩ := bind_eq_ok afterOpen
          obtain ⟨closing, closeOk, afterClose⟩ := bind_eq_ok afterArgs
          obtain ⟨semicolon, semiOk, done⟩ := bind_eq_ok afterClose
          cases done
          have openLt := opened.lt
          have formatLe := (Parser.strings opened.rest).2.le
          refine Advances.cons named ((expectOp_advances openOk).trans
            ((strings_advances opened.rest).trans ?_))
          exact ((below (.arguments #[]) (Parser.strings opened.rest).2.rest
            (by dsimp only [bound, rank, List.length_cons] at within openLt ⊢; omega)).parsed trivial rfl
              argsOk).trans ((expectOp_advances closeOk).trans (expectOp_advances semiOk))

theorem stays_condition {keyword : String} (below : StaysBelow fuel)
    (within : (condition keyword).bound tokens < fuel + 1) : (condition keyword).Stays tokens := by
  refine Stays.of_consumed rfl fun result parsed => ?_
  unfold Parser.condition at parsed
  obtain ⟨opened, openOk, afterOpen⟩ := bind_eq_ok parsed
  obtain ⟨inner, innerOk, afterInner⟩ := bind_eq_ok afterOpen
  obtain ⟨closing, closeOk, done⟩ := bind_eq_ok afterInner
  cases done
  have openLt := opened.lt
  exact (expectOp_advances openOk).trans
    (((below .expression opened.rest (by dsimp only [bound, rank] at within ⊢; omega)).parsed trivial
      rfl innerOk).trans (expectOp_advances closeOk))

theorem stays_returnStatement (below : StaysBelow fuel)
    (within : returnStatement.bound tokens < fuel + 1) : returnStatement.Stays tokens := by
  refine Stays.of_consumed rfl fun result parsed => ?_
  unfold Parser.returnStatement at parsed
  obtain ⟨keyword, keywordOk, afterKeyword⟩ := bind_eq_ok parsed
  simp only at afterKeyword
  have toKeyword := expectKeyword_advances keywordOk
  have keywordLt := keyword.lt
  split at afterKeyword
  · obtain ⟨here, madeHere, afterHere⟩ := bind_eq_ok afterKeyword
    cases madeHere
    obtain ⟨semicolon, semiOk, done⟩ := bind_eq_ok afterHere
    cases done
    exact toKeyword.trans (expectOp_advances semiOk)
  · obtain ⟨value, valueOk, afterValue⟩ := bind_eq_ok afterKeyword
    have toValue := (below .expression keyword.rest
      (by dsimp only [bound, rank] at within ⊢; omega)).parsed trivial rfl valueOk
    -- a string value is refused; any other is followed by the semicolon
    split at afterValue
    · obtain ⟨_, thrown, _⟩ := bind_eq_ok afterValue
      cases thrown
    · obtain ⟨packed, packedMade, afterPacked⟩ := bind_eq_ok afterValue
      cases packedMade
      obtain ⟨semicolon, semiOk, done⟩ := bind_eq_ok afterPacked
      cases done
      exact toKeyword.trans (toValue.trans (expectOp_advances semiOk))

theorem stays_forInit (below : StaysBelow fuel) (within : forInit.bound tokens < fuel + 1) :
    forInit.Stays tokens := by
  refine Stays.of_parsed rfl fun result parsed => ?_
  unfold Parser.forInit at parsed
  split at parsed
  · next token after =>
      split at parsed
      · next isInt =>
          obtain ⟨stmt, stmtOk, afterStmt⟩ := bind_eq_ok parsed
          simp only at afterStmt
          split at afterStmt
          · obtain ⟨_, thrown, _⟩ := bind_eq_ok afterStmt
            cases thrown
          · cases afterStmt
            exact Advances.cons (Token.notEnd_of_isKeyword isInt)
              ((below .declarator after
                (by dsimp only [bound, rank, List.length_cons] at within ⊢; omega)).consumed
                  trivial rfl stmtOk)
      · split at parsed
        · cases parsed
          exact Advances.refl
        · obtain ⟨stmt, stmtOk, done⟩ := bind_eq_ok parsed
          cases done
          exact (below .simpleStatement (token :: after)
            (by dsimp only [bound, rank] at within ⊢; omega)).consumed trivial rfl stmtOk
  · obtain ⟨⟨_, _, impossible⟩, _, _⟩ := bind_eq_ok parsed
    exact absurd impossible (Nat.not_lt_zero _)

theorem stays_forHeader (below : StaysBelow fuel) (within : forHeader.bound tokens < fuel + 1) :
    forHeader.Stays tokens := by
  refine Stays.of_consumed rfl fun result parsed => ?_
  unfold Parser.forHeader at parsed
  obtain ⟨init, initOk, afterInit⟩ := bind_eq_ok parsed
  obtain ⟨semi, semiOk, afterSemi⟩ := bind_eq_ok afterInit
  simp only at afterSemi
  have semiLt := semi.lt
  have initLe := init.le
  have toInit : Advances tokens semi.rest :=
    ((below .forInit tokens (by dsimp only [bound, rank] at within ⊢; omega)).parsed trivial rfl
      initOk).trans (expectOp_advances semiOk)
  -- the condition may be absent; either way the second semicolon follows
  split at afterSemi
  case' isTrue =>
    obtain ⟨cond, condMade, afterCond⟩ := bind_eq_ok afterSemi
    cases condMade
    obtain ⟨semi2, semi2Ok, afterSemi2⟩ := bind_eq_ok afterCond
    have toCond := toInit.trans (expectOp_advances semi2Ok)
  case' isFalse =>
    obtain ⟨cond, condOk, afterCond⟩ := bind_eq_ok afterSemi
    obtain ⟨packed, packedMade, afterPacked⟩ := bind_eq_ok afterCond
    cases packedMade
    obtain ⟨semi2, semi2Ok, afterSemi2⟩ := bind_eq_ok afterPacked
    have condLe := cond.le
    have toCond := toInit.trans (((below .expression semi.rest
      (by dsimp only [bound, rank] at within ⊢; omega)).parsed trivial rfl condOk).trans
        (expectOp_advances semi2Ok))
  -- the step may be absent too; the closing parenthesis ends the header
  all_goals
    have semi2Lt := semi2.lt
    split at afterSemi2
    · obtain ⟨step, stepMade, afterStep⟩ := bind_eq_ok afterSemi2
      cases stepMade
      obtain ⟨closing, closeOk, done⟩ := bind_eq_ok afterStep
      cases done
      exact toCond.trans (expectOp_advances closeOk)
    · obtain ⟨step, stepOk, afterStep⟩ := bind_eq_ok afterSemi2
      obtain ⟨packed', packedMade', afterPacked'⟩ := bind_eq_ok afterStep
      cases packedMade'
      obtain ⟨closing, closeOk, done⟩ := bind_eq_ok afterPacked'
      cases done
      exact toCond.trans (((below .simpleStatement semi2.rest
        (by dsimp only [bound, rank, Parsed.here] at within semi2Lt ⊢; omega)).consumed trivial rfl
          stepOk).trans (expectOp_advances closeOk))

/-! ## Blocks, bodies and compound statements -/

theorem stays_blockItems {inLoop : Bool} (below : StaysBelow fuel)
    (within : (blockItems inLoop).bound tokens < fuel + 1) : (blockItems inLoop).Stays tokens := by
  refine Stays.of_parsed rfl fun result parsed => ?_
  unfold Parser.blockItems at parsed
  split at parsed
  · next token after =>
      split at parsed
      · next isClose =>
          cases parsed
          exact Advances.cons (Token.notEnd_of_isOp isClose) Advances.refl
      · split at parsed
        · cases parsed
        · obtain ⟨stmts, stmtsOk, afterStmts⟩ := bind_eq_ok parsed
          obtain ⟨more, moreOk, done⟩ := bind_eq_ok afterStmts
          cases done
          have stmtsLt := stmts.lt
          exact ((below (.statement inLoop) (token :: after)
            (by dsimp only [bound, rank] at within ⊢; omega)).consumed trivial rfl stmtsOk).trans
              ((below (.blockItems inLoop) stmts.rest
                (by dsimp only [bound, rank] at within ⊢; omega)).parsed trivial rfl moreOk)
  · cases parsed

theorem stays_body {inLoop : Bool} (below : StaysBelow fuel)
    (within : (body inLoop).bound tokens < fuel + 1) : (body inLoop).Stays tokens := by
  refine Stays.of_consumed rfl fun result parsed => ?_
  unfold Parser.body at parsed
  split at parsed
  · next token after =>
      split at parsed
      · next isOpen =>
          obtain ⟨stmts, stmtsOk, done⟩ := bind_eq_ok parsed
          cases done
          exact Advances.cons (Token.notEnd_of_isOp isOpen)
            ((below (.blockItems inLoop) after
              (by dsimp only [bound, rank, List.length_cons] at within ⊢; omega)).parsed trivial rfl
                stmtsOk)
      · exact (below (.statement inLoop) (token :: after)
          (by dsimp only [bound, rank] at within ⊢; omega)).consumed trivial rfl parsed
  · exact (below (.statement inLoop) [] (by dsimp only [bound, rank] at within ⊢; omega)).consumed
      trivial rfl parsed

theorem stays_statement {inLoop : Bool} (below : StaysBelow fuel)
    (within : (statement inLoop).bound tokens < fuel + 1) : (statement inLoop).Stays tokens := by
  refine Stays.of_consumed rfl fun result parsed => ?_
  unfold Parser.statement at parsed
  split at parsed
  · next token after =>
      -- a reading of lower rank on the same tokens stays before the end
      have same {β : Type} (reading : Reading β) (lower : reading.rank < 2) :
          reading.bound (token :: after) < fuel := by
        dsimp only [bound] at within ⊢
        dsimp only [rank] at within
        omega
      split at parsed
      · split at parsed
        · exact (below .declaration _ (same .declaration Nat.zero_lt_two)).consumed trivial rfl parsed
        · exact (below (.ifStatement inLoop) _ (same (.ifStatement inLoop) Nat.zero_lt_two)).consumed
            trivial rfl parsed
        · exact (below .forStatement _ (same .forStatement Nat.zero_lt_two)).consumed trivial rfl
            parsed
        · exact (below .whileStatement _ (same .whileStatement Nat.zero_lt_two)).consumed trivial rfl
            parsed
        · exact (below .doStatement _ (same .doStatement Nat.zero_lt_two)).consumed trivial rfl parsed
        · obtain ⟨jumped, jumpOk, done⟩ := bind_eq_ok parsed
          cases done
          exact jump_advances jumpOk
        · obtain ⟨jumped, jumpOk, done⟩ := bind_eq_ok parsed
          cases done
          exact jump_advances jumpOk
        · obtain ⟨returned, returnOk, done⟩ := bind_eq_ok parsed
          cases done
          exact (below .returnStatement _ (same .returnStatement Nat.zero_lt_two)).consumed trivial
            rfl returnOk
        · split at parsed <;> cases parsed
      · split at parsed
        · next isOpen =>
            obtain ⟨stmts, stmtsOk, done⟩ := bind_eq_ok parsed
            cases done
            exact Advances.cons (Token.notEnd_of_isOp isOpen)
              ((below (.blockItems inLoop) after
                (by dsimp only [bound, rank, List.length_cons] at within ⊢; omega)).parsed trivial rfl
                  stmtsOk)
        · split at parsed
          · next isEmpty =>
              cases parsed
              exact Advances.cons (Token.notEnd_of_isOp isEmpty) Advances.refl
          · split at parsed
            · next isCall =>
                obtain ⟨called, callOk, done⟩ := bind_eq_ok parsed
                cases done
                -- the call starts at a name, which is no end of input
                have named : token.kind = .ident := by
                  simpa using (Bool.and_eq_true_iff.mp isCall).1
                exact (below .call _ (same .call Nat.zero_lt_two)).consumed
                  (show (peek (token :: after)).kind ≠ .eof by simp [peek, named]) rfl callOk
            · obtain ⟨stmt, stmtOk, afterStmt⟩ := bind_eq_ok parsed
              obtain ⟨semicolon, semiOk, done⟩ := bind_eq_ok afterStmt
              cases done
              exact ((below .simpleStatement _ (same .simpleStatement Nat.one_lt_two)).consumed
                trivial rfl stmtOk).trans (expectOp_advances semiOk)
  · obtain ⟨⟨_, _, impossible⟩, _, _⟩ := bind_eq_ok parsed
    exact absurd impossible (Nat.not_lt_zero _)

theorem stays_elseChain {inLoop : Bool} {branches : Array Branch} (below : StaysBelow fuel)
    (within : (elseChain inLoop branches).bound tokens < fuel + 1) :
    (elseChain inLoop branches).Stays tokens := by
  refine Stays.of_parsed rfl fun result parsed => ?_
  unfold Parser.elseChain at parsed
  split at parsed
  · next token after =>
      split at parsed
      · next isElse =>
          refine Advances.cons (Token.notEnd_of_isKeyword isElse) ?_
          split at parsed
          · next next afterNext =>
              split at parsed
              · next isIf =>
                  obtain ⟨cond, condOk, afterCond⟩ := bind_eq_ok parsed
                  obtain ⟨stmts, stmtsOk, afterStmts⟩ := bind_eq_ok afterCond
                  obtain ⟨chain, chainOk, done⟩ := bind_eq_ok afterStmts
                  cases done
                  have condLt := cond.lt
                  have stmtsLt := stmts.lt
                  exact Advances.cons (Token.notEnd_of_isKeyword isIf)
                    (((below (.condition "else if") afterNext
                      (by dsimp only [bound, rank, List.length_cons] at within ⊢; omega)).consumed
                        trivial rfl condOk).trans
                      (((below (.body inLoop) cond.rest
                        (by dsimp only [bound, rank, List.length_cons] at within ⊢; omega)).consumed
                          trivial rfl stmtsOk).trans
                        ((below (.elseChain inLoop (branches.push (.mk cond.value stmts.value)))
                          stmts.rest
                          (by dsimp only [bound, rank, List.length_cons] at within ⊢; omega)).parsed
                            trivial rfl chainOk)))
              · obtain ⟨stmts, stmtsOk, done⟩ := bind_eq_ok parsed
                cases done
                exact (below (.body inLoop) (next :: afterNext)
                  (by dsimp only [bound, rank, List.length_cons] at within ⊢; omega)).consumed
                    trivial rfl stmtsOk
          · obtain ⟨stmts, stmtsOk, done⟩ := bind_eq_ok parsed
            cases done
            exact (below (.body inLoop) []
              (by dsimp only [bound, rank, List.length_cons] at within ⊢; omega)).consumed
                trivial rfl stmtsOk
      · cases parsed
        exact Advances.refl
  · cases parsed
    exact Advances.refl

theorem stays_ifStatement {inLoop : Bool} (below : StaysBelow fuel)
    (within : (ifStatement inLoop).bound tokens < fuel + 1) :
    (ifStatement inLoop).Stays tokens := by
  refine Stays.of_consumed rfl fun result parsed => ?_
  unfold Parser.ifStatement at parsed
  obtain ⟨keyword, keywordOk, afterKeyword⟩ := bind_eq_ok parsed
  obtain ⟨cond, condOk, afterCond⟩ := bind_eq_ok afterKeyword
  obtain ⟨stmts, stmtsOk, afterStmts⟩ := bind_eq_ok afterCond
  obtain ⟨chain, chainOk, built⟩ := bind_eq_ok afterStmts
  rw [rest_of_built built]
  have keywordLt := keyword.lt
  have condLt := cond.lt
  have stmtsLt := stmts.lt
  exact (expectKeyword_advances keywordOk).trans
    (((below (.condition "if") keyword.rest (by dsimp only [bound, rank] at within ⊢; omega)).consumed
      trivial rfl condOk).trans
      (((below (.body inLoop) cond.rest (by dsimp only [bound, rank] at within ⊢; omega)).consumed
        trivial rfl stmtsOk).trans
        ((below (.elseChain inLoop #[.mk cond.value stmts.value]) stmts.rest
          (by dsimp only [bound, rank] at within ⊢; omega)).parsed trivial rfl chainOk)))

theorem stays_forStatement (below : StaysBelow fuel)
    (within : forStatement.bound tokens < fuel + 1) : forStatement.Stays tokens := by
  refine Stays.of_consumed rfl fun result parsed => ?_
  unfold Parser.forStatement at parsed
  obtain ⟨keyword, keywordOk, afterKeyword⟩ := bind_eq_ok parsed
  obtain ⟨opened, openOk, afterOpen⟩ := bind_eq_ok afterKeyword
  obtain ⟨header, headerOk, afterHeader⟩ := bind_eq_ok afterOpen
  obtain ⟨stmts, stmtsOk, done⟩ := bind_eq_ok afterHeader
  cases done
  have keywordLt := keyword.lt
  have openLt := opened.lt
  have headerLt := header.lt
  exact (expectKeyword_advances keywordOk).trans ((expectOp_advances openOk).trans
    (((below .forHeader opened.rest (by dsimp only [bound, rank] at within ⊢; omega)).consumed
      trivial rfl headerOk).trans
      ((below (.body true) header.rest (by dsimp only [bound, rank] at within ⊢; omega)).consumed
        trivial rfl stmtsOk)))

theorem stays_whileStatement (below : StaysBelow fuel)
    (within : whileStatement.bound tokens < fuel + 1) : whileStatement.Stays tokens := by
  refine Stays.of_consumed rfl fun result parsed => ?_
  unfold Parser.whileStatement at parsed
  obtain ⟨keyword, keywordOk, afterKeyword⟩ := bind_eq_ok parsed
  obtain ⟨cond, condOk, afterCond⟩ := bind_eq_ok afterKeyword
  obtain ⟨stmts, stmtsOk, done⟩ := bind_eq_ok afterCond
  cases done
  have keywordLt := keyword.lt
  have condLt := cond.lt
  exact (expectKeyword_advances keywordOk).trans
    (((below (.condition "while") keyword.rest (by dsimp only [bound, rank] at within ⊢; omega)).consumed
      trivial rfl condOk).trans
      ((below (.body true) cond.rest (by dsimp only [bound, rank] at within ⊢; omega)).consumed
        trivial rfl stmtsOk))

theorem stays_doStatement (below : StaysBelow fuel)
    (within : doStatement.bound tokens < fuel + 1) : doStatement.Stays tokens := by
  refine Stays.of_consumed rfl fun result parsed => ?_
  unfold Parser.doStatement at parsed
  obtain ⟨keyword, keywordOk, afterKeyword⟩ := bind_eq_ok parsed
  obtain ⟨stmts, stmtsOk, afterStmts⟩ := bind_eq_ok afterKeyword
  obtain ⟨closing, whileOk, afterWhile⟩ := bind_eq_ok afterStmts
  obtain ⟨cond, condOk, afterCond⟩ := bind_eq_ok afterWhile
  obtain ⟨semicolon, semiOk, done⟩ := bind_eq_ok afterCond
  cases done
  have keywordLt := keyword.lt
  have stmtsLt := stmts.lt
  have whileLt := closing.lt
  exact (expectKeyword_advances keywordOk).trans
    (((below (.body true) keyword.rest (by dsimp only [bound, rank] at within ⊢; omega)).consumed
      trivial rfl stmtsOk).trans ((expectKeyword_advances whileOk).trans
        (((below (.condition "while") closing.rest
          (by dsimp only [bound, rank] at within ⊢; omega)).consumed trivial rfl condOk).trans
            (expectOp_advances semiOk))))

theorem stays_mainFunction (below : StaysBelow fuel)
    (within : mainFunction.bound tokens < fuel + 1) : mainFunction.Stays tokens := by
  refine Stays.of_parsed rfl fun result parsed => ?_
  unfold Parser.mainFunction at parsed
  obtain ⟨⟨int, afterInt, intLt⟩, intOk, afterIntRead⟩ := bind_eq_ok parsed
  obtain ⟨⟨name, afterName, nameLt⟩, nameOk, afterNameRead⟩ := bind_eq_ok afterIntRead
  simp only at afterNameRead
  split at afterNameRead
  · obtain ⟨_, thrown, _⟩ := bind_eq_ok afterNameRead
    cases thrown
  · obtain ⟨⟨⟨⟩, afterOpen, openLt⟩, openOk, afterOpenRead⟩ := bind_eq_ok afterNameRead
    obtain ⟨⟨⟨⟩, afterVoid, voidLe⟩, voidOk, afterVoidRead⟩ := bind_eq_ok afterOpenRead
    obtain ⟨⟨⟨⟩, afterClose, closeLt⟩, closeOk, afterCloseRead⟩ := bind_eq_ok afterVoidRead
    obtain ⟨⟨⟨⟩, afterBrace, braceLt⟩, braceOk, afterBraceRead⟩ := bind_eq_ok afterCloseRead
    obtain ⟨⟨stmts, final, finalLe⟩, stmtsOk, done⟩ := bind_eq_ok afterBraceRead
    cases done
    -- the optional 'void' is a keyword
    have toVoid : Advances afterOpen afterVoid := by
      cases afterOpen with
      | nil =>
          cases voidOk
          exact Advances.refl
      | cons token after =>
          simp only at voidOk
          split at voidOk
          · next isVoid =>
              cases voidOk
              exact Advances.cons (Token.notEnd_of_isKeyword isVoid) Advances.refl
          · cases voidOk
            exact Advances.refl
    exact (expectKeyword_advances intOk).trans ((expectIdent_advances nameOk).trans
      ((expectOp_advances openOk).trans (toVoid.trans ((expectOp_advances closeOk).trans
        ((expectOp_advances braceOk).trans ((below (.blockItems false) afterBrace
          (by
            dsimp only [bound, rank] at within nameLt openLt voidLe closeLt braceLt ⊢
            omega)).parsed trivial rfl stmtsOk))))))

theorem stays_fileScope {headers : Array String} {declared : Array Stmt} (below : StaysBelow fuel)
    (within : (fileScope headers declared).bound tokens < fuel + 1) :
    (fileScope headers declared).Stays tokens := by
  refine Stays.of_parsed rfl fun result parsed => ?_
  unfold Parser.fileScope at parsed
  split at parsed
  · next token after =>
      split at parsed
      · next isDirective =>
          split at parsed
          · next header _ =>
              obtain ⟨rest, restOk, done⟩ := bind_eq_ok parsed
              cases done
              exact Advances.cons (by simp_all)
                ((below (.fileScope (headers.push header) declared) after
                  (by dsimp only [bound, rank, List.length_cons] at within ⊢; omega)).parsed trivial rfl
                    restOk)
          · cases parsed
      · split at parsed
        · obtain ⟨stmts, stmtsOk, done⟩ := bind_eq_ok parsed
          cases done
          exact (below .mainFunction (token :: after)
            (by dsimp only [bound, rank] at within ⊢; omega)).parsed trivial rfl stmtsOk
        · split at parsed
          · obtain ⟨stmts, stmtsOk, afterStmts⟩ := bind_eq_ok parsed
            obtain ⟨rest, restOk, done⟩ := bind_eq_ok afterStmts
            cases done
            have stmtsLt := stmts.lt
            exact ((below .declaration (token :: after)
              (by dsimp only [bound, rank] at within ⊢; omega)).consumed trivial rfl stmtsOk).trans
                ((below (.fileScope headers (declared ++ stmts.value.toArray)) stmts.rest
                  (by dsimp only [bound, rank, List.length_cons] at within stmtsLt ⊢; omega)).parsed
                    trivial rfl restOk)
          · split at parsed <;> cases parsed
  · cases parsed

/-- Every reading stays before the end: by induction on the fuel that
covers it, each function of the reader in turn. -/
theorem stays_below (fuel : Nat) : StaysBelow fuel := by
  induction fuel with
  | zero =>
      intro _ _ _ within
      exact absurd within (Nat.not_lt_zero _)
  | succ fuel below =>
      intro _ reading _ within
      cases reading with
      | expression => exact stays_expression below within
      | binary => exact stays_binary below within
      | binaryTail => exact stays_binaryTail below within
      | unary => exact stays_unary below within
      | primary => exact stays_primary below within
      | strings => exact stays_strings
      | target => exact stays_target below within
      | simpleStatement => exact stays_simpleStatement below within
      | arrayElements => exact stays_arrayElements below within
      | initializerList => exact stays_initializerList below within
      | arrayDeclarator => exact stays_arrayDeclarator below within
      | declarator => exact stays_declarator below within
      | moreDeclarators => exact stays_moreDeclarators below within
      | declaration => exact stays_declaration below within
      | arguments => exact stays_arguments below within
      | call => exact stays_call below within
      | condition => exact stays_condition below within
      | returnStatement => exact stays_returnStatement below within
      | forInit => exact stays_forInit below within
      | forHeader => exact stays_forHeader below within
      | blockItems => exact stays_blockItems below within
      | body => exact stays_body below within
      | statement => exact stays_statement below within
      | elseChain => exact stays_elseChain below within
      | ifStatement => exact stays_ifStatement below within
      | forStatement => exact stays_forStatement below within
      | whileStatement => exact stays_whileStatement below within
      | doStatement => exact stays_doStatement below within
      | mainFunction => exact stays_mainFunction below within
      | fileScope => exact stays_fileScope below within

theorem stays (reading : Reading α) (tokens : List Token) : reading.Stays tokens :=
  stays_below _ reading tokens (Nat.lt_succ_self _)

end Reading

/-- Reading past tokens none of which is the end, from tokens that end with
the end, keeps that last token. -/
theorem Advances.keeps_end {tokens rest : List Token} {last : Token} (atEnd : last.kind = .eof)
    (moved : Advances (tokens ++ [last]) rest) :
    ∃ taken kept, (∀ token ∈ taken, token.kind ≠ .eof) ∧ tokens = taken ++ kept ∧
      rest = kept ++ [last] := by
  obtain ⟨taken, split, notEnd⟩ := moved
  rcases List.append_eq_append_iff.mp split with ⟨extra, inTaken, lastIs⟩ | ⟨kept, inTokens, restIs⟩
  · -- the last token is not among those read past, so nothing of it was read
    rcases List.append_eq_singleton_iff.mp lastIs.symm with ⟨rfl, rfl⟩ | ⟨rfl, rfl⟩
    · exact ⟨taken, [], notEnd, by simpa using inTaken.symm, by simp⟩
    · exact absurd atEnd (notEnd last (by simp [inTaken]))
  · exact ⟨taken, kept, notEnd, inTokens, restIs⟩

/-- The reader stops on every token list that ends with the end of input.
Each call of the clocked reader takes one tick from the fuel it hands on, and
with five ticks a token and two more it reads a whole program to the
parser's own answer; every reading gets the reader's answer with one tick
more than its bound, five a token plus its rank. So every chain of calls is
finite: a call either reads past a token or goes to a reading of lower rank
on the same tokens. A reading that succeeds has read past tokens none of
which is the end: what it leaves still ends with the end of input. -/
theorem parser_stops_before_end (tokens : List Token) (last : Token) (atEnd : last.kind = .eof) :
    clockedProgram (5 * (tokens ++ [last]).length + 2) (tokens ++ [last]) =
        Clock.answer (parseTokens (tokens ++ [last])) ∧
      (∀ {α : Type} (reading : Reading α),
        reading.clocked (reading.bound (tokens ++ [last]) + 1) (tokens ++ [last]) =
          Clock.answer (reading.run (tokens ++ [last]))) ∧
      ∀ {α : Type} (reading : Reading α) (value : α) (rest : List Token),
        reading.Opens (tokens ++ [last]) → reading.run (tokens ++ [last]) = .ok (value, rest) →
          ∃ taken kept, (∀ token ∈ taken, token.kind ≠ .eof) ∧ tokens = taken ++ kept ∧
            rest = kept ++ [last] := by
  refine ⟨clockedProgram_eq _ (Nat.lt_succ_self _), fun reading =>
    Reading.clocked_eq_run reading _ (Nat.lt_succ_self _), fun reading value rest opens ran => ?_⟩
  exact Advances.keeps_end atEnd (Reading.stays reading _ opens value rest ran)

/-- The end of input alone: the clock answers, and what a reading leaves is
that token. -/
theorem parser_stops_before_end_at_lone_end :
    endToken.kind = .eof ∧
      (clockedProgram (5 * [endToken].length + 2) [endToken] =
          Clock.answer (parseTokens [endToken]) ∧
        (∀ {α : Type} (reading : Reading α),
          reading.clocked (reading.bound [endToken] + 1) [endToken] =
            Clock.answer (reading.run [endToken])) ∧
        ∀ {α : Type} (reading : Reading α) (value : α) (rest : List Token),
          reading.Opens [endToken] → reading.run [endToken] = .ok (value, rest) →
            ∃ taken kept, (∀ token ∈ taken, token.kind ≠ .eof) ∧ [] = taken ++ kept ∧
              rest = kept ++ [endToken]) :=
  ⟨rfl, parser_stops_before_end [] endToken rfl⟩

end ClassroomC.Parser
