import ClassroomC.Proofs.Numerals
import ClassroomC.Proofs.Precedence

/-!
# Printing an expression and reading it back

An expression tree in the parser's normal form, printed with parentheses
only where the operator table requires them, reads back as the same tree.
The normal form is what the parser builds from operators and non-string
operands: a minus before an integer literal is folded into the literal, so
no tree in it applies a minus to a literal.

The printer puts parentheses around an operand of a unary operator that is
a binary operation, around a left operand that binds looser than its
operator, and around a right operand that binds no tighter, since every
operator is left-associative. A negative literal is printed as a minus
before its magnitude, which the parser folds back. A magnitude is printed in
decimal, or in hexadecimal when its decimal numeral has more digits than
integer conversion reads.

The proof runs on the layered grammar of the precedence module. A tree of
precedence `p` is read by level `p`, and by every looser level down to `1`,
before any rest that would not extend it (`Reads`).
-/

namespace ClassroomC

/-! ## The printer -/

/-- The level of a binary operator in the operator table; higher binds
tighter. -/
def BinOp.precedence : BinOp → Nat
  | .or => 1
  | .and => 2
  | .eq | .ne => 3
  | .lt | .le | .gt | .ge => 4
  | .add | .sub => 5
  | .mul | .div | .mod => 6

theorem BinOp.precedence_pos (op : BinOp) : 0 < op.precedence := by
  cases op <;> decide

theorem BinOp.precedence_lt_seven (op : BinOp) : op.precedence < 7 := by
  cases op <;> decide

/-- The level an expression stands at: a binary operation at its operator's,
everything else at the unary level `7`. -/
def Expr.rank : Expr → Nat
  | .binary op _ _ => op.precedence
  | _ => 7

theorem Expr.rank_pos (expr : Expr) : 0 < expr.rank := by
  cases expr <;> simp [Expr.rank, BinOp.precedence_pos]

theorem Expr.rank_le_seven (expr : Expr) : expr.rank ≤ 7 := by
  cases expr <;> simp [Expr.rank, Nat.le_of_lt (BinOp.precedence_lt_seven _)]

namespace Parser

/-- The operator token `text`. -/
def opToken (text : String) : Token := ⟨.op, text, 0⟩

/-- `tokens`, in parentheses when `needed`. -/
def parenthesize (needed : Bool) (tokens : List Token) : List Token :=
  if needed then opToken "(" :: tokens ++ [opToken ")"] else tokens

/-- The numeral of a natural number: decimal, unless that has more digits
than integer conversion reads, and then hexadecimal behind `0x`. -/
def numeralText (n : Nat) : String :=
  if (Nat.toDigits 10 n).length ≤ Literal.digitLimit then toString n
  else "0x" ++ String.ofList (Nat.toDigits 16 n)

/-- The tokens of an expression, with parentheses only where the operator
table requires them. -/
def print : Expr → List Token
  | .int value =>
    let numeral : Token := ⟨.number, numeralText value.natAbs, 0⟩
    if value < 0 then [opToken "-", numeral] else [numeral]
  | .str text => [⟨.string, "\"" ++ text ++ "\"", 0⟩]
  | .var name => [⟨.ident, name, 0⟩]
  | .index name position => ⟨.ident, name, 0⟩ :: opToken "[" :: print position ++ [opToken "]"]
  | .unary op operand => opToken op.symbol :: parenthesize (operand.rank < 7) (print operand)
  | .binary op left right =>
    parenthesize (left.rank < op.precedence) (print left) ++
      opToken op.symbol :: parenthesize (right.rank ≤ op.precedence) (print right)

example :
    (print (.binary .sub (.var "a") (.binary .mul (.binary .sub (.var "b") (.var "c")) (.int (-2))))).map
      Token.text = ["a", "-", "(", "b", "-", "c", ")", "*", "-", "2"] := by
  decide

end Parser

/-- The trees the parser builds from operators and operands other than
strings: a minus is never applied directly to an integer literal. -/
inductive Expr.Normal : Expr → Prop
  | int (value : Int) : Expr.Normal (.int value)
  | var (name : String) : Expr.Normal (.var name)
  | index (name : String) {position : Expr} : position.Normal → Expr.Normal (.index name position)
  | unary (op : UnOp) {operand : Expr} : operand.Normal →
      (op = .neg → ∀ value, operand ≠ .int value) → Expr.Normal (.unary op operand)
  | binary (op : BinOp) {left right : Expr} : left.Normal → right.Normal →
      Expr.Normal (.binary op left right)

namespace Parser

/-! ## Operator tokens -/

theorem binaryOperator?_symbol (op : BinOp) :
    binaryOperator? (opToken op.symbol) = some (op, op.precedence) := by
  cases op <;> decide

theorem unaryOperator?_symbol (op : UnOp) : unaryOperator? (opToken op.symbol) = some op := by
  cases op <;> decide

/-- A unary operator before anything but a literal stays an operator. -/
theorem applyUnary_of_not_literal {op : UnOp} {operand : Expr}
    (notFolded : op = .neg → ∀ value, operand ≠ .int value) :
    applyUnary op operand = .unary op operand := by
  cases op <;> cases operand <;> first | rfl | exact absurd rfl (notFolded rfl _)

/-! ## What may follow a printed expression -/

/-- The tokens that may follow an operand without being read into it: none,
or a token other than `(` and `[`, which would make a variable a call or an
element. -/
def Detached : List Token → Prop
  | [] => True
  | token :: _ => token.isOp "(" = false ∧ token.isOp "[" = false

theorem Stops.mono {least least' : Nat} {tokens : List Token} (stops : Stops least tokens)
    (le : least ≤ least') : Stops least' tokens := by
  cases tokens with
  | nil => trivial
  | cons token after =>
      intro op precedence found
      have looser := stops op precedence found
      omega

theorem stops_of_not_operator {least : Nat} {token : Token} (rest : List Token)
    (notOperator : binaryOperator? token = none) : Stops least (token :: rest) := by
  intro op precedence found
  rw [notOperator] at found
  cases found

/-- A closing bracket ends every level. -/
theorem stops_closer (least : Nat) (rest : List Token) {text : String}
    (closer : text = ")" ∨ text = "]") : Stops least (opToken text :: rest) := by
  apply stops_of_not_operator
  rcases closer with rfl | rfl <;> decide

theorem detached_closer (rest : List Token) {text : String} (closer : text = ")" ∨ text = "]") :
    Detached (opToken text :: rest) := by
  rcases closer with rfl | rfl <;> exact ⟨rfl, rfl⟩

/-- A level's tail takes nothing before a token its level stops at. -/
theorem levelTail_of_stops {k : Nat} {rest : List Token} (stops : Stops k rest) (left : Expr) :
    result (levelTail k left rest) = .ok (left, rest) := by
  cases rest with
  | nil => exact result_levelTail_nil k left
  | cons token after =>
      rw [result_levelTail_cons]
      cases found : binaryOperator? token with
      | none => rfl
      | some entry =>
          obtain ⟨op, precedence⟩ := entry
          dsimp only
          rw [if_neg (Nat.ne_of_lt (stops op precedence found))]

/-! ## One step of the unary parser and of an expression -/

theorem result_unary_cons (token : Token) (after : List Token) :
    result (unary (token :: after)) =
      match unaryOperator? token with
      | some op => result (unary after) >>= fun read => .ok (applyUnary op read.1, read.2)
      | none => result (primary (token :: after)) := by
  rw [unary]
  dsimp only
  cases unaryOperator? token with
  | none => rfl
  | some op =>
      dsimp only
      cases unary after with
      | error error => rfl
      | ok read => rfl

/-- A token that is no unary operator starts an operand. -/
theorem result_unary_primary {token : Token} (after : List Token)
    (notUnary : unaryOperator? token = none) :
    result (unary (token :: after)) = result (primary (token :: after)) := by
  rw [result_unary_cons, notUnary]

/-- A parse that gives a value and a rest is that value and rest, with some
proof of its length. -/
theorem eq_ok_of_result {tokens : List Token} {α : Type} {parsed : Except ParseError (Parsed tokens α)}
    {value : α} {rest : List Token} (gave : result parsed = .ok (value, rest)) :
    ∃ le, parsed = .ok ⟨value, rest, le⟩ := by
  cases parsed with
  | error error => cases gave
  | ok read =>
      obtain ⟨value', rest', le⟩ := read
      simp only [result, Except.map, Except.ok.injEq, Prod.mk.injEq] at gave
      obtain ⟨rfl, rfl⟩ := gave
      exact ⟨le, rfl⟩

/-- An expression is its climb from level `1` when no excluded operator
follows it. -/
theorem result_expression {tokens : List Token} {expr : Expr} {next : Token} {rest : List Token}
    (climbed : result (binary 1 tokens) = .ok (expr, next :: rest))
    (allowed : next.text ∉ refusedAfterExpression) :
    result (expression tokens) = .ok (expr, next :: rest) := by
  obtain ⟨le, parsed⟩ := eq_ok_of_result climbed
  rw [expression, parsed]
  simp [bind, Except.bind, peek, allowed]
  rfl

/-! ## Reading a printed expression -/

/-- Level `k` of the grammar reads `printed` as `expr`, then goes on with the
operators of precedence `k` after it: before every rest that neither holds
an operator binding tighter than `k` nor makes a variable a call or an
element. -/
def Reads (k : Nat) (printed : List Token) (expr : Expr) : Prop :=
  ∀ rest, Stops (k + 1) rest → Detached rest →
    result (level k (printed ++ rest)) = result (levelTail k expr rest)

/-- A unary expression reads `printed` as `expr` before every rest that does
not make a variable a call or an element. -/
def ReadsUnary (printed : List Token) (expr : Expr) : Prop :=
  ∀ rest, Detached rest → result (unary (printed ++ rest)) = .ok (expr, rest)

section Reading

variable {printed : List Token} {expr : Expr}

/-- What a level reads, the next looser level reads too. -/
theorem Reads.lower {k : Nat} (reads : Reads (k + 1) printed expr) (below : k < 7) :
    Reads k printed expr := by
  intro rest stops detached
  rw [result_level, if_pos below, reads rest (stops.mono (by omega)) detached,
    levelTail_of_stops stops]
  rfl

theorem Reads.lowerTo {j k : Nat} (reads : Reads j printed expr) (le : k ≤ j) (top : j ≤ 7) :
    Reads k printed expr := by
  obtain ⟨gap, rfl⟩ := Nat.exists_eq_add_of_le le
  induction gap with
  | zero => exact reads
  | succ gap ih =>
      have reads : Reads (k + gap + 1) printed expr := reads
      exact ih (reads.lower (by omega)) (by omega) (by omega)

/-- Level `7` is the unary expressions. -/
theorem ReadsUnary.reads (unary : ReadsUnary printed expr) : Reads 7 printed expr := by
  intro rest _ detached
  rw [result_level, if_neg (by decide), unary rest detached,
    levelTail_of_stops (stops_of_seven_le (Nat.le_refl 7) rest)]

theorem Reads.unary (reads : Reads 7 printed expr) : ReadsUnary printed expr := by
  intro rest detached
  have read := reads rest (stops_of_seven_le (by decide) rest) detached
  rwa [result_level, if_neg (by decide),
    levelTail_of_stops (stops_of_seven_le (Nat.le_refl 7) rest)] at read

/-- What level `1` reads, the climb from `1` reads, and it ends before a
rest that holds no operator. -/
theorem Reads.parse (reads : Reads 1 printed expr) {rest : List Token} (stops : Stops 1 rest)
    (detached : Detached rest) : result (binary 1 (printed ++ rest)) = .ok (expr, rest) := by
  rw [climb_eq_level, reads rest (stops.mono (by decide)) detached, levelTail_of_stops stops]

/-- An expression in parentheses is a unary expression. -/
theorem readsUnary_parenthesized (reads : Reads 1 printed expr) :
    ReadsUnary (parenthesize true printed) expr := by
  intro rest detached
  have inner := result_expression
    (reads.parse (stops_closer 1 rest (.inl rfl)) (detached_closer rest (.inl rfl))) (by decide)
  obtain ⟨le, parsed⟩ := eq_ok_of_result inner
  show result (unary ((opToken "(" :: (printed ++ [opToken ")"])) ++ rest)) = _
  rw [List.cons_append, List.append_assoc, List.singleton_append,
    result_unary_primary _ (by decide)]
  rw [primary.eq_def]
  dsimp only [opToken] at parsed ⊢
  rw [if_pos (by decide), parsed]
  rfl

/-- A printed numeral is the literal of its value. -/
theorem literalValue_numeral (n line : Nat) : literalValue ⟨.number, numeralText n, line⟩ = .ok n := by
  unfold literalValue numeralText
  dsimp only
  rw [if_neg (by decide)]
  by_cases short : (Nat.toDigits 10 n).length ≤ Literal.digitLimit
  · rw [if_pos short, Literal.ofInt_toString n short]
  · -- a hexadecimal numeral is read with no limit on its digits
    have hex := Literal.ofInt_hex Literal.glyphs_hex "0x" rfl (.inl rfl) n
    rw [List.map_id] at hex
    rw [if_neg short, hex]

theorem readsUnary_numeral (n : Nat) : ReadsUnary [⟨.number, numeralText n, 0⟩] (.int n) := by
  intro rest _
  rw [List.singleton_append, result_unary_primary _ rfl]
  rw [primary.eq_def]
  dsimp only
  rw [literalValue_numeral]
  rfl

/-- A name is a variable when no `(` or `[` follows it. -/
theorem readsUnary_var (name : String) : ReadsUnary [⟨.ident, name, 0⟩] (.var name) := by
  intro rest detached
  rw [List.singleton_append, result_unary_primary _ rfl]
  rw [primary.eq_def]
  dsimp only
  cases rest with
  | nil => rfl
  | cons next after =>
      obtain ⟨notCall, notIndex⟩ := detached
      dsimp only
      rw [notCall, notIndex]
      rfl

/-- A name followed by an expression in brackets is an array element. -/
theorem readsUnary_index (name : String) {position : Expr} (reads : Reads 1 printed position) :
    ReadsUnary (⟨.ident, name, 0⟩ :: opToken "[" :: printed ++ [opToken "]"]) (.index name position) := by
  intro rest detached
  have inner := result_expression
    (reads.parse (stops_closer 1 rest (.inr rfl)) (detached_closer rest (.inr rfl))) (by decide)
  obtain ⟨le, parsed⟩ := eq_ok_of_result inner
  have shape : (⟨.ident, name, 0⟩ :: opToken "[" :: printed ++ [opToken "]"]) ++ rest =
      ⟨.ident, name, 0⟩ :: opToken "[" :: (printed ++ opToken "]" :: rest) := by
    simp
  rw [shape, result_unary_primary _ rfl]
  rw [primary.eq_1]
  have notCall : (opToken "[").isOp "(" = false := by decide
  have element : (opToken "[").isOp "[" = true := by decide
  dsimp only [opToken] at parsed notCall element ⊢
  simp only [notCall, element, Bool.false_eq_true, if_false, if_true]
  rw [parsed]
  rfl

/-- A unary operator before a unary expression. -/
theorem ReadsUnary.operator (op : UnOp) (reads : ReadsUnary printed expr) :
    ReadsUnary (opToken op.symbol :: printed) (applyUnary op expr) := by
  intro rest detached
  rw [List.cons_append, result_unary_cons, unaryOperator?_symbol]
  dsimp only
  rw [reads rest detached]
  rfl

/-- An operation of precedence `p` reads its left operand at level `p` and
its right one at level `p + 1`: the operator ends the left operand, and the
right one ends before a rest the whole operation ends before. -/
theorem Reads.binary (op : BinOp) {leftTokens rightTokens : List Token} {left right : Expr}
    (leftReads : Reads op.precedence leftTokens left)
    (rightReads : Reads (op.precedence + 1) rightTokens right) :
    Reads op.precedence (leftTokens ++ opToken op.symbol :: rightTokens) (.binary op left right) := by
  intro rest stops detached
  have operatorStops : Stops (op.precedence + 1) (opToken op.symbol :: rightTokens ++ rest) := by
    intro op' precedence found
    rw [binaryOperator?_symbol] at found
    cases found
    omega
  have operatorDetached : Detached (opToken op.symbol :: rightTokens ++ rest) := by
    cases op <;> exact ⟨rfl, rfl⟩
  rw [List.append_assoc, leftReads _ operatorStops operatorDetached, List.cons_append,
    result_levelTail_cons, binaryOperator?_symbol]
  dsimp only
  rw [if_pos rfl, rightReads rest (stops.mono (by omega)) detached, levelTail_of_stops stops]
  rfl

end Reading

/-- A printed expression read at a level `k` it stands at or above: in
parentheses when it binds looser than `k`. -/
theorem Reads.operand {expr : Expr} (reads : Reads expr.rank (print expr) expr) {k : Nat}
    (top : k ≤ 7) :
    Reads k (parenthesize (expr.rank < k) (print expr)) expr := by
  by_cases looser : expr.rank < k
  · -- the parentheses make it a unary expression, which every level reads
    have inner : Reads 1 (print expr) expr := reads.lowerTo expr.rank_pos expr.rank_le_seven
    simp only [looser, decide_true]
    exact (readsUnary_parenthesized inner).reads.lowerTo top (Nat.le_refl 7)
  · simp only [looser, decide_false, parenthesize, Bool.false_eq_true, if_false]
    exact reads.lowerTo (by omega) expr.rank_le_seven

/-- Every expression in normal form is read back from its print at its own
level. The induction is on the normal form; the literals, names and unary
operations are read at level `7`, and a binary operation at its operator's
level from its operands read at theirs. -/
theorem reads_print {expr : Expr} (normal : expr.Normal) : Reads expr.rank (print expr) expr := by
  induction normal with
  | int value =>
      apply ReadsUnary.reads
      by_cases negative : value < 0
      · -- the minus before the magnitude is folded back into the literal
        have folded := (readsUnary_numeral value.natAbs).operator .neg
        have magnitude : applyUnary .neg (.int value.natAbs) = .int value :=
          congrArg Expr.int (by omega)
        rw [magnitude] at folded
        simp only [print, negative, if_true]
        exact folded
      · have numeral := readsUnary_numeral value.natAbs
        have magnitude : (value.natAbs : Int) = value := by omega
        rw [magnitude] at numeral
        simp only [print, negative, if_false]
        exact numeral
  | var name => exact (readsUnary_var name).reads
  | index name normal reads =>
      exact (readsUnary_index name (reads.lowerTo (Expr.rank_pos _) (Expr.rank_le_seven _))).reads
  | unary op normal notFolded reads =>
      have operand := (reads.operand (Nat.le_refl 7)).unary.operator op
      rw [applyUnary_of_not_literal notFolded] at operand
      exact operand.reads
  | binary op normalLeft normalRight leftReads rightReads =>
      have left := leftReads.operand (Nat.le_of_lt op.precedence_lt_seven)
      have right := rightReads.operand op.precedence_lt_seven
      simp only [Nat.lt_succ_iff] at right
      exact Reads.binary op left right

/-- Printing an expression in normal form and climbing from level `1` gives
the expression back, before every rest that holds no operator and does not
make a variable a call or an element. -/
theorem print_parse {expr : Expr} (normal : expr.Normal) {rest : List Token} (stops : Stops 1 rest)
    (detached : Detached rest) : result (binary 1 (print expr ++ rest)) = .ok (expr, rest) :=
  ((reads_print normal).lowerTo expr.rank_pos expr.rank_le_seven).parse stops detached

/-- The whole printed expression, up to the end of input, reads back as
itself. -/
theorem print_parse_expression {expr : Expr} (normal : expr.Normal) :
    result (expression (print expr ++ [endToken])) = .ok (expr, [endToken]) :=
  result_expression (print_parse normal (stops_of_not_operator [] (by decide)) ⟨rfl, rfl⟩)
    (by decide)

end Parser

/-- Precedence climbing is the layered grammar: from every bound, on every
token list, the climb gives what the grammar's level of that bound gives,
the same tree and the same tokens left, or the same error. So every binary
operator is left-associative and binds as its level in the table says. An
expression in normal form, printed with parentheses only where the table
requires them, reads back as itself: by the climb, before every rest that
does not extend it, and as a whole expression up to the end of input. -/
theorem precedence_climbing_is_layered_grammar :
    (∀ (least : Nat) (tokens : List Token), Parser.binary least tokens = Parser.level least tokens) ∧
    (∀ expr : Expr, expr.Normal → ∀ rest : List Token, Parser.Stops 1 rest → Parser.Detached rest →
      Parser.result (Parser.binary 1 (Parser.print expr ++ rest)) = .ok (expr, rest)) ∧
    (∀ expr : Expr, expr.Normal →
      Parser.result (Parser.expression (Parser.print expr ++ [Parser.endToken])) =
        .ok (expr, [Parser.endToken])) :=
  ⟨fun least tokens => Parser.result_inj (Parser.climb_eq_level least tokens),
    fun _ normal _ stops detached => Parser.print_parse normal stops detached,
    fun _ normal => Parser.print_parse_expression normal⟩

/-- `a - (b - c) * -2`, printed and read back before the end of input. -/
theorem precedence_climbing_of_nested_difference :
    (Expr.binary .sub (.var "a") (.binary .mul (.binary .sub (.var "b") (.var "c")) (.int (-2)))).Normal ∧
      Parser.Stops 1 [Parser.endToken] ∧ Parser.Detached [Parser.endToken] ∧
      Parser.result (Parser.binary 1 (Parser.print
          (.binary .sub (.var "a") (.binary .mul (.binary .sub (.var "b") (.var "c")) (.int (-2)))) ++
            [Parser.endToken])) =
        .ok (.binary .sub (.var "a") (.binary .mul (.binary .sub (.var "b") (.var "c")) (.int (-2))),
          [Parser.endToken]) ∧
      Parser.result (Parser.expression (Parser.print
          (.binary .sub (.var "a") (.binary .mul (.binary .sub (.var "b") (.var "c")) (.int (-2)))) ++
            [Parser.endToken])) =
        .ok (.binary .sub (.var "a") (.binary .mul (.binary .sub (.var "b") (.var "c")) (.int (-2))),
          [Parser.endToken]) :=
  have normal : (Expr.binary .sub (.var "a")
      (.binary .mul (.binary .sub (.var "b") (.var "c")) (.int (-2)))).Normal :=
    .binary _ (.var _) (.binary _ (.binary _ (.var _) (.var _)) (.int _))
  have stops : Parser.Stops 1 [Parser.endToken] := Parser.stops_of_not_operator [] (by decide)
  have detached : Parser.Detached [Parser.endToken] := ⟨rfl, rfl⟩
  ⟨normal, stops, detached, precedence_climbing_is_layered_grammar.2.1 _ normal _ stops detached,
    precedence_climbing_is_layered_grammar.2.2 _ normal⟩

end ClassroomC
