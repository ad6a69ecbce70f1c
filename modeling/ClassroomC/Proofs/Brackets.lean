import ClassroomC.Parser.Program
import ClassroomC.Proofs.Unmarked

/-!
# The parser reads brackets in pairs

Every stretch of tokens a parsing function reads opens as many braces as it
closes, opens as many parentheses as it closes, and holds no preprocessor
line. Braces and parentheses are consumed only in pairs: around a block, an
initializer list, a condition, a `for` header, a `printf` call, a
parenthesised expression and the parameter list of `main`. Preprocessor
lines are read only before `main`, each as an include line.

Each function of the parser gets one lemma, `Neutral tokens rest` for what
it leaves; the mutually recursive functions get theirs from the generated
mutual induction principles. The file scope then reads a whole program as a
`Preamble` of include lines and declarations, each ending with a semicolon or
a line of its own, followed by the header of `main` and a balanced body
(`FileRead`).
-/

namespace ClassroomC

instance : LawfulBEq TokenKind where
  eq_of_beq {a b} := by cases a <;> cases b <;> decide
  rfl {a} := by cases a <;> decide

/-- A token that is no brace, no parenthesis and no preprocessor line. -/
def Token.Plain (token : Token) : Prop :=
  token.kind ≠ .directive ∧ token.isOp "\x7b" = false ∧ token.isOp "\x7d" = false ∧
    token.isOp "(" = false ∧ token.isOp ")" = false

namespace Token

variable {token : Token}

theorem plain_of_isOp {text : String} (isText : token.isOp text = true)
    (other : text ∉ ["\x7b", "\x7d", "(", ")"]) : token.Plain := by
  simp only [isOp, Bool.and_eq_true, beq_iff_eq] at isText
  obtain ⟨isOpKind, rfl⟩ := isText
  simp only [List.mem_cons, List.not_mem_nil, or_false, not_or] at other
  simp [Plain, isOp, isOpKind, other]

theorem plain_of_kind (notOp : token.kind ≠ .op) (notDirective : token.kind ≠ .directive) :
    token.Plain := by
  simp [Plain, isOp, notOp, notDirective]

theorem plain_of_isKeyword {word : String} (isWord : token.isKeyword word = true) : token.Plain := by
  simp only [isKeyword, Bool.and_eq_true, beq_iff_eq] at isWord
  exact plain_of_kind (by simp [isWord]) (by simp [isWord])

theorem kind_of_isOp {text : String} (isText : token.isOp text = true) : token.kind = .op := by
  simp only [isOp, Bool.and_eq_true, beq_iff_eq] at isText
  exact isText.1

theorem isOp_eq_false {text text' : String} (isText : token.isOp text = true) (other : text ≠ text') :
    token.isOp text' = false := by
  simp only [isOp, Bool.and_eq_true, beq_iff_eq] at isText
  simp [isOp, isText.2, other]

/-- A token's kind and text, what the validator sees of it. -/
def view (token : Token) : TokenKind × String := (token.kind, token.text)

theorem view_of_isKeyword {word : String} (isWord : token.isKeyword word = true) :
    token.view = (.keyword, word) := by
  simp only [isKeyword, Bool.and_eq_true, beq_iff_eq] at isWord
  simp [view, isWord]

theorem view_of_isOp {text : String} (isText : token.isOp text = true) : token.view = (.op, text) := by
  simp only [isOp, Bool.and_eq_true, beq_iff_eq] at isText
  simp [view, isText]

end Token

namespace Parser

/-- A stretch of tokens with as many opening as closing braces, as many
opening as closing parentheses, and no preprocessor line. -/
structure Balanced (taken : List Token) : Prop where
  braces : taken.countP (·.isOp "\x7b") = taken.countP (·.isOp "\x7d")
  parens : taken.countP (·.isOp "(") = taken.countP (·.isOp ")")
  noDirective : ∀ token ∈ taken, token.kind ≠ .directive

namespace Balanced

variable {taken taken' : List Token} {opening closing : Token}

theorem nil : Balanced [] := ⟨rfl, rfl, nofun⟩

theorem append (first : Balanced taken) (second : Balanced taken') : Balanced (taken ++ taken') where
  braces := by simp only [List.countP_append, first.braces, second.braces]
  parens := by simp only [List.countP_append, first.parens, second.parens]
  noDirective token mem := by
    rcases List.mem_append.mp mem with inFirst | inSecond
    · exact first.noDirective token inFirst
    · exact second.noDirective token inSecond

theorem single (plain : opening.Plain) : Balanced [opening] := by
  obtain ⟨notDirective, notOpenBrace, notCloseBrace, notOpenParen, notCloseParen⟩ := plain
  refine ⟨?_, ?_, ?_⟩
  · simp [notOpenBrace, notCloseBrace]
  · simp [notOpenParen, notCloseParen]
  · simpa using notDirective

theorem braced (opens : opening.isOp "\x7b" = true) (closes : closing.isOp "\x7d" = true)
    (inner : Balanced taken) : Balanced (opening :: taken ++ [closing]) := by
  have opensOnly : opening.isOp "\x7d" = false ∧ opening.isOp "(" = false ∧ opening.isOp ")" = false :=
    ⟨Token.isOp_eq_false opens (by decide), Token.isOp_eq_false opens (by decide),
      Token.isOp_eq_false opens (by decide)⟩
  have closesOnly : closing.isOp "\x7b" = false ∧ closing.isOp "(" = false ∧ closing.isOp ")" = false :=
    ⟨Token.isOp_eq_false closes (by decide), Token.isOp_eq_false closes (by decide),
      Token.isOp_eq_false closes (by decide)⟩
  refine ⟨?_, ?_, ?_⟩
  · simp [opens, closes, opensOnly, closesOnly, inner.braces]
  · simp [opensOnly, closesOnly, inner.parens]
  · intro token mem
    simp only [List.cons_append, List.mem_cons, List.mem_append, List.not_mem_nil, or_false] at mem
    rcases mem with rfl | inner' | rfl
    · simp [Token.kind_of_isOp opens]
    · exact inner.noDirective token inner'
    · simp [Token.kind_of_isOp closes]

theorem parenthesised (opens : opening.isOp "(" = true) (closes : closing.isOp ")" = true)
    (inner : Balanced taken) : Balanced (opening :: taken ++ [closing]) := by
  have opensOnly : opening.isOp "\x7b" = false ∧ opening.isOp "\x7d" = false ∧ opening.isOp ")" = false :=
    ⟨Token.isOp_eq_false opens (by decide), Token.isOp_eq_false opens (by decide),
      Token.isOp_eq_false opens (by decide)⟩
  have closesOnly : closing.isOp "\x7b" = false ∧ closing.isOp "\x7d" = false ∧ closing.isOp "(" = false :=
    ⟨Token.isOp_eq_false closes (by decide), Token.isOp_eq_false closes (by decide),
      Token.isOp_eq_false closes (by decide)⟩
  refine ⟨?_, ?_, ?_⟩
  · simp [opensOnly, closesOnly, inner.braces]
  · simp [opens, closes, opensOnly, closesOnly, inner.parens]
  · intro token mem
    simp only [List.cons_append, List.mem_cons, List.mem_append, List.not_mem_nil, or_false] at mem
    rcases mem with rfl | inner' | rfl
    · simp [Token.kind_of_isOp opens]
    · exact inner.noDirective token inner'
    · simp [Token.kind_of_isOp closes]

end Balanced

/-- `rest` is what follows a balanced stretch at the front of `tokens`. -/
def Neutral (tokens rest : List Token) : Prop :=
  ∃ taken, tokens = taken ++ rest ∧ Balanced taken

namespace Neutral

variable {tokens rest rest' after : List Token} {token opening closing : Token}

theorem refl : Neutral tokens tokens := ⟨[], rfl, Balanced.nil⟩

theorem trans (first : Neutral tokens rest) (second : Neutral rest rest') : Neutral tokens rest' := by
  obtain ⟨taken, rfl, balanced⟩ := first
  obtain ⟨taken', rfl, balanced'⟩ := second
  exact ⟨taken ++ taken', by simp, balanced.append balanced'⟩

theorem plain (isPlain : token.Plain) (next : Neutral after rest) : Neutral (token :: after) rest := by
  obtain ⟨taken, rfl, balanced⟩ := next
  exact ⟨token :: taken, rfl, (Balanced.single isPlain).append balanced⟩

theorem braced (opens : opening.isOp "\x7b" = true) (closes : closing.isOp "\x7d" = true)
    (inner : Neutral after (closing :: rest)) : Neutral (opening :: after) rest := by
  obtain ⟨taken, rfl, balanced⟩ := inner
  exact ⟨opening :: taken ++ [closing], by simp, balanced.braced opens closes⟩

theorem parenthesised (opens : opening.isOp "(" = true) (closes : closing.isOp ")" = true)
    (inner : Neutral after (closing :: rest)) : Neutral (opening :: after) rest := by
  obtain ⟨taken, rfl, balanced⟩ := inner
  exact ⟨opening :: taken ++ [closing], by simp, balanced.parenthesised opens closes⟩

end Neutral

/-! ## Reading single tokens -/

variable {tokens : List Token}

theorem expectOp_ok {op context : String} {result : Consumed tokens Unit}
    (read : expectOp op context tokens = .ok result) :
    ∃ token, token.isOp op = true ∧ tokens = token :: result.rest := by
  unfold expectOp at read
  split at read
  · next token rest =>
      split at read
      · next isOp =>
          cases read
          exact ⟨token, isOp, rfl⟩
      · cases read
  · cases read

theorem expectKeyword_ok {word : String} {result : Consumed tokens Token}
    (read : expectKeyword word tokens = .ok result) :
    result.value.isKeyword word = true ∧ tokens = result.value :: result.rest := by
  unfold expectKeyword at read
  split at read
  · next token rest =>
      split at read
      · next isWord =>
          cases read
          exact ⟨isWord, rfl⟩
      · cases read
  · cases read

theorem expectIdent_ok {what : String} {result : Consumed tokens Token}
    (read : expectIdent what tokens = .ok result) :
    result.value.kind = .ident ∧ tokens = result.value :: result.rest := by
  unfold expectIdent at read
  split at read
  · next token rest =>
      split at read
      · next isIdent =>
          cases read
          exact ⟨by simpa using isIdent, rfl⟩
      · cases read
  · cases read

theorem expectOp_neutral {op context : String} {result : Consumed tokens Unit}
    (read : expectOp op context tokens = .ok result) (other : op ∉ ["\x7b", "\x7d", "(", ")"]) :
    Neutral tokens result.rest := by
  obtain ⟨token, isOp, split⟩ := expectOp_ok read
  generalize result.rest = rest at split ⊢
  subst split
  exact Neutral.plain (Token.plain_of_isOp isOp other) Neutral.refl

theorem expectKeyword_neutral {word : String} {result : Consumed tokens Token}
    (read : expectKeyword word tokens = .ok result) : Neutral tokens result.rest := by
  obtain ⟨isWord, split⟩ := expectKeyword_ok read
  generalize result.rest = rest at split ⊢
  rw [split]
  exact Neutral.plain (Token.plain_of_isKeyword isWord) Neutral.refl

theorem expectIdent_neutral {what : String} {result : Consumed tokens Token}
    (read : expectIdent what tokens = .ok result) : Neutral tokens result.rest := by
  obtain ⟨isIdent, split⟩ := expectIdent_ok read
  generalize result.rest = rest at split ⊢
  rw [split]
  exact Neutral.plain (Token.plain_of_kind (by simp [isIdent]) (by simp [isIdent])) Neutral.refl

/-- A stretch after an opening parenthesis, closed by `expectOp`. -/
theorem Neutral.closedParen {opening : Token} {after middle : List Token} {context : String}
    {result : Consumed middle Unit} (opens : opening.isOp "(" = true) (inner : Neutral after middle)
    (closed : expectOp ")" context middle = .ok result) : Neutral (opening :: after) result.rest := by
  obtain ⟨close, isClose, split⟩ := expectOp_ok closed
  generalize result.rest = rest at split ⊢
  subst split
  exact Neutral.parenthesised opens isClose inner

/-- A stretch between parentheses that `expectOp` opens and closes. -/
theorem expectOp_parenthesised {middle : List Token} {context context' : String}
    {opened : Consumed tokens Unit} {result : Consumed middle Unit}
    (opening : expectOp "(" context tokens = .ok opened) (inner : Neutral opened.rest middle)
    (closed : expectOp ")" context' middle = .ok result) : Neutral tokens result.rest := by
  obtain ⟨open', opens, split⟩ := expectOp_ok opening
  have enclosed := Neutral.closedParen opens inner closed
  rw [← split] at enclosed
  exact enclosed

/-- A run of string tokens is plain. -/
theorem strings_neutral (tokens : List Token) : Neutral tokens (strings tokens).2.rest := by
  induction tokens with
  | nil => exact Neutral.refl
  | cons token rest ih =>
      unfold strings
      split
      · next isString =>
          exact Neutral.plain (Token.plain_of_kind (by simp_all) (by simp_all)) ih
      · exact Neutral.refl

/-! ## Expressions -/

theorem Token.plain_of_op {token : Token} (kind : token.kind = .op)
    (other : token.text ∉ ["\x7b", "\x7d", "(", ")"]) : token.Plain :=
  Token.plain_of_isOp (by simp [Token.isOp, kind]) other

theorem binaryOperator?_plain {token : Token} {entry : BinOp × Nat}
    (found : binaryOperator? token = some entry) : token.Plain := by
  have kind : token.kind = .op := by
    unfold binaryOperator? at found
    split at found
    · cases found
    · next isOp => simpa using isOp
  refine Token.plain_of_op kind fun bracket => ?_
  simp only [List.mem_cons, List.not_mem_nil, or_false] at bracket
  rcases bracket with text | text | text | text <;> simp [binaryOperator?, kind, text] at found

theorem unaryOperator?_plain {token : Token} {op : UnOp}
    (found : unaryOperator? token = some op) : token.Plain := by
  have kind : token.kind = .op := by
    unfold unaryOperator? at found
    split at found
    · cases found
    · next isOp => simpa using isOp
  refine Token.plain_of_op kind fun bracket => ?_
  simp only [List.mem_cons, List.not_mem_nil, or_false] at bracket
  rcases bracket with text | text | text | text <;> simp [unaryOperator?, kind, text] at found

/-- A token that starts no operand is refused, with or without a message of
its own. -/
theorem primary_refused {token : Token} {after : List Token} {result : Parsed (token :: after) Expr}
    (notOpen : ¬token.isOp "(" = true) (notNumber : token.kind = .number → False)
    (notChar : token.kind = .char → False) (notString : token.kind = .string → False)
    (notIdent : token.kind = .ident → False) : primary (token :: after) ≠ .ok result := by
  intro parsed
  unfold primary at parsed
  cases kind : token.kind
  case number => exact notNumber kind
  case char => exact notChar kind
  case string => exact notString kind
  case ident => exact notIdent kind
  all_goals
    simp only [kind] at parsed
    rw [if_neg notOpen] at parsed
    split at parsed <;> cases parsed

/-- Each function reading an expression leaves what follows a balanced
stretch. -/
theorem expression_neutral :
    (∀ tokens (result : Parsed tokens Expr), expression tokens = .ok result →
      Neutral tokens result.rest) ∧
    (∀ least tokens (result : Parsed tokens Expr), binary least tokens = .ok result →
      Neutral tokens result.rest) ∧
    (∀ least left tokens (result : Parsed tokens Expr), binaryTail least left tokens = .ok result →
      Neutral tokens result.rest) ∧
    (∀ tokens (result : Parsed tokens Expr), unary tokens = .ok result →
      Neutral tokens result.rest) ∧
    (∀ tokens (result : Parsed tokens Expr), primary tokens = .ok result →
      Neutral tokens result.rest) := by
  apply expression.mutual_induct
    (fun tokens => ∀ result, expression tokens = .ok result → Neutral tokens result.rest)
    (fun least tokens => ∀ result, binary least tokens = .ok result → Neutral tokens result.rest)
    (fun least left tokens => ∀ result, binaryTail least left tokens = .ok result →
      Neutral tokens result.rest)
    (fun tokens => ∀ result, unary tokens = .ok result → Neutral tokens result.rest)
    (fun tokens => ∀ result, primary tokens = .ok result → Neutral tokens result.rest)
  · intro tokens binaryNeutral result parsed
    unfold expression at parsed
    obtain ⟨⟨expr, rest, restLe⟩, bound, checked⟩ := bind_eq_ok parsed
    -- the look at the token after the expression only refuses
    have same : result.rest = rest := by
      simp only at checked
      repeat' split at checked
      all_goals cases checked
      all_goals rfl
    rw [same]
    exact binaryNeutral _ bound
  · intro least tokens unaryNeutral tailNeutral result parsed
    unfold binary at parsed
    obtain ⟨⟨left, rest, restLe⟩, operand, afterOperand⟩ := bind_eq_ok parsed
    obtain ⟨⟨expr, after, afterLe⟩, tail, done⟩ := bind_eq_ok afterOperand
    cases done
    exact (unaryNeutral _ operand).trans (tailNeutral left rest restLe _ tail)
  · intro least left token after op precedence found lower result parsed
    unfold binaryTail at parsed
    simp only [found, if_pos lower] at parsed
    cases parsed
    exact Neutral.refl
  · intro least left token after op precedence found notLower rightNeutral tailNeutral result parsed
    unfold binaryTail at parsed
    simp only [found, if_neg notLower] at parsed
    obtain ⟨⟨right, rest, restLe⟩, operand, afterOperand⟩ := bind_eq_ok parsed
    obtain ⟨⟨expr, final, finalLe⟩, tail, done⟩ := bind_eq_ok afterOperand
    cases done
    exact Neutral.plain (binaryOperator?_plain found)
      ((rightNeutral _ operand).trans (tailNeutral right rest restLe _ tail))
  · intro least left token after notOperator result parsed
    unfold binaryTail at parsed
    simp only [notOperator] at parsed
    cases parsed
    exact Neutral.refl
  · intro least left result parsed
    unfold binaryTail at parsed
    cases parsed
    exact Neutral.refl
  · intro token after op found operandNeutral result parsed
    unfold unary at parsed
    simp only [found] at parsed
    obtain ⟨⟨operand, rest, restLe⟩, read, done⟩ := bind_eq_ok parsed
    cases done
    exact Neutral.plain (unaryOperator?_plain found) (operandNeutral _ read)
  · intro token after notOperator primaryNeutral result parsed
    unfold unary at parsed
    simp only [notOperator] at parsed
    exact primaryNeutral _ parsed
  · intro primaryNeutral result parsed
    unfold unary at parsed
    exact primaryNeutral _ parsed
  · intro token after number result parsed
    unfold primary at parsed
    simp only [number] at parsed
    obtain ⟨value, _, done⟩ := bind_eq_ok parsed
    cases done
    exact Neutral.plain (Token.plain_of_kind (by simp [number]) (by simp [number])) Neutral.refl
  · intro token after char result parsed
    unfold primary at parsed
    simp only [char] at parsed
    obtain ⟨value, _, done⟩ := bind_eq_ok parsed
    cases done
    exact Neutral.plain (Token.plain_of_kind (by simp [char]) (by simp [char])) Neutral.refl
  · intro token after string text rest joined result parsed
    unfold primary at parsed
    simp only [string, joined] at parsed
    cases parsed
    have run := strings_neutral (token :: after)
    rw [joined] at run
    exact run
  · intro token ident next after isCall result parsed
    unfold primary at parsed
    simp only [ident] at parsed
    rw [if_pos isCall] at parsed
    cases parsed
  · intro token ident next after notCall isIndex indexNeutral result parsed
    unfold primary at parsed
    simp only [ident] at parsed
    rw [if_neg notCall, if_pos isIndex] at parsed
    obtain ⟨⟨index, rest, restLe⟩, read, afterIndex⟩ := bind_eq_ok parsed
    obtain ⟨⟨⟨⟩, final, finalLt⟩, closed, done⟩ := bind_eq_ok afterIndex
    cases done
    exact Neutral.plain (Token.plain_of_kind (by simp [ident]) (by simp [ident]))
      (Neutral.plain (Token.plain_of_isOp isIndex (by decide))
        ((indexNeutral _ read).trans (expectOp_neutral closed (by decide))))
  · intro token ident next after notCall notIndex result parsed
    unfold primary at parsed
    simp only [ident] at parsed
    rw [if_neg notCall, if_neg notIndex] at parsed
    cases parsed
    exact Neutral.plain (Token.plain_of_kind (by simp [ident]) (by simp [ident])) Neutral.refl
  · intro token ident result parsed
    unfold primary at parsed
    simp only [ident] at parsed
    cases parsed
    exact Neutral.plain (Token.plain_of_kind (by simp [ident]) (by simp [ident])) Neutral.refl
  · intro token after isOpen notNumber notChar notString notIdent innerNeutral result parsed
    unfold primary at parsed
    -- the token is none of the kinds with an arm of their own
    cases kind : token.kind
    case number => exact absurd kind notNumber
    case char => exact absurd kind notChar
    case string => exact absurd kind notString
    case ident => exact absurd kind notIdent
    all_goals
      simp only [kind] at parsed
      rw [if_pos isOpen] at parsed
      obtain ⟨⟨inner, rest, restLe⟩, read, afterInner⟩ := bind_eq_ok parsed
      obtain ⟨⟨⟨⟩, final, finalLt⟩, closed, done⟩ := bind_eq_ok afterInner
      cases done
      exact Neutral.closedParen isOpen (innerNeutral _ read) closed
  · intro token after notOpen _ _ notNumber notChar notString notIdent result parsed
    exact absurd parsed (primary_refused notOpen notNumber notChar notString notIdent)
  · intro token after notOpen _ notNumber notChar notString notIdent result parsed
    exact absurd parsed (primary_refused notOpen notNumber notChar notString notIdent)
  · intro result parsed
    unfold primary at parsed
    cases parsed

theorem expression_ok {result : Parsed tokens Expr} (parsed : expression tokens = .ok result) :
    Neutral tokens result.rest :=
  expression_neutral.1 tokens result parsed

/-! ## Statements without nested bodies -/

theorem Token.plain_of_ident {token : Token} (kind : token.kind = .ident) : token.Plain :=
  Token.plain_of_kind (by simp [kind]) (by simp [kind])

theorem Token.plain_of_step {token : Token} (step : (token.isOp "++" || token.isOp "--") = true) :
    token.Plain := by
  rcases Bool.or_eq_true_iff.mp step with increment | decrement
  · exact Token.plain_of_isOp increment (by decide)
  · exact Token.plain_of_isOp decrement (by decide)

theorem assignOperator?_plain {token : Token} {op : AssignOp}
    (found : assignOperator? token = some op) : token.Plain := by
  have kind : token.kind = .op := by
    unfold assignOperator? at found
    split at found
    · cases found
    · next isOp => simpa using isOp
  refine Token.plain_of_op kind fun bracket => ?_
  simp only [List.mem_cons, List.not_mem_nil, or_false] at bracket
  rcases bracket with text | text | text | text <;> simp [assignOperator?, kind, text] at found

theorem target_neutral {result : Consumed tokens Target} (parsed : target tokens = .ok result) :
    Neutral tokens result.rest := by
  unfold target at parsed
  split at parsed
  · next token after =>
      split at parsed
      · split at parsed <;> cases parsed
      · next isIdent =>
          have name : token.Plain := Token.plain_of_ident (by simpa using isIdent)
          split at parsed
          · next next afterNext =>
              split at parsed
              · next isIndex =>
                  obtain ⟨⟨index, rest, restLe⟩, read, afterIndex⟩ := bind_eq_ok parsed
                  obtain ⟨⟨⟨⟩, final, finalLt⟩, closed, done⟩ := bind_eq_ok afterIndex
                  cases done
                  exact Neutral.plain name (Neutral.plain (Token.plain_of_isOp isIndex (by decide))
                    ((expression_ok read).trans (expectOp_neutral closed (by decide))))
              · cases parsed
                exact Neutral.plain name Neutral.refl
          · cases parsed
            exact Neutral.plain name Neutral.refl
  · cases parsed

theorem simpleStatement_neutral {result : Consumed tokens Stmt}
    (parsed : simpleStatement tokens = .ok result) : Neutral tokens result.rest := by
  unfold simpleStatement at parsed
  split at parsed
  · next token after =>
      split at parsed
      · next isStep =>
          obtain ⟨⟨written, rest, restLt⟩, targeted, done⟩ := bind_eq_ok parsed
          cases done
          exact Neutral.plain (Token.plain_of_step isStep) (target_neutral targeted)
      · obtain ⟨⟨written, rest, restLt⟩, targeted, afterTarget⟩ := bind_eq_ok parsed
        have writtenNeutral := target_neutral targeted
        cases rest with
        | nil => cases afterTarget
        | cons opToken afterOp =>
            simp only at afterTarget
            by_cases isStep : (opToken.isOp "++" || opToken.isOp "--") = true
            · rw [if_pos isStep] at afterTarget
              cases afterTarget
              exact writtenNeutral.trans (Neutral.plain (Token.plain_of_step isStep) Neutral.refl)
            · rw [if_neg isStep] at afterTarget
              cases assigned : assignOperator? opToken with
              | none =>
                  simp only [assigned] at afterTarget
                  cases afterTarget
              | some op =>
                  simp only [assigned] at afterTarget
                  obtain ⟨⟨value, final, finalLe⟩, read, done⟩ := bind_eq_ok afterTarget
                  cases done
                  exact writtenNeutral.trans
                    (Neutral.plain (assignOperator?_plain assigned) (expression_ok read))
  · obtain ⟨⟨_, _, impossible⟩, _, _⟩ := bind_eq_ok parsed
    exact absurd impossible (Nat.not_lt_zero _)

/-! ## Declarations -/

theorem literalElement_neutral {name : String} {negative : Bool} {result : Consumed tokens Int}
    (parsed : literalElement name negative tokens = .ok result) : Neutral tokens result.rest := by
  unfold literalElement at parsed
  split at parsed
  · next token after =>
      split at parsed
      · next isLiteral =>
          obtain ⟨value, _, done⟩ := bind_eq_ok parsed
          cases done
          have kind : token.kind = .number ∨ token.kind = .char := by simpa using isLiteral
          have literal : token.Plain := by
            rcases kind with kind | kind <;> exact Token.plain_of_kind (by simp [kind]) (by simp [kind])
          exact Neutral.plain literal Neutral.refl
      · cases parsed
  · cases parsed

theorem arrayElement_neutral {name : String} {result : Consumed tokens Int}
    (parsed : arrayElement name tokens = .ok result) : Neutral tokens result.rest := by
  unfold arrayElement at parsed
  split at parsed
  · next token after =>
      split at parsed
      · next isMinus =>
          obtain ⟨⟨value, rest, restLt⟩, read, done⟩ := bind_eq_ok parsed
          cases done
          exact Neutral.plain (Token.plain_of_isOp isMinus (by decide)) (literalElement_neutral read)
      · exact literalElement_neutral parsed
  · exact literalElement_neutral parsed

theorem arrayElements_neutral (name : String) :
    ∀ acc tokens (result : Parsed tokens (Array Int)), arrayElements name acc tokens = .ok result →
      Neutral tokens result.rest := by
  apply arrayElements.induct
    (fun acc tokens => ∀ result, arrayElements name acc tokens = .ok result → Neutral tokens result.rest)
  · intro acc comma after isComma closes result parsed
    unfold arrayElements at parsed
    simp only at parsed
    rw [if_pos isComma, if_pos closes] at parsed
    cases parsed
    exact Neutral.plain (Token.plain_of_isOp isComma (by decide)) Neutral.refl
  · intro acc comma after isComma notCloses moreNeutral result parsed
    unfold arrayElements at parsed
    simp only at parsed
    rw [if_pos isComma, if_neg notCloses] at parsed
    obtain ⟨⟨value, rest, restLt⟩, read, afterValue⟩ := bind_eq_ok parsed
    obtain ⟨⟨values, final, finalLe⟩, more, done⟩ := bind_eq_ok afterValue
    cases done
    exact Neutral.plain (Token.plain_of_isOp isComma (by decide))
      ((arrayElement_neutral read).trans (moreNeutral value rest restLt _ more))
  · intro acc token after notComma result parsed
    unfold arrayElements at parsed
    simp only at parsed
    rw [if_neg notComma] at parsed
    cases parsed
    exact Neutral.refl
  · intro acc result parsed
    unfold arrayElements at parsed
    cases parsed
    exact Neutral.refl

/-- A stretch after an opening brace, closed by `expectOp`. -/
theorem Neutral.closedBrace {opening : Token} {after middle : List Token} {context : String}
    {result : Consumed middle Unit} (opens : opening.isOp "\x7b" = true) (inner : Neutral after middle)
    (closed : expectOp "\x7d" context middle = .ok result) : Neutral (opening :: after) result.rest := by
  obtain ⟨close, isClose, split⟩ := expectOp_ok closed
  generalize result.rest = rest at split ⊢
  subst split
  exact Neutral.braced opens isClose inner

/-- A stretch between braces that `expectOp` opens and closes. -/
theorem expectOp_braced {middle : List Token} {context context' : String}
    {opened : Consumed tokens Unit} {result : Consumed middle Unit}
    (opening : expectOp "\x7b" context tokens = .ok opened) (inner : Neutral opened.rest middle)
    (closed : expectOp "\x7d" context' middle = .ok result) : Neutral tokens result.rest := by
  obtain ⟨open', opens, split⟩ := expectOp_ok opening
  have enclosed := Neutral.closedBrace opens inner closed
  rw [← split] at enclosed
  exact enclosed

theorem initializerList_neutral {name : String} {result : Consumed tokens (List Int)}
    (parsed : initializerList name tokens = .ok result) : Neutral tokens result.rest := by
  unfold initializerList at parsed
  obtain ⟨⟨⟨⟩, afterOpen, openLt⟩, opened, afterOpening⟩ := bind_eq_ok parsed
  simp only at afterOpening
  split at afterOpening
  · obtain ⟨here, madeHere, afterHere⟩ := bind_eq_ok afterOpening
    cases madeHere
    obtain ⟨closing, closed, done⟩ := bind_eq_ok afterHere
    cases done
    exact expectOp_braced opened Neutral.refl closed
  · obtain ⟨first, firstRead, afterFirst⟩ := bind_eq_ok afterOpening
    obtain ⟨more, moreRead, afterMore⟩ := bind_eq_ok afterFirst
    obtain ⟨packed, packedMade, afterPacked⟩ := bind_eq_ok afterMore
    cases packedMade
    obtain ⟨closing, closed, done⟩ := bind_eq_ok afterPacked
    cases done
    exact expectOp_braced opened
      ((arrayElement_neutral firstRead).trans (arrayElements_neutral name _ _ _ moreRead)) closed

/-- A syntax tree node built last leaves the tokens where its parts end. -/
theorem rest_of_built {β γ : Type} {node : Except ParseError β} {shape : β → γ}
    {final : List Token} {lt : final.length < tokens.length} {result : Consumed tokens γ}
    (built : (node >>= fun value => pure ⟨shape value, final, lt⟩) = .ok result) :
    result.rest = final := by
  obtain ⟨_, _, done⟩ := bind_eq_ok built
  cases done
  rfl

theorem arrayDeclarator_neutral {name : String} {line : Nat} {result : Consumed tokens Stmt}
    (parsed : arrayDeclarator name line tokens = .ok result) : Neutral tokens result.rest := by
  unfold arrayDeclarator at parsed
  obtain ⟨⟨size, afterSize, sizeLe⟩, sized, afterSizing⟩ := bind_eq_ok parsed
  obtain ⟨⟨⟨⟩, afterClose, closeLt⟩, closed, afterClosing⟩ := bind_eq_ok afterSizing
  obtain ⟨⟨values, final, finalLe⟩, valued, checked⟩ := bind_eq_ok afterClosing
  -- the size is absent or one number token
  have sizeNeutral : Neutral tokens afterSize := by
    split at sized
    · next token after =>
        split at sized
        · cases sized
          exact Neutral.refl
        · split at sized
          · cases sized
          · next isNumber =>
              obtain ⟨size', _, afterValue⟩ := bind_eq_ok sized
              split at afterValue
              · cases afterValue
              · cases afterValue
                have kind : token.kind = .number := by simpa using isNumber
                exact Neutral.plain (Token.plain_of_kind (by simp [kind]) (by simp [kind])) Neutral.refl
    · cases sized
      exact Neutral.refl
  -- the values are absent or an initializer list after `=`
  have valuesNeutral : Neutral afterClose final := by
    split at valued
    · next token after =>
        split at valued
        · next isAssign =>
            obtain ⟨⟨values', rest, restLt⟩, read, done⟩ := bind_eq_ok valued
            cases done
            exact Neutral.plain (Token.plain_of_isOp isAssign (by decide)) (initializerList_neutral read)
        · cases valued
          exact Neutral.refl
    · cases valued
      exact Neutral.refl
  -- the checks of the size against the values only refuse, and the node comes last
  have same : result.rest = final := by
    simp only at checked
    split at checked
    · split at checked
      · obtain ⟨_, thrown, _⟩ := bind_eq_ok checked
        cases thrown
      · exact rest_of_built checked
    · split at checked
      · obtain ⟨_, thrown, _⟩ := bind_eq_ok checked
        cases thrown
      · exact rest_of_built checked
  rw [same]
  exact sizeNeutral.trans ((expectOp_neutral closed (by decide)).trans valuesNeutral)

theorem declarator_neutral {result : Consumed tokens Stmt} (parsed : declarator tokens = .ok result) :
    Neutral tokens result.rest := by
  unfold declarator at parsed
  simp only at parsed
  -- a pointer is refused before the name is read
  split at parsed
  · obtain ⟨_, thrown, _⟩ := bind_eq_ok parsed
    cases thrown
  · obtain ⟨named, nameRead, afterName⟩ := bind_eq_ok parsed
    have nameNeutral := expectIdent_neutral nameRead
    split at afterName
    · next token after _ restIs _ =>
        rw [restIs] at nameNeutral
        split at afterName
        · next isIndex =>
            obtain ⟨array, arrayRead, done⟩ := bind_eq_ok afterName
            cases done
            exact nameNeutral.trans (Neutral.plain (Token.plain_of_isOp isIndex (by decide))
              (arrayDeclarator_neutral arrayRead))
        · split at afterName
          · next isAssign =>
              obtain ⟨value, valueRead, done⟩ := bind_eq_ok afterName
              cases done
              exact nameNeutral.trans (Neutral.plain (Token.plain_of_isOp isAssign (by decide))
                (expression_ok valueRead))
          · cases afterName
            exact nameNeutral
    · next _ restIs _ =>
        rw [restIs] at nameNeutral
        cases afterName
        exact nameNeutral

theorem moreDeclarators_neutral :
    ∀ acc tokens (result : Parsed tokens (Array Stmt)), moreDeclarators acc tokens = .ok result →
      Neutral tokens result.rest := by
  apply moreDeclarators.induct
    (fun acc tokens => ∀ result, moreDeclarators acc tokens = .ok result → Neutral tokens result.rest)
  · intro acc comma after isComma moreNeutral result parsed
    unfold moreDeclarators at parsed
    simp only at parsed
    rw [if_pos isComma] at parsed
    obtain ⟨⟨stmt, rest, restLt⟩, read, afterStmt⟩ := bind_eq_ok parsed
    obtain ⟨⟨stmts, final, finalLe⟩, more, done⟩ := bind_eq_ok afterStmt
    cases done
    exact Neutral.plain (Token.plain_of_isOp isComma (by decide))
      ((declarator_neutral read).trans (moreNeutral stmt rest restLt _ more))
  · intro acc token after notComma result parsed
    unfold moreDeclarators at parsed
    simp only at parsed
    rw [if_neg notComma] at parsed
    cases parsed
    exact Neutral.refl
  · intro acc result parsed
    unfold moreDeclarators at parsed
    cases parsed
    exact Neutral.refl

/-- A declaration is a balanced stretch ending with its semicolon. -/
theorem declaration_ends {result : Consumed tokens (List Stmt)}
    (parsed : declaration tokens = .ok result) :
    ∃ semicolon, semicolon.isOp ";" = true ∧ Neutral tokens (semicolon :: result.rest) := by
  unfold declaration at parsed
  obtain ⟨⟨_, afterInt, intLt⟩, intRead, afterIntRead⟩ := bind_eq_ok parsed
  obtain ⟨⟨first, rest, restLt⟩, firstRead, afterFirst⟩ := bind_eq_ok afterIntRead
  obtain ⟨⟨stmts, beforeSemi, semiLe⟩, moreRead, afterMore⟩ := bind_eq_ok afterFirst
  obtain ⟨⟨⟨⟩, final, finalLt⟩, semiRead, done⟩ := bind_eq_ok afterMore
  cases done
  obtain ⟨semicolon, isSemicolon, split⟩ := expectOp_ok semiRead
  refine ⟨semicolon, isSemicolon, ?_⟩
  have declarators : Neutral tokens beforeSemi := (expectKeyword_neutral intRead).trans
    ((declarator_neutral firstRead).trans (moreDeclarators_neutral _ _ _ moreRead))
  rw [split] at declarators
  exact declarators

theorem declaration_neutral {result : Consumed tokens (List Stmt)}
    (parsed : declaration tokens = .ok result) : Neutral tokens result.rest := by
  obtain ⟨semicolon, isSemicolon, ends⟩ := declaration_ends parsed
  exact ends.trans (Neutral.plain (Token.plain_of_isOp isSemicolon (by decide)) Neutral.refl)

/-! ## Calls, conditions, jumps and `for` headers -/

theorem arguments_neutral :
    ∀ acc tokens (result : Parsed tokens (Array Expr)), arguments acc tokens = .ok result →
      Neutral tokens result.rest := by
  apply arguments.induct
    (fun acc tokens => ∀ result, arguments acc tokens = .ok result → Neutral tokens result.rest)
  · intro acc comma after isComma moreNeutral result parsed
    unfold arguments at parsed
    simp only at parsed
    rw [if_pos isComma] at parsed
    obtain ⟨⟨arg, rest, restLe⟩, read, afterArg⟩ := bind_eq_ok parsed
    obtain ⟨⟨args, final, finalLe⟩, more, done⟩ := bind_eq_ok afterArg
    cases done
    exact Neutral.plain (Token.plain_of_isOp isComma (by decide))
      ((expression_ok read).trans (moreNeutral arg rest restLe _ more))
  · intro acc token after notComma result parsed
    unfold arguments at parsed
    simp only at parsed
    rw [if_neg notComma] at parsed
    cases parsed
    exact Neutral.refl
  · intro acc result parsed
    unfold arguments at parsed
    cases parsed
    exact Neutral.refl

theorem call_neutral {nameToken : Token} {after : List Token}
    {result : Consumed (nameToken :: after) Stmt} (name : nameToken.kind = .ident)
    (parsed : call (nameToken :: after) = .ok result) : Neutral (nameToken :: after) result.rest := by
  unfold call at parsed
  simp only at parsed
  split at parsed
  · obtain ⟨_, thrown, _⟩ := bind_eq_ok parsed
    cases thrown
  · obtain ⟨opened, openRead, afterOpen⟩ := bind_eq_ok parsed
    split at afterOpen
    · obtain ⟨_, thrown, _⟩ := bind_eq_ok afterOpen
      cases thrown
    · obtain ⟨args, argsRead, afterArgs⟩ := bind_eq_ok afterOpen
      obtain ⟨closing, closeRead, afterClose⟩ := bind_eq_ok afterArgs
      obtain ⟨semicolon, semiRead, done⟩ := bind_eq_ok afterClose
      cases done
      -- the format strings and the arguments stand between the parentheses
      have inner := (strings_neutral opened.rest).trans (arguments_neutral _ _ _ argsRead)
      exact Neutral.plain (Token.plain_of_ident name)
        ((expectOp_parenthesised openRead inner closeRead).trans (expectOp_neutral semiRead (by decide)))

theorem condition_neutral {keyword : String} {result : Consumed tokens Expr}
    (parsed : condition keyword tokens = .ok result) : Neutral tokens result.rest := by
  unfold condition at parsed
  obtain ⟨opened, openRead, afterOpen⟩ := bind_eq_ok parsed
  obtain ⟨inner, innerRead, afterInner⟩ := bind_eq_ok afterOpen
  obtain ⟨closing, closeRead, done⟩ := bind_eq_ok afterInner
  cases done
  exact expectOp_parenthesised openRead (expression_ok innerRead) closeRead

theorem returnStatement_neutral {result : Consumed tokens Stmt}
    (parsed : returnStatement tokens = .ok result) : Neutral tokens result.rest := by
  unfold returnStatement at parsed
  obtain ⟨keyword, keywordRead, afterKeyword⟩ := bind_eq_ok parsed
  simp only at afterKeyword
  have keywordNeutral := expectKeyword_neutral keywordRead
  split at afterKeyword
  · obtain ⟨here, madeHere, afterHere⟩ := bind_eq_ok afterKeyword
    cases madeHere
    obtain ⟨semicolon, semiRead, done⟩ := bind_eq_ok afterHere
    cases done
    exact keywordNeutral.trans (expectOp_neutral semiRead (by decide))
  · obtain ⟨value, valueRead, afterValue⟩ := bind_eq_ok afterKeyword
    -- a string value is refused; any other is followed by the semicolon
    split at afterValue
    · obtain ⟨_, thrown, _⟩ := bind_eq_ok afterValue
      cases thrown
    · obtain ⟨packed, packedMade, afterPacked⟩ := bind_eq_ok afterValue
      cases packedMade
      obtain ⟨semicolon, semiRead, done⟩ := bind_eq_ok afterPacked
      cases done
      exact keywordNeutral.trans ((expression_ok valueRead).trans (expectOp_neutral semiRead (by decide)))

theorem jump_neutral {word : String} {inLoop : Bool} {result : Consumed tokens Stmt}
    (parsed : jump word inLoop tokens = .ok result) : Neutral tokens result.rest := by
  unfold jump at parsed
  obtain ⟨keyword, keywordRead, afterKeyword⟩ := bind_eq_ok parsed
  simp only at afterKeyword
  split at afterKeyword
  · obtain ⟨_, thrown, _⟩ := bind_eq_ok afterKeyword
    cases thrown
  · obtain ⟨semicolon, semiRead, done⟩ := bind_eq_ok afterKeyword
    cases done
    exact (expectKeyword_neutral keywordRead).trans (expectOp_neutral semiRead (by decide))

theorem forInit_neutral {result : Parsed tokens (Option Stmt)}
    (parsed : forInit tokens = .ok result) : Neutral tokens result.rest := by
  unfold forInit at parsed
  split at parsed
  · next token after =>
      split at parsed
      · next isInt =>
          obtain ⟨declared, declaredRead, afterDeclared⟩ := bind_eq_ok parsed
          simp only at afterDeclared
          split at afterDeclared
          · obtain ⟨_, thrown, _⟩ := bind_eq_ok afterDeclared
            cases thrown
          · cases afterDeclared
            exact Neutral.plain (Token.plain_of_isKeyword isInt) (declarator_neutral declaredRead)
      · split at parsed
        · cases parsed
          exact Neutral.refl
        · obtain ⟨stmt, stmtRead, done⟩ := bind_eq_ok parsed
          cases done
          exact simpleStatement_neutral stmtRead
  · obtain ⟨⟨_, _, impossible⟩, _, _⟩ := bind_eq_ok parsed
    exact absurd impossible (Nat.not_lt_zero _)


/-- A `for` header is a balanced stretch followed by its closing parenthesis. -/
theorem forHeader_closes {result : Consumed tokens (Option Stmt × Option Expr × Option Stmt)}
    (parsed : forHeader tokens = .ok result) :
    ∃ close, close.isOp ")" = true ∧ Neutral tokens (close :: result.rest) := by
  unfold forHeader at parsed
  obtain ⟨init, initRead, afterInit⟩ := bind_eq_ok parsed
  obtain ⟨semi, semiRead, afterSemi⟩ := bind_eq_ok afterInit
  simp only at afterSemi
  have initNeutral : Neutral tokens semi.rest :=
    (forInit_neutral initRead).trans (expectOp_neutral semiRead (by decide))
  have closes : ∀ {middle : List Token} {closing : Consumed middle Unit}, Neutral tokens middle →
      expectOp ")" "to close the for-loop header" middle = .ok closing →
      ∃ close, close.isOp ")" = true ∧ Neutral tokens (close :: closing.rest) := by
    intro middle closing inner closed
    obtain ⟨close, isClose, split⟩ := expectOp_ok closed
    refine ⟨close, isClose, ?_⟩
    rw [← split]
    exact inner
  -- the condition and the step may each be absent; the four ways to read them
  split at afterSemi
  · obtain ⟨condition, conditionMade, afterCondition⟩ := bind_eq_ok afterSemi
    cases conditionMade
    obtain ⟨semi', semiRead', afterSemi'⟩ := bind_eq_ok afterCondition
    have conditionNeutral := initNeutral.trans (expectOp_neutral semiRead' (by decide))
    split at afterSemi'
    · obtain ⟨step, stepMade, afterStep⟩ := bind_eq_ok afterSemi'
      cases stepMade
      obtain ⟨closing, closeRead, done⟩ := bind_eq_ok afterStep
      cases done
      exact closes conditionNeutral closeRead
    · obtain ⟨step, stepRead, afterStep⟩ := bind_eq_ok afterSemi'
      obtain ⟨packed, packedMade, afterPacked⟩ := bind_eq_ok afterStep
      cases packedMade
      obtain ⟨closing, closeRead, done⟩ := bind_eq_ok afterPacked
      cases done
      exact closes (conditionNeutral.trans (simpleStatement_neutral stepRead)) closeRead
  · obtain ⟨condition, conditionRead, afterCondition⟩ := bind_eq_ok afterSemi
    obtain ⟨packed, packedMade, afterPacked⟩ := bind_eq_ok afterCondition
    cases packedMade
    obtain ⟨semi', semiRead', afterSemi'⟩ := bind_eq_ok afterPacked
    have conditionNeutral := initNeutral.trans
      ((expression_ok conditionRead).trans (expectOp_neutral semiRead' (by decide)))
    split at afterSemi'
    · obtain ⟨step, stepMade, afterStep⟩ := bind_eq_ok afterSemi'
      cases stepMade
      obtain ⟨closing, closeRead, done⟩ := bind_eq_ok afterStep
      cases done
      exact closes conditionNeutral closeRead
    · obtain ⟨step, stepRead, afterStep⟩ := bind_eq_ok afterSemi'
      obtain ⟨packed', packedMade', afterPacked'⟩ := bind_eq_ok afterStep
      cases packedMade'
      obtain ⟨closing, closeRead, done⟩ := bind_eq_ok afterPacked'
      cases done
      exact closes (conditionNeutral.trans (simpleStatement_neutral stepRead)) closeRead

/-! ## Statements and bodies -/

/-- A keyword that starts none of the statements is refused. -/
theorem statement_keyword_refused {inLoop : Bool} {next : Token} {after : List Token}
    {result : Consumed (next :: after) (List Stmt)} (isKeyword : (next.kind == .keyword) = true)
    (notInt : next.text = "int" → False) (notIf : next.text = "if" → False)
    (notFor : next.text = "for" → False) (notWhile : next.text = "while" → False)
    (notDo : next.text = "do" → False) (notBreak : next.text = "break" → False)
    (notContinue : next.text = "continue" → False) (notReturn : next.text = "return" → False) :
    statement inLoop (next :: after) ≠ .ok result := by
  intro parsed
  unfold statement at parsed
  simp only at parsed
  rw [if_pos isKeyword] at parsed
  split at parsed <;> simp_all

/-- Each function reading statements leaves what follows a balanced stretch;
the items of a block are followed by the brace that closes it. -/
theorem statement_neutral :
    (∀ inLoop tokens (result : Parsed tokens (List Stmt)), blockItems inLoop tokens = .ok result →
      ∃ close, close.isOp "\x7d" = true ∧ Neutral tokens (close :: result.rest)) ∧
    (∀ inLoop tokens (result : Consumed tokens (List Stmt)), statement inLoop tokens = .ok result →
      Neutral tokens result.rest) ∧
    (∀ tokens (result : Consumed tokens (List Stmt)), doStatement tokens = .ok result →
      Neutral tokens result.rest) ∧
    (∀ inLoop tokens (result : Consumed tokens (List Stmt)), body inLoop tokens = .ok result →
      Neutral tokens result.rest) ∧
    (∀ tokens (result : Consumed tokens (List Stmt)), whileStatement tokens = .ok result →
      Neutral tokens result.rest) ∧
    (∀ tokens (result : Consumed tokens (List Stmt)), forStatement tokens = .ok result →
      Neutral tokens result.rest) ∧
    (∀ inLoop tokens (result : Consumed tokens (List Stmt)), ifStatement inLoop tokens = .ok result →
      Neutral tokens result.rest) ∧
    (∀ inLoop branches tokens (result : Parsed tokens (List Branch × List Stmt)),
      elseChain inLoop branches tokens = .ok result → Neutral tokens result.rest) := by
  apply blockItems.mutual_induct
    (fun inLoop tokens => ∀ result, blockItems inLoop tokens = .ok result →
      ∃ close, close.isOp "\x7d" = true ∧ Neutral tokens (close :: result.rest))
    (fun inLoop tokens => ∀ result, statement inLoop tokens = .ok result → Neutral tokens result.rest)
    (fun tokens => ∀ result, doStatement tokens = .ok result → Neutral tokens result.rest)
    (fun inLoop tokens => ∀ result, body inLoop tokens = .ok result → Neutral tokens result.rest)
    (fun tokens => ∀ result, whileStatement tokens = .ok result → Neutral tokens result.rest)
    (fun tokens => ∀ result, forStatement tokens = .ok result → Neutral tokens result.rest)
    (fun inLoop tokens => ∀ result, ifStatement inLoop tokens = .ok result → Neutral tokens result.rest)
    (fun inLoop branches tokens => ∀ result, elseChain inLoop branches tokens = .ok result →
      Neutral tokens result.rest)
  · intro inLoop next after isClose result parsed
    unfold blockItems at parsed
    simp only at parsed
    rw [if_pos isClose] at parsed
    cases parsed
    exact ⟨next, isClose, Neutral.refl⟩
  · intro inLoop next after notClose isEnd result parsed
    unfold blockItems at parsed
    simp only at parsed
    rw [if_neg notClose, if_pos isEnd] at parsed
    cases parsed
  · intro inLoop next after notClose notEnd stmtNeutral moreNeutral result parsed
    unfold blockItems at parsed
    simp only at parsed
    rw [if_neg notClose, if_neg notEnd] at parsed
    obtain ⟨⟨stmts, rest, restLt⟩, stmtRead, afterStmt⟩ := bind_eq_ok parsed
    obtain ⟨⟨more, final, finalLe⟩, moreRead, done⟩ := bind_eq_ok afterStmt
    cases done
    obtain ⟨close, isClose, closing⟩ := moreNeutral rest restLt _ moreRead
    exact ⟨close, isClose, (stmtNeutral _ stmtRead).trans closing⟩
  · intro inLoop result parsed
    unfold blockItems at parsed
    cases parsed
  · intro inLoop next after isKeyword isInt result parsed
    unfold statement at parsed
    simp only at parsed
    rw [if_pos isKeyword] at parsed
    simp only [isInt] at parsed
    exact declaration_neutral parsed
  · intro inLoop next after isKeyword isIf ifNeutral result parsed
    unfold statement at parsed
    simp only at parsed
    rw [if_pos isKeyword] at parsed
    simp only [isIf] at parsed
    exact ifNeutral _ parsed
  · intro inLoop next after isKeyword isFor forNeutral result parsed
    unfold statement at parsed
    simp only at parsed
    rw [if_pos isKeyword] at parsed
    simp only [isFor] at parsed
    exact forNeutral _ parsed
  · intro inLoop next after isKeyword isWhile whileNeutral result parsed
    unfold statement at parsed
    simp only at parsed
    rw [if_pos isKeyword] at parsed
    simp only [isWhile] at parsed
    exact whileNeutral _ parsed
  · intro inLoop next after isKeyword isDo doNeutral result parsed
    unfold statement at parsed
    simp only at parsed
    rw [if_pos isKeyword] at parsed
    simp only [isDo] at parsed
    exact doNeutral _ parsed
  · intro inLoop next after isKeyword isBreak result parsed
    unfold statement at parsed
    simp only at parsed
    rw [if_pos isKeyword] at parsed
    simp only [isBreak] at parsed
    obtain ⟨jumped, jumpRead, done⟩ := bind_eq_ok parsed
    cases done
    exact jump_neutral jumpRead
  · intro inLoop next after isKeyword isContinue result parsed
    unfold statement at parsed
    simp only at parsed
    rw [if_pos isKeyword] at parsed
    simp only [isContinue] at parsed
    obtain ⟨jumped, jumpRead, done⟩ := bind_eq_ok parsed
    cases done
    exact jump_neutral jumpRead
  · intro inLoop next after isKeyword isReturn result parsed
    unfold statement at parsed
    simp only at parsed
    rw [if_pos isKeyword] at parsed
    simp only [isReturn] at parsed
    obtain ⟨returned, returnRead, done⟩ := bind_eq_ok parsed
    cases done
    exact returnStatement_neutral returnRead
  · intro inLoop next after isKeyword notInt notIf notFor notWhile notDo notBreak notContinue
      notReturn _ result parsed
    exact absurd parsed (statement_keyword_refused isKeyword notInt notIf notFor notWhile notDo
      notBreak notContinue notReturn)
  · intro inLoop next after isKeyword notInt notIf notFor notWhile notDo notBreak notContinue
      notReturn _ result parsed
    exact absurd parsed (statement_keyword_refused isKeyword notInt notIf notFor notWhile notDo
      notBreak notContinue notReturn)
  · intro inLoop next after notKeyword isOpen itemsClose result parsed
    unfold statement at parsed
    simp only at parsed
    rw [if_neg notKeyword, if_pos isOpen] at parsed
    obtain ⟨⟨stmts, rest, restLe⟩, itemsRead, done⟩ := bind_eq_ok parsed
    cases done
    obtain ⟨close, isClose, closing⟩ := itemsClose _ itemsRead
    exact Neutral.braced isOpen isClose closing
  · intro inLoop next after notKeyword notOpen isEmpty result parsed
    unfold statement at parsed
    simp only at parsed
    rw [if_neg notKeyword, if_neg notOpen, if_pos isEmpty] at parsed
    cases parsed
    exact Neutral.plain (Token.plain_of_isOp isEmpty (by decide)) Neutral.refl
  · intro inLoop next after notKeyword notOpen notEmpty isCall result parsed
    unfold statement at parsed
    simp only at parsed
    rw [if_neg notKeyword, if_neg notOpen, if_neg notEmpty, if_pos isCall] at parsed
    obtain ⟨called, callRead, done⟩ := bind_eq_ok parsed
    cases done
    have name : next.kind = .ident := by
      simpa using (Bool.and_eq_true_iff.mp isCall).1
    exact call_neutral name callRead
  · intro inLoop next after notKeyword notOpen notEmpty notCall result parsed
    unfold statement at parsed
    simp only at parsed
    rw [if_neg notKeyword, if_neg notOpen, if_neg notEmpty, if_neg notCall] at parsed
    obtain ⟨simple, simpleRead, afterSimple⟩ := bind_eq_ok parsed
    obtain ⟨semicolon, semiRead, done⟩ := bind_eq_ok afterSimple
    cases done
    exact (simpleStatement_neutral simpleRead).trans (expectOp_neutral semiRead (by decide))
  · intro inLoop result parsed
    unfold statement at parsed
    obtain ⟨⟨_, _, impossible⟩, _, _⟩ := bind_eq_ok parsed
    exact absurd impossible (Nat.not_lt_zero _)
  · intro tokens bodyNeutral result parsed
    unfold doStatement at parsed
    obtain ⟨⟨keyword, afterKeyword, keywordLt⟩, keywordRead, afterKeywordRead⟩ := bind_eq_ok parsed
    obtain ⟨⟨stmts, afterBody, bodyLt⟩, bodyRead, afterBodyRead⟩ := bind_eq_ok afterKeywordRead
    obtain ⟨⟨_, afterWhile, whileLt⟩, whileRead, afterWhileRead⟩ := bind_eq_ok afterBodyRead
    obtain ⟨⟨cond, afterCond, condLt⟩, condRead, afterCondRead⟩ := bind_eq_ok afterWhileRead
    obtain ⟨⟨⟨⟩, final, semiLt⟩, semiRead, done⟩ := bind_eq_ok afterCondRead
    cases done
    exact (expectKeyword_neutral keywordRead).trans
      ((bodyNeutral afterKeyword keywordLt _ bodyRead).trans
        ((expectKeyword_neutral whileRead).trans
          ((condition_neutral condRead).trans (expectOp_neutral semiRead (by decide)))))
  · intro inLoop next after isOpen itemsClose result parsed
    unfold body at parsed
    simp only at parsed
    rw [if_pos isOpen] at parsed
    obtain ⟨⟨stmts, rest, restLe⟩, itemsRead, done⟩ := bind_eq_ok parsed
    cases done
    obtain ⟨close, isClose, closing⟩ := itemsClose _ itemsRead
    exact Neutral.braced isOpen isClose closing
  · intro inLoop next after notOpen stmtNeutral result parsed
    unfold body at parsed
    simp only at parsed
    rw [if_neg notOpen] at parsed
    exact stmtNeutral _ parsed
  · intro inLoop stmtNeutral result parsed
    unfold body at parsed
    exact stmtNeutral _ parsed
  · intro tokens bodyNeutral result parsed
    unfold whileStatement at parsed
    obtain ⟨⟨keyword, afterKeyword, keywordLt⟩, keywordRead, afterKeywordRead⟩ := bind_eq_ok parsed
    obtain ⟨⟨cond, afterCond, condLt⟩, condRead, afterCondRead⟩ := bind_eq_ok afterKeywordRead
    obtain ⟨⟨stmts, final, bodyLt⟩, bodyRead, done⟩ := bind_eq_ok afterCondRead
    cases done
    exact (expectKeyword_neutral keywordRead).trans ((condition_neutral condRead).trans
      (bodyNeutral afterKeyword keywordLt afterCond condLt _ bodyRead))
  · intro tokens bodyNeutral result parsed
    unfold forStatement at parsed
    obtain ⟨⟨keyword, afterKeyword, keywordLt⟩, keywordRead, afterKeywordRead⟩ := bind_eq_ok parsed
    obtain ⟨⟨⟨⟩, afterOpen, openLt⟩, openRead, afterOpenRead⟩ := bind_eq_ok afterKeywordRead
    obtain ⟨⟨⟨init, cond, step⟩, afterHeader, headerLt⟩, headerRead, afterHeaderRead⟩ :=
      bind_eq_ok afterOpenRead
    obtain ⟨⟨stmts, final, bodyLt⟩, bodyRead, done⟩ := bind_eq_ok afterHeaderRead
    cases done
    -- the header stands between the parenthesis opened here and the one it closes
    obtain ⟨close, isClose, headerNeutral⟩ := forHeader_closes headerRead
    obtain ⟨opening, opens, split⟩ := expectOp_ok openRead
    have enclosed : Neutral afterKeyword afterHeader := by
      rw [show afterKeyword = opening :: afterOpen from split]
      exact Neutral.parenthesised opens isClose headerNeutral
    exact (expectKeyword_neutral keywordRead).trans (enclosed.trans
      (bodyNeutral afterKeyword keywordLt afterOpen openLt afterHeader headerLt _ bodyRead))
  · intro inLoop tokens bodyNeutral chainNeutral result parsed
    unfold ifStatement at parsed
    obtain ⟨⟨keyword, afterKeyword, keywordLt⟩, keywordRead, afterKeywordRead⟩ := bind_eq_ok parsed
    obtain ⟨⟨cond, afterCond, condLt⟩, condRead, afterCondRead⟩ := bind_eq_ok afterKeywordRead
    obtain ⟨⟨stmts, afterBody, bodyLt⟩, bodyRead, afterBodyRead⟩ := bind_eq_ok afterCondRead
    obtain ⟨⟨⟨branches, elseBody⟩, final, finalLe⟩, chainRead, built⟩ := bind_eq_ok afterBodyRead
    dsimp only at built
    rw [rest_of_built built]
    exact (expectKeyword_neutral keywordRead).trans ((condition_neutral condRead).trans
      ((bodyNeutral afterKeyword keywordLt afterCond condLt _ bodyRead).trans
        (chainNeutral afterKeyword keywordLt cond afterCond condLt stmts afterBody bodyLt _ chainRead)))
  · intro inLoop branches elseWord isElse ifWord after isIf bodyNeutral chainNeutral result parsed
    unfold elseChain at parsed
    simp only at parsed
    rw [if_pos isElse, if_pos isIf] at parsed
    obtain ⟨⟨cond, afterCond, condLt⟩, condRead, afterCondRead⟩ := bind_eq_ok parsed
    obtain ⟨⟨stmts, afterBody, bodyLt⟩, bodyRead, afterBodyRead⟩ := bind_eq_ok afterCondRead
    obtain ⟨⟨chain, final, finalLe⟩, chainRead, done⟩ := bind_eq_ok afterBodyRead
    cases done
    exact Neutral.plain (Token.plain_of_isKeyword isElse) (Neutral.plain (Token.plain_of_isKeyword isIf)
      ((condition_neutral condRead).trans ((bodyNeutral afterCond condLt _ bodyRead).trans
        (chainNeutral cond afterCond condLt stmts afterBody bodyLt _ chainRead))))
  · intro inLoop branches elseWord isElse next after notIf bodyNeutral result parsed
    unfold elseChain at parsed
    simp only at parsed
    rw [if_pos isElse, if_neg notIf] at parsed
    obtain ⟨⟨stmts, final, finalLt⟩, bodyRead, done⟩ := bind_eq_ok parsed
    cases done
    exact Neutral.plain (Token.plain_of_isKeyword isElse) (bodyNeutral _ bodyRead)
  · intro inLoop branches elseWord isElse bodyNeutral result parsed
    unfold elseChain at parsed
    simp only at parsed
    rw [if_pos isElse] at parsed
    obtain ⟨⟨stmts, final, finalLt⟩, bodyRead, done⟩ := bind_eq_ok parsed
    cases done
    exact Neutral.plain (Token.plain_of_isKeyword isElse) (bodyNeutral _ bodyRead)
  · intro inLoop branches next after notElse result parsed
    unfold elseChain at parsed
    simp only at parsed
    rw [if_neg notElse] at parsed
    cases parsed
    exact Neutral.refl
  · intro inLoop branches result parsed
    unfold elseChain at parsed
    cases parsed
    exact Neutral.refl

theorem blockItems_closes {inLoop : Bool} {result : Parsed tokens (List Stmt)}
    (parsed : blockItems inLoop tokens = .ok result) :
    ∃ close, close.isOp "\x7d" = true ∧ Neutral tokens (close :: result.rest) :=
  statement_neutral.1 inLoop tokens result parsed

/-! ## `main` and the file scope -/

/-- The tokens of `int main()`, or `int main(void)`, and the brace opening
the body. -/
def mainHeader (void : Bool) : List (TokenKind × String) :=
  [(.keyword, "int"), (.ident, "main"), (.op, "(")] ++
    (if void then [(.keyword, "void")] else []) ++ [(.op, ")"), (.op, "\x7b")]

/-- `main` is read as its header and a balanced body: brackets in pairs
and no preprocessor line. -/
theorem mainFunction_reads {result : Parsed tokens (List Stmt)}
    (parsed : mainFunction tokens = .ok result) :
    ∃ header body void, tokens = header ++ body ++ result.rest ∧
      header.map Token.view = mainHeader void ∧ Balanced (header ++ body) := by
  unfold mainFunction at parsed
  obtain ⟨⟨int, afterInt, intLt⟩, intRead, afterIntRead⟩ := bind_eq_ok parsed
  obtain ⟨⟨name, afterName, nameLt⟩, nameRead, afterNameRead⟩ := bind_eq_ok afterIntRead
  simp only at afterNameRead
  split at afterNameRead
  · obtain ⟨_, thrown, _⟩ := bind_eq_ok afterNameRead
    cases thrown
  next isMain =>
  obtain ⟨⟨⟨⟩, afterOpen, openLt⟩, openRead, afterOpenRead⟩ := bind_eq_ok afterNameRead
  obtain ⟨⟨⟨⟩, afterVoid, voidLe⟩, voidRead, afterVoidRead⟩ := bind_eq_ok afterOpenRead
  obtain ⟨⟨⟨⟩, afterClose, closeLt⟩, closeRead, afterCloseRead⟩ := bind_eq_ok afterVoidRead
  obtain ⟨⟨⟨⟩, afterBrace, braceLt⟩, braceRead, afterBraceRead⟩ := bind_eq_ok afterCloseRead
  obtain ⟨⟨stmts, final, finalLe⟩, itemsRead, done⟩ := bind_eq_ok afterBraceRead
  cases done
  obtain ⟨isInt, intSplit⟩ := expectKeyword_ok intRead
  obtain ⟨isIdent, nameSplit⟩ := expectIdent_ok nameRead
  obtain ⟨opening, opens, openSplit⟩ := expectOp_ok openRead
  obtain ⟨closing, closes, closeSplit⟩ := expectOp_ok closeRead
  obtain ⟨brace, isBrace, braceSplit⟩ := expectOp_ok braceRead
  obtain ⟨closeBrace, isCloseBrace, itemsNeutral⟩ := blockItems_closes itemsRead
  -- `void` is read when it is there, and nothing otherwise
  have voidShape : afterOpen = afterVoid ∨
      ∃ void, void.isKeyword "void" = true ∧ afterOpen = void :: afterVoid := by
    cases afterOpen with
    | nil =>
        cases voidRead
        exact .inl rfl
    | cons token after =>
        simp only at voidRead
        split at voidRead
        · next isVoid =>
            cases voidRead
            exact .inr ⟨token, isVoid, rfl⟩
        · cases voidRead
          exact .inl rfl
  have parameters : Neutral afterOpen (closing :: afterClose) := by
    rw [← show afterVoid = closing :: afterClose from closeSplit]
    rcases voidShape with same | ⟨void, isVoid, split⟩
    · rw [same]
      exact Neutral.refl
    · rw [split]
      exact Neutral.plain (Token.plain_of_isKeyword isVoid) Neutral.refl
  have parens : Neutral afterName afterClose := by
    rw [show afterName = opening :: afterOpen from openSplit]
    exact Neutral.parenthesised opens closes parameters
  have body : Neutral afterClose final := by
    rw [show afterClose = brace :: afterBrace from braceSplit]
    exact Neutral.braced isBrace isCloseBrace itemsNeutral
  have mainName : name.view = (.ident, "main") := by
    simp only [Token.view, Prod.mk.injEq]
    exact ⟨isIdent, by simpa using isMain⟩
  have intSplit' : tokens = int :: name :: afterName := by
    have intFirst : tokens = int :: afterInt := intSplit
    rw [intFirst, show afterInt = name :: afterName from nameSplit]
  have neutral : Neutral tokens final := by
    rw [intSplit']
    exact Neutral.plain (Token.plain_of_isKeyword isInt)
      (Neutral.plain (Token.plain_of_ident isIdent) (parens.trans body))
  have opened : ∃ header void, tokens = header ++ afterBrace ∧
      header.map Token.view = mainHeader void := by
    have closeSplit' : afterVoid = closing :: brace :: afterBrace := by
      rw [show afterVoid = closing :: afterClose from closeSplit,
        show afterClose = brace :: afterBrace from braceSplit]
    rcases voidShape with same | ⟨void, isVoid, split⟩
    · refine ⟨[int, name, opening, closing, brace], false, ?_, ?_⟩
      · rw [intSplit', show afterName = opening :: afterOpen from openSplit, same, closeSplit']
        rfl
      · simp [mainHeader, Token.view_of_isKeyword isInt, mainName, Token.view_of_isOp opens,
          Token.view_of_isOp closes, Token.view_of_isOp isBrace]
    · refine ⟨[int, name, opening, void, closing, brace], true, ?_, ?_⟩
      · rw [intSplit', show afterName = opening :: afterOpen from openSplit, split, closeSplit']
        rfl
      · simp [mainHeader, Token.view_of_isKeyword isInt, mainName, Token.view_of_isOp opens,
          Token.view_of_isKeyword isVoid, Token.view_of_isOp closes, Token.view_of_isOp isBrace]
  -- the balanced tokens of the whole function are the header and the body
  -- up to its closing brace
  obtain ⟨header, void, headerSplit, headerView⟩ := opened
  obtain ⟨taken, takenSplit, balanced⟩ := neutral
  obtain ⟨inner, innerSplit, -⟩ := itemsNeutral
  have whole : taken = header ++ (inner ++ [closeBrace]) := by
    have both : taken ++ final = header ++ (inner ++ [closeBrace]) ++ final := by
      rw [← takenSplit, headerSplit,
        show afterBrace = inner ++ closeBrace :: final from innerSplit]
      simp
    exact List.append_cancel_right both
  refine ⟨header, inner ++ [closeBrace], void, ?_, headerView, whole ▸ balanced⟩
  show tokens = header ++ (inner ++ [closeBrace]) ++ final
  rw [← whole]
  exact takenSplit

/-- The last token before `main` is a `;` or an include line, if there is one. -/
def Separated (before : List Token) : Prop :=
  ∀ last ∈ before.getLast?, last.isOp ";" = true ∨ last.kind = .directive

/-- What the file scope reads before `main`: declarations and include lines
naming `headers`, ending where a declaration or an include line ends. -/
structure Preamble (headers : List String) (before : List Token) : Prop where
  braces : before.countP (·.isOp "\x7b") = before.countP (·.isOp "\x7d")
  parens : before.countP (·.isOp "(") = before.countP (·.isOp ")")
  includes : ∀ token ∈ before, token.kind = .directive →
    ∃ header ∈ headers, includedHeader? token.text = some header
  separated : Separated before

namespace Preamble

variable {headers : List String} {before inner : List Token} {token : Token}

theorem nil : Preamble headers [] := ⟨rfl, rfl, nofun, nofun⟩

theorem separated_cons (first : token.isOp ";" = true ∨ token.kind = .directive)
    (later : Separated before) : Separated (token :: before) := by
  intro last lastMem
  rw [List.getLast?_cons] at lastMem
  cases lastOfLater : before.getLast? with
  | none =>
      simp only [lastOfLater, Option.getD_none, Option.mem_def, Option.some.injEq] at lastMem
      exact lastMem ▸ first
  | some found =>
      simp only [lastOfLater, Option.getD_some, Option.mem_def, Option.some.injEq] at lastMem
      exact later last (lastMem ▸ lastOfLater)

/-- A declaration before the rest: balanced tokens up to its `;`. -/
theorem declaration {semicolon : Token} (balanced : Balanced inner)
    (isSemicolon : semicolon.isOp ";" = true) (later : Preamble headers before) :
    Preamble headers (inner ++ semicolon :: before) := by
  have plain : Balanced [semicolon] := Balanced.single (Token.plain_of_isOp isSemicolon (by decide))
  have counts := balanced.append plain
  refine ⟨?_, ?_, ?_, ?_⟩
  · have braces := counts.braces
    have := later.braces
    simp only [List.countP_append, List.countP_cons, List.countP_nil] at braces ⊢
    omega
  · have parens := counts.parens
    have := later.parens
    simp only [List.countP_append, List.countP_cons, List.countP_nil] at parens ⊢
    omega
  · intro token mem isDirective
    rcases List.mem_append.mp mem with inInner | inRest
    · exact absurd isDirective (balanced.noDirective token inInner)
    · rcases List.mem_cons.mp inRest with rfl | inLater
      · exact absurd isDirective (by simp [Token.kind_of_isOp isSemicolon])
      · exact later.includes token inLater isDirective
  · intro last lastMem
    have lastOfTail : (inner ++ semicolon :: before).getLast? = (semicolon :: before).getLast? := by
      rw [List.getLast?_append, List.getLast?_cons, Option.some_or]
    exact separated_cons (.inl isSemicolon) later.separated last (lastOfTail ▸ lastMem)

/-- An include line before the rest, naming one of `headers`. -/
theorem includeLine {header : String} (isDirective : token.kind = .directive)
    (included : includedHeader? token.text = some header) (named : header ∈ headers)
    (later : Preamble headers before) : Preamble headers (token :: before) := by
  have notOp : ∀ text, token.isOp text = false := fun text => by simp [Token.isOp, isDirective]
  refine ⟨?_, ?_, ?_, separated_cons (.inr isDirective) later.separated⟩
  · simp [notOp, later.braces]
  · simp [notOp, later.parens]
  · intro token' mem isDirective'
    rcases List.mem_cons.mp mem with rfl | inLater
    · exact ⟨header, named, included⟩
    · exact later.includes token' inLater isDirective'

end Preamble

/-- The tokens the file scope reads for a program including `headers`:
include lines and declarations, then `main`, its header and its balanced
body. -/
def FileRead (headers : List String) (taken : List Token) : Prop :=
  ∃ before header body void, taken = before ++ header ++ body ∧ Preamble headers before ∧
    header.map Token.view = mainHeader void ∧ Balanced (header ++ body)

theorem fileScope_reads {headers : Array String} {declared : Array Stmt}
    {result : Parsed tokens (Array String × Array Stmt)}
    (parsed : fileScope headers declared tokens = .ok result) :
    headers.toList ⊆ result.value.1.toList ∧
      ∃ taken, tokens = taken ++ result.rest ∧ FileRead result.value.1.toList taken := by
  induction headers, declared, tokens using fileScope.induct with
  | case1 headers declared token after isDirective header included ih =>
    unfold fileScope at parsed
    simp only at parsed
    rw [if_pos isDirective] at parsed
    simp only [included] at parsed
    obtain ⟨⟨files, final, finalLe⟩, moreRead, done⟩ := bind_eq_ok parsed
    cases done
    obtain ⟨kept, taken, split, before, header', body, void, shape, preamble, view, balanced⟩ :=
      ih moreRead
    refine ⟨fun named mem => kept (by simp [mem]), token :: taken, congrArg (token :: ·) split,
      token :: before, header', body, void, congrArg (token :: ·) shape, ?_, view, balanced⟩
    exact preamble.includeLine (by simpa using isDirective) included (kept (by simp))
  | case2 headers declared token after isDirective excluded =>
    unfold fileScope at parsed
    simp only at parsed
    rw [if_pos isDirective] at parsed
    simp only [excluded] at parsed
    cases parsed
  | case3 headers declared token after notDirective isMain =>
    unfold fileScope at parsed
    simp only at parsed
    rw [if_neg notDirective, if_pos isMain] at parsed
    obtain ⟨⟨stmts, final, finalLe⟩, mainRead, done⟩ := bind_eq_ok parsed
    cases done
    obtain ⟨header, body, void, split, view, balanced⟩ := mainFunction_reads mainRead
    exact ⟨fun _ mem => mem, header ++ body, split, [], header, body, void, rfl, Preamble.nil,
      view, balanced⟩
  | case4 headers declared token after notDirective notMain isInt ih =>
    unfold fileScope at parsed
    simp only at parsed
    rw [if_neg notDirective, if_neg notMain, if_pos isInt] at parsed
    obtain ⟨⟨stmts, rest, restLt⟩, declarationRead, afterDeclaration⟩ := bind_eq_ok parsed
    obtain ⟨⟨files, final, finalLe⟩, moreRead, done⟩ := bind_eq_ok afterDeclaration
    cases done
    obtain ⟨kept, taken, split, before, header, body, void, shape, preamble, view, balanced⟩ :=
      ih stmts rest restLt moreRead
    obtain ⟨semicolon, isSemicolon, inner, innerSplit, innerBalanced⟩ :=
      declaration_ends declarationRead
    refine ⟨kept, inner ++ semicolon :: taken, ?_, inner ++ semicolon :: before, header, body,
      void, ?_, preamble.declaration innerBalanced isSemicolon, view, balanced⟩
    · show token :: after = inner ++ semicolon :: taken ++ final
      rw [show token :: after = inner ++ semicolon :: rest from innerSplit,
        show rest = taken ++ final from split]
      simp
    · rw [shape]
      simp
  | case5 headers declared token after notDirective notMain notInt isEnd =>
    unfold fileScope at parsed
    simp only at parsed
    rw [if_neg notDirective, if_neg notMain, if_neg notInt, if_pos isEnd] at parsed
    cases parsed
  | case6 headers declared token after notDirective notMain notInt notEnd =>
    unfold fileScope at parsed
    simp only at parsed
    rw [if_neg notDirective, if_neg notMain, if_neg notInt, if_neg notEnd] at parsed
    cases parsed
  | case7 headers declared =>
    unfold fileScope at parsed
    cases parsed

/-- A parsed program is read up to the end token by the file scope, with
the program's headers. -/
theorem parseTokens_reads {program : Program} (parsed : parseTokens tokens = .ok program) :
    ∃ taken rest, tokens = taken ++ rest ∧ (peek rest).kind = .eof ∧
      FileRead program.headers taken := by
  unfold parseTokens at parsed
  obtain ⟨⟨⟨headers, stmts⟩, rest, restLe⟩, scopeRead, afterScope⟩ := bind_eq_ok parsed
  simp only at afterScope
  split at afterScope
  · split at afterScope <;> cases afterScope
  next atEnd =>
  cases afterScope
  obtain ⟨-, taken, split, read⟩ := fileScope_reads scopeRead
  exact ⟨taken, rest, split, by simpa using atEnd, read⟩

end Parser

end ClassroomC
