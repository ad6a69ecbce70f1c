import ClassroomC.Input.Raw
/-!
# The limits of a run, and how they are read

A run is bounded by the number of loop iterations, over all loops together,
and by the number of characters printed. Both limits are positive integers.

Each limit is read leniently from a raw value, and every problem of every
setting is reported, in the order of the settings.
-/

namespace ClassroomC

/-- The limits of a run: loop iterations over the whole run, and characters
printed. -/
structure Limits where
  loopBudget : Nat := 100000
  maxOutput : Nat := 1000000
  deriving Repr, BEq, DecidableEq

namespace Limits

/-- The name of the setting of the loop budget. -/
def loopBudgetName : String := "loop_budget"

/-- The name of the setting of the output limit. -/
def maxOutputName : String := "max_output_chars"

/-- Read the limits from the settings given; an absent one keeps its
default. The problems come in the order of the settings, each with the name
of its setting. -/
def ofSettings (loopBudget maxOutput : Option RawValue) : Except (List Refused) Limits :=
  let read (name : String) (default : Nat) : Option RawValue → Except (List Refused) Nat
    | none => .ok default
    | some setting => (setting.toPositive).mapError fun reason => [⟨[.field name], reason⟩]
  let defaults : Limits := {}
  match read loopBudgetName defaults.loopBudget loopBudget,
      read maxOutputName defaults.maxOutput maxOutput with
  | .ok loopBudget, .ok maxOutput => .ok ⟨loopBudget, maxOutput⟩
  | .error first, .error second => .error (first ++ second)
  | .error first, .ok _ => .error first
  | .ok _, .error second => .error second

/-- The environment variable that sets a limit. -/
def variableOf (name : String) : String :=
  "MINIC_" ++ name.toUpper

/-- Read the limits from environment variables; `lookup` gives the value of
a variable if it is set. -/
def ofEnvironment (lookup : String → Option String) : Except (List Refused) Limits :=
  ofSettings ((lookup (variableOf loopBudgetName)).map RawValue.text)
    ((lookup (variableOf maxOutputName)).map RawValue.text)

end Limits

end ClassroomC
