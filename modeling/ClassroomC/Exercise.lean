import ClassroomC.Input.Raw
/-!
# Exercises and graded submissions

An exercise names the output a submission must print. It arrives as a record
of raw fields and is checked field by field, in the order of its fields:
texts must be texts, the difficulty one of three words, the tags a list of
texts; `id`, `title` and `expected_output` are required and the others have
defaults. Every refused field is reported.
-/

namespace ClassroomC

/-- How hard an exercise is. -/
inductive Difficulty where
  | easy | medium | hard
  deriving Repr, BEq, DecidableEq

/-- The difficulty a word names, if any. -/
def Difficulty.ofName? : String → Option Difficulty
  | "easy" => some .easy
  | "medium" => some .medium
  | "hard" => some .hard
  | _ => none

/-- An exercise. -/
structure Exercise where
  id : String
  title : String
  description : String := ""
  starterCode : String := ""
  expectedOutput : String
  difficulty : Difficulty := .easy
  tags : List String := []
  deriving Repr

/-- What is kept of one graded submission. -/
structure SubmissionRecord where
  exerciseId : String
  code : String
  output : String
  passed : Bool
  diagnostic : Option String
  deriving Repr, BEq, DecidableEq

namespace Exercise

/-- The outcome of checking one field: its value, or where and why it was
refused. -/
abbrev Checked (α : Type) := Except (List Refused) α

/-- Check a required text field. -/
def requiredText (name : String) : Option RawValue → Checked String
  | none => .error [⟨[.field name], .missing⟩]
  | some raw => raw.toText.mapError fun reason => [⟨[.field name], reason⟩]

/-- Check a text field with a default. -/
def optionalText (name : String) (default : String) : Option RawValue → Checked String
  | none => .ok default
  | some raw => raw.toText.mapError fun reason => [⟨[.field name], reason⟩]

/-- Check the difficulty field. -/
def difficultyField : Option RawValue → Checked Difficulty
  | none => .ok .easy
  | some (.text word) =>
    match Difficulty.ofName? word with
    | some difficulty => .ok difficulty
    | none => .error [⟨[.field "difficulty"], .notAChoice⟩]
  | some _ => .error [⟨[.field "difficulty"], .notAChoice⟩]

/-- Check the items of the tags list, reporting each refused item at its
position. -/
def tagItems (position : Nat) : List RawValue → Checked (List String)
  | [] => .ok []
  | item :: more =>
    match item.toText, tagItems (position + 1) more with
    | .ok tag, .ok tags => .ok (tag :: tags)
    | .ok _, .error later => .error later
    | .error reason, .ok _ => .error [⟨[.field "tags", .index position], reason⟩]
    | .error reason, .error later => .error (⟨[.field "tags", .index position], reason⟩ :: later)

/-- Check the tags field. -/
def tagsField : Option RawValue → Checked (List String)
  | none => .ok []
  | some (.list items) => tagItems 0 items
  | some _ => .error [⟨[.field "tags"], .notAList⟩]

/-- The refusals of a checked field, none if it was accepted. -/
def refusals {α : Type} : Checked α → List Refused
  | .ok _ => []
  | .error refused => refused

/-- Check an exercise given as raw fields; `field` gives the value of a
field if it is present. -/
def ofFields (field : String → Option RawValue) : Checked Exercise :=
  let id := requiredText "id" (field "id")
  let title := requiredText "title" (field "title")
  let description := optionalText "description" "" (field "description")
  let starterCode := optionalText "starter_code" "" (field "starter_code")
  let expectedOutput := requiredText "expected_output" (field "expected_output")
  let difficulty := difficultyField (field "difficulty")
  let tags := tagsField (field "tags")
  match id, title, description, starterCode, expectedOutput, difficulty, tags with
  | .ok id, .ok title, .ok description, .ok starterCode, .ok expectedOutput, .ok difficulty,
      .ok tags => .ok { id, title, description, starterCode, expectedOutput, difficulty, tags }
  | _, _, _, _, _, _, _ =>
    .error (refusals id ++ refusals title ++ refusals description ++ refusals starterCode ++
      refusals expectedOutput ++ refusals difficulty ++ refusals tags)

end Exercise

end ClassroomC
