/-!
# Code point range tables

A character property of the Unicode database is stored as a sorted array of
disjoint closed ranges of code points. Only characters outside ASCII are
looked up in such a table, so a scan over the ranges is fast enough, and it
keeps every membership question decidable by evaluation.
-/

namespace ClassroomC.Unicode

/-- A closed range of code points, `first` to `last` inclusive. -/
structure CodeRange where
  first : Nat
  last : Nat

namespace CodeRange

/-- Whether `code` lies in the range. -/
def holds (range : CodeRange) (code : Nat) : Bool :=
  range.first ≤ code && code ≤ range.last

/-- Whether `code` lies in one of `ranges`. -/
def contains (ranges : Array CodeRange) (code : Nat) : Bool :=
  ranges.any fun range => range.holds code

/-- The range of `ranges` that holds `code`, if any. -/
def find? (ranges : Array CodeRange) (code : Nat) : Option CodeRange :=
  ranges.find? fun range => range.holds code

end CodeRange

end ClassroomC.Unicode
