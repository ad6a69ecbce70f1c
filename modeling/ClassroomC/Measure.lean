/-!
# Lexicographic measures

The reader and the executor recurse on pairs of natural numbers ordered
lexicographically: the amount of input or budget left first, then a rank or
a size that orders the calls made on the same amount. One lemma turns the
arithmetic fact "the first part fell, or it did not grow and the second part
fell" into that order, so each termination proof is that fact and `omega`.
-/

namespace ClassroomC.Measure

/-- A pair decreases when its first part decreases, or when its first part
does not grow and its second part decreases. -/
theorem lex_lt {first second first' second' : Nat}
    (h : first' < first ∨ (first' ≤ first ∧ second' < second)) :
    Prod.Lex Nat.lt Nat.lt (first', second') (first, second) := by
  rcases h with fell | ⟨kept, smaller⟩
  · exact Prod.Lex.left _ _ fell
  · exact Prod.Lex.right' _ kept smaller

end ClassroomC.Measure
