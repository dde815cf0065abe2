import Mathlib.Data.List.Induction

/-!
# Shortest prefixes

The scanner stops at the first boundary and a script submits the shortest run
that is accepted.  Both take the shortest list at the front of another that has a
property.

## Main Definitions

* `Shortest`: a list with a property that no shorter list at its front has.

## Main Results

* `exists_shortest`, `Shortest.unique`: there is one if there is any, and only
  one.
-/

namespace StatementShell

variable {α : Type} {P : List α → Prop}

/-- A list with a property that no shorter list at its front has. -/
def Shortest (P : List α → Prop) (l : List α) : Prop :=
  P l ∧ ∀ front, front <+: l → P front → front = l

/-- A list with the property begins with a shortest one. -/
theorem exists_shortest {l : List α} (holds : P l) : ∃ front, front <+: l ∧ Shortest P front := by
  induction length : l.length using Nat.strongRecOn generalizing l with
  | ind n ih =>
    by_cases first : ∀ front, front <+: l → P front → front = l
    · exact ⟨l, List.prefix_rfl, holds, first⟩
    · push Not at first
      obtain ⟨front, within, holdsFront, differs⟩ := first
      have shorter : front.length < n := by
        have bound := within.length_le
        have unequal := mt within.eq_of_length differs
        omega
      obtain ⟨shortest, withinFront, isShortest⟩ := ih front.length shorter holdsFront rfl
      exact ⟨shortest, withinFront.trans within, isShortest⟩

/-- A list begins with one shortest list at most. -/
theorem Shortest.unique {l front front' : List α} (shortest : Shortest P front)
    (shortest' : Shortest P front') (within : front <+: l) (within' : front' <+: l) :
    front = front' := by
  rcases List.prefix_or_prefix_of_prefix within within' with nested | nested
  · exact shortest'.2 front nested shortest.1
  · exact (shortest.2 front' nested shortest'.1).symm

end StatementShell
