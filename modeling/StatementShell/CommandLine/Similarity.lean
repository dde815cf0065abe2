import StatementShell.Text.Basic

/-!
# Similarity of names

A surplus argument that looks like the name of a subcommand is taken for a misspelt
one.  Names are compared by their Jaro similarity: the characters of one that
are met near the same place in the other, and how many of those are out of
order.

## Main Definitions

* `CommandLine.jaro`: the similarity, from zero to one.
* `CommandLine.resembles`: whether it is more than seven tenths.
-/

namespace StatementShell.CommandLine

/-- Marks the first free occurrence of a character among those at the positions
from `low` up to `high`, counting positions from `index`. -/
def claim (c : Char) (low high index : Nat) : List (Char × Bool) → Option (List (Char × Bool))
  | [] => none
  | (x, taken) :: rest =>
    if low ≤ index ∧ index < high ∧ x = c ∧ !taken then some ((x, true) :: rest)
    else (claim c low high (index + 1) rest).map ((x, taken) :: ·)

/-- The characters of one name that are met in the other, in order, and the other
name with those marked. -/
def matching (range index : Nat) (other : List (Char × Bool)) :
    Text → Text × List (Char × Bool)
  | [] => ([], other)
  | c :: rest =>
    match claim c (index - range) (index + range + 1) 0 other with
    | some marked =>
      let (found, last) := matching range (index + 1) marked rest
      (c :: found, last)
    | none => matching range (index + 1) other rest

/-- The Jaro similarity of two names. -/
def jaro (a b : Text) : Float :=
  if a.isEmpty && b.isEmpty then 1
  else if a.isEmpty || b.isEmpty then 0
  else
    let range := max a.length b.length / 2 - 1
    let (found, marked) := matching range 0 (b.map fun c => (c, false)) a
    let counterparts := (marked.filter (·.2)).map (·.1)
    let disordered := (found.zip counterparts).countP fun pair => pair.1 != pair.2
    let common := found.length
    if common = 0 then 0
    else
      (Float.ofNat common / Float.ofNat a.length + Float.ofNat common / Float.ofNat b.length +
        Float.ofNat (common - disordered / 2) / Float.ofNat common) / 3

/-- Whether two names are similar. -/
def resembles (a b : Text) : Bool := jaro a b > 0.7

end StatementShell.CommandLine
