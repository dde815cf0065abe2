import Mathlib.Data.List.Induction
import StatementShell.Scanner.Basic

/-!
# Matching brackets

The scanner keeps a stack of open brackets and one flag.  This module says what
the two mean for the code that was read, without a stack: code is *balanced*
when its brackets pair up like those of a formula, it *leaves* brackets open
when balanced pieces stand between them, and it is *mismatched* when some
closing bracket meets an innermost open bracket of another kind, or none.

## Main Definitions

* `Balanced`: all brackets of a text pair up.
* `Leaves`: a text without mismatch, and the brackets it leaves open.
* `Mismatched`: some closing bracket does not close the innermost open one.
* `FirstMismatch`: the first such bracket of a text.
* `Settled`: a text after which a newline ends a unit.
* `Nesting`: the stack and the flag; `nestingOf` is their value for a text.

## Main Results

* `nestingOf_eq_iff`: the stack of a text without mismatch.
* `firstMismatch_iff`, `mismatched_nestingOf_iff`: what sets the flag, and when it is
  set.
* `settled_iff`: when a newline ends a unit.
-/

namespace StatementShell

/-! ### Texts with matching brackets -/

/-- A text whose brackets pair up, each closing bracket with an opening one of
its kind. -/
inductive Balanced : Text → Prop where
  | nil : Balanced []
  /-- A character that is no bracket stands in front. -/
  | plain {c : Char} {w : Text} (notOpen : Lexis.isOpenBracket c = false)
      (notClose : Lexis.isCloseBracket c = false) (rest : Balanced w) : Balanced (c :: w)
  /-- A pair of brackets around a balanced text stands in front. -/
  | pair {o c : Char} {u v : Text} (kind : Lexis.openerFor c = some o)
      (inside : Balanced u) (rest : Balanced v) : Balanced (o :: u ++ c :: v)

/-- A text without mismatch that leaves brackets open, innermost first. -/
inductive Leaves : Text → List Char → Prop where
  | none {w : Text} (balanced : Balanced w) : Leaves w []
  /-- One more bracket is opened, and nothing after it stays open. -/
  | one {w v : Text} {stack : List Char} {o : Char} (before : Leaves w stack)
      (isOpen : Lexis.isOpenBracket o = true) (after : Balanced v) :
      Leaves (w ++ o :: v) (o :: stack)

/-- A text in which some closing bracket meets an innermost open bracket of
another kind, or none at all. -/
def Mismatched (w : Text) : Prop :=
  ∃ (u : Text) (c : Char) (v : Text) (stack : List Char),
    w = u ++ c :: v ∧ Lexis.isCloseBracket c = true ∧ Leaves u stack ∧
      stack.head? ≠ Lexis.openerFor c

/-- After the text `w`, in which every closing bracket matches, `c` is a closing
bracket that meets an innermost open bracket of another kind, or none at all. -/
def FirstMismatch (w : Text) (c : Char) : Prop :=
  Lexis.isCloseBracket c = true ∧ ∃ stack, Leaves w stack ∧ stack.head? ≠ Lexis.openerFor c

/-- Code after which a newline ends the unit: no bracket is open, or some
closing bracket has failed to match. -/
def Settled (w : Text) : Prop := Balanced w ∨ Mismatched w

namespace Lexis

/-- A closing bracket is no opening bracket. -/
theorem isOpenBracket_of_isCloseBracket {c : Char} (close : isCloseBracket c = true) :
    isOpenBracket c = false := by
  have member : c ∈ closeBrackets := by simpa [isCloseBracket] using close
  have disjoint : ∀ d ∈ closeBrackets, isOpenBracket d = false := by
    simp [closeBrackets, isOpenBracket, openBrackets]
  exact disjoint c member

/-- A character that has an opener is a closing bracket. -/
theorem isCloseBracket_of_openerFor {c o : Char} (kind : openerFor c = some o) :
    isCloseBracket c = true := by
  by_contra notClose
  have absent : ∀ d ∈ closeBrackets, (c == d) = false := by
    intro d member
    by_contra same
    have equal : c = d := by simpa using same
    subst equal
    exact notClose (by simpa [isCloseBracket] using member)
  simp only [closeBrackets, List.forall_mem_cons] at absent
  simp [openerFor, closeBrackets, openBrackets, List.lookup_cons, absent] at kind

/-- A closing bracket has an opener. -/
theorem exists_openerFor {c : Char} (close : isCloseBracket c = true) :
    ∃ o, openerFor c = some o := by
  have member : c ∈ closeBrackets := by simpa [isCloseBracket] using close
  have opened : ∀ d ∈ closeBrackets, (openerFor d).isSome = true := by
    simp [closeBrackets, openerFor, openBrackets, List.lookup_cons]
  exact Option.isSome_iff_exists.mp (opened c member)

end Lexis

namespace Balanced

/-- Balanced texts may be put one after the other. -/
theorem append {w v : Text} (first : Balanced w) (second : Balanced v) :
    Balanced (w ++ v) := by
  induction first with
  | nil => exact second
  | plain notOpen notClose _ ih => exact .plain notOpen notClose ih
  | @pair o c u u' kind inside _ _ ih =>
    have nested : Balanced (o :: u ++ c :: (u' ++ v)) := .pair kind inside ih
    simpa using nested

/-- A single character that is no bracket is balanced. -/
theorem singleton {c : Char} (notOpen : Lexis.isOpenBracket c = false)
    (notClose : Lexis.isCloseBracket c = false) : Balanced [c] :=
  .plain notOpen notClose .nil

end Balanced

namespace Leaves

/-- A balanced text changes nothing about the brackets left open. -/
theorem append {w v : Text} {stack : List Char} (first : Leaves w stack)
    (second : Balanced v) : Leaves (w ++ v) stack := by
  cases first with
  | none balanced => exact .none (balanced.append second)
  | one before isOpen after =>
    rw [List.append_assoc, List.cons_append]
    exact .one before isOpen (after.append second)

/-- A closing bracket of the right kind closes the innermost open bracket. -/
theorem close {w : Text} {stack : List Char} {o c : Char} (opened : Leaves w (o :: stack))
    (kind : Lexis.openerFor c = some o) : Leaves (w ++ [c]) stack := by
  cases opened with
  | @one u v _ _ before _ after =>
    have pair : Balanced (o :: v ++ c :: []) := .pair kind after .nil
    have whole := before.append pair
    simpa using whole

end Leaves

/-! ### The stack and the flag -/

/-- The open brackets, innermost first, and whether a closing bracket has failed
to match. -/
structure Nesting where
  brackets : List Char
  mismatched : Bool
  deriving DecidableEq, Repr

namespace Nesting

/-- Nothing open and no mismatch. -/
def empty : Nesting := ⟨[], false⟩

/-- One more character of code. -/
def read (n : Nesting) (c : Char) : Nesting :=
  if Lexis.isOpenBracket c then { n with brackets := c :: n.brackets }
  else if Lexis.isCloseBracket c then
    if n.brackets.head? = Lexis.openerFor c then { n with brackets := n.brackets.tail }
    else { n with mismatched := true }
  else n

/-- Whether a newline read as code would end the unit. -/
def closed (n : Nesting) : Bool := n.brackets.isEmpty || n.mismatched

theorem read_plain (n : Nesting) {c : Char} (notOpen : Lexis.isOpenBracket c = false)
    (notClose : Lexis.isCloseBracket c = false) : n.read c = n := by
  simp [read, notOpen, notClose]

theorem read_open (n : Nesting) {c : Char} (isOpen : Lexis.isOpenBracket c = true) :
    n.read c = { n with brackets := c :: n.brackets } := by
  simp [read, isOpen]

theorem read_match (n : Nesting) {c : Char} (close : Lexis.isCloseBracket c = true)
    (kind : n.brackets.head? = Lexis.openerFor c) :
    n.read c = { n with brackets := n.brackets.tail } := by
  simp [read, Lexis.isOpenBracket_of_isCloseBracket close, close, kind]

theorem read_mismatch (n : Nesting) {c : Char} (close : Lexis.isCloseBracket c = true)
    (kind : n.brackets.head? ≠ Lexis.openerFor c) :
    n.read c = { n with mismatched := true } := by
  simp [read, Lexis.isOpenBracket_of_isCloseBracket close, close, kind]

/-- Only a closing bracket can set the flag. -/
theorem mismatched_read_of_not_close (n : Nesting) {c : Char}
    (notClose : Lexis.isCloseBracket c = false) : (n.read c).mismatched = n.mismatched := by
  rw [read, notClose]
  split <;> rfl

/-- The flag is never cleared by one character. -/
theorem mismatched_read {n : Nesting} (set : n.mismatched = true) (c : Char) :
    (n.read c).mismatched = true := by
  unfold read
  split
  · exact set
  · split
    · split
      · exact set
      · rfl
    · exact set

/-- The flag is never cleared. -/
theorem mismatched_foldl {n : Nesting} (set : n.mismatched = true) (w : Text) :
    (w.foldl read n).mismatched = true := by
  induction w generalizing n with
  | nil => exact set
  | cons c w ih => exact ih (mismatched_read set c)

end Nesting

/-- The stack and the flag after a text. -/
def nestingOf (w : Text) : Nesting := w.foldl Nesting.read .empty

@[simp] theorem nestingOf_nil : nestingOf [] = .empty := rfl

theorem nestingOf_concat (w : Text) (c : Char) :
    nestingOf (w ++ [c]) = (nestingOf w).read c := by
  simp [nestingOf]

/-- A balanced text leaves the stack and the flag as it found them. -/
theorem Balanced.foldl_read {w : Text} (balanced : Balanced w) (n : Nesting) :
    w.foldl Nesting.read n = n := by
  induction balanced generalizing n with
  | nil => rfl
  | plain notOpen notClose _ ih =>
    rw [List.foldl_cons, n.read_plain notOpen notClose, ih]
  | @pair o c u v kind _ _ insideIH restIH =>
    have isOpen := Lexis.isOpenBracket_of_openerFor kind
    have close := Lexis.isCloseBracket_of_openerFor kind
    rw [List.cons_append, List.foldl_cons, n.read_open isOpen, List.foldl_append, insideIH,
      List.foldl_cons, Nesting.read_match _ close (by simp [kind]), restIH]
    rfl

/-- The stack holds the brackets that a text leaves open. -/
theorem Leaves.nestingOf_eq {w : Text} {stack : List Char} (leaves : Leaves w stack) :
    nestingOf w = ⟨stack, false⟩ := by
  induction leaves with
  | none balanced => exact balanced.foldl_read _
  | @one w v stack o _ isOpen after ih =>
    rw [nestingOf, List.foldl_append, ← nestingOf, ih, List.foldl_cons,
      Nesting.read_open _ isOpen, after.foldl_read]

/-- While the flag is not set, the text leaves the brackets on the stack open. -/
theorem leaves_of_not_mismatched {w : Text} (clear : (nestingOf w).mismatched = false) :
    Leaves w (nestingOf w).brackets := by
  induction w using List.reverseRecOn with
  | nil => exact .none .nil
  | append_singleton w c ih =>
    rw [nestingOf_concat] at clear ⊢
    have earlier : (nestingOf w).mismatched = false := by
      by_contra set
      rw [Nesting.mismatched_read (by simpa using set) c] at clear
      exact Bool.noConfusion clear
    have leaves := ih earlier
    cases isOpen : Lexis.isOpenBracket c with
    | true =>
      rw [Nesting.read_open _ isOpen]
      exact .one leaves isOpen .nil
    | false =>
      cases close : Lexis.isCloseBracket c with
      | false =>
        rw [Nesting.read_plain _ isOpen close]
        exact leaves.append (.singleton isOpen close)
      | true =>
        by_cases kind : (nestingOf w).brackets.head? = Lexis.openerFor c
        · rw [Nesting.read_match _ close kind]
          obtain ⟨o, opener⟩ := Lexis.exists_openerFor close
          rw [opener, List.head?_eq_some_iff] at kind
          obtain ⟨stack, split⟩ := kind
          rw [split] at leaves ⊢
          exact leaves.close opener
        · rw [Nesting.read_mismatch _ close kind] at clear
          exact Bool.noConfusion clear

/-- A text leaves exactly the brackets open that stand on its stack. -/
theorem nestingOf_eq_iff {w : Text} {stack : List Char} :
    nestingOf w = ⟨stack, false⟩ ↔ Leaves w stack := by
  constructor
  · intro equal
    have leaves := leaves_of_not_mismatched (w := w) (by rw [equal])
    rwa [equal] at leaves
  · exact Leaves.nestingOf_eq

/-- The flag is set by the first closing bracket that does not match. -/
theorem firstMismatch_iff {w : Text} {c : Char} :
    FirstMismatch w c ↔
      (nestingOf w).mismatched = false ∧ ((nestingOf w).read c).mismatched = true := by
  constructor
  · rintro ⟨close, stack, leaves, differs⟩
    rw [leaves.nestingOf_eq, Nesting.read_mismatch _ close differs]
    exact ⟨rfl, rfl⟩
  · rintro ⟨clear, set⟩
    have close : Lexis.isCloseBracket c = true := by
      by_contra notClose
      rw [Nesting.mismatched_read_of_not_close _ (by simpa using notClose), clear] at set
      exact Bool.noConfusion set
    refine ⟨close, _, leaves_of_not_mismatched clear, ?_⟩
    intro kind
    rw [Nesting.read_match _ close kind, clear] at set
    exact Bool.noConfusion set

instance (w : Text) (c : Char) : Decidable (FirstMismatch w c) :=
  decidable_of_iff' _ firstMismatch_iff

/-- The flag is set exactly when some closing bracket does not match. -/
theorem mismatched_nestingOf_iff {w : Text} :
    (nestingOf w).mismatched = true ↔ Mismatched w := by
  constructor
  · induction w using List.reverseRecOn with
    | nil => intro set; exact Bool.noConfusion set
    | append_singleton w c ih =>
      intro set
      by_cases earlier : (nestingOf w).mismatched = true
      · obtain ⟨u, d, v, stack, split, close, leaves, differs⟩ := ih earlier
        exact ⟨u, d, v ++ [c], stack, by simp [split], close, leaves, differs⟩
      · rw [nestingOf_concat] at set
        have first : FirstMismatch w c := firstMismatch_iff.mpr ⟨by simpa using earlier, set⟩
        obtain ⟨close, stack, leaves, differs⟩ := first
        exact ⟨w, c, [], stack, rfl, close, leaves, differs⟩
  · rintro ⟨u, c, v, stack, rfl, close, leaves, differs⟩
    rw [nestingOf, List.foldl_append, ← nestingOf, leaves.nestingOf_eq, List.foldl_cons,
      Nesting.read_mismatch _ close differs]
    exact Nesting.mismatched_foldl rfl v

/-- A newline ends the unit exactly after settled code. -/
theorem settled_iff {w : Text} : (nestingOf w).closed = true ↔ Settled w := by
  rw [Nesting.closed, Bool.or_eq_true, List.isEmpty_iff, mismatched_nestingOf_iff]
  constructor
  · rintro (noneOpen | mismatched)
    · by_cases mismatched : Mismatched w
      · exact Or.inr mismatched
      · have clear : (nestingOf w).mismatched = false := by
          simpa using mt mismatched_nestingOf_iff.mp mismatched
        have leaves := leaves_of_not_mismatched clear
        rw [noneOpen] at leaves
        cases leaves with
        | none balanced => exact Or.inl balanced
    · exact Or.inr mismatched
  · rintro (balanced | mismatched)
    · left
      rw [nestingOf, balanced.foldl_read]
      rfl
    · exact Or.inr mismatched

end StatementShell
