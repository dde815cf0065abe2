import StatementShell.Proofs.LineRanges
import StatementShell.Proofs.SubmittedBuffer

/-!
# Splitting put together and splitting again

A split may be taken in parts.  Where a script that ends with its last line leaves
nothing pending, no line of it is left over either: a blank line would be a unit of its
own, and lines that are not blank would be pending.  The scanner is then at a fresh
start, and what follows is split as if it came first, on higher lines.

A split is also stable.  The text of a statement is the lines of one unit, and splitting
it finds that unit.  The text of what is pending is lines in which no unit ends, and the
empty lines that were trimmed from them cannot have kept one from ending.

## Main Definitions

* `Statement.shift`, `Split.shift`: the same with some lines in front.

## Main Results

* `Split.ofLines_shift`, `Split.ofLines_append`: the split of lines after others.
* `Split.ofText_statement`, `Split.ofText_pending`: the split of a piece of a split.
* `split_append_and_stable`: both for scripts.
-/

namespace StatementShell

/-! ### Lines in front -/

/-- The same piece with `n` lines in front of the script. -/
def Statement.shift (n : Nat) (s : Statement) : Statement := { s with line := s.line + n }

/-- The same pieces with `n` lines in front of the script. -/
def Split.shift (n : Nat) (split : Split) : Split :=
  ⟨split.statements.map (Statement.shift n), split.pending.map (Statement.shift n)⟩

namespace Split

variable {k : Nat} {lines : List Text}

theorem statement?_shift (k n : Nat) (unit : Text) :
    statement? (k + n) unit = (statement? k unit).map (Statement.shift n) := by
  unfold statement?
  split
  · rfl
  · rfl

theorem number_shift (k n : Nat) (units : List Text) (rest : Text) :
    number (k + n) units rest = (number k units rest).shift n := by
  induction units generalizing k with
  | nil => rw [number, number, statement?_shift]; rfl
  | cons unit units ih =>
    rw [number, number, statement?_shift, Nat.add_right_comm, ih]
    simp only [shift, List.map_append, Option.toList_map]

/-- Lines in front change nothing about a split but its numbers. -/
theorem ofLines_shift (k n : Nat) (lines : List Text) :
    ofLines (k + n) lines = (ofLines k lines).shift n :=
  number_shift k n _ _

/-! ### Parts of a script -/

/-- Blank lines are units, so that none is left where no unit ends. -/
theorem eq_nil_of_passes (newlineFree : Text.NewlineFree lines)
    (passes : Scanner.fresh.Passes (Text.terminated lines))
    (isBlank : (Text.terminated lines).isBlank = true) : lines = [] := by
  cases lines with
  | nil => rfl
  | cons line more =>
    rw [Text.newlineFree_cons] at newlineFree
    have blankLine := Text.isBlank_of_isBlank_terminated isBlank line List.mem_cons_self
    obtain ⟨-, ends⟩ := completedBy_of_isBlank newlineFree.1 blankLine
    rw [Text.terminated_cons, Scanner.passes_append] at passes
    exact Bool.noConfusion (ends.symm.trans passes.2.1)

/-- Where no unit ends and nothing is pending there are no lines. -/
theorem eq_nil_of_pending (newlineFree : Text.NewlineFree lines)
    (passes : Scanner.fresh.Passes (Text.terminated lines))
    (closed : (ofLines k lines).pending = none) : lines = [] := by
  refine eq_nil_of_passes newlineFree passes ?_
  rw [ofLines_of_passes passes, statement?, Text.isBlank_withoutReturns] at closed
  by_contra nonblank
  rw [if_neg nonblank] at closed
  cases closed

/-- What follows lines that leave nothing pending is split as if it came first. -/
theorem ofLines_append (newlineFree : Text.NewlineFree lines) (k : Nat)
    (closed : (ofLines k lines).pending = none) (later : List Text) :
    ofLines k (lines ++ later) =
      ⟨(ofLines k lines).statements ++ (ofLines (k + lines.length) later).statements,
        (ofLines (k + lines.length) later).pending⟩ := by
  induction lines, newlineFree using unitInduction generalizing k with
  | rest lines newlineFree passes =>
    obtain rfl := eq_nil_of_pending newlineFree passes closed
    rfl
  | unit init last more _ _ newlineFree completed ih =>
    rw [ofLines_of_completedBy newlineFree completed] at closed ⊢
    have length : k + (init ++ last :: more).length =
        k + (init ++ [last]).length + more.length := by
      simp only [List.length_append, List.length_cons, List.length_nil]
      omega
    rw [List.append_assoc, List.cons_append, ofLines_of_completedBy newlineFree completed,
      ih _ closed, length, List.append_assoc]

/-! ### Pieces of a split -/

/-- A statement is split into itself. -/
theorem ofText_statement (newlineFree : Text.NewlineFree lines) (returnFree : ReturnFree lines)
    (k : Nat) : ∀ s ∈ (ofLines k lines).statements, ofText s.text = ⟨[⟨1, s.text⟩], none⟩ := by
  induction lines, newlineFree using unitInduction generalizing k with
  | rest lines _ passes =>
    rw [ofLines_of_passes passes]
    exact List.forall_mem_nil _
  | unit init last later _ _ newlineFree completed ih =>
    have parts : init ++ last :: later = init ++ [last] ++ later := by simp
    rw [parts, ReturnFree, List.forall_mem_append] at returnFree
    have tail := ih returnFree.2 (k + (init ++ [last]).length)
    cases nonblank : (Text.terminated (init ++ [last])).isBlank with
    | true =>
      have noStatement : statement? k (Text.withoutReturns (Text.terminated (init ++ [last]))) =
          none := if_pos ((Text.isBlank_withoutReturns _).trans nonblank)
      rw [ofLines_of_completedBy newlineFree completed, noStatement]
      exact tail
    | false =>
      have joined : Text.withoutReturns (Text.join (init ++ [last])) =
          Text.join (init ++ [last]) := by
        have written := Text.withoutReturns_terminated returnFree.1
        rw [Text.terminated_eq_join (by simp), Text.withoutReturns_append] at written
        exact List.append_cancel_right written
      have holds : (Text.join (init ++ [last])).isBlank = false := by
        rw [Text.terminated_eq_join (by simp)] at nonblank
        simpa [Text.isBlank] using nonblank
      have own :=
        ofText_of_completedBy (Text.bufferLines_join (by simp) newlineFree) completed holds
      rw [ofLines_statement newlineFree completed nonblank, joined, List.forall_mem_cons]
      rw [joined] at own
      exact ⟨own, tail⟩

/-- Lines in which no unit ends, the last of them not empty, are pending as they are. -/
theorem ofText_join_of_passes {init : List Text} {last : Text}
    (newlineFree : Text.NewlineFree (init ++ [last])) (returnFree : ReturnFree (init ++ [last]))
    (passes : Scanner.fresh.Passes (Text.terminated (init ++ [last])))
    (nonblank : (Text.terminated (init ++ [last])).isBlank = false) (holds : last ≠ []) :
    ofText (Text.join (init ++ [last])) = ⟨[], some ⟨1, Text.join (init ++ [last])⟩⟩ := by
  have pieces := Text.bufferLines_join (by simp) newlineFree
  have trimmed : Text.trimEndNewlines (Text.terminated (init ++ [last])) =
      Text.join (init ++ [last]) := by
    rw [Text.terminated_concat, Text.join_concat]
    exact Text.trimEndNewlines_line _ (newlineFree last (by simp)) holds
  rw [ofText_eq_ofLines pieces holds, ofLines_of_passes passes,
    Text.withoutReturns_terminated returnFree, statement?, if_neg (ne_true_of_eq_false nonblank),
    trimmed]

/-- What is pending is pending when it is split again. -/
theorem ofText_pending (newlineFree : Text.NewlineFree lines) (returnFree : ReturnFree lines)
    (k : Nat) : ∀ p ∈ (ofLines k lines).pending, ofText p.text = ⟨[], some ⟨1, p.text⟩⟩ := by
  induction lines, newlineFree using unitInduction generalizing k with
  | rest lines newlineFree passes =>
    rw [ofLines_of_passes passes, Text.withoutReturns_terminated returnFree, statement?]
    cases nonblank : (Text.terminated lines).isBlank with
    | true => simp
    | false =>
      -- The empty lines at the end are trimmed, and no unit ends in the lines before them.
      obtain ⟨shown, empty, rfl, lastHolds, text⟩ := Text.trimEndNewlines_terminated newlineFree
      have holds : (Text.terminated shown).isBlank = false := by
        rw [Text.terminated_append] at nonblank
        simpa [Text.isBlank, Text.terminated] using nonblank
      rw [Text.newlineFree_append] at newlineFree
      rw [ReturnFree, List.forall_mem_append] at returnFree
      rw [Text.terminated_append, Scanner.passes_append] at passes
      rw [if_neg (by decide), text]
      rintro p ⟨⟩
      cases shown using List.reverseRecOn with
      | nil => exact Bool.noConfusion holds
      | append_singleton init last =>
        rw [List.getLast?_concat] at lastHolds
        exact ofText_join_of_passes newlineFree.1 returnFree.1 passes.1 holds
          fun isEmpty => lastHolds (congrArg _ isEmpty)
  | unit init last later _ _ newlineFree completed ih =>
    have parts : init ++ last :: later = init ++ [last] ++ later := by simp
    rw [parts, ReturnFree, List.forall_mem_append] at returnFree
    rw [ofLines_of_completedBy newlineFree completed]
    exact ih returnFree.2 _

end Split

/-! ### Scripts -/

/-- A script without an unfinished line has as many lines as newlines. -/
theorem Text.Finished.length_lines {t : Text} (finished : t.Finished) :
    t.lines.length = t.count '\n' := by
  rcases finished with rfl | ended
  · rfl
  · obtain ⟨front, rfl⟩ := List.getLast?_eq_some_iff.mp ended
    have written := count_newline_terminated (newlineFree_bufferLines front)
    rw [terminated_eq_join (bufferLines_ne_nil front), join_bufferLines] at written
    rw [lines_concat_newline, List.length_map, written]

/-- **Splitting is compositional and stable.**  A script that ends with its last line and
leaves nothing pending may be put in front of another: its statements come first, and
what the other is split into follows, on as many lines further down as the first has
newlines.  The text of a statement is split into that statement alone, and what is
pending is pending when it is split again. -/
theorem split_append_and_stable :
    (∀ a b : Text, a.Finished → (Split.ofText a).pending = none →
      Split.ofText (a ++ b) =
        ⟨(Split.ofText a).statements ++ ((Split.ofText b).shift (a.count '\n')).statements,
          ((Split.ofText b).shift (a.count '\n')).pending⟩) ∧
      ∀ t : Text,
        (∀ s ∈ (Split.ofText t).statements, Split.ofText s.text = ⟨[⟨1, s.text⟩], none⟩) ∧
          ∀ p ∈ (Split.ofText t).pending, Split.ofText p.text = ⟨[], some ⟨1, p.text⟩⟩ := by
  refine ⟨?_, ?_⟩
  · intro a b finished closed
    rw [Split.ofText_eq, finished.lines_append,
      Split.ofLines_append (Text.newlineFree_lines a) 1 closed, Split.ofLines_shift,
      finished.length_lines]
    rfl
  · intro t
    have newlineFree := Text.newlineFree_map_withoutReturns (Text.newlineFree_lines t)
    have returnFree := returnFree_map_withoutReturns t.lines
    rw [Split.ofText_eq, ← Split.ofLines_withoutReturns]
    exact ⟨Split.ofText_statement newlineFree returnFree 1,
      Split.ofText_pending newlineFree returnFree 1⟩

/-- A mismatched bracket and a blank line before a statement and an open string, which
ends with an empty line. -/
theorem split_append_mismatch_and_open_string :
    Text.Finished "2)\n\n".toList ∧ (Split.ofText "2)\n\n".toList).pending = none ∧
      Split.ofText "2)\n\n(1\n2)\n\"a\n\n".toList =
        ⟨[⟨1, "2)".toList⟩, ⟨3, "(1\n2)".toList⟩], some ⟨5, "\"a".toList⟩⟩ ∧
      Split.ofText "(1\n2)".toList = ⟨[⟨1, "(1\n2)".toList⟩], none⟩ ∧
      Split.ofText "\"a".toList = ⟨[], some ⟨1, "\"a".toList⟩⟩ := by
  have finished : Text.Finished "2)\n\n".toList := Or.inr (by decide)
  have closed : (Split.ofText "2)\n\n".toList).pending = none := by decide
  have parts := split_append_and_stable.1 _ "(1\n2)\n\"a\n\n".toList finished closed
  obtain ⟨statements, pending⟩ := split_append_and_stable.2 "(1\n2)\n\"a\n\n".toList
  refine ⟨finished, closed, parts.trans (by decide), ?_, ?_⟩
  · exact statements ⟨1, "(1\n2)".toList⟩ (by decide)
  · exact pending ⟨3, "\"a".toList⟩ (by decide)

end StatementShell
