import StatementShell.Proofs.SplitAgreement

/-!
# Statements on the lines of a script

A split loses nothing, tells nothing twice and counts lines right.  Each statement
is written on lines of its own, from the one it is numbered with on; what is pending
begins after all of them and goes on to the end; and what neither takes up is blank.

The lines are cut off unit by unit, and a unit is a run of lines.  That a run and
the statement made of it are the same rests on the two ends of a unit: neither its
first line nor its last one is blank, unless the unit is a single blank line, so
that trimming a unit takes its one final newline and dropping a blank unit takes one
blank line.

## Main Definitions

* `Text.linesFrom`: the lines from one of a number on.
* `Statement.height`, `Statement.ownLines`: the lines that a statement takes up.
* `Statement.IsUnit`, `Statement.IsRest`: how a statement, and what is pending, is
  written in the lines of a script.
* `Split.Covers`: a split that accounts for all lines.

## Main Results

* `Split.covers_of_completedBy`: one more unit in front keeps all lines accounted
  for.
* `split_covers_lines`: the split of a script accounts for all of its lines.
-/

namespace StatementShell

/-! ### Numbered lines -/

/-- The lines from the one of a number on, where the first line has the number
`k`. -/
def Text.linesFrom (k : Nat) (lines : List Text) (number : Nat) : List Text :=
  lines.drop (number - k)

namespace Statement

/-- The number of lines of a statement. -/
def height (s : Statement) : Nat := s.text.bufferLines.length

/-- The lines that a statement takes up, where the first line has the number
`k`. -/
def ownLines (k : Nat) (lines : List Text) (s : Statement) : List Text :=
  (Text.linesFrom k lines s.line).take s.height

/-- Whether a statement takes up the line of a number. -/
def TakesUp (s : Statement) (number : Nat) : Prop :=
  s.line ≤ number ∧ number < s.line + s.height

/-- A statement is the lines it takes up, of which neither the first nor the last is
blank; with its newline it is one unit. -/
structure IsUnit (k : Nat) (lines : List Text) (s : Statement) : Prop where
  starts : k ≤ s.line
  ends : s.line + s.height ≤ k + lines.length
  text_eq : s.text = Text.join (s.ownLines k lines)
  first_nonblank : ∃ first, (s.ownLines k lines).head? = some first ∧ first.isBlank = false
  last_nonblank : ∃ last, (s.ownLines k lines).getLast? = some last ∧ last.isBlank = false
  scan_eq : scan (s.text ++ ['\n']) = .complete (s.text ++ ['\n']).byteLength

/-- What is pending is all lines from its own on, but for the empty ones at the end;
with its newline it does not complete a unit. -/
structure IsRest (k : Nat) (lines : List Text) (p : Statement) : Prop where
  starts : k ≤ p.line
  ends : p.line < k + lines.length
  text_eq : ∃ shown empty, Text.linesFrom k lines p.line = shown ++ List.replicate empty [] ∧
    shown.getLast? ≠ some [] ∧ p.text = Text.join shown
  scan_eq : scan (p.text ++ ['\n']) = .needMoreInput

end Statement

/-- A split that accounts for all lines, the first of which has the number `k`:
statements on lines of their own, in order, then what is pending, and blank lines in
between. -/
structure Split.Covers (k : Nat) (lines : List Text) (split : Split) : Prop where
  statements : ∀ s ∈ split.statements, s.IsUnit k lines
  ordered : split.statements.Pairwise fun s s' => s.line + s.height ≤ s'.line
  pending : ∀ p ∈ split.pending, p.IsRest k lines ∧
    ∀ s ∈ split.statements, s.line + s.height ≤ p.line
  skipped : ∀ i line, lines[i]? = some line → (∀ s ∈ split.statements, ¬ s.TakesUp (k + i)) →
    (∀ p ∈ split.pending, k + i < p.line) → line.isBlank = true

/-! ### Lines in front -/

variable {k : Nat} {run later : List Text}

/-- Lines in front do not change what stands on the lines after them. -/
theorem Text.linesFrom_append {number : Nat} (after : k + run.length ≤ number) :
    linesFrom k (run ++ later) number = linesFrom (k + run.length) later number := by
  have further : number - k = run.length + (number - (k + run.length)) := by omega
  rw [linesFrom, linesFrom, further, List.drop_length_add_append]

theorem Statement.IsUnit.append {s : Statement} (unit : s.IsUnit (k + run.length) later) :
    s.IsUnit k (run ++ later) := by
  obtain ⟨starts, ends, text_eq, first_nonblank, last_nonblank, scan_eq⟩ := unit
  have own : s.ownLines k (run ++ later) = s.ownLines (k + run.length) later := by
    rw [ownLines, ownLines, Text.linesFrom_append starts]
  refine ⟨by omega, ?_, own ▸ text_eq, own ▸ first_nonblank, own ▸ last_nonblank, scan_eq⟩
  rw [List.length_append]
  omega

theorem Statement.IsRest.append {p : Statement} (rest : p.IsRest (k + run.length) later) :
    p.IsRest k (run ++ later) := by
  obtain ⟨starts, ends, text_eq, scan_eq⟩ := rest
  have same : Text.linesFrom k (run ++ later) p.line =
      Text.linesFrom (k + run.length) later p.line := Text.linesFrom_append starts
  refine ⟨by omega, ?_, same ▸ text_eq, scan_eq⟩
  rw [List.length_append]
  omega

namespace Split.Covers

variable {split : Split}

/-- A line after those in front is blank if nothing takes it up. -/
theorem skipped_later (covers : split.Covers (k + run.length) later) {i : Nat} {line : Text}
    (found : (run ++ later)[i]? = some line) (further : run.length ≤ i)
    (free : ∀ s ∈ split.statements, ¬ s.TakesUp (k + i))
    (before : ∀ p ∈ split.pending, k + i < p.line) : line.isBlank = true := by
  have number : k + run.length + (i - run.length) = k + i := by omega
  rw [List.getElem?_append_right further] at found
  exact covers.skipped (i - run.length) line found (number ▸ free) (number ▸ before)

/-- Blank lines may stand in front. -/
theorem append_blank (covers : split.Covers (k + run.length) later)
    (blank : ∀ line ∈ run, line.isBlank = true) : split.Covers k (run ++ later) where
  statements s member := (covers.statements s member).append
  ordered := covers.ordered
  pending p isPending :=
    ⟨(covers.pending p isPending).1.append, (covers.pending p isPending).2⟩
  skipped i line found free before := by
    rcases Nat.lt_or_ge i run.length with inFront | further
    · rw [List.getElem?_append_left inFront] at found
      exact blank line (List.mem_of_getElem? found)
    · exact covers.skipped_later found further free before

/-- A statement may stand in front, if it takes up all lines that do. -/
theorem append_statement (covers : split.Covers (k + run.length) later) {text : Text}
    (unit : (Statement.mk k text).IsUnit k (run ++ later))
    (height : (Statement.mk k text).height = run.length) :
    (Split.mk (⟨k, text⟩ :: split.statements) split.pending).Covers k (run ++ later) where
  statements := by
    rw [List.forall_mem_cons]
    exact ⟨unit, fun s member => (covers.statements s member).append⟩
  ordered := by
    rw [List.pairwise_cons]
    refine ⟨fun s member => ?_, covers.ordered⟩
    rw [height]
    exact (covers.statements s member).starts
  pending p isPending := by
    obtain ⟨rest, after⟩ := covers.pending p isPending
    refine ⟨rest.append, ?_⟩
    rw [List.forall_mem_cons, height]
    exact ⟨rest.starts, after⟩
  skipped i line found free before := by
    rw [List.forall_mem_cons] at free
    have further : run.length ≤ i := by
      by_contra inFront
      refine free.1 ⟨by simp, ?_⟩
      rw [height]
      show k + i < k + run.length
      omega
    exact covers.skipped_later found further free.2 before

end Split.Covers

/-! ### One unit -/

theorem Text.isBlank_of_isBlank_terminated {lines : List Text}
    (isBlank : (terminated lines).isBlank = true) : ∀ line ∈ lines, line.isBlank = true := by
  intro line member
  rw [Text.isBlank, List.all_eq_true] at isBlank ⊢
  intro c inLine
  exact isBlank c (List.mem_flatMap.mpr ⟨line, member, List.mem_append_left _ inLine⟩)

/-- Lines without carriage returns. -/
def ReturnFree (lines : List Text) : Prop := ∀ line ∈ lines, '\r' ∉ line

theorem returnFree_map_withoutReturns (lines : List Text) :
    ReturnFree (lines.map Text.withoutReturns) := by
  intro line member
  obtain ⟨original, -, rfl⟩ := List.mem_map.mp member
  simp [Text.withoutReturns]

theorem Text.withoutReturns_terminated {lines : List Text} (returnFree : ReturnFree lines) :
    withoutReturns (terminated lines) = terminated lines := by
  apply withoutReturns_of_not_mem
  intro member
  obtain ⟨line, inLines, inLine⟩ := List.mem_flatMap.mp member
  rcases List.mem_append.mp inLine with own | newline
  · exact returnFree line inLines own
  · exact absurd newline (by decide)

/-- The statement made of a unit is the unit, line for line. -/
theorem CompletedBy.isUnit {init : List Text} {last : Text} (completed : CompletedBy init last)
    (newlineFree : Text.NewlineFree (init ++ [last])) (returnFree : ReturnFree (init ++ [last]))
    (nonblank : (Text.terminated (init ++ [last])).isBlank = false) (k : Nat)
    (later : List Text) :
    (Statement.mk k (Text.join (init ++ [last]))).height = (init ++ [last]).length ∧
      (Statement.mk k (Text.join (init ++ [last]))).IsUnit k (init ++ [last] ++ later) := by
  have some : init ++ [last] ≠ [] := by simp
  have height : (Statement.mk k (Text.join (init ++ [last]))).height = (init ++ [last]).length :=
    congrArg List.length (Text.bufferLines_join some newlineFree)
  have own : (Statement.mk k (Text.join (init ++ [last]))).ownLines k (init ++ [last] ++ later) =
      init ++ [last] := by
    rw [Statement.ownLines, height, Text.linesFrom, Nat.sub_self, List.drop_zero, List.take_left]
  refine ⟨height, Nat.le_refl k, ?_, ?_, ?_, ?_, ?_⟩
  · rw [height]
    exact Nat.add_le_add_left (List.prefix_append (init ++ [last]) later).length_le k
  · rw [own]
  · rw [own]
    obtain ⟨first, head⟩ := Option.isSome_iff_exists.mp (List.isSome_head?.mpr some)
    have oneLine := newlineFree first (List.mem_of_mem_head? head)
    exact ⟨first, head, completed.isBlank_first head oneLine nonblank⟩
  · rw [own]
    exact ⟨last, List.getLast?_concat, completed.isBlank_last nonblank⟩
  · show scan (Text.join (init ++ [last]) ++ ['\n']) = _
    have verdict := completed.scanLines_eq []
    rw [Text.withoutReturns_terminated returnFree] at verdict
    rw [← Text.terminated_eq_join some]
    exact verdict

/-- One more unit in front keeps all lines accounted for. -/
theorem Split.covers_of_completedBy {k : Nat} {init later : List Text} {last : Text}
    (completed : CompletedBy init last) (newlineFree : Text.NewlineFree (init ++ [last]))
    (returnFree : ReturnFree (init ++ [last]))
    (covers : (ofLines (k + (init ++ [last]).length) later).Covers
      (k + (init ++ [last]).length) later) :
    (ofLines k (init ++ last :: later)).Covers k (init ++ last :: later) := by
  have lines : init ++ last :: later = init ++ [last] ++ later := by simp
  cases nonblank : (Text.terminated (init ++ [last])).isBlank with
  | true =>
    have noStatement : statement? k (Text.terminated (init ++ [last])) = none := if_pos nonblank
    rw [ofLines_of_completedBy newlineFree completed, Text.withoutReturns_terminated returnFree,
      noStatement, lines]
    exact covers.append_blank (Text.isBlank_of_isBlank_terminated nonblank)
  | false =>
    have joined := Text.withoutReturns_terminated returnFree
    rw [Text.terminated_eq_join (by simp), Text.withoutReturns_append] at joined
    obtain ⟨height, unit⟩ := completed.isUnit newlineFree returnFree nonblank k later
    rw [ofLines_statement newlineFree completed nonblank, List.append_cancel_right joined, lines]
    exact covers.append_statement unit height

/-! ### What is left open -/

/-- Trimming terminated lines takes away the empty lines at their end. -/
theorem Text.trimEndNewlines_terminated {lines : List Text} (newlineFree : NewlineFree lines) :
    ∃ shown empty, lines = shown ++ List.replicate empty [] ∧ shown.getLast? ≠ some [] ∧
      trimEndNewlines (terminated lines) = join shown := by
  induction lines using List.reverseRecOn with
  | nil => exact ⟨[], 0, rfl, by simp, rfl⟩
  | append_singleton lines last ih =>
    rw [newlineFree_append] at newlineFree
    by_cases isEmpty : last = []
    · subst isEmpty
      obtain ⟨shown, empty, rfl, holds, text⟩ := ih newlineFree.1
      refine ⟨shown, empty + 1, ?_, holds, ?_⟩
      · rw [List.replicate_succ', List.append_assoc]
      · rw [terminated_concat, List.append_nil, trimEndNewlines_concat, text]
    · refine ⟨lines ++ [last], 0, by simp, by simpa using isEmpty, ?_⟩
      rw [terminated_concat, join_concat]
      exact trimEndNewlines_line _ (newlineFree.2 last List.mem_cons_self) isEmpty

/-- Lines in which no unit ends are what is pending. -/
theorem Statement.isRest_of_passes {lines : List Text}
    (passes : Scanner.fresh.Passes (Text.terminated lines))
    (newlineFree : Text.NewlineFree lines)
    (nonblank : (Text.terminated lines).isBlank = false) (k : Nat) :
    (Statement.mk k (Text.trimEndNewlines (Text.terminated lines))).IsRest k lines := by
  obtain ⟨shown, empty, split, holds, text⟩ := Text.trimEndNewlines_terminated newlineFree
  have someShown : shown ≠ [] := by
    rintro rfl
    have blank : ∀ c ∈ Text.terminated (List.replicate empty []), Text.isWhiteSpace c = true := by
      simp [Text.terminated]
    rw [split, List.nil_append, Text.isBlank, List.all_eq_true.mpr blank] at nonblank
    exact Bool.noConfusion nonblank
  refine ⟨Nat.le_refl k, ?_, ⟨shown, empty, ?_, holds, text⟩, ?_⟩
  · have some : 0 < lines.length := by
      have := List.length_pos_iff.mpr someShown
      rw [split, List.length_append]
      omega
    exact Nat.lt_add_of_pos_right some
  · show lines.drop (k - k) = _
    rw [Nat.sub_self, List.drop_zero, split]
  · show scan (Text.trimEndNewlines (Text.terminated lines) ++ ['\n']) = _
    rw [text, ← Text.terminated_eq_join someShown, scan, Scanner.verdict_eq_needMoreInput_iff]
    rw [split, Text.terminated_append, Scanner.passes_append] at passes
    exact passes.1

/-- Where no unit ends, all lines are pending or blank. -/
theorem Split.covers_of_passes {k : Nat} {lines : List Text}
    (passes : Scanner.fresh.Passes (Text.terminated lines))
    (newlineFree : Text.NewlineFree lines) (returnFree : ReturnFree lines) :
    (ofLines k lines).Covers k lines := by
  rw [ofLines_of_passes passes, Text.withoutReturns_terminated returnFree, statement?]
  cases nonblank : (Text.terminated lines).isBlank with
  | true =>
    rw [if_pos rfl]
    refine ⟨List.forall_mem_nil _, List.Pairwise.nil, by simp, ?_⟩
    intro i line found _ _
    exact Text.isBlank_of_isBlank_terminated nonblank line (List.mem_of_getElem? found)
  | false =>
    rw [if_neg (by decide)]
    refine ⟨List.forall_mem_nil _, List.Pairwise.nil, ?_, ?_⟩
    · rintro p ⟨⟩
      exact ⟨Statement.isRest_of_passes passes newlineFree nonblank k, List.forall_mem_nil _⟩
    · intro i line _ _ before
      have first : k + i < k := before _ rfl
      omega

/-! ### All units -/

/-- The split of lines accounts for all of them. -/
theorem Split.covers_ofLines {lines : List Text} (newlineFree : Text.NewlineFree lines) (k : Nat)
    (returnFree : ReturnFree lines) : (ofLines k lines).Covers k lines := by
  induction lines, newlineFree using unitInduction generalizing k with
  | rest lines newlineFree passes => exact covers_of_passes passes newlineFree returnFree
  | unit init last later _ _ newlineFree completed ih =>
    have split : init ++ last :: later = init ++ [last] ++ later := by simp
    rw [split, ReturnFree, List.forall_mem_append] at returnFree
    exact covers_of_completedBy completed newlineFree returnFree.1 (ih _ returnFree.2)

/-- **A split accounts for all lines of its script.**  Carriage returns left out,
every statement is one unit, written on lines of its own from the one it is numbered
with on; the statements are in order; what is pending follows them and goes on to
the end; and the lines that neither takes up are blank. -/
theorem split_covers_lines (source : Text) :
    (Split.ofText source).Covers 1 (source.lines.map Text.withoutReturns) := by
  rw [Split.ofText_eq, ← Split.ofLines_withoutReturns]
  apply Split.covers_ofLines
  · intro line member
    obtain ⟨original, inSource, rfl⟩ := List.mem_map.mp member
    exact fun newline => Text.newlineFree_lines source original inSource
      (List.mem_filter.mp newline).1
  · intro line member
    obtain ⟨original, -, rfl⟩ := List.mem_map.mp member
    simp [Text.withoutReturns]

end StatementShell
