import Mathlib.Data.List.Basic
import StatementShell.Proofs.LineBoundaries
import StatementShell.Proofs.Performance
import StatementShell.Statement

/-!
# The two ways of cutting a script

A script of the array language is cut into statements twice over.  The runner
collects lines and scans all of them afresh whenever one is added; the splitter
scans the whole script once and starts afresh at every boundary.  The two agree
on scripts without system commands, which the splitter knows nothing about.

What makes them agree is that a unit ends with a line.  The runs that the runner
submits are then the units that the splitter cuts off, except for the blank lines
before a run: the runner drops them, while each of them is a unit of its own that
the splitter drops afterwards.  Both count the lines of what they drop.

## Main Definitions

* `NoCommand`: no line spells a system command.
* `Split.ofLines`: the split of lines, the first of which has a number.
* `Agrees`: a segmentation and a split tell of the same statements.

## Main Results

* `Segmented.agrees`: the segmentation of a script agrees with its split.
* `run_agrees_with_split`: the calls and the end of a run agree with the split.
-/

namespace StatementShell

/-! ### Scripts without system commands -/

/-- No line spells a system command. -/
def NoCommand (lines : List Text) : Prop :=
  ∀ line ∈ lines, line.head? ≠ some Lexis.systemCommandMark

theorem noCommand_cons {line : Text} {lines : List Text} :
    NoCommand (line :: lines) ↔
      line.head? ≠ some Lexis.systemCommandMark ∧ NoCommand lines := by
  simp [NoCommand]

theorem noCommand_append {lines later : List Text} :
    NoCommand (lines ++ later) ↔ NoCommand lines ∧ NoCommand later := by
  simp only [NoCommand, List.mem_append, or_imp, forall_and]

theorem isSystemCommand_of_noCommand {run : List Text} (noCommand : NoCommand run) :
    isSystemCommand run = false := by
  match run with
  | [] => rfl
  | [line] => simpa [isSystemCommand] using noCommand line List.mem_cons_self
  | _ :: _ :: _ => rfl

/-- A run that is no system command goes to the evaluator. -/
theorem action_of_noCommand {k : Nat} {m : Mode} {line : Text} {more : List Text}
    (newlineFree : Text.NewlineFree (line :: more)) (noCommand : NoCommand (line :: more))
    (nonblank : line.isBlank = false) :
    (Submission.mk k m (line :: more)).action =
      .evaluate (Submission.mk k m (line :: more)).text := by
  have holds : (Submission.mk k m (line :: more)).text.isBlank = false :=
    Text.isBlank_join_of_head nonblank more
  have pieces : (Submission.mk k m (line :: more)).text.bufferLines = line :: more :=
    Text.bufferLines_join (by simp) newlineFree
  unfold Submission.action dispatch Command.ofBuffer?
  rw [if_neg (by simp [holds]), pieces, isSystemCommand_of_noCommand noCommand]
  rfl

/-- The shortest accepted run that is no system command is the first unit. -/
theorem completedBy_of_shortest {run : List Text} (newlineFree : Text.NewlineFree run)
    (noCommand : isSystemCommand run = false) (shortest : Shortest Mode.array.AcceptsRun run) :
    ∃ init last, run = init ++ [last] ∧ CompletedBy init last := by
  have isComplete : (scanLines run).isComplete = true := by
    have accepted := (Mode.acceptsRun_iff.mp shortest.1).2
    rw [noCommand] at accepted
    exact accepted.resolve_left Bool.false_ne_true
  obtain ⟨init, last, tail, split, completed⟩ :=
    (scanLines_isComplete_iff newlineFree).mp isComplete
  -- The unit is accepted itself, so the run cannot go on after it.
  have accepted : Mode.array.AcceptsRun (init ++ [last]) :=
    Mode.acceptsRun_iff.mpr ⟨by simp, Or.inr (completed.isComplete [])⟩
  have front : init ++ [last] <+: run := ⟨tail, by rw [split]; simp⟩
  exact ⟨init, last, (shortest.2 _ front accepted).symm, completed⟩

/-- Where no run is accepted no unit ends. -/
theorem passes_of_noRun {lines : List Text} (newlineFree : Text.NewlineFree lines)
    (noRun : ∀ run, run <+: lines → ¬ Mode.array.AcceptsRun run) :
    Scanner.fresh.Passes (Text.terminated lines) := by
  rcases passes_or_completedBy newlineFree with passes | ⟨init, last, tail, rfl, completed⟩
  · exact passes
  · exfalso
    refine noRun (init ++ [last]) ⟨tail, by simp⟩ ?_
    exact Mode.acceptsRun_iff.mpr ⟨by simp, Or.inr (completed.isComplete [])⟩

/-! ### The split of lines -/

/-- The split of lines, the first of which has a number. -/
def Split.ofLines (k : Nat) (lines : List Text) : Split :=
  number k (cut (Text.terminated lines)).units (cut (Text.terminated lines)).last.consumed

theorem Split.ofText_eq (source : Text) : Split.ofText source = ofLines 1 source.lines := rfl

/-- The statement that a submission holds. -/
def Submission.statement (sub : Submission) : Statement :=
  ⟨sub.start, Text.withoutReturns sub.text⟩

namespace Split

variable {k : Nat} {line : Text} {more lines later : List Text}

/-- The unit that is cut off is a statement unless it is blank. -/
theorem ofLines_of_completedBy {init : List Text} {last : Text}
    (newlineFree : Text.NewlineFree (init ++ [last])) (completed : CompletedBy init last) :
    ofLines k (init ++ last :: later) =
      ⟨(statement? k (Text.withoutReturns (Text.terminated (init ++ [last])))).toList ++
        (ofLines (k + (init ++ [last]).length) later).statements,
        (ofLines (k + (init ++ [last]).length) later).pending⟩ := by
  have newlines : (Text.withoutReturns (Text.terminated (init ++ [last]))).count '\n' =
      (init ++ [last]).length := by
    rw [Text.count_newline_withoutReturns, Text.count_newline_terminated newlineFree]
  rw [ofLines, completed.cut_eq, number, newlines]
  rfl

/-- A blank line makes no statement. -/
theorem ofLines_blank (oneLine : '\n' ∉ line) (isBlank : line.isBlank = true) :
    ofLines k (line :: lines) = ofLines (k + 1) lines := by
  have unit : (Text.withoutReturns (Text.terminated [line])).isBlank = true := by
    rw [Text.isBlank_withoutReturns]
    unfold Text.isBlank at isBlank ⊢
    simp [isBlank]
  have newlineFree : Text.NewlineFree ([] ++ [line]) := by
    simpa [Text.NewlineFree] using oneLine
  have cutOff : ofLines k ([] ++ line :: lines) = _ :=
    ofLines_of_completedBy newlineFree (completedBy_of_isBlank oneLine isBlank)
  rw [List.nil_append, List.nil_append, statement?, if_pos unit] at cutOff
  exact cutOff

/-- A unit that is not blank makes a statement, which is the unit without its final
newline. -/
theorem ofLines_statement {init : List Text} {last : Text}
    (newlineFree : Text.NewlineFree (init ++ [last])) (completed : CompletedBy init last)
    (nonblank : (Text.terminated (init ++ [last])).isBlank = false) :
    ofLines k (init ++ last :: later) =
      ⟨⟨k, Text.withoutReturns (Text.join (init ++ [last]))⟩ ::
        (ofLines (k + (init ++ [last]).length) later).statements,
        (ofLines (k + (init ++ [last]).length) later).pending⟩ := by
  have unit : statement? k (Text.withoutReturns (Text.terminated (init ++ [last]))) =
      some ⟨k, Text.withoutReturns (Text.join (init ++ [last]))⟩ := by
    rw [statement?, Text.isBlank_withoutReturns, if_neg (ne_true_of_eq_false nonblank),
      completed.trimEndNewlines_unit (newlineFree last (by simp)) nonblank]
  rw [ofLines_of_completedBy newlineFree completed, unit]
  rfl

/-- A submitted run makes a statement. -/
theorem ofLines_submission (newlineFree : Text.NewlineFree (line :: more))
    (noCommand : NoCommand (line :: more)) (nonblank : line.isBlank = false)
    (shortest : Shortest Mode.array.AcceptsRun (line :: more)) :
    ofLines k (line :: more ++ later) =
      ⟨(Submission.mk k .array (line :: more)).statement ::
        (ofLines (k + (line :: more).length) later).statements,
        (ofLines (k + (line :: more).length) later).pending⟩ := by
  obtain ⟨init, last, split, completed⟩ :=
    completedBy_of_shortest newlineFree (isSystemCommand_of_noCommand noCommand) shortest
  -- The run is the unit that is cut off.
  have holds := Text.isBlank_terminated_of_head nonblank more
  rw [split] at newlineFree holds
  have cutOff : ofLines k (init ++ last :: later) = _ :=
    ofLines_statement newlineFree completed holds
  rw [← split] at cutOff
  rw [split, List.append_assoc, List.singleton_append, cutOff, ← split]
  rfl

/-- Lines in which no unit ends are pending, unless they are blank. -/
theorem ofLines_of_passes (passes : Scanner.fresh.Passes (Text.terminated lines)) :
    ofLines k lines = ⟨[], statement? k (Text.withoutReturns (Text.terminated lines))⟩ := by
  rw [ofLines, cut, Scanner.cut_of_passes passes, number, Scanner.consumed_feed]
  rfl

theorem ofLines_pending (nonblank : line.isBlank = false)
    (passes : Scanner.fresh.Passes (Text.terminated (line :: lines))) :
    ∃ text, ofLines k (line :: lines) = ⟨[], some ⟨k, text⟩⟩ := by
  have holds : (Text.withoutReturns (Text.terminated (line :: lines))).isBlank = false := by
    rw [Text.isBlank_withoutReturns]
    exact Text.isBlank_terminated_of_head nonblank _
  refine ⟨Text.trimEndNewlines (Text.withoutReturns (Text.terminated (line :: lines))), ?_⟩
  rw [ofLines_of_passes passes, statement?, if_neg (ne_true_of_eq_false holds)]

/-- Carriage returns do not count in a split. -/
theorem ofLines_withoutReturns (k : Nat) (lines : List Text) :
    ofLines k (lines.map Text.withoutReturns) = ofLines k lines := by
  rw [ofLines, ofLines, Text.terminated_map_withoutReturns, cut, Scanner.cut_withoutReturns]
  rfl

end Split

/-! ### Agreement -/

/-- How a script ends, given what is pending after its last statement. -/
def Ending.ofPending : Option Statement → Ending
  | none => .finished
  | some pending => .incomplete pending.line

/-- A segmentation and a split tell of the same statements. -/
structure Agrees (subs : List Submission) (final : Mode) (ending : Ending)
    (split : Split) : Prop where
  statements : split.statements = subs.map Submission.statement
  calls : ∀ sub ∈ subs, sub.call? = some ⟨.array, sub.text⟩
  staysArray : final = .array
  ending_eq : ending = .ofPending split.pending

/-- The segmentation of a script agrees with its split. -/
theorem Segmented.agrees {m final : Mode} {k : Nat} {lines : List Text}
    {subs : List Submission} {ending : Ending} (segmented : Segmented m k lines subs final ending)
    (isArray : m = .array) (newlineFree : Text.NewlineFree lines)
    (noCommand : NoCommand lines) : Agrees subs final ending (Split.ofLines k lines) := by
  induction segmented with
  | finished => exact ⟨rfl, List.forall_mem_nil _, isArray, rfl⟩
  | blank isBlank _ ih =>
    rw [Text.newlineFree_cons] at newlineFree
    rw [noCommand_cons] at noCommand
    rw [Split.ofLines_blank newlineFree.1 isBlank]
    exact ih isArray newlineFree.2 noCommand.2
  | @incomplete m k line lines nonblank noRun =>
    subst isArray
    obtain ⟨text, pending⟩ :=
      Split.ofLines_pending (k := k) nonblank (passes_of_noRun newlineFree noRun)
    rw [pending]
    exact ⟨rfl, List.forall_mem_nil _, rfl, rfl⟩
  | exit split nonblank shortest leaves =>
    rw [split, Text.newlineFree_append] at newlineFree
    rw [split, noCommand_append] at noCommand
    rw [action_of_noCommand newlineFree.1 noCommand.1 nonblank] at leaves
    cases leaves
  | @submit m final k line more later lines subs ending split nonblank shortest stays rest ih =>
    subst isArray
    rw [split, Text.newlineFree_append] at newlineFree
    rw [split, noCommand_append] at noCommand
    have evaluates := action_of_noCommand (k := k) (m := .array) newlineFree.1 noCommand.1 nonblank
    have staysArray : (Submission.mk k .array (line :: more)).modeAfter = .array := by
      unfold Submission.modeAfter
      rw [evaluates]
    have call : (Submission.mk k .array (line :: more)).call? =
        some ⟨.array, (Submission.mk k .array (line :: more)).text⟩ := by
      unfold Submission.call?
      rw [evaluates]
    have agrees := ih staysArray newlineFree.2 noCommand.2
    rw [split, Split.ofLines_submission newlineFree.1 noCommand.1 nonblank shortest]
    refine ⟨?_, ?_, agrees.staysArray, agrees.ending_eq⟩
    · rw [List.map_cons, ← agrees.statements]
    · rw [List.forall_mem_cons]
      exact ⟨call, agrees.calls⟩

/-- On a script without system commands the runner and the splitter agree: the
calls are the statements, one for one, and the run ends inside a statement when
one is pending.  An evaluator that refuses the call for a statement fails the run
at the line of that statement. -/
theorem run_agrees_with_split (source : Text) (noCommand : NoCommand source.lines) :
    ∃ calls : List Call,
      (calls.map fun call => (call.mode, Text.withoutReturns call.text)) =
          ((Split.ofText source).statements.map fun statement => (Mode.array, statement.text)) ∧
        ∀ (σ : Type) (E : Evaluator σ) (s : σ),
          (E.NeverFails →
            (Runner.run E.recorded ⟨.array, ([], s)⟩ source).1.evaluator.1 = calls ∧
              match (Split.ofText source).pending with
              | some pending =>
                (Runner.run E ⟨.array, s⟩ source).2 =
                  .error (.script (.incomplete pending.line Mode.array.name))
              | none =>
                ∃ outputs, (Runner.run E ⟨.array, s⟩ source).2 =
                  .ok ⟨(Split.ofText source).statements.length, outputs, .array, false⟩) ∧
            ∀ earlier call later t t' cause, calls = earlier ++ call :: later →
              E.Answers s earlier t → E.submit t call.mode call.text = (t', .error cause) →
                ∃ statement, (Split.ofText source).statements[earlier.length]? = some statement ∧
                  (Runner.run E ⟨.array, s⟩ source).2 = .error (.atLine statement.line cause) := by
  obtain ⟨subs, final, ending, segmented⟩ := exists_segmented .array 1 source.lines
  have agrees := segmented.agrees rfl (Text.newlineFree_lines source) noCommand
  rw [← Split.ofText_eq] at agrees
  have filtered := List.filterMap_eq_map_iff_forall_eq_some.mpr agrees.calls
  refine ⟨subs.filterMap Submission.call?, ?_, ?_⟩
  · rw [filtered, agrees.statements, List.map_map, List.map_map]
    rfl
  intro σ E s
  have run_eq : (Runner.run E ⟨.array, s⟩ source).2 = (E.perform s subs).result final ending := by
    rw [run_performs E s segmented]
  refine ⟨?_, ?_⟩
  · intro neverFails
    have succeeds := neverFails.perform s subs
    have calls := Evaluator.calls_of_succeeds succeeds
    refine ⟨?_, ?_⟩
    · rw [run_recorded_performs E s segmented]
      exact calls
    · rw [run_eq, agrees.ending_eq, agrees.staysArray]
      unfold Performance.result
      rw [succeeds]
      cases (Split.ofText source).pending with
      | some pending => rfl
      | none =>
        refine ⟨(E.perform s subs).outputs, ?_⟩
        rw [calls, filtered, agrees.statements, List.length_map, List.length_map]
        rfl
  · intro earlier call later t t' cause cutCalls answers refused
    rw [filtered] at cutCalls
    obtain ⟨before, after, rfl, rfl, rest⟩ := List.map_eq_append_iff.mp cutCalls
    obtain ⟨sub, after, rfl, rfl, rfl⟩ := List.map_eq_cons_iff.mp rest
    have callsBefore := agrees.calls
    rw [List.forall_mem_append, List.forall_mem_cons] at callsBefore
    rw [← List.filterMap_eq_map_iff_forall_eq_some.mpr callsBefore.1] at answers
    have fails : (E.perform s (before ++ sub :: after)).failed = some (sub, cause) :=
      E.perform_fails answers callsBefore.2.1 refused
    refine ⟨sub.statement, ?_, ?_⟩
    · rw [agrees.statements]
      simp
    · rw [run_eq]
      unfold Performance.result
      rw [fails]
      rfl

/-- Two statements, a blank line between them, and a bracket left open. -/
theorem run_of_two_statements_and_open_bracket :
    NoCommand (Text.lines "1\r+2\r\n \n(3;\n4)\n(5".toList) ∧
      (Runner.run transcript ⟨.array, .empty⟩ "1\r+2\r\n \n(3;\n4)\n(5".toList).2 =
        .error (.script (.incomplete 5 Mode.array.name)) := by
  have noCommand : NoCommand (Text.lines "1\r+2\r\n \n(3;\n4)\n(5".toList) := by
    unfold NoCommand
    decide
  have neverFails : transcript.NeverFails := fun _ _ _ => ⟨_, _, rfl⟩
  have pending : (Split.ofText "1\r+2\r\n \n(3;\n4)\n(5".toList).pending =
      some ⟨5, "(5".toList⟩ := by decide
  obtain ⟨calls, -, agree⟩ := run_agrees_with_split _ noCommand
  have ends := ((agree Transcript transcript .empty).1 neverFails).2
  rw [pending] at ends
  exact ⟨noCommand, ends⟩

end StatementShell
