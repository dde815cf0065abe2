import Mathlib.Data.List.Basic
import Mathlib.Data.List.Forall2
import StatementShell.Proofs.LineRanges

/-!
# What a transcript shows

The transcript is handed texts.  It does not know which lines they were cut from, nor that
there is more than one script: it numbers the texts as they come and counts their lines
itself.  This module follows a sequence of scripts through one runner, which lives on however
a script ends, and says what the transcript answers.

The count is the delicate part.  Lines are counted in the way in which a script is read, where
an empty last line is no line.  So the count is right only because the last line of a statement
is never empty: in the SQL dialect it ends with the terminator, and in the array language a
newline after an empty line ends a unit only if the newline before it did.

## Main Definitions

* `Evaluator.answered`: an evaluator with its answers on record.
* `Runner.runAll`: scripts run one after the other.
* `SegmentedAll`: the submissions of the scripts.
* `Submission.IsRun`: a submission stands in a script and is the shortest accepted run there.
* `Submission.shown`: what a transcript should show for a submission.

## Main Results

* `Segmented.isRun`: the submissions of a script are runs of its lines.
* `Submission.IsRun.entry_eq`: a transcript counts the lines of a statement.
* `runAll_transcript`: what a transcript has answered after scripts.
* `transcript_shows_statements`: the transcript tells which lines were cut.
-/

namespace StatementShell

variable {σ : Type}

/-! ### Runs of a script -/

/-- A submission stands in the script from its first line on; that line is not blank, and the
run is the shortest one that its mode accepts. -/
structure Submission.IsRun (k : Nat) (lines : List Text) (sub : Submission) : Prop where
  starts : k ≤ sub.start
  stands : sub.lines <+: Text.linesFrom k lines sub.start
  first_nonblank : ∃ first more, sub.lines = first :: more ∧ first.isBlank = false
  shortest : Shortest sub.mode.AcceptsRun sub.lines

/-- Lines in front make no difference. -/
theorem Submission.IsRun.append {k : Nat} {run later : List Text} {sub : Submission}
    (isRun : sub.IsRun (k + run.length) later) : sub.IsRun k (run ++ later) := by
  obtain ⟨starts, stands, nonblank, shortest⟩ := isRun
  refine ⟨by omega, ?_, nonblank, shortest⟩
  rwa [Text.linesFrom_append starts]

theorem isRun_of_shortest {k : Nat} {m : Mode} {line : Text} {more later : List Text}
    (nonblank : line.isBlank = false) (shortest : Shortest m.AcceptsRun (line :: more)) :
    (Submission.mk k m (line :: more)).IsRun k (line :: more ++ later) := by
  refine ⟨Nat.le_refl k, ?_, ⟨line, more, rfl, nonblank⟩, shortest⟩
  rw [Text.linesFrom, Nat.sub_self, List.drop_zero]
  exact List.prefix_append ..

/-- The submissions of a script are runs of its lines. -/
theorem Segmented.isRun {m final : Mode} {k : Nat} {lines : List Text} {subs : List Submission}
    {ending : Ending} (segmented : Segmented m k lines subs final ending) :
    ∀ sub ∈ subs, sub.IsRun k lines := by
  induction segmented with
  | finished | incomplete => simp
  | @blank _ _ k line lines _ _ _ _ ih =>
    intro sub member
    show sub.IsRun k ([line] ++ lines)
    exact (ih sub member).append
  | exit split nonblank shortest _ =>
    subst split
    intro sub member
    obtain rfl := List.mem_singleton.mp member
    exact isRun_of_shortest nonblank shortest
  | submit split nonblank shortest _ _ ih =>
    subst split
    intro sub member
    rcases List.mem_cons.mp member with rfl | member
    · exact isRun_of_shortest nonblank shortest
    · exact (ih sub member).append

/-! ### The lines of a statement -/

/-- Whether a submission goes to the evaluator. -/
def Submission.isStatement (sub : Submission) : Bool := sub.call?.isSome

/-- What a transcript should show for a submission with an ordinal. -/
def Submission.shown (sub : Submission) (ordinal : Nat) : Text :=
  "[".toList ++ sub.mode.name ++ " #".toList ++ Text.ofNat ordinal ++ ", ".toList ++
    Text.ofNat sub.lines.length ++
    (if sub.lines.length = 1 then " line]".toList else " lines]".toList) ++
    '\n' :: Text.join sub.lines

namespace Submission

variable {k : Nat} {lines : List Text} {sub : Submission}

/-- A statement is handed over as it stands, and is no system command. -/
theorem call?_of_isStatement (statement : sub.isStatement = true) :
    sub.call? = some ⟨sub.mode, sub.text⟩ ∧ isSystemCommand sub.text.bufferLines = false := by
  rw [isStatement, call?] at statement
  rw [call?]
  cases action : sub.action with
  | evaluate text => exact ⟨rfl, (dispatch_eq_evaluate_iff.mp action).2.1⟩
  | _ => simp [action] at statement

namespace IsRun

theorem newlineFree (isRun : sub.IsRun k lines) (newlineFree : Text.NewlineFree lines) :
    Text.NewlineFree sub.lines :=
  fun line member => newlineFree line (List.mem_of_mem_drop (isRun.stands.subset member))

theorem lines_ne_nil (isRun : sub.IsRun k lines) : sub.lines ≠ [] := isRun.shortest.1.1

/-- The last line of a statement is not empty. -/
theorem getLast?_ne (isRun : sub.IsRun k lines) (newlineFree : Text.NewlineFree lines)
    (statement : sub.isStatement = true) : sub.lines.getLast? ≠ some [] := by
  have ownLines := isRun.newlineFree newlineFree
  have noCommand := (call?_of_isStatement statement).2
  rw [text, Text.bufferLines_join isRun.lines_ne_nil ownLines] at noCommand
  have shortest := isRun.shortest
  cases mode : sub.mode with
  | array =>
    rw [mode] at shortest
    obtain ⟨init, last, split, completed⟩ :=
      completedBy_of_shortest ownLines noCommand shortest
    obtain ⟨first, more, spelled, nonblank⟩ := isRun.first_nonblank
    have holds := Text.isBlank_terminated_of_head nonblank more
    rw [← spelled, split] at holds
    have lastHolds := completed.isBlank_last holds
    rw [split, List.getLast?_concat]
    intro empty
    rw [Option.some.inj empty] at lastHolds
    exact Bool.noConfusion lastHolds
  | sql =>
    rw [mode] at shortest
    have accepted := (Mode.acceptsRun_iff.mp shortest.1).2
    rw [noCommand] at accepted
    intro empty
    simp [Mode.acceptsLines, empty] at accepted

/-- A transcript counts the lines of a statement. -/
theorem entry_eq (isRun : sub.IsRun k lines) (newlineFree : Text.NewlineFree lines)
    (statement : sub.isStatement = true) (ordinal : Nat) :
    Transcript.entry sub.mode ordinal sub.text = sub.shown ordinal := by
  have count : sub.text.lines.length = sub.lines.length :=
    Text.length_lines_join (isRun.newlineFree newlineFree) (isRun.getLast?_ne newlineFree statement)
      isRun.lines_ne_nil
  unfold Transcript.entry shown
  dsimp only
  rw [count]
  split <;> simp [text]

end IsRun

end Submission

/-! ### Answers on record -/

/-- What an evaluator returns for a statement. -/
abbrev Answer := Except Failure (Option Text)

/-- The evaluator that answers as the given one and keeps its answers, in order, beside the
state. -/
def Evaluator.answered (E : Evaluator σ) : Evaluator (List Answer × σ) where
  submit s mode text :=
    let (after, answer) := E.submit s.2 mode text
    ((s.1 ++ [answer], after), answer)

/-- Keeping the answers of an evaluator changes nothing else. -/
theorem Evaluator.perform_answered (E : Evaluator σ) (s : σ) (log : List Answer)
    (subs : List Submission) :
    ∃ log', E.answered.perform (log, s) subs =
      ⟨(log', (E.perform s subs).evaluator), (E.perform s subs).calls,
        (E.perform s subs).outputs, (E.perform s subs).failed⟩ := by
  induction subs generalizing s log with
  | nil => exact ⟨log, rfl⟩
  | cons sub rest ih =>
    simp only [perform]
    cases sub.call? with
    | none =>
      obtain ⟨log', performed⟩ := ih s log
      exact ⟨log', by simp only [performed, Performance.after]⟩
    | some call =>
      have answer : E.answered.submit (log, s) call.mode call.text =
          ((log ++ [(E.submit s call.mode call.text).2], (E.submit s call.mode call.text).1),
            (E.submit s call.mode call.text).2) := rfl
      simp only [answer]
      rcases E.submit s call.mode call.text with ⟨s', cause | output⟩
      · exact ⟨_, rfl⟩
      · obtain ⟨log', performed⟩ := ih s' (log ++ [.ok output])
        exact ⟨log', by simp only [performed, Performance.after]⟩

/-! ### The transcript -/

namespace Transcript

/-- The answers of a transcript to statements: what it should show for each, the ordinals
counting up from the given one. -/
def answers (ordinal : Nat) (statements : List Submission) : List Answer :=
  (statements.zipIdx ordinal).map fun numbered => .ok (some (numbered.1.shown numbered.2))

theorem answers_cons (ordinal : Nat) (sub : Submission) (later : List Submission) :
    answers ordinal (sub :: later) =
      .ok (some (sub.shown ordinal)) :: answers (ordinal + 1) later := rfl

theorem answers_append (ordinal : Nat) (statements later : List Submission) :
    answers ordinal (statements ++ later) =
      answers ordinal statements ++ answers (ordinal + statements.length) later := by
  rw [answers, List.zipIdx_append, List.map_append]
  rfl

theorem length_answers (ordinal : Nat) (statements : List Submission) :
    (answers ordinal statements).length = statements.length := by
  simp [answers]

theorem getElem?_answers (ordinal : Nat) (statements : List Submission) (i : Nat) :
    (answers ordinal statements)[i]? =
      statements[i]?.map fun sub => .ok (some (sub.shown (ordinal + i))) := by
  simp [answers, Function.comp_def]

end Transcript

/-- The transcript answers the statements among submissions, and counts them. -/
theorem perform_transcript {k : Nat} {lines : List Text} (newlineFree : Text.NewlineFree lines)
    {subs : List Submission} (areRuns : ∀ sub ∈ subs, sub.IsRun k lines) (log : List Answer)
    (n : Nat) :
    (transcript.answered.perform (log, ⟨n⟩) subs).evaluator =
      (log ++ Transcript.answers (n + 1) (subs.filter Submission.isStatement),
        ⟨n + (subs.filter Submission.isStatement).length⟩) := by
  induction subs generalizing log n with
  | nil => simp [Evaluator.perform, Transcript.answers]
  | cons sub rest ih =>
    obtain ⟨isRun, areRuns⟩ := List.forall_mem_cons.mp areRuns
    rw [Evaluator.perform]
    by_cases statement : sub.isStatement = true
    · have shown : Transcript.entry sub.mode (n + 1) sub.text = sub.shown (n + 1) :=
        isRun.entry_eq newlineFree statement (n + 1)
      have answer : transcript.answered.submit (log, ⟨n⟩) sub.mode sub.text =
          ((log ++ [.ok (some (sub.shown (n + 1)))], ⟨n + 1⟩),
            .ok (some (sub.shown (n + 1)))) := by
        rw [← shown]
        rfl
      have count (others : Nat) : n + 1 + others = n + (others + 1) := by omega
      rw [List.filter_cons_of_pos statement, (sub.call?_of_isStatement statement).1]
      simp only [answer, Performance.after, ih areRuns, Transcript.answers_cons, List.append_assoc,
        List.singleton_append, List.length_cons, count]
    · have noCall : sub.call? = none := by simpa [Submission.isStatement] using statement
      rw [List.filter_cons_of_neg statement, noCall]
      exact ih areRuns log n

theorem neverFails_transcript_answered : transcript.answered.NeverFails :=
  fun _ _ _ => ⟨_, _, rfl⟩

/-! ### Scripts one after the other -/

/-- Runs scripts one after the other.  The runner lives on however a script ends. -/
def Runner.runAll (E : Evaluator σ) (r : Runner σ) :
    List Text → Runner σ × List (Except Failure Report)
  | [] => (r, [])
  | source :: later =>
    let (after, result) := r.run E source
    let (final, results) := after.runAll E later
    (final, result :: results)

/-- The submissions of scripts that are run one after the other, and the mode after the last
one, if no statement is refused. -/
inductive SegmentedAll : Mode → List Text → List (List Submission) → Mode → Prop where
  | nil {m : Mode} : SegmentedAll m [] [] m
  | cons {m mid final : Mode} {source : Text} {sources : List Text} {subs : List Submission}
      {runs : List (List Submission)} {ending : Ending}
      (first : Segmented m 1 source.lines subs mid ending)
      (later : SegmentedAll mid sources runs final) :
      SegmentedAll m (source :: sources) (subs :: runs) final

theorem exists_segmentedAll (m : Mode) (sources : List Text) :
    ∃ runs final, SegmentedAll m sources runs final := by
  induction sources generalizing m with
  | nil => exact ⟨[], m, .nil⟩
  | cons source sources ih =>
    obtain ⟨subs, mid, ending, first⟩ := exists_segmented m 1 source.lines
    obtain ⟨runs, final, later⟩ := ih mid
    exact ⟨subs :: runs, final, .cons first later⟩

namespace SegmentedAll

variable {m final : Mode} {sources : List Text} {runs : List (List Submission)}

theorem unique {runs' : List (List Submission)} {final' : Mode}
    (segmented : SegmentedAll m sources runs final)
    (segmented' : SegmentedAll m sources runs' final') : runs' = runs ∧ final' = final := by
  induction segmented generalizing runs' with
  | nil =>
    cases segmented'
    exact ⟨rfl, rfl⟩
  | cons first _ ih =>
    cases segmented' with
    | cons first' later' =>
      obtain ⟨rfl, rfl, -⟩ := first.unique first'
      obtain ⟨rfl, rfl⟩ := ih later'
      exact ⟨rfl, rfl⟩

/-- The submissions of each script are runs of its lines. -/
theorem isRun (segmented : SegmentedAll m sources runs final) :
    List.Forall₂ (fun source subs => ∀ sub ∈ subs, sub.IsRun 1 source.lines) sources runs := by
  induction segmented with
  | nil => exact .nil
  | cons first _ ih => exact .cons first.isRun ih

end SegmentedAll

/-- The statements among the submissions of scripts. -/
def statementsOf (runs : List (List Submission)) : List Submission :=
  runs.flatten.filter Submission.isStatement

/-- What a transcript has answered after scripts, given what it had answered before. -/
theorem runAll_transcript {m final : Mode} {sources : List Text} {runs : List (List Submission)}
    (segmented : SegmentedAll m sources runs final) (log : List Answer) (n : Nat) :
    (Runner.runAll transcript.answered ⟨m, (log, ⟨n⟩)⟩ sources).1 =
      ⟨final, (log ++ Transcript.answers (n + 1) (statementsOf runs),
        ⟨n + (statementsOf runs).length⟩)⟩ := by
  induction segmented generalizing log n with
  | nil => simp [Runner.runAll, statementsOf, Transcript.answers]
  | @cons m mid final source sources subs runs ending first _ ih =>
    have performed := run_performs transcript.answered (log, ⟨n⟩) first
    have answered := perform_transcript (Text.newlineFree_lines source) first.isRun log n
    have mode : (transcript.answered.perform (log, ⟨n⟩) subs).mode mid = mid := by
      rw [Performance.mode, neverFails_transcript_answered.perform]
    rw [mode, answered] at performed
    simp only [Runner.runAll, performed]
    rw [ih]
    have parts : statementsOf (subs :: runs) =
        subs.filter Submission.isStatement ++ statementsOf runs := by
      simp [statementsOf]
    have ordinal (others : Nat) : n + others + 1 = n + 1 + others := by omega
    rw [parts, Transcript.answers_append, List.length_append, List.append_assoc, ordinal,
      ← Nat.add_assoc]

/-- Keeping the answers changes no result. -/
theorem runAll_answered (E : Evaluator σ) (m : Mode) (s : σ) (log : List Answer)
    (sources : List Text) :
    (Runner.runAll E.answered ⟨m, (log, s)⟩ sources).2 = (Runner.runAll E ⟨m, s⟩ sources).2 := by
  induction sources generalizing m s log with
  | nil => rfl
  | cons source sources ih =>
    obtain ⟨subs, final, ending, segmented⟩ := exists_segmented m 1 source.lines
    obtain ⟨log', performed⟩ := E.perform_answered s log subs
    have run := run_performs E s segmented
    have runAnswered := run_performs E.answered (log, s) segmented
    rw [performed] at runAnswered
    simp only [Runner.runAll, run, runAnswered]
    rw [← ih _ _ log']
    rfl

/-- **The transcript tells which lines were cut.**  Scripts are run one after the other by one
runner with one transcript, which both live on however a script ends.  The scripts have one
segmentation, each submission of which is a run of the lines of its script.  The answers of the
transcript are those to the statements among them: the one with the index `i` gives the ordinal
`i + 1`, the mode in which the statement was submitted, the number of its lines, and these
lines. -/
theorem transcript_shows_statements (m : Mode) (sources : List Text) :
    ∃ runs final, SegmentedAll m sources runs final ∧
      (∀ runs' final', SegmentedAll m sources runs' final' → runs' = runs ∧ final' = final) ∧
      List.Forall₂ (fun source subs => ∀ sub ∈ subs, sub.IsRun 1 source.lines) sources runs ∧
      ∃ log, (Runner.runAll transcript.answered ⟨m, ([], .empty)⟩ sources).1 =
          ⟨final, (log, ⟨log.length⟩)⟩ ∧
        (Runner.runAll transcript.answered ⟨m, ([], .empty)⟩ sources).2 =
          (Runner.runAll transcript ⟨m, .empty⟩ sources).2 ∧
        ∀ i : Nat, log[i]? =
          (statementsOf runs)[i]?.map fun sub => .ok (some (sub.shown (i + 1))) := by
  obtain ⟨runs, final, segmented⟩ := exists_segmentedAll m sources
  have answered := runAll_transcript segmented [] 0
  refine ⟨runs, final, segmented, fun _ _ => segmented.unique, segmented.isRun,
    Transcript.answers 1 (statementsOf runs), ?_, runAll_answered .., ?_⟩
  · rw [Transcript.length_answers]
    rwa [List.nil_append, Nat.zero_add, Nat.zero_add] at answered
  · intro i
    rw [Transcript.getElem?_answers, Nat.add_comm]

/-- A script that switches the mode between two statements and leaves a third one open, and one
that exits before its last line. -/
example :
    (Runner.runAll transcript.answered ⟨.array, ([], .empty)⟩
        ["(1;\n\n2)\n)sql\nx;\ny".toList, "\ny\r\nz;\n)exit\n4;".toList]).1.evaluator =
      ([.ok (some "[array #1, 3 lines]\n(1;\n\n2)".toList),
        .ok (some "[sql #2, 1 line]\nx;".toList),
        .ok (some "[sql #3, 2 lines]\ny\nz;".toList)], ⟨3⟩) := rfl

end StatementShell
