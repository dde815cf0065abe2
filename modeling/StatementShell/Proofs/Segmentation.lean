import StatementShell.Proofs.Shortest
import StatementShell.Script

/-!
# The segmentation of a script

A script falls into runs of lines, each of which is submitted at once.  Which
lines form a run depends on the active mode and on nothing else: blank lines
before a run are dropped, and the run is the shortest one that the rule of the
mode accepts with the cursor on its last line.  A mode switch holds from the next
line on.  The evaluator has no part in this, so the segmentation is a property of
the script alone, and what an evaluator makes of it is told apart.

## Main Definitions

* `Submission`: a run of lines, with the line on which it starts and the mode in
  which it is submitted.
* `Mode.AcceptsRun`: a run of lines that the rule of a mode accepts.
* `Segmented`: the submissions of a script, the mode at its end, and how it ends.

## Main Results

* `exists_segmented`, `Segmented.unique`: every script has one segmentation.
-/

namespace StatementShell

/-! ### Submissions -/

/-- A buffer that goes to the evaluator goes there as it stands. -/
theorem text_of_dispatch {m : Mode} {buffer text : Text}
    (evaluates : dispatch m buffer = .evaluate text) : text = buffer :=
  (dispatch_eq_evaluate_iff.mp evaluates).2.2

/-- A run of lines that is submitted at once. -/
structure Submission where
  /-- The number of the first line. -/
  start : Nat
  /-- The mode that is active when the run is submitted. -/
  mode : Mode
  lines : List Text
  deriving DecidableEq, Repr

namespace Submission

/-- The text that is submitted. -/
def text (sub : Submission) : Text := Text.join sub.lines

/-- What is done with it. -/
def action (sub : Submission) : Action := dispatch sub.mode sub.text

/-- The mode that holds from the next line on. -/
def modeAfter (sub : Submission) : Mode :=
  match sub.action with
  | .switchMode mode => mode
  | _ => sub.mode

/-- The call that hands the text to the evaluator, if it goes there. -/
def call? (sub : Submission) : Option Call :=
  match sub.action with
  | .evaluate _ => some ⟨sub.mode, sub.text⟩
  | _ => none

/-- The message that is shown, if there is one. -/
def message? (sub : Submission) : Option Text :=
  match sub.action with
  | .message text => some text
  | _ => none

end Submission

/-! ### Runs of lines -/

/-- The rule of a mode accepts a run of lines, the cursor being on the last. -/
def Mode.AcceptsRun (m : Mode) (run : List Text) : Prop :=
  run ≠ [] ∧ m.accepts run (run.length - 1) = true

/-- A run is accepted as a system command or by the rule of the language. -/
theorem Mode.acceptsRun_iff {m : Mode} {run : List Text} :
    m.AcceptsRun run ↔ run ≠ [] ∧ (isSystemCommand run = true ∨ m.acceptsLines run = true) := by
  unfold Mode.AcceptsRun Mode.accepts
  refine and_congr_right ?_
  intro some
  have onLast : run.length - 1 + 1 = run.length := by
    have positive := List.length_pos_iff.mpr some
    omega
  rw [onLast, beq_self_eq_true, Bool.true_and, Bool.or_eq_true]

section

variable {m : Mode} {opened lines more : List Text} {line next : Text}

theorem Mode.acceptsRun_concat :
    m.AcceptsRun (opened ++ [line]) ↔
      m.accepts (opened ++ [line]) opened.length = true := by
  unfold Mode.AcceptsRun
  rw [List.length_append, List.length_singleton, Nat.add_sub_cancel]
  exact and_iff_right (by simp)

/-- A run that is shorter than the shortest accepted one is not accepted. -/
theorem rejects_of_shortest (shortest : Shortest m.AcceptsRun (opened ++ line :: next :: more)) :
    ¬ m.accepts (opened ++ [line]) opened.length = true := by
  intro accepted
  have front : opened ++ [line] <+: opened ++ line :: next :: more := ⟨next :: more, by simp⟩
  have same := shortest.2 _ front (Mode.acceptsRun_concat.mpr accepted)
  simp at same

theorem rejects_of_noRun
    (noRun : ∀ run, run <+: opened ++ line :: lines → opened.length < run.length →
      ¬ m.AcceptsRun run) :
    ¬ m.accepts (opened ++ [line]) opened.length = true := by
  intro accepted
  exact noRun (opened ++ [line]) ⟨lines, by simp⟩ (by simp) (Mode.acceptsRun_concat.mpr accepted)

end

/-! ### Segmentations -/

/-- How a script ends. -/
inductive Ending where
  /-- All its lines were submitted or blank. -/
  | finished
  /-- An exit command was submitted. -/
  | exited
  /-- The lines from the one of a number on are not accepted. -/
  | incomplete (start : Nat)
  deriving DecidableEq, Repr

/-- The lines of a script, the first of which has a number, in a mode: the runs
that are submitted in order, the mode at the end, and how the script ends. -/
inductive Segmented : Mode → Nat → List Text → List Submission → Mode → Ending → Prop where
  | finished {m : Mode} {k : Nat} : Segmented m k [] [] m .finished
  /-- A blank line before a run is dropped. -/
  | blank {m final : Mode} {k : Nat} {line : Text} {lines : List Text}
      {subs : List Submission} {ending : Ending} (isBlank : line.isBlank = true)
      (rest : Segmented m (k + 1) lines subs final ending) :
      Segmented m k (line :: lines) subs final ending
  /-- No run is accepted. -/
  | incomplete {m : Mode} {k : Nat} {line : Text} {lines : List Text}
      (nonblank : line.isBlank = false)
      (noRun : ∀ run, run <+: line :: lines → ¬ m.AcceptsRun run) :
      Segmented m k (line :: lines) [] m (.incomplete k)
  /-- A run that is an exit command is the last thing looked at. -/
  | exit {m : Mode} {k : Nat} {line : Text} {more later lines : List Text}
      (split : lines = line :: more ++ later) (nonblank : line.isBlank = false)
      (shortest : Shortest m.AcceptsRun (line :: more))
      (leaves : (Submission.mk k m (line :: more)).action = .exit) :
      Segmented m k lines [⟨k, m, line :: more⟩] m .exited
  /-- After any other run the next line is the first of the rest. -/
  | submit {m final : Mode} {k : Nat} {line : Text} {more later lines : List Text}
      {subs : List Submission} {ending : Ending} (split : lines = line :: more ++ later)
      (nonblank : line.isBlank = false) (shortest : Shortest m.AcceptsRun (line :: more))
      (stays : (Submission.mk k m (line :: more)).action ≠ .exit)
      (rest : Segmented (Submission.mk k m (line :: more)).modeAfter (k + (line :: more).length)
        later subs final ending) :
      Segmented m k lines (⟨k, m, line :: more⟩ :: subs) final ending

/-- Every script has a segmentation. -/
theorem exists_segmented (m : Mode) (k : Nat) (lines : List Text) :
    ∃ subs final ending, Segmented m k lines subs final ending := by
  induction length : lines.length using Nat.strongRecOn generalizing m k lines with
  | ind n ih =>
    cases lines with
    | nil => exact ⟨[], m, .finished, .finished⟩
    | cons line lines =>
      rw [List.length_cons] at length
      by_cases isBlank : line.isBlank = true
      · obtain ⟨subs, final, ending, rest⟩ := ih lines.length (by omega) m (k + 1) lines rfl
        exact ⟨subs, final, ending, .blank isBlank rest⟩
      · have nonblank : line.isBlank = false := by simpa using isBlank
        -- Some run is accepted, and then a shortest one, or the script is incomplete.
        by_cases some : ∃ run, run <+: line :: lines ∧ m.AcceptsRun run
        · obtain ⟨run, front, accepted⟩ := some
          obtain ⟨shortest, within, isShortest⟩ := exists_shortest accepted
          obtain ⟨later, split⟩ := within.trans front
          cases shortest with
          | nil => exact absurd rfl isShortest.1.1
          | cons head more =>
            obtain ⟨rfl, tails⟩ : head = line ∧ more ++ later = lines := List.cons.inj split
            by_cases leaves : (Submission.mk k m (head :: more)).action = .exit
            · exact ⟨_, m, .exited, .exit split.symm nonblank isShortest leaves⟩
            · rw [← tails, List.length_append] at length
              obtain ⟨subs, final, ending, rest⟩ := ih later.length (by omega)
                (Submission.mk k m (head :: more)).modeAfter (k + (head :: more).length) later rfl
              exact ⟨_, final, ending, .submit split.symm nonblank isShortest leaves rest⟩
        · push Not at some
          exact ⟨[], m, .incomplete k, .incomplete nonblank some⟩

/-- Two runs that a script submits first are one. -/
theorem shortest_cons_unique {m : Mode} {line line' : Text}
    {more more' later later' lines : List Text} (shortest : Shortest m.AcceptsRun (line :: more))
    (shortest' : Shortest m.AcceptsRun (line' :: more')) (split : lines = line :: more ++ later)
    (split' : lines = line' :: more' ++ later') :
    line = line' ∧ more = more' ∧ later = later' := by
  have same := shortest.unique shortest' ⟨later, split.symm⟩ ⟨later', split'.symm⟩
  rw [split, same] at split'
  obtain ⟨rfl, rfl⟩ := List.cons.inj same
  exact ⟨rfl, rfl, List.append_cancel_left split'⟩

/-- A script has one segmentation only. -/
theorem Segmented.unique {m final final' : Mode} {k : Nat} {lines : List Text}
    {subs subs' : List Submission} {ending ending' : Ending}
    (segmented : Segmented m k lines subs final ending)
    (segmented' : Segmented m k lines subs' final' ending') :
    subs' = subs ∧ final' = final ∧ ending' = ending := by
  induction segmented generalizing subs' with
  | finished =>
    cases segmented' with
    | finished => exact ⟨rfl, rfl, rfl⟩
    | exit split | submit split => exact absurd split (by simp)
  | blank isBlank _ ih =>
    cases segmented' with
    | blank _ rest => exact ih rest
    | incomplete nonblank => simp [isBlank] at nonblank
    | exit split nonblank | submit split nonblank =>
      obtain ⟨rfl, -⟩ := List.cons.inj split
      simp [isBlank] at nonblank
  | incomplete nonblank noRun =>
    cases segmented' with
    | blank isBlank _ => simp [isBlank] at nonblank
    | incomplete => exact ⟨rfl, rfl, rfl⟩
    | exit split _ shortest | submit split _ shortest =>
      exact absurd shortest.1 (noRun _ ⟨_, split.symm⟩)
  | exit split nonblank shortest leaves =>
    cases segmented' with
    | finished => exact absurd split (by simp)
    | blank isBlank _ =>
      obtain ⟨rfl, -⟩ := List.cons.inj split
      simp [isBlank] at nonblank
    | incomplete _ noRun => exact absurd shortest.1 (noRun _ ⟨_, split.symm⟩)
    | exit split' _ shortest' _ =>
      obtain ⟨rfl, rfl, rfl⟩ := shortest_cons_unique shortest shortest' split split'
      exact ⟨rfl, rfl, rfl⟩
    | submit split' _ shortest' stays _ =>
      obtain ⟨rfl, rfl, rfl⟩ := shortest_cons_unique shortest shortest' split split'
      exact absurd leaves stays
  | submit split nonblank shortest stays _ ih =>
    cases segmented' with
    | finished => exact absurd split (by simp)
    | blank isBlank _ =>
      obtain ⟨rfl, -⟩ := List.cons.inj split
      simp [isBlank] at nonblank
    | incomplete _ noRun => exact absurd shortest.1 (noRun _ ⟨_, split.symm⟩)
    | exit split' _ shortest' leaves =>
      obtain ⟨rfl, rfl, rfl⟩ := shortest_cons_unique shortest shortest' split split'
      exact absurd leaves stays
    | submit split' _ shortest' _ rest' =>
      obtain ⟨rfl, rfl, rfl⟩ := shortest_cons_unique shortest shortest' split split'
      obtain ⟨rfl, rfl, rfl⟩ := ih rest'
      exact ⟨rfl, rfl, rfl⟩

end StatementShell
