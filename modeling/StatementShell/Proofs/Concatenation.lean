import StatementShell.Proofs.Lines
import StatementShell.Proofs.Performance

/-!
# Scripts put one after the other

Running a script and then another is running the two as one.  The runner has no
memory between two statements but its mode and the state of its evaluator: where a
script ends with no statement open, the lines that follow are segmented as if they
came first, in the mode that then holds, and only their numbers are higher.  A script
that ends early, at an exit command or because the evaluator refuses a statement,
does not look at what follows.

Both facts are about the segmentation.  It is followed down to where the first script
ends, and what is performed is performed in two parts.

## Main Definitions

* `Submission.shift`, `Ending.shift`, `Performance.shift`, `Failure.shift`: the same
  with some lines in front.
* `Runner.calls`: what a script hands to the evaluator.
* `Report.before`: the end of a script, told together with the report of an earlier
  one.

## Main Results

* `Segmented.shift`, `Segmented.append`: the segmentation of lines after others.
* `Evaluator.perform_append`: submissions are performed in two parts.
* `run_append`: the run of two scripts put one after the other.
-/

namespace StatementShell

variable {σ : Type}

/-! ### Lines in front -/

/-- The same run of lines with `n` lines in front of the script. -/
def Submission.shift (n : Nat) (sub : Submission) : Submission :=
  { sub with start := sub.start + n }

/-- The same ending with `n` lines in front of the script. -/
def Ending.shift (n : Nat) : Ending → Ending
  | finished => finished
  | exited => exited
  | incomplete start => incomplete (start + n)

/-- Lines in front change nothing about a segmentation but its numbers. -/
theorem Segmented.shift {m final : Mode} {k : Nat} {lines : List Text} {subs : List Submission}
    {ending : Ending} (segmented : Segmented m k lines subs final ending) (n : Nat) :
    Segmented m (k + n) lines (subs.map (Submission.shift n)) final (ending.shift n) := by
  induction segmented with
  | finished => exact .finished
  | @blank m final k line lines subs ending isBlank _ ih =>
    rw [Nat.add_right_comm] at ih
    exact .blank isBlank ih
  | incomplete nonblank noRun => exact .incomplete nonblank noRun
  | exit split nonblank shortest leaves => exact .exit split nonblank shortest leaves
  | submit split nonblank shortest stays _ ih =>
    rw [Nat.add_right_comm] at ih
    exact .submit split nonblank shortest stays ih

/-- Lines that follow others are segmented in what the others leave: afresh where no
statement is open, not at all after an exit command. -/
theorem Segmented.append {m mid : Mode} {k : Nat} {lines : List Text} {subs : List Submission}
    {ending : Ending} (segmented : Segmented m k lines subs mid ending) (more : List Text) :
    ∃ later final ending', Segmented m k (lines ++ more) (subs ++ later) final ending' ∧
      (ending = .finished → Segmented mid (k + lines.length) more later final ending') ∧
      (ending = .exited → later = [] ∧ final = mid ∧ ending' = .exited) := by
  induction segmented with
  | @finished m k =>
    obtain ⟨later, final, ending', onward⟩ := exists_segmented m k more
    exact ⟨later, final, ending', onward, fun _ => onward, nofun⟩
  | @blank m mid k line lines subs ending isBlank _ ih =>
    obtain ⟨later, final, ending', whole, onward, stops⟩ := ih
    rw [Nat.add_right_comm] at onward
    exact ⟨later, final, ending', .blank isBlank whole, onward, stops⟩
  | @incomplete m k line lines nonblank noRun =>
    obtain ⟨later, final, ending', whole⟩ := exists_segmented m k (line :: lines ++ more)
    exact ⟨later, final, ending', whole, nofun, nofun⟩
  | @exit m k line run later lines split nonblank shortest leaves =>
    have splitWhole : lines ++ more = line :: run ++ (later ++ more) := by
      rw [split, List.append_assoc]
    exact ⟨[], m, .exited, .exit splitWhole nonblank shortest leaves, nofun,
      fun _ => ⟨rfl, rfl, rfl⟩⟩
  | @submit m mid k line run rest lines subs ending split nonblank shortest stays _ ih =>
    obtain ⟨later, final, ending', whole, onward, stops⟩ := ih
    have splitWhole : lines ++ more = line :: run ++ (rest ++ more) := by
      rw [split, List.append_assoc]
    have count : k + lines.length = k + (line :: run).length + rest.length := by
      rw [split, List.length_append, Nat.add_assoc]
    rw [count]
    exact ⟨later, final, ending', .submit splitWhole nonblank shortest stays whole, onward, stops⟩

/-! ### Performing in two parts -/

/-- The same performance with `n` lines in front of the script. -/
def Performance.shift (n : Nat) (p : Performance σ) : Performance σ :=
  { p with failed := p.failed.map fun failure => (failure.1.shift n, failure.2) }

/-- The evaluator has no part in the numbers of lines. -/
theorem Evaluator.perform_shift (E : Evaluator σ) (s : σ) (subs : List Submission) (n : Nat) :
    E.perform s (subs.map (Submission.shift n)) = (E.perform s subs).shift n := by
  induction subs generalizing s with
  | nil => rfl
  | cons sub rest ih =>
    have call : (sub.shift n).call? = sub.call? := rfl
    have message : (sub.shift n).message? = sub.message? := rfl
    rw [List.map_cons, perform, perform, call, message]
    cases sub.call? with
    | none =>
      dsimp only
      rw [ih]
      rfl
    | some call =>
      dsimp only
      rcases E.submit s call.mode call.text with ⟨s', cause | output⟩
      · rfl
      · dsimp only
        rw [ih]
        rfl

/-- Submissions are performed in two parts, unless the evaluator fails in the first. -/
theorem Evaluator.perform_append (E : Evaluator σ) (s : σ) (subs later : List Submission) :
    E.perform s (subs ++ later) =
      if (E.perform s subs).failed.isSome then E.perform s subs
      else (E.perform (E.perform s subs).evaluator later).after (E.perform s subs).calls
        (E.perform s subs).outputs := by
  induction subs generalizing s with
  | nil => rfl
  | cons sub rest ih =>
    have onward (s : σ) (calls : List Call) (outputs : List Text) :
        (E.perform s (rest ++ later)).after calls outputs =
          if ((E.perform s rest).after calls outputs).failed.isSome then
            (E.perform s rest).after calls outputs
          else (E.perform ((E.perform s rest).after calls outputs).evaluator later).after
            ((E.perform s rest).after calls outputs).calls
            ((E.perform s rest).after calls outputs).outputs := by
      rw [ih, apply_ite (Performance.after calls outputs), Performance.after_after]
      rfl
    cases calls : sub.call? with
    | none =>
      simp only [List.cons_append, perform, calls]
      exact onward s _ _
    | some call =>
      rcases answered : E.submit s call.mode call.text with ⟨s', cause | output⟩
      · simp [perform, calls, answered]
      · simp only [List.cons_append, perform, calls, answered]
        exact onward s' _ _

/-! ### Results -/

/-- The same failure with `n` lines in front of the script. -/
def Failure.shift (n : Nat) : Failure → Failure
  | script (.incomplete line mode) => script (.incomplete (line + n) mode)
  | atLine line cause => atLine (line + n) cause
  | failure => failure

/-- The end of a script that comes after `n` lines, told together with the report on
those. -/
def Report.before (first : Report) (n : Nat) : Except Failure Report → Except Failure Report
  | .ok later =>
    .ok { later with
      statements := first.statements + later.statements
      outputs := first.outputs ++ later.outputs }
  | .error failure => .error (failure.shift n)

namespace Performance

variable {p : Performance σ} {final : Mode} {ending : Ending} {report : Report}

/-- Neither lines nor calls nor outputs in front change the mode at the end. -/
theorem mode_shift_after (p : Performance σ) (final : Mode) (n : Nat) (calls : List Call)
    (outputs : List Text) : ((p.shift n).after calls outputs).mode final = p.mode final := by
  unfold mode shift after
  cases p.failed with
  | some failure => rfl
  | none => rfl

/-- A result with lines, calls and outputs in front is the later part of a result. -/
theorem result_shift_after (p : Performance σ) (final : Mode) (ending : Ending) (n : Nat)
    (calls : List Call) (outputs : List Text) (mid : Mode) (exited : Bool) :
    ((p.shift n).after calls outputs).result final (ending.shift n) =
      Report.before ⟨calls.length, outputs, mid, exited⟩ n (p.result final ending) := by
  obtain ⟨evaluator, ownCalls, ownOutputs, failed⟩ := p
  unfold result shift after
  cases failed with
  | some failure => rfl
  | none =>
    cases ending with
    | finished => simp [Ending.shift, Report.before]
    | exited => simp [Ending.shift, Report.before]
    | incomplete start => rfl

/-- A script that ends of itself, with its report, has nothing open. -/
theorem finished_of_result (ok : p.result final ending = .ok report)
    (stays : report.exited = false) :
    p.failed = none ∧ ending = .finished ∧ report = ⟨p.calls.length, p.outputs, final, false⟩ := by
  unfold result at ok
  cases failed : p.failed with
  | some failure =>
    rw [failed] at ok
    cases ok
  | none =>
    rw [failed] at ok
    cases ending with
    | finished =>
      cases ok
      exact ⟨rfl, rfl, rfl⟩
    | exited =>
      cases ok
      cases stays
    | incomplete start => cases ok

/-- A script that ends early does so at a refusal or at an exit command. -/
theorem stopped_of_result
    (stopped : (∃ report, p.result final ending = .ok report ∧ report.exited = true) ∨
      ∃ line cause, p.result final ending = .error (.atLine line cause)) :
    p.failed.isSome = true ∨ ending = .exited := by
  unfold result at stopped
  cases failed : p.failed with
  | some failure => exact Or.inl rfl
  | none =>
    rw [failed] at stopped
    right
    cases ending with
    | exited => rfl
    | finished =>
      rcases stopped with ⟨report, ok, exits⟩ | ⟨line, cause, error⟩
      · cases ok
        cases exits
      · cases error
    | incomplete start =>
      rcases stopped with ⟨report, ok, -⟩ | ⟨line, cause, error⟩
      · cases ok
      · cases error

/-- After a refusal the end of the script does not matter. -/
theorem result_of_failed (failed : p.failed.isSome = true) (final final' : Mode)
    (ending ending' : Ending) :
    p.mode final = p.mode final' ∧ p.result final ending = p.result final' ending' := by
  obtain ⟨failure, failed⟩ := Option.isSome_iff_exists.mp failed
  unfold mode result
  rw [failed]
  exact ⟨rfl, rfl⟩

end Performance

/-! ### Runs -/

/-- What a script hands to the evaluator, in order. -/
def Runner.calls (E : Evaluator σ) (r : Runner σ) (source : Text) : List Call :=
  (Runner.run E.recorded ⟨r.mode, ([], r.evaluator)⟩ source).1.evaluator.1

theorem Runner.calls_eq {m final : Mode} {source : Text} {subs : List Submission}
    {ending : Ending} (E : Evaluator σ) (s : σ)
    (segmented : Segmented m 1 source.lines subs final ending) :
    Runner.calls E ⟨m, s⟩ source = (E.perform s subs).calls := by
  rw [calls, run_recorded_performs E s segmented]

/-- **Running scripts one after the other is running them as one.**  The first is made
of whole lines.  Where it ends with no statement open, the second goes on in the mode
and with the evaluator it leaves, and only the numbers of lines are higher.  Where it
exits, or the evaluator refuses a statement, the second is not looked at. -/
theorem run_append (E : Evaluator σ) (r : Runner σ) {first : Text} (finished : first.Finished)
    (second : Text) :
    (∀ report, (r.run E first).2 = .ok report → report.exited = false →
      r.run E (first ++ second) =
          (((r.run E first).1.run E second).1,
            report.before first.lines.length ((r.run E first).1.run E second).2) ∧
        r.calls E (first ++ second) = r.calls E first ++ (r.run E first).1.calls E second) ∧
      ((∃ report, (r.run E first).2 = .ok report ∧ report.exited = true) ∨
          (∃ line cause, (r.run E first).2 = .error (.atLine line cause)) →
        r.run E (first ++ second) = r.run E first ∧
          r.calls E (first ++ second) = r.calls E first) := by
  obtain ⟨m, s⟩ := r
  obtain ⟨subs, mid, ending, segmented⟩ := exists_segmented m 1 first.lines
  obtain ⟨later, final, ending', whole, onward, stops⟩ := segmented.append second.lines
  rw [← finished.lines_append] at whole
  rw [run_performs E s segmented, run_performs E s whole, Runner.calls_eq E s segmented,
    Runner.calls_eq E s whole]
  have parts := E.perform_append s subs later
  constructor
  · intro report ok stays
    obtain ⟨succeeds, rfl, rfl⟩ := Performance.finished_of_result ok stays
    -- The second script is segmented by itself, with lower numbers.
    obtain ⟨subs', final', ending', segmented'⟩ := exists_segmented mid 1 second.lines
    obtain ⟨rfl, rfl, rfl⟩ := (segmented'.shift first.lines.length).unique (onward rfl)
    have arrives : (E.perform s subs).mode mid = mid := by
      unfold Performance.mode
      rw [succeeds]
    rw [E.perform_shift, if_neg (by simp [succeeds])] at parts
    have onwards := run_performs E (E.perform s subs).evaluator segmented'
    dsimp only
    rw [arrives, onwards, Runner.calls_eq E _ segmented', parts, Performance.mode_shift_after,
      Performance.result_shift_after]
    exact ⟨rfl, rfl⟩
  · intro stopped
    rcases Performance.stopped_of_result stopped with failed | exits
    · rw [parts, if_pos failed]
      obtain ⟨mode, result⟩ := Performance.result_of_failed failed final mid ending' ending
      rw [mode, result]
      exact ⟨rfl, rfl⟩
    · obtain ⟨rfl, rfl, rfl⟩ := stops exits
      rw [exits, List.append_nil]
      exact ⟨rfl, rfl⟩

/-- A script that switches the mode, and one that leaves its third line open. -/
theorem run_append_of_switch_and_open_statement :
    let r : Runner Transcript := ⟨.array, .empty⟩
    let first : Text := "1\n)sql\n".toList
    let second : Text := "\n)mode\nx\n".toList
    first.Finished ∧
      r.run transcript (first ++ second) =
        (⟨.sql, ⟨1⟩⟩, .error (.script (.incomplete 5 Mode.sql.name))) ∧
      r.calls transcript (first ++ second) = [⟨.array, ['1']⟩] := by
  intro r first second
  have finished : first.Finished := Or.inr rfl
  obtain ⟨report, ok, stays⟩ : ∃ report, (r.run transcript first).2 = .ok report ∧
      report.exited = false := ⟨_, rfl, rfl⟩
  obtain ⟨ran, called⟩ := (run_append transcript r finished second).1 report ok stays
  exact ⟨finished, ran, called⟩

end StatementShell
