import StatementShell.Proofs.Segmentation

/-!
# Performing a script

What a script does is its segmentation put to an evaluator: the statements among
the submissions are handed over one after the other, up to the first that fails,
and the answers are shown between the messages of the system commands.  The
runner goes through the script line by line with the lines collected so far; it
is shown to perform the segmentation, by an induction on it in which the lines of
a run are collected one at a time.

## Main Definitions

* `Performance`: what submissions give rise to.
* `Evaluator.perform`: the performance of submissions.
* `Performance.result`: the report or failure of a script.
* `Evaluator.NeverFails`, `Evaluator.Answers`: how an evaluator takes calls.

## Main Results

* `runLines_performs`: the runner performs the segmentation of its lines.
* `run_performs`, `run_recorded_performs`: the same for a script.
* `run_performs_segmentation`: a script has one segmentation, which is what a run
  of it performs.
-/

namespace StatementShell

variable {σ : Type}

/-! ### Performances -/

/-- What submissions give rise to when they are put to an evaluator. -/
structure Performance (σ : Type) where
  /-- The state in which the evaluator is left. -/
  evaluator : σ
  /-- The statements handed over, in order. -/
  calls : List Call
  /-- What is shown, in order. -/
  outputs : List Text
  /-- The submission at which the evaluator fails, and why. -/
  failed : Option (Submission × Failure)

namespace Performance

/-- A performance that calls and outputs precede. -/
def after (calls : List Call) (outputs : List Text) (p : Performance σ) : Performance σ :=
  { p with calls := calls ++ p.calls, outputs := outputs ++ p.outputs }

/-- The mode in which the runner is left, given the one at the end of the
script. -/
def mode (p : Performance σ) (final : Mode) : Mode :=
  match p.failed with
  | some (sub, _) => sub.mode
  | none => final

/-- The report or failure of a script, given the mode at its end and how it
ends.  A failure of the evaluator comes before anything that the rest of the
script would bring. -/
def result (p : Performance σ) (final : Mode) (ending : Ending) : Except Failure Report :=
  match p.failed with
  | some (sub, cause) => .error (.atLine sub.start cause)
  | none =>
    match ending with
    | .finished => .ok ⟨p.calls.length, p.outputs, final, false⟩
    | .exited => .ok ⟨p.calls.length, p.outputs, final, true⟩
    | .incomplete start => .error (.script (.incomplete start final.name))

theorem after_after (calls calls' : List Call) (outputs outputs' : List Text)
    (p : Performance σ) :
    (p.after calls' outputs').after calls outputs =
      p.after (calls ++ calls') (outputs ++ outputs') := by
  simp [after]

end Performance

/-- Puts submissions to an evaluator, one after the other, up to the first that
fails. -/
def Evaluator.perform (E : Evaluator σ) (s : σ) : List Submission → Performance σ
  | [] => ⟨s, [], [], none⟩
  | sub :: rest =>
    match sub.call? with
    | none => (E.perform s rest).after [] sub.message?.toList
    | some call =>
      match E.submit s call.mode call.text with
      | (s', .ok output) => (E.perform s' rest).after [call] output.toList
      | (s', .error cause) => ⟨s', [call], [], some (sub, cause)⟩

/-- The calls are the statements among all submissions or, where the evaluator
fails, those up to the submission at which it does. -/
def Performance.CallsOf (p : Performance σ) (subs : List Submission) : Prop :=
  (p.failed = none ∧ p.calls = subs.filterMap Submission.call?) ∨
    ∃ earlier sub later cause, p.failed = some (sub, cause) ∧ subs = earlier ++ sub :: later ∧
      p.calls = (earlier ++ [sub]).filterMap Submission.call?

theorem Performance.CallsOf.cons {p : Performance σ} {subs : List Submission}
    (callsOf : p.CallsOf subs) (sub : Submission) (outputs : List Text) :
    (p.after sub.call?.toList outputs).CallsOf (sub :: subs) := by
  have joined (tail : List Submission) : (sub :: tail).filterMap Submission.call? =
      sub.call?.toList ++ tail.filterMap Submission.call? := by
    cases call : sub.call? <;> simp [call]
  rcases callsOf with ⟨succeeds, calls⟩ | ⟨earlier, failing, later, cause, fails, rfl, calls⟩
  · left
    refine ⟨succeeds, ?_⟩
    rw [joined, ← calls]
    rfl
  · right
    refine ⟨sub :: earlier, failing, later, cause, fails, rfl, ?_⟩
    rw [List.cons_append, joined, ← calls]
    rfl

/-- What is performed are the statements among the submissions. -/
theorem Evaluator.callsOf_perform (E : Evaluator σ) (s : σ) (subs : List Submission) :
    (E.perform s subs).CallsOf subs := by
  induction subs generalizing s with
  | nil => exact Or.inl ⟨rfl, rfl⟩
  | cons sub rest ih =>
    rw [perform]
    split
    · case h_1 noCall =>
      have later := (ih s).cons sub sub.message?.toList
      rwa [noCall] at later
    · case h_2 call calls =>
      split
      · case h_1 s' output _ =>
        have later := (ih s').cons sub output.toList
        rwa [calls] at later
      · case h_2 s' cause _ =>
        exact Or.inr ⟨[], sub, rest, cause, rfl, rfl, by simp [calls]⟩

theorem Evaluator.calls_of_succeeds {E : Evaluator σ} {s : σ} {subs : List Submission}
    (succeeds : (E.perform s subs).failed = none) :
    (E.perform s subs).calls = subs.filterMap Submission.call? := by
  rcases E.callsOf_perform s subs with ⟨-, calls⟩ | ⟨_, _, _, _, fails, -⟩
  · exact calls
  · exact absurd (fails.symm.trans succeeds) (by simp)

/-- No answer is a failure. -/
def Evaluator.NeverFails (E : Evaluator σ) : Prop :=
  ∀ s m text, ∃ s' output, E.submit s m text = (s', .ok output)

theorem Evaluator.NeverFails.perform {E : Evaluator σ} (neverFails : E.NeverFails) (s : σ)
    (subs : List Submission) : (E.perform s subs).failed = none := by
  induction subs generalizing s with
  | nil => rfl
  | cons sub rest ih =>
    rw [Evaluator.perform]
    split
    · exact ih s
    · case h_2 call _ =>
      obtain ⟨s', output, answered⟩ := neverFails s call.mode call.text
      rw [answered]
      exact ih s'

/-- The evaluator answers calls, one after the other, and is left in a state. -/
def Evaluator.Answers (E : Evaluator σ) (s : σ) : List Call → σ → Prop
  | [], t => t = s
  | call :: calls, t =>
    ∃ s' output, E.submit s call.mode call.text = (s', .ok output) ∧ E.Answers s' calls t

/-- A failure comes from the first call that is not answered. -/
theorem Evaluator.perform_fails {E : Evaluator σ} {s t t' : σ} {earlier later : List Submission}
    {sub : Submission} {call : Call} {cause : Failure}
    (answers : E.Answers s (earlier.filterMap Submission.call?) t) (calls : sub.call? = some call)
    (refused : E.submit t call.mode call.text = (t', .error cause)) :
    (E.perform s (earlier ++ sub :: later)).failed = some (sub, cause) := by
  induction earlier generalizing s with
  | nil =>
    obtain rfl := answers
    rw [List.nil_append, perform, calls]
    simp only [refused]
  | cons first earlier ih =>
    rw [List.cons_append, perform]
    cases firstCall : first.call? with
    | none =>
      rw [List.filterMap_cons_none firstCall] at answers
      exact ih answers
    | some call' =>
      rw [List.filterMap_cons_some firstCall] at answers
      obtain ⟨s', output, answered, answers⟩ := answers
      simp only [answered]
      exact ih answers

/-- Recording the calls of an evaluator changes nothing else. -/
theorem Evaluator.perform_recorded (E : Evaluator σ) (s : σ) (prior : List Call)
    (subs : List Submission) :
    E.recorded.perform (prior, s) subs =
      ⟨(prior ++ (E.perform s subs).calls, (E.perform s subs).evaluator),
        (E.perform s subs).calls, (E.perform s subs).outputs, (E.perform s subs).failed⟩ := by
  induction subs generalizing s prior with
  | nil => simp [perform]
  | cons sub rest ih =>
    rw [perform, perform]
    cases sub.call? with
    | none => simp [ih, Performance.after]
    | some call =>
      -- The recording evaluator answers as the other does, and notes the call.
      have recordedAnswer : E.recorded.submit (prior, s) call.mode call.text =
          ((prior ++ [call], (E.submit s call.mode call.text).1),
            (E.submit s call.mode call.text).2) := rfl
      simp only [recordedAnswer]
      rcases E.submit s call.mode call.text with ⟨s', cause | output⟩
      · rfl
      · simp only [ih]
        simp [Performance.after]

/-! ### Collecting the lines of a run -/

namespace Runner

variable {E : Evaluator σ} {r : Runner σ} {k : Nat} {opened : Collected} {done : Produced}
  {line : Text} {lines more later : List Text}

/-- A blank line is dropped while no line is collected. -/
theorem runLines_blank (none : opened.lines = []) (isBlank : line.isBlank = true) :
    r.runLines E k opened done (line :: lines) = r.runLines E (k + 1) opened done lines := by
  rw [runLines, if_pos ⟨by simp [none], isBlank⟩]

/-- Any other line is collected, and the rule of the mode is asked. -/
theorem runLines_collect (kept : opened.lines = [] → line.isBlank = false) :
    r.runLines E k opened done (line :: lines) =
      if r.mode.accepts (opened.lines ++ [line]) opened.lines.length then
        match r.submit E (opened.add k line).start done (Text.join (opened.lines ++ [line])) with
        | (after, .proceed produced) => after.runLines E (k + 1) .empty produced lines
        | (after, .exit) => (after, .ok (after.report done true))
        | (after, .fail failure) => (after, .error failure)
      else r.runLines E (k + 1) (opened.add k line) done lines := by
  have notDropped : ¬ (opened.lines.isEmpty = true ∧ line.isBlank = true) := by
    rintro ⟨empty, isBlank⟩
    rw [kept (List.isEmpty_iff.mp empty)] at isBlank
    exact Bool.noConfusion isBlank
  have last : (opened.add k line).lines.length - 1 = opened.lines.length := by
    simp [Collected.add]
  rw [runLines, if_neg notDropped]
  simp only [last]
  rfl

/-- The lines of a shortest accepted run are collected one by one and then
submitted together. -/
theorem runLines_shortest (kept : opened.lines = [] → line.isBlank = false)
    (shortest : Shortest r.mode.AcceptsRun (opened.lines ++ line :: more)) :
    r.runLines E k opened done (line :: more ++ later) =
      match r.submit E (opened.add k line).start done
        (Text.join (opened.lines ++ line :: more)) with
      | (after, .proceed produced) =>
        after.runLines E (k + (line :: more).length) .empty produced later
      | (after, .exit) => (after, .ok (after.report done true))
      | (after, .fail failure) => (after, .error failure) := by
  induction more generalizing opened k line with
  | nil =>
    have accepted := Mode.acceptsRun_concat.mp shortest.1
    rw [List.singleton_append, runLines_collect kept, if_pos accepted]
    rfl
  | cons next more ih =>
    -- The run collected so far is shorter than the accepted one, so it stays open.
    have rejected := rejects_of_shortest shortest
    have collected : (opened.add k line).lines = opened.lines ++ [line] := rfl
    have stillFirst : ((opened.add k line).add (k + 1) next).start = (opened.add k line).start := by
      simp [Collected.add]
    rw [List.cons_append, runLines_collect kept, if_neg rejected, ih, stillFirst, collected]
    · simp only [List.append_assoc, List.singleton_append, List.length_cons]
      have count : k + 1 + (more.length + 1) = k + (more.length + 1 + 1) := by omega
      rw [count]
    · intro none
      simp [collected] at none
    · simpa [collected] using shortest

/-- Where no run is accepted, the script ends inside a statement. -/
theorem runLines_incomplete (some : opened.lines ≠ [])
    (noRun : ∀ run, run <+: opened.lines ++ lines → opened.lines.length < run.length →
      ¬ r.mode.AcceptsRun run) :
    r.runLines E k opened done lines =
      (r, .error (.script (.incomplete opened.start r.mode.name))) := by
  induction lines generalizing opened k with
  | nil => rw [runLines, if_neg (by simpa using some)]
  | cons line lines ih =>
    have rejected := rejects_of_noRun noRun
    have stillFirst : (opened.add k line).start = opened.start := by
      simp [Collected.add, some]
    rw [runLines_collect (fun none => absurd none some), if_neg rejected, ih, stillFirst]
    · simp [Collected.add]
    · intro run front longer
      refine noRun run (by simpa [Collected.add] using front) ?_
      simp only [Collected.add, List.length_append, List.length_singleton] at longer
      omega

end Runner

/-! ### Submitting a run -/

namespace Runner

variable {E : Evaluator σ} {s : σ} {done : Produced} {sub : Submission}

/-- A statement goes to the evaluator. -/
theorem submit_call {call : Call} (calls : sub.call? = some call) :
    submit E ⟨sub.mode, s⟩ sub.start done sub.text =
      match E.submit s call.mode call.text with
      | (s', .ok output) =>
        (⟨sub.modeAfter, s'⟩, .proceed ⟨done.statements + 1, done.outputs ++ output.toList⟩)
      | (s', .error cause) => (⟨sub.mode, s'⟩, .fail (.atLine sub.start cause)) := by
  have dispatched : dispatch sub.mode sub.text = sub.action := rfl
  unfold Submission.call? at calls
  split at calls
  · case h_1 text action =>
    obtain rfl := Option.some.inj calls
    obtain rfl := text_of_dispatch action
    have stays : sub.modeAfter = sub.mode := by
      unfold Submission.modeAfter
      rw [action]
    rcases answered : E.submit s sub.mode sub.text with ⟨s', cause | output⟩
    · simp [submit, dispatched, action, answered]
    · simp [submit, dispatched, action, stays, answered]
  · exact absurd calls (by simp)

/-- Any other run but an exit command leaves the evaluator alone. -/
theorem submit_quiet (noCall : sub.call? = none) (stays : sub.action ≠ .exit) :
    submit E ⟨sub.mode, s⟩ sub.start done sub.text =
      (⟨sub.modeAfter, s⟩, .proceed ⟨done.statements, done.outputs ++ sub.message?.toList⟩) := by
  have dispatched : dispatch sub.mode sub.text = sub.action := rfl
  unfold Submission.call? at noCall
  unfold Submission.modeAfter Submission.message?
  rw [submit, dispatched]
  cases action : sub.action with
  | evaluate => simp [action] at noCall
  | exit => exact absurd action stays
  | message => rfl
  | switchMode | unknown | ignore => simp

/-- An exit command ends the script. -/
theorem submit_exit (leaves : sub.action = .exit) :
    submit E ⟨sub.mode, s⟩ sub.start done sub.text = (⟨sub.mode, s⟩, .exit) := by
  have dispatched : dispatch sub.mode sub.text = sub.action := rfl
  rw [submit, dispatched, leaves]

end Runner

/-! ### The runner performs the segmentation -/

/-- A shortest accepted run is submitted. -/
theorem runLines_submission {E : Evaluator σ} {m : Mode} {s : σ} {k : Nat} {done : Produced}
    {line : Text} {more later : List Text} (nonblank : line.isBlank = false)
    (shortest : Shortest m.AcceptsRun (line :: more)) :
    Runner.runLines E ⟨m, s⟩ k .empty done (line :: more ++ later) =
      match Runner.submit E ⟨(Submission.mk k m (line :: more)).mode, s⟩
        (Submission.mk k m (line :: more)).start done
        (Submission.mk k m (line :: more)).text with
      | (after, .proceed produced) =>
        after.runLines E (k + (line :: more).length) .empty produced later
      | (after, .exit) => (after, .ok (after.report done true))
      | (after, .fail failure) => (after, .error failure) :=
  Runner.runLines_shortest (fun _ => nonblank) shortest

/-- The runner performs the segmentation of its lines, whatever was called and
shown before. -/
theorem runLines_performs (E : Evaluator σ) {m final : Mode} {k : Nat} {lines : List Text}
    {subs : List Submission} {ending : Ending}
    (segmented : Segmented m k lines subs final ending) (s : σ) (prior : List Call)
    (outputs : List Text) :
    Runner.runLines E ⟨m, s⟩ k .empty ⟨prior.length, outputs⟩ lines =
      (⟨(E.perform s subs).mode final, (E.perform s subs).evaluator⟩,
        ((E.perform s subs).after prior outputs).result final ending) := by
  -- What was called and shown before is carried along, since the runner counts and
  -- appends as it goes.
  induction segmented generalizing s prior outputs with
  | finished =>
    simp [Runner.runLines, Collected.empty, Runner.report, Evaluator.perform,
      Performance.after, Performance.result, Performance.mode]
  | blank isBlank _ ih => rw [Runner.runLines_blank rfl isBlank, ih]
  | @incomplete m k line lines nonblank noRun =>
    -- The first line is collected, and after it no other is accepted.
    have rejected : ¬ m.accepts (Collected.empty.lines ++ [line]) 0 = true :=
      rejects_of_noRun (fun run front _ => noRun run front)
    rw [Runner.runLines_collect (fun _ => nonblank)]
    refine (if_neg rejected).trans ?_
    rw [Runner.runLines_incomplete (by simp [Collected.add])]
    · rfl
    · intro run front _
      exact noRun run front
  | @exit m k line more later lines split nonblank shortest leaves =>
    rw [split, runLines_submission nonblank shortest, Runner.submit_exit leaves]
    have performed : E.perform s [⟨k, m, line :: more⟩] = ⟨s, [], [], none⟩ := by
      simp [Evaluator.perform, Submission.call?, Submission.message?, leaves, Performance.after]
    rw [performed]
    simp [Performance.after, Performance.result, Performance.mode, Runner.report]
  | @submit m final k line more later lines subs ending split nonblank shortest stays rest ih =>
    rw [split, runLines_submission nonblank shortest]
    cases calls : (Submission.mk k m (line :: more)).call? with
    | none =>
      rw [Runner.submit_quiet calls stays]
      simp only [Evaluator.perform, calls, ih, Performance.after_after]
      rw [List.append_nil]
      rfl
    | some call =>
      rw [Runner.submit_call calls]
      simp only [Evaluator.perform, calls]
      rcases E.submit s call.mode call.text with ⟨s', cause | output⟩
      · rfl
      · have count : prior.length + 1 = (prior ++ [call]).length := by simp
        simp only [count, ih, Performance.after_after]
        rfl

section

variable {m final : Mode} {source : Text} {subs : List Submission} {ending : Ending}

/-- Running a script is performing its segmentation. -/
theorem run_performs (E : Evaluator σ) (s : σ)
    (segmented : Segmented m 1 source.lines subs final ending) :
    Runner.run E ⟨m, s⟩ source =
      (⟨(E.perform s subs).mode final, (E.perform s subs).evaluator⟩,
        (E.perform s subs).result final ending) :=
  runLines_performs E segmented s [] []

/-- With its calls on record. -/
theorem run_recorded_performs (E : Evaluator σ) (s : σ)
    (segmented : Segmented m 1 source.lines subs final ending) :
    Runner.run E.recorded ⟨m, ([], s)⟩ source =
      (⟨(E.perform s subs).mode final, ((E.perform s subs).calls, (E.perform s subs).evaluator)⟩,
        (E.perform s subs).result final ending) := by
  have performed := run_performs E.recorded ([], s) segmented
  rw [E.perform_recorded, List.nil_append] at performed
  exact performed

end

/-- Running a script is performing its one segmentation.  The evaluator receives
the statements among the submissions, up to the first that it fails on, and the
failure names the line on which that statement starts. -/
theorem run_performs_segmentation (E : Evaluator σ) (m : Mode) (s : σ) (source : Text) :
    ∃ subs final ending,
      Segmented m 1 source.lines subs final ending ∧
        (∀ subs' final' ending', Segmented m 1 source.lines subs' final' ending' →
          subs' = subs ∧ final' = final ∧ ending' = ending) ∧
        Runner.run E ⟨m, s⟩ source =
          (⟨(E.perform s subs).mode final, (E.perform s subs).evaluator⟩,
            (E.perform s subs).result final ending) ∧
        Runner.run E.recorded ⟨m, ([], s)⟩ source =
          (⟨(E.perform s subs).mode final,
              ((E.perform s subs).calls, (E.perform s subs).evaluator)⟩,
            (E.perform s subs).result final ending) ∧
        (E.perform s subs).CallsOf subs ∧
        ∀ sub cause, (E.perform s subs).failed = some (sub, cause) →
          ∃ failure, (Runner.run E ⟨m, s⟩ source).2 = .error failure ∧
            failure.message =
              "line ".toList ++ Text.ofNat sub.start ++ ": ".toList ++ cause.message := by
  obtain ⟨subs, final, ending, segmented⟩ := exists_segmented m 1 source.lines
  have performed := run_performs E s segmented
  refine ⟨subs, final, ending, segmented, ?_, performed, run_recorded_performs E s segmented,
    E.callsOf_perform s subs, ?_⟩
  · intro subs' final' ending' segmented'
    exact segmented.unique segmented'
  · intro sub cause fails
    refine ⟨.atLine sub.start cause, ?_, rfl⟩
    have answer : (Runner.run E ⟨m, s⟩ source).2 = (E.perform s subs).result final ending :=
      congrArg Prod.snd performed
    rw [answer]
    unfold Performance.result
    rw [fails]

end StatementShell
