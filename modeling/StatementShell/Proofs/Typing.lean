import StatementShell.Console
import StatementShell.Proofs.Lines
import StatementShell.Proofs.Performance

/-!
# A script typed at the prompt

A script does what its lines do when they are typed at the prompt.  The two
drivers keep different things: the runner a list of lines and a mode of its own,
the console one text and the mode of the session, and the console asks the
session where the cursor is.  They meet in the segmentation of the script.  While
a run is being collected the buffer is the run in its terminated form; with the
next line added it is the run joined, which is cut into the same lines again, and
the cursor, which was recorded at the end of the buffer, is on the last of them.

The one difference is that a failure does not end a session.  What is typed after
it has no counterpart in the run of the script.

## Main Definitions

* `Evaluator.persist`: what submissions bring about when failures are passed over.
* `Evaluator.untilFailure`: calls up to the first that fails.
* `Ending.Leaves`: what a script leaves in the buffer.

## Main Results

* `typeLines_persists`: typing lines carries out their segmentation.
* `typing_agrees_with_run`: typing a script and running it agree.
-/

namespace StatementShell

variable {σ : Type}

/-! ### The cursor -/

theorem Text.newlinesWithin_byteLength (t : Text) :
    newlinesWithin t.byteLength t = t.count '\n' := by
  induction t with
  | nil => rfl
  | cons c t ih =>
    have size : c.utf8Size ≠ 0 := Nat.ne_of_gt c.utf8Size_pos
    rw [newlinesWithin, byteLength_cons, if_neg (by omega), Nat.add_sub_cancel_left, ih,
      List.count_cons]
    simp [Nat.add_comm]

/-- With the cursor recorded at the end of a joined run, Enter submits the run
when the rule of the mode accepts it. -/
theorem Session.validate_highlight (s : Session) {run : List Text} (some : run ≠ [])
    (newlineFree : Text.NewlineFree run) :
    (s.highlight (Text.join run) (Text.join run).byteLength).1.validate (Text.join run) =
      s.mode.accepts run (run.length - 1) := by
  have pieces := Text.bufferLines_join some newlineFree
  have line : (s.highlight (Text.join run) (Text.join run).byteLength).1.cursorLine
      (Text.join run) = Option.some (run.length - 1) := by
    simp [Session.highlight, Session.recordCursor, Session.cursorLine,
      Text.newlinesWithin_byteLength, Text.count_newline_join some newlineFree]
  unfold Session.validate
  rw [line, pieces]
  simp [Session.highlight, Session.recordCursor]

/-! ### Collecting the lines of a run -/

namespace Console

variable {E : Evaluator σ} {c : Console σ} {opened lines more later : List Text} {line : Text}

/-- What is submitted does not depend on what is in the buffer. -/
theorem submit_buffer (buffer text : Text) :
    ({ c with buffer } : Console σ).submit E text = { c.submit E text with buffer } := by
  unfold submit
  rcases c.session.process text with ⟨session, action⟩
  cases action with
  | evaluate statement =>
    rcases answered : E.submit c.evaluator session.mode statement with ⟨s', cause | output⟩ <;>
      simp [answered]
  | _ => rfl

/-- Submits a text that is in the buffer with the cursor at its end. -/
def submitAtEnd (E : Evaluator σ) (c : Console σ) (text : Text) : Console σ :=
  { ({ c with session := c.session.recordCursor text text.byteLength }).submit E text with
    buffer := [] }

theorem submitAtEnd_of_buffer (buffer text : Text) :
    ({ ({ c with session := c.session.recordCursor text text.byteLength, buffer } :
        Console σ).submit E text with buffer := [] } : Console σ) = c.submitAtEnd E text :=
  congrArg (fun console : Console σ => { console with buffer := [] })
    (submit_buffer (E := E)
      (c := { c with session := c.session.recordCursor text text.byteLength }) buffer text)

/-- A console with a run of lines in its buffer.  The cursor was at their end
before the last newline was put in. -/
def collect (c : Console σ) (run : List Text) : Console σ :=
  { c with
    session := c.session.recordCursor (Text.join run) (Text.join run).byteLength
    buffer := Text.terminated run }

/-- What was collected before does not matter for a text that is submitted. -/
theorem submitAtEnd_collect (run : List Text) (text : Text) :
    (c.collect run).submitAtEnd E text = c.submitAtEnd E text :=
  submitAtEnd_of_buffer (E := E) (c := c) (Text.terminated run) text

/-- A line is collected after the lines that are in the buffer, and the rule of
the mode is asked. -/
theorem typeLine_collect (holds : c.buffer = Text.terminated opened)
    (newlineFree : Text.NewlineFree (opened ++ [line]))
    (kept : opened = [] → line.isBlank = false) :
    c.typeLine E line =
      if c.session.mode.accepts (opened ++ [line]) opened.length then
        c.submitAtEnd E (Text.join (opened ++ [line]))
      else c.collect (opened ++ [line]) := by
  have notLeftOut : ¬ (c.buffer.isEmpty = true ∧ line.isBlank = true) := by
    rintro ⟨empty, isBlank⟩
    cases opened with
    | nil => exact Bool.noConfusion (isBlank.symm.trans (kept rfl))
    | cons first opened => simp [holds] at empty
  have written : c.buffer ++ line = Text.join (opened ++ [line]) := by
    rw [holds, Text.join_concat]
  have last : (opened ++ [line]).length - 1 = opened.length := by simp
  have asked := c.session.validate_highlight (List.append_ne_nil_of_right_ne_nil opened
    (List.cons_ne_nil line [])) newlineFree
  rw [last] at asked
  unfold typeLine write enter
  rw [if_neg notLeftOut]
  simp only [written]
  rw [asked]
  split
  · exact submitAtEnd_of_buffer (E := E) (c := c) _ _
  · unfold collect
    rw [Text.terminated_eq_join (by simp)]
    rfl

/-- The lines of a shortest accepted run are typed one by one and then submitted
together. -/
theorem typeLines_shortest (running : c.session.running = true)
    (holds : c.buffer = Text.terminated opened) (kept : opened = [] → line.isBlank = false)
    (newlineFree : Text.NewlineFree (opened ++ line :: more))
    (shortest : Shortest c.session.mode.AcceptsRun (opened ++ line :: more)) :
    c.typeLines E (line :: more ++ later) =
      (c.submitAtEnd E (Text.join (opened ++ line :: more))).typeLines E later := by
  induction more generalizing c opened line with
  | nil =>
    have accepted := Mode.acceptsRun_concat.mp shortest.1
    rw [List.singleton_append, typeLines, if_pos running,
      typeLine_collect holds newlineFree kept, if_pos accepted]
  | cons next more ih =>
    have collected : opened ++ line :: next :: more = (opened ++ [line]) ++ next :: more := by simp
    -- The run collected so far is shorter than the accepted one, so it stays open.
    have rejected := rejects_of_shortest shortest
    rw [collected] at newlineFree shortest ⊢
    have oneMore := (Text.newlineFree_append.mp newlineFree).1
    have typed := ih (c := c.collect (opened ++ [line])) running rfl
      (fun none => absurd none (by simp)) newlineFree shortest
    rw [List.cons_append, typeLines, if_pos running, typeLine_collect holds oneMore kept,
      if_neg rejected, typed, submitAtEnd_collect]

/-- Where no run is accepted all lines stay in the buffer. -/
theorem typeLines_incomplete (running : c.session.running = true)
    (holds : c.buffer = Text.terminated opened)
    (kept : ∀ line ∈ lines.head?, opened = [] → line.isBlank = false)
    (newlineFree : Text.NewlineFree (opened ++ lines))
    (noRun : ∀ run, run <+: opened ++ lines → opened.length < run.length →
      ¬ c.session.mode.AcceptsRun run) :
    ∃ cursor, c.typeLines E lines =
      { c with
        session := { c.session with cursor }
        buffer := Text.terminated (opened ++ lines) } := by
  induction lines generalizing c opened with
  | nil =>
    refine ⟨c.session.cursor, ?_⟩
    rw [typeLines, List.append_nil, ← holds]
  | cons line lines ih =>
    have rejected := rejects_of_noRun noRun
    have collected : opened ++ line :: lines = (opened ++ [line]) ++ lines := by simp
    rw [collected] at newlineFree noRun ⊢
    have oneMore := (Text.newlineFree_append.mp newlineFree).1
    rw [typeLines, if_pos running, typeLine_collect holds oneMore (kept line rfl),
      if_neg rejected]
    refine ih (c := c.collect (opened ++ [line])) running rfl (by simp) newlineFree ?_
    intro run front longer
    refine noRun run front ?_
    rw [List.length_append, List.length_singleton] at longer
    omega

/-- Nothing is typed once the session has ended. -/
theorem typeLines_of_stopped (stopped : c.session.running = false) (lines : List Text) :
    c.typeLines E lines = c := by
  cases lines with
  | nil => rfl
  | cons line lines => rw [typeLines, if_neg (by simp [stopped])]

end Console

/-! ### Passing over failures -/

namespace Evaluator

/-- The state in which a submission leaves the evaluator, and what is printed. -/
def present (E : Evaluator σ) (s : σ) (sub : Submission) : σ × List Text :=
  match sub.call? with
  | none => (s, sub.message?.toList)
  | some call =>
    match E.submit s call.mode call.text with
    | (s', .ok output) => (s', output.toList)
    | (s', .error _) => (s', [])

/-- The same for submissions, one after the other, whether or not calls fail. -/
def persist (E : Evaluator σ) (s : σ) : List Submission → σ × List Text
  | [] => (s, [])
  | sub :: rest =>
    ((E.persist (E.present s sub).1 rest).1,
      (E.present s sub).2 ++ (E.persist (E.present s sub).1 rest).2)

/-- The calls up to the first that fails, that one included. -/
def untilFailure (E : Evaluator σ) (s : σ) : List Call → List Call
  | [] => []
  | call :: calls =>
    call ::
      match E.submit s call.mode call.text with
      | (s', .ok _) => E.untilFailure s' calls
      | (_, .error _) => []

/-- What is performed is what is called up to the first failure. -/
theorem untilFailure_eq (E : Evaluator σ) (s : σ) (subs : List Submission) :
    E.untilFailure s (subs.filterMap Submission.call?) = (E.perform s subs).calls := by
  induction subs generalizing s with
  | nil => rfl
  | cons sub rest ih =>
    rw [perform]
    cases calls : sub.call? with
    | none =>
      rw [List.filterMap_cons_none calls, ih]
      rfl
    | some call =>
      rw [List.filterMap_cons_some calls, untilFailure]
      rcases answered : E.submit s call.mode call.text with ⟨s', cause | output⟩
      · simp only [answered]
      · simp only [answered, ih]
        rfl

/-- Where all calls are answered nothing is passed over. -/
theorem persist_of_answers {E : Evaluator σ} {s t : σ} {subs : List Submission}
    (answers : E.Answers s (subs.filterMap Submission.call?) t) :
    (E.perform s subs).failed = none ∧
      E.persist s subs = ((E.perform s subs).evaluator, (E.perform s subs).outputs) := by
  induction subs generalizing s with
  | nil => exact ⟨rfl, rfl⟩
  | cons sub rest ih =>
    rw [perform, persist, present]
    cases calls : sub.call? with
    | none =>
      rw [List.filterMap_cons_none calls] at answers
      obtain ⟨succeeds, same⟩ := ih answers
      refine ⟨succeeds, ?_⟩
      simp only [same]
      rfl
    | some call =>
      rw [List.filterMap_cons_some calls] at answers
      obtain ⟨s', output, answered, answers⟩ := answers
      obtain ⟨succeeds, same⟩ := ih answers
      simp only [answered, same]
      exact ⟨succeeds, rfl⟩

theorem persist_recorded (E : Evaluator σ) (s : σ) (prior : List Call)
    (subs : List Submission) :
    E.recorded.persist (prior, s) subs =
      ((prior ++ subs.filterMap Submission.call?, (E.persist s subs).1), (E.persist s subs).2) := by
  induction subs generalizing s prior with
  | nil => simp [persist]
  | cons sub rest ih =>
    have presented : E.recorded.present (prior, s) sub =
        ((prior ++ sub.call?.toList, (E.present s sub).1), (E.present s sub).2) := by
      unfold present
      cases sub.call? with
      | none => simp
      | some call =>
        rcases answered : E.submit s call.mode call.text with ⟨s', cause | output⟩ <;>
          simp [recorded, answered]
    rw [persist, persist, presented, ih, List.append_assoc]
    cases calls : sub.call? with
    | none => simp [List.filterMap_cons_none calls]
    | some call => simp [List.filterMap_cons_some calls]

end Evaluator

/-! ### Typing carries out the segmentation -/

/-- What a console is like from outside. -/
structure Console.Shows (c : Console σ) (m : Mode) (running : Bool) (s : σ)
    (printed : List Text) : Prop where
  mode : c.session.mode = m
  running : c.session.running = running
  evaluator : c.evaluator = s
  printed : c.printed = printed

/-- What is submitted has the effect of the submission. -/
theorem Console.submitAtEnd_shows (E : Evaluator σ) {c : Console σ} (sub : Submission) {s : σ}
    {printed : List Text} (shows : c.Shows sub.mode true s printed) :
    (c.submitAtEnd E sub.text).Shows sub.modeAfter (sub.action ≠ .exit) (E.present s sub).1
      (printed ++ (E.present s sub).2) := by
  obtain ⟨mode, running, rfl, rfl⟩ := shows
  have dispatched : dispatch (c.session.recordCursor sub.text sub.text.byteLength).mode sub.text =
      sub.action := by
    show dispatch c.session.mode sub.text = dispatch sub.mode sub.text
    rw [mode]
  unfold Console.submitAtEnd Console.submit Session.process Submission.modeAfter
    Evaluator.present Submission.call? Submission.message?
  simp only [dispatched]
  cases action : sub.action with
  | evaluate statement =>
    obtain rfl := text_of_dispatch action
    have called : (c.session.recordCursor sub.text sub.text.byteLength).mode = sub.mode := mode
    simp only [called]
    rcases E.submit c.evaluator sub.mode sub.text with ⟨s', cause | output⟩
    · exact ⟨mode, running, rfl, (List.append_nil _).symm⟩
    · exact ⟨mode, running, rfl, rfl⟩
  | switchMode => exact ⟨rfl, running, rfl, (List.append_nil _).symm⟩
  | message => exact ⟨mode, running, rfl, rfl⟩
  | unknown => exact ⟨mode, running, rfl, (List.append_nil _).symm⟩
  | exit => exact ⟨mode, rfl, rfl, (List.append_nil _).symm⟩
  | ignore => exact ⟨mode, running, rfl, (List.append_nil _).symm⟩

/-- What a script leaves in the buffer: nothing, or the lines of the statement
inside which it ends. -/
def Ending.Leaves (k : Nat) (lines : List Text) (buffer : Text) : Ending → Prop
  | .incomplete start =>
    ∃ init rest, lines = init ++ rest ∧ rest ≠ [] ∧ start = k + init.length ∧
      buffer = Text.terminated rest
  | _ => buffer = []

/-- What the lines after some others leave is what all of them leave. -/
theorem Ending.Leaves.append {k : Nat} {run later : List Text} {buffer : Text} {ending : Ending}
    (leaves : ending.Leaves (k + run.length) later buffer) :
    ending.Leaves k (run ++ later) buffer := by
  cases ending with
  | incomplete start =>
    obtain ⟨init, rest, rfl, some, start_eq, holds⟩ := leaves
    refine ⟨run ++ init, rest, by simp, some, ?_, holds⟩
    rw [start_eq, List.length_append, Nat.add_assoc]
  | finished => exact leaves
  | exited => exact leaves

/-- A shortest accepted run is submitted. -/
theorem Console.typeLines_submission {E : Evaluator σ} {c : Console σ} {m : Mode} (k : Nat)
    {line : Text} {more later : List Text} (mode : c.session.mode = m)
    (running : c.session.running = true) (empty : c.buffer = [])
    (nonblank : line.isBlank = false) (newlineFree : Text.NewlineFree (line :: more))
    (shortest : Shortest m.AcceptsRun (line :: more)) :
    c.typeLines E (line :: more ++ later) =
      (c.submitAtEnd E (Submission.mk k m (line :: more)).text).typeLines E later := by
  have holds : c.buffer = Text.terminated [] := empty
  exact typeLines_shortest running holds (fun _ => nonblank) newlineFree (mode ▸ shortest)

/-- Typing lines carries out their segmentation. -/
theorem typeLines_persists (E : Evaluator σ) {m final : Mode} {k : Nat} {lines : List Text}
    {subs : List Submission} {ending : Ending} (segmented : Segmented m k lines subs final ending)
    (newlineFree : Text.NewlineFree lines) {c : Console σ} {s : σ} {printed : List Text}
    (shows : c.Shows m true s printed) (empty : c.buffer = []) :
    (c.typeLines E lines).Shows final (ending ≠ .exited) (E.persist s subs).1
        (printed ++ (E.persist s subs).2) ∧
      ending.Leaves k lines (c.typeLines E lines).buffer := by
  induction segmented generalizing c s printed with
  | finished =>
    refine ⟨⟨shows.mode, shows.running, shows.evaluator, ?_⟩, empty⟩
    rw [Evaluator.persist, List.append_nil]
    exact shows.printed
  | @blank m final k line lines subs ending isBlank rest ih =>
    rw [Text.newlineFree_cons] at newlineFree
    have leftOut : c.typeLine E line = c := if_pos ⟨by simp [empty], isBlank⟩
    rw [Console.typeLines, if_pos shows.running, leftOut]
    obtain ⟨shown, left⟩ := ih newlineFree.2 shows empty
    have leftAll : ending.Leaves k ([line] ++ lines) (c.typeLines E lines).buffer := left.append
    exact ⟨shown, leftAll⟩
  | @incomplete m k line lines nonblank noRun =>
    have holds : c.buffer = Text.terminated [] := empty
    have kept : ∀ first ∈ (line :: lines).head?, ([] : List Text) = [] →
        first.isBlank = false := by
      rintro first ⟨⟩ -
      exact nonblank
    obtain ⟨cursor, typed⟩ := Console.typeLines_incomplete (E := E) shows.running holds kept
      newlineFree (fun run front _ => shows.mode ▸ noRun run front)
    rw [typed]
    refine ⟨⟨shows.mode, shows.running, shows.evaluator, ?_⟩, ?_⟩
    · rw [Evaluator.persist, List.append_nil]
      exact shows.printed
    · exact ⟨[], line :: lines, rfl, by simp, rfl, rfl⟩
  | @exit m k line more later lines split nonblank shortest leaves =>
    rw [split, Text.newlineFree_append] at newlineFree
    obtain ⟨mode, stopped, evaluator, shown⟩ :=
      Console.submitAtEnd_shows E ⟨k, m, line :: more⟩ shows
    have stays : (Submission.mk k m (line :: more)).modeAfter = m := by
      unfold Submission.modeAfter
      rw [leaves]
    rw [stays] at mode
    rw [leaves] at stopped
    rw [split, Console.typeLines_submission k shows.mode shows.running empty nonblank
      newlineFree.1 shortest, Console.typeLines_of_stopped stopped]
    refine ⟨⟨mode, stopped, evaluator, ?_⟩, rfl⟩
    rw [Evaluator.persist, Evaluator.persist, List.append_nil]
    exact shown
  | @submit m final k line more later lines subs ending split nonblank shortest stays rest ih =>
    rw [split, Text.newlineFree_append] at newlineFree
    have submitted := Console.submitAtEnd_shows E ⟨k, m, line :: more⟩ shows
    rw [decide_eq_true stays] at submitted
    obtain ⟨shown, left⟩ := ih newlineFree.2 submitted rfl
    rw [split, Console.typeLines_submission k shows.mode shows.running empty nonblank
      newlineFree.1 shortest]
    refine ⟨?_, left.append⟩
    rw [Evaluator.persist, ← List.append_assoc]
    exact shown

/-- Typing a script at the prompt and running it agree.  The run makes the calls
of the session up to the first that fails; and if none does, the session has
printed what the run reports, is left in the same mode, has ended if the run was
ended by a command, and holds in its buffer the lines of the statement inside
which the run ended, if it did. -/
theorem typing_agrees_with_run (E : Evaluator σ) (m : Mode) (display : DisplaySettings)
    (prompts : PromptSettings) (s : σ) (source : Text) :
    let console := (Console.start (Session.start m display prompts) ([], s)).typeLines
      E.recorded source.lines
    let result := Runner.run E.recorded ⟨m, ([], s)⟩ source
    E.untilFailure s console.evaluator.1 = result.1.evaluator.1 ∧
      ∀ t, E.Answers s console.evaluator.1 t →
        console.evaluator = result.1.evaluator ∧ console.session.mode = result.1.mode ∧
          match result.2 with
          | .ok report =>
            console.printed = report.outputs ∧ console.session.mode = report.finalMode ∧
              console.session.running = !report.exited ∧ console.buffer = []
          | .error failure =>
            console.session.running = true ∧ ∃ init rest, source.lines = init ++ rest ∧
              rest ≠ [] ∧ console.buffer = Text.terminated rest ∧
                failure = .script (.incomplete (1 + init.length) console.session.mode.name) := by
  intro console result
  -- Both are told by the segmentation, which knows of neither.
  obtain ⟨subs, final, ending, segmented⟩ := exists_segmented m 1 source.lines
  have start : (Console.start (Session.start m display prompts) (([] : List Call), s)).Shows m
      true ([], s) [] := ⟨rfl, rfl, rfl, rfl⟩
  obtain ⟨⟨mode, running, evaluator, printed⟩, left⟩ :=
    typeLines_persists E.recorded segmented (Text.newlineFree_lines source) start rfl
  have performed : result = _ := run_recorded_performs E s segmented
  rw [E.persist_recorded, List.nil_append] at evaluator printed
  change console.evaluator = _ at evaluator
  change console.printed = _ at printed
  change console.session.mode = _ at mode
  change console.session.running = _ at running
  change ending.Leaves 1 source.lines console.buffer at left
  rw [evaluator, performed, E.untilFailure_eq]
  refine ⟨rfl, ?_⟩
  intro t answers
  obtain ⟨succeeds, same⟩ := Evaluator.persist_of_answers answers
  rw [same] at printed ⊢
  have staysFinal : (E.perform s subs).mode final = final := by
    unfold Performance.mode
    rw [succeeds]
  refine ⟨?_, mode.trans staysFinal.symm, ?_⟩
  · rw [Evaluator.calls_of_succeeds succeeds]
  unfold Performance.result
  rw [succeeds, mode]
  cases ending with
  | finished => exact ⟨printed, rfl, running, left⟩
  | exited => exact ⟨printed, rfl, running, left⟩
  | incomplete start =>
    obtain ⟨init, rest, lines, some, start_eq, holds⟩ := left
    refine ⟨running, init, rest, lines, some, holds, ?_⟩
    rw [start_eq]

end StatementShell
