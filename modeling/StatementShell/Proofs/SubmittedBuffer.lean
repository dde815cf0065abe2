import StatementShell.Proofs.SplitAgreement
import StatementShell.Session

/-!
# What the prompt submits

Enter submits a buffer of the array language when the scanner finds a boundary in
it, and what is submitted is the whole buffer.  The boundary need not be at its end.
It is where the buffer was grown line by line, since then no run of lines at its
front was accepted before: the buffer is one statement, and nothing in it is left
open.  A buffer that was pasted, recalled or edited above its last line may hold a
boundary early on and end inside a bracket, a literal or a comment all the same.

## Main Definitions

* `Session.CursorAtEnd`: the cursor is taken to be on the last line.

## Main Results

* `submitted_buffer_is_statement`: a buffer that was grown line by line is one
  statement.
* `open_bracket_is_submitted`: a buffer with an open bracket at its end that is
  submitted.
-/

namespace StatementShell

/-! ### The cursor -/

/-- No line is recorded for a buffer but its last one. -/
def Session.CursorAtEnd (s : Session) (buffer : Text) : Prop :=
  ∀ line ∈ s.cursorLine buffer, line = buffer.bufferLines.length - 1

theorem Session.CursorAtEnd.validate_eq {s : Session} {buffer : Text}
    (atEnd : s.CursorAtEnd buffer) :
    s.validate buffer = s.mode.accepts buffer.bufferLines (buffer.bufferLines.length - 1) := by
  unfold Session.validate
  cases recorded : s.cursorLine buffer with
  | none => rfl
  | some line =>
    obtain rfl := atEnd line recorded
    simp

/-! ### The lines of a buffer and of a script -/

/-- Carriage returns apart, a buffer and a script have the same lines where the last
of them is not empty. -/
theorem Text.map_withoutReturns_lines {t : Text} {init : List Text} {last : Text}
    (pieces : t.bufferLines = init ++ [last]) (holds : last ≠ []) :
    t.lines.map withoutReturns = t.bufferLines.map withoutReturns := by
  rw [lines, pieces]
  clear pieces
  induction init with
  | nil => rw [List.nil_append, closeLines, if_neg holds]
  | cons line init ih =>
    obtain ⟨next, rest, split⟩ := List.exists_cons_of_ne_nil
      (List.append_ne_nil_of_right_ne_nil init (List.cons_ne_nil last []))
    rw [List.cons_append, split, closeLines, List.map_cons, List.map_cons,
      withoutReturns_dropFinalReturn, ← split, ih]

/-! ### Submission -/

/-- A text whose last line is not empty is split by the lines of the buffer that it is. -/
theorem Split.ofText_eq_ofLines {t : Text} {init : List Text} {last : Text}
    (pieces : t.bufferLines = init ++ [last]) (holds : last ≠ []) :
    ofText t = ofLines 1 (init ++ [last]) := by
  rw [ofText_eq, ← ofLines_withoutReturns, Text.map_withoutReturns_lines pieces holds,
    ofLines_withoutReturns, pieces]

/-- A buffer that is one unit is split into one statement, with nothing pending. -/
theorem Split.ofText_of_completedBy {buffer : Text} {init : List Text} {last : Text}
    (pieces : buffer.bufferLines = init ++ [last]) (completed : CompletedBy init last)
    (nonblank : buffer.isBlank = false) :
    ofText buffer = ⟨[⟨1, Text.withoutReturns buffer⟩], none⟩ := by
  have newlineFree := Text.newlineFree_bufferLines buffer
  have joined := Text.join_bufferLines buffer
  rw [pieces] at newlineFree joined
  have holds : (Text.terminated (init ++ [last])).isBlank = false := by
    rw [Text.terminated_eq_join (by simp), joined]
    unfold Text.isBlank at nonblank ⊢
    rw [List.all_append, nonblank, Bool.false_and]
  have lastHolds : last ≠ [] := by
    rintro rfl
    exact Bool.noConfusion (completed.isBlank_last holds)
  have oneUnit : ofLines 1 (init ++ last :: []) = _ :=
    ofLines_statement newlineFree completed holds
  rw [ofText_eq_ofLines pieces lastHolds, oneUnit, joined]
  rfl

/-- In the array language a buffer that is submitted with the cursor at its end, and
no run of lines at the front of which was accepted before, is one statement with
nothing left open. -/
theorem submitted_buffer_is_statement {s : Session} {buffer text : Text}
    (array : s.mode = .array) (atEnd : s.CursorAtEnd buffer)
    (submits : s.validate buffer = true) (evaluates : dispatch .array buffer = .evaluate text)
    (grown : ∀ front, front <+: buffer.bufferLines → Mode.array.AcceptsRun front →
      front = buffer.bufferLines) :
    text = buffer ∧ Split.ofText buffer = ⟨[⟨1, Text.withoutReturns buffer⟩], none⟩ := by
  obtain ⟨nonblank, notCommand, rfl⟩ := dispatch_eq_evaluate_iff.mp evaluates
  refine ⟨rfl, ?_⟩
  have isComplete : (scanLines text.bufferLines).isComplete = true := by
    rw [atEnd.validate_eq, array, Mode.accepts, notCommand, Bool.false_or,
      Bool.and_eq_true] at submits
    exact submits.2
  obtain ⟨init, last, tail, split, completed⟩ :=
    (scanLines_isComplete_iff (Text.newlineFree_bufferLines text)).mp isComplete
  -- The first unit is a run that is accepted, so it is the whole buffer.
  have accepted : Mode.array.AcceptsRun (init ++ [last]) :=
    Mode.acceptsRun_iff.mpr ⟨by simp, Or.inr (completed.isComplete [])⟩
  have whole := grown (init ++ [last]) ⟨tail, by rw [split]; simp⟩ accepted
  exact Split.ofText_of_completedBy whole.symm completed nonblank

/-- A bracket that is closed on the second line. -/
theorem submitted_bracket_over_two_lines :
    let s := Session.start .array ⟨true, true⟩ .standard
    let buffer : Text := "(1\n2)".toList
    s.mode = .array ∧ s.CursorAtEnd buffer ∧ s.validate buffer = true ∧
      dispatch .array buffer = .evaluate buffer ∧
      (∀ front, front <+: buffer.bufferLines → Mode.array.AcceptsRun front →
        front = buffer.bufferLines) ∧
      Split.ofText buffer = ⟨[⟨1, buffer⟩], none⟩ := by
  intro s buffer
  have atEnd : s.CursorAtEnd buffer := by
    rintro line ⟨⟩
  have submits : s.validate buffer = true := by decide
  have evaluates : dispatch .array buffer = .evaluate buffer := by decide
  have grown : ∀ front, front <+: buffer.bufferLines → Mode.array.AcceptsRun front →
      front = buffer.bufferLines := by
    intro front within accepted
    have pieces : buffer.bufferLines = ["(1".toList, "2)".toList] := by decide
    rw [pieces] at within ⊢
    rcases List.prefix_cons_iff.mp within with rfl | ⟨more, rfl, moreWithin⟩
    · exact absurd rfl accepted.1
    · rcases List.prefix_cons_iff.mp moreWithin with rfl | ⟨rest, rfl, restWithin⟩
      · exact absurd accepted.2 (by decide)
      · rw [List.prefix_nil.mp restWithin]
  exact ⟨rfl, atEnd, submits, evaluates, grown,
    (submitted_buffer_is_statement rfl atEnd submits evaluates grown).2⟩

/-- A buffer of two lines, the first of which is complete and the second of which
opens a bracket, is submitted although something is pending in it. -/
theorem open_bracket_is_submitted :
    ¬ ∀ (s : Session) (buffer text : Text), s.mode = .array → s.CursorAtEnd buffer →
      s.validate buffer = true → dispatch .array buffer = .evaluate text →
        text = buffer ∧ (Split.ofText buffer).pending = none := by
  intro whole
  have atEnd : (Session.start .array ⟨true, true⟩ .standard).CursorAtEnd "1\n(2".toList := by
    rintro line ⟨⟩
  have closed := whole (.start .array ⟨true, true⟩ .standard) "1\n(2".toList "1\n(2".toList rfl
    atEnd (by decide) (by decide)
  have pending : (Split.ofText "1\n(2".toList).pending = some ⟨2, "(2".toList⟩ := by decide
  rw [pending] at closed
  cases closed.2

end StatementShell
