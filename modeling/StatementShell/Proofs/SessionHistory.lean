import StatementShell.Inspection
import StatementShell.Proofs.CommandDetection

/-!
# Enter after any history of a session

Enter asks the validator, and the validator answers from what the session remembers:
the mode, and the line of the cursor in one buffer.  Both are left behind by other parts
of the editor at other times, so the answer depends on everything that was done to the
session before.  Little of that history counts: the operation that set the mode last, and
the operation that recorded a cursor last.  With these two the answer is the verdict that
an inspection gives on the buffer as it would be saved, with a newline at its end.

The cursor is recorded as a number of bytes and counted in newlines.  A newline is one byte
that no other character has in its encoding, so an offset into the middle of a character
counts neither more nor less than its front.

## Main Definitions

* `Text.utf8`: the bytes of a text.
* `Session.Operation`, `Session.afterAll`: what is done to a session, and what it leaves.
* `Session.lastMode`, `Session.lastLine`: what of a history counts.

## Main Results

* `Text.newlinesWithin_eq_count`: newlines are counted among the bytes.
* `Session.mode_afterAll`, `Session.cursorLine_afterAll`: what a history leaves behind.
* `enter_agrees_with_inspection`: Enter and an inspection give the same verdict.
-/

namespace StatementShell

/-! ### Newlines among bytes -/

namespace Text

/-- The bytes of a text in UTF-8. -/
def utf8 (t : Text) : List UInt8 := t.flatMap String.utf8EncodeChar

theorem utf8_cons (c : Char) (t : Text) : utf8 (c :: t) = String.utf8EncodeChar c ++ utf8 t :=
  List.flatMap_cons

theorem length_utf8 (t : Text) : t.utf8.length = t.byteLength := by
  induction t with
  | nil => rfl
  | cons c t ih =>
    rw [utf8_cons, List.length_append, String.length_utf8EncodeChar, ih, byteLength_cons]

/-- The byte of a newline stands in the encoding of no other character: the bytes of a
character that takes more than one are all from the upper half. -/
theorem newline_not_mem_utf8EncodeChar {c : Char} (other : c ≠ '\n') :
    (10 : UInt8) ∉ String.utf8EncodeChar c := by
  have otherCode : c.val.toNat ≠ 10 :=
    fun same => other (Char.ext (UInt32.toNat_inj.mp same))
  unfold String.utf8EncodeChar
  generalize c.val.toNat = code at otherCode
  simp only
  repeat' split
  all_goals
    simp only [List.mem_cons, List.not_mem_nil, ← UInt8.toNat_inj, UInt8.toNat_ofNat',
      UInt8.toNat_ofNat, or_false]
    omega

/-- Counting the newlines among the first bytes of a text is counting newlines among its
bytes, wherever the last of these bytes falls. -/
theorem newlinesWithin_eq_count (bytes : Nat) (t : Text) :
    newlinesWithin bytes t = (t.utf8.take (min bytes t.byteLength)).count 10 := by
  rw [← length_utf8, ← List.take_eq_take_min]
  induction t generalizing bytes with
  | nil => simp [newlinesWithin, utf8]
  | cons c t ih =>
    rw [newlinesWithin, utf8_cons, List.take_append, List.count_append,
      String.length_utf8EncodeChar, ← ih]
    by_cases noBytes : bytes = 0
    · subst noBytes
      cases t <;> simp [newlinesWithin]
    · rw [if_neg noBytes]
      congr 1
      split
      · case isTrue newline =>
        subst newline
        have oneByte : String.utf8EncodeChar '\n' = [10] := by decide
        rw [oneByte, List.take_of_length_le (Nat.one_le_iff_ne_zero.mpr noBytes)]
        rfl
      · case isFalse other =>
        refine (List.count_eq_zero.mpr ?_).symm
        exact fun member => newline_not_mem_utf8EncodeChar other (List.mem_of_mem_take member)

end Text

/-! ### Histories -/

namespace Session

/-- What is done to a session, or asked of it. -/
inductive Operation where
  | recordCursor (buffer : Text) (offset : Nat)
  | highlight (buffer : Text) (offset : Nat)
  | setMode (mode : Mode)
  | process (buffer : Text)
  | validate (buffer : Text)
  | prompt
  | stop
  deriving DecidableEq, Repr

/-- The session after an operation.  Validating a buffer and showing the prompt ask only. -/
def after (s : Session) : Operation → Session
  | .recordCursor buffer offset => s.recordCursor buffer offset
  | .highlight buffer offset => (s.highlight buffer offset).1
  | .setMode mode => s.setMode mode
  | .process buffer => (s.process buffer).1
  | .stop => s.stop
  | .validate _ | .prompt => s

/-- The session after a history. -/
def afterAll (s : Session) (history : List Operation) : Session := history.foldl after s

/-- The mode that an operation sets.  Of the buffers that are processed only the commands
that switch the mode set one. -/
def Operation.mode? : Operation → Option Mode
  | setMode mode => some mode
  | process buffer =>
    if SpellsCommand buffer then
      match Command.parse buffer with
      | some (.switchMode mode) => some mode
      | _ => none
    else none
  | _ => none

/-- The buffer and the byte offset of the cursor that an operation records. -/
def Operation.recorded? : Operation → Option (Text × Nat)
  | recordCursor buffer offset | highlight buffer offset => some (buffer, offset)
  | _ => none

/-- The mode that was set last. -/
def lastMode (initial : Mode) (history : List Operation) : Mode :=
  (history.filterMap Operation.mode?).getLast?.getD initial

/-- The line of the cursor that was recorded last, if it was recorded for this buffer: the
newlines among the bytes of the buffer in front of it. -/
def lastLine (history : List Operation) (buffer : Text) : Option Nat :=
  ((history.filterMap Operation.recorded?).getLast?.filter fun record => record.1 = buffer).map
    fun record => (buffer.utf8.take (min record.2 buffer.byteLength)).count 10

variable {s : Session}

/-! ### One operation -/

theorem mode_after (s : Session) (operation : Operation) :
    (s.after operation).mode = operation.mode?.getD s.mode := by
  cases operation with
  | process buffer =>
    by_cases spells : SpellsCommand buffer
    · obtain ⟨command, parsed, dispatched⟩ := spells.dispatch_eq
      rw [Operation.mode?, if_pos spells, parsed, after, process, dispatched]
      cases command <;> rfl
    · rw [Operation.mode?, if_neg spells, after, process, dispatch_of_not_spellsCommand spells]
      cases buffer.isBlank <;> rfl
  | _ => rfl

/-- No operation but a recording one changes what is remembered of the cursor. -/
theorem cursor_after_of_recorded?_eq_none {operation : Operation}
    (recordsNothing : operation.recorded? = none) : (s.after operation).cursor = s.cursor := by
  cases operation with
  | process buffer =>
    rw [after, process]
    cases dispatch s.mode buffer <;> rfl
  | recordCursor | highlight => simp [Operation.recorded?] at recordsNothing
  | _ => rfl

theorem cursor_after_of_recorded?_eq_some {operation : Operation} {buffer : Text} {offset : Nat}
    (records : operation.recorded? = some (buffer, offset)) :
    (s.after operation).cursor = some ⟨buffer, Text.newlinesWithin offset buffer⟩ := by
  cases operation with
  | recordCursor | highlight =>
    obtain ⟨rfl, rfl⟩ : _ = buffer ∧ _ = offset := by simpa [Operation.recorded?] using records
    rfl
  | _ => simp [Operation.recorded?] at records

/-! ### A whole history -/

theorem afterAll_concat (s : Session) (history : List Operation) (operation : Operation) :
    s.afterAll (history ++ [operation]) = (s.afterAll history).after operation := by
  simp [afterAll]

/-- A history leaves the mode behind that it set last. -/
theorem mode_afterAll (s : Session) (history : List Operation) :
    (s.afterAll history).mode = lastMode s.mode history := by
  induction history using List.reverseRecOn with
  | nil => rfl
  | append_singleton history operation ih =>
    rw [afterAll_concat, mode_after, ih, lastMode, lastMode, List.filterMap_append]
    cases sets : operation.mode? <;> simp [sets]

/-- A history leaves the cursor behind that it recorded last. -/
theorem cursor_afterAll (fresh : s.cursor = none) (history : List Operation) :
    (s.afterAll history).cursor = (history.filterMap Operation.recorded?).getLast?.map
      fun record => ⟨record.1, Text.newlinesWithin record.2 record.1⟩ := by
  induction history using List.reverseRecOn with
  | nil => exact fresh
  | append_singleton history operation ih =>
    rw [afterAll_concat, List.filterMap_append]
    cases records : operation.recorded? with
    | none => rw [cursor_after_of_recorded?_eq_none records, ih]; simp [records]
    | some record => rw [cursor_after_of_recorded?_eq_some records]; simp [records]

theorem cursorLine_afterAll (fresh : s.cursor = none) (history : List Operation)
    (buffer : Text) : (s.afterAll history).cursorLine buffer = lastLine history buffer := by
  rw [cursorLine, cursor_afterAll fresh, lastLine]
  cases (history.filterMap Operation.recorded?).getLast? with
  | none => rfl
  | some record =>
    by_cases same : record.1 = buffer
    · subst same
      simp [Option.filter, Text.newlinesWithin_eq_count]
    · simp [Option.filter, same]

/-- The line of a cursor is a line of the buffer. -/
theorem lastLine_le (history : List Operation) (buffer : Text) :
    ∀ line ∈ lastLine history buffer, line ≤ buffer.bufferLines.length - 1 := by
  intro line recorded
  obtain ⟨record, -, rfl⟩ := Option.map_eq_some_iff.mp recorded
  have newlines := Text.count_newline_join (Text.bufferLines_ne_nil buffer)
    (Text.newlineFree_bufferLines buffer)
  rw [Text.join_bufferLines] at newlines
  rw [← Text.newlinesWithin_eq_count, ← newlines]
  exact Text.newlinesWithin_le_count ..

end Session

/-! ### The verdict -/

/-- Saved with a newline at its end, a buffer has the lines that it had in the editor, unless
one of them ends with a carriage return. -/
theorem Inspection.linesOf_append_newline {buffer : Text}
    (noReturns : ∀ line ∈ buffer.bufferLines, line.getLast? ≠ some '\r') :
    linesOf (buffer ++ ['\n']) = buffer.bufferLines := by
  have kept : ∀ line ∈ buffer.bufferLines, Text.dropFinalReturn line = line :=
    fun line member => if_neg (noReturns line member)
  rw [linesOf, dropFinalNewline, if_pos List.getLast?_concat, List.dropLast_concat,
    List.map_congr_left kept, List.map_id']

/-- **Enter and an inspection agree.**  After any history Enter gives on a buffer the
verdict of an inspection of the buffer with a newline at its end, in the mode that was set
last and with the cursor that was recorded last, if it was recorded for this buffer.  A
cursor is on a line of its buffer, and only recording changes it. -/
theorem enter_agrees_with_inspection (initial : Mode) (display : DisplaySettings)
    (prompts : PromptSettings) (history : List Session.Operation) (buffer : Text)
    (noReturns : ∀ line ∈ buffer.bufferLines, line.getLast? ≠ some '\r') :
    let s := (Session.start initial display prompts).afterAll history
    let line := Session.lastLine history buffer
    s.validate buffer =
        (Inspection.ofText (Session.lastMode initial history) (buffer ++ ['\n']) line).complete ∧
      s.cursorLine buffer = line ∧ (∀ k ∈ line, k ≤ buffer.bufferLines.length - 1) ∧
      ∀ operation : Session.Operation, operation.recorded? = none →
        (s.after operation).cursor = s.cursor := by
  intro s line
  have recorded : s.cursorLine buffer = line := Session.cursorLine_afterAll rfl history buffer
  have within : ∀ k ∈ line, k ≤ buffer.bufferLines.length - 1 :=
    Session.lastLine_le history buffer
  refine ⟨?_, recorded, within, fun _ => Session.cursor_after_of_recorded?_eq_none⟩
  have mode : s.mode = Session.lastMode initial history := Session.mode_afterAll _ history
  rw [Session.validate, recorded, mode, Inspection.ofText,
    Inspection.linesOf_append_newline noReturns]
  cases known : line with
  | none => rfl
  | some k => rw [Option.map_some, Nat.min_eq_left (within k known)]

/-- A switch to SQL, a cursor recorded for another buffer, and one recorded between the two
bytes of a character on the last line. -/
theorem enter_after_switch_with_cursor_in_character :
    let history : List Session.Operation := [.process ")sql".toList, .recordCursor "1".toList 7,
      .highlight "a;\né;".toList 4, .prompt]
    let s := (Session.start .array ⟨true, true⟩ .standard).afterAll history
    (∀ line ∈ Text.bufferLines "a;\né;".toList, line.getLast? ≠ some '\r') ∧
      Session.lastMode .array history = .sql ∧
      Session.lastLine history "a;\né;".toList = some 1 ∧ s.validate "a;\né;".toList = true ∧
      (Inspection.ofText .sql "a;\né;\n".toList (some 1)).complete = true := by
  intro history s
  have noReturns : ∀ line ∈ Text.bufferLines "a;\né;".toList, line.getLast? ≠ some '\r' := by
    decide
  have mode : Session.lastMode .array history = .sql := by decide
  have line : Session.lastLine history "a;\né;".toList = some 1 := by decide
  have complete : (Inspection.ofText .sql "a;\né;\n".toList (some 1)).complete = true := by
    decide
  have agrees := (enter_agrees_with_inspection .array ⟨true, true⟩ .standard history
    "a;\né;".toList noReturns).1
  rw [mode, line] at agrees
  exact ⟨noReturns, mode, line, agrees.trans complete, complete⟩

end StatementShell
