import StatementShell.Action
import StatementShell.Completion
import StatementShell.Highlight.Basic
import StatementShell.Settings.Basic

/-!
# An interactive session

The parts of the line editor share one state.  The highlighter repaints the
edit buffer on every change and tells where the cursor is; the validator, which
is asked whether Enter submits the buffer, reads the cursor back from there.

## Main Definitions

* `Session`: the shared state.
* `Session.highlight`: repaints a buffer and records the cursor.
* `Session.validate`: whether Enter submits a buffer.
* `Session.process`: the effect of a submitted buffer.
* `Prompt`: what is shown before the input.
-/

namespace StatementShell

/-- The line of the cursor within one buffer. -/
structure CursorRecord where
  buffer : Text
  /-- The index of the line. -/
  line : Nat
  deriving DecidableEq, Repr

/-- The state that the parts of the line editor share. -/
structure Session where
  /-- The active mode. -/
  mode : Mode
  display : DisplaySettings
  prompts : PromptSettings
  /-- Where the cursor was at the last repaint. -/
  cursor : Option CursorRecord
  /-- Whether the shell still reads input. -/
  running : Bool
  deriving DecidableEq, Repr

/-- What is shown before the input. -/
structure Prompt where
  left : Text
  right : Text
  indicator : Text
  continuation : Text
  deriving DecidableEq, Repr

namespace Text

/-- The number of newlines among the first bytes of a text. -/
def newlinesWithin (bytes : Nat) : Text → Nat
  | [] => 0
  | c :: rest =>
    if bytes = 0 then 0
    else (if c = '\n' then 1 else 0) + newlinesWithin (bytes - c.utf8Size) rest

/-- No more newlines than the text has. -/
theorem newlinesWithin_le_count (bytes : Nat) (t : Text) :
    newlinesWithin bytes t ≤ t.count '\n' := by
  induction t generalizing bytes with
  | nil => simp [newlinesWithin]
  | cons c rest ih =>
    have := ih (bytes - c.utf8Size)
    simp only [newlinesWithin, List.count_cons, beq_iff_eq]
    repeat' split
    all_goals omega

end Text

namespace Session

/-- A session at its start. -/
def start (mode : Mode) (display : DisplaySettings) (prompts : PromptSettings) :
    Session := ⟨mode, display, prompts, none, true⟩

/-- A session in another mode. -/
def setMode (s : Session) (mode : Mode) : Session := { s with mode }

/-- A session that reads no more input. -/
def stop (s : Session) : Session := { s with running := false }

/-! ### The cursor -/

/-- Remembers the line of the cursor, which is given as a byte offset. -/
def recordCursor (s : Session) (buffer : Text) (offset : Nat) : Session :=
  { s with cursor := some ⟨buffer, Text.newlinesWithin offset buffer⟩ }

/-- The line recorded for exactly this buffer. -/
def cursorLine (s : Session) (buffer : Text) : Option Nat :=
  (s.cursor.filter fun record => record.buffer = buffer).map (·.line)

/-! ### The editor's questions -/

/-- Repaints a buffer. -/
def highlight (s : Session) (buffer : Text) (offset : Nat) :
    Session × List Segment :=
  (s.recordCursor buffer offset,
    StatementShell.highlight s.mode
      (s.display.syntaxHighlighting && s.display.colorOutput) buffer)

/-- Whether Enter submits a buffer.  Where no line is recorded for it the cursor
is on the last line. -/
def validate (s : Session) (buffer : Text) : Bool :=
  let lines := buffer.bufferLines
  let last := lines.length - 1
  s.mode.accepts lines (((s.cursorLine buffer).map (min · last)).getD last)

/-- The prompt of the active mode; its marker is part of the left side. -/
def prompt (s : Session) : Prompt :=
  ⟨s.prompts.main s.mode, [], [], s.prompts.continuationPrompt⟩

/-- What is shown while the history is searched. -/
def historySearch (term : Text) (failing : Bool) : Text :=
  (if failing then "(failing reverse-search: " else "(reverse-search: ").toList ++
    term ++ ") ".toList

/-- Routes a submitted buffer and applies its effect on the session. -/
def process (s : Session) (buffer : Text) : Session × Action :=
  let action := dispatch s.mode buffer
  match action with
  | .switchMode mode => (s.setMode mode, action)
  | .exit => (s.stop, action)
  | _ => (s, action)

end Session

end StatementShell
