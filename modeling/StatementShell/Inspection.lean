import StatementShell.Completion

/-!
# Inspection of a buffer

The verdict that Enter would give on a text, for use outside the editor.  One
newline at the end of the text and one carriage return at the end of each line
are not part of the buffer.

## Main Definitions

* `Inspection`: the verdict and where it was taken.
* `Inspection.ofText`: the inspection of a text.
-/

namespace StatementShell

/-- The verdict on a text in a mode. -/
structure Inspection where
  mode : Mode
  /-- Whether Enter would submit the buffer. -/
  complete : Bool
  /-- The number of lines. -/
  lines : Nat
  /-- The index of the line the cursor was taken to be on. -/
  cursorLine : Nat
  deriving DecidableEq, Repr

namespace Inspection

/-- A text without one newline at its end. -/
def dropFinalNewline (t : Text) : Text :=
  if t.getLast? = some '\n' then t.dropLast else t

/-- The lines of the buffer that a text is. -/
def linesOf (t : Text) : List Text :=
  (dropFinalNewline t).bufferLines.map Text.dropFinalReturn

/-- Inspects a text with the cursor on a line, or else on the last one. -/
def ofText (mode : Mode) (t : Text) (cursor : Option Nat) : Inspection :=
  let lines := linesOf t
  let line := cursor.getD (lines.length - 1)
  ⟨mode, mode.accepts lines line, lines.length, line⟩

end Inspection

end StatementShell
