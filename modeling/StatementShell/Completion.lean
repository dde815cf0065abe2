import StatementShell.Command
import StatementShell.Scanner.Basic

/-!
# Completion rules

Enter either submits the edit buffer or opens a continuation line.  A single
system command is always submitted.  Otherwise the cursor must be on the last
line, and

* in the array language the scanner must find a boundary,
* in the SQL dialect the last line must end with the terminator; white space
  after it leaves the statement open, and nothing else is looked at.

## Main Definitions

* `Mode.accepts`: the completion rule of a mode.
-/

namespace StatementShell.Mode

/-- Whether the lines are a complete input of the language itself, the cursor
being on the last of them. -/
def acceptsLines : Mode → List Text → Bool
  | array, lines => (scanLines lines).isComplete
  | sql, lines =>
    match lines.getLast? with
    | some last => last.getLast? == some Lexis.sqlTerminator
    | none => false

/-- Whether Enter submits the lines with the cursor on the line of the given
index. -/
def accepts (m : Mode) (lines : List Text) (cursor : Nat) : Bool :=
  isSystemCommand lines || (cursor + 1 == lines.length && m.acceptsLines lines)

/-- A system command is accepted in every mode and wherever the cursor is. -/
theorem accepts_of_isSystemCommand (m : Mode) {lines : List Text} (cursor : Nat)
    (h : isSystemCommand lines = true) : m.accepts lines cursor = true := by
  simp [accepts, h]

end StatementShell.Mode
