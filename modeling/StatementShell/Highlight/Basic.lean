import StatementShell.Command
import StatementShell.Highlight.Array
import StatementShell.Highlight.Sql

/-!
# Highlighting of the edit buffer

## Main Definitions

* `highlight`: the segments of a buffer in a mode.
-/

namespace StatementShell

/-- The segments of a buffer.  Without colours the buffer is one plain segment,
and a system command is one segment whatever the mode. -/
def highlight (mode : Mode) (colors : Bool) (buffer : Text) : List Segment :=
  if !colors then [⟨.plain, buffer⟩]
  else if isSystemCommand buffer.bufferLines then [⟨.boldly .magenta, buffer⟩]
  else
    match mode with
    | .array => Highlight.arraySegments buffer
    | .sql => Highlight.sqlSegments buffer

end StatementShell
