import StatementShell.Inspection
import StatementShell.Json.Writer
import StatementShell.Statement

/-!
# Reports of the subcommands

## Main Definitions

* `Inspection.report`: an inspection in words or in JSON.
* `Split.report`: the statements of a text in words or in JSON.
-/

namespace StatementShell

namespace Text

/-- Lines of output. -/
def outputLine (t : Text) : Text := t ++ ['\n']

end Text

namespace Inspection

/-- An inspection in JSON. -/
def toJson (i : Inspection) : Json :=
  .object
    [("mode".toList, .text i.mode.name),
     ("complete".toList, .boolean i.complete),
     ("lines".toList, .natural i.lines),
     ("cursor_line".toList, .natural i.cursorLine)]

/-- An inspection in words. -/
def summary (i : Inspection) : Text :=
  (if i.complete then "complete (" else "incomplete (").toList ++ i.mode.name ++
    " mode, ".toList ++ Text.ofNat i.lines ++ " lines)".toList

/-- The report of an inspection. -/
def report (i : Inspection) (json : Bool) : Text :=
  Text.outputLine (if json then i.toJson.pretty else i.summary)

end Inspection

namespace Statement

/-- A statement in JSON. -/
def toJson (s : Statement) : Json :=
  .object [("line".toList, .natural s.line), ("text".toList, .text s.text)]

/-- A statement below a line with its number. -/
def listing (s : Statement) : Text :=
  Text.outputLine ("-- line ".toList ++ Text.ofNat s.line) ++ Text.outputLine s.text

end Statement

namespace Split

/-- The statements of a text in JSON. -/
def toJson (s : Split) : Json :=
  .object
    [("statements".toList, .list (s.statements.map Statement.toJson)),
     ("pending".toList,
      match s.pending with
      | some p => p.toJson
      | none => .null)]

/-- The report on the statements of a text. -/
def report (s : Split) (json : Bool) : Text :=
  if json then Text.outputLine s.toJson.pretty else s.statements.flatMap Statement.listing

/-- The complaint about a part that is left open; JSON has it in the report. -/
def complaint (s : Split) (json : Bool) : List Text :=
  match s.pending with
  | some p =>
    if json then []
    else ["Unterminated statement starting at line ".toList ++ Text.ofNat p.line]
  | none => []

end Split

end StatementShell
