import StatementShell.Scanner.Basic

/-!
# Statements of a script in the array language

A script is cut into its units, blank units are dropped, and each unit is
numbered with the line on which it starts.  What follows the last unit is the
pending part, if it is not blank.

## Main Definitions

* `Statement`: a text and the line it starts on.
* `Split`: the statements of a script and its pending part.
* `Split.ofText`: the split of a script.
-/

namespace StatementShell

/-- A piece of a script. -/
structure Statement where
  /-- The line on which the piece starts, counted from one. -/
  line : Nat
  /-- The piece without the newlines at its end. -/
  text : Text
  deriving DecidableEq, Repr

/-- A script in pieces. -/
structure Split where
  /-- The complete statements, in order. -/
  statements : List Statement
  /-- What is left open at the end. -/
  pending : Option Statement
  deriving DecidableEq, Repr

namespace Split

/-- The statement a unit holds, unless it is blank. -/
def statement? (line : Nat) (unit : Text) : Option Statement :=
  if unit.isBlank then none else some ⟨line, unit.trimEndNewlines⟩

/-- Numbers units that follow one another from a given line on; the next unit
starts as many lines later as the unit has newlines. -/
def number (line : Nat) : List Text → Text → Split
  | [], rest => ⟨[], statement? line rest⟩
  | unit :: units, rest =>
    let tail := number (line + unit.count '\n') units rest
    ⟨(statement? line unit).toList ++ tail.statements, tail.pending⟩

/-- The statements of a script, each cut out by a fresh scanner. -/
def ofText (source : Text) : Split :=
  let pieces := cut (Text.terminated source.lines)
  number 1 pieces.units pieces.last.consumed

end Split

end StatementShell
