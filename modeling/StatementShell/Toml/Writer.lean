import StatementShell.Document.Value
import StatementShell.Toml.Quoted

/-!
# Writing TOML

A document of tables that hold plain values: each table has its header line and
a line for each of its pairs, and an empty line stands between tables.

## Main Definitions

* `Toml.Plain`: the values that are written.
* `Toml.Section`: a table with its name.
* `Toml.writeSections`: a document.
-/

namespace StatementShell.Toml

/-- A value that is no array and no table. -/
inductive Plain where
  | text (t : Text)
  | natural (n : Nat)
  | boolean (b : Bool)
  deriving DecidableEq, Repr

namespace Plain

/-- The written form of a value. -/
def write : Plain → Text
  | text t => writeString t
  | natural n => Text.ofNat n
  | boolean true => "true".toList
  | boolean false => "false".toList

/-- A value as part of a document. -/
def toValue : Plain → Document.Value
  | text t => .text t
  | natural n => .integer n
  | boolean b => .boolean b

end Plain

/-- A table of plain values with its name. -/
structure Section where
  name : Text
  pairs : List (Text × Plain)
  deriving DecidableEq, Repr

/-- The line of a pair. -/
def writePair (pair : Text × Plain) : Text :=
  pair.1 ++ " = ".toList ++ pair.2.write ++ ['\n']

/-- The lines of a table. -/
def Section.write (s : Section) : Text :=
  '[' :: s.name ++ "]\n".toList ++ s.pairs.flatMap writePair

/-- A document, with an empty line between neighbouring tables. -/
def writeSections : List Section → Text
  | [] => []
  | [s] => s.write
  | s :: next :: rest => s.write ++ '\n' :: writeSections (next :: rest)

end StatementShell.Toml
