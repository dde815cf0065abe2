import StatementShell.Text.Basic

/-!
# Language modes

The shell reads one of two languages at a time.
-/

namespace StatementShell

/-- The language the shell reads. -/
inductive Mode where
  /-- The array language. -/
  | array
  /-- The SQL dialect. -/
  | sql
  deriving DecidableEq, Repr

namespace Mode

/-- The name of a mode. -/
def name : Mode → Text
  | array => "array".toList
  | sql => "sql".toList

/-- The mode of a name, written exactly. -/
def ofName? (t : Text) : Option Mode :=
  if t = "array".toList then some array
  else if t = "sql".toList then some sql
  else none

@[simp] theorem ofName?_name (m : Mode) : ofName? m.name = some m := by
  cases m <;> decide

end Mode

end StatementShell
