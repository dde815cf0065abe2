import StatementShell.Lexis
import StatementShell.Mode

/-!
# System commands

A buffer of exactly one line that starts with the system command mark is a
system command.  It is read before any rule of a language and never reaches an
evaluator.

## Main Definitions

* `isSystemCommand`: the test on the lines of a buffer.
* `Command`: the commands.
* `Command.parse`: the command a line spells.
* `Command.helpText`: the list of commands shown to the user.
-/

namespace StatementShell

/-- Whether the lines of a buffer are a single system command. -/
def isSystemCommand : List Text → Bool
  | [line] => line.head? == some Lexis.systemCommandMark
  | _ => false

/-- A system command. -/
inductive Command where
  /-- Read another language from now on. -/
  | switchMode (mode : Mode)
  /-- Show the active mode. -/
  | showMode
  /-- List the commands. -/
  | help
  /-- Leave the shell. -/
  | exit
  /-- None of the above; the text after the mark. -/
  | unknown (body : Text)
  deriving DecidableEq, Repr

namespace Command

/-- The command that a word names, whatever the case of its letters. -/
def ofWord? (word : Text) : Option Command :=
  let name := word.asciiLower
  if name = "sql".toList then some (.switchMode .sql)
  else if name = "array".toList ∨ name = "q".toList then some (.switchMode .array)
  else if name = "mode".toList then some .showMode
  else if name = "help".toList ∨ name = "?".toList then some .help
  else if name = "exit".toList ∨ name = "quit".toList then some .exit
  else none

/-- The command a line spells, if the line starts with the mark.  Only the first
word after the mark counts. -/
def parse : Text → Option Command
  | [] => none
  | c :: rest =>
    if c = Lexis.systemCommandMark then
      let body := Text.trim rest
      some ((ofWord? body.firstWord).getD (.unknown body))
    else none

/-- The list of commands. -/
def helpText : Text :=
  ("System commands:\n" ++
    "  )sql          switch to the SQL dialect\n" ++
    "  )array, )q    switch to the array language\n" ++
    "  )mode         show the active mode\n" ++
    "  )help         show this help\n" ++
    "  )exit, )quit  leave the shell").toList

/-- Exactly the lines that start with the mark spell a command. -/
theorem isSome_parse_iff (line : Text) :
    (parse line).isSome ↔ line.head? = some Lexis.systemCommandMark := by
  cases line with
  | nil => simp [parse]
  | cons c rest => by_cases h : c = Lexis.systemCommandMark <;> simp [parse, h]

end Command

end StatementShell
