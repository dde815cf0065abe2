import StatementShell.Failure
import StatementShell.Mode

/-!
# Settings

What the user can configure: the prompts and the starting mode, the display,
the history and the log.

## Main Definitions

* `Settings`: the settings, in four groups.
* `Settings.standard`: the values that hold where nothing is configured.
* `Settings.fault?`: what makes settings unusable.
-/

namespace StatementShell

/-- How much is logged. -/
inductive LogLevel where
  | error
  | warn
  | info
  | debug
  | trace
  deriving DecidableEq, Repr

namespace LogLevel

/-- The name of a level. -/
def name : LogLevel → Text
  | error => "error".toList
  | warn => "warn".toList
  | info => "info".toList
  | debug => "debug".toList
  | trace => "trace".toList

/-- The level of a name, written exactly. -/
def ofName? (t : Text) : Option LogLevel :=
  [error, warn, info, debug, trace].find? fun level => level.name == t

@[simp] theorem ofName?_name (level : LogLevel) : ofName? level.name = some level := by
  cases level <;> decide

end LogLevel

/-! ### Groups -/

/-- Prompts and starting mode. -/
structure PromptSettings where
  startMode : Mode
  arrayPrompt : Text
  sqlPrompt : Text
  /-- The prompt on continuation lines. -/
  continuationPrompt : Text
  deriving DecidableEq, Repr

/-- Display of input and output. -/
structure DisplaySettings where
  colorOutput : Bool
  syntaxHighlighting : Bool
  deriving DecidableEq, Repr

/-- The history of submitted input. -/
structure HistorySettings where
  /-- The largest number of entries. -/
  maxSize : UInt64
  filePath : Text
  /-- Whether the history is kept in the file. -/
  persist : Bool
  deriving DecidableEq, Repr

/-- The log. -/
structure LogSettings where
  level : LogLevel
  timestamps : Bool
  deriving DecidableEq, Repr

/-- Everything the user can configure. -/
structure Settings where
  prompts : PromptSettings
  display : DisplaySettings
  history : HistorySettings
  log : LogSettings
  deriving DecidableEq, Repr

namespace PromptSettings

/-- The prompts that hold where nothing is configured. -/
def standard : PromptSettings :=
  ⟨.array, "q) ".toList, "sql) ".toList, "... ".toList⟩

/-- The main prompt in a mode. -/
def main (p : PromptSettings) : Mode → Text
  | .array => p.arrayPrompt
  | .sql => p.sqlPrompt

end PromptSettings

/-- A name inside a directory. -/
def Text.inDirectory (directory name : Text) : Text :=
  if directory = [] ∨ directory.getLast? = some '/' then directory ++ name
  else directory ++ '/' :: name

namespace Settings

/-- The settings that hold where nothing is configured, for the given home
directory. -/
def standard (home : Text) : Settings where
  prompts := .standard
  display := ⟨true, true⟩
  history := ⟨1000, Text.inDirectory home ".arrsh_history".toList, true⟩
  log := ⟨.warn, false⟩

/-- The file that is read when no other is named, for the given home
directory. -/
def standardPath (home : Text) : Text :=
  Text.inDirectory (Text.inDirectory home ".arrsh".toList) "config.toml".toList

/-! ### Validity -/

/-- The fields that must not be empty, in the order in which they are checked. -/
def requiredTexts (s : Settings) : List (Text × Text) :=
  [("repl.array_prompt".toList, s.prompts.arrayPrompt),
   ("repl.sql_prompt".toList, s.prompts.sqlPrompt),
   ("repl.continuation_prompt".toList, s.prompts.continuationPrompt)]

/-- What makes settings unusable: the first empty prompt, or else a history
without entries. -/
def fault? (s : Settings) : Option SettingsFault :=
  match s.requiredTexts.find? fun entry => entry.2.isEmpty with
  | some (field, value) => some (.invalidValue field value)
  | none =>
    if s.history.maxSize = 0 then
      some (.invalidValue "history.max_size".toList "0".toList)
    else none

/-- The standard settings are usable. -/
theorem fault?_standard (home : Text) : (standard home).fault? = none := rfl

/-- Settings are usable when no prompt is empty and the history has room. -/
theorem fault?_eq_none_iff (s : Settings) :
    s.fault? = none ↔
      s.prompts.arrayPrompt ≠ [] ∧ s.prompts.sqlPrompt ≠ [] ∧
        s.prompts.continuationPrompt ≠ [] ∧ s.history.maxSize ≠ 0 := by
  cases ha : s.prompts.arrayPrompt <;> cases hs : s.prompts.sqlPrompt <;>
    cases hc : s.prompts.continuationPrompt <;> by_cases hm : s.history.maxSize = 0 <;>
    simp only [fault?, requiredTexts, ha, hs, hc, hm, List.find?_cons, List.find?_nil,
      List.isEmpty_nil, List.isEmpty_cons, if_true, if_false, ne_eq, reduceCtorEq,
      not_true_eq_false, not_false_eq_true, and_true, and_false]

end Settings

end StatementShell
