import StatementShell.Document.Value
import StatementShell.Settings.Basic

/-!
# Settings as a document

A group of settings is a table, or a list of its values in their fixed order.
What is not there keeps its standard value, and what is unknown is ignored.

## Main Definitions

* `Settings.Format`: what differs between the notations of a document.
* `Settings.decode`: the settings that a document describes.
-/

namespace StatementShell.Settings

open Document (Value Entries)

/-- What differs between the notations in which settings are written. -/
structure Format where
  /-- Whether a list may have more values than the group has fields. -/
  allowsSurplus : Bool
  /-- Whether a value says no more than the name it stands under. -/
  isEmpty : Value → Bool

namespace Format

/-- Settings in TOML. -/
def toml : Format where
  allowsSurplus := true
  isEmpty
    | .list _ elements => elements.isEmpty
    | .table _ entries => entries.isEmpty
    | _ => false

/-- Settings in JSON. -/
def json : Format where
  allowsSurplus := false
  isEmpty
    | .null => true
    | _ => false

end Format

/-! ### Fields of a group -/

/-- The values of a group by the names of its fields.  A date counts as a table
without any known field.  The values that no field takes still have to be
representable. -/
def fieldsOf (format : Format) (names : List Text) : Value → Option Entries
  | .table _ entries =>
    let (known, unknown) := entries.partition fun entry => names.contains entry.1
    if unknown.all fun entry => entry.2.isRepresentable then some known else none
  | .list _ elements =>
    if elements.length ≤ names.length ∨ format.allowsSurplus then some (names.zip elements)
    else none
  | .date => some []
  | _ => none

/-- A field of a group: the standard where it is missing, and otherwise what its
value is read as. -/
def field {α : Type} (fields : Entries) (name : String) (standard : α)
    (read : Value → Option α) : Option α :=
  match fields.lookup name.toList with
  | none => some standard
  | some v => read v

/-! ### Values of fields -/

/-- A value as a text. -/
def text? : Value → Option Text
  | .text t => some t
  | _ => none

/-- A value as a truth value. -/
def boolean? : Value → Option Bool
  | .boolean b => some b
  | _ => none

/-- A value as a size of at most sixty-four bits. -/
def size? : Value → Option UInt64
  | .integer (.ofNat n) => if n < UInt64.size then some (UInt64.ofNat n) else none
  | _ => none

/-- A value as one of a set of names.  The name may also be the key of a table
with one pair that says nothing more. -/
def name? {α : Type} (format : Format) (ofName? : Text → Option α) : Value → Option α
  | .text t => ofName? t
  | .table _ [(key, payload)] => if format.isEmpty payload then ofName? key else none
  | _ => none

/-! ### Groups -/

/-- The names of the fields of a group. -/
def names (list : List String) : List Text := list.map String.toList

/-- The prompts and the starting mode. -/
def decodePrompts (format : Format) (v : Value) : Option PromptSettings := do
  let fields ← fieldsOf format
    (names ["start_mode", "array_prompt", "sql_prompt", "continuation_prompt"]) v
  let standard := PromptSettings.standard
  return {
    startMode := ← field fields "start_mode" standard.startMode (name? format Mode.ofName?)
    arrayPrompt := ← field fields "array_prompt" standard.arrayPrompt text?
    sqlPrompt := ← field fields "sql_prompt" standard.sqlPrompt text?
    continuationPrompt :=
      ← field fields "continuation_prompt" standard.continuationPrompt text? }

/-- The display. -/
def decodeDisplay (format : Format) (v : Value) : Option DisplaySettings := do
  let fields ← fieldsOf format (names ["color_output", "syntax_highlighting"]) v
  return {
    colorOutput := ← field fields "color_output" true boolean?
    syntaxHighlighting := ← field fields "syntax_highlighting" true boolean? }

/-- The history, for the given home directory. -/
def decodeHistory (format : Format) (home : Text) (v : Value) : Option HistorySettings := do
  let fields ← fieldsOf format (names ["max_size", "file_path", "persist"]) v
  let standard := (Settings.standard home).history
  return {
    maxSize := ← field fields "max_size" standard.maxSize size?
    filePath := ← field fields "file_path" standard.filePath text?
    persist := ← field fields "persist" standard.persist boolean? }

/-- The log. -/
def decodeLog (format : Format) (v : Value) : Option LogSettings := do
  let fields ← fieldsOf format (names ["level", "timestamps"]) v
  return {
    level := ← field fields "level" LogLevel.warn (name? format LogLevel.ofName?)
    timestamps := ← field fields "timestamps" false boolean? }

/-- The settings that a document describes, for the given home directory. -/
def decode (format : Format) (home : Text) (v : Value) : Option Settings := do
  let fields ← fieldsOf format (names ["repl", "display", "history", "logging"]) v
  let standard := Settings.standard home
  return {
    prompts := ← field fields "repl" standard.prompts (decodePrompts format)
    display := ← field fields "display" standard.display (decodeDisplay format)
    history := ← field fields "history" standard.history (decodeHistory format home)
    log := ← field fields "logging" standard.log (decodeLog format) }

end StatementShell.Settings
