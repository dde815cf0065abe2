import StatementShell.Settings.Decode
import StatementShell.Toml.Reader
import StatementShell.Toml.Writer

/-!
# The settings file

Settings are kept in a TOML document with one table for each group.

## Main Definitions

* `Settings.sections`: settings as tables of plain values.
* `Settings.toToml`: settings as a document.
* `Settings.ofToml`: the settings that a document describes.
-/

namespace StatementShell.Settings

/-- Settings as tables of plain values, in their fixed order. -/
def sections (s : Settings) : List Toml.Section :=
  [⟨"repl".toList,
    [("start_mode".toList, .text s.prompts.startMode.name),
     ("array_prompt".toList, .text s.prompts.arrayPrompt),
     ("sql_prompt".toList, .text s.prompts.sqlPrompt),
     ("continuation_prompt".toList, .text s.prompts.continuationPrompt)]⟩,
   ⟨"display".toList,
    [("color_output".toList, .boolean s.display.colorOutput),
     ("syntax_highlighting".toList, .boolean s.display.syntaxHighlighting)]⟩,
   ⟨"history".toList,
    [("max_size".toList, .natural s.history.maxSize.toNat),
     ("file_path".toList, .text s.history.filePath),
     ("persist".toList, .boolean s.history.persist)]⟩,
   ⟨"logging".toList,
    [("level".toList, .text s.log.level.name),
     ("timestamps".toList, .boolean s.log.timestamps)]⟩]

/-- Settings as a document. -/
def toToml (s : Settings) : Text := Toml.writeSections s.sections

/-- The settings that a document describes, for the given home directory. -/
def ofToml? (home source : Text) : Option Settings :=
  (Toml.readDocument source).bind fun root =>
    decode .toml home (.table .defined root)

/-- The settings that a document describes, or the fault of the document. -/
def ofToml (home source : Text) : Except SettingsFault Settings :=
  match ofToml? home source with
  | some s => .ok s
  | none => .error (.invalidFormat "the document does not describe settings".toList)

end StatementShell.Settings
