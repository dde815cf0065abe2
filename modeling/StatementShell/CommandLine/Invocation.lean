import StatementShell.CommandLine.Grammar
import StatementShell.Settings.Basic

/-!
# The command line of the shell

## Main Definitions

* `CommandLine.Options`: what may stand before a subcommand, or without one.
* `CommandLine.Subcommand`: what the shell does instead of reading input.
* `CommandLine.Invocation.parse`: the invocation that arguments spell.
* `CommandLine.Options.override`: the effect of options on the settings.
-/

namespace StatementShell.CommandLine

/-! ### Records -/

/-- The options of the shell. -/
structure Options where
  /-- The script to run. -/
  file : Option Text
  mode : Option Mode
  settingsFile : Option Text
  noColor : Bool
  noHighlight : Bool
  quiet : Bool
  verbose : Bool
  veryVerbose : Bool
  deriving DecidableEq, Repr

/-- What to show about the settings. -/
structure SettingsRequest where
  display : Bool
  validate : Bool
  deriving DecidableEq, Repr

/-- A buffer to inspect. -/
structure CheckRequest where
  /-- The file that holds the buffer; standard input without one. -/
  file : Option Text
  mode : Option Mode
  /-- The index of the line the cursor is on. -/
  cursor : Option Nat
  json : Bool
  deriving DecidableEq, Repr

/-- A text to cut into statements. -/
structure SplitRequest where
  /-- The file that holds the text; standard input without one. -/
  file : Option Text
  json : Bool
  deriving DecidableEq, Repr

/-- What the shell does instead of reading input. -/
inductive Subcommand where
  | version
  /-- Prints a completion script for a shell of that name. -/
  | completion (shell : Text)
  | settings (request : SettingsRequest)
  | check (request : CheckRequest)
  | split (request : SplitRequest)
  deriving DecidableEq, Repr

/-- A command line. -/
structure Invocation where
  options : Options
  subcommand : Option Subcommand
  deriving DecidableEq, Repr

namespace Options

/-- No options. -/
def none : Options := ⟨.none, .none, .none, false, false, false, false, false⟩

end Options

/-! ### Values -/

/-- A number of sixty-four bits, with an optional plus sign. -/
def number? (t : Text) : Option Nat :=
  let digits :=
    match t with
    | '+' :: rest => rest
    | _ => t
  (Text.toNat? digits).filter (· < UInt64.size)

/-- A path, which is not empty. -/
def pathValue (t : Text) : Except UsageFault Text :=
  if t.isEmpty then .error .invalidValue else .ok t

/-- The name of a mode. -/
def modeValue (t : Text) : Except UsageFault Mode :=
  match Mode.ofName? t with
  | some mode => .ok mode
  | none => .error .invalidValue

/-- The index of a line. -/
def numberValue (t : Text) : Except UsageFault Nat :=
  match number? t with
  | some n => .ok n
  | none => .error .invalidNumber

/-! ### Grammars -/

/-- A place for a value, given how to look at it, read it and change it. -/
def slot {α β : Type} (get : α → Option β) (value : Text → Except UsageFault β)
    (put : β → α → α) : Slot α where
  isSet record := (get record).isSome
  set t record := (value t).map fun v => put v record

/-- The switch that asks for help. -/
def helpSwitch (α : Type) : Switch α := ⟨some 'h', "help".toList, .halt .help⟩

/-- The names of the subcommands. -/
def subcommandNames : List Text :=
  ["version".toList, "completion".toList, "config".toList, "check".toList,
   "split".toList, "help".toList]

/-- The options of the shell. -/
def optionsGrammar : Grammar Options where
  switches :=
    [⟨some 'm', "mode".toList,
      .take (slot (·.mode) modeValue fun v o => { o with mode := some v })⟩,
     ⟨some 'c', "config".toList,
      .take (slot (·.settingsFile) pathValue fun v o => { o with settingsFile := some v })⟩,
     ⟨none, "no-color".toList, .turnOn (·.noColor) fun o => { o with noColor := true }⟩,
     ⟨none, "no-highlight".toList,
      .turnOn (·.noHighlight) fun o => { o with noHighlight := true }⟩,
     ⟨some 'q', "quiet".toList, .turnOn (·.quiet) fun o => { o with quiet := true }⟩,
     ⟨some 'v', "verbose".toList, .turnOn (·.verbose) fun o => { o with verbose := true }⟩,
     ⟨none, "vv".toList, .turnOn (·.veryVerbose) fun o => { o with veryVerbose := true }⟩,
     helpSwitch Options,
     ⟨some 'V', "version".toList, .halt .version⟩]
  positional := some (slot (·.file) pathValue fun v o => { o with file := some v })
  subcommands := subcommandNames

/-- A subcommand without arguments. -/
def bareGrammar : Grammar Unit := ⟨[helpSwitch Unit], none, []⟩

/-- The subcommand that prints a completion script. -/
def completionGrammar : Grammar (Option Text) where
  switches := [helpSwitch (Option Text)]
  positional := some (slot id .ok fun v _ => some v)
  subcommands := []

/-- The subcommand that shows or validates the settings. -/
def settingsGrammar : Grammar SettingsRequest where
  switches :=
    [⟨none, "show".toList, .turnOn (·.display) fun r => { r with display := true }⟩,
     ⟨none, "validate".toList, .turnOn (·.validate) fun r => { r with validate := true }⟩,
     helpSwitch SettingsRequest]
  positional := none
  subcommands := []

/-- The subcommand that inspects a buffer. -/
def checkGrammar : Grammar CheckRequest where
  switches :=
    [⟨some 'm', "mode".toList,
      .take (slot (·.mode) modeValue fun v r => { r with mode := some v })⟩,
     ⟨none, "cursor".toList,
      .take (slot (·.cursor) numberValue fun v r => { r with cursor := some v })⟩,
     ⟨none, "json".toList, .turnOn (·.json) fun r => { r with json := true }⟩,
     helpSwitch CheckRequest]
  positional := some (slot (·.file) pathValue fun v r => { r with file := some v })
  subcommands := []

/-- The subcommand that cuts a text into statements. -/
def splitGrammar : Grammar SplitRequest where
  switches :=
    [⟨none, "json".toList, .turnOn (·.json) fun r => { r with json := true }⟩,
     helpSwitch SplitRequest]
  positional := some (slot (·.file) pathValue fun v r => { r with file := some v })
  subcommands := []

/-! ### Parsing -/

/-- The answer to a request for help on the subcommands that arguments name; no subcommand has
subcommands of its own. -/
def helpOn : List Text → Halt
  | [] => .help
  | [name] => if subcommandNames.contains name then .help else .fault .unknownSubcommand
  | _ => .fault .unknownSubcommand

/-- The subcommand of a name with its arguments. -/
def parseSubcommand (name : Text) (args : List Text) : Except Halt Subcommand :=
  if name = "version".toList then do
    bareGrammar.readAll () args
    return .version
  else if name = "completion".toList then do
    match ← completionGrammar.readAll none args with
    | some shell => return .completion shell
    | none => .error (.fault .missingArgument)
  else if name = "config".toList then
    (settingsGrammar.readAll ⟨false, false⟩ args).map .settings
  else if name = "check".toList then
    (checkGrammar.readAll ⟨none, none, none, false⟩ args).map .check
  else if name = "split".toList then
    (splitGrammar.readAll ⟨none, false⟩ args).map .split
  else .error (helpOn args)

/-- The invocation that arguments spell.  A fault in a subcommand is reported before one
in the last value in front of its name. -/
def Invocation.parse (args : List Text) : Except Halt Invocation := do
  let (r, named) ← optionsGrammar.read (.start Options.none) args
  match named with
  | none =>
    let r ← r.settle
    return ⟨r.record, none⟩
  | some (name, rest) =>
    let subcommand ← parseSubcommand name rest
    let r ← r.settle
    return ⟨r.record, some subcommand⟩

/-! ### Effect on the settings -/

namespace Options

/-- The log level that options ask for; the most talkative wins. -/
def logLevel (o : Options) (standard : LogLevel) : LogLevel :=
  if o.veryVerbose then .trace
  else if o.verbose then .debug
  else if o.quiet then .error
  else standard

/-- Settings with what the options change. -/
def override (o : Options) (s : Settings) : Settings :=
  { s with
    prompts := { s.prompts with startMode := o.mode.getD s.prompts.startMode }
    display :=
      { colorOutput := s.display.colorOutput && !o.noColor
        syntaxHighlighting := s.display.syntaxHighlighting && !o.noHighlight }
    log := { s.log with level := o.logLevel s.log.level } }

/-- Options change nothing that validity depends on. -/
theorem fault?_override (o : Options) (s : Settings) : (o.override s).fault? = s.fault? :=
  rfl

end Options

end StatementShell.CommandLine
