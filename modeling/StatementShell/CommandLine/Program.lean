import StatementShell.CommandLine.Help
import StatementShell.CommandLine.Report
import StatementShell.Script
import StatementShell.Settings.Toml

/-!
# The program

What the program prints and how it ends, as a function of its arguments and of
the files it finds.

## Main Definitions

* `CommandLine.Surroundings`: the home directory, the files and standard input.
* `CommandLine.configure`: the effective settings.
* `CommandLine.run`: the outcome of an invocation.
* `CommandLine.outcome`: the outcome for a list of arguments.
-/

namespace StatementShell.CommandLine

/-! ### Surroundings -/

/-- What is found under a path. -/
inductive Entry where
  | missing
  /-- Something that cannot be read, and why. -/
  | unreadable (detail : Text)
  | content (bytes : ByteArray)

namespace Entry

/-- The text of an entry, which has to be encoded in UTF-8. -/
def text : Entry → Except Failure Text
  | missing => .error (.io "No such file or directory (os error 2)".toList)
  | unreadable detail => .error (.io detail)
  | content bytes =>
    match String.fromUTF8? bytes with
    | some s => .ok s.toList
    | none => .error (.io "stream did not contain valid UTF-8".toList)

end Entry

/-- What the program finds when it starts. -/
structure Surroundings where
  home : Text
  files : Text → Entry
  input : Entry

/-- What the program leaves behind. -/
structure Outcome where
  /-- The exit code. -/
  code : Nat
  output : Text
  /-- The lines of the error output, without those of the log. -/
  errors : List Text

/-! ### Settings -/

/-- The settings file: the one that is named, or else the standard one. -/
def settingsPath (home : Text) (o : Options) : Text :=
  o.settingsFile.getD (Settings.standardPath home)

/-- The settings that are configured.  Only a file that is named has to exist. -/
def load (s : Surroundings) (o : Options) : Except Failure Settings :=
  match s.files (settingsPath s.home o), o.settingsFile with
  | .missing, some path => .error (.settings (.notFound path))
  | .missing, none => .ok (Settings.standard s.home)
  | entry, _ => do
    let source ← entry.text
    match Settings.ofToml s.home source with
    | .ok settings => return settings
    | .error fault => .error (.settings fault)

/-- The settings in force, and warnings about them. -/
structure Configuration where
  settings : Settings
  warnings : List Text

/-- The settings in force: those that are configured, if they are usable, and else
the standard ones, with what the options change. -/
def configure (s : Surroundings) (o : Options) : Except Failure Configuration := do
  let loaded ← load s o
  match loaded.fault? with
  | none => return ⟨o.override loaded, []⟩
  | some fault =>
    return ⟨o.override (Settings.standard s.home),
      ["Warning: Configuration validation failed: ".toList ++
        (Failure.settings fault).message,
       "Using default configuration instead.".toList]⟩

/-! ### Subcommands -/

/-- What a subcommand prints. -/
structure Printed where
  output : Text
  errors : List Text

/-- Output and nothing else. -/
def Printed.only (output : Text) : Printed := ⟨output, []⟩

/-- The text of a script file. -/
def scriptText (s : Surroundings) (path : Text) : Except Failure Text :=
  match s.files path with
  | .missing => .error (.script (.notFound path))
  | entry => entry.text

/-- The text that a subcommand works on. -/
def inputText (s : Surroundings) : Option Text → Except Failure Text
  | some path => scriptText s path
  | none => s.input.text

/-- What is said about the settings file. -/
def validation (s : Surroundings) (o : Options) : Text :=
  let path := settingsPath s.home o
  Text.outputLine ("Validating configuration file: ".toList ++ path) ++
    Text.outputLine
      (match s.files path with
       | .missing => "Configuration file does not exist".toList
       | _ =>
         match load s o with
         | .error failure => "Failed to load configuration: ".toList ++ failure.message
         | .ok settings =>
           match settings.fault? with
           | none => "Configuration is valid".toList
           | some fault =>
             "Configuration validation failed: ".toList ++ (Failure.settings fault).message)

/-- The settings in force, as a document. -/
def exhibition (s : Surroundings) (o : Options) (settings : Settings) : Text :=
  Text.outputLine ("Configuration file: ".toList ++ settingsPath s.home o) ++
    "\n=== Effective Configuration ===\n\n".toList ++ Text.outputLine settings.toToml

/-- Carries out a subcommand. -/
def perform (s : Surroundings) (o : Options) (settings : Settings) :
    Subcommand → Except Failure Printed
  | .version =>
    .ok (.only (programName ++ " version ".toList ++ programVersion ++
      "\nRust version: 1.91\n".toList))
  | .completion shell =>
    match completionScript? shell with
    | some script => .ok (.only (Text.outputLine script))
    | none =>
      .error (.settings (.other ("Unsupported shell: ".toList ++ shell ++
        ". Supported shells: bash, zsh, fish".toList)))
  | .settings request =>
    .ok (.only ((if request.validate then validation s o else []) ++
      (if request.display then exhibition s o settings else [])))
  | .check request => do
    let source ← inputText s request.file
    let mode := request.mode.getD settings.prompts.startMode
    return .only ((Inspection.ofText mode source request.cursor).report request.json)
  | .split request => do
    let source ← inputText s request.file
    let split := Split.ofText source
    return ⟨split.report request.json, split.complaint request.json⟩

/-! ### Without a subcommand -/

/-- Runs a script and prints what it puts out, if it runs to its end. -/
def runScript (s : Surroundings) (mode : Mode) (path : Text) : Except Failure Printed := do
  let source ← scriptText s path
  let report ← ((⟨mode, .empty⟩ : Runner Transcript).run transcript source).2
  return .only (report.outputs.flatMap Text.outputLine)

/-- What is printed before the first prompt. -/
def banner (o : Options) (mode : Mode) : Text :=
  if o.quiet then []
  else
    Text.outputLine (programName ++ ' ' :: programVersion) ++
      "Starting in ".toList ++ mode.name ++
      " mode. Type )help for system commands, Ctrl-D to quit.\n".toList

/-- The failure of the line editor where there is no terminal. -/
def noTerminal : Failure := .io "No such device or address (os error 6)".toList

/-! ### Outcomes -/

/-- The line in which a failure is reported. -/
def errorLine (failure : Failure) : Text := "Error: ".toList ++ failure.message

/-- The outcome of a part of the program. -/
def Outcome.ofResult (warnings : List Text) : Except Failure Printed → Outcome
  | .ok printed => ⟨0, printed.output, warnings ++ printed.errors⟩
  | .error failure => ⟨1, [], warnings ++ [errorLine failure]⟩

/-- The outcome of an invocation. -/
def run (s : Surroundings) (i : Invocation) : Outcome :=
  match configure s i.options with
  | .error failure => .ofResult [] (.error failure)
  | .ok ⟨settings, warnings⟩ =>
    let mode := settings.prompts.startMode
    match i.subcommand, i.options.file with
    | some subcommand, _ => .ofResult warnings (perform s i.options settings subcommand)
    | none, some path => .ofResult warnings (runScript s mode path)
    | none, none => ⟨1, banner i.options mode, warnings ++ [errorLine noTerminal]⟩

/-- The outcome when reading the arguments ends without an invocation. -/
def Outcome.ofHalt : Halt → Outcome
  | .help => ⟨0, helpText, []⟩
  | .version => ⟨0, Text.outputLine (programName ++ ' ' :: programVersion), []⟩
  | .fault _ => ⟨2, [], ["error: the arguments are not understood".toList]⟩

/-- The outcome for a list of arguments. -/
def outcome (s : Surroundings) (args : List Text) : Outcome :=
  match Invocation.parse args with
  | .ok i => run s i
  | .error h => .ofHalt h

/-! ### What the program looks at -/

/-- The files of an invocation: the settings, and a script or the input of a
subcommand. -/
def Invocation.paths (home : Text) (i : Invocation) : List Text :=
  let input :=
    match i.subcommand with
    | some (.check request) => request.file
    | some (.split request) => request.file
    | some _ => none
    | none => i.options.file
  settingsPath home i.options :: input.toList

/-- Whether an invocation reads standard input. -/
def Invocation.readsInput (i : Invocation) : Bool :=
  match i.subcommand with
  | some (.check request) => request.file.isNone
  | some (.split request) => request.file.isNone
  | _ => false

end StatementShell.CommandLine
