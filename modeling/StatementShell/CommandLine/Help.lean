import StatementShell.CommandLine.Invocation

/-!
# Help and completion scripts

## Main Definitions

* `CommandLine.helpText`: the summary of the command line.
* `CommandLine.completionScript?`: the completion script for a shell.
-/

namespace StatementShell.CommandLine

/-- The name of the program. -/
def programName : Text := "arrsh".toList

/-- The version of the program. -/
def programVersion : Text := "0.3.0".toList

/-- The summary of the command line. -/
def helpText : Text :=
  ("Interactive shell for an array language and its SQL dialect\n\n" ++
    "Usage: arrsh [OPTIONS] [FILE] [COMMAND]\n\n" ++
    "Commands:\n" ++
    "  version     Show version information\n" ++
    "  completion  Generate shell completion script\n" ++
    "  config      Show configuration\n" ++
    "  check       Report whether a buffer would be submitted\n" ++
    "  split       Cut array-language text into statements\n" ++
    "  help        Print this message\n\n" ++
    "Options:\n" ++
    "  -m, --mode <MODE>    Language mode to start in: array or sql\n" ++
    "  -c, --config <FILE>  Configuration file path\n" ++
    "      --no-color       Disable colored output\n" ++
    "      --no-highlight   Disable syntax highlighting\n" ++
    "  -q, --quiet          Quiet mode\n" ++
    "  -v, --verbose        Verbose mode\n" ++
    "      --vv             Very verbose mode\n" ++
    "  -h, --help           Print help\n" ++
    "  -V, --version        Print version\n").toList

/-- The names of the subcommands in one line. -/
def subcommandWords : Text := subcommandNames.flatMap fun name => name ++ [' ']

/-- The completion script for a shell, whatever the case of its name. -/
def completionScript? (shell : Text) : Option Text :=
  let name := shell.asciiLower
  if name = "bash".toList then
    some ("complete -o default -W \"".toList ++ subcommandWords ++ "\" ".toList ++ programName)
  else if name = "zsh".toList then
    some ("#compdef ".toList ++ programName ++ "\n_arguments '1:command:(".toList ++
      subcommandWords ++ ")' '*:file:_files'".toList)
  else if name = "fish".toList then
    some ("complete -c ".toList ++ programName ++ " -a \"".toList ++ subcommandWords ++
      "\"".toList)
  else none

end StatementShell.CommandLine
