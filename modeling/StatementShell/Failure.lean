import StatementShell.Text.Digits

/-!
# Failures

The causes for which the shell, a script or the reading of settings stops, and
the one place where their wording is fixed.

## Main Definitions

* `SettingsFault`, `ScriptFault`: the causes of two parts of the program.
* `Failure`: every cause.
* `Failure.message`: what the user reads.
* `Failure.cause?`: the message of the failure underneath.
-/

namespace StatementShell

/-! ### Causes -/

/-- What is wrong with settings. -/
inductive SettingsFault where
  /-- The named file does not exist. -/
  | notFound (path : Text)
  /-- The document cannot be read. -/
  | invalidFormat (detail : Text)
  /-- A field has a value outside its range. -/
  | invalidValue (field value : Text)
  /-- Any other fault. -/
  | other (detail : Text)
  deriving DecidableEq, Repr

/-- What is wrong with a script. -/
inductive ScriptFault where
  /-- The named file does not exist. -/
  | notFound (path : Text)
  /-- The script ends inside the statement that starts at a line. -/
  | incomplete (line : Nat) (mode : Text)
  deriving DecidableEq, Repr

/-- Why an operation stopped. -/
inductive Failure where
  | settings (fault : SettingsFault)
  | script (fault : ScriptFault)
  /-- The system refused an input or output operation. -/
  | io (detail : Text)
  | lineEditor (detail : Text)
  /-- An evaluator refused a statement. -/
  | evaluation (detail : Text)
  /-- An evaluator failed on the statement that starts at a line of a script. -/
  | atLine (line : Nat) (cause : Failure)
  | general (detail : Text)
  deriving DecidableEq, Repr

/-! ### Wording -/

/-- The wording of a fault in the settings. -/
def SettingsFault.message : SettingsFault → Text
  | notFound path => "Config file not found: ".toList ++ path
  | invalidFormat detail => "Invalid config format: ".toList ++ detail
  | invalidValue field value =>
    "Invalid value '".toList ++ value ++ "' for field '".toList ++ field ++ "'".toList
  | other detail => detail

/-- The wording of a fault in a script. -/
def ScriptFault.message : ScriptFault → Text
  | notFound path => "Script file not found: ".toList ++ path
  | incomplete line mode =>
    "Unterminated ".toList ++ mode ++ " statement starting at line ".toList ++
      Text.ofNat line

namespace Failure

/-- The wording of a failure. -/
def message : Failure → Text
  | settings fault => "Configuration error: ".toList ++ fault.message
  | script fault => "Script error: ".toList ++ fault.message
  | io detail => "I/O error: ".toList ++ detail
  | lineEditor detail => "Readline error: ".toList ++ detail
  | evaluation detail => detail
  | atLine line cause => "line ".toList ++ Text.ofNat line ++ ": ".toList ++ cause.message
  | general detail => detail

/-- The wording of the failure underneath, for failures that wrap another. -/
def cause? : Failure → Option Text
  | settings fault => some fault.message
  | script fault => some fault.message
  | io detail => some detail
  | lineEditor _ | evaluation _ | atLine _ _ | general _ => none

end Failure

end StatementShell
