import StatementShell.CommandLine.Similarity

/-!
# Reading a command line

Arguments are read from left to right into a record.  A long switch starts with
two dashes, and its value may follow an equals sign; short switches of one
letter may share a dash, and the value of the last may follow it at once.
Otherwise a value is the next argument.  After a double dash every argument is
positional.

## Main Definitions

* `CommandLine.Halt`: why reading ends without a record.
* `CommandLine.Grammar`: the switches, the positional argument and the subcommands.
* `CommandLine.Grammar.read`: reads arguments up to the name of a subcommand.

## Design Notes

A value that is an argument of its own is stored only when the next argument has
been recognised.  An unknown argument is therefore reported before a fault in
the value in front of it, and a known one after it.
-/

namespace StatementShell.CommandLine

/-- What is wrong with a command line. -/
inductive UsageFault where
  | unknownArgument
  /-- A value is missing, empty or not among those allowed. -/
  | invalidValue
  /-- A value is no number. -/
  | invalidNumber
  /-- A switch is given twice. -/
  | repeated
  /-- A switch that takes no value has one. -/
  | unexpectedValue
  | missingArgument
  /-- An argument stands where only the name of a subcommand could. -/
  | unknownSubcommand
  deriving DecidableEq, Repr

/-- Why reading ends without a record. -/
inductive Halt where
  /-- Help is asked for. -/
  | help
  /-- The version is asked for. -/
  | version
  | fault (f : UsageFault)
  deriving DecidableEq, Repr

/-! ### Grammars -/

/-- A place for a value in a record. -/
structure Slot (α : Type) where
  isSet : α → Bool
  set : Text → α → Except UsageFault α

/-- What a switch does. -/
inductive Effect (α : Type) where
  /-- Turns something on. -/
  | turnOn (isOn : α → Bool) (set : α → α)
  /-- Takes a value. -/
  | take (slot : Slot α)
  /-- Ends the reading. -/
  | halt (reason : Halt)

/-- A switch. -/
structure Switch (α : Type) where
  short : Option Char
  long : Text
  effect : Effect α

/-- The arguments that fill a record. -/
structure Grammar (α : Type) where
  switches : List (Switch α)
  /-- The one positional argument, if there is any. -/
  positional : Option (Slot α)
  /-- The names that end the reading and start a subcommand. -/
  subcommands : List Text

/-! ### Readings -/

/-- A value that is not stored yet, or that the next argument has to give. -/
structure Awaited (α : Type) where
  slot : Slot α
  value : Option Text

/-- A record that is being filled. -/
structure Reading (α : Type) where
  record : α
  awaited : Option (Awaited α)
  /-- Whether the positional argument has been met. -/
  positionalMet : Bool
  /-- Whether a double dash has been met. -/
  trailing : Bool

namespace Slot

variable {α : Type}

/-- Stores a value, once. -/
def store (slot : Slot α) (value : Text) (record : α) : Except Halt α :=
  if slot.isSet record then .error (.fault .repeated)
  else
    match slot.set value record with
    | .ok record => .ok record
    | .error f => .error (.fault f)

end Slot

namespace Reading

variable {α : Type}

/-- A reading before the first argument. -/
def start (record : α) : Reading α := ⟨record, none, false, false⟩

/-- Whether the next argument is a value. -/
def awaits (r : Reading α) : Bool :=
  match r.awaited with
  | some ⟨_, none⟩ => true
  | _ => false

/-- Stores the value that is not stored yet. -/
def settle (r : Reading α) : Except Halt (Reading α) :=
  match r.awaited with
  | none => .ok r
  | some ⟨_, none⟩ => .error (.fault .invalidValue)
  | some ⟨slot, some value⟩ =>
    (slot.store value r.record).map fun record => { r with record, awaited := none }

/-- Takes an argument as the value that is awaited. -/
def supply (r : Reading α) (value : Text) : Reading α :=
  { r with awaited := r.awaited.map fun a => { a with value := some value } }

/-- Applies a switch, with the value attached to it, if any. -/
def apply (r : Reading α) (effect : Effect α) (attached : Option Text) :
    Except Halt (Reading α) :=
  match effect, attached with
  | .take slot, some value => do
    let r ← r.settle
    let record ← slot.store value r.record
    return { r with record }
  | .take slot, none => do
    let r ← r.settle
    return { r with awaited := some ⟨slot, none⟩ }
  | .turnOn isOn set, none => do
    let r ← r.settle
    if isOn r.record then .error (.fault .repeated)
    else return { r with record := set r.record }
  | .halt reason, none => do
    let _ ← r.settle
    .error reason
  | .turnOn _ _, some _ | .halt _, some _ => .error (.fault .unexpectedValue)

end Reading

namespace Grammar

variable {α : Type}

/-! ### Single arguments -/

/-- Reads what follows two dashes. -/
def readLong (g : Grammar α) (r : Reading α) (body : Text) : Except Halt (Reading α) :=
  let name := body.takeWhile (· != '=')
  let attached :=
    match body.dropWhile (· != '=') with
    | [] => none
    | _ :: value => some value
  match g.switches.find? fun s => s.long == name with
  | some s => r.apply s.effect attached
  | none => .error (.fault .unknownArgument)

/-- The value attached to a short switch: the rest of its argument, less an equals
sign in front. -/
def attachedTo : Text → Option Text
  | [] => none
  | '=' :: value => some value
  | value => some value

/-- Reads what follows one dash. -/
def readShort (g : Grammar α) (r : Reading α) : Text → Except Halt (Reading α)
  | [] => .ok r
  | c :: rest =>
    match g.switches.find? fun s => s.short == some c with
    | none => .error (.fault .unknownArgument)
    | some s =>
      match s.effect with
      | .take _ => r.apply s.effect (attachedTo rest)
      | _ =>
        match r.apply s.effect none with
        | .ok r => g.readShort r rest
        | .error h => .error h

/-- The fault of a positional argument that has no place. -/
def surplus (g : Grammar α) (trailing : Bool) (arg : Text) : UsageFault :=
  if trailing ∧ g.subcommands.contains arg then .unknownArgument
  else if g.subcommands.any (resembles arg) then .unknownSubcommand
  else .unknownArgument

/-- Reads a positional argument. -/
def readPositional (g : Grammar α) (r : Reading α) (arg : Text) :
    Except Halt (Reading α) :=
  match g.positional with
  | none => .error (.fault (g.surplus r.trailing arg))
  | some slot =>
    if r.positionalMet then .error (.fault (g.surplus r.trailing arg))
    else
      r.settle.map fun r =>
        { r with awaited := some ⟨slot, some arg⟩, positionalMet := true }

/-- Reads an argument that names no subcommand. -/
def readArgument (g : Grammar α) (r : Reading α) (arg : Text) : Except Halt (Reading α) :=
  if r.trailing then g.readPositional r arg
  else
    match arg with
    | ['-', '-'] => .ok { r with trailing := true }
    | '-' :: '-' :: body => g.readLong r body
    | '-' :: c :: cluster => g.readShort r (c :: cluster)
    | _ => if r.awaits then .ok (r.supply arg) else g.readPositional r arg

/-! ### All arguments -/

/-- A subcommand that is named, and the arguments after its name. -/
abbrev Named := Text × List Text

/-- Reads arguments up to the name of a subcommand. -/
def read (g : Grammar α) (r : Reading α) :
    List Text → Except Halt (Reading α × Option Named)
  | [] => .ok (r, none)
  | arg :: rest =>
    if !r.trailing && !r.awaits && g.subcommands.contains arg then .ok (r, some (arg, rest))
    else
      match g.readArgument r arg with
      | .ok r => g.read r rest
      | .error h => .error h

/-- Reads all arguments of a grammar without subcommands. -/
def readAll (g : Grammar α) (record : α) (args : List Text) : Except Halt α := do
  let (r, _) ← g.read (.start record) args
  let r ← r.settle
  return r.record

end Grammar

end StatementShell.CommandLine
