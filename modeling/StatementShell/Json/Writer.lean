import StatementShell.Text.Digits

/-!
# Writing JSON

Reports are written as JSON over several lines, two blanks deeper for each level.

## Main Definitions

* `Json`: the values of a report.
* `Json.pretty`: the written form.
-/

namespace StatementShell

/-- A value of a report. -/
inductive Json where
  | null
  | boolean (b : Bool)
  | natural (n : Nat)
  | text (t : Text)
  | list (elements : List Json)
  | object (entries : List (Text × Json))

namespace Json

/-! ### Strings -/

/-- A hexadecimal digit in small letters. -/
def smallHexDigit (n : Nat) : Char := (hexDigit n).toLower

/-- A character of a string. -/
def stringChar (c : Char) : Text :=
  if c = '"' then ['\\', '"']
  else if c = '\\' then ['\\', '\\']
  else if c = '\n' then ['\\', 'n']
  else if c = '\r' then ['\\', 'r']
  else if c = '\t' then ['\\', 't']
  else if c = '\x08' then ['\\', 'b']
  else if c = '\x0C' then ['\\', 'f']
  else if c.toNat < 0x20 then
    ['\\', 'u', '0', '0', smallHexDigit (c.toNat / 16), smallHexDigit (c.toNat % 16)]
  else [c]

/-- A string with its quotes. -/
def string (t : Text) : Text := '"' :: t.flatMap stringChar ++ ['"']

/-! ### Values -/

/-- The start of a line at a level. -/
def indent (level : Nat) : Text := '\n' :: List.replicate (2 * level) ' '

mutual

/-- A value at a level. -/
def prettyAt (level : Nat) : Json → Text
  | null => "null".toList
  | boolean true => "true".toList
  | boolean false => "false".toList
  | natural n => Text.ofNat n
  | text t => string t
  | list [] => ['[', ']']
  | list (v :: rest) =>
    '[' :: indent (level + 1) ++ prettyAt (level + 1) v ++ prettyRest (level + 1) rest ++
      indent level ++ [']']
  | object [] => ['\x7b', '\x7d']
  | object ((key, v) :: rest) =>
    '\x7b' :: indent (level + 1) ++ string key ++ [':', ' '] ++ prettyAt (level + 1) v ++
      prettyEntries (level + 1) rest ++ indent level ++ ['\x7d']

/-- The elements of a list after its first. -/
def prettyRest (level : Nat) : List Json → Text
  | [] => []
  | v :: rest => ',' :: indent level ++ prettyAt level v ++ prettyRest level rest

/-- The entries of an object after its first. -/
def prettyEntries (level : Nat) : List (Text × Json) → Text
  | [] => []
  | (key, v) :: rest =>
    ',' :: indent level ++ string key ++ [':', ' '] ++ prettyAt level v ++
      prettyEntries level rest

end

/-- The written form of a report. -/
def pretty (v : Json) : Text := prettyAt 0 v

end Json

end StatementShell
