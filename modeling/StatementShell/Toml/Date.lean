import StatementShell.Text.Basic

/-!
# Dates and times of TOML

No setting is a date, so that only the form and the ranges of a date are read.

## Main Definitions

* `Toml.isDate`: a date alone.
* `Toml.isDateTime`: a date, a time of day, or both, then with an optional offset.
-/

namespace StatementShell.Toml

/-! ### Fields -/

/-- A number of exactly so many digits at the front of a text, and the rest. -/
def fixed? : Nat → Nat → Text → Option (Nat × Text)
  | 0, value, t => some (value, t)
  | _ + 1, _, [] => none
  | n + 1, value, c :: rest =>
    if c.isDigit then fixed? n (value * 10 + (c.toNat - '0'.toNat)) rest else none

/-- A given character at the front of a text, removed. -/
def mark? (c : Char) : Text → Option Text
  | [] => none
  | x :: rest => if x = c then some rest else none

/-- Whether a year has a leap day. -/
def isLeapYear (year : Nat) : Bool :=
  year % 4 == 0 && (year % 100 != 0 || year % 400 == 0)

/-- The number of days of a month. -/
def daysIn (year month : Nat) : Nat :=
  if month = 2 then (if isLeapYear year then 29 else 28)
  else if [4, 6, 9, 11].contains month then 30
  else 31

/-! ### Parts -/

/-- What follows a date at the front of a text. -/
def date? (t : Text) : Option Text := do
  let (year, t) ← fixed? 4 0 t
  let (month, t) ← fixed? 2 0 (← mark? '-' t)
  let (day, t) ← fixed? 2 0 (← mark? '-' t)
  if 1 ≤ month ∧ month ≤ 12 ∧ 1 ≤ day ∧ day ≤ daysIn year month then some t else none

/-- What follows the fraction of a second, if there is one. -/
def fractionOfSecond? : Text → Option Text
  | '.' :: c :: rest => if c.isDigit then some (rest.dropWhile Char.isDigit) else none
  | ['.'] => none
  | t => some t

/-- What follows the seconds, if there are any. -/
def seconds? : Text → Option Text
  | ':' :: rest => do
    let (second, t) ← fixed? 2 0 rest
    if second ≤ 60 then fractionOfSecond? t else none
  | t => some t

/-- What follows a time of day at the front of a text. -/
def timeOfDay? (t : Text) : Option Text := do
  let (hour, t) ← fixed? 2 0 t
  let (minute, t) ← fixed? 2 0 (← mark? ':' t)
  if hour ≤ 23 ∧ minute ≤ 59 then seconds? t else none

/-- Whether a text is an offset, or empty. -/
def isOffset : Text → Bool
  | [] => true
  | ['Z'] | ['z'] => true
  | c :: rest =>
    (c == '+' || c == '-') &&
      (do
        let (hour, t) ← fixed? 2 0 rest
        let (minute, t) ← fixed? 2 0 (← mark? ':' t)
        return decide (hour ≤ 23) && decide (minute ≤ 59) && t.isEmpty) == some true

/-! ### Words -/

/-- Whether a word is a date. -/
def isDate (t : Text) : Bool := date? t == some []

/-- Whether a word is a date, a time of day, or both. -/
def isDateTime (t : Text) : Bool :=
  match date? t with
  | some [] => true
  | some (c :: rest) =>
    (c == 'T' || c == 't' || c == ' ') &&
      match timeOfDay? rest with
      | some after => isOffset after
      | none => false
  | none => timeOfDay? t == some []

end StatementShell.Toml
