import StatementShell.Document.Value
import StatementShell.Text.Digits

/-!
# Numbers of TOML

Integers are written in base ten with an optional sign, or in base sixteen,
eight or two with the marker of the base.  An underscore may stand between two
digits.  A number with a fraction or an exponent is a float.

A word is taken for an integer by its front: the marker of a base, or decimal
digits and an underscore.  What follows is converted only when the value is asked
for, so that some words are integers of the document although they have no value.

## Main Definitions

* `Toml.natural?`: the value of a group of digits.
* `Toml.integer?`, `Toml.float?`: the value of a whole word.
* `Toml.hasIntegerForm`: whether a word without a value is an integer nonetheless.
-/

namespace StatementShell.Toml

open Document (Value)

/-! ### Digits -/

/-- The value of a digit in a base of at most sixteen. -/
def digit? (base : Nat) (c : Char) : Option Nat :=
  (hexValue? c).filter (· < base)

/-- Reads digits on after a digit, with the value of those before. -/
def digitsAfter (base value : Nat) : Text → Option Nat
  | [] => some value
  | '_' :: c :: rest =>
    match digit? base c with
    | some d => digitsAfter base (value * base + d) rest
    | none => none
  | c :: rest =>
    match digit? base c with
    | some d => digitsAfter base (value * base + d) rest
    | none => none

/-- The value of a group of digits with underscores between digits. -/
def natural? (base : Nat) : Text → Option Nat
  | [] => none
  | c :: rest =>
    match digit? base c with
    | some d => digitsAfter base d rest
    | none => none

/-- The value of decimal digits without a superfluous zero in front. -/
def decimal? (t : Text) : Option Nat :=
  if t.head? = some '0' ∧ t ≠ ['0'] then none else natural? 10 t

/-! ### Integers -/

/-- The integer a word is. -/
def integer? : Text → Option Int
  | '0' :: 'x' :: rest => (natural? 16 rest).map Int.ofNat
  | '0' :: 'o' :: rest => (natural? 8 rest).map Int.ofNat
  | '0' :: 'b' :: rest => (natural? 2 rest).map Int.ofNat
  | '+' :: rest => (decimal? rest).map Int.ofNat
  | '-' :: rest => (decimal? rest).map fun n => -Int.ofNat n
  | t => (decimal? t).map Int.ofNat

/-! ### Floats -/

/-- The least number that rounds to infinity: halfway between the greatest
finite double and the next power of two. -/
def overflowBound : Nat := Nat.pow 2 1024 - Nat.pow 2 970

/-- Whether a mantissa times a power of ten is below the bound.  Far from the
bound the number of digits decides. -/
def isFinite (mantissa : Nat) (exponent : Int) : Bool :=
  let size := exponent + (Nat.toDigits 10 mantissa).length
  if mantissa = 0 ∨ size < 300 then true
  else if size > 320 then false
  else
    match exponent with
    | .ofNat e => mantissa * Nat.pow 10 e < overflowBound
    | .negSucc e => mantissa < overflowBound * Nat.pow 10 (e + 1)

/-- The parts of a word before and after the first of some characters. -/
def splitAt? (p : Char → Bool) (t : Text) : Text × Option Text :=
  match t.dropWhile fun c => !p c with
  | [] => (t, none)
  | _ :: after => (t.takeWhile fun c => !p c, some after)

/-- The value of an exponent. -/
def exponent? : Text → Option Int
  | '+' :: rest => (natural? 10 rest).map Int.ofNat
  | '-' :: rest => (natural? 10 rest).map fun n => -Int.ofNat n
  | t => (natural? 10 t).map Int.ofNat

/-- The number of digits of a group. -/
def digitCount (t : Text) : Nat := t.countP (· != '_')

/-- Whether a word without a sign is a float with a fraction or an exponent, and
if so whether it is finite. -/
def fraction? (t : Text) : Option Bool := do
  let (mantissa, power) := splitAt? (fun c => c == 'e' || c == 'E') t
  let (whole, decimals) := splitAt? (· == '.') mantissa
  if power.isNone ∧ decimals.isNone then none
  let wholeValue ← decimal? whole
  let (value, places) ←
    match decimals with
    | none => some (wholeValue, 0)
    | some digits =>
      (natural? 10 digits).map fun n =>
        (wholeValue * Nat.pow 10 (digitCount digits) + n, digitCount digits)
  let exponent ←
    match power with
    | none => some 0
    | some digits => exponent? digits
  return isFinite value (exponent - places)

/-- A word without the sign in front. -/
def dropSign : Text → Text
  | '+' :: rest => rest
  | '-' :: rest => rest
  | t => t

/-- The float a word is. -/
def float? (t : Text) : Option Value :=
  let body := dropSign t
  if body = "inf".toList ∨ body = "nan".toList then some (.number true)
  else (fraction? body).map .number

/-! ### Integers without a value -/

/-- Whether each underscore stands between two characters of a class, given whether
the character right before the text is one. -/
def separates (p : Char → Bool) (before : Bool) : Text → Bool
  | [] => true
  | '_' :: rest => before && rest.head?.any p && separates p false rest
  | c :: rest => separates p (p c) rest

/-- Whether the characters after some decimal digits leave the word an integer: they
start with an underscore, are no fraction and no exponent, and each underscore stands
between what could be digits of base sixteen. -/
def continuesInteger (t : Text) : Bool :=
  t.head? == some '_' && t.all (fun c => c != '.' && c != 'e' && c != 'E') &&
    separates (fun c => (hexValue? c).isSome) true t

/-- Whether a word has the form of an integer: the marker of a base without digits, or
decimal digits without a superfluous zero in front that go on after an underscore. -/
def hasIntegerForm (t : Text) : Bool :=
  t == "0x".toList || t == "0o".toList || t == "0b".toList ||
    (let digits := (dropSign t).takeWhile Char.isDigit
     digits != [] && digits.head? != some '0' &&
      continuesInteger ((dropSign t).dropWhile Char.isDigit))

end StatementShell.Toml
