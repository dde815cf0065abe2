import StatementShell.Text.Basic

/-!
# Digits

Numbers are printed in decimal and code points in base sixteen.

## Main Definitions

* `Text.ofNat`: a number in decimal.
* `Text.toNat?`: the number that decimal digits stand for.
* `hexDigit`: a digit of base sixteen, in capitals.
* `hexValue?`: the value of such a digit, in capitals or not.

## Main Statements

* `Text.toNat?_ofNat`, `hexValue?_hexDigit`: what is written reads back.
-/

namespace StatementShell

/-! ### Decimal -/

namespace Text

/-- A number in decimal. -/
def ofNat (n : Nat) : Text := Nat.toDigits 10 n

/-- The number that decimal digits stand for; there has to be one at least. -/
def toNat? (t : Text) : Option Nat :=
  if t ≠ [] ∧ t.all Char.isDigit then some (Nat.ofDigitChars 10 t 0) else none

/-- A printed number holds digits only. -/
theorem all_isDigit_ofNat (n : Nat) : (ofNat n).all Char.isDigit = true :=
  List.all_eq_true.2 fun _ h => Nat.isDigit_of_mem_toDigits (by decide) (by decide) h

/-- A printed number has a digit. -/
theorem ofNat_ne_nil (n : Nat) : ofNat n ≠ [] := Nat.toDigits_ne_nil

/-- A printed number reads back. -/
@[simp] theorem toNat?_ofNat (n : Nat) : toNat? (ofNat n) = some n := by
  rw [toNat?, if_pos ⟨ofNat_ne_nil n, all_isDigit_ofNat n⟩]
  exact congrArg some Nat.ofDigitChars_ten_toDigits

end Text

/-! ### Base sixteen -/

/-- The value of a digit of base sixteen. -/
def hexValue? (c : Char) : Option Nat :=
  if '0' ≤ c ∧ c ≤ '9' then some (c.toNat - '0'.toNat)
  else if 'a' ≤ c ∧ c ≤ 'f' then some (c.toNat - 'a'.toNat + 10)
  else if 'A' ≤ c ∧ c ≤ 'F' then some (c.toNat - 'A'.toNat + 10)
  else none

/-- A digit of base sixteen, in capitals. -/
def hexDigit (n : Nat) : Char :=
  if n < 10 then Char.ofNat ('0'.toNat + n) else Char.ofNat ('A'.toNat + (n - 10))

/-- A digit reads back. -/
theorem hexValue?_hexDigit : ∀ n < 16, hexValue? (hexDigit n) = some n := by decide

end StatementShell
