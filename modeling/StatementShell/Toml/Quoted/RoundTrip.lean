import StatementShell.Toml.Quoted

/-!
# Strings on one line read back

What the writer puts between single quotes, the reader reads as the string it
was, whatever follows the closing quote.

## Main Statements

* `escape?_cases`: what is written of a character that has an escape.
* `readBasic_flatMap_basicChar`: any string between double quotes.
* `readLiteral_append`: a string between apostrophes, if its characters may
  stand there.
-/

namespace StatementShell.Toml

/-! ### Between double quotes -/

/-- Every character has the code point that it has. -/
theorem scalar?_toNat (c : Char) : scalar? c.toNat = some c := by
  simp [scalar?, show c.toNat.isValidChar from c.valid]

/-- The four digits of a control character read back. -/
theorem readBasic_code {c : Char} (h : c.toNat < 256) (rest : Text) :
    readBasic (.digits 4 0)
      ('0' :: '0' :: hexDigit (c.toNat / 16) :: hexDigit (c.toNat % 16) :: rest) =
      prepend c (readBasic .no rest) := by
  have zero : hexValue? '0' = some 0 := rfl
  have high : hexValue? (hexDigit (c.toNat / 16)) = some (c.toNat / 16) :=
    hexValue?_hexDigit _ (by omega)
  have low : hexValue? (hexDigit (c.toNat % 16)) = some (c.toNat % 16) :=
    hexValue?_hexDigit _ (by omega)
  have value : c.toNat / 16 * 16 + c.toNat % 16 = c.toNat := by omega
  simp [readBasic, addDigit?, zero, high, low, value, scalar?_toNat, prepend?]

/-- A backslash and a lower-case U announce four digits. -/
theorem readBasic_codeMark (t : Text) :
    readBasic .no ('\\' :: 'u' :: t) = readBasic (.digits 4 0) t := rfl

/-- A control character is one of the first characters. -/
theorem toNat_lt_of_isControl {c : Char} (h : isControl c = true) : c.toNat < 256 := by
  simp only [isControl, Bool.or_eq_true, Bool.and_eq_true, decide_eq_true_eq,
    beq_iff_eq] at h
  omega

/-- An escape is a letter that stands for the character or the code of the character, and only
characters that may stand for themselves have none. -/
theorem escape?_cases (c : Char) :
    (∃ e, escape? c = some ['\\', e] ∧ escapeOf? e = some (.char c)) ∨
      (c.toNat < 256 ∧ escape? c =
        some ['\\', 'u', '0', '0', hexDigit (c.toNat / 16), hexDigit (c.toNat % 16)]) ∨
      (escape? c = none ∧ c ≠ '\\' ∧ (isControl c = true → c = '\n')) := by
  unfold escape?
  by_cases backspace : c = '\x08'
  · exact Or.inl ⟨'b', by simp [backspace, escapeOf?]⟩
  by_cases tab : c = '\t'
  · exact Or.inl ⟨'t', by simp [tab, escapeOf?]⟩
  by_cases feed : c = '\x0C'
  · exact Or.inl ⟨'f', by simp [feed, escapeOf?]⟩
  by_cases carriageReturn : c = '\r'
  · exact Or.inl ⟨'r', by simp [carriageReturn, escapeOf?]⟩
  by_cases backslash : c = '\\'
  · exact Or.inl ⟨'\\', by simp [backslash, escapeOf?]⟩
  rw [if_neg backspace, if_neg tab, if_neg feed, if_neg carriageReturn, if_neg backslash]
  by_cases control : (isControl c && c != '\n') = true
  · rw [if_pos control]
    exact Or.inr (Or.inl ⟨toNat_lt_of_isControl (Bool.and_eq_true _ _ ▸ control).1, rfl⟩)
  · rw [if_neg control]
    exact Or.inr (Or.inr ⟨rfl, backslash, by simpa using control⟩)

/-- A written character between double quotes reads back. -/
theorem readBasic_basicChar (c : Char) (rest : Text) :
    readBasic .no (basicChar c ++ rest) = prepend c (readBasic .no rest) := by
  unfold basicChar
  by_cases newline : c = '\n'
  · simp [newline, readBasic, escapeOf?]
  by_cases quote : c = '"'
  · simp [quote, readBasic, escapeOf?]
  rw [if_neg newline, if_neg quote]
  rcases escape?_cases c with ⟨e, written, means⟩ | ⟨first, written⟩ | ⟨written, backslash, control⟩
  · simp [written, readBasic, means]
  · rw [← readBasic_code first, ← readBasic_codeMark, written]
    rfl
  · have stands : isControl c = false := by simpa [newline] using control
    simp [written, readBasic, quote, backslash, stands]

/-- A string written between double quotes reads back. -/
theorem readBasic_flatMap_basicChar (t rest : Text) :
    readBasic .no (t.flatMap basicChar ++ '"' :: rest) = some (t, rest) := by
  induction t with
  | nil => simp [readBasic]
  | cons c more ih =>
    rw [List.flatMap_cons, List.append_assoc, readBasic_basicChar, ih]
    rfl

/-! ### Between apostrophes -/

/-- A string of characters that stand for themselves between apostrophes reads
back. -/
theorem readLiteral_append {t : Text} (h : ∀ c ∈ t, c ≠ '\'' ∧ isControl c = false)
    (rest : Text) : readLiteral (t ++ '\'' :: rest) = some (t, rest) := by
  induction t with
  | nil => simp [readLiteral]
  | cons c more ih =>
    have hc := h c (by simp)
    rw [List.cons_append, readLiteral, ih fun x hx => h x (by simp [hx])]
    simp [hc, prepend]

end StatementShell.Toml
