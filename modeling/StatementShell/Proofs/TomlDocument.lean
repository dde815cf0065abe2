import Mathlib.Data.List.Basic
import StatementShell.Proofs.QuotedStrings
import StatementShell.Toml.Reader
import StatementShell.Toml.Writer

/-!
# Documents read back

What is written as a document of tables is read back as these tables.  The reader is more
liberal than the writer, and two things it allows make the statement stronger than it needs
to be for the writer: it passes over blank lines, and it takes the tables and the pairs as
they come, so that any of them may be missing.

The proof goes up through the reader, one lemma for each of its parts: a value, a key, a
line, the lines, and the tree of tables that headers and pairs build.

## Main Definitions

* `Toml.IsBare`: names that need no quotes.
* `Toml.Line`: a line of a document, and `Toml.writeLines`.
* `Toml.Section.lines`, `Toml.Section.entries`: a table as lines, and as what is read.
* `Toml.documentEntries`: tables as what is read of a document.

## Main Results

* `Toml.readValue_write`, `Toml.readKey_bare`: values and keys read back.
* `Toml.readItems_writeLines`: so do lines.
* `Toml.assemble_sections`: tables are built from their lines.
* `Toml.readDocument_writeLines`: a document is read as its tables, whatever lines are blank.
-/

namespace StatementShell.Toml

open Document (Value Entries)

/-! ### Words -/

theorem digit?_of_isDigit {c : Char} (digit : c.isDigit = true) :
    digit? 10 c = some (c.toNat - '0'.toNat) := by
  have range : '0' ≤ c ∧ c ≤ '9' := by
    simpa [Char.isDigit, Char.le_def] using digit
  have value : c.toNat - '0'.toNat < 10 := by
    have upper : c.toNat ≤ '9'.toNat := range.2
    have nine : '9'.toNat = 57 := rfl
    have zero : '0'.toNat = 48 := rfl
    omega
  rw [digit?, hexValue?, if_pos range, Option.filter_some, if_pos (decide_eq_true value)]

/-- Digits are read on as they are folded to a number. -/
theorem digitsAfter_eq {t : Text} (digits : t.all Char.isDigit = true) (value : Nat) :
    digitsAfter 10 value t = some (Nat.ofDigitChars 10 t value) := by
  induction t generalizing value with
  | nil => rfl
  | cons c t ih =>
    obtain ⟨digit, more⟩ : c.isDigit = true ∧ t.all Char.isDigit = true := by
      simpa using digits
    have notUnderscore : c ≠ '_' := by
      rintro rfl
      exact absurd digit (by decide)
    have read : digitsAfter 10 value (c :: t) =
        digitsAfter 10 (value * 10 + (c.toNat - '0'.toNat)) t := by
      rw [digitsAfter.eq_def]
      split <;> simp_all [digit?_of_isDigit]
    rw [read, ih more, Nat.ofDigitChars_cons, Nat.mul_comm]

/-- A printed number has no superfluous zero in front. -/
theorem head?_ofNat {n : Nat} (zero : (Text.ofNat n).head? = some '0') : n = 0 := by
  induction n using Nat.strongRecOn with
  | ind n ih =>
    unfold Text.ofNat at zero ih
    by_cases small : n < 10
    · rw [Nat.toDigits_of_lt_base small] at zero
      exact Nat.digitChar_eq_zero.mp (Option.some.inj zero)
    · have tens : n / 10 < n := by omega
      rw [Nat.toDigits_of_base_le (by decide) (by omega),
        List.head?_append_of_ne_nil _ Nat.toDigits_ne_nil] at zero
      have none := ih (n / 10) tens zero
      omega

/-- A printed number is an integer. -/
theorem integer?_ofNat (n : Nat) : integer? (Text.ofNat n) = some (n : Int) := by
  have digits := Text.all_isDigit_ofNat n
  have value : Nat.ofDigitChars 10 (Text.ofNat n) 0 = n := Nat.ofDigitChars_ten_toDigits
  have front := head?_ofNat (n := n)
  have decimal : decimal? (Text.ofNat n) = some n := by
    have noZero : ¬ ((Text.ofNat n).head? = some '0' ∧ Text.ofNat n ≠ ['0']) := by
      rintro ⟨zero, other⟩
      rw [front zero] at other
      exact other rfl
    rw [decimal?, if_neg noZero]
    obtain ⟨c, t, split⟩ := List.exists_cons_of_ne_nil (Text.ofNat_ne_nil n)
    rw [split] at digits value ⊢
    obtain ⟨digit, more⟩ : c.isDigit = true ∧ t.all Char.isDigit = true := by
      simpa using digits
    rw [Nat.ofDigitChars_cons, Nat.mul_zero, Nat.zero_add] at value
    simp only [natural?, digit?_of_isDigit digit, digitsAfter_eq more, value]
  have noMark {c : Char} (mark : c.isDigit = false) (t u : Text) :
      Text.ofNat n ≠ t ++ c :: u := by
    intro split
    rw [split] at digits
    simp [mark] at digits
  unfold integer?
  split
  · case h_1 split => exact absurd split (noMark (by decide) ['0'] _)
  · case h_2 split => exact absurd split (noMark (by decide) ['0'] _)
  · case h_3 split => exact absurd split (noMark (by decide) ['0'] _)
  · case h_4 split => exact absurd split (noMark (by decide) [] _)
  · case h_5 split => exact absurd split (noMark (by decide) [] _)
  · rw [decimal]
    rfl

/-- The value of a printed number is the number. -/
theorem wordValue?_ofNat (n : Nat) : wordValue? (Text.ofNat n) = some (.integer n) := by
  have digits := Text.all_isDigit_ofNat n
  have notTrue : Text.ofNat n ≠ "true".toList := by
    intro same
    rw [same] at digits
    exact absurd digits (by decide)
  have notFalse : Text.ofNat n ≠ "false".toList := by
    intro same
    rw [same] at digits
    exact absurd digits (by decide)
  rw [wordValue?, if_neg notTrue, if_neg notFalse, integer?_ofNat]

/-- What a line ends with is no part of a word. -/
theorem readPlain_word {word : Text} {v : Value} (chars : word.all isWordChar = true)
    (notQuoted : Apart word) (means : wordValue? word = some v) (rest : Text) :
    readPlain (word ++ '\n' :: rest) = some (v, '\n' :: rest) := by
  have ends : isWordChar '\n' = false := by decide
  have all := List.all_eq_true.mp chars
  have unquoted : ¬ ((word ++ '\n' :: rest).head? = some '"' ∨
      (word ++ '\n' :: rest).head? = some '\'') := by
    cases word with
    | nil => simp
    | cons c word => simpa [Apart] using notQuoted
  rw [readPlain, if_neg unquoted, readWord, List.takeWhile_append_of_pos all,
    List.dropWhile_append_of_pos all]
  simp [ends, timeAfter, means]

/-! ### Values -/

/-- What is neither a list nor an inline table is read as a plain value. -/
theorem readValue_of_head? {t : Text} (noList : t.head? ≠ some '[')
    (noTable : t.head? ≠ some '\x7b') (depth : Nat) : readValue depth t = readPlain t := by
  unfold readValue
  split <;> simp_all

/-- A printed number consists of digits. -/
theorem head?_ofNat_ne {n : Nat} {c : Char} (other : c.isDigit = false) :
    (Text.ofNat n).head? ≠ some c := by
  intro first
  have digit := List.all_eq_true.mp (Text.all_isDigit_ofNat n) c (List.mem_of_head? first)
  exact Bool.noConfusion (other.symm.trans digit)

/-- A written value begins with a quote, a digit or a letter. -/
theorem Plain.head?_write_ne (p : Plain) {c : Char} (special : c ∈ [' ', '\t', '[', '\x7b'])
    (rest : Text) : (p.write ++ '\n' :: rest).head? ≠ some c := by
  cases p with
  | text t =>
    have marks : c ≠ '"' ∧ c ≠ '\'' := by
      constructor <;>
      · rintro rfl
        revert special
        decide
    rw [write, writeString]
    cases Quoting.choose t <;> simp [writeQuoted, marks.1.symm, marks.2.symm]
  | natural n =>
    have marks : ∀ d ∈ [' ', '\t', '[', '\x7b'], d.isDigit = false := by simp [Char.isDigit]
    rw [write, List.head?_append_of_ne_nil _ (Text.ofNat_ne_nil n)]
    exact head?_ofNat_ne (marks c special)
  | boolean b =>
    have marks : c ≠ 't' ∧ c ≠ 'f' := by
      constructor <;>
      · rintro rfl
        revert special
        decide
    cases b <;> simp [write, marks.1.symm, marks.2.symm]

/-- A written value is read as a plain one. -/
theorem readPlain_write (p : Plain) (rest : Text) :
    readPlain (p.write ++ '\n' :: rest) = some (p.toValue, '\n' :: rest) := by
  cases p with
  | text t =>
    have quoted : (writeString t ++ '\n' :: rest).head? = some '"' ∨
        (writeString t ++ '\n' :: rest).head? = some '\'' := by
      unfold writeString
      cases Quoting.choose t <;> simp [writeQuoted]
    rw [Plain.write, readPlain, if_pos quoted, readString_writeString t (by simp [Apart])]
    rfl
  | natural n =>
    have digits := List.all_eq_true.mp (Text.all_isDigit_ofNat n)
    have chars : (Text.ofNat n).all isWordChar = true := by
      have marks : ∀ d ∈ "=,[]\x7b\x7d# \t\r\n".toList, d.isDigit = false := by simp
      rw [List.all_eq_true]
      intro c member
      by_contra special
      rw [isWordChar, Bool.not_eq_true, Bool.not_eq_false', List.contains_iff_mem] at special
      exact Bool.noConfusion ((marks c special).symm.trans (digits c member))
    exact readPlain_word chars ⟨head?_ofNat_ne (by decide), head?_ofNat_ne (by decide)⟩
      (wordValue?_ofNat n) rest
  | boolean b =>
    cases b with
    | true =>
      have means : wordValue? "true".toList = some (.boolean true) := rfl
      exact readPlain_word (by decide) (by simp [Apart]) means rest
    | false =>
      have means : wordValue? "false".toList = some (.boolean false) := rfl
      exact readPlain_word (by decide) (by simp [Apart]) means rest

/-- Every value reads back where its line ends. -/
theorem readValue_write (p : Plain) (depth : Nat) (rest : Text) :
    readValue depth (p.write ++ '\n' :: rest) = some (p.toValue, '\n' :: rest) := by
  rw [readValue_of_head? (p.head?_write_ne (by decide) rest) (p.head?_write_ne (by decide) rest),
    readPlain_write]

/-! ### Keys -/

/-- Names that need no quotes. -/
def IsBare (name : Text) : Prop := name ≠ [] ∧ ∀ c ∈ name, isBareChar c = true

instance (name : Text) : Decidable (IsBare name) :=
  decidable_of_iff (name ≠ [] ∧ name.all isBareChar = true) (by simp [IsBare])

/-- A bare name begins with a character that has no meaning of its own. -/
theorem IsBare.head?_ne {name : Text} (bare : IsBare name) {c : Char}
    (special : isBareChar c = false) (rest : Text) : (name ++ rest).head? ≠ some c := by
  obtain ⟨first, more, rfl⟩ := List.exists_cons_of_ne_nil bare.1
  intro front
  obtain rfl : first = c := by simpa using front
  exact Bool.noConfusion (special.symm.trans (bare.2 first List.mem_cons_self))

/-- Blanks are skipped up to the first other character. -/
theorem skipBlanks_of_head? {t : Text} (noSpace : t.head? ≠ some ' ')
    (noTab : t.head? ≠ some '\t') : skipBlanks t = t := by
  cases t with
  | nil => rfl
  | cons c t =>
    have other : (c == ' ' || c == '\t') = false := by simp_all
    rw [skipBlanks, List.dropWhile_cons, if_neg (by simp [other])]

theorem IsBare.skipBlanks_append {name : Text} (bare : IsBare name) (rest : Text) :
    skipBlanks (name ++ rest) = name ++ rest :=
  skipBlanks_of_head? (bare.head?_ne (by decide) rest) (bare.head?_ne (by decide) rest)

/-- What has no quote in front is read as a bare part of a key. -/
theorem readKeyPart_bare {name after : Text} (bare : IsBare name)
    (ends : ∀ c ∈ after.head?, isBareChar c = false) :
    readKeyPart (name ++ after) = some (name, after) := by
  have word : (name ++ after).takeWhile isBareChar = name ∧
      (name ++ after).dropWhile isBareChar = after := by
    rw [List.takeWhile_append_of_pos bare.2, List.dropWhile_append_of_pos bare.2]
    cases after with
    | nil => simp
    | cons c after => simp [ends c rfl]
  unfold readKeyPart
  split
  · case h_1 split => exact absurd (by rw [split]; rfl) (bare.head?_ne (c := '"') (by decide) after)
  · case h_2 split =>
    exact absurd (by rw [split]; rfl) (bare.head?_ne (c := '\'') (by decide) after)
  · rw [word.1, word.2]
    obtain ⟨c, more, rfl⟩ := List.exists_cons_of_ne_nil bare.1
    rfl

/-- A bare name is read as a key without dots, with the blanks after it. -/
theorem readKey_bare {name : Text} (bare : IsBare name) (after : Text)
    (ends : ∀ c ∈ after.head?, isBareChar c = false)
    (noDot : (skipBlanks after).head? ≠ some '.') :
    readKey (name ++ after) = some (⟨[], name⟩, skipBlanks after) := by
  have parts : readKeyParts (name ++ after) = some (⟨[], name⟩, skipBlanks after) := by
    rw [readKeyParts, readKeyPart_bare bare ends]
    simp only
    split
    · case h_1 more split => exact absurd (by rw [split]; rfl) noDot
    · rfl
  rw [readKey, parts]
  rfl

/-! ### Lines -/

/-- A line of a document. -/
inductive Line where
  | blank
  | header (name : Text)
  | pair (key : Text) (value : Plain)
  deriving DecidableEq, Repr

namespace Line

/-- The written form of a line. -/
def write : Line → Text
  | blank => ['\n']
  | header name => '[' :: name ++ "]\n".toList
  | pair key value => writePair (key, value)

/-- What is read of a line. -/
def item? : Line → Option Item
  | blank => none
  | header name => some (.header false ⟨[], name⟩)
  | pair key value => some (.pair ⟨[], key⟩ value.toValue)

/-- The names on a line need no quotes. -/
def IsBare : Line → Prop
  | blank => True
  | header name | pair name _ => Toml.IsBare name

end Line

/-- Lines written one after the other. -/
def writeLines (lines : List Line) : Text := lines.flatMap Line.write

/-- A line holds something where it begins with no blank, no comment and no end. -/
theorem lineEnd?_eq_none {t : Text} (nonempty : t ≠ [])
    (plain : ∀ c ∈ [' ', '\t', '\n', '\r', '#'], t.head? ≠ some c) : lineEnd? t = none := by
  obtain ⟨c, rest, rfl⟩ := List.exists_cons_of_ne_nil nonempty
  simp only [List.forall_mem_cons, List.head?_cons, ne_eq, Option.some.injEq] at plain
  obtain ⟨notSpace, notTab, notNewline, notReturn, notMark, -⟩ := plain
  rw [lineEnd?, skipBlanks_of_head? (by simpa using notSpace) (by simpa using notTab)]
  split
  · case h_1 split => exact absurd (List.cons.inj split).1 notMark
  · unfold lineBreak? newline?
    simp [notNewline, notReturn]

theorem writePair_append (pair : Text × Plain) (rest : Text) :
    writePair pair ++ rest = pair.1 ++ ' ' :: '=' :: ' ' :: (pair.2.write ++ '\n' :: rest) := by
  simp [writePair]

/-- What has no bracket in front is read as a pair. -/
theorem readItem_of_head? {t : Text} (noBracket : t.head? ≠ some '[') :
    readItem t = (readPair (fun t => some (skipBlanks t)) (readValue maxNesting) t).map fun r =>
      (.pair r.1 r.2.1, r.2.2) := by
  unfold readItem
  split <;> simp_all

/-- A pair is read from its line. -/
theorem readItem_pair {key : Text} (bare : IsBare key) (value : Plain) (rest : Text) :
    readItem (writePair (key, value) ++ rest) =
      some (.pair ⟨[], key⟩ value.toValue, '\n' :: rest) := by
  rw [writePair_append, readItem_of_head? (bare.head?_ne (by decide) _)]
  have ofKey := readKey_bare bare (' ' :: '=' :: ' ' :: (value.write ++ '\n' :: rest))
    (by rintro c ⟨⟩; decide) (by simp [skipBlanks])
  have toEquals : skipBlanks (' ' :: '=' :: ' ' :: (value.write ++ '\n' :: rest)) =
      '=' :: ' ' :: (value.write ++ '\n' :: rest) := rfl
  have toValue : skipBlanks (' ' :: (value.write ++ '\n' :: rest)) =
      value.write ++ '\n' :: rest :=
    skipBlanks_of_head? (value.head?_write_ne (by decide) rest)
      (value.head?_write_ne (by decide) rest)
  have atEquals (t : Text) : skipBlanks ('=' :: t) = '=' :: t := rfl
  rw [readPair, ofKey, toEquals]
  simp [atEquals, toValue, readValue_write]

/-- A header is read from its line. -/
theorem readItem_header {name : Text} (bare : IsBare name) (rest : Text) :
    readItem ('[' :: (name ++ ']' :: '\n' :: rest)) =
      some (.header false ⟨[], name⟩, '\n' :: rest) := by
  have ofKey := readKey_bare bare (']' :: '\n' :: rest) (by rintro c ⟨⟩; decide)
    (by simp [skipBlanks])
  have bracket : skipBlanks (']' :: '\n' :: rest) = ']' :: '\n' :: rest := rfl
  have ofHeader : readHeader false (name ++ ']' :: '\n' :: rest) =
      some (.header false ⟨[], name⟩, '\n' :: rest) := by
    rw [readHeader, bare.skipBlanks_append, ofKey, bracket]
    rfl
  have notDouble : (name ++ ']' :: '\n' :: rest).head? ≠ some '[' :=
    bare.head?_ne (by decide) _
  unfold readItem
  split
  · case h_1 split => exact absurd (by rw [(List.cons.inj split).2]; rfl) notDouble
  · case h_2 split => rw [← (List.cons.inj split).2, ofHeader]
  · case h_3 none => exact absurd rfl (none _)

/-- A line is read as what it holds. -/
theorem readLine_write {line : Line} (bare : line.IsBare) (rest : Text) :
    readLine (line.write ++ rest) = some (line.item?, rest) := by
  cases line with
  | blank => rfl
  | header name =>
    have written : (Line.header name).write ++ rest = '[' :: (name ++ ']' :: '\n' :: rest) := by
      simp [Line.write]
    rw [written, readLine, lineEnd?_eq_none (by simp) (by simp),
      skipBlanks_of_head? (by simp) (by simp), readItem_header bare]
    rfl
  | pair key value =>
    have marks : ∀ c ∈ [' ', '\t', '\n', '\r', '#'], isBareChar c = false := by simp [isBareChar]
    have noEnd : lineEnd? (writePair (key, value) ++ rest) = none := by
      rw [writePair_append]
      exact lineEnd?_eq_none (by simp) fun c special => IsBare.head?_ne bare (marks c special) _
    have noBlank :
        skipBlanks (writePair (key, value) ++ rest) = writePair (key, value) ++ rest := by
      rw [writePair_append]
      exact IsBare.skipBlanks_append bare _
    rw [Line.write, readLine, noEnd, noBlank, readItem_pair bare]
    rfl

theorem Line.write_ne_nil (line : Line) : line.write ≠ [] := by
  cases line <;> simp [write, writePair]

/-- Lines are read as what they hold. -/
theorem readItems_writeLines {lines : List Line} (bare : ∀ line ∈ lines, line.IsBare) :
    readItems (writeLines lines) = some (lines.filterMap Line.item?) := by
  induction lines with
  | nil =>
    rw [writeLines, List.flatMap_nil, readItems]
    rfl
  | cons line lines ih =>
    obtain ⟨bareHead, bareTail⟩ := List.forall_mem_cons.mp bare
    have written : writeLines (line :: lines) = line.write ++ writeLines lines :=
      List.flatMap_cons
    have nonempty : (writeLines (line :: lines)).isEmpty = false := by
      simp [written, line.write_ne_nil]
    have shorter : (writeLines lines).length < (writeLines (line :: lines)).length := by
      have some := List.length_pos_iff.mpr line.write_ne_nil
      rw [written, List.length_append]
      omega
    rw [readItems, nonempty]
    have read := readLine_write bareHead (writeLines lines)
    rw [← written] at read
    simp only [read, shorter, ih bareTail, if_true, List.filterMap_cons]
    cases line.item? <;> rfl

/-! ### Tables -/

namespace Section

/-- The lines of a table. -/
def lines (s : Section) : List Line := .header s.name :: s.pairs.map fun p => .pair p.1 p.2

/-- The entries of a table. -/
def entries (s : Section) : Entries := s.pairs.map fun p => (p.1, p.2.toValue)

/-- The names in a table need no quotes, and no key is there twice. -/
structure IsProper (s : Section) : Prop where
  name : IsBare s.name
  keys : ∀ p ∈ s.pairs, IsBare p.1
  distinct : (s.pairs.map (·.1)).Nodup

theorem map_fst_entries (s : Section) : s.entries.map (·.1) = s.pairs.map (·.1) := by
  rw [entries, List.map_map]
  rfl

end Section

/-- A name that is not there is not found. -/
theorem lookup_eq_none {entries : Entries} {name : Text} (absent : name ∉ entries.map (·.1)) :
    entries.lookup name = none := by
  rw [List.lookup_eq_none_iff]
  intro entry member
  simpa using fun same : name = entry.1 => absent (same ▸ List.mem_map_of_mem member)

/-- An entry is found under its name where no name is there twice. -/
theorem lookup_of_mem {entries : Entries} (distinct : (entries.map (·.1)).Nodup) {name : Text}
    {v : Value} (member : (name, v) ∈ entries) : entries.lookup name = some v := by
  induction entries with
  | nil => cases member
  | cons entry entries ih =>
    obtain ⟨absent, distinct⟩ := List.nodup_cons.mp distinct
    rcases List.mem_cons.mp member with rfl | later
    · simp
    · have other : name ≠ entry.1 := by
        rintro rfl
        exact absent (List.mem_map.mpr ⟨_, later, rfl⟩)
      rw [List.lookup_cons, beq_eq_false_iff_ne.mpr other]
      exact ih distinct later

/-- What is read of a document with some tables. -/
def documentEntries (sections : List Section) : Entries :=
  sections.map fun s => (s.name, .table .defined s.entries)

theorem map_fst_documentEntries (sections : List Section) :
    (documentEntries sections).map (·.1) = sections.map (·.name) := by
  rw [documentEntries, List.map_map]
  rfl

theorem lookup_documentEntries {sections : List Section}
    (distinct : (sections.map (·.name)).Nodup) {s : Section} (member : s ∈ sections) :
    (documentEntries sections).lookup s.name = some (.table .defined s.entries) := by
  rw [← map_fst_documentEntries] at distinct
  exact lookup_of_mem distinct (List.mem_map.mpr ⟨s, member, rfl⟩)

/-- Changing the last table changes nothing about the others. -/
theorem replace_concat {before : Entries} {name : Text} (absent : name ∉ before.map (·.1))
    (old new : Value) : replace name new (before ++ [(name, old)]) = before ++ [(name, new)] := by
  have others : ∀ entry ∈ before, entry.1 ≠ name :=
    fun entry member same => absent (same ▸ List.mem_map_of_mem member)
  rw [replace, List.map_append, List.map_congr_left (g := id)]
  · simp
  · intro entry member
    exact if_neg (others entry member)

/-- A header opens a table behind the others. -/
theorem add_header {a : Assembly} {name : Text} (absent : name ∉ a.root.map (·.1)) :
    a.add (.header false ⟨[], name⟩) =
      some ⟨[name], a.root ++ [(name, .table .defined [])]⟩ := by
  simp [Assembly.add, openTable, updateAt, lookup_eq_none absent, KeyPath.parts]

/-- A pair goes into the table of the last header. -/
theorem add_pair {before entries : Entries} {name key : Text} (absent : name ∉ before.map (·.1))
    (new : key ∉ entries.map (·.1)) (v : Value) :
    Assembly.add ⟨[name], before ++ [(name, .table .defined entries)]⟩ (.pair ⟨[], key⟩ v) =
      some ⟨[name], before ++ [(name, .table .defined (entries ++ [(key, v)]))]⟩ := by
  have found : (before ++ [(name, Value.table .defined entries)]).lookup name =
      some (.table .defined entries) := by
    rw [List.lookup_append, lookup_eq_none absent]
    simp
  simp [Assembly.add, updateAt, found, addPair, insertNew, lookup_eq_none new,
    replace_concat absent]

/-- The pairs of a table go into it one after the other. -/
theorem foldlM_pairs {before entries : Entries} {name : Text} (absent : name ∉ before.map (·.1))
    {pairs : List (Text × Plain)} (distinct : (entries.map (·.1) ++ pairs.map (·.1)).Nodup) :
    (pairs.map fun p => Item.pair ⟨[], p.1⟩ p.2.toValue).foldlM Assembly.add
        ⟨[name], before ++ [(name, .table .defined entries)]⟩ =
      some ⟨[name], before ++
        [(name, .table .defined (entries ++ pairs.map fun p => (p.1, p.2.toValue)))]⟩ := by
  induction pairs generalizing entries with
  | nil => simp
  | cons p pairs ih =>
    have new : p.1 ∉ entries.map (·.1) := by
      intro member
      exact (List.nodup_append.mp distinct).2.2 p.1 member p.1 (by simp) rfl
    have later : ((entries ++ [(p.1, p.2.toValue)]).map (·.1) ++ pairs.map (·.1)).Nodup := by
      simpa using distinct
    rw [List.map_cons, List.foldlM_cons, add_pair absent new]
    simp only [Option.bind_eq_bind, Option.bind_some, ih later, List.append_assoc, List.map_cons,
      List.singleton_append]

/-- The lines of a table make it. -/
theorem foldlM_section {a : Assembly} {s : Section} (absent : s.name ∉ a.root.map (·.1))
    (proper : s.IsProper) :
    (s.lines.filterMap Line.item?).foldlM Assembly.add a =
      some ⟨[s.name], a.root ++ [(s.name, .table .defined s.entries)]⟩ := by
  have items : s.lines.filterMap Line.item? = .header false ⟨[], s.name⟩ ::
      s.pairs.map fun p => Item.pair ⟨[], p.1⟩ p.2.toValue := by
    rw [Section.lines, List.filterMap_cons, List.filterMap_map]
    simp [Line.item?, Function.comp_def]
  rw [items, List.foldlM_cons, add_header absent]
  exact foldlM_pairs absent (by simpa using proper.distinct)

/-- Tables of different names are built from their lines, one after the other. -/
theorem assemble_sections {sections : List Section} (proper : ∀ s ∈ sections, s.IsProper)
    (distinct : (sections.map (·.name)).Nodup) :
    assemble (sections.flatMap fun s => s.lines.filterMap Line.item?) =
      some (documentEntries sections) := by
  have build (a : Assembly) (apart : (a.root.map (·.1) ++ sections.map (·.name)).Nodup) :
      ((sections.flatMap fun s => s.lines.filterMap Line.item?).foldlM Assembly.add a).map
          (·.root) = some (a.root ++ documentEntries sections) := by
    clear distinct
    induction sections generalizing a with
    | nil => simp [documentEntries]
    | cons s sections ih =>
      obtain ⟨properHead, properTail⟩ := List.forall_mem_cons.mp proper
      have absent : s.name ∉ a.root.map (·.1) := by
        intro member
        exact (List.nodup_append.mp apart).2.2 s.name member s.name (by simp) rfl
      rw [List.flatMap_cons, List.foldlM_append, foldlM_section absent properHead]
      simp only [Option.bind_eq_bind, Option.bind_some]
      rw [ih properTail _ (by simpa using apart)]
      simp [documentEntries]
  exact build ⟨[], []⟩ (by simpa using distinct)

/-! ### Documents -/

/-- No line begins with a byte order mark. -/
theorem dropByteOrderMark_writeLines {lines : List Line} (bare : ∀ line ∈ lines, line.IsBare) :
    dropByteOrderMark (writeLines lines) = writeLines lines := by
  have noMark : (writeLines lines).head? ≠ some '\uFEFF' := by
    cases lines with
    | nil => simp [writeLines]
    | cons line lines =>
      rw [writeLines, List.flatMap_cons, List.head?_append_of_ne_nil _ line.write_ne_nil]
      cases line with
      | blank => simp [Line.write]
      | header name => simp [Line.write]
      | pair key value =>
        have written := writePair_append (key, value) []
        rw [List.append_nil] at written
        rw [Line.write, written]
        exact IsBare.head?_ne (bare _ List.mem_cons_self) (by decide) _
  unfold dropByteOrderMark
  split
  · case h_1 split => exact absurd (by rw [split]; rfl) noMark
  · rfl

/-- A document of tables is read as these tables, whatever lines in it are blank. -/
theorem readDocument_writeLines {lines : List Line} {sections : List Section}
    (same : lines.filter (· ≠ .blank) = sections.flatMap Section.lines)
    (proper : ∀ s ∈ sections, s.IsProper) (distinct : (sections.map (·.name)).Nodup) :
    readDocument (writeLines lines) = some (documentEntries sections) := by
  have bare : ∀ line ∈ lines, line.IsBare := by
    intro line member
    by_cases blank : line = .blank
    · subst blank
      trivial
    · have kept : line ∈ sections.flatMap Section.lines := by
        rw [← same]
        exact List.mem_filter.mpr ⟨member, by simpa using blank⟩
      obtain ⟨s, inSections, inLines⟩ := List.mem_flatMap.mp kept
      rcases List.mem_cons.mp inLines with rfl | inPairs
      · exact (proper s inSections).name
      · obtain ⟨p, isPair, rfl⟩ := List.mem_map.mp inPairs
        exact (proper s inSections).keys p isPair
  have items : lines.filterMap Line.item? =
      sections.flatMap fun s => s.lines.filterMap Line.item? := by
    rw [← List.filterMap_flatMap, ← same, List.filterMap_filter]
    refine List.filterMap_congr fun line _ => ?_
    cases line <;> simp [Line.item?]
  rw [readDocument, dropByteOrderMark_writeLines bare, readItems_writeLines bare, items]
  exact assemble_sections proper distinct

/-- The lines of a document, with a blank line between neighbouring tables. -/
def documentLines : List Section → List Line
  | [] => []
  | [s] => s.lines
  | s :: next :: rest => s.lines ++ .blank :: documentLines (next :: rest)

/-- A document is written line by line. -/
theorem writeSections_eq (sections : List Section) :
    writeSections sections = writeLines (documentLines sections) := by
  have ofSection (s : Section) : s.write = writeLines s.lines := by
    rw [Section.write, Section.lines, writeLines, List.flatMap_cons, List.flatMap_map]
    rfl
  induction sections with
  | nil => rfl
  | cons s sections ih =>
    cases sections with
    | nil => exact ofSection s
    | cons next rest =>
      rw [writeSections, documentLines, ih, ofSection]
      simp [writeLines, Line.write]

theorem filter_documentLines (sections : List Section) :
    (documentLines sections).filter (· ≠ .blank) = sections.flatMap Section.lines := by
  have kept (s : Section) : s.lines.filter (· ≠ .blank) = s.lines := by
    rw [List.filter_eq_self]
    intro line member
    rcases List.mem_cons.mp member with rfl | inPairs
    · rfl
    · obtain ⟨p, -, rfl⟩ := List.mem_map.mp inPairs
      rfl
  induction sections with
  | nil => rfl
  | cons s sections ih =>
    cases sections with
    | nil => simpa [documentLines] using kept s
    | cons next rest =>
      rw [documentLines, List.filter_append, List.filter_cons, if_neg (by simp), ih, kept]
      rfl

end StatementShell.Toml
