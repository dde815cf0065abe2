import Mathlib.Data.List.Basic
import StatementShell.Toml.Quoted.RoundTrip

/-!
# Strings read back

The writer chooses among four ways of writing a string by what the string holds, and in all
of them the reader reads the string that it was, as long as no further quote follows.

Between triple quotes the end is the difficulty.  The reader takes up to five quotes in a
row there, the last three of which close the string, so that quotes at the end of a string
need no escape.  Further inside no three quotes may stand in a row.  Between double quotes
the writer escapes every third one, and between apostrophes it writes only strings that have
no three.

## Main Definitions

* `Toml.Quoting.Admits`: the strings that may be written in a way.
* `Toml.Apart`: texts that no quote stands in front of.

## Main Results

* `Toml.Quoting.admits_choose`: the way chosen for a string admits it.
* `Toml.quotes_or_goesOn_basicLinesBody`, `Toml.quotes_or_goesOn_append`: where the closing quotes
  may be taken for others.
* `Toml.readBasicLines_basicLinesBody`, `Toml.readLiteralLines_append`: between triple quotes.
* `Toml.readString_writeString`: every string reads back.
-/

namespace StatementShell.Toml

/-! ### The ways to write a string -/

/-- Whether a string may be written in a way: between apostrophes all its characters have to
stand for themselves. -/
def Quoting.Admits (t : Text) : Quoting → Prop
  | basic | basicLines => True
  | literal => ∀ c ∈ t, c ≠ '\'' ∧ isControl c = false
  | literalLines => (∀ c ∈ t, isControl c = true → c = '\n') ∧ hasTriple '\'' t = false

/-- The way that the writer chooses for a string admits it. -/
theorem Quoting.admits_choose (t : Text) : (choose t).Admits t := by
  have noControl (none : (!t.any fun c => isControl c && c != '\n') = true) :
      ∀ c ∈ t, isControl c = true → c = '\n' := by
    intro c member control
    by_contra other
    have found := List.any_eq_false.mp (Bool.not_eq_true' _ ▸ none) c member
    simp [control, other] at found
  unfold choose
  simp only [Bool.and_eq_true]
  split
  · trivial
  · split
    · case isTrue fits =>
      obtain ⟨⟨none, noQuote⟩, noNewline⟩ := fits
      intro c member
      constructor
      · rintro rfl
        simp [member] at noQuote
      · by_contra control
        have newline := noControl none c member (by simpa using control)
        rw [newline] at member
        simp [member] at noNewline
    · split
      · trivial
      · split
        · case isTrue fits =>
          exact ⟨noControl fits.1, by simpa using fits.2⟩
        · split <;> trivial

/-! ### Escapes -/

/-- A character is written as it stands, which no carriage return is, or with a backslash in
front. -/
theorem head?_escape (c : Char) (rest : Text) :
    ((escape? c).getD [c] ++ rest).head? = some '\\' ∨
      ((escape? c).getD [c] ++ rest).head? = some c ∧ c ≠ '\r' := by
  rcases escape?_cases c with ⟨e, written, -⟩ | ⟨-, written⟩ | ⟨written, -, control⟩
  · exact Or.inl (by rw [written]; rfl)
  · exact Or.inl (by rw [written]; rfl)
  · refine Or.inr ⟨by rw [written]; rfl, ?_⟩
    rintro rfl
    exact absurd (control (by decide)) (by decide)

/-- No character is written as a quote between double quotes. -/
theorem head?_basicChar (c : Char) (rest : Text) : (basicChar c ++ rest).head? ≠ some '"' := by
  unfold basicChar
  split
  · simp
  · split
    · simp
    · case isFalse notQuote =>
      rcases head?_escape c rest with escaped | ⟨stands, -⟩
      · simp [escaped]
      · simp [stands, notQuote]

/-! ### The end of a string between triple quotes -/

/-- Texts that do not begin with a quote. -/
def Apart (t : Text) : Prop := t.head? ≠ some '"' ∧ t.head? ≠ some '\''

/-- Where no three quotes stand in a row the string goes on. -/
theorem closing?_eq_none {quote : Char} {t : Text} (goesOn : ¬ [quote, quote, quote] <+: t) :
    closing? quote t = none := by
  match t with
  | [] | [_] | [_, _] => rfl
  | a :: b :: c :: rest =>
    have notThree : ¬ (a = quote ∧ b = quote ∧ c = quote) := by
      rintro ⟨first, second, third⟩
      rw [first, second, third] at goesOn
      exact goesOn (List.prefix_append [quote, quote, quote] rest)
    simp only [closing?, if_neg notThree]

theorem not_prefix_of_head? {c : Char} {front t : Text} (apart : t.head? ≠ some c) :
    ¬ c :: front <+: t := by
  rintro ⟨rest, rfl⟩
  exact apart rfl

theorem replicate_prefix_of_le {c : Char} {j k : Nat} (fewer : j ≤ k) {t : Text}
    (front : List.replicate k c <+: t) : List.replicate j c <+: t := by
  obtain ⟨rest, rfl⟩ := front
  have split : List.replicate k c = List.replicate j c ++ List.replicate (k - j) c := by
    rw [List.replicate_append_replicate, Nat.add_sub_cancel' fewer]
  rw [split, List.append_assoc]
  exact List.prefix_append _ _

/-- Up to two quotes right before the closing ones belong to the string. -/
theorem closing?_replicate {quote : Char} {n : Nat} (few : n ≤ 2) {rest : Text}
    (apart : rest.head? ≠ some quote) :
    closing? quote (List.replicate n quote ++ quote :: quote :: quote :: rest) =
      some (List.replicate n quote, rest) := by
  have other {d : Char} {more : Text} (split : rest = d :: more) : d ≠ quote := by
    rintro rfl
    exact apart (by rw [split]; rfl)
  match n, few with
  | 0, _ =>
    match rest with
    | [] => simp [closing?]
    | [d] => simp [closing?, other rfl]
    | d :: e :: more => simp [closing?, other rfl]
  | 1, _ =>
    match rest with
    | [] => simp [closing?, List.replicate]
    | d :: more => simp [closing?, List.replicate, other rfl]
  | 2, _ => simp [closing?, List.replicate]

/-! ### Between triple double quotes -/

/-- At the closing quotes the string ends. -/
theorem readBasicLines_of_closing {t : Text} {result : Text × Text}
    (closes : closing? '"' t = some result) : readBasicLines (.body false) t = some result := by
  cases t with
  | nil => cases closes
  | cons c rest => simp [readBasicLines, closes]

/-- A quote that closes nothing belongs to the string. -/
theorem readBasicLines_quote {t : Text} (goesOn : ¬ ['"', '"'] <+: t) :
    readBasicLines (.body false) ('"' :: t) = prepend '"' (readBasicLines (.body false) t) := by
  have noClosing : closing? '"' ('"' :: t) = none :=
    closing?_eq_none (mt (List.prefix_cons_inj '"').mp goesOn)
  have stands : standsInLines '"' t = true := by
    have plain : isControl '"' = false := by decide
    simp [standsInLines, plain]
  simp [readBasicLines, noClosing, stands]

/-- A quote with a backslash in front belongs to the string. -/
theorem readBasicLines_escapedQuote (t : Text) :
    readBasicLines (.body false) ('\\' :: '"' :: t) =
      prepend '"' (readBasicLines (.body false) t) := by
  simp [readBasicLines, closing?_eq_none, escapedLineEnd?, isLineSpace, escapeOf?]

/-- The four digits of a control character read back. -/
theorem readBasicLines_code {c : Char} (first : c.toNat < 256) (rest : Text) :
    readBasicLines (.body false)
      ('\\' :: 'u' :: '0' :: '0' :: hexDigit (c.toNat / 16) :: hexDigit (c.toNat % 16) :: rest) =
      prepend c (readBasicLines (.body false) rest) := by
  have zero : hexValue? '0' = some 0 := rfl
  have high : hexValue? (hexDigit (c.toNat / 16)) = some (c.toNat / 16) :=
    hexValue?_hexDigit _ (by omega)
  have low : hexValue? (hexDigit (c.toNat % 16)) = some (c.toNat % 16) :=
    hexValue?_hexDigit _ (by omega)
  have value : c.toNat / 16 * 16 + c.toNat % 16 = c.toNat := by omega
  simp [readBasicLines, closing?_eq_none, escapedLineEnd?, isLineSpace, escapeOf?, addDigit?, zero,
    high, low, value, scalar?_toNat, prepend?, Escaping.inLines]

/-- A letter with a meaning after a backslash is no white space. -/
theorem escapedLineEnd?_of_escapeOf? {e : Char} {x : Escape} (means : escapeOf? e = some x)
    (rest : Text) : escapedLineEnd? e rest = none := by
  have notSpace : isLineSpace e rest = false := by
    by_contra space
    simp only [isLineSpace, Bool.or_eq_true, Bool.and_eq_true, beq_iff_eq,
      Bool.not_eq_false] at space
    rcases space with ((rfl | rfl) | rfl) | ⟨rfl, -⟩ <;> cases means
  rw [escapedLineEnd?, notSpace]
  rfl

/-- A written character other than a quote reads back. -/
theorem readBasicLines_escape {c : Char} (notQuote : c ≠ '"') (rest : Text) :
    readBasicLines (.body false) ((escape? c).getD [c] ++ rest) =
      prepend c (readBasicLines (.body false) rest) := by
  rcases escape?_cases c with ⟨e, written, means⟩ | ⟨first, written⟩ | ⟨written, backslash, control⟩
  · simp [written, readBasicLines, closing?_eq_none, escapedLineEnd?_of_escapeOf? means, means]
  · rw [written]
    exact readBasicLines_code first rest
  · have stands : standsInLines c rest = true := by
      cases special : isControl c with
      | false => simp [standsInLines, special]
      | true => simp [standsInLines, control special]
    have noClosing : closing? '"' (c :: rest) = none :=
      closing?_eq_none fun front => notQuote (List.cons_prefix_cons.mp front).1.symm
    simp [written, readBasicLines, noClosing, backslash, stands]

/-- Where the third of three quotes would be next, either only quotes are left of a string, and
too few, or what is written of it has no such quotes in front. -/
theorem quotes_or_goesOn_basicLinesBody (t : Text) {run k : Nat} (three : run + k = 3)
    (missing : 0 < k) (rest : Text) :
    (∃ n < k, t = List.replicate n '"' ∧ basicLinesBody run t = t) ∨
      ¬ List.replicate k '"' <+: basicLinesBody run t ++ '"' :: '"' :: '"' :: rest := by
  induction t generalizing run k with
  | nil => exact Or.inl ⟨0, missing, rfl, rfl⟩
  | cons c t ih =>
    obtain ⟨j, rfl⟩ := Nat.exists_eq_add_one.mpr missing
    rw [basicLinesBody]
    by_cases quote : c = '"'
    · subst quote
      rw [if_pos rfl]
      by_cases third : run = 2
      · rw [if_pos third]
        exact Or.inr (not_prefix_of_head? (by simp))
      · rw [if_neg third]
        rcases ih (show run + 1 + j = 3 by omega) (by omega) with ⟨n, few, quotes, plain⟩ | goesOn
        · exact Or.inl ⟨n + 1, by omega, congrArg ('"' :: ·) quotes, congrArg ('"' :: ·) plain⟩
        · exact Or.inr fun front => goesOn ((List.prefix_cons_inj '"').mp front)
    · rw [if_neg quote, List.append_assoc]
      refine Or.inr (not_prefix_of_head? ?_)
      rcases head?_escape c (basicLinesBody 0 t ++ '"' :: '"' :: '"' :: rest) with
        escaped | ⟨stands, -⟩
      · simp [escaped]
      · simp [stands, quote]

/-- A string written between triple double quotes reads back, also from the middle on, after
quotes that were written before. -/
theorem readBasicLines_basicLinesBody (t : Text) {run : Nat} (few : run ≤ 2) {rest : Text}
    (apart : rest.head? ≠ some '"') :
    readBasicLines (.body false) (basicLinesBody run t ++ '"' :: '"' :: '"' :: rest) =
      some (t, rest) := by
  induction t generalizing run with
  | nil => exact readBasicLines_of_closing (closing?_replicate (Nat.zero_le 2) apart)
  | cons c t ih =>
    rw [basicLinesBody]
    by_cases quote : c = '"'
    · subst quote
      rw [if_pos rfl]
      by_cases third : run = 2
      · rw [if_pos third, List.cons_append, List.cons_append, readBasicLines_escapedQuote,
          ih (by decide)]
        rfl
      · rw [if_neg third, List.cons_append]
        have three : run + 1 + (2 - run) = 3 := by omega
        rcases quotes_or_goesOn_basicLinesBody t three (by omega) rest with
          ⟨n, fits, rfl, plain⟩ | goesOn
        · rw [plain]
          exact readBasicLines_of_closing (closing?_replicate (show n + 1 ≤ 2 by omega) apart)
        · have single : ¬ ['"', '"'] <+: basicLinesBody (run + 1) t ++ '"' :: '"' :: '"' :: rest :=
            fun front => goesOn (replicate_prefix_of_le (show 2 - run ≤ 2 by omega) front)
          rw [readBasicLines_quote single, ih (by omega)]
          rfl
    · rw [if_neg quote, List.append_assoc, readBasicLines_escape quote, ih (by decide)]
      rfl

/-! ### Between triple apostrophes -/

/-- At the closing apostrophes the string ends. -/
theorem readLiteralLines_of_closing {t : Text} {result : Text × Text}
    (closes : closing? '\'' t = some result) : readLiteralLines t = some result := by
  cases t with
  | nil => cases closes
  | cons c rest => simp [readLiteralLines, closes]

/-- A character that closes nothing and may stand there belongs to the string. -/
theorem readLiteralLines_cons {c : Char} {t : Text}
    (goesOn : ¬ ['\'', '\'', '\''] <+: c :: t) (stands : standsInLines c t = true) :
    readLiteralLines (c :: t) = prepend c (readLiteralLines t) := by
  simp [readLiteralLines, closing?_eq_none goesOn, stands]

/-- The same for apostrophes, of which a string must not have three in a row. -/
theorem quotes_or_goesOn_append {t : Text} {run k : Nat} (three : run + k = 3) (missing : 0 < k)
    (noTriple : hasTripleAfter '\'' run t = false) (rest : Text) :
    (∃ n < k, t = List.replicate n '\'') ∨
      ¬ List.replicate k '\'' <+: t ++ '\'' :: '\'' :: '\'' :: rest := by
  induction t generalizing run k with
  | nil => exact Or.inl ⟨0, missing, rfl⟩
  | cons c t ih =>
    obtain ⟨j, rfl⟩ := Nat.exists_eq_add_one.mpr missing
    by_cases quote : c = '\''
    · subst quote
      obtain ⟨second, noTriple⟩ : run < 2 ∧ hasTripleAfter '\'' (run + 1) t = false := by
        simpa [hasTripleAfter] using noTriple
      rcases ih (show run + 1 + j = 3 by omega) (by omega) noTriple with ⟨n, few, quotes⟩ | goesOn
      · exact Or.inl ⟨n + 1, by omega, congrArg ('\'' :: ·) quotes⟩
      · exact Or.inr fun front => goesOn ((List.prefix_cons_inj '\'').mp front)
    · exact Or.inr (not_prefix_of_head? (by simpa using quote))

/-- A string without three apostrophes in a row reads back, also from the middle on, after
apostrophes that stood before. -/
theorem readLiteralLines_append {t : Text} {run : Nat} (few : run ≤ 2) {rest : Text}
    (apart : rest.head? ≠ some '\'') (plain : ∀ c ∈ t, isControl c = true → c = '\n')
    (noTriple : hasTripleAfter '\'' run t = false) :
    readLiteralLines (t ++ '\'' :: '\'' :: '\'' :: rest) = some (t, rest) := by
  induction t generalizing run with
  | nil => exact readLiteralLines_of_closing (closing?_replicate (Nat.zero_le 2) apart)
  | cons c t ih =>
    obtain ⟨plainHead, plainTail⟩ := List.forall_mem_cons.mp plain
    have stands (next : Text) : standsInLines c next = true := by
      cases control : isControl c with
      | false => simp [standsInLines, control]
      | true => simp [standsInLines, plainHead control]
    have three : run + (3 - run) = 3 := by omega
    rcases quotes_or_goesOn_append three (by omega) noTriple rest with ⟨n, fits, quotes⟩ | goesOn
    · rw [quotes]
      exact readLiteralLines_of_closing (closing?_replicate (by omega) apart)
    · have noClosing : ¬ ['\'', '\'', '\''] <+: c :: (t ++ '\'' :: '\'' :: '\'' :: rest) :=
        fun front => goesOn (replicate_prefix_of_le (show 3 - run ≤ 3 by omega) front)
      obtain ⟨next, fewNext, noTripleNext⟩ : ∃ next ≤ 2, hasTripleAfter '\'' next t = false := by
        by_cases quote : c = '\''
        · obtain ⟨second, noTripleNext⟩ : run < 2 ∧ hasTripleAfter '\'' (run + 1) t = false := by
            simpa [hasTripleAfter, quote] using noTriple
          exact ⟨run + 1, by omega, noTripleNext⟩
        · exact ⟨0, by omega, by simpa [hasTripleAfter, quote] using noTriple⟩
      rw [List.cons_append, readLiteralLines_cons noClosing (stands _),
        ih fewNext plainTail noTripleNext]
      rfl

/-! ### Every string -/

/-- The newline after opening triple quotes is no part of the string, and there is one where
the string would be taken to begin with one. -/
theorem dropOpeningNewline_openingNewline {t body : Text}
    (opens : '\n' ∉ t → body.head? ≠ some '\n' ∧ body.head? ≠ some '\r') :
    dropOpeningNewline (openingNewline t ++ body) = body := by
  unfold openingNewline
  by_cases newline : '\n' ∈ t
  · simp [newline, dropOpeningNewline, newline?]
  · have none : newline? body = none := by
      obtain ⟨notNewline, notReturn⟩ := opens newline
      unfold newline?
      split
      · simp at notNewline
      · simp at notReturn
      · rfl
    simp [newline, dropOpeningNewline, none]

/-- After a quote that no two more follow, the string is on one line. -/
theorem readString_basic {t : Text} (single : ¬ ['"', '"'] <+: t) :
    readString ('"' :: t) = readBasic .no t := by
  have notThree (rest : Text) : t ≠ '"' :: '"' :: rest := by
    rintro rfl
    exact single (List.prefix_append ['"', '"'] rest)
  unfold readString
  split <;> simp_all

/-- So it is after an apostrophe that no two more follow. -/
theorem readString_literal {t : Text} (single : ¬ ['\'', '\''] <+: t) :
    readString ('\'' :: t) = readLiteral t := by
  have notThree (rest : Text) : t ≠ '\'' :: '\'' :: rest := by
    rintro rfl
    exact single (List.prefix_append ['\'', '\''] rest)
  unfold readString
  split <;> simp_all

section Ways

variable {rest : Text} (apart : Apart rest)

include apart

theorem readString_writeQuoted_basic (t : Text) :
    readString (writeQuoted t .basic ++ rest) = some (t, rest) := by
  have single : ¬ ['"', '"'] <+: t.flatMap basicChar ++ '"' :: rest := by
    cases t with
    | nil => exact fun front => not_prefix_of_head? apart.1 ((List.prefix_cons_inj '"').mp front)
    | cons c t =>
      rw [List.flatMap_cons, List.append_assoc]
      exact not_prefix_of_head? (head?_basicChar c _)
  have written := readBasic_flatMap_basicChar t rest
  simp only [writeQuoted, List.cons_append, List.append_assoc, List.nil_append]
  rw [readString_basic single, written]

theorem readString_writeQuoted_literal {t : Text} (admits : Quoting.literal.Admits t) :
    readString (writeQuoted t .literal ++ rest) = some (t, rest) := by
  have single : ¬ ['\'', '\''] <+: t ++ '\'' :: rest := by
    cases t with
    | nil => exact fun front => not_prefix_of_head? apart.2 ((List.prefix_cons_inj '\'').mp front)
    | cons c t =>
      refine not_prefix_of_head? ?_
      simpa using (admits c List.mem_cons_self).1
  simp only [writeQuoted, List.cons_append, List.append_assoc, List.nil_append]
  rw [readString_literal single, readLiteral_append admits]

theorem readString_writeQuoted_basicLines (t : Text) :
    readString (writeQuoted t .basicLines ++ rest) = some (t, rest) := by
  have opens : '\n' ∉ t → (basicLinesBody 0 t ++ '"' :: '"' :: '"' :: rest).head? ≠ some '\n' ∧
      (basicLinesBody 0 t ++ '"' :: '"' :: '"' :: rest).head? ≠ some '\r' := by
    intro oneLine
    cases t with
    | nil => simp [basicLinesBody]
    | cons c t =>
      have notNewline := (List.ne_and_not_mem_of_not_mem_cons oneLine).1
      by_cases quote : c = '"'
      · simp [basicLinesBody, quote]
      · rw [basicLinesBody, if_neg quote, List.append_assoc]
        rcases head?_escape c (basicLinesBody 0 t ++ '"' :: '"' :: '"' :: rest) with
          escaped | ⟨plain, notReturn⟩
        · simp [escaped]
        · simp [plain, notNewline.symm, notReturn]
  simp only [writeQuoted, List.cons_append, List.append_assoc, List.nil_append, readString]
  rw [dropOpeningNewline_openingNewline opens, readBasicLines_basicLinesBody t (by decide) apart.1]

theorem readString_writeQuoted_literalLines {t : Text} (admits : Quoting.literalLines.Admits t) :
    readString (writeQuoted t .literalLines ++ rest) = some (t, rest) := by
  have opens : '\n' ∉ t → (t ++ '\'' :: '\'' :: '\'' :: rest).head? ≠ some '\n' ∧
      (t ++ '\'' :: '\'' :: '\'' :: rest).head? ≠ some '\r' := by
    intro oneLine
    cases t with
    | nil => simp
    | cons c t =>
      have notNewline := (List.ne_and_not_mem_of_not_mem_cons oneLine).1
      have notReturn : c ≠ '\r' := by
        rintro rfl
        exact absurd (admits.1 '\r' List.mem_cons_self (by decide)) (by decide)
      simp [notNewline.symm, notReturn]
  simp only [writeQuoted, List.cons_append, List.append_assoc, List.nil_append, readString]
  rw [dropOpeningNewline_openingNewline opens,
    readLiteralLines_append (Nat.zero_le 2) apart.2 admits.1 admits.2]

/-- A string reads back whichever way it is written that admits it, unless a quote follows. -/
theorem readString_writeQuoted {t : Text} {quoting : Quoting} (admits : quoting.Admits t) :
    readString (writeQuoted t quoting ++ rest) = some (t, rest) := by
  cases quoting with
  | basic => exact readString_writeQuoted_basic apart t
  | literal => exact readString_writeQuoted_literal apart admits
  | basicLines => exact readString_writeQuoted_basicLines apart t
  | literalLines => exact readString_writeQuoted_literalLines apart admits

end Ways

/-- Every string reads back, unless a quote follows. -/
theorem readString_writeString (t : Text) {rest : Text} (apart : Apart rest) :
    readString (writeString t ++ rest) = some (t, rest) :=
  readString_writeQuoted apart (Quoting.admits_choose t)

end StatementShell.Toml
