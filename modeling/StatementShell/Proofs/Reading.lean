import StatementShell.Proofs.Lexeme
import StatementShell.Proofs.Shortest

/-!
# Reading a text as lexemes

A text of the array language is read from left to right.  Which lexeme begins
at a character depends on the lexemes before it, and how far it extends depends
on the text after it; the two questions are answered apart, by `Opens` and
`Follows`.  Nothing here mentions the scanner.

## Main Definitions

* `Opens`: whether a character opens a literal or comment of a kind.
* `Follows`: the lexeme read after given lexemes.
* `Reading`: a text read to its end, or to a literal or comment that does not
  end.
* `Unclosed`: what stands in a literal or comment that does not end.
* `EndsUnit`, `IsUnit`: lexemes at whose end a unit of input ends.

## Main Results

* `Follows.unique`: at most one lexeme can be read at a place.
* `Reading.unique`, `exists_reading`: every text has exactly one reading.
-/

namespace StatementShell

open Lexeme (textOf codeOf)

/-! ### Which lexeme begins -/

/-- A kind of literal or comment. -/
inductive Opening where
  | string
  | escaped
  | raw
  | lineComment
  | blockComment
  deriving DecidableEq, Repr

/-- The kind of literal or comment that a lexeme is. -/
def Lexeme.opening? : Lexeme → Option Opening
  | string _ => some .string
  | escaped _ _ => some .escaped
  | raw _ _ => some .raw
  | lineComment _ => some .lineComment
  | blockComment _ _ => some .blockComment
  | code _ => none

/-- The lexemes end with the two characters of an introducer, both of them
code. -/
def Introduced (before : List Lexeme) (kind : QuoteKind) : Prop :=
  ∃ (earlier : List Lexeme) (a b : Char),
    before = earlier ++ [.code a, .code b] ∧ ([a, b], kind) ∈ Lexis.introducers

/-- The next character is the first of the text or of a line. -/
def AtLineStart (before : List Lexeme) : Prop :=
  textOf before = [] ∨ (textOf before).getLast? = some '\n'

/-- The next character directly follows a space, a tab, a newline or an opening
bracket. -/
def FollowsGap (before : List Lexeme) : Prop :=
  ∃ c, (textOf before).getLast? = some c ∧
    (c = ' ' ∨ c = '\t' ∨ c = '\n' ∨ Lexis.isOpenBracket c = true)

/-- Whether a character that follows given lexemes opens a literal or a comment of
a kind. -/
def Opens (before : List Lexeme) (c : Char) : Opening → Prop
  | .string => c = Lexis.stringQuote
  | .escaped => Lexis.isDelimiter c = true ∧ Introduced before .escaped
  | .raw => Lexis.isDelimiter c = true ∧ Introduced before .raw
  | .lineComment => c = Lexis.commentMark ∧ FollowsGap before ∧ ¬ AtLineStart before
  | .blockComment => c = Lexis.commentMark ∧ AtLineStart before

/-- What opens a literal or comment is no newline. -/
theorem Opens.ne_newline {before : List Lexeme} {c : Char} {o : Opening}
    (opens : Opens before c o) : c ≠ '\n' := by
  rintro rfl
  cases o with
  | string => exact absurd (show '\n' = Lexis.stringQuote from opens) (by decide)
  | escaped | raw | lineComment | blockComment => exact absurd opens.1 (by decide)

/-! ### The next lexeme -/

/-- After the lexemes `before`, a lexeme is read and the text `rest` is left. -/
inductive Follows (before : List Lexeme) : Lexeme → Text → Prop where
  | string {body rest : Text} (body_valid : EscapedBody Lexis.stringQuote body) :
      Follows before (.string body) rest
  | escaped {d : Char} {body rest : Text} (opens : Opens before d .escaped)
      (body_valid : EscapedBody d body) : Follows before (.escaped d body) rest
  /-- A raw literal ends at the first delimiter that is not doubled. -/
  | raw {d : Char} {body rest : Text} (opens : Opens before d .raw)
      (body_valid : RawBody d body) (single : rest.head? ≠ some d) :
      Follows before (.raw d body) rest
  | lineComment {body rest : Text} (opens : Opens before Lexis.commentMark .lineComment)
      (oneLine : '\n' ∉ body) : Follows before (.lineComment body) rest
  | blockComment {first rest : Text} {lines : List Text}
      (opens : Opens before Lexis.commentMark .blockComment) (oneLine : '\n' ∉ first)
      (lines_valid : CommentLines lines) :
      Follows before (.blockComment first lines) rest
  | code {c : Char} {rest : Text} (plain : ∀ o, ¬ Opens before c o) :
      Follows before (.code c) rest

/-- A text read after given lexemes: the lexemes found, and what is left where
no further lexeme can be read, which is nothing, or a literal or comment that
does not end. -/
inductive Reading : List Lexeme → Text → List Lexeme → Text → Prop where
  | stop {before : List Lexeme} {t : Text}
      (stuck : ∀ l rest, t = l.text ++ rest → ¬ Follows before l rest) :
      Reading before t [] t
  | step {before ls : List Lexeme} {l : Lexeme} {rest tail : Text}
      (follows : Follows before l rest) (next : Reading (before ++ [l]) rest ls tail) :
      Reading before (l.text ++ rest) (l :: ls) tail

/-! ### Every text has exactly one reading -/

/-- Two introducers of one spelling are of one kind. -/
theorem Introduced.unique {before : List Lexeme} {kind kind' : QuoteKind}
    (introduced : Introduced before kind) (introduced' : Introduced before kind') :
    kind = kind' := by
  obtain ⟨earlier, a, b, split, member⟩ := introduced
  obtain ⟨earlier', a', b', split', member'⟩ := introduced'
  have same : [Lexeme.code a, .code b] = [.code a', .code b'] :=
    (List.append_inj' (split.symm.trans split') rfl).2
  obtain ⟨rfl, rfl⟩ : a = a' ∧ b = b' := by simpa using same
  have functional : ∀ p ∈ Lexis.introducers, ∀ q ∈ Lexis.introducers, p.1 = q.1 → p.2 = q.2 := by
    decide
  exact functional _ member _ member' rfl

/-- No comment begins where a delimiter is introduced. -/
theorem Introduced.no_comment {before : List Lexeme} {kind : QuoteKind}
    (introduced : Introduced before kind) : ¬ FollowsGap before ∧ ¬ AtLineStart before := by
  obtain ⟨earlier, a, b, rfl, member⟩ := introduced
  have last : (textOf (earlier ++ [.code a, .code b])).getLast? = some b := by
    simp [Lexeme.text]
  have letter : ∀ p ∈ Lexis.introducers, ∀ c, p.1.getLast? = some c →
      c ≠ ' ' ∧ c ≠ '\t' ∧ c ≠ '\n' ∧ Lexis.isOpenBracket c = false := by
    simp [Lexis.introducers, Lexis.isOpenBracket, Lexis.openBrackets]
  have plain := letter _ member b rfl
  constructor
  · rintro ⟨c, found, gap⟩
    rw [last] at found
    cases found
    rcases gap with rfl | rfl | rfl | bracket
    · exact plain.1 rfl
    · exact plain.2.1 rfl
    · exact plain.2.2.1 rfl
    · rw [plain.2.2.2] at bracket
      exact Bool.noConfusion bracket
  · rintro (empty | newline)
    · simp [empty] at last
    · rw [last] at newline
      exact plain.2.2.1 (Option.some.inj newline)

/-- The string quote opens nothing but a string. -/
theorem Opens.eq_string {before : List Lexeme} {c : Char} {o : Opening}
    (quote : Opens before c .string) (opens : Opens before c o) : o = .string := by
  have isQuote : c = Lexis.stringQuote := quote
  have notDelimiter : Lexis.isDelimiter c = false := by rw [isQuote]; decide
  have notMark : c ≠ Lexis.commentMark := by rw [isQuote]; decide
  cases o with
  | string => rfl
  | escaped | raw => exact absurd opens.1 (by simp [notDelimiter])
  | lineComment | blockComment => exact absurd opens.1 notMark

/-- A character opens at most one kind of literal or comment. -/
theorem Opens.unique {before : List Lexeme} {c : Char} {o o' : Opening}
    (opens : Opens before c o) (opens' : Opens before c o') : o = o' := by
  cases o with
  | string => exact (opens.eq_string opens').symm
  | escaped =>
    cases o' with
    | string => exact opens'.eq_string opens
    | escaped => rfl
    | raw => exact absurd (opens.2.unique opens'.2) (by decide)
    | lineComment => exact absurd opens'.2.1 opens.2.no_comment.1
    | blockComment => exact absurd opens'.2 opens.2.no_comment.2
  | raw =>
    cases o' with
    | string => exact opens'.eq_string opens
    | escaped => exact absurd (opens.2.unique opens'.2) (by decide)
    | raw => rfl
    | lineComment => exact absurd opens'.2.1 opens.2.no_comment.1
    | blockComment => exact absurd opens'.2 opens.2.no_comment.2
  | lineComment =>
    cases o' with
    | string => exact opens'.eq_string opens
    | escaped | raw => exact absurd opens.2.1 opens'.2.no_comment.1
    | lineComment => rfl
    | blockComment => exact absurd opens'.2 opens.2.2
  | blockComment =>
    cases o' with
    | string => exact opens'.eq_string opens
    | escaped | raw => exact absurd opens.2 opens'.2.no_comment.2
    | lineComment => exact absurd opens.2 opens'.2.2
    | blockComment => rfl

/-- The kind of a lexeme that is read is the one its first character opens. -/
theorem Follows.opening_iff {before : List Lexeme} {l : Lexeme} {rest : Text}
    (follows : Follows before l rest) (o : Opening) :
    Opens before l.first o ↔ l.opening? = some o := by
  have only {p : Opening} (opens : Opens before l.first p) :
      Opens before l.first o ↔ some p = some o := by
    constructor
    · intro opened
      rw [opens.unique opened]
    · intro same
      rwa [← Option.some.inj same]
  cases follows with
  | string _ => exact only (p := .string) rfl
  | escaped opens _ => exact only opens
  | raw opens _ _ => exact only opens
  | lineComment opens _ => exact only opens
  | blockComment opens _ _ => exact only opens
  | code plain =>
    constructor
    · intro opens
      exact absurd opens (plain o)
    · intro isNone
      cases isNone

/-- At most one lexeme can be read at the front of a text. -/
theorem Follows.unique {before : List Lexeme} {l l' : Lexeme} {rest rest' : Text}
    (follows : Follows before l rest) (follows' : Follows before l' rest')
    (same : l.text ++ rest = l'.text ++ rest') : l = l' := by
  have heads : l.first = l'.first := by
    have front := congrArg List.head? same
    rw [List.head?_append, List.head?_append, l.head?_text, l'.head?_text] at front
    exact Option.some.inj front
  have kinds : l.opening? = l'.opening? := by
    apply Option.ext
    intro o
    rw [← follows.opening_iff, ← follows'.opening_iff, heads]
  -- Both are of one kind with one first character, so only their bodies could differ.
  cases follows with
  | @string body _ valid =>
    cases follows' with
    | @string body' _ valid' =>
      have tails : body ++ Lexis.stringQuote :: rest = body' ++ Lexis.stringQuote :: rest' := by
        simpa [Lexeme.text] using same
      rw [valid.unique (by decide) valid' tails]
    | _ => cases kinds
  | @escaped d body _ opens valid =>
    cases follows' with
    | @escaped d' body' _ _ valid' =>
      obtain rfl : d = d' := heads
      have tails : body ++ d :: rest = body' ++ d :: rest' := by
        simpa [Lexeme.text] using same
      have notEscape : d ≠ Lexis.escapeMark := by
        rintro rfl
        exact absurd opens.1 (by decide)
      rw [valid.unique notEscape valid' tails]
    | _ => cases kinds
  | @raw d body _ _ valid single =>
    cases follows' with
    | @raw d' body' _ _ valid' single' =>
      obtain rfl : d = d' := heads
      have tails : body ++ d :: rest = body' ++ d :: rest' := by
        simpa [Lexeme.text] using same
      rw [valid.unique valid' single single' tails]
    | _ => cases kinds
  | @lineComment body _ _ oneLine =>
    cases follows' with
    | @lineComment body' _ _ oneLine' =>
      have tails : body ++ '\n' :: rest = body' ++ '\n' :: rest' := by
        simpa [Lexeme.text] using same
      rw [(Text.newline_inj oneLine oneLine' tails).1]
    | _ => cases kinds
  | @blockComment first _ lines _ oneLine valid =>
    cases follows' with
    | @blockComment first' _ lines' _ oneLine' valid' =>
      have tails : first ++ '\n' :: (Text.terminated (lines ++ [[Lexis.blockCommentEnd]]) ++ rest) =
          first' ++ '\n' :: (Text.terminated (lines' ++ [[Lexis.blockCommentEnd]]) ++ rest') := by
        simpa [Lexeme.text] using same
      obtain ⟨rfl, lineTails⟩ := Text.newline_inj oneLine oneLine' tails
      rw [valid.unique valid' lineTails]
    | _ => cases kinds
  | @code c =>
    cases follows' with
    | @code c' =>
      obtain rfl : c = c' := heads
      rfl
    | _ => cases kinds

/-- A reading either stops or begins with a lexeme. -/
theorem Reading.inversion {before ls : List Lexeme} {t tail : Text}
    (reading : Reading before t ls tail) :
    (ls = [] ∧ tail = t ∧ ∀ l rest, t = l.text ++ rest → ¬ Follows before l rest) ∨
      ∃ l ls' rest, ls = l :: ls' ∧ t = l.text ++ rest ∧ Follows before l rest ∧
        Reading (before ++ [l]) rest ls' tail := by
  cases reading with
  | stop stuck => exact Or.inl ⟨rfl, rfl, stuck⟩
  | step follows next => exact Or.inr ⟨_, _, _, rfl, rfl, follows, next⟩

/-- A text is read in one way only. -/
theorem Reading.unique {before ls ls' : List Lexeme} {t tail tail' : Text}
    (reading : Reading before t ls tail) (reading' : Reading before t ls' tail') :
    ls' = ls ∧ tail' = tail := by
  induction reading generalizing ls' with
  | stop stuck =>
    rcases reading'.inversion with ⟨rfl, rfl, -⟩ | ⟨l, _, rest, -, split, follows, -⟩
    · exact ⟨rfl, rfl⟩
    · exact absurd follows (stuck l rest split)
  | step follows next ih =>
    rcases reading'.inversion with ⟨-, -, stuck⟩ | ⟨l', _, rest', rfl, split, follows', next'⟩
    · exact absurd follows (stuck _ _ rfl)
    · obtain rfl := follows.unique follows' split
      obtain rfl := List.append_cancel_left split
      obtain ⟨rfl, rfl⟩ := ih next'
      exact ⟨rfl, rfl⟩

/-- Every text can be read after any lexemes. -/
theorem exists_reading (before : List Lexeme) (t : Text) :
    ∃ ls tail, Reading before t ls tail := by
  induction length : t.length using Nat.strongRecOn generalizing before t with
  | ind n ih =>
    by_cases next : ∃ l rest, t = l.text ++ rest ∧ Follows before l rest
    · obtain ⟨l, rest, rfl, follows⟩ := next
      have shorter : rest.length < n := length ▸ l.length_lt_append rest
      obtain ⟨ls, tail, reading⟩ := ih rest.length shorter (before ++ [l]) rest rfl
      exact ⟨l :: ls, tail, .step follows reading⟩
    · refine ⟨[], t, .stop ?_⟩
      intro l rest split follows
      exact next ⟨l, rest, split, follows⟩

/-- The lexemes read and what is left are the text. -/
theorem Reading.text_eq {before ls : List Lexeme} {t tail : Text}
    (reading : Reading before t ls tail) : textOf ls ++ tail = t := by
  induction reading with
  | stop _ => rfl
  | step _ _ ih => rw [Lexeme.textOf_cons, List.append_assoc, ih]

/-! ### What does not end -/

/-- What follows the opening character `c` of a literal or comment that goes on to
the end of the text.  An escaped literal may break off right after a backslash, and
a block comment on its first line or on a later one. -/
def Unclosed (c : Char) : Opening → Text → Prop
  | .string, t => EscapedBody Lexis.stringQuote t ∨
      ∃ body, t = body ++ [Lexis.escapeMark] ∧ EscapedBody Lexis.stringQuote body
  | .escaped, t => EscapedBody c t ∨
      ∃ body, t = body ++ [Lexis.escapeMark] ∧ EscapedBody c body
  | .raw, t => RawBody c t
  | .lineComment, t => '\n' ∉ t
  | .blockComment, t => '\n' ∉ t ∨ ∃ first lines last,
      t = first ++ '\n' :: (Text.terminated lines ++ last) ∧ '\n' ∉ first ∧
        CommentLines lines ∧ '\n' ∉ last

/-- Where no lexeme can be read, what opens does not end. -/
theorem unclosed_of_stuck {before : List Lexeme} {c : Char} {t : Text} {o : Opening}
    (stuck : ∀ l rest, c :: t = l.text ++ rest → ¬ Follows before l rest)
    (opens : Opens before c o) : Unclosed c o t := by
  cases o with
  | string =>
    obtain rfl : c = Lexis.stringQuote := opens
    have notEscape : Lexis.stringQuote ≠ Lexis.escapeMark := by decide
    rcases EscapedBody.split notEscape t with ⟨body, rest, rfl, valid⟩ | unclosed
    · exact absurd (.string valid) (stuck (.string body) rest (by simp [Lexeme.text]))
    · exact unclosed
  | escaped =>
    rcases EscapedBody.split (Lexis.delimiter_spec opens.1).1 t with
      ⟨body, rest, rfl, valid⟩ | unclosed
    · exact absurd (.escaped opens valid) (stuck (.escaped c body) rest (by simp [Lexeme.text]))
    · exact unclosed
  | raw =>
    rcases RawBody.split c t with ⟨body, rest, rfl, valid, single⟩ | unclosed
    · exact absurd (.raw opens valid single) (stuck (.raw c body) rest (by simp [Lexeme.text]))
    · exact unclosed
  | lineComment =>
    obtain rfl : c = Lexis.commentMark := opens.1
    intro newline
    obtain ⟨body, rest, rfl, oneLine⟩ := List.eq_append_cons_of_mem newline
    exact stuck (.lineComment body) rest (by simp [Lexeme.text]) (.lineComment opens oneLine)
  | blockComment =>
    obtain rfl : c = Lexis.commentMark := opens.1
    by_cases newline : '\n' ∈ t
    · obtain ⟨first, t, rfl, oneLine⟩ := List.eq_append_cons_of_mem newline
      rcases CommentLines.split t with ⟨lines, rest, rfl, valid⟩ |
        ⟨lines, last, rfl, valid, oneLast⟩
      · exact absurd (.blockComment opens oneLine valid)
          (stuck (.blockComment first lines) rest (by simp [Lexeme.text]))
      · exact Or.inr ⟨first, lines, last, rfl, oneLine, valid, oneLast⟩
    · exact Or.inl newline

/-- A text of which no lexeme can be read is empty or opens what does not end. -/
theorem unclosed_or_nil_of_stuck {before : List Lexeme} {t : Text}
    (stuck : ∀ l rest, t = l.text ++ rest → ¬ Follows before l rest) :
    t = [] ∨ ∃ c u o, t = c :: u ∧ Opens before c o ∧ Unclosed c o u := by
  cases t with
  | nil => exact Or.inl rfl
  | cons c u =>
    -- Any character that opens nothing would be a lexeme.
    have notCode : ¬ ∀ o, ¬ Opens before c o := fun plain => stuck (.code c) u rfl (.code plain)
    obtain ⟨o, opens⟩ := not_forall_not.mp notCode
    exact Or.inr ⟨c, u, o, rfl, opens, unclosed_of_stuck stuck opens⟩

/-! ### Units -/

/-- At the end of the lexemes a unit of input ends: the last of them ends with a
newline that is code or ends a comment, and the code is settled. -/
def EndsUnit (ls : List Lexeme) : Prop :=
  ∃ init l, ls = init ++ [l] ∧ l.surfaces = true ∧ Settled (codeOf ls)

/-- The lexemes are one unit: a unit ends at their end and not before. -/
def IsUnit (ls : List Lexeme) : Prop := Shortest EndsUnit ls

theorem not_endsUnit_nil : ¬ EndsUnit [] := by
  rintro ⟨init, l, split, -, -⟩
  simp at split

end StatementShell
