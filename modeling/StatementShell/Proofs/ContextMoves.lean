import StatementShell.Proofs.Traversal

/-!
# From one context to another

A character is read in one of three ways.  It is read as code; it is a newline that leads
from a comment back to code; or it moves the scanner from its context to another one, or
leaves it there, and changes nothing else.  The moves are listed here with what they say
about the character, so that a fact about every step is a fact about code and about the
moves.

## Main Definitions

* `Scanner.Moves`: a character that is not read as code, the context before it and the
  one after it.
* `Scanner.Delimited`: every delimiter in use is one.

## Main Results

* `Scanner.read_cases`: the three ways to read a character.
* `Scanner.Delimited.feed`: delimiters stay delimiters.
* `Scanner.read_newline_of_surfaces`: a newline that surfaces.
-/

namespace StatementShell.Scanner

/-! ### The moves -/

/-- The moves from one context to another by a character that is not read as code; the flag
says whether the character is the first of its line. -/
inductive Moves (atLineStart : Bool) (c : Char) : Context → Context → Prop where
  /-- The line where a comment was opened goes on. -/
  | lineComment {openedAtLineStart : Bool} (inLine : c ≠ '\n') :
      Moves atLineStart c (.lineComment openedAtLineStart) (.lineComment openedAtLineStart)
  /-- The lines of a block comment begin. -/
  | firstLine (newline : c = '\n') :
      Moves atLineStart c (.lineComment true) (.blockComment false)
  | nextLine (newline : c = '\n') :
      Moves atLineStart c (.blockComment false) (.blockComment false)
  | blockComment {before after : Bool} (inLine : c ≠ '\n')
      (mark : after = decide (c = Lexis.blockCommentEnd ∧ atLineStart = true)) :
      Moves atLineStart c (.blockComment before) (.blockComment after)
  | string {before after : Bool} (escapes : after = (c == Lexis.escapeMark && !before)) :
      Moves atLineStart c (.string before) (.string after)
  | stringEnd (quote : c = Lexis.stringQuote) : Moves atLineStart c (.string false) (.code false)
  | quoted {d : Char} {before after : Bool}
      (escapes : after = (c == Lexis.escapeMark && !before)) :
      Moves atLineStart c (.quoted d before) (.quoted d after)
  | quotedEnd {d : Char} (delimiter : c = d) :
      Moves atLineStart c (.quoted d false) (.code false)
  | raw {d : Char} (other : c ≠ d) : Moves atLineStart c (.raw d false) (.raw d false)
  /-- A delimiter ends a raw literal, unless it is doubled. -/
  | pending {d : Char} (delimiter : c = d) : Moves atLineStart c (.raw d false) (.raw d true)
  | doubled {d : Char} (delimiter : c = d) : Moves atLineStart c (.raw d true) (.raw d false)

/-- A character is read as code, is a newline that leads out of a comment, or is a move. -/
theorem read_cases (s : Scanner) (c : Char) :
    (newlineSurfaces s.context = true ∧ ∃ commentMayBegin,
        s.read c = s.readCode commentMayBegin c) ∨
      (newlineSurfaces s.context = true ∧ c = '\n' ∧ s.read c = s.resume) ∨
      ∃ k, Moves s.atLineStart c s.context k ∧ s.read c = s.within k := by
  have unmoved {k : Context} (within : s.context = k) : s = s.within k := by
    rw [← within]
    rfl
  unfold read
  cases within : s.context with
  | code commentMayBegin => exact Or.inl ⟨rfl, _, rfl⟩
  | lineComment openedAtLineStart =>
    dsimp only [readLineComment]
    split_ifs with newline start
    · subst start
      exact Or.inr (Or.inr ⟨_, .firstLine newline, rfl⟩)
    · exact Or.inr (Or.inl ⟨by simp [newlineSurfaces, start], newline, rfl⟩)
    · exact Or.inr (Or.inr ⟨_, .lineComment newline, unmoved within⟩)
  | blockComment loneEndMark =>
    dsimp only [readBlockComment]
    split_ifs with newline lone
    · exact Or.inr (Or.inl ⟨lone, newline, rfl⟩)
    · obtain rfl : loneEndMark = false := by simpa using lone
      exact Or.inr (Or.inr ⟨_, .nextLine newline, unmoved within⟩)
    · exact Or.inr (Or.inr ⟨_, .blockComment newline rfl, rfl⟩)
  | string escaped =>
    dsimp only [readString]
    split_ifs with escape quote
    · exact Or.inr (Or.inr ⟨_, .string (by simp [escape]), rfl⟩)
    · obtain ⟨quote, unescaped⟩ := quote
      obtain rfl : escaped = false := by simpa using unescaped
      exact Or.inr (Or.inr ⟨_, .stringEnd quote, rfl⟩)
    · exact Or.inr (Or.inr ⟨_, .string (by simp [escape]), rfl⟩)
  | quoted d escaped =>
    dsimp only [readQuoted]
    split_ifs with escape delimiter
    · exact Or.inr (Or.inr ⟨_, .quoted (by simp [escape]), rfl⟩)
    · obtain ⟨delimiter, unescaped⟩ := delimiter
      obtain rfl : escaped = false := by simpa using unescaped
      exact Or.inr (Or.inr ⟨_, .quotedEnd delimiter, rfl⟩)
    · exact Or.inr (Or.inr ⟨_, .quoted (by simp [escape]), rfl⟩)
  | raw d closePending =>
    dsimp only [readRaw]
    split_ifs with delimiter pending
    · refine Or.inr (Or.inr ⟨_, ?_, rfl⟩)
      cases closePending with
      | false => exact .pending delimiter
      | true => exact .doubled delimiter
    · exact Or.inl ⟨pending, false, rfl⟩
    · obtain rfl : closePending = false := by simpa using pending
      exact Or.inr (Or.inr ⟨_, .raw delimiter, unmoved within⟩)

/-- A move keeps the delimiter, or leaves none. -/
theorem Moves.delimiter? {atLineStart : Bool} {c : Char} {k k' : Context}
    (moves : Moves atLineStart c k k') :
    k'.delimiter? = none ∨ k'.delimiter? = k.delimiter? := by
  cases moves with
  | quoted | raw | pending | doubled => exact Or.inr rfl
  | _ => exact Or.inl rfl

/-! ### Delimiters -/

variable {s : Scanner}

/-- Every delimiter in use is one. -/
def Delimited (s : Scanner) : Prop :=
  ∀ d, s.context.delimiter? = some d → Lexis.isDelimiter d = true

theorem delimited_fresh : fresh.Delimited := by
  intro d delimiter
  cases delimiter

theorem delimited_readPlain (commentMayBegin : Bool) (c : Char) :
    (s.readPlain commentMayBegin c).Delimited := by
  intro d delimiter
  simp only [readPlain, resume, closeBracket] at delimiter
  repeat' split at delimiter
  all_goals cases delimiter

theorem delimited_readCode (commentMayBegin : Bool) (c : Char) :
    (s.readCode commentMayBegin c).Delimited := by
  unfold readCode
  split
  · case isTrue isDelimiter =>
    have opened (k : Context) (delimiter : k.delimiter? = some c) : (s.within k).Delimited := by
      intro d used
      obtain rfl := Option.some.inj (delimiter.symm.trans used)
      exact isDelimiter
    split
    · exact opened _ rfl
    · exact opened _ rfl
    · exact delimited_readPlain commentMayBegin c
  · exact delimited_readPlain commentMayBegin c

theorem Delimited.read (delimited : s.Delimited) (c : Char) : (s.read c).Delimited := by
  rcases s.read_cases c with ⟨-, _, read⟩ | ⟨-, -, read⟩ | ⟨k, moves, read⟩
  · rw [read]
    exact delimited_readCode _ c
  · rw [read]
    exact fun d used => nomatch used
  · rw [read]
    intro d used
    rcases moves.delimiter? with none | same
    · exact absurd (none.symm.trans used) (by simp)
    · exact delimited d (same.symm.trans used)

theorem Delimited.feed (delimited : s.Delimited) (t : Text) : (s.feed t).Delimited := by
  induction t generalizing s with
  | nil => exact delimited
  | cons c t ih =>
    rw [feed_cons]
    apply ih
    unfold next
    split
    · exact delimited
    · exact delimited.read c

/-- A newline that moves the scanner does not surface. -/
theorem Delimited.hidden_of_moves (delimited : s.Delimited) {k : Context}
    (moves : Moves s.atLineStart '\n' s.context k) : newlineSurfaces s.context = false := by
  unfold Delimited at delimited
  generalize s.context = before at moves delimited ⊢
  cases moves with
  | lineComment inLine | blockComment inLine => exact absurd rfl inLine
  | doubled newline => exact absurd newline.symm (Lexis.delimiter_spec (delimited _ rfl)).2.1
  | _ => rfl

/-- A newline that surfaces is read as code, or leads back to it. -/
theorem read_newline_of_surfaces (delimited : s.Delimited)
    (surfaces : newlineSurfaces s.context = true) : s.read '\n' = s.resume := by
  rcases s.read_cases '\n' with ⟨-, _, read⟩ | ⟨-, -, read⟩ | ⟨k, moves, -⟩
  · rw [read]
    rfl
  · exact read
  · exact Bool.noConfusion (surfaces.symm.trans (delimited.hidden_of_moves moves))

end StatementShell.Scanner
