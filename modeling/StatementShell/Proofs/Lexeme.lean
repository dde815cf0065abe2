import StatementShell.Proofs.Brackets

/-!
# Lexemes of the array language

The array language has string literals, escaped and raw literals between two
copies of a delimiter, line comments, block comments, and single characters of
code.  This module says what each of them looks like, and that the place where
each ends is determined by the text.

## Main Definitions

* `EscapedBody`, `RawBody`: what may stand between two delimiters.
* `CommentLines`: the lines of a block comment.
* `Lexeme`: a lexeme, with `Lexeme.text`.

## Main Results

* `EscapedBody.split`, `RawBody.split`, `CommentLines.split`: what is opened is
  either closed or goes on to the end of the text.
* `EscapedBody.unique`, `RawBody.unique`, `CommentLines.unique`: it is closed in
  one place only.
-/

namespace StatementShell

/-! ### Bodies of literals -/

/-- A delimiter is no escape mark and no newline, and no comment may follow it. -/
theorem Lexis.delimiter_spec {d : Char} (delimiter : isDelimiter d = true) :
    d ≠ escapeMark ∧ d ≠ '\n' ∧ (d == '\n' || isGap d || isOpenBracket d) = false := by
  have table : ∀ e ∈ delimiters,
      e ≠ escapeMark ∧ e ≠ '\n' ∧ (e == '\n' || isGap e || isOpenBracket e) = false := by
    simp [delimiters, escapeMark, isGap, isOpenBracket, openBrackets]
  exact table d (by simpa [isDelimiter] using delimiter)

/-- A body in which a backslash takes the next character with it and the quote
does not stand alone. -/
inductive EscapedBody (quote : Char) : Text → Prop where
  | nil : EscapedBody quote []
  | plain {c : Char} {body : Text} (notQuote : c ≠ quote) (notEscape : c ≠ Lexis.escapeMark)
      (rest : EscapedBody quote body) : EscapedBody quote (c :: body)
  | pair {c : Char} {body : Text} (rest : EscapedBody quote body) :
      EscapedBody quote (Lexis.escapeMark :: c :: body)

/-- A body in which the delimiter stands doubled only. -/
inductive RawBody (delimiter : Char) : Text → Prop where
  | nil : RawBody delimiter []
  | plain {c : Char} {body : Text} (notDelimiter : c ≠ delimiter)
      (rest : RawBody delimiter body) : RawBody delimiter (c :: body)
  | doubled {body : Text} (rest : RawBody delimiter body) :
      RawBody delimiter (delimiter :: delimiter :: body)

/-- A text from which an escaped body is read: the quote is found, or the text
ends in the body, possibly right after a backslash. -/
theorem EscapedBody.split {quote : Char} (notEscape : quote ≠ Lexis.escapeMark) (t : Text) :
    (∃ body rest, t = body ++ quote :: rest ∧ EscapedBody quote body) ∨
      EscapedBody quote t ∨
      ∃ body, t = body ++ [Lexis.escapeMark] ∧ EscapedBody quote body := by
  induction length : t.length using Nat.strongRecOn generalizing t with
  | ind n ih =>
    cases t with
    | nil => exact Or.inr (Or.inl .nil)
    | cons c t =>
      rw [List.length_cons] at length
      by_cases isQuote : c = quote
      · subst isQuote
        exact Or.inl ⟨[], t, rfl, .nil⟩
      · by_cases isEscape : c = Lexis.escapeMark
        · subst isEscape
          cases t with
          | nil => exact Or.inr (Or.inr ⟨[], rfl, .nil⟩)
          | cons d t =>
            rw [List.length_cons] at length
            rcases ih t.length (by omega) t rfl with
              ⟨body, rest, rfl, valid⟩ | valid | ⟨body, rfl, valid⟩
            · exact Or.inl ⟨Lexis.escapeMark :: d :: body, rest, rfl, .pair valid⟩
            · exact Or.inr (Or.inl (.pair valid))
            · exact Or.inr (Or.inr ⟨Lexis.escapeMark :: d :: body, rfl, .pair valid⟩)
        · rcases ih t.length (by omega) t rfl with
            ⟨body, rest, rfl, valid⟩ | valid | ⟨body, rfl, valid⟩
          · exact Or.inl ⟨c :: body, rest, rfl, .plain isQuote isEscape valid⟩
          · exact Or.inr (Or.inl (.plain isQuote isEscape valid))
          · exact Or.inr (Or.inr ⟨c :: body, rfl, .plain isQuote isEscape valid⟩)

/-- A text from which a raw body is read: a single delimiter is found, or the
text ends in the body. -/
theorem RawBody.split (delimiter : Char) (t : Text) :
    (∃ body rest, t = body ++ delimiter :: rest ∧ RawBody delimiter body ∧
      rest.head? ≠ some delimiter) ∨ RawBody delimiter t := by
  induction length : t.length using Nat.strongRecOn generalizing t with
  | ind n ih =>
    cases t with
    | nil => exact Or.inr .nil
    | cons c t =>
      rw [List.length_cons] at length
      by_cases isDelimiter : c = delimiter
      · subst isDelimiter
        by_cases twice : t.head? = some c
        · obtain ⟨t, rfl⟩ := List.head?_eq_some_iff.mp twice
          rw [List.length_cons] at length
          rcases ih t.length (by omega) t rfl with ⟨body, rest, rfl, valid, single⟩ | valid
          · exact Or.inl ⟨c :: c :: body, rest, rfl, .doubled valid, single⟩
          · exact Or.inr (.doubled valid)
        · exact Or.inl ⟨[], t, rfl, .nil, twice⟩
      · rcases ih t.length (by omega) t rfl with ⟨body, rest, rfl, valid, single⟩ | valid
        · exact Or.inl ⟨c :: body, rest, rfl, .plain isDelimiter valid, single⟩
        · exact Or.inr (.plain isDelimiter valid)

/-- The quote that ends an escaped body is the only one that can. -/
theorem EscapedBody.unique {quote : Char} (notEscape : quote ≠ Lexis.escapeMark)
    {body body' rest rest' : Text} (valid : EscapedBody quote body)
    (valid' : EscapedBody quote body')
    (same : body ++ quote :: rest = body' ++ quote :: rest') : body = body' := by
  induction valid generalizing body' with
  | nil =>
    cases valid' with
    | nil => rfl
    | plain notQuote _ _ => exact absurd (List.cons.inj same).1.symm notQuote
    | pair _ => exact absurd (List.cons.inj same).1 notEscape
  | plain notQuote notMark _ ih =>
    cases valid' with
    | nil => exact absurd (List.cons.inj same).1 notQuote
    | plain _ _ valid' =>
      obtain ⟨rfl, tails⟩ := List.cons.inj same
      rw [ih valid' tails]
    | pair _ => exact absurd (List.cons.inj same).1 notMark
  | pair _ ih =>
    cases valid' with
    | nil => exact absurd (List.cons.inj same).1.symm notEscape
    | plain _ notMark _ => exact absurd (List.cons.inj same).1.symm notMark
    | pair valid' =>
      obtain ⟨rfl, tails⟩ := List.cons.inj (List.cons.inj same).2
      rw [ih valid' tails]

/-- The single delimiter that ends a raw body is the only one that can. -/
theorem RawBody.unique {delimiter : Char} {body body' rest rest' : Text}
    (valid : RawBody delimiter body) (valid' : RawBody delimiter body')
    (single : rest.head? ≠ some delimiter) (single' : rest'.head? ≠ some delimiter)
    (same : body ++ delimiter :: rest = body' ++ delimiter :: rest') : body = body' := by
  induction valid generalizing body' with
  | nil =>
    cases valid' with
    | nil => rfl
    | plain differs _ => exact absurd (List.cons.inj same).1.symm differs
    | doubled _ => exact absurd (by rw [(List.cons.inj same).2]; rfl) single
  | plain differs _ ih =>
    cases valid' with
    | nil => exact absurd (List.cons.inj same).1 differs
    | plain _ valid' =>
      obtain ⟨rfl, tails⟩ := List.cons.inj same
      rw [ih valid' tails]
    | doubled _ => exact absurd (List.cons.inj same).1 differs
  | doubled _ ih =>
    cases valid' with
    | nil => exact absurd (by rw [← (List.cons.inj same).2]; rfl) single'
    | plain differs _ => exact absurd (List.cons.inj same).1.symm differs
    | doubled valid' =>
      rw [ih valid' (List.cons.inj (List.cons.inj same).2).2]

/-! ### Lines up to an end mark -/

namespace Text

/-- A text is cut in one way only at its first newline. -/
theorem newline_inj {u u' v v' : Text} (oneLine : '\n' ∉ u) (oneLine' : '\n' ∉ u')
    (same : u ++ '\n' :: v = u' ++ '\n' :: v') : u = u' ∧ v = v' := by
  induction u generalizing u' with
  | nil =>
    cases u' with
    | nil => exact ⟨rfl, (List.cons.inj same).2⟩
    | cons c u' =>
      obtain ⟨rfl, -⟩ := List.cons.inj same
      exact absurd List.mem_cons_self oneLine'
  | cons c u ih =>
    cases u' with
    | nil =>
      obtain ⟨rfl, -⟩ := List.cons.inj same
      exact absurd List.mem_cons_self oneLine
    | cons c' u' =>
      obtain ⟨rfl, tails⟩ := List.cons.inj same
      obtain ⟨rfl, rest⟩ := ih (fun member => oneLine (List.mem_cons_of_mem _ member))
        (fun member => oneLine' (List.mem_cons_of_mem _ member)) tails
      exact ⟨rfl, rest⟩

end Text

/-- The lines of a block comment after its first: none of them is the end mark
alone. -/
def CommentLines (lines : List Text) : Prop :=
  ∀ line ∈ lines, '\n' ∉ line ∧ line ≠ [Lexis.blockCommentEnd]

/-- The end mark that ends the lines of a comment is the only one that can. -/
theorem CommentLines.unique {lines lines' : List Text} {rest rest' : Text}
    (valid : CommentLines lines) (valid' : CommentLines lines')
    (same : Text.terminated (lines ++ [[Lexis.blockCommentEnd]]) ++ rest =
      Text.terminated (lines' ++ [[Lexis.blockCommentEnd]]) ++ rest') : lines = lines' := by
  have endLine : '\n' ∉ [Lexis.blockCommentEnd] := by decide
  induction lines generalizing lines' with
  | nil =>
    cases lines' with
    | nil => rfl
    | cons line' lines' =>
      have cut : [Lexis.blockCommentEnd] ++ '\n' :: rest = line' ++ '\n' ::
          (Text.terminated (lines' ++ [[Lexis.blockCommentEnd]]) ++ rest') := by
        simpa using same
      have valid' := valid' line' List.mem_cons_self
      exact absurd (Text.newline_inj endLine valid'.1 cut).1.symm valid'.2
  | cons line lines ih =>
    have first := valid line List.mem_cons_self
    cases lines' with
    | nil =>
      have cut : line ++ '\n' :: (Text.terminated (lines ++ [[Lexis.blockCommentEnd]]) ++ rest) =
          [Lexis.blockCommentEnd] ++ '\n' :: rest' := by
        simpa using same
      exact absurd (Text.newline_inj first.1 endLine cut).1 first.2
    | cons line' lines' =>
      have first' := valid' line' List.mem_cons_self
      have cut : line ++ '\n' :: (Text.terminated (lines ++ [[Lexis.blockCommentEnd]]) ++ rest) =
          line' ++ '\n' :: (Text.terminated (lines' ++ [[Lexis.blockCommentEnd]]) ++ rest') := by
        simpa using same
      obtain ⟨rfl, tails⟩ := Text.newline_inj first.1 first'.1 cut
      rw [ih (fun l member => valid l (List.mem_cons_of_mem _ member))
        (fun l member => valid' l (List.mem_cons_of_mem _ member)) tails]

/-- A text from which the lines of a comment are read: a line that is the end
mark alone is found, or the text ends within some later line. -/
theorem CommentLines.split (t : Text) :
    (∃ lines rest, t = Text.terminated (lines ++ [[Lexis.blockCommentEnd]]) ++ rest ∧
      CommentLines lines) ∨
      ∃ lines last, t = Text.terminated lines ++ last ∧ CommentLines lines ∧ '\n' ∉ last := by
  induction length : t.length using Nat.strongRecOn generalizing t with
  | ind n ih =>
    by_cases newline : '\n' ∈ t
    · obtain ⟨line, t, rfl, oneLine⟩ := List.eq_append_cons_of_mem newline
      rw [List.length_append, List.length_cons] at length
      by_cases isEnd : line = [Lexis.blockCommentEnd]
      · subst isEnd
        exact Or.inl ⟨[], t, by simp, by simp [CommentLines]⟩
      · have grow {lines : List Text} (valid : CommentLines lines) :
            CommentLines (line :: lines) := by
          intro l member
          rcases List.mem_cons.mp member with rfl | member
          · exact ⟨oneLine, isEnd⟩
          · exact valid l member
        rcases ih t.length (by omega) t rfl with ⟨lines, rest, rfl, valid⟩ |
          ⟨lines, last, rfl, valid, oneLast⟩
        · exact Or.inl ⟨line :: lines, rest, by simp, grow valid⟩
        · exact Or.inr ⟨line :: lines, last, by simp, grow valid, oneLast⟩
    · exact Or.inr ⟨[], t, by simp, by simp [CommentLines], newline⟩

/-! ### Lexemes -/

/-- A lexeme of the array language. -/
inductive Lexeme where
  /-- A string literal with its body. -/
  | string (body : Text)
  /-- A literal between two delimiters in which a backslash escapes. -/
  | escaped (delimiter : Char) (body : Text)
  /-- A literal between two delimiters that knows no escapes. -/
  | raw (delimiter : Char) (body : Text)
  /-- A comment up to the end of its line. -/
  | lineComment (body : Text)
  /-- A comment over lines: the rest of its first line, and the lines up to the
  one that holds the end mark alone. -/
  | blockComment (first : Text) (lines : List Text)
  /-- One character of code. -/
  | code (c : Char)
  deriving DecidableEq, Repr

namespace Lexeme

/-- The characters of a lexeme. -/
def text : Lexeme → Text
  | string body => Lexis.stringQuote :: body ++ [Lexis.stringQuote]
  | escaped d body => d :: body ++ [d]
  | raw d body => d :: body ++ [d]
  | lineComment body => Lexis.commentMark :: body ++ ['\n']
  | blockComment first lines =>
    Lexis.commentMark :: Text.terminated (first :: lines ++ [[Lexis.blockCommentEnd]])
  | code c => [c]

/-- The character of code that a lexeme is. -/
def code? : Lexeme → Option Char
  | code c => some c
  | _ => none

/-- Whether a lexeme ends with a newline that is code or ends a comment. -/
def surfaces : Lexeme → Bool
  | code c => c == '\n'
  | lineComment _ | blockComment _ _ => true
  | string _ | escaped _ _ | raw _ _ => false

/-- The first character of a lexeme. -/
def first : Lexeme → Char
  | string _ => Lexis.stringQuote
  | escaped d _ | raw d _ => d
  | lineComment _ | blockComment _ _ => Lexis.commentMark
  | code c => c

/-- The characters of lexemes that follow one another. -/
def textOf (ls : List Lexeme) : Text := ls.flatMap text

/-- The code among lexemes. -/
def codeOf (ls : List Lexeme) : Text := ls.filterMap code?

@[simp] theorem textOf_nil : textOf [] = [] := rfl

@[simp] theorem textOf_cons (l : Lexeme) (ls : List Lexeme) :
    textOf (l :: ls) = l.text ++ textOf ls := rfl

@[simp] theorem textOf_append (ls ls' : List Lexeme) :
    textOf (ls ++ ls') = textOf ls ++ textOf ls' := List.flatMap_append

@[simp] theorem codeOf_nil : codeOf [] = [] := rfl

@[simp] theorem codeOf_append (ls ls' : List Lexeme) :
    codeOf (ls ++ ls') = codeOf ls ++ codeOf ls' := List.filterMap_append

theorem head?_text (l : Lexeme) : l.text.head? = some l.first := by
  cases l <;> rfl

theorem text_ne_nil (l : Lexeme) : l.text ≠ [] := by
  intro empty
  have front := l.head?_text
  rw [empty] at front
  cases front

/-- What follows a lexeme is shorter than the text that begins with it. -/
theorem length_lt_append (l : Lexeme) (rest : Text) : rest.length < (l.text ++ rest).length := by
  have nonempty := List.length_pos_iff.mpr l.text_ne_nil
  rw [List.length_append]
  omega

end Lexeme

end StatementShell
