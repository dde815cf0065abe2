import Mathlib.Data.List.Forall2
import StatementShell.Proofs.Lines
import StatementShell.Proofs.Showing

/-!
# Literals and comments are opaque

What stands inside a literal or comment is nothing to the scanner but its length, and in
a comment over lines the places of its newlines.  With letters in place of all the rest
the scanner shows the same after every character, and stops at the same place.

The two runs are not compared state by state: a backslash, a doubled delimiter or the
letters of an introducer leave traces in one of them that the other does not have.  They
are compared lexeme by lexeme.  Between two lexemes both scanners stand after lexemes of
one outline, which is all that decides what may open next; and what is shown along a
lexeme does not depend on its characters.

## Main Definitions

* `Text.Letters`: letters in place of the characters of a text.
* `Lexeme.Overwritten`, `TailOverwritten`, `Overwritten`: letters in place of all that is
  inside literals and comments.
* `SameOutline`: lexemes with the same code and the same last characters.

## Main Results

* `SameOutline.opens_iff`: what opens after lexemes depends on their outline.
* `Lexeme.Overwritten.follows`: an overwritten lexeme is read in place of the lexeme.
* `overwritten_text_shows_same`: two texts that differ inside literals and comments only
  are told apart nowhere.
-/

namespace StatementShell

open Lexeme (textOf codeOf)

/-! ### Letters -/

/-- An ASCII letter in place of each character of a text. -/
def Text.Letters (t t' : Text) : Prop := t'.length = t.length ∧ ∀ c ∈ t', c.isAlpha = true

/-- A letter has no meaning of its own inside a literal or comment. -/
theorem Lexis.letter_spec {c : Char} (letter : c.isAlpha = true) :
    c ≠ stringQuote ∧ c ≠ escapeMark ∧ c ≠ '\n' ∧ c ≠ '\r' := by
  refine ⟨?_, ?_, ?_, ?_⟩ <;>
  · rintro rfl
    exact absurd letter (by decide)

theorem Lexis.isAlpha_delimiter {d : Char} (delimiter : isDelimiter d = true) :
    d.isAlpha = false := by
  have table : ∀ e ∈ delimiters, e.isAlpha = false := by simp [delimiters]
  exact table d (by simpa [isDelimiter] using delimiter)

namespace Text.Letters

variable {t t' : Text}

theorem map_eq {α : Type} (letters : Letters t t') (a : α) :
    (t'.map fun _ => a) = t.map fun _ => a := by
  rw [List.map_const', List.map_const', letters.1]

theorem newline_not_mem (letters : Letters t t') : '\n' ∉ t' :=
  fun member => (Lexis.letter_spec (letters.2 _ member)).2.2.1 rfl

theorem return_not_mem (letters : Letters t t') : '\r' ∉ t' :=
  fun member => (Lexis.letter_spec (letters.2 _ member)).2.2.2 rfl

theorem ne_endMark (letters : Letters t t') : t' ≠ [Lexis.blockCommentEnd] := by
  rintro rfl
  exact (Lexis.letter_spec (letters.2 _ List.mem_cons_self)).2.1 rfl

theorem escapedBody (letters : Letters t t') {quote : Char} (notLetter : quote.isAlpha = false) :
    EscapedBody quote t' := by
  obtain ⟨-, letters⟩ := letters
  induction t' with
  | nil => exact .nil
  | cons c t' ih =>
    have letter := letters c List.mem_cons_self
    have notQuote : c ≠ quote := fun same => Bool.noConfusion (notLetter.symm.trans (same ▸ letter))
    exact .plain notQuote (Lexis.letter_spec letter).2.1
      (ih fun c member => letters c (List.mem_cons_of_mem _ member))

theorem rawBody (letters : Letters t t') {d : Char} (notLetter : d.isAlpha = false) :
    RawBody d t' := by
  obtain ⟨-, letters⟩ := letters
  induction t' with
  | nil => exact .nil
  | cons c t' ih =>
    have letter := letters c List.mem_cons_self
    have other : c ≠ d := fun same => Bool.noConfusion (notLetter.symm.trans (same ▸ letter))
    exact .plain other (ih fun c member => letters c (List.mem_cons_of_mem _ member))

/-- Lines of letters are lines of a comment. -/
theorem commentLines {lines lines' : List Text} (overwritten : List.Forall₂ Letters lines lines') :
    CommentLines lines' := by
  induction overwritten with
  | nil => exact List.forall_mem_nil _
  | cons letters _ ih =>
    exact List.forall_mem_cons.mpr ⟨⟨letters.newline_not_mem, letters.ne_endMark⟩, ih⟩

theorem map_length_eq {lines lines' : List Text}
    (overwritten : List.Forall₂ Letters lines lines') :
    lines'.map List.length = lines.map List.length := by
  induction overwritten with
  | nil => rfl
  | cons letters _ ih => rw [List.map_cons, List.map_cons, letters.1, ih]

theorem return_not_mem_terminated {lines lines' : List Text}
    (overwritten : List.Forall₂ Letters lines lines') : '\r' ∉ Text.terminated lines' := by
  induction overwritten with
  | nil => exact List.not_mem_nil
  | cons letters _ ih => simp [letters.return_not_mem, ih]

theorem return_not_mem_of_lines {lines : List Text} {u : Text}
    (overwritten : List.Forall₂ Letters lines u.bufferLines) : '\r' ∉ u := by
  have noReturn := return_not_mem_terminated overwritten
  rw [terminated_eq_join (bufferLines_ne_nil u), join_bufferLines] at noReturn
  exact fun member => noReturn (List.mem_append_left _ member)

end Text.Letters

/-! ### Overwriting -/

/-- A lexeme with letters in place of all that is inside it.  A comment over lines keeps its
newlines, and its end mark is not inside it. -/
inductive Lexeme.Overwritten : Lexeme → Lexeme → Prop where
  | string {body body' : Text} (letters : body.Letters body') :
      Overwritten (.string body) (.string body')
  | escaped {d : Char} {body body' : Text} (letters : body.Letters body') :
      Overwritten (.escaped d body) (.escaped d body')
  | raw {d : Char} {body body' : Text} (letters : body.Letters body') :
      Overwritten (.raw d body) (.raw d body')
  | lineComment {body body' : Text} (letters : body.Letters body') :
      Overwritten (.lineComment body) (.lineComment body')
  | blockComment {first first' : Text} {lines lines' : List Text}
      (onFirst : first.Letters first') (onLines : List.Forall₂ Text.Letters lines lines') :
      Overwritten (.blockComment first lines) (.blockComment first' lines')
  | code (c : Char) : Overwritten (.code c) (.code c)

/-- What is left after lexemes, a literal or comment that does not end, with letters in place
of all but its first character.  A comment over lines keeps its newlines.  It may also keep a
lone end mark at the end of the text, which only a newline would make the end of it. -/
inductive TailOverwritten (found : List Lexeme) : Text → Text → Prop where
  | nil : TailOverwritten found [] []
  | letters {c : Char} {o : Opening} {u u' : Text} (opens : Opens found c o)
      (other : o ≠ .blockComment) (letters : u.Letters u') :
      TailOverwritten found (c :: u) (c :: u')
  | lines {c : Char} {u u' : Text} (opens : Opens found c .blockComment)
      (onLines : List.Forall₂ Text.Letters u.bufferLines u'.bufferLines) :
      TailOverwritten found (c :: u) (c :: u')
  | endMark {c : Char} {u u' : Text} (opens : Opens found c .blockComment)
      (onLines : List.Forall₂ Text.Letters u.bufferLines u'.bufferLines) :
      TailOverwritten found (c :: (u ++ ['\n', Lexis.blockCommentEnd]))
        (c :: (u' ++ ['\n', Lexis.blockCommentEnd]))

/-- A text with letters in place of all that is inside its literals and comments. -/
inductive Overwritten (t : Text) : Text → Prop where
  | intro {found found' : List Lexeme} {tail tail' : Text} (reading : Reading [] t found tail)
      (lexemes : List.Forall₂ Lexeme.Overwritten found found')
      (rest : TailOverwritten found tail tail') : Overwritten t (textOf found' ++ tail')

/-! ### What decides which lexeme begins -/

/-- Lexemes with the same code and the same last characters. -/
structure SameOutline (ls ls' : List Lexeme) : Prop where
  code : ls'.map Lexeme.code? = ls.map Lexeme.code?
  last : ls'.map Lexeme.last = ls.map Lexeme.last

theorem getLast?_textOf (ls : List Lexeme) :
    (textOf ls).getLast? = (ls.map Lexeme.last).getLast? := by
  cases ls using List.reverseRecOn with
  | nil => rfl
  | append_singleton init l => rw [getLast?_textOf_concat, List.map_append]; simp

theorem introduced_iff {ls : List Lexeme} {kind : QuoteKind} :
    Introduced ls kind ↔ ∃ (earlier : List (Option Char)) (a b : Char),
      ls.map Lexeme.code? = earlier ++ [some a, some b] ∧ ([a, b], kind) ∈ Lexis.introducers := by
  have isCode {l : Lexeme} {c : Char} (code : l.code? = some c) : l = .code c := by
    cases l with
    | code _ => cases code; rfl
    | _ => cases code
  constructor
  · rintro ⟨earlier, a, b, rfl, member⟩
    exact ⟨earlier.map Lexeme.code?, a, b, by simp [Lexeme.code?], member⟩
  · rintro ⟨earlier, a, b, codes, member⟩
    obtain ⟨init, pair, rfl, -, codes⟩ := List.map_eq_append_iff.mp codes
    obtain ⟨l, rest, rfl, isA, codes⟩ := List.map_eq_cons_iff.mp codes
    obtain ⟨l', rest, rfl, isB, codes⟩ := List.map_eq_cons_iff.mp codes
    obtain rfl := List.map_eq_nil_iff.mp codes
    exact ⟨init, a, b, by rw [isCode isA, isCode isB], member⟩

namespace SameOutline

variable {ls ls' : List Lexeme}

theorem concat (same : SameOutline ls ls') {l l' : Lexeme} (code : l'.code? = l.code?)
    (last : l'.last = l.last) : SameOutline (ls ++ [l]) (ls' ++ [l']) where
  code := by simp [same.code, code]
  last := by simp [same.last, last]

theorem codeOf_eq (same : SameOutline ls ls') : codeOf ls' = codeOf ls := by
  have whole (ms : List Lexeme) : codeOf ms = (ms.map Lexeme.code?).filterMap id := by
    rw [List.filterMap_map]
    rfl
  rw [whole, whole, same.code]

/-- What opens after lexemes depends on their outline. -/
theorem opens_iff (same : SameOutline ls ls') {c : Char} {o : Opening} :
    Opens ls' c o ↔ Opens ls c o := by
  have last : (textOf ls').getLast? = (textOf ls).getLast? := by
    rw [getLast?_textOf, getLast?_textOf, same.last]
  have start : AtLineStart ls' ↔ AtLineStart ls := by
    unfold AtLineStart
    rw [← List.getLast?_eq_none_iff, ← List.getLast?_eq_none_iff, last]
  have gap : FollowsGap ls' ↔ FollowsGap ls := by
    unfold FollowsGap
    rw [last]
  have introduced (kind : QuoteKind) : Introduced ls' kind ↔ Introduced ls kind := by
    rw [introduced_iff, introduced_iff, same.code]
  cases o with
  | string => exact Iff.rfl
  | escaped => exact and_congr_right' (introduced .escaped)
  | raw => exact and_congr_right' (introduced .raw)
  | lineComment => exact and_congr_right' (and_congr gap (not_congr start))
  | blockComment => exact and_congr_right' start

end SameOutline

/-! ### An overwritten lexeme -/

namespace Lexeme.Overwritten

variable {l l' : Lexeme}

theorem code?_eq (overwritten : Overwritten l l') : l'.code? = l.code? := by
  cases overwritten <;> rfl

theorem last_eq (overwritten : Overwritten l l') : l'.last = l.last := by
  cases overwritten <;> rfl

theorem first_eq (overwritten : Overwritten l l') : l'.first = l.first := by
  cases overwritten <;> rfl

theorem lastKind_eq (overwritten : Overwritten l l') : l'.lastKind = l.lastKind := by
  cases overwritten <;> rfl

theorem surfaces_eq (overwritten : Overwritten l l') : l'.surfaces = l.surfaces := by
  cases overwritten <;> rfl

theorem return_not_mem (overwritten : Overwritten l l') (noReturn : '\r' ∉ l.text) :
    '\r' ∉ l'.text := by
  cases overwritten with
  | string letters | lineComment letters =>
    simp [text, letters.return_not_mem, Lexis.stringQuote, Lexis.commentMark]
  | escaped letters | raw letters =>
    have notReturn := (List.ne_and_not_mem_of_not_mem_cons noReturn).1
    simp [text, letters.return_not_mem, notReturn]
  | blockComment onFirst onLines =>
    simp [text, onFirst.return_not_mem, Text.Letters.return_not_mem_terminated onLines,
      Text.terminated_append, Lexis.commentMark, Lexis.blockCommentEnd]
  | code c => exact noReturn

/-- An overwritten lexeme is read in place of the lexeme. -/
theorem follows {ls ls' : List Lexeme} {rest rest' : Text} (overwritten : Overwritten l l')
    (same : SameOutline ls ls') (heads : rest'.head? = rest.head?) (follows : Follows ls l rest) :
    Follows ls' l' rest' := by
  cases overwritten with
  | string letters => exact .string (letters.escapedBody (by decide))
  | escaped letters =>
    cases follows with
    | escaped opens _ =>
      exact .escaped (same.opens_iff.mpr opens)
        (letters.escapedBody (Lexis.isAlpha_delimiter opens.1))
  | raw letters =>
    cases follows with
    | raw opens _ single =>
      exact .raw (same.opens_iff.mpr opens) (letters.rawBody (Lexis.isAlpha_delimiter opens.1))
        (heads ▸ single)
  | lineComment letters =>
    cases follows with
    | lineComment opens _ => exact .lineComment (same.opens_iff.mpr opens) letters.newline_not_mem
  | blockComment onFirst onLines =>
    cases follows with
    | blockComment opens _ _ =>
      exact .blockComment (same.opens_iff.mpr opens) onFirst.newline_not_mem
        (Text.Letters.commentLines onLines)
  | code c =>
    cases follows with
    | code plain => exact .code fun o opens => plain o (same.opens_iff.mp opens)

/-- What is shown along a lexeme does not depend on what is inside it. -/
theorem kinds_eq {ls : List Lexeme} {rest : Text} (overwritten : Overwritten l l')
    (follows : Follows ls l rest) : l'.kinds = l.kinds := by
  cases overwritten with
  | string letters | escaped letters | raw letters | lineComment letters =>
    exact congrArg (List.cons _) (letters.map_eq _)
  | blockComment onFirst onLines =>
    cases follows with
    | blockComment _ oneLine _ =>
      have lengths := Text.length_terminated_congr (Text.Letters.map_length_eq onLines)
      simp only [kinds, interior, Opening.kinds_append_newline oneLine,
        Opening.kinds_append_newline onFirst.newline_not_mem, onFirst.map_eq]
      simp [lengths]
  | code c => rfl

end Lexeme.Overwritten

/-! ### An overwritten tail -/

/-- The kinds along a comment over lines are told by the lengths of its lines. -/
theorem Opening.kinds_of_lengths {u u' : Text}
    (lengths : u'.bufferLines.map List.length = u.bufferLines.map List.length) :
    blockComment.kinds u' = blockComment.kinds u := by
  have newlineFree := Text.newlineFree_bufferLines u
  have newlineFree' := Text.newlineFree_bufferLines u'
  have whole := Text.join_bufferLines u
  have whole' := Text.join_bufferLines u'
  obtain ⟨first, more, pieces⟩ := List.exists_cons_of_ne_nil (Text.bufferLines_ne_nil u)
  obtain ⟨first', more', pieces'⟩ := List.exists_cons_of_ne_nil (Text.bufferLines_ne_nil u')
  rw [pieces, Text.newlineFree_cons] at newlineFree
  rw [pieces', Text.newlineFree_cons] at newlineFree'
  rw [pieces] at lengths whole
  rw [pieces'] at lengths whole'
  obtain ⟨firsts, mores⟩ := List.cons.inj lengths
  have sameKind (kind : Context.Kind) : (first'.map fun _ => kind) = first.map fun _ => kind := by
    rw [List.map_const', List.map_const', firsts]
  cases more with
  | nil =>
    obtain rfl := List.map_eq_nil_iff.mp mores
    obtain rfl : first = u := whole
    obtain rfl : first' = u' := whole'
    rw [kinds_of_oneLine newlineFree.1, kinds_of_oneLine newlineFree'.1, sameKind]
  | cons next more =>
    obtain ⟨next', more', rfl, -, -⟩ := List.map_eq_cons_iff.mp mores
    rw [Text.join_cons_of_ne_nil _ (by simp)] at whole whole'
    subst whole whole'
    have joined := Text.length_join_congr mores
    rw [kinds_append_newline newlineFree.1, kinds_append_newline newlineFree'.1, sameKind]
    simp [joined]

/-- A comment whose lines after the first, but for the last of them, are no lone end marks
does not end. -/
theorem unclosed_of_commentLines {c : Char} {u first last : Text} {lines : List Text}
    (pieces : u.bufferLines = first :: (lines ++ [last])) (valid : CommentLines lines) :
    Unclosed c .blockComment u := by
  have newlineFree := Text.newlineFree_bufferLines u
  have whole := Text.join_bufferLines u
  rw [pieces] at newlineFree whole
  rw [Text.newlineFree_cons, Text.newlineFree_append] at newlineFree
  rw [Text.join_cons_of_ne_nil _ (by simp), Text.join_concat] at whole
  exact Or.inr ⟨first, lines, last, whole.symm, newlineFree.1, valid,
    newlineFree.2.2 last List.mem_cons_self⟩

/-- A comment with letters on its lines does not end, nor does it with a lone end mark on one
more line. -/
theorem Text.Letters.unclosed {c : Char} {lines : List Text} {u : Text}
    (onLines : List.Forall₂ Letters lines u.bufferLines) :
    Unclosed c .blockComment u ∧
      Unclosed c .blockComment (u ++ ['\n', Lexis.blockCommentEnd]) := by
  have valid := commentLines onLines
  obtain ⟨first, more, pieces⟩ := List.exists_cons_of_ne_nil (Text.bufferLines_ne_nil u)
  rw [pieces] at valid
  have validMore : CommentLines more :=
    fun line member => valid line (List.mem_cons_of_mem _ member)
  constructor
  · cases more using List.reverseRecOn with
    | nil =>
      have whole := Text.join_bufferLines u
      rw [pieces] at whole
      obtain rfl : first = u := whole
      exact Or.inl (valid first List.mem_cons_self).1
    | append_singleton lines last =>
      exact unclosed_of_commentLines pieces fun line member =>
        validMore line (List.mem_append_left _ member)
  · have endLine : Text.bufferLines [Lexis.blockCommentEnd] = [[Lexis.blockCommentEnd]] := by
      decide
    have whole : Text.bufferLines (u ++ ['\n', Lexis.blockCommentEnd]) =
        first :: (more ++ [[Lexis.blockCommentEnd]]) := by
      rw [Text.bufferLines_append, endLine, pieces, List.cons_append]
    exact unclosed_of_commentLines whole validMore

/-- An overwritten tail is empty with the tail, or it opens as the tail does and does not end,
and shows the same. -/
theorem TailOverwritten.inversion {found : List Lexeme} {tail tail' : Text}
    (rest : TailOverwritten found tail tail') :
    (tail = [] ∧ tail' = []) ∨ ∃ c o u u', tail = c :: u ∧ tail' = c :: u' ∧ Opens found c o ∧
      Unclosed c o u' ∧ o.kinds u' = o.kinds u ∧ '\r' ∉ u' := by
  cases rest with
  | nil => exact Or.inl ⟨rfl, rfl⟩
  | @letters c o u u' opens other letters =>
    refine Or.inr ⟨c, o, u, u', rfl, rfl, opens, ?_⟩
    cases o with
    | string =>
      exact ⟨Or.inl (letters.escapedBody (by decide)), letters.map_eq _, letters.return_not_mem⟩
    | escaped =>
      exact ⟨Or.inl (letters.escapedBody (Lexis.isAlpha_delimiter opens.1)), letters.map_eq _,
        letters.return_not_mem⟩
    | raw =>
      exact ⟨letters.rawBody (Lexis.isAlpha_delimiter opens.1), letters.map_eq _,
        letters.return_not_mem⟩
    | lineComment => exact ⟨letters.newline_not_mem, letters.map_eq _, letters.return_not_mem⟩
    | blockComment => exact absurd rfl other
  | @lines c u u' opens onLines =>
    refine Or.inr ⟨c, _, u, u', rfl, rfl, opens, (Text.Letters.unclosed onLines).1,
      Opening.kinds_of_lengths (Text.Letters.map_length_eq onLines), ?_⟩
    exact Text.Letters.return_not_mem_of_lines onLines
  | @endMark c u u' opens onLines =>
    refine Or.inr ⟨c, _, _, _, rfl, rfl, opens, (Text.Letters.unclosed onLines).2,
      Opening.kinds_of_lengths ?_, ?_⟩
    · rw [Text.bufferLines_append, Text.bufferLines_append, List.map_append, List.map_append,
        Text.Letters.map_length_eq onLines]
    · have noReturn := Text.Letters.return_not_mem_of_lines onLines
      simp [noReturn, Lexis.blockCommentEnd]

/-! ### Two runs -/

/-- A text and the overwritten one begin with the same character. -/
theorem head?_of_overwritten {ls found found' : List Lexeme} {tail tail' : Text}
    (lexemes : List.Forall₂ Lexeme.Overwritten found found')
    (rest : TailOverwritten ls tail tail') :
    (textOf found' ++ tail').head? = (textOf found ++ tail).head? := by
  cases lexemes with
  | nil =>
    rcases rest.inversion with ⟨rfl, rfl⟩ | ⟨c, o, u, u', rfl, rfl, -⟩
    · rfl
    · rfl
  | @cons l l' _ _ overwritten _ =>
    simp [List.head?_append, Lexeme.head?_text, overwritten.first_eq]

/-- Two scanners that stand after lexemes of one outline show the same along a text and the
overwritten one. -/
theorem Stands.faces_overwritten {ls ls' found found' : List Lexeme} {t tail tail' : Text}
    {s s' : Scanner} (stands : Stands ls s) (stands' : Stands ls' s') (same : SameOutline ls ls')
    (reading : Reading ls t found tail) (closed : RawClosed ls t)
    (closed' : RawClosed ls' (textOf found' ++ tail')) (noReturn : '\r' ∉ t)
    (lexemes : List.Forall₂ Lexeme.Overwritten found found')
    (rest : TailOverwritten (ls ++ found) tail tail') :
    s'.faces (textOf found' ++ tail') = s.faces t := by
  induction reading generalizing s s' ls' found' with
  | @stop ls t stuck =>
    cases lexemes
    rw [List.append_nil] at rest
    rcases rest.inversion with ⟨rfl, rfl⟩ | ⟨c, o, u, u', rfl, rfl, opens, unclosed', kinds, clean⟩
    · rfl
    · have unclosed := unclosed_of_stuck stuck opens
      have notReturn := (List.ne_and_not_mem_of_not_mem_cons noReturn).1
      have noReturn' : '\r' ∉ c :: u' := List.not_mem_cons_of_ne_of_not_mem notReturn clean
      rw [textOf, List.flatMap_nil, List.nil_append] at closed' ⊢
      rw [stands.faces_of_unclosed closed opens unclosed noReturn,
        stands'.faces_of_unclosed closed' (same.opens_iff.mpr opens) unclosed' noReturn',
        same.codeOf_eq, kinds]
  | @step ls found l next tail follows reading ih =>
    obtain ⟨l', found', overwritten, more, rfl⟩ := List.forall₂_cons_left_iff.mp lexemes
    rw [Lexeme.textOf_cons, List.append_assoc] at closed' ⊢
    have heads := head?_of_overwritten more rest
    rw [reading.text_eq] at heads
    have follows' := overwritten.follows same heads follows
    have noReturnHead : '\r' ∉ l.text := fun member => noReturn (List.mem_append_left _ member)
    have noReturnNext : '\r' ∉ next := fun member => noReturn (List.mem_append_right _ member)
    have noReturnHead' := overwritten.return_not_mem noReturnHead
    have sameAfter := same.concat overwritten.code?_eq overwritten.last_eq
    rw [stands.faces_lexeme follows closed noReturnHead,
      stands'.faces_lexeme follows' closed' noReturnHead', overwritten.kinds_eq follows,
      overwritten.surfaces_eq, overwritten.lastKind_eq, same.codeOf_eq, sameAfter.codeOf_eq]
    congr 2
    split
    · rfl
    · case isFalse goesOn =>
      have unitGoesOn := mt endsUnit_concat.mp goesOn
      have unitGoesOn' : ¬ EndsUnit (ls' ++ [l']) := by
        rw [endsUnit_concat, overwritten.surfaces_eq, sameAfter.codeOf_eq]
        exact goesOn
      have after := (stands.step_of_goesOn follows closed noReturnHead unitGoesOn).2
      have after' := (stands'.step_of_goesOn follows' closed' noReturnHead' unitGoesOn').2
      exact ih after after' sameAfter follows.rawClosed follows'.rawClosed noReturnNext more
        (by simpa using rest)

/-- A unit ends when the end of one is shown. -/
theorem Scanner.isComplete_verdict (s : Scanner) (t : Text) :
    (s.verdict t).isComplete = (s.faces t).any (·.ended) := by
  induction t generalizing s with
  | nil => rfl
  | cons c t ih =>
    rw [verdict, faces]
    split
    · rfl
    · rw [ih, List.any_cons]
      rfl

/-- **Literals and comments are opaque.**  With letters in place of all that is inside the
literals and comments of a text, a scanner shows the same after every character, up to and
including the first boundary, and the text is complete when it was. -/
theorem overwritten_text_shows_same {t t' : Text} (noReturn : '\r' ∉ t)
    (overwritten : Overwritten t t') :
    Scanner.fresh.faces t' = Scanner.fresh.faces t ∧
      (scan t').isComplete = (scan t).isComplete := by
  obtain ⟨reading, lexemes, rest⟩ := overwritten
  have same := stands_fresh.faces_overwritten stands_fresh ⟨rfl, rfl⟩ reading (rawClosed_nil _)
    (rawClosed_nil _) noReturn lexemes rest
  refine ⟨same, ?_⟩
  rw [scan, scan, Scanner.isComplete_verdict, Scanner.isComplete_verdict, same]

/-- A bracket in a string and one in a comment, both overwritten. -/
theorem overwritten_brackets_in_string_and_comment :
    '\r' ∉ "\"]\" /(\n".toList ∧ Overwritten "\"]\" /(\n".toList "\"a\" /b\n".toList ∧
      Scanner.fresh.faces "\"a\" /b\n".toList = Scanner.fresh.faces "\"]\" /(\n".toList ∧
      (scan "\"]\" /(\n".toList).isComplete = true := by
  have noReturn : '\r' ∉ "\"]\" /(\n".toList := by decide
  have string : Follows [] (.string [']']) " /(\n".toList :=
    .string (.plain (by decide) (by decide) .nil)
  have gap : Follows [.string [']']] (.code ' ') "/(\n".toList := by
    refine .code fun o opens => ?_
    cases o with
    | string => exact absurd (show ' ' = Lexis.stringQuote from opens) (by decide)
    | _ => exact absurd opens.1 (by decide)
  have comment : Follows [.string [']'], .code ' '] (.lineComment ['(']) [] := by
    refine .lineComment ⟨rfl, ⟨' ', rfl, Or.inl rfl⟩, ?_⟩ (by decide)
    unfold AtLineStart
    decide
  have nothing (l : Lexeme) (rest : Text) (empty : [] = l.text ++ rest) :
      ¬ Follows [.string [']'], .code ' ', .lineComment ['(']] l rest :=
    absurd (List.append_eq_nil_iff.mp empty.symm).1 l.text_ne_nil
  have reading : Reading [] "\"]\" /(\n".toList
      [.string [']'], .code ' ', .lineComment ['(']] [] :=
    .step string (.step gap (.step comment (.stop nothing)))
  have lexemes : List.Forall₂ Lexeme.Overwritten [.string [']'], .code ' ', .lineComment ['(']]
      [.string ['a'], .code ' ', .lineComment ['b']] :=
    .cons (.string ⟨rfl, by simp⟩) (.cons (.code ' ') (.cons (.lineComment ⟨rfl, by simp⟩) .nil))
  have overwritten : Overwritten "\"]\" /(\n".toList "\"a\" /b\n".toList :=
    .intro reading lexemes .nil
  exact ⟨noReturn, overwritten, (overwritten_text_shows_same noReturn overwritten).1, by decide⟩

end StatementShell
