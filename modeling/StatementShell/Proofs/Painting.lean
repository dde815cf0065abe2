import Mathlib.Data.List.Chain
import StatementShell.Proofs.Lines
import StatementShell.Proofs.UnitReading
import StatementShell.Session

/-!
# What is painted

The highlighter has no lexemes either.  It asks the scanner for its context before
and after each character and paints the character by the two.  This module says in
terms of the lexemes what comes out: literals, comments, brackets and the first
closing bracket of a unit that does not match each have their style.

That the two agree is a matter of the characters at which a lexeme begins or ends.
Inside a string, an escaped literal or a comment only the context before counts; in
code and around a raw literal, which is known to be closed only at the character
after it, only the context after counts.

## Main Definitions

* `Lexeme.style`, `Opening.style`: the style of a lexeme, and of a literal or comment
  that does not end.
* `paintUnit`: the characters of the lexemes of one unit with their styles.
* `Merged`: segments that hold characters with styles.

## Main Results

* `Stands.paints_lexeme`: one lexeme is painted in its style.
* `Stands.paintFrom_eq`: so is all that a text is read as, unit by unit.
* `highlight_paints_lexemes`: the segments shown for a buffer of the array language.
-/

namespace StatementShell

open Lexeme (textOf codeOf)
open Highlight (arrayStyle styleOfNext paintFrom)

/-! ### The style of a lexeme -/

/-- The style of a character of code after the code `w` of its unit. -/
def codeStyle (w : Text) (c : Char) : Style :=
  if FirstMismatch w c then .boldly .red
  else if Lexis.isOpenBracket c || Lexis.isCloseBracket c then .colored .cyan
  else .plain

/-- The style of a literal or comment of a kind. -/
def Opening.style : Opening → Style
  | string | escaped | raw => .colored .yellow
  | lineComment | blockComment => .dimly .darkGray

/-- The style of a lexeme after the lexemes `before` of its unit. -/
def Lexeme.style (before : List Lexeme) : Lexeme → Style
  | string _ | escaped _ _ | raw _ _ => .colored .yellow
  | lineComment _ | blockComment _ _ => .dimly .darkGray
  | code c => codeStyle (codeOf before) c

/-- The characters of a text, all in one style. -/
def Style.paint (style : Style) (t : Text) : List (Style × Char) := t.map fun c => (style, c)

/-- The characters of lexemes that follow the lexemes `before` of their unit, each in
the style of its lexeme. -/
def paintAfter (before : List Lexeme) : List Lexeme → List (Style × Char)
  | [] => []
  | l :: ls => (l.style before).paint l.text ++ paintAfter (before ++ [l]) ls

/-- The characters of the lexemes of a unit with their styles. -/
def paintUnit (unit : List Lexeme) : List (Style × Char) := paintAfter [] unit

/-- What is left after lexemes is empty or has the style of what opens there. -/
def TailStyle (found : List Lexeme) (tail : Text) (style : Style) : Prop :=
  ∀ c ∈ tail.head?, ∃ o, Opens found c o ∧ style = o.style

theorem Style.paint_append (style : Style) (u v : Text) :
    style.paint (u ++ v) = style.paint u ++ style.paint v := List.map_append

theorem paintAfter_concat (before ls : List Lexeme) (l : Lexeme) :
    paintAfter before (ls ++ [l]) =
      paintAfter before ls ++ (l.style (before ++ ls)).paint l.text := by
  induction ls generalizing before with
  | nil => simp [paintAfter]
  | cons l' ls ih => simp [paintAfter, ih]

theorem paintUnit_concat (ls : List Lexeme) (l : Lexeme) :
    paintUnit (ls ++ [l]) = paintUnit ls ++ (l.style ls).paint l.text :=
  paintAfter_concat [] ls l

/-! ### Painting on the way -/

/-- Painting a text that no unit ends in leaves the rest to the scanner after it. -/
theorem paintFrom_append {s : Scanner} {u : Text} (passes : s.Passes u) (rest : Text) :
    paintFrom s (u ++ rest) = paintFrom s u ++ paintFrom (s.feed u) rest := by
  induction u generalizing s with
  | nil => rfl
  | cons c u ih =>
    obtain ⟨goesOn, passes⟩ := passes
    simp only [List.cons_append, paintFrom, goesOn, Bool.false_eq_true, if_false, ih passes,
      Scanner.feed_cons]

/-- After the newline that ends a unit the rest is painted afresh. -/
theorem paintFrom_of_ends {s : Scanner} {u : Text} (passes : s.Passes u)
    (ends : (s.feed u).ends '\n' = true) (rest : Text) :
    paintFrom s (u ++ '\n' :: rest) = paintFrom s (u ++ ['\n']) ++ paintFrom .fresh rest := by
  simp [paintFrom_append passes, paintFrom, ends]

namespace Scanner

/-- All characters of a text are painted in one style. -/
def Paints (s : Scanner) (style : Style) (u : Text) : Prop := paintFrom s u = style.paint u

namespace Paints

variable {s : Scanner} {style : Style}

theorem nil : s.Paints style [] := rfl

theorem step {c : Char} {v : Text} (first : styleOfNext s c = style) (goesOn : s.ends c = false)
    (rest : (s.next c).Paints style v) : s.Paints style (c :: v) := by
  rw [Paints, paintFrom, goesOn, first]
  exact congrArg _ rest

theorem single {c : Char} (first : styleOfNext s c = style) : s.Paints style [c] := by
  rw [Paints, paintFrom, first]
  rfl

theorem cons {c : Char} {v : Text} {k : Context} (first : styleOfNext s c = style)
    (leads : s.Traverses [c] k) (rest : (s.advance [c] k).Paints style v) :
    s.Paints style (c :: v) := by
  refine .step first leads.passes.1 ?_
  rw [← leads.feed_eq] at rest
  exact rest

theorem append {u v : Text} {k : Context} (first : s.Paints style u) (leads : s.Traverses u k)
    (rest : (s.advance u k).Paints style v) : s.Paints style (u ++ v) := by
  rw [Paints, paintFrom_append leads.passes, leads.feed_eq, first, rest, Style.paint_append]

end Paints

end Scanner

/-! ### One character -/

/-- Whether a context is a literal in which a backslash escapes. -/
def Context.isEscaping : Context → Bool
  | string _ | quoted _ _ => true
  | _ => false

namespace Scanner

variable {s : Scanner}

/-- A character read inside a string or an escaped literal belongs to it. -/
theorem styleOfNext_of_isEscaping (inside : s.context.isEscaping = true) (c : Char) :
    styleOfNext s c = .colored .yellow := by
  rw [styleOfNext]
  generalize s.context = before at inside
  cases before with
  | string _ | quoted _ _ => rfl
  | _ => exact Bool.noConfusion inside

/-- A character read inside a comment belongs to it. -/
theorem styleOfNext_of_isComment (inside : s.context.isComment = true) (c : Char) :
    styleOfNext s c = .dimly .darkGray := by
  rw [styleOfNext]
  generalize s.context = before at inside
  cases before with
  | lineComment _ | blockComment _ => rfl
  | _ => exact Bool.noConfusion inside

/-- A character read in code or around a raw literal has the style of the context
it leads to. -/
theorem styleOfNext_of_outside (outside : (s.context.isCode || s.context.isRaw) = true)
    (c : Char) : styleOfNext s c =
      arrayStyle (s.next c).context c (!s.mismatched && (s.next c).mismatched) := by
  rw [styleOfNext]
  generalize s.context = before at outside
  generalize (s.next c).context = after
  cases before with
  | code _ => rfl
  | raw _ _ => cases after <;> rfl
  | _ => exact Bool.noConfusion outside

/-- A character read there that leads into a literal or comment has the style of that. -/
theorem styleOfNext_of_traverses {c : Char} {k : Context} {style : Style}
    (outside : (s.context.isCode || s.context.isRaw) = true) (leads : s.Traverses [c] k)
    (wears : ∀ mismatched, arrayStyle k c mismatched = style) : styleOfNext s c = style := by
  have after : (s.next c).context = k := congrArg Scanner.context leads.feed_eq
  rw [styleOfNext_of_outside outside, after]
  exact wears _

end Scanner

/-! ### The inside of literals and comments -/

/-- An escaped body has the style of literals. -/
theorem EscapedBody.paints {quote : Char} {k : Bool → Context} {s : Scanner} {body : Text}
    (valid : EscapedBody quote body) (contexts : EscapingContexts quote k)
    (escaping : ∀ escaped, (k escaped).isEscaping = true) (noReturn : '\r' ∉ body)
    (within : s.context = k false) : s.Paints (.colored .yellow) body := by
  induction valid generalizing s with
  | nil => exact .nil
  | plain notQuote notEscape _ ih =>
    obtain ⟨notReturn, noReturn⟩ := List.ne_and_not_mem_of_not_mem_cons noReturn
    have inside := Scanner.styleOfNext_of_isEscaping (within ▸ escaping false)
    exact .cons (inside _) (contexts.traverses_plain within notReturn.symm notQuote notEscape)
      (ih noReturn rfl)
  | pair _ ih =>
    obtain ⟨-, noReturn⟩ := List.ne_and_not_mem_of_not_mem_cons noReturn
    obtain ⟨notReturn, noReturn⟩ := List.ne_and_not_mem_of_not_mem_cons noReturn
    have atMark := Scanner.styleOfNext_of_isEscaping (within ▸ escaping false)
    have afterMark := Scanner.styleOfNext_of_isEscaping
      (s := s.advance [Lexis.escapeMark] (k true)) (escaping true)
    exact .cons (atMark _) (contexts.traverses_escape within)
      (.cons (afterMark _) (contexts.traverses_escaped rfl notReturn.symm) (ih noReturn rfl))

/-- An escaped body and the character after it, the quote or a backslash, have the style
of literals. -/
theorem EscapedBody.paints_concat {quote : Char} {k : Bool → Context} {s : Scanner}
    {body : Text} (valid : EscapedBody quote body) (contexts : EscapingContexts quote k)
    (escaping : ∀ escaped, (k escaped).isEscaping = true) (noReturn : '\r' ∉ body)
    (within : s.context = k false) (c : Char) : s.Paints (.colored .yellow) (body ++ [c]) :=
  (valid.paints contexts escaping noReturn within).append
    (valid.traverses contexts noReturn within)
    (.single (Scanner.styleOfNext_of_isEscaping (escaping false) c))

/-- A raw body has the style of literals. -/
theorem RawBody.paints {d : Char} {s : Scanner} {body : Text} (valid : RawBody d body)
    (notNewline : d ≠ '\n') (noReturn : '\r' ∉ body) (within : s.context = .raw d false) :
    s.Paints (.colored .yellow) body := by
  induction valid generalizing s with
  | nil => exact .nil
  | plain other _ ih =>
    obtain ⟨notReturn, noReturn⟩ := List.ne_and_not_mem_of_not_mem_cons noReturn
    have leads := Scanner.traverses_raw_plain within notReturn.symm other
    have outside : (s.context.isCode || s.context.isRaw) = true := by rw [within]; rfl
    exact .cons (Scanner.styleOfNext_of_traverses outside leads fun _ => rfl) leads
      (ih noReturn rfl)
  | doubled _ ih =>
    obtain ⟨notReturn, noReturn⟩ := List.ne_and_not_mem_of_not_mem_cons noReturn
    obtain ⟨-, noReturn⟩ := List.ne_and_not_mem_of_not_mem_cons noReturn
    have first := Scanner.traverses_raw_delimiter within notReturn.symm notNewline
    have second := Scanner.traverses_raw_delimiter (s := s.advance [d] (.raw d (!false))) rfl
      notReturn.symm notNewline
    have outside : (s.context.isCode || s.context.isRaw) = true := by rw [within]; rfl
    exact .cons (Scanner.styleOfNext_of_traverses outside first fun _ => rfl) first
      (.cons (Scanner.styleOfNext_of_traverses rfl second fun _ => rfl) second
        (ih noReturn rfl))

namespace Scanner

variable {s : Scanner}

/-- A comment is left at a newline only. -/
theorem isComment_next (inside : s.context.isComment = true) {c : Char} (other : c ≠ '\n') :
    (s.next c).context.isComment = true := by
  by_cases isReturn : c = '\r'
  · rw [isReturn, next_return]
    exact inside
  · cases within : s.context with
    | lineComment _ =>
      simp [next, isReturn, read, within, readLineComment, other, record, Context.isComment]
    | blockComment _ =>
      simp [next, isReturn, read, within, readBlockComment, other, record, Context.isComment,
        Scanner.within]
    | _ =>
      rw [within] at inside
      exact Bool.noConfusion inside

/-- A line in a comment has the style of comments, and so has its newline. -/
theorem paints_commentLine {line : Text} (inside : s.context.isComment = true)
    (oneLine : '\n' ∉ line) : s.Paints (.dimly .darkGray) line ∧
      s.Paints (.dimly .darkGray) (line ++ ['\n']) := by
  induction line generalizing s with
  | nil => exact ⟨.nil, .single (styleOfNext_of_isComment inside _)⟩
  | cons c line ih =>
    obtain ⟨notNewline, oneLine⟩ := List.ne_and_not_mem_of_not_mem_cons oneLine
    have goesOn := s.ends_of_ne_newline notNewline.symm
    obtain ⟨without, withNewline⟩ := ih (isComment_next inside notNewline.symm) oneLine
    exact ⟨.step (styleOfNext_of_isComment inside c) goesOn without,
      .step (styleOfNext_of_isComment inside c) goesOn withNewline⟩

end Scanner

/-- The lines of a block comment have the style of comments. -/
theorem CommentLines.paints {s : Scanner} {lines : List Text} (valid : CommentLines lines)
    (within : s.context = .blockComment false) (start : s.atLineStart = true)
    (noReturn : '\r' ∉ Text.terminated lines) :
    s.Paints (.dimly .darkGray) (Text.terminated lines) := by
  induction lines generalizing s with
  | nil => exact .nil
  | cons line lines ih =>
    have split : Text.terminated (line :: lines) =
        Text.terminated [line] ++ Text.terminated lines := by simp
    rw [split] at noReturn ⊢
    have noReturnLine := fun member => noReturn (List.mem_append_left _ member)
    have noReturnLines := fun member => noReturn (List.mem_append_right _ member)
    have validLine : CommentLines [line] := fun l member =>
      valid l (List.mem_singleton.mp member ▸ List.mem_cons_self)
    have inside : s.context.isComment = true := by rw [within]; rfl
    have first := (Scanner.paints_commentLine inside (valid line List.mem_cons_self).1).2
    obtain ⟨leads, atStart⟩ := validLine.traverses within start noReturnLine
    have later := ih (fun l member => valid l (List.mem_cons_of_mem _ member)) rfl atStart
      noReturnLines
    exact Scanner.Paints.append (by simpa using first) leads later

/-- A block comment has the style of comments from its first line to its last, with or
without the newline of that. -/
theorem Scanner.paints_blockComment {s : Scanner} {first last : Text} {lines : List Text}
    (within : s.context = .lineComment true) (oneLine : '\n' ∉ first)
    (valid : CommentLines lines) (oneLast : '\n' ∉ last) (noReturnFirst : '\r' ∉ first)
    (noReturnLines : '\r' ∉ Text.terminated lines) :
    s.Paints (.dimly .darkGray) (first ++ '\n' :: (Text.terminated lines ++ last)) ∧
      s.Paints (.dimly .darkGray)
        (first ++ '\n' :: (Text.terminated lines ++ (last ++ ['\n']))) := by
  have inside : s.context.isComment = true := by rw [within]; rfl
  have onFirst := (paints_commentLine inside oneLine).2
  obtain ⟨overFirst, atStart⟩ := traverses_firstLine within noReturnFirst oneLine
  have onLines := valid.paints rfl atStart noReturnLines
  obtain ⟨overLines, -⟩ := valid.traverses rfl atStart noReturnLines
  have upToLast {rest : Text}
      (onRest : ((s.advance (first ++ ['\n']) (.blockComment false)).advance
        (Text.terminated lines) (.blockComment false)).Paints (.dimly .darkGray) rest) :
      s.Paints (.dimly .darkGray) (first ++ '\n' :: (Text.terminated lines ++ rest)) := by
    have whole := onFirst.append overFirst (onLines.append overLines onRest)
    simpa using whole
  obtain ⟨without, withNewline⟩ := paints_commentLine
    (s := (s.advance (first ++ ['\n']) (.blockComment false)).advance
      (Text.terminated lines) (.blockComment false)) rfl oneLast
  exact ⟨upToLast without, upToLast withNewline⟩

/-- A literal or comment that does not end has its style up to the end of the text. -/
theorem Unclosed.paints {c : Char} {o : Opening} {t : Text} {s : Scanner}
    (unclosed : Unclosed c o t) (within : s.context = o.context c) (notNewline : c ≠ '\n')
    (noReturn : '\r' ∉ t) : s.Paints o.style t := by
  have escaped {quote : Char} {k : Bool → Context} (contexts : EscapingContexts quote k)
      (escaping : ∀ escaped, (k escaped).isEscaping = true) (within : s.context = k false)
      (unclosed : EscapedBody quote t ∨
        ∃ body, t = body ++ [Lexis.escapeMark] ∧ EscapedBody quote body) :
      s.Paints (.colored .yellow) t := by
    rcases unclosed with valid | ⟨body, rfl, valid⟩
    · exact valid.paints contexts escaping noReturn within
    · have noReturnBody : '\r' ∉ body := fun member => noReturn (List.mem_append_left _ member)
      exact valid.paints_concat contexts escaping noReturnBody within _
  cases o with
  | string => exact escaped escapingContexts_string (fun _ => rfl) within unclosed
  | escaped => exact escaped (escapingContexts_quoted c) (fun _ => rfl) within unclosed
  | raw => exact RawBody.paints unclosed notNewline noReturn within
  | lineComment =>
    have inside : s.context.isComment = true := by rw [within]; rfl
    exact (Scanner.paints_commentLine inside unclosed).1
  | blockComment =>
    rcases unclosed with oneLine | ⟨first, lines, last, rfl, oneLine, valid, oneLast⟩
    · have inside : s.context.isComment = true := by rw [within]; rfl
      exact (Scanner.paints_commentLine inside oneLine).1
    · have noReturnFirst : '\r' ∉ first := fun member => noReturn (by simp [member])
      have noReturnLines : '\r' ∉ Text.terminated lines := fun member =>
        noReturn (by simp [member])
      exact (Scanner.paints_blockComment within oneLine valid oneLast noReturnFirst
        noReturnLines).1

/-! ### One lexeme -/

/-- In code only brackets have a style of their own. -/
theorem arrayStyle_of_isCode {k : Context} (code : k.isCode = true) {w : Text} {c : Char}
    {mismatched : Bool} (first : mismatched = true ↔ FirstMismatch w c) :
    arrayStyle k c mismatched = codeStyle w c := by
  cases k with
  | code _ => simp only [arrayStyle, codeStyle, ← first, Context.isLiteral, Context.isComment,
      Bool.false_eq_true, if_false]
  | _ => exact Bool.noConfusion code

namespace Stands

variable {ls : List Lexeme} {s : Scanner}

/-- Between two lexemes the scanner is in code or right after a raw literal. -/
theorem outside (stands : Stands ls s) : (s.context.isCode || s.context.isRaw) = true := by
  rw [stands.context, contextAfter]
  split <;> rfl

/-- A literal or comment is painted in its style from its first character on. -/
theorem paints_opened (stands : Stands ls s) {c : Char} {t u : Text} {o : Opening}
    (closed : RawClosed ls (c :: t)) (opens : Opens ls c o) (notReturn : c ≠ '\r')
    (inside : (s.advance [c] (o.context c)).Paints o.style u) : s.Paints o.style (c :: u) := by
  have leads := stands.opened closed opens notReturn
  refine .cons (Scanner.styleOfNext_of_traverses stands.outside leads ?_) leads inside
  intro mismatched
  cases o <;> rfl

/-- A character that opens nothing has the style of code. -/
theorem styleOfNext_code (stands : Stands ls s) {c : Char} {t : Text}
    (closed : RawClosed ls (c :: t)) (plain : ∀ o, ¬ Opens ls c o) (notReturn : c ≠ '\r') :
    styleOfNext s c = codeStyle (codeOf ls) c := by
  have reads : (s.read c).context.isCode = true ∧ (s.read c).nesting = s.nesting.read c := by
    by_cases newline : c = '\n'
    · subst newline
      rw [stands.read_newline closed, Nesting.read_plain _ (by decide) (by decide)]
      exact ⟨rfl, rfl⟩
    · obtain ⟨context, nesting⟩ := stands.read_plain closed plain newline
      exact ⟨by rw [context]; rfl, nesting⟩
  have next : s.next c = (s.read c).record c := by rw [Scanner.next, if_neg notReturn]
  rw [Scanner.styleOfNext_of_outside stands.outside, next]
  refine arrayStyle_of_isCode reads.1 ?_
  have after : ((s.read c).record c).mismatched = (s.nesting.read c).mismatched :=
    congrArg Nesting.mismatched reads.2
  have before : s.mismatched = s.nesting.mismatched := rfl
  rw [after, before, stands.nesting, firstMismatch_iff, Bool.and_eq_true, Bool.not_eq_true']

/-- A lexeme is painted in its style. -/
theorem paints_lexeme (stands : Stands ls s) {l : Lexeme} {rest : Text}
    (follows : Follows ls l rest) (closed : RawClosed ls (l.text ++ rest))
    (noReturn : '\r' ∉ l.text) : s.Paints (l.style ls) l.text := by
  cases follows with
  | @string body _ valid =>
    obtain ⟨notReturn, noReturn⟩ := List.ne_and_not_mem_of_not_mem_cons noReturn
    have noReturnBody : '\r' ∉ body := fun member => noReturn (List.mem_append_left _ member)
    have opens : Opens ls Lexis.stringQuote .string := rfl
    exact stands.paints_opened closed opens notReturn.symm
      (valid.paints_concat escapingContexts_string (fun _ => rfl) noReturnBody rfl _)
  | @escaped d body _ opens valid =>
    obtain ⟨notReturn, noReturn⟩ := List.ne_and_not_mem_of_not_mem_cons noReturn
    have noReturnBody : '\r' ∉ body := fun member => noReturn (List.mem_append_left _ member)
    exact stands.paints_opened closed opens notReturn.symm
      (valid.paints_concat (escapingContexts_quoted d) (fun _ => rfl) noReturnBody rfl _)
  | @raw d body _ opens valid single =>
    obtain ⟨notReturn, noReturn⟩ := List.ne_and_not_mem_of_not_mem_cons noReturn
    have noReturnBody : '\r' ∉ body := fun member => noReturn (List.mem_append_left _ member)
    have notNewline := opens.ne_newline
    -- The closing delimiter still leads to a raw context, which the next character leaves.
    have closes := Scanner.traverses_raw_delimiter
      (s := (s.advance [d] (.raw d false)).advance body (.raw d false)) rfl notReturn.symm
      notNewline
    have inside := (valid.paints notNewline noReturnBody rfl).append
      (valid.traverses notNewline noReturnBody rfl)
      (.single (Scanner.styleOfNext_of_traverses rfl closes fun _ => rfl))
    exact stands.paints_opened closed opens notReturn.symm inside
  | @lineComment body _ opens oneLine =>
    exact stands.paints_opened closed opens (by decide) (Scanner.paints_commentLine rfl oneLine).2
  | @blockComment first _ lines opens oneLine valid =>
    have spelled : (Lexeme.blockComment first lines).text = Lexis.commentMark ::
        (first ++ '\n' :: (Text.terminated lines ++ ([Lexis.blockCommentEnd] ++ ['\n']))) := by
      simp [Lexeme.text, Text.terminated]
    have noReturnFirst : '\r' ∉ first := fun member => noReturn (by simp [spelled, member])
    have noReturnLines : '\r' ∉ Text.terminated lines := fun member =>
      noReturn (by simp [spelled, member])
    rw [spelled]
    exact stands.paints_opened closed opens (by decide)
      (Scanner.paints_blockComment rfl oneLine valid (by decide) noReturnFirst noReturnLines).2
  | code plain =>
    have notReturn := fun isReturn => noReturn (List.mem_singleton.mpr (Eq.symm isReturn))
    exact .single (stands.styleOfNext_code closed plain notReturn)

/-- What is left after the lexemes of a text is painted in one style. -/
theorem paints_tail (stands : Stands ls s) {t : Text}
    (stuck : ∀ l rest, t = l.text ++ rest → ¬ Follows ls l rest) (closed : RawClosed ls t)
    (noReturn : '\r' ∉ t) : ∃ style, TailStyle ls t style ∧ s.Paints style t := by
  rcases unclosed_or_nil_of_stuck stuck with rfl | ⟨c, u, o, rfl, opens, unclosed⟩
  · exact ⟨.plain, fun c member => absurd member (by simp), .nil⟩
  · obtain ⟨notReturn, noReturnTail⟩ := List.ne_and_not_mem_of_not_mem_cons noReturn
    refine ⟨o.style, ?_, ?_⟩
    · intro d member
      obtain rfl : c = d := by simpa using member
      exact ⟨o, opens, rfl⟩
    · exact stands.paints_opened closed opens notReturn.symm
        (unclosed.paints rfl opens.ne_newline noReturnTail)

/-! ### All units -/

/-- A scanner that stands after lexemes paints the text that follows as what it is
read as, unit by unit. -/
theorem paintFrom_eq (stands : Stands ls s) {found : List Lexeme} {t tail : Text}
    {units : List (List Lexeme)} (reading : UnitReading ls t units found tail)
    (closed : RawClosed ls t) (noReturn : '\r' ∉ t) :
    ∃ style, TailStyle found tail style ∧
      paintUnit ls ++ paintFrom s t =
        units.flatMap paintUnit ++ paintUnit found ++ style.paint tail := by
  induction reading generalizing s with
  | stop stuck =>
    obtain ⟨style, ofTail, paints⟩ := stands.paints_tail stuck closed noReturn
    exact ⟨style, ofTail, by rw [paints]; rfl⟩
  | @step before found units l rest tail follows goesOn _ ih =>
    have noReturnHead : '\r' ∉ l.text := fun member => noReturn (List.mem_append_left _ member)
    have noReturnRest : '\r' ∉ rest := fun member => noReturn (List.mem_append_right _ member)
    obtain ⟨passes, arrives⟩ := stands.step_of_goesOn follows closed noReturnHead goesOn
    obtain ⟨style, ofTail, later⟩ := ih arrives follows.rawClosed noReturnRest
    refine ⟨style, ofTail, ?_⟩
    rw [paintFrom_append passes, stands.paints_lexeme follows closed noReturnHead,
      ← List.append_assoc, ← paintUnit_concat, later]
  | @complete before found units l rest tail follows ends _ ih =>
    have noReturnHead : '\r' ∉ l.text := fun member => noReturn (List.mem_append_left _ member)
    have noReturnRest : '\r' ∉ rest := fun member => noReturn (List.mem_append_right _ member)
    obtain ⟨u, split, passes, ended, -⟩ :=
      stands.step_of_endsUnit follows closed noReturnHead ends
    have onward : paintFrom s (l.text ++ rest) =
        (l.style before).paint l.text ++ paintFrom .fresh rest := by
      rw [split, List.append_assoc, List.singleton_append, paintFrom_of_ends passes ended, ← split,
        stands.paints_lexeme follows closed noReturnHead]
    obtain ⟨style, ofTail, later⟩ := ih stands_fresh (rawClosed_nil _) noReturnRest
    have afresh : paintFrom .fresh rest =
        units.flatMap paintUnit ++ paintUnit found ++ style.paint tail := later
    refine ⟨style, ofTail, ?_⟩
    rw [onward, afresh, ← List.append_assoc, ← paintUnit_concat, List.flatMap_cons]
    simp only [List.append_assoc]

end Stands

/-! ### Segments -/

/-- Segments that hold characters with styles: none is empty, and neighbours differ in
style. -/
structure Merged (segments : List Segment) (chars : List (Style × Char)) : Prop where
  chars_eq : segments.flatMap (fun segment => segment.style.paint segment.text) = chars
  nonempty : ∀ segment ∈ segments, segment.text ≠ []
  differ : segments.IsChain fun segment next => segment.style ≠ next.style

/-- One more character in front joins the first segment or stands before it. -/
theorem Merged.cons {segments : List Segment} {chars : List (Style × Char)} {segment : Segment}
    (merged : Merged (segment :: segments) chars) (style : Style) (c : Char) :
    Merged (if segment.style = style then ⟨style, c :: segment.text⟩ :: segments
      else ⟨style, [c]⟩ :: segment :: segments) ((style, c) :: chars) := by
  obtain ⟨chars_eq, nonempty, differ⟩ := merged
  split
  · case isTrue same =>
    subst same
    refine ⟨?_, ?_, ?_⟩
    · rw [← chars_eq]
      rfl
    · intro other member
      rcases List.mem_cons.mp member with rfl | member
      · exact List.cons_ne_nil _ _
      · exact nonempty other (List.mem_cons_of_mem _ member)
    · rw [List.isChain_cons] at differ ⊢
      exact differ
  · case isFalse differs =>
    refine ⟨?_, ?_, ?_⟩
    · rw [← chars_eq]
      rfl
    · intro other member
      rcases List.mem_cons.mp member with rfl | member
      · exact List.cons_ne_nil _ _
      · exact nonempty other member
    · exact List.isChain_cons_cons.mpr ⟨Ne.symm differs, differ⟩

/-- Characters are put together in segments as far as their styles are equal. -/
theorem merged_ofChars (chars : List (Style × Char)) : Merged (Segment.ofChars chars) chars := by
  induction chars with
  | nil => exact ⟨rfl, fun _ member => absurd member List.not_mem_nil, .nil⟩
  | cons head rest ih =>
    obtain ⟨style, c⟩ := head
    rw [Segment.ofChars]
    cases shown : Segment.ofChars rest with
    | nil =>
      rw [shown] at ih
      obtain rfl : [] = rest := ih.chars_eq
      exact ⟨rfl, by simp, .singleton _⟩
    | cons segment segments =>
      rw [shown] at ih
      exact ih.cons style c

/-! ### The buffer -/

/-- A buffer of several lines is no system command, nor is one that does not start with
the mark. -/
theorem isSystemCommand_bufferLines {t : Text}
    (noCommand : '\n' ∈ t ∨ t.head? ≠ some Lexis.systemCommandMark) :
    isSystemCommand t.bufferLines = false := by
  by_cases newline : '\n' ∈ t
  · obtain ⟨line, rest, rfl, oneLine⟩ := List.eq_append_cons_of_mem newline
    rw [Text.bufferLines_append_newline oneLine]
    cases more : Text.bufferLines rest with
    | nil => exact absurd more (Text.bufferLines_ne_nil rest)
    | cons _ _ => rfl
  · rw [Text.bufferLines_of_not_mem newline]
    simpa [isSystemCommand] using noCommand.resolve_left newline

/-- With colours and highlighting on, a buffer is painted with colours. -/
theorem Session.segments_eq {s : Session} (t : Text) (offset : Nat)
    (shown : s.display.syntaxHighlighting = true ∧ s.display.colorOutput = true) :
    (s.highlight t offset).2 = StatementShell.highlight s.mode true t := by
  rw [Session.highlight, shown.1, shown.2]
  rfl

/-- What is no system command is painted by the painter of its language. -/
theorem highlight_array {t : Text} (noCommand : ¬ isSystemCommand t.bufferLines = true) :
    highlight .array true t = Highlight.arraySegments t := if_neg noCommand

theorem highlight_sql {t : Text} (noCommand : ¬ isSystemCommand t.bufferLines = true) :
    highlight .sql true t = Highlight.sqlSegments t := if_neg noCommand

/-- **What looks like a literal or a comment is what the scanner treats as one.**  With
colours and highlighting on, a buffer of the array language that is no system command
is read in exactly one way, unit by unit and each unit as lexemes; the units are those
that the scanner cuts it into.  The segments shown hold its characters, each in the
style of its lexeme, and what a last literal or comment leaves open in the style of
that one. -/
theorem highlight_paints_lexemes {s : Session} {t : Text} (offset : Nat)
    (arrayMode : s.mode = .array)
    (shown : s.display.syntaxHighlighting = true ∧ s.display.colorOutput = true)
    (noReturn : '\r' ∉ t) (noCommand : '\n' ∈ t ∨ t.head? ≠ some Lexis.systemCommandMark) :
    ∃ units found tail style, UnitReading [] t units found tail ∧
      (∀ units' found' tail', UnitReading [] t units' found' tail' →
        units' = units ∧ found' = found ∧ tail' = tail) ∧
      (cut t).units = units.map textOf ∧ TailStyle found tail style ∧
      Merged (s.highlight t offset).2
        (units.flatMap paintUnit ++ paintUnit found ++ style.paint tail) := by
  obtain ⟨units, found, tail, reading⟩ := exists_unitReading [] t
  obtain ⟨style, ofTail, painted⟩ :=
    stands_fresh.paintFrom_eq reading (rawClosed_nil t) noReturn
  have cuts := stands_fresh.cut_eq reading (rawClosed_nil t) noReturn
  have segments : (s.highlight t offset).2 = Segment.ofChars (paintFrom .fresh t) := by
    have isNone := isSystemCommand_bufferLines noCommand
    rw [s.segments_eq t offset shown, arrayMode, highlight_array (by simp [isNone])]
    rfl
  have whole : paintFrom .fresh t =
      units.flatMap paintUnit ++ paintUnit found ++ style.paint tail := painted
  refine ⟨units, found, tail, style, reading, fun _ _ _ => reading.unique, cuts.1, ofTail, ?_⟩
  rw [segments, ← whole]
  exact merged_ofChars _

/-- A comment at the start of the second unit, after a bracket that does not match. -/
theorem highlight_paints_mismatch_and_comment :
    ((Session.start .array ⟨true, true⟩ .standard).highlight "(a]\n/b".toList 0).2 =
      [⟨.colored .cyan, ['(']⟩, ⟨.plain, ['a']⟩, ⟨.boldly .red, [']']⟩, ⟨.plain, ['\n']⟩,
        ⟨.dimly .darkGray, ['/', 'b']⟩] ∧
    ∃ units found tail style, UnitReading [] "(a]\n/b".toList units found tail ∧
      (∀ units' found' tail', UnitReading [] "(a]\n/b".toList units' found' tail' →
        units' = units ∧ found' = found ∧ tail' = tail) ∧
      (cut "(a]\n/b".toList).units = units.map textOf ∧ TailStyle found tail style ∧
      Merged ((Session.start .array ⟨true, true⟩ .standard).highlight "(a]\n/b".toList 0).2
        (units.flatMap paintUnit ++ paintUnit found ++ style.paint tail) :=
  ⟨by decide, highlight_paints_lexemes 0 rfl ⟨rfl, rfl⟩ (by decide) (by decide)⟩

end StatementShell
