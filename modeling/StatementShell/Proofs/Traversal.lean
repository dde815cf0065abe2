import StatementShell.Proofs.Lexeme

/-!
# Reading without a boundary

Between two boundaries the scanner moves from one context to another and records
what it reads.  This module describes such moves: `Passes` says that no unit ends
on the way, `Traverses` says in addition where the way leads, and the body of
every kind of literal and comment is shown to lead back to the context in which
it began.

## Main Definitions

* `Scanner.Passes`: no unit ends while a text is read.
* `Scanner.advance`: the scanner moved on over a text into a context.
* `Scanner.Traverses`: reading a text passes and moves on into a context.
* `EscapingContexts`: the contexts in which a backslash escapes.

## Main Results

* `Scanner.verdict_eq_complete_iff`, `Scanner.verdict_eq_needMoreInput_iff`: the
  verdict is about the first character at which a unit ends.
* `EscapedBody.traverses`, `RawBody.traverses`, `CommentLines.traverses`.
-/

namespace StatementShell

@[simp] theorem Text.withoutReturns_return (t : Text) :
    withoutReturns ('\r' :: t) = withoutReturns t := by
  simp [withoutReturns]

theorem Text.withoutReturns_cons {c : Char} (notReturn : c ≠ '\r') (t : Text) :
    withoutReturns (c :: t) = c :: withoutReturns t := by
  simp [withoutReturns, notReturn]

theorem Text.withoutReturns_of_not_mem {t : Text} (noReturn : '\r' ∉ t) :
    withoutReturns t = t := by
  rw [withoutReturns, List.filter_eq_self]
  intro c member
  have other : c ≠ '\r' := fun isReturn => noReturn (isReturn ▸ member)
  simpa using other

namespace Scanner

/-! ### Up to the first boundary -/

/-- No unit ends while the scanner reads a text. -/
def Passes (s : Scanner) : Text → Prop
  | [] => True
  | c :: rest => s.ends c = false ∧ (s.next c).Passes rest

theorem passes_append {s : Scanner} {u v : Text} :
    s.Passes (u ++ v) ↔ s.Passes u ∧ (s.feed u).Passes v := by
  induction u generalizing s with
  | nil => simp [Passes]
  | cons c u ih => simp only [List.cons_append, Passes, ih, feed_cons, and_assoc]

/-- Where no unit ends the verdict is left to the rest of the text. -/
theorem verdict_append {s : Scanner} {u : Text} (passes : s.Passes u) (rest : Text) :
    s.verdict (u ++ rest) = (s.feed u).verdict rest := by
  induction u generalizing s with
  | nil => rfl
  | cons c u ih =>
    obtain ⟨goesOn, passes⟩ := passes
    rw [List.cons_append, verdict, if_neg (by simp [goesOn]), ih passes, feed_cons]

/-- Where no unit ends the cuts are left to the rest of the text. -/
theorem cut_append {s : Scanner} {u : Text} (passes : s.Passes u) (rest : Text) :
    s.cut (u ++ rest) = (s.feed u).cut rest := by
  induction u generalizing s with
  | nil => rfl
  | cons c u ih =>
    obtain ⟨goesOn, passes⟩ := passes
    rw [List.cons_append, cut, if_neg (by simp [goesOn]), ih passes, feed_cons]

/-- A unit ends at a newline only. -/
theorem eq_newline_of_ends {s : Scanner} {c : Char} (ends : s.ends c = true) : c = '\n' := by
  simp only [Scanner.ends, Bool.and_eq_true, beq_iff_eq] at ends
  exact ends.1.1

theorem ends_of_ne_newline (s : Scanner) {c : Char} (other : c ≠ '\n') : s.ends c = false := by
  simp [Scanner.ends, other]

theorem ends_newline (s : Scanner) :
    s.ends '\n' = (newlineSurfaces s.context && s.closed) := by
  simp [Scanner.ends]

/-- Either no unit ends in a text, or the first one that does ends at a newline
up to which none has ended. -/
theorem passes_or_ends (s : Scanner) (t : Text) :
    s.Passes t ∨ ∃ u rest, t = u ++ '\n' :: rest ∧ s.Passes u ∧ (s.feed u).ends '\n' = true := by
  induction t generalizing s with
  | nil => exact Or.inl trivial
  | cons c t ih =>
    by_cases ends : s.ends c = true
    · obtain rfl := eq_newline_of_ends ends
      exact Or.inr ⟨[], t, rfl, trivial, ends⟩
    · have goesOn : s.ends c = false := by simpa using ends
      rcases ih (s.next c) with passes | ⟨u, rest, rfl, passes, ends⟩
      · exact Or.inl ⟨goesOn, passes⟩
      · exact Or.inr ⟨c :: u, rest, rfl, ⟨goesOn, passes⟩, ends⟩

theorem verdict_of_ends {s : Scanner} {u : Text} (passes : s.Passes u)
    (ends : (s.feed u).ends '\n' = true) (rest : Text) :
    s.verdict (u ++ '\n' :: rest) =
      .complete ((s.feed (u ++ ['\n'])).consumed.byteLength) := by
  rw [verdict_append passes, verdict, if_pos ends, feed_append]
  rfl

theorem cut_of_ends {s : Scanner} {u : Text} (passes : s.Passes u)
    (ends : (s.feed u).ends '\n' = true) (rest : Text) :
    s.cut (u ++ '\n' :: rest) =
      ⟨(s.feed (u ++ ['\n'])).consumed :: (fresh.cut rest).units, (fresh.cut rest).last⟩ := by
  rw [cut_append passes, cut, if_pos ends, feed_append]
  rfl

theorem verdict_of_passes {s : Scanner} {t : Text} (passes : s.Passes t) :
    s.verdict t = .needMoreInput := by
  have whole := verdict_append passes []
  rwa [List.append_nil] at whole

theorem cut_of_passes {s : Scanner} {t : Text} (passes : s.Passes t) :
    s.cut t = ⟨[], s.feed t⟩ := by
  have whole := cut_append passes []
  rwa [List.append_nil] at whole

/-- More input is needed exactly when no unit ends. -/
theorem verdict_eq_needMoreInput_iff {s : Scanner} {t : Text} :
    s.verdict t = .needMoreInput ↔ s.Passes t := by
  constructor
  · intro more
    rcases s.passes_or_ends t with passes | ⟨u, rest, rfl, passes, ends⟩
    · exact passes
    · rw [verdict_of_ends passes ends] at more
      cases more
  · exact verdict_of_passes

/-- The verdict is complete exactly when a unit ends somewhere, and it then tells
where the first one ends. -/
theorem verdict_eq_complete_iff {s : Scanner} {t : Text} {n : Nat} :
    s.verdict t = .complete n ↔
      ∃ u rest, t = u ++ '\n' :: rest ∧ s.Passes u ∧ (s.feed u).ends '\n' = true ∧
        n = (s.feed (u ++ ['\n'])).consumed.byteLength := by
  constructor
  · intro complete
    rcases s.passes_or_ends t with passes | ⟨u, rest, rfl, passes, ends⟩
    · rw [verdict_of_passes passes] at complete
      cases complete
    · rw [verdict_of_ends passes ends] at complete
      cases complete
      exact ⟨u, rest, rfl, passes, ends, rfl⟩
  · rintro ⟨u, rest, rfl, passes, ends, rfl⟩
    exact verdict_of_ends passes ends rest

/-- Carriage returns are not read. -/
theorem verdict_withoutReturns (s : Scanner) (t : Text) :
    s.verdict (Text.withoutReturns t) = s.verdict t := by
  induction t generalizing s with
  | nil => rfl
  | cons c t ih =>
    by_cases isReturn : c = '\r'
    · subst isReturn
      rw [Text.withoutReturns_return, ih, verdict, if_neg (by simp [Scanner.ends]), next_return]
    · rw [Text.withoutReturns_cons isReturn, verdict, verdict, ih]

theorem passes_withoutReturns {s : Scanner} {t : Text} :
    s.Passes (Text.withoutReturns t) ↔ s.Passes t := by
  rw [← verdict_eq_needMoreInput_iff, verdict_withoutReturns, verdict_eq_needMoreInput_iff]

theorem feed_withoutReturns (s : Scanner) (t : Text) :
    s.feed (Text.withoutReturns t) = s.feed t := by
  induction t generalizing s with
  | nil => rfl
  | cons c t ih =>
    by_cases isReturn : c = '\r'
    · subst isReturn
      rw [Text.withoutReturns_return, ih, feed_cons, next_return]
    · rw [Text.withoutReturns_cons isReturn, feed_cons, feed_cons, ih]

theorem cut_withoutReturns (s : Scanner) (t : Text) :
    s.cut (Text.withoutReturns t) = s.cut t := by
  induction t generalizing s with
  | nil => rfl
  | cons c t ih =>
    by_cases isReturn : c = '\r'
    · subst isReturn
      rw [Text.withoutReturns_return, ih, cut, if_neg (by simp [Scanner.ends]), next_return]
    · rw [Text.withoutReturns_cons isReturn, cut, cut, ih, ih]

/-! ### Moving into a context -/

/-- The scanner moved on over a text into a context. -/
def advance (s : Scanner) (u : Text) (k : Context) : Scanner :=
  { s with context := k, reversed := u.reverse ++ s.reversed }

@[simp] theorem advance_context (s : Scanner) (u : Text) (k : Context) :
    (s.advance u k).context = k := rfl

theorem advance_advance (s : Scanner) (u v : Text) (k k' : Context) :
    (s.advance u k).advance v k' = s.advance (u ++ v) k' := by
  simp [advance]

theorem atLineStart_advance (s : Scanner) (u : Text) (c : Char) (k : Context) :
    (s.advance (u ++ [c]) k).atLineStart = (c == '\n') := by
  simp [advance, atLineStart]

theorem atLineStart_advance_of_ne (s : Scanner) {c : Char} (k : Context) (other : c ≠ '\n') :
    (s.advance [c] k).atLineStart = false := by
  have last := s.atLineStart_advance [] c k
  rw [List.nil_append] at last
  rw [last, beq_eq_false_iff_ne]
  exact other

/-- Reading a text passes and moves the scanner on into a context. -/
structure Traverses (s : Scanner) (u : Text) (k : Context) : Prop where
  passes : s.Passes u
  feed_eq : s.feed u = s.advance u k

namespace Traverses

theorem nil {s : Scanner} {k : Context} (within : s.context = k) : s.Traverses [] k := by
  refine ⟨trivial, ?_⟩
  subst within
  rfl

theorem single {s : Scanner} {c : Char} {k : Context} (notReturn : c ≠ '\r')
    (goesOn : s.ends c = false) (read : s.read c = s.within k) : s.Traverses [c] k := by
  refine ⟨⟨goesOn, trivial⟩, ?_⟩
  rw [feed_cons, feed_nil, next, if_neg notReturn, read]
  rfl

theorem append {s : Scanner} {u v : Text} {k k' : Context} (first : s.Traverses u k)
    (second : (s.advance u k).Traverses v k') : s.Traverses (u ++ v) k' := by
  refine ⟨passes_append.mpr ⟨first.passes, ?_⟩, ?_⟩
  · rw [first.feed_eq]
    exact second.passes
  · rw [feed_append, first.feed_eq, second.feed_eq, advance_advance]

theorem cons {s : Scanner} {c : Char} {v : Text} {k k' : Context} (first : s.Traverses [c] k)
    (second : (s.advance [c] k).Traverses v k') : s.Traverses (c :: v) k' :=
  first.append second

end Traverses

end Scanner

open Scanner (Traverses)

/-! ### Escaped bodies -/

/-- A pair of contexts, told apart by whether the next character is escaped, in
which a backslash escapes, the quote leads back to code, and no unit ends. -/
structure EscapingContexts (quote : Char) (k : Bool → Context) : Prop where
  read : ∀ (s : Scanner) (escaped : Bool) (c : Char), s.context = k escaped →
    s.read c =
      if c = Lexis.escapeMark then s.within (k (!escaped))
      else if c = quote ∧ !escaped then s.within (.code false)
      else s.within (k false)
  hides : ∀ escaped, Scanner.newlineSurfaces (k escaped) = false

theorem escapingContexts_string : EscapingContexts Lexis.stringQuote .string where
  read s escaped c within := by
    rw [Scanner.read, within]
    rfl
  hides _ := rfl

theorem escapingContexts_quoted (d : Char) : EscapingContexts d (.quoted d) where
  read s escaped c within := by
    rw [Scanner.read, within]
    rfl
  hides _ := rfl

namespace EscapingContexts

variable {quote : Char} {k : Bool → Context} {s : Scanner} {escaped : Bool}

theorem goesOn (contexts : EscapingContexts quote k) (within : s.context = k escaped)
    (c : Char) : s.ends c = false := by
  simp [Scanner.ends, within, contexts.hides]

/-- A backslash makes the next character an escaped one. -/
theorem traverses_escape (contexts : EscapingContexts quote k) (within : s.context = k false) :
    s.Traverses [Lexis.escapeMark] (k true) :=
  .single (by decide) (contexts.goesOn within _) (by simp [contexts.read s _ _ within])

/-- After an escaped character the body goes on. -/
theorem traverses_escaped (contexts : EscapingContexts quote k) (within : s.context = k true)
    {c : Char} (notReturn : c ≠ '\r') : s.Traverses [c] (k false) :=
  .single notReturn (contexts.goesOn within _) (by simp [contexts.read s _ _ within])

/-- A character that neither escapes nor closes belongs to the body. -/
theorem traverses_plain (contexts : EscapingContexts quote k) (within : s.context = k false)
    {c : Char} (notReturn : c ≠ '\r') (notQuote : c ≠ quote)
    (notEscape : c ≠ Lexis.escapeMark) : s.Traverses [c] (k false) :=
  .single notReturn (contexts.goesOn within _)
    (by simp [contexts.read s _ _ within, notQuote, notEscape])

/-- The quote leads back to code. -/
theorem traverses_quote (contexts : EscapingContexts quote k) (within : s.context = k false)
    (notReturn : quote ≠ '\r') (notEscape : quote ≠ Lexis.escapeMark) :
    s.Traverses [quote] (.code false) :=
  .single notReturn (contexts.goesOn within _)
    (by simp [contexts.read s _ _ within, notEscape])

end EscapingContexts

/-- An escaped body leads back to the context in which it began. -/
theorem EscapedBody.traverses {quote : Char} {k : Bool → Context} {s : Scanner} {body : Text}
    (valid : EscapedBody quote body) (contexts : EscapingContexts quote k)
    (noReturn : '\r' ∉ body) (within : s.context = k false) : s.Traverses body (k false) := by
  induction valid generalizing s with
  | nil => exact .nil within
  | plain notQuote notEscape _ ih =>
    obtain ⟨notReturn, noReturn⟩ := List.ne_and_not_mem_of_not_mem_cons noReturn
    exact (contexts.traverses_plain within notReturn.symm notQuote notEscape).cons
      (ih noReturn rfl)
  | pair _ ih =>
    obtain ⟨-, noReturn⟩ := List.ne_and_not_mem_of_not_mem_cons noReturn
    obtain ⟨notReturn, noReturn⟩ := List.ne_and_not_mem_of_not_mem_cons noReturn
    exact (contexts.traverses_escape within).cons
      ((contexts.traverses_escaped rfl notReturn.symm).cons (ih noReturn rfl))

/-! ### Raw bodies -/

namespace Scanner

variable {s : Scanner} {d : Char}

theorem traverses_raw_delimiter {pending : Bool} (within : s.context = .raw d pending)
    (notReturn : d ≠ '\r') (notNewline : d ≠ '\n') : s.Traverses [d] (.raw d (!pending)) :=
  .single notReturn (s.ends_of_ne_newline notNewline) (by simp [read, within, readRaw])

theorem traverses_raw_plain (within : s.context = .raw d false) {c : Char}
    (notReturn : c ≠ '\r') (other : c ≠ d) : s.Traverses [c] (.raw d false) := by
  refine .single notReturn ?_ ?_
  · simp [Scanner.ends, within, newlineSurfaces]
  · simp only [read, within, readRaw, if_neg other]
    rw [if_neg (by simp), Scanner.within, ← within]

end Scanner

/-- A raw body leads back to the context in which it began. -/
theorem RawBody.traverses {d : Char} {s : Scanner} {body : Text} (valid : RawBody d body)
    (notNewline : d ≠ '\n') (noReturn : '\r' ∉ body) (within : s.context = .raw d false) :
    s.Traverses body (.raw d false) := by
  induction valid generalizing s with
  | nil => exact .nil within
  | plain other _ ih =>
    obtain ⟨notReturn, noReturn⟩ := List.ne_and_not_mem_of_not_mem_cons noReturn
    exact (Scanner.traverses_raw_plain within notReturn.symm other).cons (ih noReturn rfl)
  | doubled _ ih =>
    obtain ⟨notReturn, noReturn⟩ := List.ne_and_not_mem_of_not_mem_cons noReturn
    obtain ⟨-, noReturn⟩ := List.ne_and_not_mem_of_not_mem_cons noReturn
    exact (Scanner.traverses_raw_delimiter within notReturn.symm notNewline).cons
      ((Scanner.traverses_raw_delimiter rfl notReturn.symm notNewline).cons (ih noReturn rfl))

/-! ### Comments -/

namespace Scanner

/-- The rest of the line on which a comment was opened belongs to the comment. -/
theorem traverses_lineComment {s : Scanner} {openedAtLineStart : Bool} {body : Text}
    (within : s.context = .lineComment openedAtLineStart) (noReturn : '\r' ∉ body)
    (oneLine : '\n' ∉ body) : s.Traverses body (.lineComment openedAtLineStart) := by
  induction body generalizing s with
  | nil => exact .nil within
  | cons c body ih =>
    obtain ⟨notReturn, noReturn⟩ := List.ne_and_not_mem_of_not_mem_cons noReturn
    obtain ⟨notNewline, oneLine⟩ := List.ne_and_not_mem_of_not_mem_cons oneLine
    have read : s.read c = s.within (.lineComment openedAtLineStart) := by
      simp only [read, within, readLineComment, if_neg notNewline.symm]
      rw [Scanner.within, ← within]
    exact (Traverses.single notReturn.symm (s.ends_of_ne_newline notNewline.symm) read).cons
      (ih rfl noReturn oneLine)

/-- Inside a line of a block comment no end mark stands alone. -/
theorem traverses_blockComment_inside {s : Scanner} {lone : Bool} {c : Char} {u : Text}
    (within : s.context = .blockComment lone) (inside : s.atLineStart = false)
    (noReturn : '\r' ∉ c :: u) (oneLine : '\n' ∉ c :: u) :
    s.Traverses (c :: u) (.blockComment false) := by
  induction u generalizing s c lone with
  | nil =>
    obtain ⟨notReturn, -⟩ := List.ne_and_not_mem_of_not_mem_cons noReturn
    obtain ⟨notNewline, -⟩ := List.ne_and_not_mem_of_not_mem_cons oneLine
    exact .single notReturn.symm (s.ends_of_ne_newline notNewline.symm)
      (by simp [read, within, readBlockComment, notNewline.symm, inside])
  | cons d u ih =>
    obtain ⟨notReturn, noReturn⟩ := List.ne_and_not_mem_of_not_mem_cons noReturn
    obtain ⟨notNewline, oneLine⟩ := List.ne_and_not_mem_of_not_mem_cons oneLine
    have first : s.Traverses [c] (.blockComment false) :=
      .single notReturn.symm (s.ends_of_ne_newline notNewline.symm)
        (by simp [read, within, readBlockComment, notNewline.symm, inside])
    have stillInside := s.atLineStart_advance_of_ne (.blockComment false) notNewline.symm
    exact first.cons (ih rfl stillInside noReturn oneLine)

/-- A line of a block comment is found to be the end mark alone, or not. -/
theorem traverses_blockComment_line {s : Scanner} {line : Text}
    (within : s.context = .blockComment false) (start : s.atLineStart = true)
    (noReturn : '\r' ∉ line) (oneLine : '\n' ∉ line) :
    s.Traverses line (.blockComment (decide (line = [Lexis.blockCommentEnd]))) := by
  cases line with
  | nil => exact .nil within
  | cons c u =>
    obtain ⟨notReturn, noReturn'⟩ := List.ne_and_not_mem_of_not_mem_cons noReturn
    obtain ⟨notNewline, oneLine'⟩ := List.ne_and_not_mem_of_not_mem_cons oneLine
    have first : s.Traverses [c] (.blockComment (decide (c = Lexis.blockCommentEnd))) :=
      .single notReturn.symm (s.ends_of_ne_newline notNewline.symm)
        (by simp [read, within, readBlockComment, notNewline.symm, start])
    cases u with
    | nil => simpa using first
    | cons d u =>
      have inside := s.atLineStart_advance_of_ne
        (.blockComment (decide (c = Lexis.blockCommentEnd))) notNewline.symm
      have rest := traverses_blockComment_inside rfl inside noReturn' oneLine'
      simpa using first.cons rest

end Scanner

/-- Lines of a comment lead back to the start of a line in the comment. -/
theorem CommentLines.traverses {s : Scanner} {lines : List Text} (valid : CommentLines lines)
    (within : s.context = .blockComment false) (start : s.atLineStart = true)
    (noReturn : '\r' ∉ Text.terminated lines) :
    s.Traverses (Text.terminated lines) (.blockComment false) ∧
      (s.advance (Text.terminated lines) (.blockComment false)).atLineStart = true := by
  induction lines generalizing s with
  | nil =>
    refine ⟨.nil within, ?_⟩
    exact start
  | cons line lines ih =>
    rw [Text.terminated_cons] at noReturn ⊢
    have oneLine := (valid line List.mem_cons_self).1
    have notEnd := (valid line List.mem_cons_self).2
    have noReturnLine : '\r' ∉ line := fun member => noReturn (List.mem_append_left _ member)
    have noReturnRest : '\r' ∉ Text.terminated lines := fun member =>
      noReturn (List.mem_append_right _ (List.mem_cons_of_mem _ member))
    have first := Scanner.traverses_blockComment_line within start noReturnLine oneLine
    rw [decide_eq_false notEnd] at first
    have newline : (s.advance line (.blockComment false)).Traverses ['\n'] (.blockComment false) :=
      .single (by decide) (by simp [Scanner.ends, Scanner.newlineSurfaces])
        (by simp [Scanner.read, Scanner.readBlockComment, Scanner.within, Scanner.advance])
    have whole := first.append newline
    have atStart : (s.advance (line ++ ['\n']) (.blockComment false)).atLineStart = true := by
      rw [Scanner.atLineStart_advance]
      rfl
    obtain ⟨rest, restStart⟩ := ih (fun l member => valid l (List.mem_cons_of_mem _ member)) rfl
      atStart noReturnRest
    constructor
    · simpa using whole.append rest
    · rw [Scanner.advance_advance] at restStart
      simpa using restStart

namespace Scanner

variable {s : Scanner} {first : Text} {lines : List Text}

/-- The first line of a block comment leads to the start of its lines. -/
theorem traverses_firstLine (within : s.context = .lineComment true) (noReturn : '\r' ∉ first)
    (oneLine : '\n' ∉ first) : s.Traverses (first ++ ['\n']) (.blockComment false) ∧
      (s.advance (first ++ ['\n']) (.blockComment false)).atLineStart = true := by
  have intoLines : (s.advance first (.lineComment true)).Traverses ['\n']
      (.blockComment false) := .single (by decide) rfl rfl
  exact ⟨(traverses_lineComment within noReturn oneLine).append intoLines,
    s.atLineStart_advance first '\n' (.blockComment false)⟩

/-- The first line of a block comment and the lines after it lead to the start of the
next one. -/
theorem traverses_blockComment (within : s.context = .lineComment true)
    (noReturnFirst : '\r' ∉ first) (oneLine : '\n' ∉ first) (valid : CommentLines lines)
    (noReturnLines : '\r' ∉ Text.terminated lines) :
    s.Traverses (first ++ ['\n'] ++ Text.terminated lines) (.blockComment false) ∧
      (s.advance (first ++ ['\n'] ++ Text.terminated lines)
        (.blockComment false)).atLineStart = true := by
  obtain ⟨overFirst, atStart⟩ := traverses_firstLine within noReturnFirst oneLine
  obtain ⟨overLines, atEnd⟩ := valid.traverses rfl atStart noReturnLines
  rw [advance_advance] at atEnd
  exact ⟨overFirst.append overLines, atEnd⟩

end Scanner

end StatementShell
