import StatementShell.Proofs.LineBoundaries

/-!
# A way out of every input

No input wedges the prompt: whatever is open, a few characters more complete it.  They
are found from where the scanner stands, in two steps.  Each context has a way out, at
most two characters after which a newline is read as code or ends a comment: the quote
or delimiter of a literal, twice where the first copy would be escaped, or the end mark
of a block comment on a line of its own.  If no bracket is open, the newline that
follows ends the unit.  Otherwise it leads back to code, where a closing bracket that
does not match the innermost open one makes the next newline end it, however deep the
nesting is.

## Main Definitions

* `Context.wayOut`: the characters that lead out of a context.
* `Lexis.closerAgainst`: a closing bracket that does not match.
* `Scanner.completion`: the characters that complete what a scanner is reading.

## Main Results

* `Scanner.traverses_wayOut`: the way out leads to where newlines surface.
* `Scanner.ends_completion`: the completion ends the unit, and nothing before it does.
* `exists_completion`: five characters are enough for every text.
-/

namespace StatementShell

/-! ### Out of a context -/

/-- The characters that lead out of a context, to where a newline is read as code or ends
a comment. -/
def Context.wayOut : Context → Text
  | code _ => []
  | lineComment openedAtLineStart => if openedAtLineStart then ['\n', Lexis.blockCommentEnd] else []
  | blockComment loneEndMark => if loneEndMark then [] else ['\n', Lexis.blockCommentEnd]
  | string escaped =>
    if escaped then [Lexis.stringQuote, Lexis.stringQuote] else [Lexis.stringQuote]
  | quoted d escaped => if escaped then [d, d] else [d]
  | raw d closePending => if closePending then [] else [d]

theorem Context.length_wayOut_le (k : Context) : k.wayOut.length ≤ 2 := by
  cases k with
  | code => exact Nat.zero_le 2
  | lineComment flag | blockComment flag | string flag | quoted _ flag | raw _ flag =>
    cases flag <;> simp [wayOut]

/-- The quote of an escaping context leads back to code, and one that is escaped has to be
read before it. -/
theorem EscapingContexts.traverses_wayOut {quote : Char} {k : Bool → Context} {s : Scanner}
    (contexts : EscapingContexts quote k) {escaped : Bool} (within : s.context = k escaped)
    (notReturn : quote ≠ '\r') (notEscape : quote ≠ Lexis.escapeMark) :
    s.Traverses (if escaped then [quote, quote] else [quote]) (.code false) := by
  cases escaped with
  | false => exact contexts.traverses_quote within notReturn notEscape
  | true =>
    exact (contexts.traverses_escaped within notReturn).cons
      (contexts.traverses_quote rfl notReturn notEscape)

namespace Scanner

variable {s : Scanner}

/-- The end mark of a block comment stands alone on a line of its own. -/
theorem traverses_endMark (into : s.Traverses ['\n'] (.blockComment false)) :
    s.Traverses ['\n', Lexis.blockCommentEnd] (.blockComment true) :=
  into.cons (traverses_blockComment_line rfl rfl (by decide) (by decide))

/-- The way out of a context leads to where newlines surface. -/
theorem traverses_wayOut (delimited : s.Delimited) :
    ∃ k, s.Traverses s.context.wayOut k ∧ newlineSurfaces k = true := by
  -- A delimiter is neither a return nor an escape mark, so that it is read as itself.
  have used {d : Char} (delimiter : s.context.delimiter? = some d) :
      d ≠ '\r' ∧ d ≠ '\n' ∧ d ≠ Lexis.escapeMark := by
    have isDelimiter := delimited d delimiter
    obtain ⟨notEscape, notNewline, -⟩ := Lexis.delimiter_spec isDelimiter
    refine ⟨?_, notNewline, notEscape⟩
    rintro rfl
    exact absurd isDelimiter (by decide)
  cases within : s.context with
  | code commentMayBegin => exact ⟨_, .nil within, rfl⟩
  | lineComment openedAtLineStart =>
    cases openedAtLineStart with
    | false => exact ⟨_, .nil within, rfl⟩
    | true =>
      have into : s.Traverses ['\n'] (.blockComment false) := by
        refine .single (by decide) ?_ ?_
        · simp [Scanner.ends, within, newlineSurfaces]
        · simp [read, within, readLineComment]
      exact ⟨_, traverses_endMark into, rfl⟩
  | blockComment loneEndMark =>
    cases loneEndMark with
    | true => exact ⟨_, .nil within, rfl⟩
    | false =>
      have into : s.Traverses ['\n'] (.blockComment false) := by
        refine .single (by decide) ?_ ?_
        · simp [Scanner.ends, within, newlineSurfaces]
        · simp only [read, within, readBlockComment]
          rw [if_pos trivial, if_neg Bool.false_ne_true, Scanner.within, ← within]
      exact ⟨_, traverses_endMark into, rfl⟩
  | string escaped =>
    exact ⟨_, escapingContexts_string.traverses_wayOut within (by decide) (by decide), rfl⟩
  | quoted d escaped =>
    obtain ⟨notReturn, -, notEscape⟩ := used (d := d) (by rw [within]; rfl)
    exact ⟨_, (escapingContexts_quoted d).traverses_wayOut within notReturn notEscape, rfl⟩
  | raw d closePending =>
    cases closePending with
    | true => exact ⟨_, .nil within, rfl⟩
    | false =>
      obtain ⟨notReturn, notNewline, -⟩ := used (d := d) (by rw [within]; rfl)
      exact ⟨_, traverses_raw_delimiter within notReturn notNewline, rfl⟩

end Scanner

/-! ### Out of all brackets -/

/-- A closing bracket means nothing else. -/
theorem Lexis.closeBracket_spec {c : Char} (close : isCloseBracket c = true) :
    isDelimiter c = false ∧ c ≠ '\r' ∧ c ≠ '\n' ∧ c ≠ stringQuote ∧ c ≠ commentMark := by
  have table : ∀ d ∈ closeBrackets,
      isDelimiter d = false ∧ d ≠ '\r' ∧ d ≠ '\n' ∧ d ≠ stringQuote ∧ d ≠ commentMark := by
    simp [closeBrackets, isDelimiter, delimiters, stringQuote, commentMark]
  exact table c (by simpa [isCloseBracket] using close)

/-- A closing bracket that does not match the innermost of some open ones. -/
def Lexis.closerAgainst (brackets : List Char) : Char :=
  if brackets.head? = some '(' then ']' else ')'

theorem Lexis.closerAgainst_spec (brackets : List Char) :
    isCloseBracket (closerAgainst brackets) = true ∧
      brackets.head? ≠ openerFor (closerAgainst brackets) := by
  unfold closerAgainst
  split
  · case isTrue paren =>
    rw [paren]
    decide
  · case isFalse other =>
    exact ⟨by decide, other⟩

namespace Scanner

variable {s : Scanner}

/-- In code a closing bracket is read as such. -/
theorem read_closeBracket {commentMayBegin : Bool} (within : s.context = .code commentMayBegin)
    {c : Char} (close : Lexis.isCloseBracket c = true) : s.read c = s.closeBracket c := by
  obtain ⟨notDelimiter, -, notNewline, notQuote, notComment⟩ := Lexis.closeBracket_spec close
  have notOpen := Lexis.isOpenBracket_of_isCloseBracket close
  rw [read, within]
  simp [readCode, readPlain, notDelimiter, notNewline, notQuote, notComment, notOpen, close]

/-- In code a closing bracket that does not match is remembered as such. -/
theorem read_mismatch {commentMayBegin : Bool} (within : s.context = .code commentMayBegin)
    {c : Char} (close : Lexis.isCloseBracket c = true)
    (differs : s.brackets.head? ≠ Lexis.openerFor c) :
    s.read c = { s with context := .code false, mismatched := true } := by
  rw [read_closeBracket within close, closeBracket, if_neg differs]

/-- After a closing bracket that does not match, a newline ends the unit. -/
theorem ends_newline_of_mismatch {commentMayBegin : Bool}
    (within : s.context = .code commentMayBegin) :
    (s.next (Lexis.closerAgainst s.brackets)).ends '\n' = true := by
  obtain ⟨close, differs⟩ := Lexis.closerAgainst_spec s.brackets
  obtain ⟨-, notReturn, -⟩ := Lexis.closeBracket_spec close
  rw [next, if_neg notReturn, read_mismatch within close differs, ends_newline]
  simp [record, newlineSurfaces, closed]

/-! ### The completion -/

/-- The characters after which a newline completes what the scanner is reading. -/
def completion (s : Scanner) : Text :=
  s.context.wayOut ++ if s.closed then [] else ['\n', Lexis.closerAgainst s.brackets]

theorem length_completion_le (s : Scanner) : s.completion.length ≤ 4 := by
  have out := s.context.length_wayOut_le
  rw [completion, List.length_append]
  split <;> simp <;> omega

/-- No unit ends within the completion, and one ends at the newline after it. -/
theorem ends_completion (delimited : s.Delimited) :
    s.Passes s.completion ∧ (s.feed s.completion).ends '\n' = true := by
  obtain ⟨k, out, surfaces⟩ := traverses_wayOut delimited
  have sameBrackets : (s.advance s.context.wayOut k).closed = s.closed := rfl
  have ends : (s.advance s.context.wayOut k).ends '\n' = s.closed := by
    rw [ends_newline, advance_context, surfaces, sameBrackets, Bool.true_and]
  unfold completion
  cases closed : s.closed with
  | true =>
    rw [if_pos rfl, List.append_nil, out.feed_eq, ends]
    exact ⟨out.passes, closed⟩
  | false =>
    have arrived : (s.advance s.context.wayOut k).Delimited := by
      have fed := delimited.feed s.context.wayOut
      rwa [out.feed_eq] at fed
    -- The newline leads back to code, where the closing bracket is read.
    have back : (s.advance s.context.wayOut k).next '\n' =
        (s.advance s.context.wayOut k).resume.record '\n' := by
      rw [next, if_neg (by decide), read_newline_of_surfaces arrived surfaces]
    obtain ⟨-, -, notNewline, -⟩ :=
      Lexis.closeBracket_spec (Lexis.closerAgainst_spec s.brackets).1
    rw [if_neg (by decide), passes_append, feed_append, out.feed_eq, feed_cons, back]
    have inCode : ((s.advance s.context.wayOut k).resume.record '\n').context =
        .code (!s.closed) := rfl
    refine ⟨⟨out.passes, ends.trans closed, ?_, trivial⟩, ?_⟩
    · exact ends_of_ne_newline _ notNewline
    · exact ends_newline_of_mismatch inCode

end Scanner

/-- **No input wedges the prompt.**  A text in which no unit ends is completed by some
five characters at most: the text with these after it is one whole unit. -/
theorem exists_completion (t : Text) (more : scan t = .needMoreInput) :
    ∃ u : Text, u.length ≤ 5 ∧
      scan (t ++ u) = .complete (Text.withoutReturns (t ++ u)).byteLength := by
  have passes : Scanner.fresh.Passes t := Scanner.verdict_eq_needMoreInput_iff.mp more
  have delimited := Scanner.delimited_fresh.feed t
  obtain ⟨onward, ends⟩ := Scanner.ends_completion delimited
  have short := (Scanner.fresh.feed t).length_completion_le
  refine ⟨(Scanner.fresh.feed t).completion ++ ['\n'], ?_, ?_⟩
  · rw [List.length_append, List.length_singleton]
    exact Nat.succ_le_succ short
  · rw [scan, Scanner.verdict_append passes, Scanner.verdict_of_ends onward ends,
      ← Scanner.feed_append, Scanner.consumed_feed]
    rfl

/-- Out of a block comment inside two brackets, the completion needs all five characters. -/
theorem completion_of_block_comment_in_brackets :
    scan "([\n/ x".toList = .needMoreInput ∧
      (Scanner.fresh.feed "([\n/ x".toList).completion = ['\n', '\\', '\n', ')'] ∧
      ∃ u : Text, u.length ≤ 5 ∧ scan ("([\n/ x".toList ++ u) =
        .complete (Text.withoutReturns ("([\n/ x".toList ++ u)).byteLength := by
  have more : scan "([\n/ x".toList = .needMoreInput := by decide
  exact ⟨more, by decide, exists_completion _ more⟩

end StatementShell
