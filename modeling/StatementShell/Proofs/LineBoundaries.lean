import StatementShell.Proofs.ContextMoves
import StatementShell.Proofs.Lines

/-!
# Boundaries between lines

The scanner reads characters, yet the lines of a script are what a unit consists
of: a unit ends at a newline, so it is the terminated form of a run of lines.
This module says where in a run the first unit ends, and what its last line looks
like.  White space between two newlines changes nothing: whatever kept the first
of them from ending a unit keeps the second from it too.  So a unit does not end
with a blank line, unless it is one, and the one newline at its end is all that is
trimmed from it.

## Main Definitions

* `CompletedBy`: the first unit of a run of lines ends with its last line.

## Main Results

* `unitInduction`: lines fall into units.
* `scanLines_isComplete_iff`: lines are complete when a unit ends with one of
  them.
* `completedBy_of_isBlank`: a blank line is a unit of its own.
* `CompletedBy.isBlank_first`, `CompletedBy.isBlank_last`: any other unit neither
  begins nor ends with one.
* `CompletedBy.trimEndNewlines_unit`: the unit that a run makes.
-/

namespace StatementShell

/-- White space has no part in the lexis, but that comments may follow it. -/
theorem Lexis.whiteSpace_spec {c : Char} (space : Text.isWhiteSpace c = true) :
    isDelimiter c = false ∧ c ≠ stringQuote ∧ c ≠ escapeMark ∧ c ≠ commentMark ∧
      isOpenBracket c = false ∧ isCloseBracket c = false := by
  have table : (delimiters ++ openBrackets ++ closeBrackets ++
      [stringQuote, escapeMark, commentMark]).all (fun d => !Text.isWhiteSpace d) = true := by
    decide
  have other {d : Char} (member : d ∈ delimiters ++ openBrackets ++ closeBrackets ++
      [stringQuote, escapeMark, commentMark]) : c ≠ d := by
    rintro rfl
    have notSpace := List.all_eq_true.mp table c member
    exact absurd space (by simpa using notSpace)
  have outside {l : List Char} (part : l ⊆ delimiters ++ openBrackets ++ closeBrackets ++
      [stringQuote, escapeMark, commentMark]) : l.contains c = false := by
    rw [List.contains_eq_mem, decide_eq_false_iff_not]
    exact fun member => other (part member) rfl
  refine ⟨outside ?_, other (by decide), other (by decide), other (by decide), outside ?_,
    outside ?_⟩ <;> decide

namespace Scanner

variable {s : Scanner}

/-- No unit ends within a line. -/
theorem passes_of_not_mem (s : Scanner) {line : Text} (oneLine : '\n' ∉ line) :
    s.Passes line := by
  induction line generalizing s with
  | nil => trivial
  | cons c line ih =>
    obtain ⟨other, oneLine⟩ := List.ne_and_not_mem_of_not_mem_cons oneLine
    exact ⟨s.ends_of_ne_newline other.symm, ih _ oneLine⟩

/-! ### A newline after white space -/

/-- White space is read as itself in code. -/
theorem readCode_of_isWhiteSpace (commentMayBegin : Bool) {c : Char}
    (space : Text.isWhiteSpace c = true) :
    s.readCode commentMayBegin c =
      if c = '\n' then s.resume else s.within (.code (Lexis.isGap c)) := by
  obtain ⟨notDelimiter, notQuote, -, notComment, notOpen, notClose⟩ := Lexis.whiteSpace_spec space
  simp [readCode, readPlain, notDelimiter, notQuote, notComment, notOpen, notClose]

/-- White space neither opens nor closes a bracket. -/
theorem closed_read_of_isWhiteSpace (s : Scanner) {c : Char}
    (space : Text.isWhiteSpace c = true) : (s.read c).closed = s.closed := by
  rcases s.read_cases c with ⟨-, commentMayBegin, read⟩ | ⟨-, -, read⟩ | ⟨k, -, read⟩
  · rw [read, readCode_of_isWhiteSpace commentMayBegin space]
    split <;> rfl
  · rw [read]
    rfl
  · rw [read]
    rfl

/-- Where newlines are hidden they are hidden after white space too. -/
theorem newlineSurfaces_read_of_isWhiteSpace (delimited : s.Delimited)
    (hidden : newlineSurfaces s.context = false) {c : Char}
    (space : Text.isWhiteSpace c = true) : newlineSurfaces (s.read c).context = false := by
  obtain ⟨notDelimiter, notQuote, notEscape, -⟩ := Lexis.whiteSpace_spec space
  rcases s.read_cases c with ⟨surfaces, -⟩ | ⟨surfaces, -⟩ | ⟨k, moves, read⟩
  · exact Bool.noConfusion (surfaces.symm.trans hidden)
  · exact Bool.noConfusion (surfaces.symm.trans hidden)
  · have other {d : Char} (used : s.context.delimiter? = some d) : c ≠ d := by
      rintro rfl
      exact Bool.noConfusion ((delimited c used).symm.trans notDelimiter)
    rw [read]
    show newlineSurfaces k = false
    generalize s.context = before at moves hidden other
    cases moves with
    | lineComment => exact hidden
    | blockComment _ mark => rw [newlineSurfaces, mark, decide_eq_false (notEscape ·.1)]
    | stringEnd quote => exact absurd quote notQuote
    | quotedEnd delimiter | pending delimiter => exact absurd delimiter (other rfl)
    | _ => rfl

/-- Where a newline would not end the unit, one after white space does not end it
either: the context still hides newlines, or the unit is still not closed. -/
theorem ends_newline_next (delimited : s.Delimited) (goesOn : s.ends '\n' = false) {c : Char}
    (space : Text.isWhiteSpace c = true) : (s.next c).ends '\n' = false := by
  unfold next
  split
  · exact goesOn
  · rw [ends_newline, Bool.and_eq_false_iff] at goesOn ⊢
    rcases goesOn with hidden | unclosed
    · exact Or.inl (newlineSurfaces_read_of_isWhiteSpace delimited hidden space)
    · exact Or.inr ((s.closed_read_of_isWhiteSpace space).trans unclosed)

theorem ends_newline_feed (delimited : s.Delimited) (goesOn : s.ends '\n' = false) {t : Text}
    (isBlank : t.isBlank = true) : (s.feed t).ends '\n' = false := by
  induction t generalizing s with
  | nil => exact goesOn
  | cons c t ih =>
    rw [Text.isBlank, List.all_cons, Bool.and_eq_true] at isBlank
    have delimitedNext : (s.next c).Delimited := delimited.feed [c]
    exact ih delimitedNext (ends_newline_next delimited goesOn isBlank.1) isBlank.2

end Scanner

/-! ### The line that completes a unit -/

/-- The first unit of some lines ends with the line after them. -/
def CompletedBy (init : List Text) (last : Text) : Prop :=
  Scanner.fresh.Passes (Text.terminated init ++ last) ∧
    (Scanner.fresh.feed (Text.terminated init ++ last)).ends '\n' = true

/-- Either no unit ends in a run of lines, or the first one that does ends with
one of them. -/
theorem passes_or_completedBy {lines : List Text} (newlineFree : Text.NewlineFree lines) :
    Scanner.fresh.Passes (Text.terminated lines) ∨
      ∃ init last tail, lines = init ++ last :: tail ∧ CompletedBy init last := by
  rcases Scanner.fresh.passes_or_ends (Text.terminated lines) with
    passes | ⟨u, rest, split, passes, ends⟩
  · exact Or.inl passes
  · obtain ⟨init, last, tail, rfl, rfl, rfl⟩ := Text.terminated_split newlineFree split
    exact Or.inr ⟨init, last, tail, rfl, passes, ends⟩

/-- Lines fall into units: what holds where no unit ends, and of lines with one more unit
in front, holds of all lines. -/
@[elab_as_elim]
theorem unitInduction {P : ∀ lines, Text.NewlineFree lines → Prop}
    (rest : ∀ lines (newlineFree : Text.NewlineFree lines),
      Scanner.fresh.Passes (Text.terminated lines) → P lines newlineFree)
    (unit : ∀ init last later (newlineFree : Text.NewlineFree (init ++ last :: later))
      (newlineFreeLater : Text.NewlineFree later), Text.NewlineFree (init ++ [last]) →
        CompletedBy init last → P later newlineFreeLater → P (init ++ last :: later) newlineFree)
    (lines : List Text) (newlineFree : Text.NewlineFree lines) : P lines newlineFree := by
  induction length : lines.length using Nat.strongRecOn generalizing lines with
  | ind n ih =>
    rcases passes_or_completedBy newlineFree with passes | ⟨init, last, later, rfl, completed⟩
    · exact rest lines newlineFree passes
    · have parts : Text.NewlineFree (init ++ [last] ++ later) := by simpa using newlineFree
      rw [Text.newlineFree_append] at parts
      have fewer : later.length < n := by
        rw [List.length_append, List.length_cons] at length
        omega
      exact unit init last later newlineFree parts.2 parts.1 completed
        (ih later.length fewer later parts.2 rfl)

namespace CompletedBy

variable {init : List Text} {last : Text}

/-- Lines that begin with a unit get their verdict at its end. -/
theorem scanLines_eq (completed : CompletedBy init last) (tail : List Text) :
    scanLines (init ++ last :: tail) =
      .complete (Text.withoutReturns (Text.terminated (init ++ [last]))).byteLength := by
  rw [scanLines, scan, Text.terminated_append_cons,
    Scanner.verdict_of_ends completed.1 completed.2, Scanner.consumed_feed, Text.terminated_concat]
  rfl

/-- Lines that begin with a unit are complete. -/
theorem isComplete (completed : CompletedBy init last) (tail : List Text) :
    (scanLines (init ++ last :: tail)).isComplete = true := by
  rw [completed.scanLines_eq]
  rfl

/-- The unit is cut off, and the rest is cut by a fresh scanner. -/
theorem cut_eq (completed : CompletedBy init last) (tail : List Text) :
    cut (Text.terminated (init ++ last :: tail)) =
      ⟨Text.withoutReturns (Text.terminated (init ++ [last])) ::
        (cut (Text.terminated tail)).units, (cut (Text.terminated tail)).last⟩ := by
  rw [cut, Text.terminated_append_cons, Scanner.cut_of_ends completed.1 completed.2,
    Scanner.consumed_feed, Text.terminated_concat]
  rfl

/-- The last line of a unit is not blank, unless the unit is. -/
theorem isBlank_last (completed : CompletedBy init last)
    (nonblank : (Text.terminated (init ++ [last])).isBlank = false) : last.isBlank = false := by
  by_contra notNonblank
  have isBlank : last.isBlank = true := by simpa using notNonblank
  cases init using List.reverseRecOn with
  | nil => exact absurd isBlank (by simpa [Text.isBlank] using nonblank)
  | append_singleton init prev =>
    obtain ⟨passes, ends⟩ := completed
    rw [Text.terminated_concat] at passes ends
    -- The newline before the last line did not end the unit, so the one after it does not.
    have goesOn := (Scanner.passes_append.mp (Scanner.passes_append.mp passes).1).2.1
    have delimited := Scanner.delimited_fresh.feed (Text.terminated init ++ prev)
    have still := Scanner.ends_newline_next delimited goesOn Text.isWhiteSpace_newline
    rw [Scanner.feed_append, Scanner.feed_append] at ends
    exact Bool.noConfusion
      (ends.symm.trans (Scanner.ends_newline_feed (delimited.feed ['\n']) still isBlank))

end CompletedBy

/-- Lines are complete when a unit ends with one of them. -/
theorem scanLines_isComplete_iff {lines : List Text} (newlineFree : Text.NewlineFree lines) :
    (scanLines lines).isComplete = true ↔
      ∃ init last tail, lines = init ++ last :: tail ∧ CompletedBy init last := by
  constructor
  · intro complete
    rcases passes_or_completedBy newlineFree with passes | completed
    · rw [scanLines, scan, Scanner.verdict_of_passes passes] at complete
      exact absurd complete (by simp [Verdict.isComplete])
    · exact completed
  · rintro ⟨init, last, tail, rfl, completed⟩
    exact completed.isComplete tail

/-! ### The unit that a run makes -/

theorem Text.trimEndNewlines_concat (t : Text) :
    trimEndNewlines (t ++ ['\n']) = trimEndNewlines t := by
  simp [trimEndNewlines, dropEndWhile]

theorem Text.trimEndNewlines_of_getLast? {t : Text} (noNewline : t.getLast? ≠ some '\n') :
    trimEndNewlines t = t := by
  have kept : t.reverse.dropWhile (· == '\n') = t.reverse := by
    cases last : t.reverse with
    | nil => rfl
    | cons c front =>
      have isLast : t.getLast? = some c := by
        rw [List.getLast?_eq_head?_reverse, last]
        rfl
      have other : ¬ (c == '\n') = true := by
        intro same
        exact noNewline (isLast.trans (congrArg _ (eq_of_beq same)))
      exact List.dropWhile_cons_of_neg other
  rw [trimEndNewlines, dropEndWhile, kept, List.reverse_reverse]

/-- Of a line that is not empty only the newline at its end is trimmed. -/
theorem Text.trimEndNewlines_line (front : Text) {line : Text} (oneLine : '\n' ∉ line)
    (holds : line ≠ []) : trimEndNewlines (front ++ line ++ ['\n']) = front ++ line := by
  rw [trimEndNewlines_concat]
  apply trimEndNewlines_of_getLast?
  rw [List.getLast?_append, List.getLast?_eq_some_getLast holds, Option.some_or]
  intro newline
  have member := List.getLast_mem holds
  rw [Option.some.inj newline] at member
  exact oneLine member

/-- The unit of a run, without the newline at its end, is the run joined: its
last line is not empty, so there is no other newline to lose. -/
theorem CompletedBy.trimEndNewlines_unit {init : List Text} {last : Text}
    (completed : CompletedBy init last) (oneLine : '\n' ∉ last)
    (nonblank : (Text.terminated (init ++ [last])).isBlank = false) :
    Text.trimEndNewlines (Text.withoutReturns (Text.terminated (init ++ [last]))) =
      Text.withoutReturns (Text.join (init ++ [last])) := by
  have holds : Text.withoutReturns last ≠ [] := by
    intro empty
    have isBlank := Text.isBlank_withoutReturns last
    rw [empty] at isBlank
    exact Bool.noConfusion (isBlank.trans (completed.isBlank_last nonblank))
  have oneLineLeft : '\n' ∉ Text.withoutReturns last := fun member =>
    oneLine (List.mem_filter.mp member).1
  rw [Text.terminated_concat, Text.join_concat, Text.withoutReturns_append,
    Text.withoutReturns_append]
  exact Text.trimEndNewlines_line _ oneLineLeft holds

/-! ### Blank lines -/

namespace Scanner

/-- In code, with no bracket open. -/
def Idle (s : Scanner) : Prop := s.context.isCode = true ∧ s.brackets = []

theorem Idle.next {s : Scanner} (idle : s.Idle) {c : Char} (space : Text.isWhiteSpace c = true) :
    (s.next c).Idle := by
  obtain ⟨inCode, noBracket⟩ := idle
  unfold Scanner.next
  split
  · exact ⟨inCode, noBracket⟩
  · cases within : s.context with
    | code commentMayBegin =>
      have read : s.read c = if c = '\n' then s.resume else s.within (.code (Lexis.isGap c)) := by
        rw [Scanner.read, within]
        exact readCode_of_isWhiteSpace commentMayBegin space
      rw [read]
      split
      · exact ⟨rfl, noBracket⟩
      · exact ⟨rfl, noBracket⟩
    | _ => exact absurd inCode (by simp [within, Context.isCode])

theorem Idle.feed {s : Scanner} (idle : s.Idle) {t : Text} (isBlank : t.isBlank = true) :
    (s.feed t).Idle := by
  induction t generalizing s with
  | nil => exact idle
  | cons c t ih =>
    rw [Text.isBlank, List.all_cons, Bool.and_eq_true] at isBlank
    rw [feed_cons]
    exact ih (idle.next isBlank.1) isBlank.2

theorem Idle.ends_newline {s : Scanner} (idle : s.Idle) : s.ends '\n' = true := by
  obtain ⟨inCode, noBracket⟩ := idle
  have closed : s.closed = true := by simp [Scanner.closed, noBracket]
  rw [Scanner.ends_newline, closed, Bool.and_true]
  cases within : s.context with
  | code => rfl
  | _ => exact absurd inCode (by simp [within, Context.isCode])

end Scanner

/-- A blank line is a unit of its own. -/
theorem completedBy_of_isBlank {line : Text} (oneLine : '\n' ∉ line)
    (isBlank : line.isBlank = true) : CompletedBy [] line := by
  have start : Scanner.fresh.Idle := ⟨rfl, rfl⟩
  exact ⟨Scanner.passes_of_not_mem _ oneLine, (start.feed isBlank).ends_newline⟩

/-- The first line of a unit is not blank, unless the unit is. -/
theorem CompletedBy.isBlank_first {init : List Text} {first last : Text}
    (completed : CompletedBy init last) (head : (init ++ [last]).head? = some first)
    (oneLine : '\n' ∉ first) (nonblank : (Text.terminated (init ++ [last])).isBlank = false) :
    first.isBlank = false := by
  cases init with
  | nil =>
    obtain rfl : last = first := by simpa using head
    simpa [Text.isBlank] using nonblank
  | cons line init =>
    obtain rfl : line = first := by simpa using head
    by_contra notNonblank
    obtain ⟨-, ends⟩ := completedBy_of_isBlank oneLine (by simpa using notNonblank)
    have passes := completed.1
    rw [Text.terminated_cons, List.append_assoc, Scanner.passes_append] at passes
    exact Bool.noConfusion (ends.symm.trans passes.2.1)

end StatementShell
