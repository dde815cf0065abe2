import StatementShell.Proofs.Completability
import StatementShell.Proofs.Resplitting
import StatementShell.Proofs.Resumption

/-!
# Brackets around a script

Complete statements put between two brackets are one statement.  The scanner that reads
them there runs beside one that starts afresh after every statement, with the outer
bracket below all others on its stack.  The outer bracket is looked at in two places only.
A newline that ends a unit outside is a newline in code inside, and a closing bracket that
finds nothing open outside would close the outer bracket.  The second is a mismatch
outside and is excluded.  At the first the two scanners meet again: each is in code, at the
start of a line, where a comment may begin, and neither looks at what stands before.

## Main Definitions

* `Scanner.enclosed`: the same scanner inside of more brackets.
* `Scanner.ReadsInside`: a text that leads back to where it began, inside of brackets.
* `Text.bracketed`: a script between two brackets.

## Main Results

* `Scanner.next_enclosed`, `Scanner.next_enclosed_of_ends`: one character inside of more
  brackets.
* `readsInside_of_closed`: complete statements are read inside of brackets.
* `scan_bracketed`: between two brackets they are one statement.
-/

namespace StatementShell

namespace Scanner

/-- The same scanner inside of more open brackets. -/
def enclosed (s : Scanner) (outer : List Char) : Scanner :=
  { s with brackets := s.brackets ++ outer }

variable {s : Scanner} {outer : List Char}

/-! ### Without mismatch -/

/-- A mismatch is not forgotten, so there was none before if there is none after. -/
theorem clean_of_next {c : Char} (clean : (s.next c).mismatched = false) :
    s.mismatched = false := by
  have plain (commentMayBegin : Bool)
      (clean : (s.readPlain commentMayBegin c).mismatched = false) : s.mismatched = false := by
    unfold readPlain closeBracket at clean
    split_ifs at clean
    all_goals exact clean
  have code (commentMayBegin : Bool)
      (clean : (s.readCode commentMayBegin c).mismatched = false) : s.mismatched = false := by
    unfold readCode at clean
    repeat' split at clean
    all_goals first
      | exact clean
      | exact plain _ clean
  unfold next read at clean
  split at clean
  · exact clean
  · unfold readLineComment readBlockComment readString readQuoted readRaw at clean
    repeat' split at clean
    all_goals first
      | exact clean
      | exact code _ clean

theorem clean_of_feed {t : Text} (clean : (s.feed t).mismatched = false) :
    s.mismatched = false := by
  induction t generalizing s with
  | nil => exact clean
  | cons c t ih => exact clean_of_next (ih clean)

theorem closed_of_clean (clean : s.mismatched = false) : s.closed = s.brackets.isEmpty := by
  rw [closed, clean, Bool.or_false]

/-! ### One character inside of more brackets -/

theorem closed_enclosed (some : outer ≠ []) (clean : s.mismatched = false) :
    (s.enclosed outer).closed = false := by
  rw [closed_of_clean (s := s.enclosed outer) clean]
  simp [enclosed, some]

/-- Inside of more brackets no newline ends a unit. -/
theorem ends_enclosed (some : outer ≠ []) (clean : s.mismatched = false) (c : Char) :
    (s.enclosed outer).ends c = false := by
  simp [Scanner.ends, closed_enclosed some clean]

/-- Where some bracket is open, more of them make no difference to a newline. -/
theorem resume_enclosed (unclosed : s.closed = false) :
    (s.enclosed outer).resume = s.resume.enclosed outer := by
  have alike : (s.enclosed outer).closed = false := by
    simp only [closed, Bool.or_eq_false_iff, List.isEmpty_eq_false_iff] at unclosed ⊢
    exact ⟨List.append_ne_nil_of_left_ne_nil unclosed.1 outer, unclosed.2⟩
  rw [resume, resume, unclosed, alike]
  rfl

/-- A bracket that closes the innermost open one does so inside of more brackets. -/
theorem closeBracket_enclosed {c : Char} (close : Lexis.isCloseBracket c = true)
    (clean : (s.closeBracket c).mismatched = false) :
    (s.enclosed outer).closeBracket c = (s.closeBracket c).enclosed outer := by
  have isMatch : s.brackets.head? = Lexis.openerFor c := by
    by_contra differs
    rw [closeBracket, if_neg differs] at clean
    exact Bool.noConfusion clean
  obtain ⟨o, opener⟩ := Lexis.exists_openerFor close
  obtain ⟨more, split⟩ := List.head?_eq_some_iff.mp (isMatch.trans opener)
  simp [closeBracket, enclosed, split, opener]

theorem readPlain_enclosed {commentMayBegin : Bool} {c : Char}
    (clean : (s.readPlain commentMayBegin c).mismatched = false)
    (unclosed : c = '\n' → s.closed = false) :
    (s.enclosed outer).readPlain commentMayBegin c =
      (s.readPlain commentMayBegin c).enclosed outer := by
  have start : (s.enclosed outer).atLineStart = s.atLineStart := rfl
  unfold readPlain at clean ⊢
  rw [start]
  split_ifs at clean ⊢ with newline _ _ _ close
  · exact resume_enclosed (unclosed newline)
  · rfl
  · rfl
  · rfl
  · exact closeBracket_enclosed close clean
  · rfl

theorem readCode_enclosed {commentMayBegin : Bool} {c : Char}
    (clean : (s.readCode commentMayBegin c).mismatched = false)
    (unclosed : c = '\n' → s.closed = false) :
    (s.enclosed outer).readCode commentMayBegin c =
      (s.readCode commentMayBegin c).enclosed outer := by
  have written : (s.enclosed outer).reversed = s.reversed := rfl
  unfold readCode at clean ⊢
  rw [written]
  by_cases isDelimiter : Lexis.isDelimiter c = true
  · simp only [if_pos isDelimiter] at clean ⊢
    cases introducer : Lexis.introducerAtEnd s.reversed with
    | none =>
      rw [introducer] at clean
      exact readPlain_enclosed clean unclosed
    | some kind => cases kind <;> rfl
  · simp only [if_neg isDelimiter] at clean ⊢
    exact readPlain_enclosed clean unclosed

/-- Inside of more brackets a character is read alike, if it neither ends a unit nor is a
closing bracket that does not match. -/
theorem next_enclosed {c : Char} (clean : (s.next c).mismatched = false)
    (goesOn : s.ends c = false) : (s.enclosed outer).next c = (s.next c).enclosed outer := by
  unfold next at clean ⊢
  split
  · rfl
  · case isFalse notReturn =>
    rw [if_neg notReturn] at clean
    -- A newline that surfaces has not ended the unit, so some bracket is open.
    have unclosed (surfaces : newlineSurfaces s.context = true) (newline : c = '\n') :
        s.closed = false := by
      subst newline
      rwa [ends_newline, surfaces, Bool.true_and] at goesOn
    have read : (s.enclosed outer).read c = (s.read c).enclosed outer := by
      have same : (s.enclosed outer).context = s.context := rfl
      unfold read at clean ⊢
      rw [same]
      cases within : s.context with
      | code =>
        rw [within] at clean unclosed
        exact readCode_enclosed clean (unclosed rfl)
      | lineComment openedAtLineStart =>
        rw [within] at unclosed
        dsimp only [readLineComment]
        split_ifs with newline start
        · rfl
        · exact resume_enclosed (unclosed (by simp [newlineSurfaces, start]) newline)
        · rfl
      | blockComment loneEndMark =>
        rw [within] at unclosed
        dsimp only [readBlockComment]
        split_ifs with newline lone
        · exact resume_enclosed (unclosed lone newline)
        · rfl
        · rfl
      | string =>
        dsimp only [readString]
        split_ifs <;> rfl
      | quoted =>
        dsimp only [readQuoted]
        split_ifs <;> rfl
      | raw d closePending =>
        rw [within] at clean unclosed
        dsimp only [readRaw] at clean ⊢
        split_ifs at clean ⊢ with isDelimiter pending
        · rfl
        · exact readCode_enclosed clean (unclosed pending)
        · rfl
    rw [read]
    rfl

/-- Inside of more brackets a newline that ends a unit leads to the start of a line of
code, where a comment may begin as it may for a fresh scanner. -/
theorem next_enclosed_of_ends (some : outer ≠ []) (delimited : s.Delimited)
    (clean : s.mismatched = false) (ends : s.ends '\n' = true) :
    (s.enclosed outer).next '\n' = (fresh.enclosed outer).onto ('\n' :: s.reversed) := by
  rw [ends_newline, Bool.and_eq_true, closed_of_clean clean, List.isEmpty_iff] at ends
  have delimitedInside : (s.enclosed outer).Delimited := delimited
  rw [next, if_neg (by decide), read_newline_of_surfaces delimitedInside ends.1, resume,
    closed_enclosed some clean]
  simp [record, within, enclosed, onto, fresh, clean, ends.2]

/-! ### Texts inside of more brackets -/

/-- Inside of more brackets a text in which no unit ends is read alike, and none ends. -/
theorem feed_enclosed (some : outer ≠ []) {t : Text} (passes : s.Passes t)
    (clean : (s.feed t).mismatched = false) :
    (s.enclosed outer).Passes t ∧ (s.enclosed outer).feed t = (s.feed t).enclosed outer := by
  induction t generalizing s with
  | nil => exact ⟨trivial, rfl⟩
  | cons c t ih =>
    obtain ⟨goesOn, passes⟩ := passes
    have cleanNext : (s.next c).mismatched = false := clean_of_feed clean
    have alike : (s.enclosed outer).next c = (s.next c).enclosed outer :=
      next_enclosed cleanNext goesOn
    obtain ⟨passesRest, rest⟩ := ih passes clean
    rw [← alike] at passesRest rest
    exact ⟨⟨ends_enclosed some (clean_of_next cleanNext) c, passesRest⟩, rest⟩

/-- A text in which no unit ends inside of more brackets, and which leads back to where it
began: to the start of a line of code there. -/
def ReadsInside (outer : List Char) (t : Text) : Prop :=
  (fresh.enclosed outer).Passes t ∧ ∃ earlier, (earlier = [] ∨ earlier.head? = some '\n') ∧
    (fresh.enclosed outer).feed t = (fresh.enclosed outer).onto earlier

theorem readsInside_nil (outer : List Char) : ReadsInside outer [] :=
  ⟨trivial, [], Or.inl rfl, (onto_nil _).symm⟩

theorem readsInside_withoutReturns {t : Text} :
    ReadsInside outer (Text.withoutReturns t) ↔ ReadsInside outer t := by
  rw [ReadsInside, passes_withoutReturns, feed_withoutReturns]
  exact Iff.rfl

namespace ReadsInside

variable {t u : Text}

/-- It leads to the start of a line after earlier lines too. -/
theorem onto (reads : ReadsInside outer t) {earlier : List Char}
    (newline : earlier.head? = some '\n') :
    ((fresh.enclosed outer).onto earlier).Passes t ∧
      ∃ later, later.head? = some '\n' ∧
        ((fresh.enclosed outer).onto earlier).feed t = (fresh.enclosed outer).onto later := by
  obtain ⟨passes, own, start, feed⟩ := reads
  refine ⟨(passes_onto newline t).mpr passes, own ++ earlier, ?_, ?_⟩
  · rcases start with rfl | start
    · exact newline
    · rw [List.head?_append, start, Option.some_or]
  · rw [feed_onto newline, feed, onto_onto]

theorem append (first : ReadsInside outer t) (second : ReadsInside outer u) :
    ReadsInside outer (t ++ u) := by
  obtain ⟨passes, earlier, start, feed⟩ := first
  rw [ReadsInside, passes_append, feed_append, feed]
  rcases start with rfl | newline
  · rw [onto_nil]
    exact ⟨⟨passes, second.1⟩, second.2⟩
  · obtain ⟨onward, later, newlineLater, feedLater⟩ := second.onto newline
    exact ⟨⟨passes, onward⟩, later, Or.inr newlineLater, feedLater⟩

end ReadsInside

end Scanner

/-! ### Complete statements -/

open Scanner (ReadsInside)

/-- A unit without mismatch is read inside of brackets. -/
theorem CompletedBy.readsInside {init : List Text} {last : Text} {outer : List Char}
    (completed : CompletedBy init last) (some : outer ≠ [])
    (clean : (Scanner.fresh.feed (Text.terminated (init ++ [last]))).mismatched = false) :
    ReadsInside outer (Text.terminated (init ++ [last])) := by
  obtain ⟨passes, ends⟩ := completed
  rw [Text.terminated_concat] at clean ⊢
  rw [Scanner.feed_append] at clean
  have cleanBefore := Scanner.clean_of_feed clean
  have delimited := Scanner.delimited_fresh.feed (Text.terminated init ++ last)
  obtain ⟨onward, alike⟩ := Scanner.feed_enclosed some passes cleanBefore
  rw [ReadsInside, Scanner.passes_append, Scanner.feed_append _ (Text.terminated init ++ last),
    alike]
  exact ⟨⟨onward, Scanner.ends_enclosed some cleanBefore _, trivial⟩, _, Or.inr rfl,
    Scanner.next_enclosed_of_ends some delimited cleanBefore ends⟩

/-- Lines that leave nothing pending are read inside of brackets, if no unit among them
has a mismatch. -/
theorem readsInside_of_closed {lines : List Text} {outer : List Char}
    (newlineFree : Text.NewlineFree lines) (some : outer ≠ []) (k : Nat)
    (closed : (Split.ofLines k lines).pending = none)
    (clean : ∀ unit ∈ (cut (Text.terminated lines)).units,
      (Scanner.fresh.feed unit).mismatched = false) :
    ReadsInside outer (Text.terminated lines) := by
  induction lines, newlineFree using unitInduction generalizing k with
  | rest lines newlineFree passes =>
    obtain rfl := Split.eq_nil_of_pending newlineFree passes closed
    exact Scanner.readsInside_nil outer
  | unit init last later _ _ newlineFree completed ih =>
    have parts : init ++ last :: later = init ++ [last] ++ later := by simp
    rw [Split.ofLines_of_completedBy newlineFree completed] at closed
    rw [completed.cut_eq, List.forall_mem_cons, Scanner.feed_withoutReturns] at clean
    rw [parts, Text.terminated_append]
    exact (completed.readsInside some clean.1).append (ih _ closed clean.2)

/-! ### The brackets -/

/-- A script on lines of its own between two brackets. -/
def Text.bracketed (o c : Char) (t : Text) : Text := o :: '\n' :: (t ++ [c])

namespace Scanner

/-- An opening bracket and a newline lead to the start of a line inside of the bracket. -/
theorem feed_openBracket {o : Char} (isOpen : Lexis.isOpenBracket o = true) :
    fresh.Passes [o, '\n'] ∧ fresh.feed [o, '\n'] = (fresh.enclosed [o]).onto ['\n', o] := by
  obtain rfl | rfl | rfl : o = '(' ∨ o = '{' ∨ o = '[' := by
    simpa [Lexis.isOpenBracket, Lexis.openBrackets] using isOpen
  all_goals exact ⟨⟨rfl, rfl, trivial⟩, rfl⟩

/-- The closing bracket of the pair leads out of the bracket. -/
theorem next_closer {o c : Char} (pair : Lexis.openerFor c = some o) (earlier : List Char) :
    ((fresh.enclosed [o]).onto earlier).next c = ⟨.code false, [], false, c :: earlier⟩ := by
  have close := Lexis.isCloseBracket_of_openerFor pair
  obtain ⟨-, notReturn, -⟩ := Lexis.closeBracket_spec close
  rw [next, if_neg notReturn, read_closeBracket rfl close]
  simp [closeBracket, pair, record, enclosed, onto, fresh]

end Scanner

/-- **Complete statements between two brackets are one statement.**  A script of whole
lines that leaves nothing pending and has no mismatch in any of its units is put between an
opening bracket and the closing one of its kind, each on a line of its own.  No unit ends
before the last newline, one ends there, and no bracket is open or mismatched then. -/
theorem scan_bracketed {o c : Char} (pair : Lexis.openerFor c = some o) {t : Text}
    (finished : t.Finished) (closed : (Split.ofText t).pending = none)
    (clean : ∀ unit ∈ (cut t).units, (Scanner.fresh.feed unit).mismatched = false) :
    scan (t.bracketed o c ++ ['\n']) =
        .complete (Text.withoutReturns (t.bracketed o c ++ ['\n'])).byteLength ∧
      Scanner.fresh.Passes (t.bracketed o c) ∧
      (Scanner.fresh.feed (t.bracketed o c ++ ['\n'])).depth = 0 ∧
      (Scanner.fresh.feed (t.bracketed o c ++ ['\n'])).mismatched = false := by
  -- The splitter reads the lines of the script, which differ from it in carriage returns only.
  have sameCut : cut (Text.terminated t.lines) = cut t := by
    rw [cut, cut, ← Scanner.cut_withoutReturns, finished.withoutReturns_terminated_lines,
      Scanner.cut_withoutReturns]
  have reads : ReadsInside [o] t := by
    rw [← sameCut] at clean
    have ofLines : ReadsInside [o] (Text.terminated t.lines) :=
      readsInside_of_closed (Text.newlineFree_lines t) (by simp) 1 closed clean
    rwa [← Scanner.readsInside_withoutReturns, finished.withoutReturns_terminated_lines,
      Scanner.readsInside_withoutReturns] at ofLines
  have spelled : t.bracketed o c = [o, '\n'] ++ t ++ [c] := by simp [Text.bracketed]
  have close := Lexis.isCloseBracket_of_openerFor pair
  obtain ⟨-, -, notNewline, -⟩ := Lexis.closeBracket_spec close
  obtain ⟨opening, opened⟩ := Scanner.feed_openBracket (Lexis.isOpenBracket_of_openerFor pair)
  obtain ⟨inside, later, -, arrives⟩ := reads.onto (show ['\n', o].head? = some '\n' from rfl)
  rw [← opened] at inside arrives
  have passes : Scanner.fresh.Passes (t.bracketed o c) := by
    rw [spelled, Scanner.passes_append, Scanner.passes_append]
    exact ⟨⟨opening, inside⟩, Scanner.ends_of_ne_newline _ notNewline, trivial⟩
  have closes : Scanner.fresh.feed (t.bracketed o c) = ⟨.code false, [], false, c :: later⟩ := by
    rw [spelled, Scanner.feed_append, Scanner.feed_append, arrives, Scanner.feed_cons,
      Scanner.next_closer pair]
    rfl
  have ends : (Scanner.fresh.feed (t.bracketed o c)).ends '\n' = true := by
    rw [closes]
    rfl
  refine ⟨?_, passes, ?_, ?_⟩
  · rw [scan, Scanner.verdict_of_ends passes ends [], Scanner.consumed_feed]
    rfl
  · rw [Scanner.feed_append, closes]
    rfl
  · rw [Scanner.feed_append, closes]
    rfl

/-- A list over two lines with a bracket in a string, and a block comment with one. -/
theorem scan_bracketed_list_and_comment :
    let t : Text := "(x;\r\n\")\")\n/ (\n\\\n".toList
    Lexis.openerFor ']' = some '[' ∧ t.Finished ∧ (Split.ofText t).pending = none ∧
      (∀ unit ∈ (cut t).units, (Scanner.fresh.feed unit).mismatched = false) ∧
      (scan (t.bracketed '[' ']' ++ ['\n']) =
          .complete (Text.withoutReturns (t.bracketed '[' ']' ++ ['\n'])).byteLength ∧
        Scanner.fresh.Passes (t.bracketed '[' ']') ∧
        (Scanner.fresh.feed (t.bracketed '[' ']' ++ ['\n'])).depth = 0 ∧
        (Scanner.fresh.feed (t.bracketed '[' ']' ++ ['\n'])).mismatched = false) := by
  intro t
  have pair : Lexis.openerFor ']' = some '[' := by decide
  have finished : t.Finished := Or.inr (by decide)
  have closed : (Split.ofText t).pending = none := by decide
  have clean : ∀ unit ∈ (cut t).units, (Scanner.fresh.feed unit).mismatched = false := by decide
  exact ⟨pair, finished, closed, clean, scan_bracketed pair finished closed clean⟩

end StatementShell
