import StatementShell.Inspection
import StatementShell.Proofs.Concatenation
import StatementShell.Proofs.SplitAgreement

/-!
# Line endings

How the lines of a text end makes no difference to what is found in it.  Three readers
leave out carriage returns, each in its own way.  The scanner reads none at all.  An
inspection takes one from the end of each line, and a script one from the end of each
terminated line.  For a text whose lines end with a newline, it is the same to all of
them when they end with a carriage return and a newline instead.

The splitter is fed the lines of a script and leaves out what returns are left in them.
It therefore agrees with itself on the text without returns, up to one line: returns
after the last newline are a line of a script, and without them there is none.  That
line is empty to the scanner.  No unit ends with it, since the newline before it ended
none, and nothing of it is kept when what is pending is trimmed.

## Main Definitions

* `Text.withReturns`: the same text with a carriage return before every newline.

## Main Results

* `Text.lines_withoutReturns`: the lines of a script and of the same without returns.
* `Split.ofLines_concat_nil`: an empty last line changes nothing in a split.
* `Text.lines_withReturns`, `Inspection.linesOf_withReturns`: both readers by lines
  see the same lines.
* `line_endings_do_not_count`: all of it for a text.
-/

namespace StatementShell

namespace Text

/-! ### Leaving out carriage returns -/

/-- Without its carriage returns a script has the same lines, except that a last line
of nothing but returns is gone. -/
theorem lines_withoutReturns (t : Text) :
    t.lines.map withoutReturns = (withoutReturns t).lines ∨
      t.lines.map withoutReturns = (withoutReturns t).lines ++ [[]] := by
  induction t using lineInduction with
  | last line oneLine =>
    have oneLineLeft : '\n' ∉ withoutReturns line := fun member =>
      oneLine (List.mem_filter.mp member).1
    rw [lines, lines, bufferLines_of_not_mem oneLine, bufferLines_of_not_mem oneLineLeft,
      closeLines, closeLines]
    by_cases empty : line = []
    · subst empty
      exact Or.inl rfl
    · rw [if_neg empty]
      by_cases onlyReturns : withoutReturns line = []
      · right
        simp [onlyReturns]
      · left
        rw [if_neg onlyReturns]
        rfl
  | more line rest oneLine ih =>
    have oneLineLeft : '\n' ∉ withoutReturns line := fun member =>
      oneLine (List.mem_filter.mp member).1
    have noReturnLeft : '\r' ∉ withoutReturns line := by simp [withoutReturns]
    rw [withoutReturns_append, withoutReturns_cons (by decide), lines_append_newline,
      lines_append_newline, bufferLines_of_not_mem oneLine, bufferLines_of_not_mem oneLineLeft]
    simp only [List.map_cons, List.map_nil, List.cons_append, withoutReturns_dropFinalReturn,
      dropFinalReturn_of_not_mem noReturnLeft, List.cons.injEq, true_and]
    exact ih

end Text

/-! ### An empty last line -/

namespace Split

/-- A newline more at the end of a unit changes nothing about its statement. -/
theorem statement?_concat_newline (k : Nat) (unit : Text) :
    statement? k (unit ++ ['\n']) = statement? k unit := by
  have isBlank : Text.isBlank (unit ++ ['\n']) = unit.isBlank := by
    unfold Text.isBlank
    rw [List.all_append]
    simp
  rw [statement?, statement?, isBlank, Text.trimEndNewlines_concat]

/-- Where no unit ends in some lines, none ends with an empty line after them: what kept
the last newline from ending it keeps the next one from it too. -/
theorem passes_concat_nil {init : List Text} {last : Text}
    (passes : Scanner.fresh.Passes (Text.terminated (init ++ [last]))) :
    Scanner.fresh.Passes (Text.terminated (init ++ [last] ++ [[]])) := by
  have whole := passes
  rw [Text.terminated_concat, Scanner.passes_append] at passes
  have goesOn := passes.2.1
  have delimited := Scanner.delimited_fresh.feed (Text.terminated init ++ last)
  rw [Text.terminated_concat, List.append_nil, Scanner.passes_append]
  refine ⟨whole, ?_, trivial⟩
  rw [Text.terminated_concat, Scanner.feed_append]
  exact Scanner.ends_newline_next delimited goesOn Text.isWhiteSpace_newline

/-- An empty last line changes nothing in a split. -/
theorem ofLines_concat_nil {lines : List Text} (newlineFree : Text.NewlineFree lines) (k : Nat) :
    ofLines k (lines ++ [[]]) = ofLines k lines := by
  induction lines, newlineFree using unitInduction generalizing k with
  | rest lines _ passes =>
    cases lines using List.reverseRecOn with
    | nil =>
      show ofLines k [[]] = ofLines (k + 1) []
      exact ofLines_blank (by simp) rfl
    | append_singleton init last =>
      rw [ofLines_of_passes passes, ofLines_of_passes (passes_concat_nil passes),
        Text.terminated_concat (init ++ [last]), List.append_nil, Text.withoutReturns_append]
      exact congrArg _ (statement?_concat_newline k _)
  | unit init last later _ _ newlineFree completed ih =>
    rw [List.append_assoc, List.cons_append, ofLines_of_completedBy newlineFree completed,
      ofLines_of_completedBy newlineFree completed, ih]

/-- Carriage returns do not count in the split of a script. -/
theorem ofText_withoutReturns (t : Text) : ofText (Text.withoutReturns t) = ofText t := by
  have newlineFree := Text.newlineFree_lines (Text.withoutReturns t)
  rw [ofText_eq, ofText_eq, ← ofLines_withoutReturns 1 t.lines]
  rcases Text.lines_withoutReturns t with same | oneMore
  · rw [same]
  · rw [oneMore, ofLines_concat_nil newlineFree]

end Split

/-! ### Putting carriage returns in -/

namespace Text

/-- The same text with a carriage return before every newline. -/
def withReturns (t : Text) : Text := t.flatMap fun c => if c = '\n' then ['\r', '\n'] else [c]

theorem withReturns_append (t u : Text) :
    withReturns (t ++ u) = withReturns t ++ withReturns u := List.flatMap_append

theorem withReturns_of_not_mem {line : Text} (oneLine : '\n' ∉ line) : withReturns line = line := by
  induction line with
  | nil => rfl
  | cons c line ih =>
    obtain ⟨other, oneLine⟩ := List.ne_and_not_mem_of_not_mem_cons oneLine
    rw [withReturns, List.flatMap_cons, if_neg other.symm, ← withReturns, ih oneLine,
      List.singleton_append]

/-- A line is ended by both characters. -/
theorem withReturns_line {line : Text} (oneLine : '\n' ∉ line) (rest : Text) :
    withReturns (line ++ '\n' :: rest) = line ++ ['\r'] ++ '\n' :: withReturns rest := by
  rw [withReturns_append, withReturns_of_not_mem oneLine, List.append_assoc]
  rfl

/-- The lines of a script are the same whichever way they are ended. -/
theorem lines_withReturns {t : Text} (noReturn : '\r' ∉ t) : lines (withReturns t) = lines t := by
  induction t using lineInduction with
  | last line oneLine => rw [withReturns_of_not_mem oneLine]
  | more line rest oneLine ih =>
    rw [List.mem_append, List.mem_cons, not_or, not_or] at noReturn
    have oneLineLonger : '\n' ∉ line ++ ['\r'] := by simpa using oneLine
    rw [withReturns_line oneLine, lines_append_newline, lines_append_newline,
      bufferLines_of_not_mem oneLine, bufferLines_of_not_mem oneLineLonger, ih noReturn.2.2,
      List.map_singleton, List.map_singleton, dropFinalReturn_concat,
      dropFinalReturn_of_not_mem noReturn.1]

/-- The lines of a buffer are the same whichever way they are ended, once the returns are
taken off; the last line may end with a return of its own. -/
theorem bufferLines_withReturns {t : Text} (noReturn : '\r' ∉ t) {tail : Text}
    (atEnd : tail = [] ∨ tail = ['\r']) :
    (bufferLines (withReturns t ++ tail)).map dropFinalReturn = bufferLines t := by
  induction t using lineInduction with
  | last line oneLine =>
    rw [withReturns_of_not_mem oneLine]
    rcases atEnd with rfl | rfl
    · rw [List.append_nil, bufferLines_of_not_mem oneLine, List.map_singleton,
        dropFinalReturn_of_not_mem noReturn]
    · have oneLineLonger : '\n' ∉ line ++ ['\r'] := by simpa using oneLine
      rw [bufferLines_of_not_mem oneLineLonger, bufferLines_of_not_mem oneLine,
        List.map_singleton, dropFinalReturn_concat]
  | more line rest oneLine ih =>
    rw [List.mem_append, List.mem_cons, not_or, not_or] at noReturn
    have oneLineLonger : '\n' ∉ line ++ ['\r'] := by simpa using oneLine
    rw [withReturns_line oneLine, List.append_assoc, List.cons_append,
      bufferLines_append_newline oneLineLonger, bufferLines_append_newline oneLine, List.map_cons,
      ih noReturn.2.2, dropFinalReturn_concat]

/-- Lines without returns have none to lose. -/
theorem map_dropFinalReturn_bufferLines {t : Text} (noReturn : '\r' ∉ t) :
    (bufferLines t).map dropFinalReturn = bufferLines t := by
  induction t using lineInduction with
  | last line oneLine =>
    rw [bufferLines_of_not_mem oneLine, List.map_singleton, dropFinalReturn_of_not_mem noReturn]
  | more line rest oneLine ih =>
    rw [List.mem_append, List.mem_cons, not_or, not_or] at noReturn
    rw [bufferLines_append_newline oneLine, List.map_cons, ih noReturn.2.2,
      dropFinalReturn_of_not_mem noReturn.1]

end Text

/-- The lines that an inspection sees are the same whichever way they are ended. -/
theorem Inspection.linesOf_withReturns {t : Text} (noReturn : '\r' ∉ t) :
    linesOf (Text.withReturns t) = linesOf t := by
  cases t using List.reverseRecOn with
  | nil => rfl
  | append_singleton front c =>
    have noReturnFront : '\r' ∉ front := fun member => noReturn (List.mem_append_left _ member)
    rw [linesOf, linesOf, dropFinalNewline, dropFinalNewline, Text.withReturns_append]
    by_cases newline : c = '\n'
    · -- The newline goes, and the return before it stays behind on the last line.
      subst newline
      have written : Text.withReturns ['\n'] = ['\r'] ++ ['\n'] := rfl
      rw [written, ← List.append_assoc, if_pos List.getLast?_concat, if_pos List.getLast?_concat,
        List.dropLast_concat, List.dropLast_concat,
        Text.bufferLines_withReturns noReturnFront (Or.inr rfl),
        Text.map_dropFinalReturn_bufferLines noReturnFront]
    · have written : Text.withReturns [c] = [c] :=
        Text.withReturns_of_not_mem (by simpa using Ne.symm newline)
      have other : ∀ u : Text, ¬ (u ++ [c]).getLast? = some '\n' := by
        intro u
        rw [List.getLast?_concat]
        exact fun same => newline (Option.some.inj same)
      have whole := Text.bufferLines_withReturns noReturn (Or.inl rfl)
      rw [List.append_nil, Text.withReturns_append, written] at whole
      rw [written, if_neg (other _), if_neg (other _), whole,
        Text.map_dropFinalReturn_bufferLines noReturn]

/-- **Line endings do not count.**  The verdict on a text and its split are those of the
text without carriage returns.  A text without any may have its lines ended by a return
and a newline instead: an inspection says the same, and so does a run, which makes the
same calls. -/
theorem line_endings_do_not_count (t : Text) :
    scan t = scan (Text.withoutReturns t) ∧
      Split.ofText t = Split.ofText (Text.withoutReturns t) ∧
      ('\r' ∉ t →
        (∀ mode cursor,
          Inspection.ofText mode (Text.withReturns t) cursor = Inspection.ofText mode t cursor) ∧
        ∀ {σ : Type} (E : Evaluator σ) (r : Runner σ),
          r.run E (Text.withReturns t) = r.run E t ∧
            r.calls E (Text.withReturns t) = r.calls E t) := by
  refine ⟨(Scanner.fresh.verdict_withoutReturns t).symm, (Split.ofText_withoutReturns t).symm, ?_⟩
  intro noReturn
  constructor
  · intro mode cursor
    rw [Inspection.ofText, Inspection.linesOf_withReturns noReturn]
    rfl
  · intro σ E r
    have run {τ : Type} (F : Evaluator τ) (q : Runner τ) :
        q.run F (Text.withReturns t) = q.run F t := by
      rw [Runner.run, Text.lines_withReturns noReturn]
      rfl
    refine ⟨run E r, ?_⟩
    rw [Runner.calls, run, Runner.calls]

/-- A bracket left open over two lines, with an empty line at the end. -/
theorem line_endings_of_open_bracket :
    '\r' ∉ "(1\n2\n\n".toList ∧
      Text.withReturns "(1\n2\n\n".toList = "(1\r\n2\r\n\r\n".toList ∧
      scan "(1\r\n2\r\n\r\n".toList = .needMoreInput ∧
      Split.ofText "(1\r\n2\r\n\r\n".toList = ⟨[], some ⟨1, "(1\n2".toList⟩⟩ ∧
      Inspection.ofText .array "(1\r\n2\r\n\r\n".toList none = ⟨.array, false, 3, 2⟩ ∧
      ((Runner.mk .array Transcript.empty).run transcript "(1\r\n2\r\n\r\n".toList).2 =
        .error (.script (.incomplete 1 Mode.array.name)) := by
  have noReturn : '\r' ∉ "(1\n2\n\n".toList := by decide
  have returned : Text.withReturns "(1\n2\n\n".toList = "(1\r\n2\r\n\r\n".toList := by decide
  have verdicts := line_endings_do_not_count "(1\r\n2\r\n\r\n".toList
  obtain ⟨inspected, ran⟩ := (line_endings_do_not_count "(1\n2\n\n".toList).2.2 noReturn
  refine ⟨noReturn, returned, verdicts.1, verdicts.2.1, ?_, ?_⟩
  · rw [← returned]
    exact inspected .array none
  · rw [← returned, (ran transcript ⟨.array, .empty⟩).1]
    rfl

end StatementShell
