import StatementShell.Proofs.LineBoundaries
import StatementShell.Proofs.Shortest

/-!
# Lines as a stream

The scanner does not see lines.  It draws characters, one at a time, from a source
that walks the lines of the editor and the characters of the line it has begun, and
that puts a newline where a line is used up.  What the source gives is a buffer with
one newline more, so that the scanner sees what the editor shows; and since a unit
ends at a newline only, the place where a verdict stops is the end of a line.  The
lines after that place are never drawn.

## Main Definitions

* `LineSource`: the lines not begun, and what is left of the one that is.
* `LineSource.next`: the next character of a source.
* `LineSource.Yields`: everything that a source gives until it ends.
* `Scanner.verdictOn`: the verdict of a scanner that draws from a source.

## Main Results

* `LineSource.yields_iff`: what a source gives.
* `Scanner.verdictOn_eq`: drawing from a source is reading what it gives.
* `scanLines_append`: a verdict stands, whatever lines follow.
* `Shortest.scanLines_eq`: the verdict on a shortest complete run.
* `shown_lines_are_scanned`: editor, source and scanner agree about lines.
-/

namespace StatementShell

/-! ### The source -/

/-- Where the reading of lines stands. -/
structure LineSource where
  /-- The lines that are not begun. -/
  lines : List Text
  /-- What is left of the line that is begun. -/
  current : Option Text
  deriving DecidableEq, Repr

namespace LineSource

/-- The source of some lines, none of them begun. -/
def ofLines (lines : List Text) : LineSource := ⟨lines, none⟩

/-- The next character, with the source after it.  Where no line is begun, one is. -/
def draw : List Text → Option Text → Option (Char × LineSource)
  | lines, some (c :: rest) => some (c, ⟨lines, some rest⟩)
  | lines, some [] => some ('\n', ⟨lines, none⟩)
  | [], none => none
  | line :: lines, none => draw lines (some line)

/-- The next character of a source, with the source after it. -/
def next (s : LineSource) : Option (Char × LineSource) := draw s.lines s.current

/-- Everything that a source gives, up to where it has nothing more to give. -/
inductive Yields : LineSource → Text → Prop where
  | nil {s : LineSource} (ended : s.next = none) : Yields s []
  | cons {s later : LineSource} {c : Char} {t : Text} (given : s.next = some (c, later))
      (rest : Yields later t) : Yields s (c :: t)

/-- What a source has left to give. -/
def remaining (s : LineSource) : Text :=
  (match s.current with
    | some rest => rest ++ ['\n']
    | none => []) ++ Text.terminated s.lines

@[simp] theorem remaining_ofLines (lines : List Text) :
    (ofLines lines).remaining = Text.terminated lines := rfl

variable {s later : LineSource} {c : Char} {t : Text}

/-- A line that is begun is given to its end, and then its newline, whatever lines follow. -/
theorem draw_begun (lines : List Text) (line : Text) :
    draw lines (some line) =
      match line with
      | c :: rest => some (c, ⟨lines, some rest⟩)
      | [] => some ('\n', ⟨lines, none⟩) := by
  cases line <;> cases lines <;> rfl

/-- A source ends when nothing is left. -/
theorem remaining_of_ended (ended : s.next = none) : s.remaining = [] := by
  have notInLine (lines : List Text) (line : Text) : draw lines (some line) ≠ none := by
    rw [draw_begun]
    cases line <;> exact Option.some_ne_none _
  obtain ⟨lines, current⟩ := s
  cases current with
  | some line => exact absurd ended (notInLine lines line)
  | none =>
    cases lines with
    | nil => rfl
    | cons line lines => exact absurd ended (notInLine lines line)

/-- The character that is given is the first of those left. -/
theorem remaining_of_given (given : s.next = some (c, later)) :
    s.remaining = c :: later.remaining := by
  have inLine {lines : List Text} {line : Text}
      (given : draw lines (some line) = some (c, later)) :
      line ++ '\n' :: Text.terminated lines = c :: later.remaining := by
    rw [draw_begun] at given
    cases line with
    | nil =>
      cases given
      rfl
    | cons c line =>
      cases given
      simp [remaining]
  obtain ⟨lines, current⟩ := s
  cases current with
  | some line => simpa [remaining] using inLine given
  | none =>
    cases lines with
    | nil => cases given
    | cons line lines => simpa [remaining] using inLine given

/-- A source gives what it has left, and nothing else. -/
theorem yields_iff : s.Yields t ↔ t = s.remaining := by
  constructor
  · intro yields
    induction yields with
    | nil ended => exact (remaining_of_ended ended).symm
    | cons given _ ih => rw [remaining_of_given given, ih]
  · rintro rfl
    induction left : s.remaining generalizing s with
    | nil =>
      cases given : s.next with
      | none => exact .nil given
      | some drawn =>
        rw [remaining_of_given given] at left
        cases left
    | cons c t ih =>
      cases given : s.next with
      | none =>
        rw [remaining_of_ended given] at left
        cases left
      | some drawn =>
        obtain ⟨d, later⟩ := drawn
        rw [remaining_of_given given] at left
        cases left
        exact .cons given (ih rfl)

end LineSource

/-! ### Drawing from the source -/

/-- The verdict of a scanner that draws from a source up to the first boundary. -/
def Scanner.verdictOn (s : Scanner) (source : LineSource) : Verdict :=
  match _drawn : source.next with
  | none => .needMoreInput
  | some (c, later) =>
    if s.ends c then .complete (s.next c).consumed.byteLength
    else (s.next c).verdictOn later
termination_by source.remaining.length
decreasing_by
  rw [LineSource.remaining_of_given _drawn]
  exact Nat.lt_succ_self _

/-- Drawing from a source is reading what it gives. -/
theorem Scanner.verdictOn_eq {s : Scanner} {source : LineSource} {t : Text}
    (yields : source.Yields t) : s.verdictOn source = s.verdict t := by
  induction yields generalizing s with
  | nil ended =>
    rw [verdictOn]
    split
    · rfl
    · case _ given => rw [ended] at given; cases given
  | cons given _ ih =>
    rw [verdictOn, verdict]
    split
    · case _ ended => rw [ended] at given; cases given
    · case _ given' =>
      rw [given] at given'
      cases given'
      rw [ih]

/-! ### Where a verdict stops -/

variable {lines front : List Text} {n : Nat}

/-- A verdict stands, whatever lines follow. -/
theorem scanLines_append (complete : scanLines lines = .complete n) (later : List Text) :
    scanLines (lines ++ later) = .complete n := by
  obtain ⟨u, rest, split, passes, ends, rfl⟩ := Scanner.verdict_eq_complete_iff.mp complete
  rw [scanLines, scan, Text.terminated_append, split, List.append_assoc, List.cons_append]
  exact Scanner.verdict_of_ends passes ends _

/-- Lines on which the scanner has reached a verdict. -/
def CompleteLines (lines : List Text) : Prop := (scanLines lines).isComplete = true

/-- A shortest complete run is a unit, so its verdict counts all of it. -/
theorem Shortest.scanLines_eq (shortest : Shortest CompleteLines front)
    (newlineFree : Text.NewlineFree front) :
    scanLines front = .complete (Text.withoutReturns (Text.terminated front)).byteLength := by
  obtain ⟨init, last, tail, split, completed⟩ :=
    (scanLines_isComplete_iff newlineFree).mp shortest.1
  -- The unit at the front is complete itself, so nothing comes after it.
  have whole : init ++ [last] = front :=
    shortest.2 _ ⟨tail, by rw [split]; simp⟩ (completed.isComplete [])
  rw [← whole]
  exact completed.scanLines_eq []

/-- The verdict on lines is that on the shortest complete run at their front. -/
theorem scanLines_eq_complete_iff (newlineFree : Text.NewlineFree lines) :
    scanLines lines = .complete n ↔
      ∃ front, front <+: lines ∧ Shortest CompleteLines front ∧
        n = (Text.withoutReturns (Text.terminated front)).byteLength := by
  have counted {front : List Text} (within : front <+: lines)
      (shortest : Shortest CompleteLines front) :
      scanLines lines =
        .complete (Text.withoutReturns (Text.terminated front)).byteLength := by
    obtain ⟨later, rfl⟩ := within
    rw [Text.newlineFree_append] at newlineFree
    exact scanLines_append (shortest.scanLines_eq newlineFree.1) later
  constructor
  · intro complete
    have isComplete : CompleteLines lines := by
      rw [CompleteLines, complete]
      rfl
    obtain ⟨front, within, shortest⟩ := exists_shortest isComplete
    have same := complete.symm.trans (counted within shortest)
    exact ⟨front, within, shortest, Verdict.complete.inj same⟩
  · rintro ⟨front, within, shortest, rfl⟩
    exact counted within shortest

/-! ### Editor, source and scanner -/

/-- A buffer has one more line than newlines. -/
theorem Text.length_bufferLines (t : Text) : t.bufferLines.length = t.count '\n' + 1 := by
  have newlines := count_newline_join (bufferLines_ne_nil t) (newlineFree_bufferLines t)
  rw [join_bufferLines] at newlines
  have some := List.length_pos_iff.mpr (bufferLines_ne_nil t)
  omega

/-- **The scanner sees what the editor shows.**  A buffer and its lines determine each
other, and a source of lines gives them with their newlines and then ends, so that a
source of the lines of a buffer gives the buffer with one more newline.  The scanner
that draws from the source reaches its verdict at the end of the shortest complete run
of lines, and keeps it whatever lines follow. -/
theorem shown_lines_are_scanned (b : Text) (lines : List Text) :
    (Text.join b.bufferLines = b ∧ b.bufferLines.length = b.count '\n' + 1) ∧
      (lines ≠ [] → Text.NewlineFree lines → (Text.join lines).bufferLines = lines) ∧
      (∀ t, (LineSource.ofLines lines).Yields t ↔ t = lines.flatMap (· ++ ['\n'])) ∧
      (∀ t, (LineSource.ofLines b.bufferLines).Yields t ↔ t = b ++ ['\n']) ∧
      Scanner.fresh.verdictOn (LineSource.ofLines lines) = scanLines lines ∧
      (Text.NewlineFree lines → ∀ n, scanLines lines = .complete n ↔
        ∃ front, front <+: lines ∧ Shortest CompleteLines front ∧
          n = (Text.withoutReturns (front.flatMap (· ++ ['\n']))).byteLength) ∧
      ∀ n, scanLines lines = .complete n →
        ∀ later, scanLines (lines ++ later) = .complete n := by
  have given (shown : List Text) (t : Text) :
      (LineSource.ofLines shown).Yields t ↔ t = Text.terminated shown := by
    rw [LineSource.yields_iff, LineSource.remaining_ofLines]
  have shown : Text.terminated b.bufferLines = b ++ ['\n'] := by
    rw [Text.terminated_eq_join (Text.bufferLines_ne_nil b), Text.join_bufferLines]
  refine ⟨⟨Text.join_bufferLines b, b.length_bufferLines⟩, Text.bufferLines_join, given lines,
    ?_, ?_, ?_, fun n => scanLines_append⟩
  · rw [← shown]
    exact given b.bufferLines
  · exact Scanner.verdictOn_eq ((given lines _).mpr rfl)
  · intro newlineFree n
    exact scanLines_eq_complete_iff newlineFree

/-- A bracket over two lines with a carriage return is complete after seven bytes, and the
open string on the third line makes no difference. -/
theorem scanned_bracket_before_open_string :
    Text.NewlineFree ["(1;\r".toList, "2)".toList, "\"x".toList] ∧
      (Text.join ["(1;\r".toList, "2)".toList, "\"x".toList]).bufferLines =
        ["(1;\r".toList, "2)".toList, "\"x".toList] ∧
      scanLines ["(1;\r".toList, "2)".toList, "\"x".toList] = .complete 7 ∧
      ∃ front, front <+: ["(1;\r".toList, "2)".toList, "\"x".toList] ∧
        Shortest CompleteLines front ∧
        7 = (Text.withoutReturns (front.flatMap (· ++ ['\n']))).byteLength := by
  have newlineFree : Text.NewlineFree ["(1;\r".toList, "2)".toList, "\"x".toList] := by
    unfold Text.NewlineFree
    decide
  have complete : scanLines ["(1;\r".toList, "2)".toList, "\"x".toList] = .complete 7 := by
    decide
  obtain ⟨-, restored, -, -, -, verdict, -⟩ :=
    shown_lines_are_scanned [] ["(1;\r".toList, "2)".toList, "\"x".toList]
  exact ⟨newlineFree, restored (by decide) newlineFree, complete,
    (verdict newlineFree 7).mp complete⟩

end StatementShell
