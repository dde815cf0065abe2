import StatementShell.Text.WhiteSpace

/-!
# Texts and their lines

A text is a list of characters.  Two readings of a text as lines are used: an
*edit buffer* is cut at every newline, so that a final newline opens a fresh
empty last line, where the cursor then sits; a *script* is a sequence of
terminated lines, whose terminators are a newline or a carriage return with a
newline, and whose last line need not be terminated.

## Main Definitions

* `Text`: a list of characters.
* `Text.bufferLines`: the lines of an edit buffer; `Text.join` undoes it.
* `Text.lines`: the lines of a script.
* `Text.terminated`: lines written one after the other, each with its newline.
* `Text.isBlank`, `Text.trim`: white space.
* `Text.byteLength`: the length in UTF-8.
-/

namespace StatementShell

/-- A text is a list of characters. -/
abbrev Text := List Char

namespace Text

/-! ### Length and content -/

/-- The number of bytes of a text in UTF-8. -/
def byteLength (t : Text) : Nat := t.foldr (fun c bytes => c.utf8Size + bytes) 0

@[simp] theorem byteLength_nil : byteLength [] = 0 := rfl

@[simp] theorem byteLength_cons (c : Char) (t : Text) :
    byteLength (c :: t) = c.utf8Size + byteLength t := rfl

@[simp] theorem byteLength_append (t u : Text) :
    byteLength (t ++ u) = byteLength t + byteLength u := by
  induction t with
  | nil => simp
  | cons c t ih => simp [ih, Nat.add_assoc]

/-- A text without its carriage returns. -/
def withoutReturns (t : Text) : Text := t.filter (· ≠ '\r')

/-! ### White space -/

/-- A text is blank when it holds white space only. -/
def isBlank (t : Text) : Bool := t.all isWhiteSpace

/-- A text without the characters of a class at its end. -/
def dropEndWhile (p : Char → Bool) (t : Text) : Text :=
  (t.reverse.dropWhile p).reverse

/-- A text without the white space around it. -/
def trim (t : Text) : Text := dropEndWhile isWhiteSpace (t.dropWhile isWhiteSpace)

/-- A text without the newlines at its end. -/
def trimEndNewlines (t : Text) : Text := dropEndWhile (· == '\n') t

/-- The first run of characters that are not white space. -/
def firstWord (t : Text) : Text :=
  (t.dropWhile isWhiteSpace).takeWhile fun c => !isWhiteSpace c

/-- A text with its ASCII capitals in lower case. -/
def asciiLower (t : Text) : Text := t.map Char.toLower

/-! ### Edit buffers -/

/-- The lines of an edit buffer: the pieces between its newlines. -/
def bufferLines : Text → List Text
  | [] => [[]]
  | c :: rest =>
    if c = '\n' then [] :: bufferLines rest
    else
      match bufferLines rest with
      | [] => [[c]]
      | line :: lines => (c :: line) :: lines

/-- Lines put together with a newline between neighbours. -/
def join : List Text → Text
  | [] => []
  | [line] => line
  | line :: next :: lines => line ++ '\n' :: join (next :: lines)

/-- Lines written one after the other, each followed by a newline. -/
def terminated (lines : List Text) : Text := lines.flatMap (· ++ ['\n'])

theorem bufferLines_ne_nil (t : Text) : bufferLines t ≠ [] := by
  cases t with
  | nil => simp [bufferLines]
  | cons c rest =>
    rw [bufferLines]
    split
    · simp
    · split <;> simp

@[simp] theorem bufferLines_newline (t : Text) :
    bufferLines ('\n' :: t) = [] :: bufferLines t := by
  simp [bufferLines]

theorem join_cons_of_ne_nil (line : Text) {lines : List Text} (h : lines ≠ []) :
    join (line :: lines) = line ++ '\n' :: join lines := by
  cases lines with
  | nil => exact absurd rfl h
  | cons next lines => rfl

/-- Joining the lines of a buffer gives the buffer back. -/
theorem join_bufferLines (t : Text) : join (bufferLines t) = t := by
  induction t with
  | nil => rfl
  | cons c rest ih =>
    by_cases hc : c = '\n'
    · subst hc
      rw [bufferLines_newline, join_cons_of_ne_nil _ (bufferLines_ne_nil rest), ih]
      rfl
    · rw [bufferLines, if_neg hc]
      cases hl : bufferLines rest with
      | nil => exact absurd hl (bufferLines_ne_nil rest)
      | cons line lines =>
        rw [hl] at ih
        cases lines with
        | nil => simpa [join] using ih
        | cons next lines => simpa [join] using ih

@[simp] theorem terminated_nil : terminated [] = [] := rfl

@[simp] theorem terminated_cons (line : Text) (lines : List Text) :
    terminated (line :: lines) = line ++ '\n' :: terminated lines := by
  simp [terminated]

/-! ### Scripts -/

/-- A line without one carriage return at its end. -/
def dropFinalReturn (line : Text) : Text :=
  if line.getLast? = some '\r' then line.dropLast else line

/-- The lines of a script, given the pieces between its newlines: a terminated
line loses the carriage return before its newline, and an empty last piece is
no line. -/
def closeLines : List Text → List Text
  | [] => []
  | [last] => if last = [] then [] else [last]
  | line :: next :: rest => dropFinalReturn line :: closeLines (next :: rest)

/-- The lines of a script, without their terminators. -/
def lines (t : Text) : List Text := closeLines (bufferLines t)

end Text

end StatementShell
