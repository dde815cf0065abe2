import StatementShell.Proofs.Resumption

/-!
# The scanner in registers

The context of the scanner holds a flag or a delimiter only where it has a meaning.
A scanner can also be kept in plain registers, each of which is always there: the
kind of the context, the stack, the text, and a register for every flag and for the
delimiter.  Then each part of the reading has to see to it that the registers it
leaves behind are what the other parts expect.

Such a scanner is given here.  It does the same as the other one, and its registers
are those that the other one lays down: a flag is clear and no delimiter is stored
where the context has none.  One register has no such value.  That a comment was
opened at the start of its line is remembered after the comment, until the next one.

## Main Definitions

* `Registers`: the state of a scanner in registers.
* `Registers.next`: a character is read, and a boundary may be reported.
* `Scanner.registers`: the registers that a scanner lays down.

## Main Results

* `Scanner.next_registers`: one character is read alike.
* `Registers.feed_initial`, `Registers.observations_initial`: so is every text.
-/

namespace StatementShell

/-! ### The registers -/

/-- The state of a scanner in registers. -/
structure Registers where
  /-- What the scanner is inside of. -/
  kind : Context.Kind
  /-- The open brackets, innermost first. -/
  brackets : List Char
  /-- Whether a closing bracket has failed to match the innermost open one. -/
  mismatched : Bool
  /-- The text read so far. -/
  written : Text
  /-- Whether a comment may begin at the next character. -/
  commentStart : Bool
  /-- Whether the previous character was a newline. -/
  lineStart : Bool
  /-- Whether the last comment was opened at the start of its line. -/
  openedAtLineStart : Bool
  /-- Whether the current line of a block comment so far is the end mark alone. -/
  loneEndMark : Bool
  /-- The delimiter of a literal that has one. -/
  delimiter : Option Char
  /-- Whether the next character of a literal is escaped. -/
  escaped : Bool
  /-- Whether a delimiter of a raw literal was just read, which closes the literal
  unless it is doubled. -/
  closePending : Bool
  deriving DecidableEq, Repr

namespace Registers

/-- The registers at the start. -/
def initial : Registers where
  kind := .code
  brackets := []
  mismatched := false
  written := []
  commentStart := true
  lineStart := true
  openedAtLineStart := false
  loneEndMark := false
  delimiter := none
  escaped := false
  closePending := false

/-- Whether a newline read as code would end the unit. -/
def closed (r : Registers) : Bool := r.brackets.isEmpty || r.mismatched

/-- Records a character. -/
def write (r : Registers) (c : Char) : Registers :=
  { r with written := r.written ++ [c], lineStart := c == '\n' }

/-! ### Reading one character

Each part of the reading tells the registers and whether the unit ends. -/

/-- Leaves a comment at a newline. -/
def resume (r : Registers) : Registers × Bool :=
  if r.closed then ({ r with kind := .code }, true)
  else ({ r with kind := .code, commentStart := true }, false)

/-- Opens a literal with a delimiter. -/
def openQuoted (r : Registers) (c : Char) : QuoteKind → Registers
  | .escaped => { r with delimiter := some c, escaped := false, kind := .quoted }
  | .raw => { r with delimiter := some c, escaped := false, kind := .raw }

/-- Reads a closing bracket. -/
def closeBracket (r : Registers) (c : Char) : Registers :=
  if r.brackets.head? = Lexis.openerFor c then { r with brackets := r.brackets.tail }
  else { r with mismatched := true }

/-- Reads a character of code that opens no literal with a delimiter; the flag says
whether a comment may begin with it. -/
def readPlain (r : Registers) (commentMayBegin : Bool) (c : Char) : Registers × Bool :=
  if c = '\n' then
    if r.closed then (r, true) else ({ r with commentStart := true }, false)
  else if c = Lexis.stringQuote then ({ r with escaped := false, kind := .string }, false)
  else if c = Lexis.commentMark ∧ commentMayBegin then
    ({ r with openedAtLineStart := r.lineStart, kind := .lineComment }, false)
  else if Lexis.isOpenBracket c then
    ({ r with brackets := c :: r.brackets, commentStart := true }, false)
  else if Lexis.isCloseBracket c then (r.closeBracket c, false)
  else if Lexis.isGap c then ({ r with commentStart := true }, false)
  else (r, false)

/-- Reads a character of code.  No comment may begin after it unless it says so. -/
def readCode (r : Registers) (c : Char) : Registers × Bool :=
  let later := { r with commentStart := false }
  match Lexis.isDelimiter c, Lexis.introducerSuffix r.written with
  | true, some kind => (later.openQuoted c kind, false)
  | _, _ => later.readPlain r.commentStart c

/-- Reads a character on the line where a comment was opened. -/
def readLineComment (r : Registers) (c : Char) : Registers × Bool :=
  if c ≠ '\n' then (r, false)
  else if r.openedAtLineStart then ({ r with loneEndMark := false, kind := .blockComment }, false)
  else r.resume

/-- Reads a character of a block comment. -/
def readBlockComment (r : Registers) (c : Char) : Registers × Bool :=
  if c = '\n' then
    if r.loneEndMark then ({ r with loneEndMark := false }).resume else (r, false)
  else ({ r with loneEndMark := c = Lexis.blockCommentEnd ∧ r.lineStart }, false)

/-- Reads a character of a string literal. -/
def readString (r : Registers) (c : Char) : Registers :=
  if c = Lexis.escapeMark then { r with escaped := !r.escaped }
  else if c = Lexis.stringQuote ∧ !r.escaped then { r with kind := .code }
  else { r with escaped := false }

/-- Reads a character of an escaped literal. -/
def readQuoted (r : Registers) (c : Char) : Registers :=
  if c = Lexis.escapeMark then { r with escaped := !r.escaped }
  else if some c = r.delimiter ∧ !r.escaped then { r with kind := .code, delimiter := none }
  else { r with escaped := false }

/-- Reads a character of a raw literal. -/
def readRaw (r : Registers) (c : Char) : Registers :=
  if some c = r.delimiter then { r with closePending := true } else r

/-- Reads a character by what the scanner is inside of. -/
def read (r : Registers) (c : Char) : Registers × Bool :=
  match r.kind with
  | .code => r.readCode c
  | .lineComment => r.readLineComment c
  | .blockComment => r.readBlockComment c
  | .string => (r.readString c, false)
  | .quoted => (r.readQuoted c, false)
  | .raw => (r.readRaw c, false)

/-- Reads and records a character; where it ends a unit, the number of bytes read is
reported. -/
def readAndWrite (r : Registers) (c : Char) : Registers × Option Nat :=
  let after := (r.read c).1.write c
  (after, if (r.read c).2 then some after.written.byteLength else none)

/-- The registers after one more character, and what is reported.  A raw literal whose
delimiter was just read is either gone on with by another, or left. -/
def next (r : Registers) (c : Char) : Registers × Option Nat :=
  if c = '\r' then (r, none)
  else if r.closePending then
    if some c = r.delimiter then (({ r with closePending := false }).write c, none)
    else ({ r with closePending := false, kind := .code, delimiter := none }).readAndWrite c
  else r.readAndWrite c

/-- The registers after the characters of a text; they are fed on after a boundary. -/
def feed (r : Registers) (t : Text) : Registers := t.foldl (fun r c => (r.next c).1) r

/-- What the registers show after the next character. -/
def observe (r : Registers) (c : Char) : Observation :=
  ⟨(r.next c).1.kind, (r.next c).1.brackets.length, (r.next c).1.mismatched, (r.next c).2⟩

/-- What the registers show after each character of a text. -/
def observations (r : Registers) : Text → List Observation
  | [] => []
  | c :: rest => r.observe c :: (r.next c).1.observations rest

@[simp] theorem feed_nil (r : Registers) : r.feed [] = r := rfl

@[simp] theorem feed_cons (r : Registers) (c : Char) (t : Text) :
    r.feed (c :: t) = (r.next c).1.feed t := rfl

end Registers

/-! ### The registers of a scanner -/

namespace Context

/-- Whether a comment may begin next. -/
def commentMayBegin : Context → Bool
  | code flag => flag
  | _ => false

/-- Whether the line so far is the end mark of a block comment alone. -/
def loneEndMark : Context → Bool
  | blockComment flag => flag
  | _ => false

/-- Whether the next character is escaped. -/
def escaped : Context → Bool
  | string flag | quoted _ flag => flag
  | _ => false

/-- Whether a delimiter was just read that may close a raw literal. -/
def closePending : Context → Bool
  | raw _ flag => flag
  | _ => false

/-- Whether the comment was opened at the start of its line; outside of the first line
of a comment, what is remembered. -/
def openedAtLineStart (remembered : Bool) : Context → Bool
  | lineComment flag => flag
  | _ => remembered

end Context

namespace Scanner

/-- The registers that a scanner lays down, when it is remembered of the last comment
whether it was opened at the start of its line. -/
def registers (s : Scanner) (remembered : Bool) : Registers where
  kind := s.context.kind
  brackets := s.brackets
  mismatched := s.mismatched
  written := s.consumed
  commentStart := s.context.commentMayBegin
  lineStart := s.atLineStart
  openedAtLineStart := s.context.openedAtLineStart remembered
  loneEndMark := s.context.loneEndMark
  delimiter := s.context.delimiter?
  escaped := s.context.escaped
  closePending := s.context.closePending

theorem registers_fresh : fresh.registers false = Registers.initial := rfl

variable (s : Scanner) (remembered : Bool) (c : Char)

theorem write_registers :
    (s.registers remembered).write c = (s.record c).registers remembered := by
  simp [registers, Registers.write, record, consumed, atLineStart]

/-! ### One character is read alike -/

/-- A newline read as code, or at the end of a comment, ends the unit where it is closed, and
lets a comment begin where it is not. -/
theorem resume_registers :
    ((s.within (.code false)).registers remembered).resume =
      (s.resume.registers remembered, s.closed) := by
  have same : ((s.within (.code false)).registers remembered).closed = s.closed := rfl
  unfold Registers.resume resume
  rw [same]
  cases s.closed <;> rfl

theorem closeBracket_registers :
    ((s.within (.code false)).registers remembered).closeBracket c =
      (s.closeBracket c).registers remembered := by
  have same : ((s.within (.code false)).registers remembered).brackets = s.brackets := rfl
  unfold Registers.closeBracket closeBracket
  rw [same]
  split <;> rfl

theorem readPlain_registers (commentMayBegin : Bool) :
    ((s.within (.code false)).registers remembered).readPlain commentMayBegin c =
      ((s.readPlain commentMayBegin c).registers remembered, c == '\n' && s.closed) := by
  unfold Registers.readPlain readPlain
  by_cases newline : c = '\n'
  · rw [if_pos newline, if_pos newline, newline]
    exact s.resume_registers remembered
  · have goesOn : (c == '\n' && s.closed) = false := by simp [newline]
    rw [if_neg newline, if_neg newline, goesOn, closeBracket_registers]
    cases Lexis.isGap c with
    | false =>
      rw [if_neg Bool.false_ne_true]
      split_ifs <;> rfl
    | true =>
      rw [if_pos rfl]
      split_ifs <;> rfl

theorem readCode_registers (commentMayBegin : Bool) :
    ((s.within (.code commentMayBegin)).registers remembered).readCode c =
      ((s.readCode commentMayBegin c).registers remembered, c == '\n' && s.closed) := by
  have written : Lexis.introducerSuffix ((s.within (.code commentMayBegin)).registers
      remembered).written = Lexis.introducerAtEnd s.reversed := by
    simp [registers, consumed, Lexis.introducerSuffix]
  have plain := s.readPlain_registers remembered c commentMayBegin
  unfold Registers.readCode readCode
  rw [written]
  cases delimiter : Lexis.isDelimiter c with
  | false => exact plain
  | true =>
    have goesOn : (c == '\n' && s.closed) = false := by
      rw [Bool.and_eq_false_iff, beq_eq_false_iff_ne]
      exact Or.inl (Lexis.delimiter_spec delimiter).2.1
    cases introducer : Lexis.introducerAtEnd s.reversed with
    | none => exact plain
    | some kind =>
      rw [goesOn]
      cases kind <;> rfl

theorem readLineComment_registers (openedAtLineStart : Bool) :
    ((s.within (.lineComment openedAtLineStart)).registers remembered).readLineComment c =
      (((s.within (.lineComment openedAtLineStart)).readLineComment openedAtLineStart c).registers
        openedAtLineStart, c == '\n' && (!openedAtLineStart && s.closed)) := by
  unfold Registers.readLineComment readLineComment
  by_cases newline : c = '\n'
  · rw [if_neg (not_not_intro newline), if_pos newline, newline]
    cases openedAtLineStart with
    | false => exact s.resume_registers false
    | true => rfl
  · have goesOn : (c == '\n') = false := by simpa using newline
    rw [if_pos newline, if_neg newline, goesOn]
    rfl

theorem readBlockComment_registers (loneEndMark : Bool) :
    ((s.within (.blockComment loneEndMark)).registers remembered).readBlockComment c =
      (((s.within (.blockComment loneEndMark)).readBlockComment loneEndMark c).registers remembered,
        c == '\n' && (loneEndMark && s.closed)) := by
  unfold Registers.readBlockComment readBlockComment
  by_cases newline : c = '\n'
  · rw [if_pos newline, if_pos newline, newline]
    cases loneEndMark with
    | false => rfl
    | true => exact s.resume_registers remembered
  · have goesOn : (c == '\n') = false := by simpa using newline
    rw [if_neg newline, if_neg newline, goesOn]
    rfl

theorem readString_registers (escaped : Bool) :
    ((s.within (.string escaped)).registers remembered).readString c =
      ((s.within (.string escaped)).readString escaped c).registers remembered := by
  have stored : ((s.within (.string escaped)).registers remembered).escaped = escaped := rfl
  unfold Registers.readString readString
  rw [stored]
  cases escaped with
  | false =>
    simp only [Bool.not_false, and_true]
    split_ifs <;> rfl
  | true =>
    simp only [Bool.not_true, Bool.false_eq_true, and_false, if_false]
    split_ifs <;> rfl

theorem readQuoted_registers (d : Char) (escaped : Bool) :
    ((s.within (.quoted d escaped)).registers remembered).readQuoted c =
      ((s.within (.quoted d escaped)).readQuoted d escaped c).registers remembered := by
  have delimiter : ((s.within (.quoted d escaped)).registers remembered).delimiter = some d := rfl
  have stored : ((s.within (.quoted d escaped)).registers remembered).escaped = escaped := rfl
  unfold Registers.readQuoted readQuoted
  simp only [delimiter, Option.some.injEq, stored]
  cases escaped with
  | false =>
    simp only [Bool.not_false, and_true]
    split_ifs <;> rfl
  | true =>
    simp only [Bool.not_true, Bool.false_eq_true, and_false, if_false]
    split_ifs <;> rfl

theorem readRaw_registers (d : Char) :
    ((s.within (.raw d false)).registers remembered).readRaw c =
      ((s.within (.raw d false)).readRaw d false c).registers remembered := by
  have delimiter : ((s.within (.raw d false)).registers remembered).delimiter = some d := rfl
  unfold Registers.readRaw readRaw
  simp only [delimiter, Option.some.injEq, Bool.false_eq_true, if_false]
  split_ifs <;> rfl

/-- A character is read alike, unless it is the first after a delimiter that may close a raw
literal. -/
theorem read_registers (nonePending : s.context.closePending = false) :
    (s.registers remembered).read c =
      ((s.read c).registers (s.context.openedAtLineStart remembered), s.ends c) := by
  have endsUnit : s.ends c = (c == '\n' && (newlineSurfaces s.context && s.closed)) :=
    Bool.and_assoc ..
  have goesOn (hidden : newlineSurfaces s.context = false) : s.ends c = false := by
    rw [endsUnit, hidden, Bool.false_and, Bool.and_false]
  obtain ⟨context, brackets, mismatched, reversed⟩ := s
  cases context with
  | code commentMayBegin =>
    rw [endsUnit]
    exact readCode_registers ⟨.code commentMayBegin, brackets, mismatched, reversed⟩ remembered c _
  | lineComment openedAtLineStart =>
    rw [endsUnit]
    exact readLineComment_registers ⟨.lineComment openedAtLineStart, brackets, mismatched, reversed⟩
      remembered c _
  | blockComment loneEndMark =>
    rw [endsUnit]
    exact readBlockComment_registers ⟨.blockComment loneEndMark, brackets, mismatched, reversed⟩
      remembered c _
  | string escaped =>
    rw [goesOn rfl]
    exact congrArg (·, false)
      (readString_registers ⟨.string escaped, brackets, mismatched, reversed⟩ remembered c _)
  | quoted d escaped =>
    rw [goesOn rfl]
    exact congrArg (·, false)
      (readQuoted_registers ⟨.quoted d escaped, brackets, mismatched, reversed⟩ remembered c _ _)
  | raw d closePending =>
    obtain rfl : closePending = false := nonePending
    rw [goesOn rfl]
    exact congrArg (·, false)
      (readRaw_registers ⟨.raw d false, brackets, mismatched, reversed⟩ remembered c _)

/-- What is remembered of the last comment makes no difference on its first line. -/
theorem registers_openedAtLineStart :
    s.registers (s.context.openedAtLineStart remembered) = s.registers remembered := by
  unfold registers
  cases s.context <;> rfl

theorem readAndWrite_registers (nonePending : s.context.closePending = false) :
    (s.registers remembered).readAndWrite c =
      (((s.read c).record c).registers (s.context.openedAtLineStart remembered),
        if s.ends c then some ((s.read c).record c).consumed.byteLength else none) := by
  unfold Registers.readAndWrite
  rw [read_registers s remembered c nonePending]
  dsimp only
  rw [write_registers]
  rfl

/-- After a delimiter that may close a raw literal, the same delimiter goes on with it, and any
other character is read as code. -/
theorem next_registers_closePending {d : Char} (isDelimiter : Lexis.isDelimiter d = true)
    (notReturn : c ≠ '\r') :
    ((s.within (.raw d true)).registers remembered).next c =
      ((((s.within (.raw d true)).read c).record c).registers remembered,
        if (s.within (.raw d true)).ends c then
          some (((s.within (.raw d true)).read c).record c).consumed.byteLength
        else none) := by
  have pending : ((s.within (.raw d true)).registers remembered).closePending = true := rfl
  have delimiter : ((s.within (.raw d true)).registers remembered).delimiter = some d := rfl
  unfold Registers.next
  rw [if_neg notReturn, if_pos pending, delimiter]
  by_cases doubled : c = d
  · subst doubled
    have goesOn : (s.within (.raw c true)).ends c = false :=
      ends_of_ne_newline _ (Lexis.delimiter_spec isDelimiter).2.1
    have read : (s.within (.raw c true)).read c = s.within (.raw c false) := if_pos rfl
    rw [if_pos rfl, goesOn, read, ← write_registers]
    rfl
  · have different : ¬ some c = some d := mt Option.some.inj doubled
    have read : (s.within (.raw d true)).read c = (s.within (.code false)).read c :=
      if_neg doubled
    rw [if_neg different, read]
    exact (s.within (.code false)).readAndWrite_registers remembered c rfl

/-- One character is read alike. -/
theorem next_registers (delimited : s.Delimited) :
    (s.registers remembered).next c =
      ((s.next c).registers (s.context.openedAtLineStart remembered),
        if s.ends c then some (s.next c).consumed.byteLength else none) := by
  by_cases isReturn : c = '\r'
  · subst isReturn
    rw [next_return, registers_openedAtLineStart]
    rfl
  rw [next, if_neg isReturn]
  cases pending : s.context.closePending with
  | false =>
    have stored : ¬ (s.registers remembered).closePending = true := by
      simpa [registers] using pending
    rw [Registers.next, if_neg isReturn, if_neg stored]
    exact s.readAndWrite_registers remembered c pending
  | true =>
    obtain ⟨context, brackets, mismatched, reversed⟩ := s
    cases context with
    | raw d closePending =>
      obtain rfl : closePending = true := pending
      exact next_registers_closePending ⟨.raw d true, brackets, mismatched, reversed⟩ remembered c
        (delimited d rfl) isReturn
    | _ => cases pending

/-! ### Every text is read alike -/

variable {s}

theorem observe_registers (delimited : s.Delimited) :
    (s.registers remembered).observe c = s.observe c := by
  unfold Registers.observe observe
  rw [next_registers s remembered c delimited]
  rfl

/-- The registers stay those of the scanner, and show the same. -/
theorem feed_registers (delimited : s.Delimited) (t : Text) :
    ∃ later, (s.registers remembered).feed t = (s.feed t).registers later ∧
      (s.registers remembered).observations t = s.observations t := by
  induction t generalizing s remembered with
  | nil => exact ⟨remembered, rfl, rfl⟩
  | cons c t ih =>
    have delimitedNext : (s.next c).Delimited := delimited.feed [c]
    obtain ⟨later, fed, shown⟩ := ih (s.context.openedAtLineStart remembered) delimitedNext
    have next := next_registers s remembered c delimited
    refine ⟨later, ?_, ?_⟩
    · rw [Registers.feed_cons, next, feed_cons]
      exact fed
    · rw [Registers.observations, observations, observe_registers remembered c delimited, next]
      exact congrArg _ shown

end Scanner

open Scanner (fresh)

/-- The registers after a text are those of the scanner after it. -/
theorem Registers.feed_initial (t : Text) :
    ∃ remembered, initial.feed t = (fresh.feed t).registers remembered := by
  obtain ⟨remembered, fed, -⟩ := Scanner.feed_registers false Scanner.delimited_fresh t
  rw [Scanner.registers_fresh] at fed
  exact ⟨remembered, fed⟩

/-- The registers show of every text what the scanner shows. -/
theorem Registers.observations_initial (t : Text) :
    initial.observations t = fresh.observations t := by
  obtain ⟨_, -, shown⟩ := Scanner.feed_registers false Scanner.delimited_fresh t
  rw [Scanner.registers_fresh] at shown
  exact shown

end StatementShell
