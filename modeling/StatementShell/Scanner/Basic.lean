import StatementShell.Lexis

/-!
# The boundary scanner

The scanner reads a text of the array language one character at a time and
tells at which newlines a self-contained unit of input ends.  It builds no
tokens: brackets, the bodies of literals and comments are the only structure
that decides where a unit ends.  Carriage returns are not read at all.

A unit ends at a newline that is read as code, ends a comment, or follows a
closed raw literal, when no bracket is open or when a closing bracket has
failed to match.

## Main Definitions

* `Context`: what the scanner is inside of.
* `Scanner`: the context, the open brackets and the text read so far.
* `Scanner.next`: the scanner after one more character.
* `Scanner.ends`: whether that character ends a unit.
* `scan`: the verdict on a text up to its first boundary.
* `cut`: a text cut at every boundary, each unit read afresh.

## Design Notes

The text read is kept with its last character first, so that the two questions
asked of it, whether a line begins here and which introducer stands before a
delimiter, look at its front.  `Scanner.consumed` is the text in reading order.
-/

namespace StatementShell

/-! ### Contexts -/

/-- What the scanner is inside of. -/
inductive Context where
  /-- Code; the flag says that a comment may begin at the next character. -/
  | code (commentMayBegin : Bool)
  /-- The line on which a comment was opened; the flag says that the comment
  mark stood at the start of its line. -/
  | lineComment (openedAtLineStart : Bool)
  /-- The lines of a block comment; the flag says that the current line so far
  is the end mark alone. -/
  | blockComment (loneEndMark : Bool)
  /-- A string literal; the flag says that the next character is escaped. -/
  | string (escaped : Bool)
  /-- An escaped literal between two copies of its delimiter. -/
  | quoted (delimiter : Char) (escaped : Bool)
  /-- A raw literal; the flag says that a delimiter was just read, which closes
  the literal unless it is doubled by the next character. -/
  | raw (delimiter : Char) (closePending : Bool)
  deriving DecidableEq, Repr

namespace Context

/-- Whether the context is a literal. -/
def isLiteral : Context → Bool
  | string _ | quoted _ _ | raw _ _ => true
  | _ => false

/-- Whether the context is a comment. -/
def isComment : Context → Bool
  | lineComment _ | blockComment _ => true
  | _ => false

/-- Whether the context is code. -/
def isCode : Context → Bool
  | code _ => true
  | _ => false

/-- Whether the context is a raw literal. -/
def isRaw : Context → Bool
  | raw _ _ => true
  | _ => false

/-- The delimiter of a custom-delimited literal. -/
def delimiter? : Context → Option Char
  | quoted d _ | raw d _ => some d
  | _ => none

end Context

/-! ### The scanner -/

/-- The state of a scan. -/
structure Scanner where
  /-- What the scanner is inside of. -/
  context : Context
  /-- The open brackets, innermost first. -/
  brackets : List Char
  /-- Whether a closing bracket has failed to match the innermost open one. -/
  mismatched : Bool
  /-- The text read, last character first. -/
  reversed : List Char
  deriving DecidableEq, Repr

namespace Scanner

/-- The scanner at the start of a unit. -/
def fresh : Scanner := ⟨.code true, [], false, []⟩

/-- The text read so far. -/
def consumed (s : Scanner) : Text := s.reversed.reverse

/-- The number of open brackets. -/
def depth (s : Scanner) : Nat := s.brackets.length

/-- Whether the next character is the first of its line. -/
def atLineStart (s : Scanner) : Bool :=
  match s.reversed with
  | [] => true
  | c :: _ => c == '\n'

/-- Whether a newline read as code would end the unit here. -/
def closed (s : Scanner) : Bool := s.brackets.isEmpty || s.mismatched

/-- The scanner in another context. -/
def within (s : Scanner) (k : Context) : Scanner := { s with context := k }

/-- The scanner back in code after a newline.  Where the newline ended the unit
no comment may begin next. -/
def resume (s : Scanner) : Scanner := s.within (.code (!s.closed))

/-! ### Reading one character -/

/-- Reads a closing bracket in code. -/
def closeBracket (s : Scanner) (c : Char) : Scanner :=
  if s.brackets.head? = Lexis.openerFor c then
    { s with context := .code false, brackets := s.brackets.tail }
  else
    { s with context := .code false, mismatched := true }

/-- Reads a character of code that no introducer turns into a delimiter. -/
def readPlain (s : Scanner) (commentMayBegin : Bool) (c : Char) : Scanner :=
  if c = '\n' then s.resume
  else if c = Lexis.stringQuote then s.within (.string false)
  else if c = Lexis.commentMark ∧ commentMayBegin then
    s.within (.lineComment s.atLineStart)
  else if Lexis.isOpenBracket c then
    { s with context := .code true, brackets := c :: s.brackets }
  else if Lexis.isCloseBracket c then s.closeBracket c
  else s.within (.code (Lexis.isGap c))

/-- Reads a character of code.  A delimiter right after an introducer opens a
literal whatever else the delimiter might have been. -/
def readCode (s : Scanner) (commentMayBegin : Bool) (c : Char) : Scanner :=
  if Lexis.isDelimiter c then
    match Lexis.introducerAtEnd s.reversed with
    | some .escaped => s.within (.quoted c false)
    | some .raw => s.within (.raw c false)
    | none => s.readPlain commentMayBegin c
  else s.readPlain commentMayBegin c

/-- Reads a character on the line where a comment was opened. -/
def readLineComment (s : Scanner) (openedAtLineStart : Bool) (c : Char) : Scanner :=
  if c = '\n' then
    if openedAtLineStart then s.within (.blockComment false) else s.resume
  else s

/-- Reads a character of a block comment. -/
def readBlockComment (s : Scanner) (loneEndMark : Bool) (c : Char) : Scanner :=
  if c = '\n' then
    if loneEndMark then s.resume else s
  else s.within (.blockComment (c = Lexis.blockCommentEnd ∧ s.atLineStart))

/-- Reads a character of a string literal. -/
def readString (s : Scanner) (escaped : Bool) (c : Char) : Scanner :=
  if c = Lexis.escapeMark then s.within (.string (!escaped))
  else if c = Lexis.stringQuote ∧ !escaped then s.within (.code false)
  else s.within (.string false)

/-- Reads a character of an escaped literal. -/
def readQuoted (s : Scanner) (d : Char) (escaped : Bool) (c : Char) : Scanner :=
  if c = Lexis.escapeMark then s.within (.quoted d (!escaped))
  else if c = d ∧ !escaped then s.within (.code false)
  else s.within (.quoted d false)

/-- Reads a character of a raw literal, or the first one after it. -/
def readRaw (s : Scanner) (d : Char) (closePending : Bool) (c : Char) : Scanner :=
  if c = d then s.within (.raw d (!closePending))
  else if closePending then s.readCode false c
  else s

/-- Reads a character without recording it. -/
def read (s : Scanner) (c : Char) : Scanner :=
  match s.context with
  | .code commentMayBegin => s.readCode commentMayBegin c
  | .lineComment openedAtLineStart => s.readLineComment openedAtLineStart c
  | .blockComment loneEndMark => s.readBlockComment loneEndMark c
  | .string escaped => s.readString escaped c
  | .quoted d escaped => s.readQuoted d escaped c
  | .raw d closePending => s.readRaw d closePending c

/-- The scanner with one more character recorded. -/
def record (s : Scanner) (c : Char) : Scanner :=
  { s with reversed := c :: s.reversed }

/-- The scanner after one more character; a carriage return is not read. -/
def next (s : Scanner) (c : Char) : Scanner :=
  if c = '\r' then s else (s.read c).record c

/-- The scanner after the characters of a text. -/
def feed (s : Scanner) (t : Text) : Scanner := t.foldl next s

/-! ### Boundaries -/

/-- Whether a newline met in a context is read as code, or leaves a comment. -/
def newlineSurfaces : Context → Bool
  | .code _ => true
  | .lineComment openedAtLineStart => !openedAtLineStart
  | .blockComment loneEndMark => loneEndMark
  | .string _ => false
  | .quoted _ _ => false
  | .raw _ closePending => closePending

/-- Whether the next character ends a unit. -/
def ends (s : Scanner) (c : Char) : Bool :=
  c == '\n' && newlineSurfaces s.context && s.closed

end Scanner

/-! ### Verdicts -/

/-- The verdict on a text. -/
inductive Verdict where
  /-- A unit ends; the number of bytes read, its newline included. -/
  | complete (consumed : Nat)
  /-- The text ends inside a unit. -/
  | needMoreInput
  deriving DecidableEq, Repr

namespace Verdict

/-- Whether a unit ended. -/
def isComplete : Verdict → Bool
  | complete _ => true
  | needMoreInput => false

end Verdict

/-- The verdict of a scanner that goes on to read a text up to the first
boundary. -/
def Scanner.verdict (s : Scanner) : Text → Verdict
  | [] => .needMoreInput
  | c :: rest =>
    if s.ends c then .complete (s.next c).consumed.byteLength
    else (s.next c).verdict rest

/-- The verdict on a text up to its first boundary. -/
def scan (t : Text) : Verdict := Scanner.fresh.verdict t

/-- The verdict on lines, each taken with its newline. -/
def scanLines (lines : List Text) : Verdict := scan (Text.terminated lines)

/-! ### Cutting at every boundary -/

/-- A text cut into its units. -/
structure Cut where
  /-- The complete units, each with its newline and without carriage returns. -/
  units : List Text
  /-- The scanner on what follows the last unit. -/
  last : Scanner

/-- Cuts the rest of a text that a scanner is reading. -/
def Scanner.cut (s : Scanner) : Text → Cut
  | [] => ⟨[], s⟩
  | c :: rest =>
    if s.ends c then
      let tail := fresh.cut rest
      ⟨(s.next c).consumed :: tail.units, tail.last⟩
    else (s.next c).cut rest

/-- A text cut into its units, each read by a fresh scanner. -/
def cut (t : Text) : Cut := Scanner.fresh.cut t

/-! ### Small facts -/

namespace Scanner

@[simp] theorem next_return (s : Scanner) : s.next '\r' = s := rfl

@[simp] theorem feed_nil (s : Scanner) : s.feed [] = s := rfl

@[simp] theorem feed_cons (s : Scanner) (c : Char) (t : Text) :
    s.feed (c :: t) = (s.next c).feed t := rfl

theorem feed_append (s : Scanner) (t u : Text) :
    s.feed (t ++ u) = (s.feed t).feed u := List.foldl_append

@[simp] theorem within_reversed (s : Scanner) (k : Context) :
    (s.within k).reversed = s.reversed := rfl

/-- Reading leaves the record alone. -/
theorem read_reversed (s : Scanner) (c : Char) : (s.read c).reversed = s.reversed := by
  have plain (b : Bool) : (s.readPlain b c).reversed = s.reversed := by
    simp only [readPlain, resume, closeBracket]
    repeat' split
    all_goals rfl
  have code (b : Bool) : (s.readCode b c).reversed = s.reversed := by
    simp only [readCode]
    repeat' split
    all_goals first
      | rfl
      | exact plain b
  simp only [read, readLineComment, readBlockComment, readString, readQuoted, readRaw,
    resume]
  repeat' split
  all_goals first
    | rfl
    | exact code _

/-- One character is added to the text read, unless it is a carriage return. -/
theorem consumed_next (s : Scanner) (c : Char) :
    (s.next c).consumed = s.consumed ++ Text.withoutReturns [c] := by
  by_cases h : c = '\r'
  · simp [h, Text.withoutReturns]
  · simp [next, h, record, consumed, read_reversed, Text.withoutReturns]

/-- The text read is the text fed without its carriage returns. -/
theorem consumed_feed (s : Scanner) (t : Text) :
    (s.feed t).consumed = s.consumed ++ Text.withoutReturns t := by
  induction t generalizing s with
  | nil => simp [Text.withoutReturns]
  | cons c rest ih =>
    rw [feed_cons, ih, consumed_next, List.append_assoc]
    simp [Text.withoutReturns, List.filter_cons]
    split <;> simp_all

end Scanner

end StatementShell
