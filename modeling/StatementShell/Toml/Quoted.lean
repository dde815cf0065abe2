import StatementShell.Text.Digits

/-!
# Quoted strings of TOML

A string is written between single or triple quotes of either kind.  Between
double quotes a backslash starts an escape; between apostrophes nothing is
escaped.  Triple quotes admit newlines, and one newline right after the opening
quotes is not part of the string.

## Main Definitions

* `Toml.Quoting`: the four ways to write a string.
* `Toml.Quoting.choose`: the way in which the writer writes a string.
* `Toml.writeString`: a string with its quotes.
* `Toml.readString`: the string at the front of a text.
-/

namespace StatementShell.Toml

/-! ### Characters -/

/-- A control character other than the tab. -/
def isControl (c : Char) : Bool :=
  (c.toNat < 0x20 && c != '\t') || c.toNat == 0x7F

/-- The character with a code point, if there is one. -/
def scalar? (n : Nat) : Option Char :=
  if n.isValidChar then some (Char.ofNat n) else none

/-- A newline at the front of a text, removed. -/
def newline? : Text → Option Text
  | '\n' :: rest => some rest
  | '\r' :: '\n' :: rest => some rest
  | _ => none

/-! ### Writing -/

/-- The ways to write a string. -/
inductive Quoting where
  /-- Between double quotes. -/
  | basic
  /-- Between apostrophes. -/
  | literal
  /-- Between triple double quotes. -/
  | basicLines
  /-- Between triple apostrophes. -/
  | literalLines
  deriving DecidableEq, Repr

/-- Whether a character occurs three times in a row, given how often it stood
right before the text. -/
def hasTripleAfter (c : Char) (run : Nat) : Text → Bool
  | [] => false
  | x :: rest =>
    if x = c then run ≥ 2 || hasTripleAfter c (run + 1) rest
    else hasTripleAfter c 0 rest

/-- Whether a character occurs three times in a row. -/
def hasTriple (c : Char) (t : Text) : Bool := hasTripleAfter c 0 t

namespace Quoting

/-- The way in which the writer writes a string: with as little escaping as the
string allows, and on one line where there is a choice. -/
def choose (t : Text) : Quoting :=
  let control := t.any fun c => isControl c && c != '\n'
  let newline := t.contains '\n'
  let backslash := t.contains '\\'
  if !control && !backslash && !t.contains '"' && !newline then basic
  else if !control && !t.contains '\'' && !newline then literal
  else if !control && !backslash && !hasTriple '"' t then basicLines
  else if !control && !hasTriple '\'' t then literalLines
  else if newline then basicLines
  else basic

end Quoting

/-- The escape of a character that is always escaped between double quotes,
whether they are single or triple. -/
def escape? (c : Char) : Option Text :=
  if c = '\x08' then some ['\\', 'b']
  else if c = '\t' then some ['\\', 't']
  else if c = '\x0C' then some ['\\', 'f']
  else if c = '\r' then some ['\\', 'r']
  else if c = '\\' then some ['\\', '\\']
  else if isControl c && c != '\n' then
    some ['\\', 'u', '0', '0', hexDigit (c.toNat / 16), hexDigit (c.toNat % 16)]
  else none

/-- A character between double quotes. -/
def basicChar (c : Char) : Text :=
  if c = '\n' then ['\\', 'n']
  else if c = '"' then ['\\', '"']
  else (escape? c).getD [c]

/-- The characters between triple double quotes, given the number of quotes
written right before them; every third quote in a row is escaped. -/
def basicLinesBody (run : Nat) : Text → Text
  | [] => []
  | c :: rest =>
    if c = '"' then
      if run = 2 then '\\' :: '"' :: basicLinesBody 0 rest
      else '"' :: basicLinesBody (run + 1) rest
    else (escape? c).getD [c] ++ basicLinesBody 0 rest

/-- The newline after opening triple quotes, which a string with newlines gets. -/
def openingNewline (t : Text) : Text := if t.contains '\n' then ['\n'] else []

/-- A string written in one of the four ways. -/
def writeQuoted (t : Text) : Quoting → Text
  | .basic => '"' :: t.flatMap basicChar ++ ['"']
  | .literal => '\'' :: t ++ ['\'']
  | .basicLines =>
    '"' :: '"' :: '"' :: openingNewline t ++ basicLinesBody 0 t ++ ['"', '"', '"']
  | .literalLines => '\'' :: '\'' :: '\'' :: openingNewline t ++ t ++ ['\'', '\'', '\'']

/-- A string with its quotes. -/
def writeString (t : Text) : Text := writeQuoted t (Quoting.choose t)

/-! ### Reading between single quotes -/

/-- Puts a character in front of the string that is read. -/
def prepend (c : Char) (read : Option (Text × Text)) : Option (Text × Text) :=
  read.map fun r => (c :: r.1, r.2)

/-- Where a reader is inside a string between double quotes. -/
inductive Escaping where
  /-- At a character that stands for itself, at an escape or at the end. -/
  | no
  /-- After a backslash. -/
  | begun
  /-- Inside a code point, of which some digits remain to be read. -/
  | digits (remaining value : Nat)
  deriving DecidableEq, Repr

/-- What an escape stands for, by the character after the backslash. -/
inductive Escape where
  | char (c : Char)
  /-- A code point of that many digits follows. -/
  | code (digits : Nat)

/-- The escape that a character after a backslash starts. -/
def escapeOf? (c : Char) : Option Escape :=
  if c = 'b' then some (.char '\x08')
  else if c = 't' then some (.char '\t')
  else if c = 'n' then some (.char '\n')
  else if c = 'f' then some (.char '\x0C')
  else if c = 'r' then some (.char '\r')
  else if c = 'e' then some (.char '\x1B')
  else if c = '"' then some (.char '"')
  else if c = '\\' then some (.char '\\')
  else if c = 'x' then some (.code 2)
  else if c = 'u' then some (.code 4)
  else if c = 'U' then some (.code 8)
  else none

/-- One more digit of a code point: the state after it, and the character when
the code point is complete. -/
def addDigit? (remaining value : Nat) (c : Char) : Option (Escaping × Option Char) :=
  match hexValue? c with
  | none => none
  | some d =>
    if remaining ≤ 1 then (scalar? (value * 16 + d)).map fun x => (.no, some x)
    else some (.digits (remaining - 1) (value * 16 + d), none)

/-- Puts a character, if there is one, in front of the string that is read. -/
def prepend? (c : Option Char) (read : Option (Text × Text)) : Option (Text × Text) :=
  match c with
  | some c => prepend c read
  | none => read

/-- Reads on after an opening double quote: the string and what follows the
closing quote. -/
def readBasic : Escaping → Text → Option (Text × Text)
  | _, [] => none
  | .no, c :: rest =>
    if c = '"' then some ([], rest)
    else if c = '\\' then readBasic .begun rest
    else if isControl c then none
    else prepend c (readBasic .no rest)
  | .begun, c :: rest =>
    match escapeOf? c with
    | some (.char x) => prepend x (readBasic .no rest)
    | some (.code digits) => readBasic (.digits digits 0) rest
    | none => none
  | .digits remaining value, c :: rest =>
    match addDigit? remaining value c with
    | some (state, x) => prepend? x (readBasic state rest)
    | none => none

/-- Reads on after an opening apostrophe. -/
def readLiteral : Text → Option (Text × Text)
  | [] => none
  | c :: rest =>
    if c = '\'' then some ([], rest)
    else if isControl c then none
    else prepend c (readLiteral rest)

/-! ### Reading between triple quotes -/

/-- The end of a string between triple quotes: up to two quotes right before the
closing ones belong to the string. -/
def closing? (quote : Char) : Text → Option (Text × Text)
  | a :: b :: c :: rest =>
    if a = quote ∧ b = quote ∧ c = quote then
      match rest with
      | d :: e :: after =>
        if d = quote ∧ e = quote then some ([quote, quote], after)
        else if d = quote then some ([quote], e :: after)
        else some ([], rest)
      | [d] => if d = quote then some ([quote], []) else some ([], rest)
      | [] => some ([], [])
    else none
  | _ => none

/-- Whether a character may stand for itself between triple quotes; a carriage
return only before a newline. -/
def standsInLines (c : Char) (rest : Text) : Bool :=
  !isControl c || c == '\n' || (c == '\r' && rest.head? == some '\n')

/-- Reads on after opening triple apostrophes. -/
def readLiteralLines : Text → Option (Text × Text)
  | [] => none
  | c :: rest =>
    match closing? '\'' (c :: rest) with
    | some result => some result
    | none =>
      if standsInLines c rest then prepend c (readLiteralLines rest) else none

/-- Where a reader is inside a string between triple double quotes. -/
inductive LinesState where
  /-- At a character that stands for itself, at an escape or at the end; the flag
  says that white space is skipped first. -/
  | body (skipping : Bool)
  /-- After a backslash. -/
  | begun
  /-- Inside a code point, of which some digits remain to be read. -/
  | digits (remaining value : Nat)
  /-- After a backslash and blanks, before the newline that has to follow. -/
  | lineEnding
  deriving DecidableEq, Repr

/-- The same place inside a string between triple quotes. -/
def Escaping.inLines : Escaping → LinesState
  | no => .body false
  | begun => .begun
  | digits remaining value => .digits remaining value

/-- Whether a character is a blank, a newline, or the carriage return of one. -/
def isLineSpace (c : Char) (rest : Text) : Bool :=
  c == ' ' || c == '\t' || c == '\n' || (c == '\r' && rest.head? == some '\n')

/-- The state after a character between a backslash and the end of its line. -/
def escapedLineEnd? (c : Char) (rest : Text) : Option LinesState :=
  if isLineSpace c rest then some (if c = '\n' then .body true else .lineEnding)
  else none

/-- Reads on after opening triple double quotes. -/
def readBasicLines : LinesState → Text → Option (Text × Text)
  | _, [] => none
  | .body skipping, c :: rest =>
    if skipping && isLineSpace c rest then readBasicLines (.body true) rest
    else
      match closing? '"' (c :: rest) with
      | some result => some result
      | none =>
        if c = '\\' then readBasicLines .begun rest
        else if standsInLines c rest then prepend c (readBasicLines (.body false) rest)
        else none
  | .begun, c :: rest =>
    match escapedLineEnd? c rest with
    | some state => readBasicLines state rest
    | none =>
      match escapeOf? c with
      | some (.char x) => prepend x (readBasicLines (.body false) rest)
      | some (.code digits) => readBasicLines (.digits digits 0) rest
      | none => none
  | .digits remaining value, c :: rest =>
    match addDigit? remaining value c with
    | some (state, x) => prepend? x (readBasicLines state.inLines rest)
    | none => none
  | .lineEnding, c :: rest =>
    match escapedLineEnd? c rest with
    | some state => readBasicLines state rest
    | none => none

/-! ### Reading -/

/-- A text without the newline that follows opening triple quotes. -/
def dropOpeningNewline (t : Text) : Text := (newline? t).getD t

/-- The string at the front of a text, and what follows its closing quotes. -/
def readString : Text → Option (Text × Text)
  | '"' :: '"' :: '"' :: rest => readBasicLines (.body false) (dropOpeningNewline rest)
  | '\'' :: '\'' :: '\'' :: rest => readLiteralLines (dropOpeningNewline rest)
  | '"' :: rest => readBasic .no rest
  | '\'' :: rest => readLiteral rest
  | _ => none

end StatementShell.Toml
