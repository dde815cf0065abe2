import StatementShell.Toml.Date
import StatementShell.Toml.Number
import StatementShell.Toml.Quoted
import StatementShell.Toml.Tables

/-!
# Reading TOML

A document is read line by line: a line holds a header, a pair or nothing, then
at most a comment.  Arrays and inline tables may run over several lines.

## Main Definitions

* `Toml.readKey`, `Toml.readValue`: a key or a value at the front of a text.
* `Toml.readItems`: the parts of a document.
* `Toml.readDocument`: the tree of a document.

## Design Notes

A reader answers with what it has read and the rest of the text.  Loops go on
only while the rest gets shorter, which it always does; the test makes the end of
the loop evident.
-/

namespace StatementShell.Toml

open Document (Value Entries)

/-! ### Space between tokens -/

/-- A text without the blanks in front. -/
def skipBlanks (t : Text) : Text := t.dropWhile fun c => c == ' ' || c == '\t'

/-- A text without the end of a line in front; the end of the text ends a line
as well. -/
def lineBreak? : Text → Option Text
  | [] => some []
  | t => newline? t

/-- A text without the rest of a line, which holds at most a comment. -/
def lineEnd? (t : Text) : Option Text :=
  match skipBlanks t with
  | '#' :: rest => lineBreak? (rest.dropWhile fun c => !isControl c)
  | rest => lineBreak? rest

/-- Skips blanks, newlines and comments; `comment` says that the text starts
inside a comment. -/
def skipGaps (comment : Bool) : Text → Option Text
  | [] => some []
  | '\n' :: rest => skipGaps false rest
  | '\r' :: rest => if rest.head? = some '\n' then skipGaps false rest else none
  | c :: rest =>
    if comment then
      if isControl c then none else skipGaps true rest
    else if c = ' ' ∨ c = '\t' then skipGaps false rest
    else if c = '#' then skipGaps true rest
    else some (c :: rest)

/-! ### Keys -/

/-- Whether a character may stand in an unquoted key. -/
def isBareChar (c : Char) : Bool := c.isAlphanum || c == '_' || c == '-'

/-- One part of a key. -/
def readKeyPart : Text → Option (Text × Text)
  | '"' :: rest => readBasic .no rest
  | '\'' :: rest => readLiteral rest
  | t =>
    match t.takeWhile isBareChar with
    | [] => none
    | word => some (word, t.dropWhile isBareChar)

/-- The parts of a dotted key and what follows the blanks after them. -/
def readKeyParts (t : Text) : Option (KeyPath × Text) :=
  match readKeyPart t with
  | none => none
  | some (part, rest) =>
    match skipBlanks rest with
    | '.' :: more =>
      let next := skipBlanks more
      if next.length < t.length then
        (readKeyParts next).map fun r => (r.1.under part, r.2)
      else none
    | after => some (⟨[], part⟩, after)
termination_by t.length

/-- How deeply arrays and inline tables may be nested, and how many parts a key may
have. -/
def maxNesting : Nat := 80

/-- A dotted key and what follows the blanks after it. -/
def readKey (t : Text) : Option (KeyPath × Text) :=
  (readKeyParts t).filter fun r => r.1.above.length < maxNesting

/-! ### Plain values -/

/-- Whether a character is part of a value without quotes: all characters are but
those that have a meaning between values. -/
def isWordChar (c : Char) : Bool :=
  !("=,[]\x7b\x7d# \t\r\n".toList.contains c)

/-- The value a word is. -/
def wordValue? (t : Text) : Option Value :=
  if t = "true".toList then some (.boolean true)
  else if t = "false".toList then some (.boolean false)
  else
    match integer? t with
    | some n => some (.integer n)
    | none =>
      match float? t with
      | some v => some v
      | none =>
        if isDateTime t then some .date
        else if hasIntegerForm t then some (.number false)
        else none

/-- The time of day that follows a date after a space. -/
def timeAfter (date rest : Text) : Text :=
  match rest with
  | ' ' :: c :: _ =>
    if isDate date ∧ c.isDigit then ' ' :: rest.tail.takeWhile isWordChar else []
  | _ => []

/-- A value without quotes. -/
def readWord (t : Text) : Option (Value × Text) :=
  let word := t.takeWhile isWordChar
  let rest := t.dropWhile isWordChar
  let time := timeAfter word rest
  (wordValue? (word ++ time)).map fun v => (v, rest.drop time.length)

/-- A value that is no array and no table. -/
def readPlain (t : Text) : Option (Value × Text) :=
  if t.head? = some '"' ∨ t.head? = some '\'' then
    (readString t).map fun r => (.text r.1, r.2)
  else readWord t

/-! ### Arrays and inline tables -/

/-- The elements of an array up to its closing bracket, given the reader of one
element. -/
def readElements (one : Text → Option (Value × Text)) (t : Text) :
    Option (List Value × Text) :=
  if t.head? = some ']' then some ([], t.tail)
  else
    match one t with
    | none => none
    | some (v, rest) =>
      match skipGaps false rest with
      | some (']' :: after) => some ([v], after)
      | some (',' :: more) =>
        match skipGaps false more with
        | none => none
        | some next =>
          if next.length < t.length then
            (readElements one next).map fun r => (v :: r.1, r.2)
          else none
      | _ => none
termination_by t.length

/-- A pair of a key and a value, given what skips the space around the equals sign
and the reader of the value. -/
def readPair (skip : Text → Option Text) (one : Text → Option (Value × Text)) (t : Text) :
    Option (KeyPath × Value × Text) := do
  let (key, afterKey) ← readKey t
  match ← skip afterKey with
  | '=' :: rest =>
    let (v, after) ← one (← skip rest)
    return (key, v, after)
  | _ => none

/-- The pairs of an inline table up to its closing brace, added to those before
them. -/
def readPairs (one : Text → Option (Value × Text)) (entries : Entries) (t : Text) :
    Option (Entries × Text) :=
  if t.head? = some '\x7d' then some (entries, t.tail)
  else
    match readPair (skipGaps false) one t with
    | none => none
    | some (key, v, rest) =>
      match addPair key v .inline entries with
      | none => none
      | some entries =>
        match skipGaps false rest with
        | some ('\x7d' :: after) => some (entries, after)
        | some (',' :: more) =>
          match skipGaps false more with
          | none => none
          | some next =>
            if next.length < t.length then readPairs one entries next else none
        | _ => none
termination_by t.length

/-- A value, with at most the given depth of arrays and inline tables. -/
def readValue : Nat → Text → Option (Value × Text)
  | depth + 1, '[' :: rest =>
    match skipGaps false rest with
    | none => none
    | some inside =>
      (readElements (readValue depth) inside).map fun r => (.list false r.1, r.2)
  | depth + 1, '\x7b' :: rest =>
    match skipGaps false rest with
    | none => none
    | some inside =>
      (readPairs (readValue depth) [] inside).map fun r => (.table .inline r.1, r.2)
  | _, t => readPlain t

/-! ### Lines -/

/-- What follows the closing brackets of a header. -/
def closeHeader? (double : Bool) : Text → Option Text
  | ']' :: rest =>
    if double then (if rest.head? = some ']' then some rest.tail else none) else some rest
  | _ => none

/-- A header, its opening brackets already read. -/
def readHeader (double : Bool) (t : Text) : Option (Item × Text) :=
  match readKey (skipBlanks t) with
  | none => none
  | some (key, rest) => (closeHeader? double rest).map fun after => (.header double key, after)

/-- The header or pair at the front of a line. -/
def readItem : Text → Option (Item × Text)
  | '[' :: '[' :: rest => readHeader true rest
  | '[' :: rest => readHeader false rest
  | t =>
    (readPair (fun t => some (skipBlanks t)) (readValue maxNesting) t).map fun r =>
      (.pair r.1 r.2.1, r.2.2)

/-- One line: what it holds, if anything, and the lines after it. -/
def readLine (t : Text) : Option (Option Item × Text) :=
  match lineEnd? t with
  | some after => some (none, after)
  | none =>
    match readItem (skipBlanks t) with
    | none => none
    | some (item, rest) => (lineEnd? rest).map fun after => (some item, after)

/-- The headers and pairs of a text, in order. -/
def readItems (t : Text) : Option (List Item) :=
  if t.isEmpty then some []
  else
    match readLine t with
    | none => none
    | some (item, after) =>
      if after.length < t.length then
        (readItems after).map fun items => item.toList ++ items
      else none
termination_by t.length

/-- A text without a byte order mark in front. -/
def dropByteOrderMark : Text → Text
  | '\uFEFF' :: rest => rest
  | t => t

/-- The tree of a document. -/
def readDocument (t : Text) : Option Entries :=
  (readItems (dropByteOrderMark t)).bind assemble

end StatementShell.Toml
