import StatementShell.Text.Basic

/-!
# Values of a document

A settings document, in whatever notation it is written, is a tree of tables,
lists and plain values.

## Main Definitions

* `Document.Value`: the tree.
* `Document.TableKind`: how a table came to be.
* `Document.Value.isRepresentable`: whether all numbers in a value have a value.

## Design Notes

What may still be added to a table or list depends on how it was written, so the
constructors carry that; a reader of finished documents ignores it.

A number that cannot be represented is part of the tree all the same: it is a
fault only where somebody asks for its value.
-/

namespace StatementShell.Document

/-- How a table came to be. -/
inductive TableKind where
  /-- Written between braces; nothing is added later. -/
  | inline
  /-- Opened by a header of its own. -/
  | defined
  /-- On the way to a table that has a header. -/
  | implied
  /-- On the way to the last part of a dotted key. -/
  | dotted
  deriving DecidableEq, Repr

/-- A value of a document. -/
inductive Value where
  | text (t : Text)
  | integer (n : Int)
  /-- A number that is no integer: one with a fraction or an exponent, an infinity,
  a word that only has the form of a number.  The flag says that it has a value,
  which it lacks when it is too large or malformed. -/
  | number (hasValue : Bool)
  | boolean (b : Bool)
  /-- A date, a time of day, or both. -/
  | date
  | null
  /-- A list; the flag says that headers may append further tables. -/
  | list (extensible : Bool) (elements : List Value)
  | table (kind : TableKind) (entries : List (Text × Value))
  deriving Inhabited

/-- The entries of a table, in the order in which they were written. -/
abbrev Entries := List (Text × Value)

namespace Value

/-- Whether an integer can be represented by a reader at all. -/
def integerInRange (n : Int) : Bool := -(Int.pow 2 127) ≤ n && n < Int.pow 2 128

mutual

/-- Whether all numbers in a value have a value. -/
def isRepresentable : Value → Bool
  | integer n => integerInRange n
  | number hasValue => hasValue
  | list _ elements => areRepresentable elements
  | table _ entries => entriesRepresentable entries
  | text _ | boolean _ | date | null => true

/-- Whether all numbers in the elements of a list have a value. -/
def areRepresentable : List Value → Bool
  | [] => true
  | v :: rest => v.isRepresentable && areRepresentable rest

/-- Whether all numbers in the entries of a table have a value. -/
def entriesRepresentable : List (Text × Value) → Bool
  | [] => true
  | (_, v) :: rest => v.isRepresentable && entriesRepresentable rest

end

end Value

end StatementShell.Document
