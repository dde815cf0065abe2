import StatementShell.Document.Value

/-!
# Tables of TOML

A document is a sequence of headers and pairs of a key and a value.  Both add to
one tree of tables, and no table or key is defined twice: a header opens a table
that at most headers further down have implied, and a dotted key extends only
tables that dotted keys have made.

## Main Definitions

* `Toml.KeyPath`: a dotted key.
* `Toml.updateAt`: a change to the table at the end of a path.
* `Toml.addPair`: one more pair.
* `Toml.Item`, `Toml.assemble`: a document as a sequence, and its tree.
-/

namespace StatementShell.Toml

open Document (Value Entries TableKind)

/-- A dotted key. -/
structure KeyPath where
  /-- The parts before the last dot. -/
  above : List Text
  /-- The last part. -/
  last : Text
  deriving DecidableEq, Repr

namespace KeyPath

/-- All parts of a key. -/
def parts (k : KeyPath) : List Text := k.above ++ [k.last]

/-- A key with one more part in front. -/
def under (part : Text) (k : KeyPath) : KeyPath := ⟨part :: k.above, k.last⟩

end KeyPath

/-! ### Entries of one table -/

/-- Replaces the value of a key that is there. -/
def replace (key : Text) (v : Value) (entries : Entries) : Entries :=
  entries.map fun entry => if entry.1 = key then (key, v) else entry

/-- Adds a key that is not there. -/
def insertNew (key : Text) (v : Value) (entries : Entries) : Option Entries :=
  if (entries.lookup key).isSome then none else some (entries ++ [(key, v)])

/-! ### Tables below a table -/

/-- Changes the table at the end of a path, given the kind of the table that the
path starts from.  Tables that are missing on the way are made with the kind
`created`.  The path leads into the last element of a list of tables; it does not
lead into inline tables, nor, for a dotted key, into a table with a header. -/
def updateAt (created : TableKind) (change : TableKind → Entries → Option Entries) :
    TableKind → List Text → Entries → Option Entries
  | kind, [], entries => change kind entries
  | _, key :: path, entries =>
    match entries.lookup key with
    | none =>
      (updateAt created change created path []).map fun sub =>
        entries ++ [(key, .table created sub)]
    | some (.table kind sub) =>
      if kind = .inline ∨ (created = .dotted ∧ kind = .defined) then none
      else
        (updateAt created change kind path sub).map fun sub =>
          replace key (.table kind sub) entries
    | some (.list true elements) =>
      match elements.getLast? with
      | some (.table kind sub) =>
        (updateAt created change kind path sub).map fun sub =>
          replace key (.list true (elements.dropLast ++ [.table kind sub])) entries
      | _ => none
    | some _ => none

/-- Adds a pair below a table.  The last part of a dotted key goes into a table
that dotted keys have made, an undotted key never does. -/
def addPair (key : KeyPath) (v : Value) (kind : TableKind) (entries : Entries) :
    Option Entries :=
  updateAt .dotted
    (fun target entries =>
      if decide (target = .dotted) = key.above.isEmpty then none
      else insertNew key.last v entries)
    kind key.above entries

/-- Opens the table of a header. -/
def openTable (key : KeyPath) (root : Entries) : Option Entries :=
  updateAt .implied
    (fun _ entries =>
      match entries.lookup key.last with
      | none => some (entries ++ [(key.last, .table .defined [])])
      | some (.table .implied sub) => some (replace key.last (.table .defined sub) entries)
      | some _ => none)
    .defined key.above root

/-- Opens one more table of the list that a double header names. -/
def appendTable (key : KeyPath) (root : Entries) : Option Entries :=
  updateAt .implied
    (fun _ entries =>
      match entries.lookup key.last with
      | none => some (entries ++ [(key.last, .list true [.table .defined []])])
      | some (.list true elements) =>
        some (replace key.last (.list true (elements ++ [.table .defined []])) entries)
      | some _ => none)
    .defined key.above root

/-! ### Documents -/

/-- A part of a document. -/
inductive Item where
  /-- A header; a double one appends to a list of tables. -/
  | header (double : Bool) (key : KeyPath)
  | pair (key : KeyPath) (v : Value)

/-- A tree that is being built. -/
structure Assembly where
  /-- The path of the table that the last header opened. -/
  current : List Text
  root : Entries

/-- Adds a part of a document. -/
def Assembly.add (a : Assembly) : Item → Option Assembly
  | .header double key =>
    ((if double then appendTable key a.root else openTable key a.root)).map
      fun root => ⟨key.parts, root⟩
  | .pair key v =>
    (updateAt .implied (addPair key v) .defined a.current a.root).map
      fun root => ⟨a.current, root⟩

/-- The tree of a document. -/
def assemble (items : List Item) : Option Entries :=
  (items.foldlM Assembly.add ⟨[], []⟩).map (·.root)

end StatementShell.Toml
