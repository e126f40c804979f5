/-
**Building the tables of a TOML document.**

A header opens a table; the entries under it go into that table.  A table may be *implied* by a
longer header or by a dotted key before, or instead of, being opened by a header of its own.  Every
table is opened at most once, and a table that dotted keys made is never opened by a header, nor the
other way round.  A double header adds a table to a list of tables; a path through such a list
leads into its last table.  No key is given twice.

Main definitions:

* `Toml.Node` — a table under construction, with what stands in it;
* `Toml.Node.update` — changes the table at the end of a path, making tables on the way;
* `Toml.assign` — gives a dotted key a value;
* `Toml.Building` — the document so far and the table that is open.
-/

import Framewire.Document.Value

set_option autoImplicit false

namespace Framewire

namespace Toml

/-- How a table came to be. -/
inductive Origin where
  /-- a header opened it -/
  | header
  /-- a longer header implies it -/
  | implied
  /-- a dotted key implies it -/
  | dotted
deriving DecidableEq, Repr

/-- What stands under a key while the document is read. -/
inductive Node where
  | value (v : Value)
  | table (origin : Origin) (entries : List (String × Node))
  /-- a list of tables, the last one first -/
  | tables (elements : List (List (String × Node)))
deriving Inhabited

namespace Node

mutual

/-- A finished node as a value. -/
def toValue : Node → Value
  | value v => v
  | table _ entries => .table (entriesToValues entries)
  | tables elements => .list (elementsToValues elements).reverse

/-- Finished entries as entries of values. -/
def entriesToValues : List (String × Node) → Entries Value
  | [] => []
  | (key, node) :: rest => (key, node.toValue) :: entriesToValues rest

/-- Finished tables as values. -/
def elementsToValues : List (List (String × Node)) → List Value
  | [] => []
  | entries :: rest => .table (entriesToValues entries) :: elementsToValues rest

end

/-- Changes the entries of the table at the end of a path, from those of a table of the given
origin on.  Tables that are missing on the way come to be with the origin `made`; a dotted key may
not enter a table that a header opened, and nothing can enter a value. -/
def update (made : Origin) (change : Origin → Entries Node → Option (Entries Node)) :
    (path : List String) → (origin : Origin) → (entries : Entries Node) → Option (Entries Node)
  | [], origin, entries => change origin entries
  | key :: path, _, entries =>
    match entries.lookup? key with
    | none => do
      let inner ← update made change path made []
      return entries.set key (table made inner)
    | some (value _) => none
    | some (tables []) => none
    | some (tables (last :: others)) => do
      let inner ← update made change path .header last
      return entries.set key (tables (inner :: others))
    | some (table origin inner) =>
      if made = .dotted ∧ origin = .header then none
      else do
        let inner ← update made change path origin inner
        return entries.set key (table origin inner)

end Node

/-- Adds a new entry to a table: a dotted key only to a table that dotted keys made, and no key
twice. -/
def addEntry (isDotted : Bool) (key : String) (v : Value) (origin : Origin)
    (entries : Entries Node) : Option (Entries Node) :=
  if isDotted = true ∧ origin ≠ .dotted then none
  else if isDotted = false ∧ origin = .dotted then none
  else if (entries.lookup? key).isSome then none
  else some (entries.set key (.value v))

/-- Gives a key, dotted or not, a value in an open table. -/
def assign (entries : Entries Node) (path : List String) (key : String) (v : Value) :
    Option (Entries Node) :=
  Node.update .dotted (addEntry (!path.isEmpty) key v) path .header entries

/-! ### Headers -/

/-- The header of the open table. -/
inductive Header where
  /-- no header yet: the document itself -/
  | document
  | table (path : List String) (key : String)
  | element (path : List String) (key : String)

/-- A document under construction: what is finished, and the table that is open. -/
structure Building where
  finished : Entries Node := []
  header : Header := .document
  opened : Entries Node := []

namespace Building

/-- Puts the open table where its header says. -/
def close (b : Building) : Option (Entries Node) :=
  match b.header with
  | .document => some b.opened
  | .table path key =>
    Node.update .implied (fun _ entries => some (entries.set key (.table .header b.opened))) path
      .header b.finished
  | .element path key =>
    Node.update .implied (fun _ entries =>
      match entries.lookup? key with
      | none => some (entries.set key (.tables [b.opened]))
      | some (.tables elements) => some (entries.set key (.tables (b.opened :: elements)))
      | some _ => none) path .header b.finished

/-- The entries that a header finds under its key: those of a table that is only implied. -/
def adopted (entries : Entries Node) : (path : List String) → (key : String) → Option (Entries Node)
  | [], key =>
    match entries.lookup? key with
    | none => some []
    | some (.table .implied inner) => some inner
    | some _ => none
  | step :: path, key =>
    match entries.lookup? step with
    | none => some []
    | some (.table _ inner) => adopted inner path key
    | some (.tables (last :: _)) => adopted last path key
    | some _ => none

/-- Opens the table of a header. -/
def openTable (b : Building) (path : List String) (key : String) : Option Building := do
  let finished ← b.close
  let opened ← adopted finished path key
  return { finished, header := .table path key, opened }

/-- Whether a double header may add a table under its key: to a list of tables or to nothing. -/
def admitsElement (entries : Entries Node) : (path : List String) → (key : String) → Bool
  | [], key =>
    match entries.lookup? key with
    | none => true
    | some (.tables _) => true
    | some _ => false
  | step :: path, key =>
    match entries.lookup? step with
    | none => true
    | some (.table _ inner) => admitsElement inner path key
    | some (.tables (last :: _)) => admitsElement last path key
    | some _ => false

/-- Opens the next table of the list of tables that a double header names. -/
def openElement (b : Building) (path : List String) (key : String) : Option Building := do
  let finished ← b.close
  if admitsElement finished path key then
    return { finished, header := .element path key, opened := [] }
  else none

/-- Gives a key a value in the open table. -/
def add (b : Building) (path : List String) (key : String) (v : Value) : Option Building := do
  let opened ← assign b.opened path key v
  return { b with opened }

/-- The finished document. -/
def finish (b : Building) : Option Value := do
  let entries ← b.close
  return .table (Node.entriesToValues entries)

end Building

end Toml

end Framewire
