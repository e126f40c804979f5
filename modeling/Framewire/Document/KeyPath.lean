/-
**Key paths.**

A key at the top of a document may be a path into its tables: names joined by points, and numbers
in brackets for elements of lists.  Names are compared without regard to case.  A value is put at
a path in such a way that everything around it stays: a table is merged into the table that is
there, entry by entry; any other value takes the place of what is there.  What is in the way of a
path gives way to it, and lists grow as needed.

Main definitions:

* `KeyPath.parse?` — the path that a key writes;
* `Value.place` — puts a value under a key of a table;
* `Value.placeAt` — puts a value at a path;
* `Value.normalize` — a document with its keys in lower case and its paths carried out.
-/

import Framewire.Document.Value
import Framewire.Text.Reader

set_option autoImplicit false

namespace Framewire

/-- A step of a path: into a table or into a list. -/
inductive KeyStep where
  | name (key : String)
  | index (i : Int)
deriving DecidableEq, Repr

/-- A path into a document. -/
abbrev KeyPath := List KeyStep

namespace KeyPath

/-- Characters of a name. -/
def isName (c : Char) : Bool := c.isAlphanum ∨ c = ' ' ∨ c = '_' ∨ c = '-'

/-- A name. -/
def name : Reader KeyStep := do
  let cs ← Reader.span1 isName
  return .name (String.ofList cs)

/-- A number in brackets; it fits 64 signed bits. -/
def index : Reader KeyStep := do
  Reader.char '['
  let _ ← Reader.span (· = ' ')
  let sign ← Reader.optional (Reader.satisfying fun c => c = '+' ∨ c = '-')
  let digits ← Reader.span1 (Reader.isDigit 10)
  let _ ← Reader.span (· = ' ')
  Reader.char ']'
  let magnitude : Int := Reader.numeral 10 digits
  let i := if sign = some '-' then -magnitude else magnitude
  if Value.admits i then return .index i else failure

/-- The steps behind the first one. -/
def steps : (fuel : Nat) → Reader KeyPath
  | 0 => failure
  | fuel + 1 => do
    if (← Reader.peek?).isNone then return []
    let step ← (do Reader.char '.'; name) <|> index
    let rest ← steps fuel
    return step :: rest

/-- A path. -/
def path (fuel : Nat) : Reader KeyPath := do
  let first ← name
  let rest ← steps fuel
  return first :: rest

/-- The path that a key writes, if it is one. -/
def parse? (key : String) : Option KeyPath :=
  let characters := key.toList
  (path (characters.length + 1)).whole characters

end KeyPath

/-! ### Putting values into documents -/

/-- A character in lower case, as far as it has to do with the letters a to z: the sign for kelvin
is a letter K. -/
def lowerCharacter (c : Char) : Char := if c = '\u212A' then 'k' else c.toLower

/-- A key without regard to case. -/
def lowerKey (key : String) : String := key.map lowerCharacter

namespace Value

/-- The entries of a table; no other value has any. -/
def entries : Value → Entries Value
  | table entries => entries
  | _ => []

/-- The elements of a list; no other value has any. -/
def elements : Value → List Value
  | list elements => elements
  | _ => []

mutual

/-- Puts a value under a key of a table; what is no table gives way to one. -/
def place (root : Value) (key : String) : (v : Value) → Value
  | table incoming =>
    let there := (root.entries.lookup? (lowerKey key)).getD (table [])
    table (root.entries.set (lowerKey key) (placeAll there incoming))
  | null => table (root.entries.set (lowerKey key) null)
  | boolean b => table (root.entries.set (lowerKey key) (boolean b))
  | integer i => table (root.entries.set (lowerKey key) (integer i))
  | float x => table (root.entries.set (lowerKey key) (float x))
  | text s => table (root.entries.set (lowerKey key) (text s))
  | list vs => table (root.entries.set (lowerKey key) (list vs))

/-- Puts entries into a table, one after the other. -/
def placeAll (root : Value) : (incoming : List (String × Value)) → Value
  | [] => root
  | (key, v) :: rest => placeAll (place root key v) rest

end

/-- The position of a number in a list; a negative number counts from the end. -/
def position (i : Int) (length : Nat) : Nat :=
  if 0 ≤ i then i.toNat else length - i.natAbs

/-- A list that has an element at a position. -/
def padTo (elements : List Value) (position : Nat) : List Value :=
  elements ++ List.replicate (position + 1 - elements.length) null

/-- Changes an element of a list; what is no list gives way to one. -/
def changeElement (root : Value) (i : Int) (change : Value → Value) : Value :=
  let spot := position i root.elements.length
  list ((padTo root.elements spot).modify spot change)

/-- Changes what stands under a key of a table; what is no table gives way to one. -/
def changeEntry (root : Value) (key : String) (change : Value → Value) : Value :=
  let there := (root.entries.lookup? (lowerKey key)).getD null
  table (root.entries.set (lowerKey key) (change there))

/-- Puts a value at a path. -/
def placeAt (v : Value) : (path : KeyPath) → (root : Value) → Value
  | [], _ => v
  | [.name key], root => root.place key v
  | [.index i], root => root.changeElement i fun _ => v
  | .name key :: path, root => root.changeEntry key (placeAt v path)
  | .index i :: path, root => root.changeElement i (placeAt v path)

/-- Puts the value of a key of a document where it belongs: at the path that the key writes, or
under the key itself. -/
def placeKey (root : Value) (key : String) (v : Value) : Value :=
  match KeyPath.parse? key with
  | some path => placeAt v path root
  | none => root.place key v

/-- A document with its keys in lower case and its paths carried out. -/
def normalize (document : Value) : Value :=
  document.entries.foldl (fun root (key, v) => root.placeKey key v) (table [])

end Value

end Framewire
