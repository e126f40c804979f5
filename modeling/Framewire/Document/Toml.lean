/-
**Documents in TOML.**

A document is a sequence of lines: entries, headers, comments and empty lines.  A byte order mark
in front is skipped.  Arrays may span lines and end in a comma; inline tables may not.  Arrays and
inline tables are nested less than `Toml.maxDepth` deep.

Main definitions:

* `Toml.value` — a value;
* `Toml.line` — a line, as a change of the document under construction;
* `Toml.parse?` — the document that a text writes.
-/

import Framewire.Document.Toml.Scalar
import Framewire.Document.Toml.Table

set_option autoImplicit false

namespace Framewire

namespace Toml

/-! ### Values -/

/-- The elements of an array after its opening bracket, after those already read, the last one
first. -/
def elements (value : Reader Value) (read : List Value) : (fuel : Nat) → Reader (List Value)
  | 0 => failure
  | fuel + 1 => do
    blankLines fuel
    if (← Reader.optional (Reader.char ']')).isSome then
      return read.reverse
    let v ← value
    blankLines fuel
    match ← Reader.next with
    | ',' => elements value (v :: read) fuel
    | ']' => return (v :: read).reverse
    | _ => failure

/-- An entry: a key, an equals sign and a value. -/
def entry (value : Reader Value) : Reader (List String × String × Value) := do
  let (path, key) ← key
  blank
  Reader.char '='
  blank
  let v ← value
  return (path, key, v)

/-- The entries of an inline table, the first of them next, into those already there. -/
def inlineEntries (value : Reader Value) (entries : Entries Node) :
    (fuel : Nat) → Reader (Entries Node)
  | 0 => failure
  | fuel + 1 => do
    blank
    let (path, key, v) ← entry value
    blank
    match assign entries path key v with
    | none => failure
    | some entries =>
      match ← Reader.next with
      | ',' => inlineEntries value entries fuel
      | '\x7d' => return entries
      | _ => failure

/-- A value inside which arrays and inline tables are nested less than `depth` deep.  `fuel` is at
least the length of the text. -/
def value (fuel : Nat) : (depth : Nat) → Reader Value
  | 0 => failure
  | depth + 1 => do
    match ← Reader.peek? with
    | some '"' => .text <$> string
    | some '\'' => .text <$> string
    | some 't' =>
      Reader.literal ['t', 'r', 'u', 'e']
      return .boolean true
    | some 'f' =>
      Reader.literal ['f', 'a', 'l', 's', 'e']
      return .boolean false
    | some '[' =>
      if depth = 0 then failure
      Reader.char '['
      .list <$> elements (value fuel depth) [] fuel
    | some '\x7b' =>
      if depth = 0 then failure
      Reader.char '\x7b'
      blank
      if (← Reader.optional (Reader.char '\x7d')).isSome then
        return .table []
      let entries ← inlineEntries (value fuel depth) [] fuel
      return .table (Node.entriesToValues entries)
    | _ => number

/-! ### Lines -/

/-- A header, as a change of the document. -/
def header (b : Building) : Reader Building := do
  Reader.char '['
  let double := (← Reader.optional (Reader.char '[')).isSome
  blank
  let (path, key) ← key
  blank
  Reader.char ']'
  if double then
    Reader.char ']'
  match if double then b.openElement path key else b.openTable path key with
  | some b => return b
  | none => failure

/-- A line, as a change of the document. -/
def line (fuel : Nat) (b : Building) : Reader Building := do
  blank
  match ← Reader.peek? with
  | some '[' =>
    let b ← header b
    lineEnd
    return b
  | some '#' =>
    lineEnd
    return b
  | some '\n' =>
    lineEnd
    return b
  | some '\r' =>
    lineEnd
    return b
  | _ =>
    let (path, key, v) ← entry (value fuel maxDepth)
    lineEnd
    match b.add path key v with
    | some b => return b
    | none => failure

/-- The lines of a document, as a change of what is there. -/
def lines (b : Building) : (fuel : Nat) → Reader Building
  | 0 => failure
  | fuel + 1 => do
    blank
    if (← Reader.peek?).isNone then return b
    let b ← line fuel b
    lines b fuel

/-- The document that a text writes. -/
def parse? (text : String) : Option Value := do
  let characters := match text.toList with
    | '\uFEFF' :: rest => rest
    | characters => characters
  let building ← (lines {} (characters.length + 1)).whole characters
  building.finish

end Toml

end Framewire
