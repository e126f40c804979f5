/-
**Characters, keys and strings of TOML.**

A bare key is made of letters, digits, hyphens and underscores.  Strings stand between double
quotes, with escapes, or between single quotes, as they are; three quotes of a kind open a string
of several lines, which may hold one or two of these quotes in a row and drops a line break right
after the opening.  Lines end in a line feed, or in a carriage return and a line feed, which counts
as a line feed inside a string.  Control characters other than the tabulator occur nowhere.

Main definitions:

* `Toml.blank`, `Toml.comment`, `Toml.lineBreak`, `Toml.lineEnd` — what separates things;
* `Toml.string` — a string of any kind;
* `Toml.key` — a key, whose parts are separated by points.
-/

import Framewire.Text.Reader

set_option autoImplicit false

namespace Framewire

namespace Toml

/-- The number of parts at which a key is too long, and the depth at which values are too deeply
nested. -/
def maxDepth : Nat := 80

/-! ### Separators -/

/-- Blank space inside a line. -/
def isBlank (c : Char) : Bool := c = ' ' ∨ c = '\t'

/-- Blank space inside a line, if there is any. -/
def blank : Reader Unit := do
  let _ ← Reader.span isBlank

/-- Characters that may stand in comments and strings: all but control characters, and the
tabulator. -/
def isPlain (c : Char) : Bool := c = '\t' ∨ (0x20 ≤ c.toNat ∧ c.toNat ≠ 0x7F)

/-- The end of a line. -/
def lineBreak : Reader Unit := do
  let _ ← Reader.optional (Reader.char '\r')
  Reader.char '\n'

/-- A comment, up to the end of its line. -/
def comment : Reader Unit := do
  Reader.char '#'
  let _ ← Reader.span isPlain

/-- What may follow on a line: blank space and a comment, up to the end of the line or of the
text. -/
def lineEnd : Reader Unit := do
  blank
  let _ ← Reader.optional comment
  lineBreak <|> Reader.atEnd

/-- Blank space, comments and line breaks, as many as there are. -/
def blankLines : (fuel : Nat) → Reader Unit
  | 0 => pure ()
  | fuel + 1 => do
    blank
    let more ← Reader.optional do
      let _ ← Reader.optional comment
      lineBreak
    if more.isSome then blankLines fuel

/-! ### Strings -/

/-- The character of an escape of one letter. -/
def escaped? : Char → Option Char
  | 'b' => some '\x08'
  | 't' => some '\t'
  | 'n' => some '\n'
  | 'f' => some '\x0c'
  | 'r' => some '\r'
  | '"' => some '"'
  | '\\' => some '\\'
  | _ => none

/-- The character of a number, which may be no half of a pair. -/
def scalar (n : Nat) : Reader Char :=
  if n < 0xD800 ∨ (0xE000 ≤ n ∧ n < 0x110000) then pure (Char.ofNat n) else failure

/-- An escape, after its backslash. -/
def escape : Reader Char := do
  let letter ← Reader.next
  if letter = 'u' then
    scalar (← Reader.fixedNumeral 16 4)
  else if letter = 'U' then
    scalar (← Reader.fixedNumeral 16 8)
  else
    match escaped? letter with
    | some c => return c
    | none => failure

/-- The characters of a string between double quotes up to the closing one, after those already
read, the last one first. -/
def basicCharacters (read : List Char) : (fuel : Nat) → Reader String
  | 0 => failure
  | fuel + 1 => do
    let c ← Reader.next
    if c = '"' then return String.ofList read.reverse
    else if c = '\\' then
      let e ← escape
      basicCharacters (e :: read) fuel
    else if isPlain c then basicCharacters (c :: read) fuel
    else failure

/-- A string between double quotes. -/
def basicString : Reader String := fun text =>
  (do Reader.char '"'; basicCharacters [] text.length : Reader String) text

/-- A string between single quotes. -/
def literalString : Reader String := do
  Reader.char '\''
  let characters ← Reader.span fun c => isPlain c ∧ c ≠ '\''
  Reader.char '\''
  return String.ofList characters

/-- What one or more quotes in a string of several lines come to: up to two are characters of the
string; with more, the last three close it, of five at the most. -/
inductive Quotes where
  | inside (count : Nat)
  | closing (count : Nat)

/-- The quotes at the front of the text, and what they come to. -/
def quotes (quote : Char) : Reader Quotes := fun text =>
  let count := (text.takeWhile (· = quote)).length
  if count < 3 then some (.inside count, text.drop count)
  else
    let inside := min (count - 3) 2
    some (.closing inside, text.drop (inside + 3))

/-- Blank space and line breaks, as many as there are. -/
def foldedLines : (fuel : Nat) → Reader Unit
  | 0 => pure ()
  | fuel + 1 => do
    blank
    if (← Reader.optional lineBreak).isSome then foldedLines fuel

/-- The characters of a string of several lines, after those already read, the last one first.
Between double quotes a backslash begins an escape, or, at the end of a line, hides that and all
blank space after it. -/
def linesCharacters (quote : Char) (read : List Char) : (fuel : Nat) → Reader String
  | 0 => failure
  | fuel + 1 => do
    match ← Reader.peek? with
    | none => failure
    | some c =>
      if c = quote then
        match ← quotes quote with
        | .inside count => linesCharacters quote (List.replicate count quote ++ read) fuel
        | .closing count => return String.ofList (List.replicate count quote ++ read).reverse
      else if c = '\n' ∨ c = '\r' then
        lineBreak
        linesCharacters quote ('\n' :: read) fuel
      else if c = '\\' ∧ quote = '"' then
        Reader.char '\\'
        let folded ← Reader.optional do
          blank
          lineBreak
        if folded.isSome then
          foldedLines fuel
          linesCharacters quote read fuel
        else
          let e ← escape
          linesCharacters quote (e :: read) fuel
      else if isPlain c then
        Reader.char c
        linesCharacters quote (c :: read) fuel
      else failure

/-- A string of several lines between three quotes of the given kind. -/
def linesString (quote : Char) : Reader String := fun text =>
  (do
    Reader.literal [quote, quote, quote]
    let _ ← Reader.optional lineBreak
    linesCharacters quote [] text.length : Reader String) text

/-- Whether the text begins with three quotes of the given kind. -/
def opensLines (quote : Char) : Reader Bool := fun text =>
  some (text.take 3 = [quote, quote, quote], text)

/-- A string of any kind. -/
def string : Reader String := do
  if ← opensLines '"' then linesString '"'
  else if ← opensLines '\'' then linesString '\''
  else basicString <|> literalString

/-! ### Keys -/

/-- Characters of a bare key. -/
def isBareKey (c : Char) : Bool := c.isAlphanum ∨ c = '-' ∨ c = '_'

/-- One part of a key. -/
def keyPart : Reader String := do
  match ← Reader.peek? with
  | some '"' => basicString
  | some '\'' => literalString
  | _ => String.ofList <$> Reader.span1 isBareKey

/-- The parts of a key behind the first one. -/
def keyParts : (fuel : Nat) → Reader (List String)
  | 0 => failure
  | fuel + 1 => do
    let more ← Reader.optional do
      blank
      Reader.char '.'
    if more.isSome then
      blank
      let part ← keyPart
      let parts ← keyParts fuel
      return part :: parts
    else return []

/-- A key: its parts but the last one, and the last one. -/
def key : Reader (List String × String) := do
  let first ← keyPart
  let parts := first :: (← keyParts maxDepth)
  if maxDepth ≤ parts.length then failure
  else return (parts.dropLast, parts.getLastD first)

end Toml

end Framewire
