/-
**Documents in JSON.**

A text is one value with blank space around it.  Strings may not hold control characters, and a
`\u` escape that is half of a pair needs the other half.  Arrays and objects are nested less than
`Json.maxDepth` deep.  In an object the last entry of a key counts.

Numbers without fraction and exponent that fit 64 signed bits are integers; every other number is
read with rounding at each step: the digits up to 64 bits, rounded, times or divided by a power of
ten.  A number too great for that is an error; one too small is zero.

Main definitions:

* `Json.parse?` — the value that a text writes.
-/

import Framewire.Document.Value
import Framewire.Text.Reader

set_option autoImplicit false

namespace Framewire

namespace Json

/-- The depth at which arrays and objects are too deeply nested. -/
def maxDepth : Nat := 128

/-- Blank space. -/
def isBlank (c : Char) : Bool := c = ' ' ∨ c = '\t' ∨ c = '\n' ∨ c = '\r'

/-- Blank space, if there is any. -/
def blank : Reader Unit := do
  let _ ← Reader.span isBlank

/-! ### Strings -/

/-- The character of an escape of one letter. -/
def escaped? : Char → Option Char
  | '"' => some '"'
  | '\\' => some '\\'
  | '/' => some '/'
  | 'b' => some '\x08'
  | 'f' => some '\x0c'
  | 'n' => some '\n'
  | 'r' => some '\r'
  | 't' => some '\t'
  | _ => none

/-- The character of a `\u` escape, after these two characters: four digits, or twice four for a
character beyond them. -/
def unicodeEscape : Reader Char := do
  let first ← Reader.fixedNumeral 16 4
  if 0xDC00 ≤ first ∧ first < 0xE000 then failure
  else if 0xD800 ≤ first ∧ first < 0xDC00 then
    Reader.literal ['\\', 'u']
    let second ← Reader.fixedNumeral 16 4
    if 0xDC00 ≤ second ∧ second < 0xE000 then
      return Char.ofNat (0x10000 + (first - 0xD800) * 0x400 + (second - 0xDC00))
    else failure
  else
    return Char.ofNat first

/-- One character of a string, as it is or escaped. -/
def stringCharacter : Reader Char := do
  let c ← Reader.next
  if c = '\\' then
    let letter ← Reader.next
    if letter = 'u' then unicodeEscape
    else
      match escaped? letter with
      | some character => return character
      | none => failure
  else if c.toNat < 0x20 ∨ c = '"' then failure
  else return c

/-- The characters of a string up to its closing quote, after those already read, the last one
first.  No string has more characters than its text. -/
def stringCharacters (read : List Char) : (fuel : Nat) → Reader String
  | 0 => failure
  | fuel + 1 => do
    match ← Reader.peek? with
    | some '"' =>
      Reader.char '"'
      return String.ofList read.reverse
    | _ =>
      let c ← stringCharacter
      stringCharacters (c :: read) fuel

/-- A string, after its opening quote. -/
def stringRest : Reader String := fun text => stringCharacters [] (text.length + 1) text

/-! ### Numbers -/

/-- Digits of a number as far as they fit 64 bits. -/
structure Digits where
  /-- the number that the digits write -/
  significand : Nat
  /-- how many of the digits were used -/
  used : Nat
  /-- whether there was no room for the rest -/
  full : Bool

/-- Reads on in `digits` behind a significand; stops before the digit that no longer fits. -/
def Digits.extend (significand used : Nat) : List Char → Digits
  | [] => ⟨significand, used, false⟩
  | c :: rest =>
    let longer := significand * 10 + (c.toNat - '0'.toNat)
    if UInt64.size ≤ longer then ⟨significand, used, true⟩ else extend longer (used + 1) rest

/-- Divides by great powers of ten as long as the exponent is below all small ones. -/
def shrink (x : Binary64) (exponent : Int) : (fuel : Nat) → Binary64 × Int
  | 0 => (x, exponent)
  | fuel + 1 =>
    if exponent < -308 ∧ x.isZero = false then
      shrink (x.div (.ofNat (Nat.pow 10 308))) (exponent + 308) fuel
    else (x, exponent)

/-- `significand * 10 ^ exponent`, rounded at each step; nothing if it is too great. -/
def scale? (significand : Nat) (exponent : Int) : Option Binary64 :=
  let x := Binary64.ofNat significand
  if x.isZero then some x
  else if 308 < exponent then none
  else if 0 ≤ exponent then
    let product := x.mul (.ofNat (Nat.pow 10 exponent.toNat))
    if product.isInfinite then none else some product
  else
    let (x, exponent) := shrink x exponent 4
    if x.isZero ∨ exponent < -308 then some (.zero false)
    else some (x.div (.ofNat (Nat.pow 10 (-exponent).toNat)))

/-- The exponent of a number: the letter, a sign, and digits. -/
def exponent : Reader Int := do
  let _ ← Reader.satisfying fun c => c = 'e' ∨ c = 'E'
  let sign ← Reader.optional (Reader.satisfying fun c => c = '+' ∨ c = '-')
  let digits ← Reader.span1 (Reader.isDigit 10)
  let value : Int := Reader.numeral 10 digits
  return if sign = some '-' then -value else value

/-- The digits before the point: a zero, or digits that begin with another one. -/
def wholeDigits : Reader (List Char) := do
  let digits ← Reader.span1 (Reader.isDigit 10)
  if digits.head? = some '0' ∧ 1 < digits.length then failure else return digits

/-- A number. -/
def number : Reader Value := do
  let negative := (← Reader.optional (Reader.char '-')).isSome
  let whole ← wholeDigits
  let fraction ← Reader.optional do
    Reader.char '.'
    Reader.span1 (Reader.isDigit 10)
  let power ← match ← Reader.peek? with
    | some 'e' => some <$> exponent
    | some 'E' => some <$> exponent
    | _ => pure none
  let head := Digits.extend 0 0 whole
  let integer : Int := if negative then -head.significand else head.significand
  if fraction.isNone ∧ power.isNone ∧ head.full = false ∧ Value.admits integer
      ∧ (negative = false ∨ integer ≠ 0) then
    return .integer integer
  let tail := Digits.extend head.significand 0 (fraction.getD [])
  let exponent : Int := power.getD 0 + (whole.length - head.used : Nat) - tail.used
  match scale? tail.significand exponent with
  | some x => return .float (if negative then x.neg else x)
  | none => failure

/-! ### Values -/

/-- The elements of an array after its opening bracket, the first of them or the bracket next,
after those already read, the last one first. -/
def elements (value : Reader Value) (read : List Value) : (fuel : Nat) → Reader (List Value)
  | 0 => failure
  | fuel + 1 => do
    blank
    let v ← value
    blank
    match ← Reader.next with
    | ',' => elements value (v :: read) fuel
    | ']' => return (v :: read).reverse
    | _ => failure

/-- The entries of an object after its opening brace, the first of them next, after those already
read. -/
def members (value : Reader Value) (read : Entries Value) : (fuel : Nat) → Reader (Entries Value)
  | 0 => failure
  | fuel + 1 => do
    blank
    Reader.char '"'
    let key ← stringRest
    blank
    Reader.char ':'
    blank
    let v ← value
    blank
    let read := read.set key v
    match ← Reader.next with
    | ',' => members value read fuel
    | '}' => return read
    | _ => failure

/-- A value inside which arrays and objects are nested less than `depth` deep.  `fuel` is at least
the length of the text. -/
def value (fuel : Nat) : (depth : Nat) → Reader Value
  | 0 => failure
  | depth + 1 => do
    match ← Reader.peek? with
    | some 'n' =>
      Reader.literal ['n', 'u', 'l', 'l']
      return .null
    | some 't' =>
      Reader.literal ['t', 'r', 'u', 'e']
      return .boolean true
    | some 'f' =>
      Reader.literal ['f', 'a', 'l', 's', 'e']
      return .boolean false
    | some '"' =>
      Reader.char '"'
      .text <$> stringRest
    | some '[' =>
      if depth = 0 then failure
      Reader.char '['
      blank
      if (← Reader.peek?) = some ']' then
        Reader.char ']'
        return .list []
      .list <$> elements (value fuel depth) [] fuel
    | some '\x7b' =>
      if depth = 0 then failure
      Reader.char '\x7b'
      blank
      if (← Reader.peek?) = some '\x7d' then
        Reader.char '\x7d'
        return .table []
      .table <$> members (value fuel depth) [] fuel
    | _ => number

/-- A value with blank space around it. -/
def document (fuel : Nat) : Reader Value := do
  blank
  let v ← value fuel maxDepth
  blank
  return v

/-- The value that a text writes. -/
def parse? (text : String) : Option Value :=
  let characters := text.toList
  (document (characters.length + 1)).whole characters

end Json

end Framewire
