/-
**Numbers and dates of TOML.**

Integers are decimal, with an optional sign and no leading zeros, or hexadecimal, octal or binary
behind `0x`, `0o`, `0b`; single underscores may separate digits; the value fits 64 signed bits.
Floats have a fraction or an exponent or both, or are `inf` or `nan`; they are rounded to the
nearest number, which may not be positive infinity.  A date, a time or both must exist in the
calendar; they are kept as text in canonical form.

Main definitions:

* `Toml.integer`, `Toml.float`, `Toml.dateTime` — the readers;
* `Toml.number` — what begins with a digit or a sign.
-/

import Framewire.Document.Toml.Text
import Framewire.Document.Value

set_option autoImplicit false

namespace Framewire

namespace Toml

/-! ### Digits -/

/-- More digits, single underscores among them. -/
def moreDigits (base : Nat) : (fuel : Nat) → Reader (List Char)
  | 0 => pure []
  | fuel + 1 => do
    let underscore ← Reader.optional (Reader.char '_')
    match ← Reader.optional (Reader.satisfying (Reader.isDigit base)) with
    | some c =>
      let rest ← moreDigits base fuel
      return c :: rest
    | none => if underscore.isSome then failure else return []

/-- Digits, single underscores among them, without the underscores. -/
def digits (base : Nat) : Reader (List Char) := fun text =>
  (do
    let first ← Reader.satisfying (Reader.isDigit base)
    let rest ← moreDigits base text.length
    return first :: rest : Reader (List Char)) text

/-- A plus or minus sign, if there is one; whether it is a minus. -/
def sign : Reader Bool := do
  let c ← Reader.optional (Reader.satisfying fun c => c = '+' ∨ c = '-')
  return c = some '-'

/-- The digits of a decimal integer: a zero alone, or digits that begin with another one. -/
def wholeDigits : Reader (List Char) := do
  if (← Reader.peek?) = some '0' then
    Reader.char '0'
    return ['0']
  else digits 10

/-! ### Integers and floats -/

/-- An integer that fits 64 signed bits. -/
def bounded (negative : Bool) (magnitude : Nat) : Reader Value :=
  let i : Int := if negative then -magnitude else magnitude
  if Value.admits i then pure (.integer i) else failure

/-- The digits of an integer in another base, behind its lead-in. -/
def inBase (letter : Char) (base : Nat) : Reader Value := do
  Reader.literal ['0', letter]
  let ds ← digits base
  bounded false (Reader.numeral base ds)

/-- An integer. -/
def integer : Reader Value := fun text =>
  match text with
  | '0' :: 'x' :: _ => inBase 'x' 16 text
  | '0' :: 'o' :: _ => inBase 'o' 8 text
  | '0' :: 'b' :: _ => inBase 'b' 2 text
  | _ =>
    (do
      let negative ← sign
      let ds ← wholeDigits
      bounded negative (Reader.numeral 10 ds) : Reader Value) text

/-- The exponent of a float. -/
def exponent : Reader Int := do
  let _ ← Reader.satisfying fun c => c = 'e' ∨ c = 'E'
  let negative ← sign
  let value : Int := Reader.numeral 10 (← digits 10)
  return if negative then -value else value

/-- Infinity or no number, with a sign or without. -/
def specialFloat : Reader Value := do
  let negative ← sign
  (do
    Reader.literal ['i', 'n', 'f']
    return .float (.infinite negative))
  <|> (do
    Reader.literal ['n', 'a', 'n']
    return .float .nan)

/-- A float with a fraction or an exponent. -/
def decimalFloat : Reader Value := do
  let negative ← sign
  let whole ← wholeDigits
  let fraction ← Reader.optional do
    Reader.char '.'
    digits 10
  let power ← Reader.optional exponent
  if fraction.isNone ∧ power.isNone then
    failure
  let fraction := fraction.getD []
  let x := Binary64.ofDecimal negative (Reader.numeral 10 (whole ++ fraction))
    (power.getD 0 - fraction.length)
  if x = .infinite false then failure else return .float x

/-- A float. -/
def float : Reader Value := decimalFloat <|> specialFloat

/-! ### Dates and times -/

/-- A number in decimal with leading zeros up to the given width. -/
def padded (width n : Nat) : String :=
  let ds := Nat.toDigits 10 n
  String.ofList (List.replicate (width - ds.length) '0' ++ ds)

/-- A number of the given count of digits between two bounds. -/
def bounds (count low high : Nat) : Reader Nat := do
  let n ← Reader.fixedNumeral 10 count
  if low ≤ n ∧ n ≤ high then return n else failure

/-- Whether a year has a 29th of February. -/
def isLeapYear (year : Nat) : Bool := year % 4 = 0 ∧ (year % 100 ≠ 0 ∨ year % 400 = 0)

/-- The number of days of a month. -/
def daysInMonth (year month : Nat) : Nat :=
  if month = 2 then if isLeapYear year then 29 else 28
  else if month = 4 ∨ month = 6 ∨ month = 9 ∨ month = 11 then 30
  else 31

/-- A date, as text. -/
def date : Reader String := do
  let year ← Reader.fixedNumeral 10 4
  Reader.char '-'
  let month ← bounds 2 1 12
  Reader.char '-'
  let day ← bounds 2 1 31
  if daysInMonth year month < day then failure
  else return padded 4 year ++ "-" ++ padded 2 month ++ "-" ++ padded 2 day

/-- The fraction of a second, as text: nine places at most, without zeros at the end. -/
def secondFraction : Reader String := do
  Reader.char '.'
  let ds ← Reader.span1 (Reader.isDigit 10)
  let ds := (ds.take 9).reverse.dropWhile (· = '0') |>.reverse
  return if ds.isEmpty then "" else "." ++ String.ofList ds

/-- A time of day, as text. -/
def time : Reader String := do
  let hour ← bounds 2 0 23
  Reader.char ':'
  let minute ← bounds 2 0 59
  Reader.char ':'
  let second ← bounds 2 0 60
  let fraction ← Reader.optional secondFraction
  return padded 2 hour ++ ":" ++ padded 2 minute ++ ":" ++ padded 2 second ++ fraction.getD ""

/-- The offset of a time, as text; an offset of zero has no minus. -/
def offset : Reader String :=
  (do
    let _ ← Reader.satisfying fun c => c = 'Z' ∨ c = 'z'
    return "Z")
  <|> (do
    let c ← Reader.satisfying fun c => c = '+' ∨ c = '-'
    let hours ← bounds 2 0 23
    Reader.char ':'
    let minutes ← bounds 2 0 59
    let sign := if c = '-' ∧ hours * 60 + minutes ≠ 0 then "-" else "+"
    return sign ++ padded 2 hours ++ ":" ++ padded 2 minutes)

/-- A date, a date and a time, or a time, as text. -/
def dateTime : Reader Value :=
  (do
    let d ← date
    let rest ← Reader.optional do
      let _ ← Reader.satisfying fun c => c = 'T' ∨ c = 't' ∨ c = ' '
      let t ← time
      let o ← Reader.optional offset
      return "T" ++ t ++ o.getD ""
    return .text (d ++ rest.getD ""))
  <|> (Value.text <$> time)

/-- A number, a date or a time. -/
def number : Reader Value := dateTime <|> float <|> integer

end Toml

end Framewire
