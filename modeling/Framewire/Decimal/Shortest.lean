/-
**The shortest decimal text of a number.**

Of all decimals that read back as a given double-precision number, the text has as few digits as
possible, and of those with as few digits it is the nearest; of two equally near ones it is the
larger.  It is written without an exponent, however long it gets; a number without fraction has no
point.

The decimals that read back are those between the number's two midpoints to its neighbours, the
midpoints included exactly when the significand is even.  For 1, 2, … digits the two neighbours of
the number on that decimal grid are tried; the first grid with one in the interval wins.

Main definitions:

* `Binary64.interval` — the decimals that read back;
* `Binary64.shortest` — the digits and the exponent of the shortest one;
* `Binary64.text` — the text.
-/

import Framewire.Decimal.Binary64

set_option autoImplicit false

namespace Framewire

namespace Binary64

/-- Decimals that read back as one number: from `low / unit` to `high / unit` around
`value / unit`, the ends included or not. -/
structure Interval where
  low : Nat
  value : Nat
  high : Nat
  unit : Nat
  closed : Bool

/-- The decimals that read back as `significand * 2 ^ exponent`. -/
def interval (significand : Nat) (exponent : Int) : Interval :=
  let (num, den) := ratio 1 exponent
  let lower := if significand = Nat.pow 2 (precision - 1) ∧ leastExponent < exponent then 1 else 2
  { low := (4 * significand - lower) * num
    value := 4 * significand * num
    high := (4 * significand + 2) * num
    unit := 4 * den
    closed := significand % 2 = 0 }

/-- Whether `digits * num / den` lies in an interval. -/
def Interval.holds (i : Interval) (digits num den : Nat) : Bool :=
  let point := digits * num * i.unit
  if i.closed then i.low * den ≤ point && point ≤ i.high * den
  else i.low * den < point && point < i.high * den

/-- A power of ten as a quotient. -/
def powerOfTen (exponent : Int) : Nat × Nat :=
  if 0 ≤ exponent then (Nat.pow 10 exponent.toNat, 1) else (1, Nat.pow 10 (-exponent).toNat)

/-- The decimal on the grid of `10 ^ exponent` that reads back and is nearest, if one does; of two
equally near ones the larger. -/
def Interval.onGrid (i : Interval) (exponent : Int) : Option Nat :=
  let (num, den) := powerOfTen exponent
  let below := i.value * den / (i.unit * num)
  let above := below + 1
  match i.holds below num den, i.holds above num den with
  | true, false => some below
  | false, true => some above
  | true, true =>
    if (2 * below + 1) * num * i.unit ≤ 2 * i.value * den then some above else some below
  | false, false => none

/-- The number of digits before the point, which is negative for numbers below a tenth. -/
def Interval.magnitude (i : Interval) : Int :=
  let whole := i.value / i.unit
  if 0 < whole then (Nat.toDigits 10 whole).length
  else
    let inverse := (i.unit - 1) / i.value
    1 - (Nat.toDigits 10 inverse).length

/-- The first decimal found on the grids of `10 ^ exponent`, `10 ^ (exponent - 1)`, …; the last of
`tries` grids is fine enough for every number. -/
def Interval.search (i : Interval) (exponent : Int) : (tries : Nat) → Nat × Int
  | 0 => (0, 0)
  | tries + 1 =>
    match i.onGrid exponent with
    | some digits => (digits, exponent)
    | none => i.search (exponent - 1) tries

/-- The shortest decimal `digits * 10 ^ exponent` that reads back. -/
def shortest (significand : Nat) (exponent : Int) : Nat × Int :=
  let i := interval significand exponent
  i.search (i.magnitude - 1) 20

/-- The text of `digits * 10 ^ exponent`, without an exponent. -/
def positional (digits : Nat) (exponent : Int) : String :=
  let characters := Nat.toDigits 10 digits
  if 0 ≤ exponent then
    String.ofList (characters ++ List.replicate exponent.toNat '0')
  else
    let places := (-exponent).toNat
    let padded := List.replicate (places + 1 - characters.length) '0' ++ characters
    let split := padded.length - places
    let fraction := (padded.drop split).reverse.dropWhile (· = '0') |>.reverse
    let whole := String.ofList (padded.take split)
    if fraction.isEmpty then whole else whole ++ "." ++ String.ofList fraction

/-- The shortest text that reads back as the number. -/
def text : Binary64 → String
  | finite negative significand exponent =>
    let sign := if negative then "-" else ""
    if significand = 0 then sign ++ "0"
    else
      let (digits, exponent) := shortest significand exponent
      sign ++ positional digits exponent
  | infinite negative => if negative then "-inf" else "inf"
  | nan => "NaN"

/-- The shortest text, which for a finite number always has a point. -/
def pointedText (x : Binary64) : String :=
  match x with
  | finite .. => if x.text.toList.contains '.' then x.text else x.text ++ ".0"
  | _ => x.text

end Binary64

end Framewire
