/-
**Double-precision numbers, exactly.**

A finite number is a sign and `significand * 2 ^ exponent`; the significand is below 2^53 and, unless
the exponent is the least one, at least 2^52, so that every number has one representation.  A
quotient of naturals is rounded to the nearest number, a tie to the even significand; a result
beyond the largest number is infinite.  Everything is computed in natural numbers, so a rounding is
right by construction and open to proofs.

Main definitions:

* `Binary64` — the numbers;
* `Binary64.ofRatio` — the nearest number to a quotient;
* `Binary64.ofDecimal` — the nearest number to `digits * 10 ^ exponent`;
* `Binary64.mul`, `Binary64.div` — rounded product and quotient;
* `Binary64.roundToNat` — the nearest natural number, a half away from zero, up to a limit.
-/

set_option autoImplicit false

namespace Framewire

/-- A double-precision number. -/
inductive Binary64 where
  | finite (negative : Bool) (significand : Nat) (exponent : Int)
  | infinite (negative : Bool)
  | nan
deriving DecidableEq, Repr

namespace Binary64

/-- The number of bits of a significand. -/
def precision : Nat := 53

/-- The least exponent. -/
def leastExponent : Int := -1074

/-- The greatest exponent. -/
def greatestExponent : Int := 971

/-- Zero, with a sign. -/
def zero (negative : Bool) : Binary64 := finite negative 0 leastExponent

/-- The quotient `num * 2 ^ -exponent / den` as a numerator and a denominator. -/
def scaled (num den : Nat) (exponent : Int) : Nat × Nat :=
  if 0 ≤ exponent then (num, den * Nat.pow 2 exponent.toNat)
  else (num * Nat.pow 2 (-exponent).toNat, den)

/-- The nearest natural number to a quotient, a tie to the even one. -/
def roundHalfEven (num den : Nat) : Nat :=
  let quotient := num / den
  let twice := 2 * (num % den)
  if den < twice ∨ (twice = den ∧ quotient % 2 = 1) then quotient + 1 else quotient

/-- The exponent with which a quotient other than zero has a significand of full precision, or the
least exponent where it has none. -/
def exponentOf (num den : Nat) : Int :=
  let guess : Int := (Nat.log2 num : Int) - (Nat.log2 den : Int) - (precision - 1 : Nat)
  let (n, d) := scaled num den guess
  let exponent := if n / d < Nat.pow 2 (precision - 1) then guess - 1 else guess
  max exponent leastExponent

/-- A significand and an exponent as a number: a significand that rounding has made too long is
halved, and an exponent that is too great makes the number infinite. -/
def pack (negative : Bool) (significand : Nat) (exponent : Int) : Binary64 :=
  let (significand, exponent) :=
    if significand = Nat.pow 2 precision then (Nat.pow 2 (precision - 1), exponent + 1)
    else (significand, exponent)
  if greatestExponent < exponent then infinite negative
  else if significand = 0 then zero negative
  else finite negative significand exponent

/-- The nearest number to a quotient with the given sign.  The denominator is not zero. -/
def ofRatio (negative : Bool) (num den : Nat) : Binary64 :=
  if num = 0 then zero negative
  else
    let exponent := exponentOf num den
    let (n, d) := scaled num den exponent
    pack negative (roundHalfEven n d) exponent

/-- The nearest number to a natural number. -/
def ofNat (n : Nat) : Binary64 := ofRatio false n 1

/-- The nearest number to `significand * 10 ^ exponent`.  The number of decimal digits and the
exponent alone tell when the value is out of range, and then nothing is computed. -/
def ofDecimal (negative : Bool) (significand : Nat) (exponent : Int) : Binary64 :=
  let magnitude : Int := ((Nat.toDigits 10 significand).length : Int) + exponent
  if significand = 0 ∨ magnitude < -400 then zero negative
  else if 400 < magnitude then infinite negative
  else if 0 ≤ exponent then ofRatio negative (significand * Nat.pow 10 exponent.toNat) 1
  else ofRatio negative significand (Nat.pow 10 (-exponent).toNat)

/-- The number with the opposite sign. -/
def neg : Binary64 → Binary64
  | finite negative significand exponent => finite (!negative) significand exponent
  | infinite negative => infinite (!negative)
  | nan => nan

/-- A power of two times a natural number as a quotient. -/
def ratio (significand : Nat) (exponent : Int) : Nat × Nat :=
  if 0 ≤ exponent then (significand * Nat.pow 2 exponent.toNat, 1)
  else (significand, Nat.pow 2 (-exponent).toNat)

/-- The rounded product of two finite numbers; there is no other product here. -/
def mul : Binary64 → Binary64 → Binary64
  | finite s m e, finite s' m' e' =>
    let (num, den) := ratio (m * m') (e + e')
    ofRatio (s != s') num den
  | _, _ => nan

/-- The rounded quotient of two finite numbers, the second one not zero. -/
def div : Binary64 → Binary64 → Binary64
  | finite s m e, finite s' m' e' =>
    if m' = 0 then nan
    else
      let (num, den) := ratio m (e - e')
      ofRatio (s != s') num (den * m')
  | _, _ => nan

/-- Whether a number is zero, of either sign. -/
def isZero : Binary64 → Bool
  | finite _ significand _ => significand = 0
  | _ => false

/-- Whether a number is infinite. -/
def isInfinite : Binary64 → Bool
  | infinite _ => true
  | _ => false

/-- The nearest natural number, a half away from zero; numbers below zero become zero, and numbers
above the limit the limit. -/
def roundToNat (limit : Nat) : Binary64 → Nat
  | finite true _ _ => 0
  | finite false significand exponent =>
    let (num, den) := ratio significand exponent
    min limit ((2 * num + den) / (2 * den))
  | infinite true => 0
  | infinite false => limit
  | nan => 0

end Binary64

end Framewire
