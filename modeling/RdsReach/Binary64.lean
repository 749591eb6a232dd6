/-!
# Binary64 numbers, exactly

A number of the IEEE 754 binary64 format is kept as its 64 bits and is never computed with in
floating point. It is decoded to an integer times a power of two, all arithmetic on it is exact
arithmetic on integers, and `Binary64.nearest` rounds a quotient of integers back into the format.

* `Binary64.value` decodes;
* `roundHalfEven` is the one rounding rule: to nearest, ties to the even neighbour;
* `Binary64.nearest` encodes the number nearest to a quotient.
-/

namespace RdsReach

/-- A binary64 number, by its bits. -/
structure Binary64 where
  bits : UInt64
deriving DecidableEq, Repr

/-- The integer nearest to `num / den`, a tie going to the even one. -/
def roundHalfEven (num den : Nat) : Nat :=
  let q := num / den
  let r := num % den
  if 2 * r < den then q
  else if den < 2 * r then q + 1
  else q + q % 2

namespace Binary64

/-- What the bits of a binary64 number stand for. -/
inductive Value where
  /-- `significand * 2 ^ exponent`, negated if `negative`; zero has both signs. -/
  | finite (negative : Bool) (significand : Nat) (exponent : Int)
  | infinite (negative : Bool)
  | nan
deriving DecidableEq, Repr

/-- The exponent of the least positive number. -/
def minExponent : Int := -1074

/-- Bits of the significand below its leading one. -/
def fractionBits : Nat := 52

/-- The pattern of positive infinity, which is above that of every finite number. -/
def infinityBits : Nat := 2047 * Nat.pow 2 fractionBits

/-- Positive zero. -/
def zero : Binary64 := ⟨0⟩

/-- Decodes the bits. -/
def value (x : Binary64) : Value :=
  let n := x.bits.toNat
  let negative : Bool := 0x8000000000000000 ≤ n
  let exponent : Nat := n / Nat.pow 2 fractionBits % 0x800
  let fraction : Nat := n % Nat.pow 2 fractionBits
  if exponent = 2047 then (if fraction = 0 then .infinite negative else .nan)
  else if exponent = 0 then .finite negative fraction minExponent
  else .finite negative (Nat.pow 2 fractionBits + fraction) (minExponent + (exponent - 1))

/-- The exponent at which `num / den` has a significand of 53 bits, or the least exponent if that
is greater. -/
def scale (num den : Nat) : Int :=
  let estimate : Int := num.log2 - den.log2
  let reached :=
    if 0 ≤ estimate then den * Nat.pow 2 estimate.toNat ≤ num
    else den ≤ num * Nat.pow 2 (-estimate).toNat
  max minExponent ((if reached then estimate else estimate - 1) - fractionBits)

/-- The bits of the number nearest to `num / den`; above the greatest finite number that is
infinity. A significand that rounds up to the next power of two carries into the exponent. -/
def nearestBits (num den : Nat) : Nat :=
  if num = 0 then 0
  else
    let e := scale num den
    let significand := roundHalfEven (num * Nat.pow 2 (-e).toNat) (den * Nat.pow 2 e.toNat)
    min infinityBits ((e - minExponent).toNat * Nat.pow 2 fractionBits + significand)

/-- The number nearest to `num / den`; zero is positive. -/
def nearest (num : Int) (den : Nat) : Binary64 :=
  let sign := if num < 0 then 0x8000000000000000 else 0
  ⟨UInt64.ofNat (sign + nearestBits num.natAbs den)⟩

end Binary64

end RdsReach
