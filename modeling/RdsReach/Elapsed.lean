import RdsReach.Binary64

/-!
# Elapsed time

The milliseconds between two clock readings in seconds: the difference and its multiple by a
million are rounded as binary64 numbers, the result goes to whole microseconds, ties to even, and
a thousandth of that is rounded once more.
-/

namespace RdsReach

namespace Binary64

/-- The exact multiple `factor` of the difference `x - y`, rounded once; `none` unless both are
finite. -/
def nearestDifference (x y : Binary64) : Option Binary64 :=
  match x.value, y.value with
  | .finite nx sx ex, .finite ny sy ey =>
    -- both numbers are multiples of the smaller power of two
    let e := min ex ey
    let signed (negative : Bool) (n : Nat) : Int := if negative then -(n : Int) else n
    let units :=
      signed nx (sx * Nat.pow 2 (ex - e).toNat) - signed ny (sy * Nat.pow 2 (ey - e).toNat)
    some (nearest (units * Nat.pow 2 e.toNat) (Nat.pow 2 (-e).toNat))
  | _, _ => none

/-- The product of a finite number and an integer, rounded once. -/
def nearestMultiple (x : Binary64) (factor : Nat) : Option Binary64 :=
  match x.value with
  | .finite negative significand exponent =>
    let units : Int := significand * factor * Nat.pow 2 exponent.toNat
    some (nearest (if negative then -units else units) (Nat.pow 2 (-exponent).toNat))
  | _ => none

/-- The integer nearest to a finite number, a tie going to the even one. -/
def nearestInteger (x : Binary64) : Option Int :=
  match x.value with
  | .finite negative significand exponent =>
    let n : Int :=
      roundHalfEven (significand * Nat.pow 2 exponent.toNat) (Nat.pow 2 (-exponent).toNat)
    some (if negative then -n else n)
  | _ => none

end Binary64

namespace Elapsed

/-- Why two readings have no elapsed time between them. -/
inductive Undefined where
  /-- The time is infinite, or grows beyond the format on the way. -/
  | infinite
  /-- No reading of the two is later than the other. -/
  | notANumber
deriving DecidableEq, Repr

/-- Whole microseconds between two readings. -/
def microseconds? (start stop : Binary64) : Option Int := do
  let seconds ← stop.nearestDifference start
  let scaled ← seconds.nearestMultiple 1000000
  scaled.nearestInteger

/-- Milliseconds between two readings, to the microsecond. -/
def milliseconds (start stop : Binary64) : Except Undefined Binary64 :=
  match microseconds? start stop, start.value, stop.value with
  | some usecs, _, _ => .ok (.nearest usecs 1000)
  | none, .nan, _ => .error .notANumber
  | none, _, .nan => .error .notANumber
  | none, .infinite a, .infinite b => .error (if a = b then .notANumber else .infinite)
  | none, _, _ => .error .infinite

end Elapsed

end RdsReach
