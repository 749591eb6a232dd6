import RdsReach.Binary64

/-!
# Binary64 numbers with a fixed number of decimal places

The exact value is rounded once, to the nearest multiple of the last place, ties to even; a
negative number keeps its sign even where all digits are zero.
-/

namespace RdsReach.Binary64

/-- The decimal digits of `n`, at least `width` of them. -/
def paddedDigits (width n : Nat) : List Char :=
  let digits := (toString n).toList
  List.replicate (width - digits.length) '0' ++ digits

/-- The text of a natural number of units, `places` of which digits stand after the point. -/
def pointed (places units : Nat) : String :=
  let digits := paddedDigits (places + 1) units
  let whole := digits.take (digits.length - places)
  String.ofList (whole ++ '.' :: digits.drop whole.length)

/-- The text of a number with `places` decimal places. -/
def fixed (places : Nat) (x : Binary64) : String :=
  match x.value with
  | .nan => "nan"
  | .infinite negative => if negative then "-inf" else "inf"
  | .finite negative significand exponent =>
    let units := roundHalfEven (significand * Nat.pow 10 places * Nat.pow 2 exponent.toNat)
      (Nat.pow 2 (-exponent).toNat)
    (if negative then "-" else "") ++ pointed places units

end RdsReach.Binary64
