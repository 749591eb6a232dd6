import RdsReach.Binary64

/-!
# The shortest decimal that reads back

The text of a binary64 number has the fewest significant digits of all decimals that round to it,
and of those it is the nearest. Numbers whose leading digit weighs at least `10 ^ -4` and less
than `10 ^ 16` are written positionally, with a digit after the point even if it is zero; the
others with an exponent of at least two digits.

The search walks the decimal grids of 1, 2, ... 17 digits. On each grid only the two neighbours of
the number can be the nearest point, so the first grid on which one of them rounds to the number
decides.
-/

namespace RdsReach.Binary64

/-- A positive number as an interval of quarter units: the multiples `low` to `high` of
`2 ^ exponent` round to the number, which is `middle` of them; `closed` tells whether the ends
do too. -/
structure Interval where
  low : Nat
  middle : Nat
  high : Nat
  exponent : Int
  closed : Bool

/-- The numbers that round to `significand * 2 ^ exponent`. Below a power of two the format is
twice as fine as above it. -/
def interval (significand : Nat) (exponent : Int) : Interval where
  low :=
    if significand = Nat.pow 2 fractionBits ∧ minExponent < exponent then 4 * significand - 1
    else 4 * significand - 2
  middle := 4 * significand
  high := 4 * significand + 2
  exponent := exponent - 2
  closed := significand % 2 = 0

/-- Numerator and denominator of `units * 2 ^ exponent / 10 ^ place`. -/
def gridRatio (units : Nat) (exponent place : Int) : Nat × Nat :=
  (units * Nat.pow 2 exponent.toNat * Nat.pow 10 (-place).toNat,
    Nat.pow 2 (-exponent).toNat * Nat.pow 10 place.toNat)

/-- Does the grid point `digits * 10 ^ place` lie in the interval? -/
def Interval.holds (i : Interval) (digits : Nat) (place : Int) : Bool :=
  let (low, den) := gridRatio i.low i.exponent place
  let (high, _) := gridRatio i.high i.exponent place
  if i.closed then low ≤ digits * den && digits * den ≤ high
  else low < digits * den && digits * den < high

/-- The point of the grid of `10 ^ place` that is nearest to the number among those that round to
it. -/
def Interval.onGrid (i : Interval) (place : Int) : Option Nat :=
  let (num, den) := gridRatio i.middle i.exponent place
  let below := num / den
  let nearer := roundHalfEven num den
  let farther := if nearer = below then below + 1 else below
  if i.holds nearer place then some nearer
  else if i.holds farther place then some farther
  else none

/-- The weight of the leading decimal digit of the number, as a power of ten. -/
def Interval.leading (i : Interval) : Int :=
  let reaches (place : Int) : Bool :=
    let (num, den) := gridRatio i.middle i.exponent place
    den ≤ num
  -- all positive numbers of the format lie between these powers of ten
  let places := (List.range 633).map fun (k : Nat) => 308 - (k : Int)
  (places.find? reaches).getD (-324)

/-- The shortest decimal in the interval: its digits as a number, and the weight of the last
one. -/
def Interval.shortest (i : Interval) : Nat × Int :=
  let leading := i.leading
  let attempt? (count : Nat) : Option (Nat × Int) :=
    let place := leading - count
    (i.onGrid place).map (·, place)
  ((List.range 17).findSome? attempt?).getD (0, 0)

/-- The significant digits of a number without trailing zeros. -/
def significant (digits : Nat) : List Char :=
  ((toString digits).toList.reverse.dropWhile (· = '0')).reverse

/-- The text of the decimal `0.d₁d₂… * 10 ^ point`. -/
def decimalText (digits : List Char) (point : Int) : String :=
  -- positionally, or else with an exponent
  if -4 < point ∧ point ≤ 16 then
    if point ≤ 0 then
      "0." ++ String.ofList (List.replicate (-point).toNat '0' ++ digits)
    else
      let whole := digits.take point.toNat
      let fraction := digits.drop point.toNat
      String.ofList (whole ++ List.replicate (point.toNat - whole.length) '0') ++ "." ++
        (if fraction.isEmpty then "0" else String.ofList fraction)
  else
    let exponent := point - 1
    let fraction := digits.drop 1
    let magnitude := toString exponent.natAbs
    String.ofList (digits.take 1) ++
      (if fraction.isEmpty then "" else "." ++ String.ofList fraction) ++
      "e" ++ (if exponent < 0 then "-" else "+") ++
      (if magnitude.length < 2 then "0" ++ magnitude else magnitude)

/-- The shortest text of a number. -/
def shortest (x : Binary64) : String :=
  match x.value with
  | .nan => "nan"
  | .infinite negative => if negative then "-inf" else "inf"
  | .finite negative significand exponent =>
    (if negative then "-" else "") ++
      if significand = 0 then "0.0"
      else
        let (digits, place) := (interval significand exponent).shortest
        decimalText (significant digits) (place + (toString digits).length)

end RdsReach.Binary64
