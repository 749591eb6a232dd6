/-!
# Decimal numerals of bounded length

A whole number is written in decimal, and read from decimal, with at most `maxDigits` digits. A
number that needs more has no text, and whoever wants to print it fails.
-/

namespace RdsReach.Decimal

/-- The most digits that a decimal numeral may have, in either direction. -/
def maxDigits : Nat := 4300

/-- The least number whose numeral would be too long; no proof should compute with it unasked. -/
@[irreducible] def limit : Nat := Nat.pow 10 maxDigits

/-- Does the number have a decimal numeral? -/
def isPrintable (n : Int) : Bool := n.natAbs < limit

theorem isPrintable_iff {n : Int} : isPrintable n = true ↔ n.natAbs < limit := decide_eq_true_iff

/-- The decimal numeral of a number, if it is short enough. -/
def text? (n : Int) : Option String :=
  if isPrintable n then some (toString n) else none

/-- What is said about a number that is too long to print. -/
def overlongText : String :=
  s!"Exceeds the limit ({maxDigits} digits) for integer string conversion; " ++
    "use sys.set_int_max_str_digits() to increase the limit"

/-- What is said about a numeral of `digits` digits that is too long to read. -/
def overlongNumeral (digits : Nat) : String :=
  s!"Exceeds the limit ({maxDigits} digits) for integer string conversion: " ++
    s!"value has {digits} digits; use sys.set_int_max_str_digits() to increase the limit"

end RdsReach.Decimal
