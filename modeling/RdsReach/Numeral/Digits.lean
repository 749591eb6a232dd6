/-!
# Digits

ASCII digits of bases up to 16, and the number that a row of them denotes. Digits of other scripts
are no digits here.
-/

namespace RdsReach.Numeral

/-- The value of a digit, of either case above nine. -/
def digitValue (c : Char) : Nat :=
  if c.isDigit then c.toNat - 0x30
  else if 'a' ≤ c then c.toNat - 0x57
  else c.toNat - 0x37

/-- Is this a digit of base 16? -/
def isHexDigit (c : Char) : Bool :=
  c.isDigit || ('a' ≤ c && c ≤ 'f') || ('A' ≤ c && c ≤ 'F')

/-- Is this a digit of base 8? -/
def isOctalDigit (c : Char) : Bool := '0' ≤ c && c ≤ '7'

/-- The number that a row of digits denotes in a base, the first digit weighing most. -/
def ofDigits (base : Nat) (cs : List Char) : Nat :=
  cs.foldl (fun n c => n * base + digitValue c) 0

end RdsReach.Numeral
