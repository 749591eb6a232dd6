import RdsReach.Address
import RdsReach.Numeral.Digits
import RdsReach.World

/-!
# Numeric hosts

A lookup that asks for numeric addresses only reads the host name itself, as it is in ASCII, and
asks no one. IPv4 addresses are read in the numbers-and-dots form, IPv6 addresses with an optional
decimal scope.
-/

namespace RdsReach.NumericHost

/-- Reads a decimal scope number of four bytes. -/
def readScope? (cs : List Char) : Option Nat :=
  if cs.isEmpty || !cs.all Char.isDigit then none
  else if Numeral.ofDigits 10 cs < 0x100000000 then some (Numeral.ofDigits 10 cs)
  else none

/-- Reads an IPv6 address with an optional scope number, 0 if there is none. -/
def readV6? (cs : List Char) : Option (Address.V6 × Nat) := do
  let address ← Address.V6.read? (IpAddress.withoutScope cs)
  match cs.dropWhile (· ≠ '%') with
  | [] => return (address, 0)
  | _ :: scope => return (address, ← readScope? scope)

/-- Reads an address of either version, an IPv4 address first. -/
def readAddress? (cs : List Char) : Option Candidate :=
  match Address.V4.readLoose? cs with
  | some a => some ⟨Version.four.family, [.name a.text, 0]⟩
  | none =>
    (readV6? cs).map fun (a, scope) =>
      ⟨Version.six.family, [.name a.text, 0, 0, .number scope]⟩

/-- The answer of a lookup that asks for a numeric address only. The system takes the name as
ending before its first NUL. -/
def read? (cs : List Char) : Option Candidate :=
  readAddress? (cs.takeWhile (· ≠ '\x00'))

end RdsReach.NumericHost
