import RdsReach.Numeral.Digits
import RdsReach.Text.Parts

/-!
# IPv4 addresses

Four octets, written in decimal with points between them. Two readers belong to it:

* `V4.read?` takes what the printer writes and nothing else: four decimal parts without leading
  zeros;
* `V4.readLoose?` takes the numbers-and-dots form of host names, of one to four parts in base 10,
  8 or 16, the last of which fills all remaining octets.
-/

namespace RdsReach.Address

/-- An IPv4 address. -/
structure V4 where
  a : UInt8
  b : UInt8
  c : UInt8
  d : UInt8
deriving DecidableEq, Repr

namespace V4

/-- The decimal text of an octet. -/
def octetText (n : UInt8) : String := toString n.toNat

/-- The text of an address. -/
def text (x : V4) : String :=
  octetText x.a ++ "." ++ octetText x.b ++ "." ++ octetText x.c ++ "." ++ octetText x.d

/-! ## Numbers -/

/-- The address of a 32-bit number, its high octet first. -/
def ofNat (n : Nat) : V4 :=
  ⟨UInt8.ofNat (n / 0x1000000), UInt8.ofNat (n / 0x10000), UInt8.ofNat (n / 0x100), UInt8.ofNat n⟩

/-- The address of a number, if it has 32 bits. -/
def ofNumber? (n : Int) : Option V4 :=
  if 0 ≤ n && n < 0x100000000 then some (ofNat n.toNat) else none

/-! ## The strict reader -/

/-- Reads an octet of one to three decimal digits without leading zero. -/
def readOctet? (cs : List Char) : Option UInt8 :=
  if cs.isEmpty || !cs.all Char.isDigit || 3 < cs.length then none
  else if cs.length ≠ 1 && cs.head? = some '0' then none
  else if 255 < Numeral.ofDigits 10 cs then none
  else some (UInt8.ofNat (Numeral.ofDigits 10 cs))

/-- Reads four decimal octets. -/
def read? (cs : List Char) : Option V4 :=
  match Text.parts '.' cs with
  | [a, b, c, d] => do
    return ⟨← readOctet? a, ← readOctet? b, ← readOctet? c, ← readOctet? d⟩
  | _ => none

/-! ## The loose reader -/

/-- Reads a part in the base that its beginning announces: 16 after `0x`, 8 after another `0`. -/
def readPart? (cs : List Char) : Option Nat :=
  match cs with
  | '0' :: x :: rest =>
    if x = 'x' || x = 'X' then
      if rest.isEmpty || !rest.all Numeral.isHexDigit then none
      else some (Numeral.ofDigits 16 rest)
    else if cs.all Numeral.isOctalDigit then some (Numeral.ofDigits 8 cs)
    else none
  | _ =>
    if cs.isEmpty || !cs.all Char.isDigit then none
    else some (Numeral.ofDigits 10 cs)

/-- The number of an address from its parts: one octet each, and the last one all that is
left of `octets`. -/
def combine? : (octets : Nat) → List Nat → Option Nat
  | _, [] => none
  | octets, [last] => if last < Nat.pow 256 octets then some last else none
  | octets, part :: rest =>
    if octets ≤ 1 || 255 < part then none
    else (combine? (octets - 1) rest).map (part * Nat.pow 256 (octets - 1) + ·)

/-- Reads the numbers-and-dots form of an address. -/
def readLoose? (cs : List Char) : Option V4 := do
  let numbers ← (Text.parts '.' cs).mapM readPart?
  return ofNat (← combine? 4 numbers)

end V4

end RdsReach.Address
