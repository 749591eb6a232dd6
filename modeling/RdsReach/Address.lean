import RdsReach.Address.V4
import RdsReach.Address.V6

/-!
# IP addresses

An address is IPv4 or IPv6; an IPv6 address that was written with a `%scope` keeps the scope as
part of the address. Printing and reading are inverse to each other, scope included.
-/

namespace RdsReach

/-- The two versions of the protocol. -/
inductive Version where
  | four
  | six
deriving DecidableEq, Repr

namespace Version

/-- The number of the version. -/
def number : Version → Nat
  | .four => 4
  | .six => 6

/-- The number of the address family of the version. -/
def family : Version → Nat
  | .four => 2
  | .six => 10

/-- The version of an address family. -/
def ofFamily? (family : Int) : Option Version :=
  if family = 2 then some .four else if family = 10 then some .six else none

end Version

/-- An IP address. -/
inductive IpAddress where
  | v4 (address : Address.V4)
  | v6 (address : Address.V6) (scope : Option String)
deriving DecidableEq, Repr

namespace IpAddress

/-- The version of an address. -/
def version : IpAddress → Version
  | .v4 _ => .four
  | .v6 _ _ => .six

/-- The text of an address. -/
def text : IpAddress → String
  | .v4 a => a.text
  | .v6 a none => a.text
  | .v6 a (some scope) => a.text ++ "%" ++ scope

/-- The text before the first `%`. -/
def withoutScope (cs : List Char) : List Char := cs.takeWhile (· ≠ '%')

/-- Reads an IPv6 address with an optional scope, which is neither empty nor holds another `%`. -/
def readV6? (cs : List Char) : Option IpAddress :=
  if cs.contains '/' then none
  else
    match cs.dropWhile (· ≠ '%') with
    | [] => (Address.V6.read? cs).map (.v6 · none)
    | _ :: scope =>
      if scope.isEmpty || scope.contains '%' then none
      else (Address.V6.read? (withoutScope cs)).map (.v6 · (some (String.ofList scope)))

/-- Reads an address of either version. -/
def read? (text : String) : Option IpAddress :=
  match Address.V4.read? text.toList with
  | some a => some (.v4 a)
  | none => readV6? text.toList

end IpAddress

end RdsReach
