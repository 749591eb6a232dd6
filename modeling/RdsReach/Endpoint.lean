import RdsReach.Address

/-!
# Endpoints

An endpoint is an IP address with a port and, meaningful for IPv6 only, a flow and a scope. A
socket address is the form in which endpoints cross the system's interface: the text of the address
followed by further items, two items in all for IPv4 and four for IPv6. Endpoints are equal when
their socket addresses are.
-/

namespace RdsReach

/-- An item of a socket address: a number, or a name in the place of one. -/
inductive Item where
  | number (n : Int)
  | name (text : String)
deriving DecidableEq, Repr

namespace Item

instance (n : Nat) : OfNat Item n := ⟨.number n⟩

instance : Coe Int Item := ⟨.number⟩

/-- The text of an item. -/
def text : Item → String
  | .number n => toString n
  | .name text => text

end Item

/-- A socket address: the host and what follows it. -/
abbrev SockAddr := List Item

/-- An address with a port. -/
structure Endpoint where
  address : IpAddress
  port : Item := 0
  flow : Item := 0
  scope : Item := 0
deriving Repr

namespace Endpoint

/-- Why a socket address names no endpoint. -/
inductive Malformed where
  /-- Fewer items than the family needs. -/
  | tooFew (expected got : Nat)
  /-- More items than the family has. -/
  | tooMany (expected : Nat)
  /-- The host is no address of the family. -/
  | notAnAddress
  /-- The host is a number where the family needs a text. -/
  | hostNotText
  /-- The family is neither IPv4 nor IPv6. -/
  | unsupportedFamily (family : Int)
deriving DecidableEq, Repr

/-- The version of the address. -/
def version (e : Endpoint) : Version := e.address.version

/-- The same endpoint with another port. -/
def withPort (e : Endpoint) (port : Item) : Endpoint := { e with port }

/-- The socket address of an endpoint. -/
def sockAddr (e : Endpoint) : SockAddr :=
  match e.version with
  | .four => [.name e.address.text, e.port]
  | .six => [.name e.address.text, e.port, e.flow, e.scope]

/-- The text of an endpoint. -/
def text (e : Endpoint) : String :=
  match e.version with
  | .four => s!"{e.address.text}:{e.port.text}"
  | .six => s!"[{e.address.text}]:{e.port.text}"

/-- The IPv4 address of a host, which may be the number of the address. -/
def hostV4? : Item → Option Address.V4
  | .name text => Address.V4.read? text.toList
  | .number n => Address.V4.ofNumber? n

/-- The endpoint of an IPv4 socket address; items after the port are ignored. -/
def ofSockAddr4 : SockAddr → Except Malformed Endpoint
  | host :: port :: _ =>
    match hostV4? host with
    | some a => .ok { address := .v4 a, port }
    | none => .error .notAnAddress
  | items => .error (.tooFew 2 items.length)

/-- The endpoint of an IPv6 socket address; a scope in the host's text is dropped. -/
def ofSockAddr6 : SockAddr → Except Malformed Endpoint
  | [.name host, port, flow, scope] =>
    match IpAddress.readV6? (IpAddress.withoutScope host.toList) with
    | some address => .ok { address, port, flow, scope }
    | none => .error .notAnAddress
  | [.number _, _, _, _] => .error .hostNotText
  | items => .error (if items.length < 4 then .tooFew 4 items.length else .tooMany 4)

/-- The endpoint of a socket address of a family. -/
def ofSockAddr (family : Int) (address : SockAddr) : Except Malformed Endpoint :=
  match Version.ofFamily? family with
  | some .four => ofSockAddr4 address
  | some .six => ofSockAddr6 address
  | none => .error (.unsupportedFamily family)

/-- Endpoints are equal when their socket addresses are. -/
instance : BEq Endpoint := ⟨fun a b => a.sockAddr == b.sockAddr⟩

end Endpoint

end RdsReach
