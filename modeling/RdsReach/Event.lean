import RdsReach.Endpoint
import RdsReach.Fault

/-!
# Events

The calls that reach the sockets, in order, each with the fault that it raised if it raised one. A
file descriptor names the socket of a call; sockets of both kinds share one numbering.
-/

namespace RdsReach

/-- The kinds of sockets: the ones that packets are sent on, and the helpers that a route is looked
up with. -/
inductive SocketKind where
  | rds
  | udp (version : Version)
deriving DecidableEq, Repr

namespace SocketKind

/-- The number of the address family of RDS. -/
def rdsFamily : Nat := 21

/-- Family, type and protocol numbers of a kind of sockets. -/
def text : SocketKind → String
  | .rds => s!"{rdsFamily} 5 0"
  | .udp version => s!"{version.family} 2 0"

end SocketKind

/-- A call on a socket. -/
inductive Call where
  | bind (address : SockAddr)
  | connect (address : SockAddr)
  | localName
  | setTos (tos : UInt8)
  /-- Sends a packet without content. -/
  | send (address : SockAddr)
  /-- Asks for the number of bytes that wait to be sent. -/
  | queryQueue
  | close
deriving DecidableEq, Repr

/-- A call that reached the system, with its outcome. -/
inductive Event where
  | opened (kind : SocketKind) (fd : Nat)
  | notOpened (kind : SocketKind) (fault : Fault)
  | call (fd : Nat) (call : Call) (fault : Option Fault)
deriving DecidableEq, Repr

/-- The items of a socket address, separated by commas. -/
def addressText (address : SockAddr) : String := ",".intercalate (address.map Item.text)

/-- The text of a call on a socket. -/
def Call.text (fd : Nat) : Call → String
  | .bind address => s!"bind {fd} {addressText address}"
  | .connect address => s!"connect {fd} {addressText address}"
  | .localName => s!"getsockname {fd}"
  | .setTos tos =>
    let digit (n : Nat) := (Nat.digitChar n).toString
    s!"ioctl {fd} 0x89e0 " ++ digit (tos.toNat / 16) ++ digit (tos.toNat % 16)
  | .send address => s!"sendto {fd} 0 {addressText address}"
  | .queryQueue => s!"ioctl {fd} 0x5411 00000000"
  | .close => s!"close {fd}"

namespace Event

/-- The fault that an event raised. -/
def fault? : Event → Option Fault
  | .opened _ _ => none
  | .notOpened _ fault => some fault
  | .call _ _ fault => fault

/-- The text of an event. -/
def text : Event → String
  | .opened kind fd => s!"socket {kind.text} -> {fd}"
  | .notOpened kind _ => s!"socket {kind.text} failed"
  | .call fd c _ => c.text fd

/-- Puts a text in front of counted texts, counting equal neighbours together. -/
def count (text : String) : List (String × Nat) → List (String × Nat)
  | [] => [(text, 1)]
  | (t, n) :: rest => if t = text then (t, n + 1) :: rest else (text, 1) :: (t, n) :: rest

/-- The texts of events, equal neighbours written once with their number. -/
def texts (events : Array Event) : List String :=
  (events.foldr (fun e counted => count e.text counted) []).map fun (t, n) =>
    if n = 1 then t else s!"{t} x{n}"

end Event

end RdsReach
