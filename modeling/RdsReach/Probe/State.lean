import RdsReach.Event
import RdsReach.Journal
import RdsReach.Spin
import RdsReach.World

/-!
# The state of a probe

What a probe has done and holds at a moment: the sockets that the system gave out, the events and
lookups so far, the journal, the source address once it is known, and the group of sockets that
packets are sent on.
-/

namespace RdsReach

/-- A socket that the system gave out, as the system sees it. -/
structure Socket where
  script : SocketScript
  /-- The number of packets that were sent on it. -/
  sends : Nat := 0
  isOpen : Bool := true
deriving DecidableEq, Repr

/-- A socket of a group, as the program sees it. -/
structure ProbeSocket where
  fd : Nat
  /-- The place of the socket in its group. -/
  slot : Int
  /-- The number of packets that were sent on it. -/
  sent : Nat := 0
  /-- The time directly after the latest packet. -/
  lastSent : Option Binary64 := none
  /-- Replies are not looked for, so there are none. -/
  replies : Nat := 0
  spin : Option Spin := none

/-- The text of a socket of a group. -/
def ProbeSocket.text (s : ProbeSocket) : Except Failure String :=
  return s!"ProbeSocket(slot={← numberText s.slot}, sent={s.sent})"

/-- A group of sockets in the order of their slots. -/
structure Group where
  /-- The number of sockets that opening the group creates. -/
  size : Int
  sockets : Array ProbeSocket := #[]

/-- Which kind of lookup is made: of a numeric address only, or of any name. -/
inductive LookupKind where
  | numeric
  | full
deriving DecidableEq, Repr

/-- A lookup that was made, with the fault that it raised if it raised one. -/
structure Lookup where
  kind : LookupKind
  host : Host
  fault : Option Fault
deriving DecidableEq, Repr

/-- The state of a probe. -/
structure State where
  world : World
  /-- The sockets that the system gave out, in order; the first has the descriptor `firstFd`. -/
  sockets : Array Socket := #[]
  /-- Attempts to create an RDS socket. -/
  rdsAttempts : Nat := 0
  /-- Attempts to create a UDP socket. -/
  udpAttempts : Nat := 0
  /-- Calls that set the type of service. -/
  tosCalls : Nat := 0
  /-- Readings of the clock that times a run. -/
  clockReads : Nat := 0
  /-- Readings of the clock that stamps sends. -/
  sendClockReads : Nat := 0
  events : Array Event := #[]
  lookups : Array Lookup := #[]
  journal : Array Entry := #[]
  /-- The address that packets come from, once it is known. -/
  source : Option Endpoint := none
  group : Group := { size := 0 }

/-- The descriptor of the first socket. -/
def firstFd : Nat := 100

namespace State

/-- The descriptors of the sockets that are open. -/
def openFds (s : State) : List Nat :=
  ((List.range s.sockets.size).filter fun i => (s.sockets[i]?.map (·.isOpen)).getD false).map
    (· + firstFd)

/-- Notes an event. -/
def note (s : State) (e : Event) : State := { s with events := s.events.push e }

end State

end RdsReach
