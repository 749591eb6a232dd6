import RdsReach.Binary64
import RdsReach.Endpoint
import RdsReach.Fault
import RdsReach.Idna
import RdsReach.Report.Table

/-!
# Worlds

A world says how everything outside the program answers: the name service, the table of network
interfaces, the sockets, the device controls, the clocks and what lays tables out. What it does not
mention answers in the plainest way that lets a run succeed.
-/

namespace RdsReach

/-! ## Names and interfaces -/

/-- An answer of the name service: a family number and a socket address. -/
structure Candidate where
  family : Int
  address : SockAddr
deriving DecidableEq, Repr

/-- How names are looked up. -/
inductive NameService where
  /-- Each lookup takes the next answer, whatever it asks. -/
  | staged (answers : List (Except Fault (List Candidate)))
  /-- Numeric texts are read as the system reads them, all others stand in a table or are
  unknown. -/
  | table (hosts : List (String × List Candidate))

/-- An address assigned to an interface, which may be missing. -/
structure Link where
  family : Int
  address : Option String
deriving DecidableEq, Repr

/-- A network interface with its addresses. -/
structure Nic where
  name : String
  links : List Link
deriving DecidableEq, Repr

/-! ## Sockets -/

/-- A fault that sends meet once `after` of them succeeded on the socket. -/
structure SendLimit where
  after : Int
  fault : Fault
deriving DecidableEq, Repr

/-- How the calls on a socket answer; a call without a fault succeeds. -/
structure SocketScript where
  create : Option Fault := none
  bind : Option Fault := none
  connect : Option Fault := none
  localName : Option Fault := none
  close : Option Fault := none
  send : Option SendLimit := none
  /-- The address that the socket has once it is connected. -/
  localAddress : SockAddr := [.name "192.0.2.10", 40000]
deriving DecidableEq, Repr

/-- An answer to a query of the outbound queue. -/
inductive QueueReply where
  | pending (bytes : Int)
  /-- The bytes of an answer as they are. -/
  | raw (bytes : List UInt8)
  | fault (fault : Fault)
deriving DecidableEq, Repr

/-! ## Worlds -/

/-- Everything outside the program. -/
structure World where
  names : NameService := .table []
  /-- How labels of host names are prepared. -/
  nameprep : Nameprep := .narrow
  nics : List Nic := []
  /-- One script for each attempt to create an RDS socket. -/
  rds : List SocketScript := []
  /-- One script for each attempt to create a UDP socket. -/
  udp : List SocketScript := []
  /-- The outcomes of setting the type of service. -/
  tos : List (Option Fault) := []
  /-- The answers to queries of the outbound queue; the last one is given for ever. -/
  queue : List QueueReply := []
  /-- The readings of the clock that times a run; the last one is given for ever. -/
  clock : List Binary64 := []
  /-- The readings of the clock that stamps sends; the last one is given for ever. -/
  sendClock : List Binary64 := []
  /-- How the tables of reports are laid out. -/
  render : Renderer := .plain

/-- The next answer of a list whose last one is given for ever, and the answers after it. -/
def nextAnswer (default : α) : List α → α × List α
  | [] => (default, [])
  | [a] => (a, [a])
  | a :: rest => (a, rest)

/-- The reading that a clock gives after `n` others; without readings the clock stands at zero. -/
def reading (clock : List Binary64) (n : Nat) : Binary64 :=
  clock[min n (clock.length - 1)]?.getD .zero

/-- The script of the socket that an attempt creates. -/
def SocketScript.ofAttempt (scripts : List SocketScript) (attempt : Nat) : SocketScript :=
  scripts[attempt]?.getD {}

end RdsReach
