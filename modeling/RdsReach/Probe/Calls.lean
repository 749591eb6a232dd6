import RdsReach.Probe.Basic

/-!
# Calls on sockets

The calls that reach the system, answered as the world says. Every call is noted as an event with
its outcome; a call that fails changes nothing else.
-/

namespace RdsReach.Probe

/-- Ends a call on a socket: notes its event, then fails with its fault if it has one. -/
def finish (fd : Nat) (call : Call) (fault : Option Fault) : Probe Unit := do
  modify (·.note (.call fd call fault))
  match fault with
  | some f => throw (.fault f)
  | none => pure ()

/-! ## Creating sockets -/

/-- The script of the next socket of a kind. -/
def nextScript (s : State) : SocketKind → SocketScript
  | .rds => SocketScript.ofAttempt s.world.rds s.rdsAttempts
  | .udp _ => SocketScript.ofAttempt s.world.udp s.udpAttempts

/-- Counts an attempt to create a socket of a kind. -/
def countAttempt (s : State) : SocketKind → State
  | .rds => { s with rdsAttempts := s.rdsAttempts + 1 }
  | .udp _ => { s with udpAttempts := s.udpAttempts + 1 }

/-- Adds a socket, which is open and has sent nothing. -/
def addSocket (script : SocketScript) (s : State) : State :=
  { s with sockets := s.sockets.push { script } }

/-- Creates a socket and gives its descriptor. -/
def createSocket (kind : SocketKind) : Probe Nat := do
  let script := nextScript (← get) kind
  modify (countAttempt · kind)
  match script.create with
  | some f =>
    modify (·.note (.notOpened kind f))
    throw (.fault f)
  | none =>
    let fd := firstFd + (← get).sockets.size
    modify (addSocket script)
    modify (·.note (.opened kind fd))
    return fd

/-! ## Calls on a socket -/

/-- The socket of a descriptor; one that was not given out answers as a plain one. -/
def socketOf (fd : Nat) : Probe Socket := do
  return (← get).sockets[fd - firstFd]?.getD { script := {} }

/-- Changes the socket of a descriptor. -/
def modifySocket (fd : Nat) (change : Socket → Socket) : Probe Unit :=
  modify fun s => { s with sockets := s.sockets.modify (fd - firstFd) change }

/-- Refuses a socket address that an RDS socket cannot have; such an address has two items. -/
def shapeFault? (address : SockAddr) : Option Fault :=
  if address.length = 2 then none else some .illTyped

/-- Binds an RDS socket to an address. -/
def bind (fd : Nat) (address : SockAddr) : Probe Unit := do
  let socket ← socketOf fd
  finish fd (.bind address) (shapeFault? address <|> socket.script.bind)

/-- Connects a UDP socket. -/
def connect (fd : Nat) (address : SockAddr) : Probe Unit := do
  let socket ← socketOf fd
  finish fd (.connect address) socket.script.connect

/-- The address that a UDP socket has. -/
def localName (fd : Nat) : Probe SockAddr := do
  let socket ← socketOf fd
  finish fd .localName socket.script.localName
  return socket.script.localAddress

/-- The fault of the next send on a socket. -/
def sendFault? (socket : Socket) : Option Fault :=
  match socket.script.send with
  | some limit => if limit.after ≤ socket.sends then some limit.fault else none
  | none => none

/-- Sends a packet without content on an RDS socket. -/
def send (fd : Nat) (address : SockAddr) : Probe Unit := do
  let socket ← socketOf fd
  finish fd (.send address) (shapeFault? address <|> sendFault? socket)
  modifySocket fd fun s => { s with sends := s.sends + 1 }

/-- Closes a socket. -/
def close (fd : Nat) : Probe Unit := do
  let socket ← socketOf fd
  finish fd .close socket.script.close
  modifySocket fd fun s => { s with isOpen := false }

/-! ## Device controls -/

/-- Sets the type of service of an RDS socket. -/
def setTos (fd : Nat) (tos : UInt8) : Probe Unit := do
  let fault := (← get).world.tos[(← get).tosCalls]?.join
  modify fun s => { s with tosCalls := s.tosCalls + 1 }
  finish fd (.setTos tos) fault

/-- The range of a number of four bytes. -/
def fitsFourBytes (n : Int) : Bool := -0x80000000 ≤ n && n < 0x80000000

/-- The number that four bytes hold, the least significant byte first. -/
def ofFourBytes? : List UInt8 → Option Int
  | [a, b, c, d] =>
    let n : Nat := a.toNat + 0x100 * b.toNat + 0x10000 * c.toNat + 0x1000000 * d.toNat
    some (if n < 0x80000000 then n else (n : Int) - 0x100000000)
  | _ => none

/-- The fault of a queue reply. -/
def replyFault? : QueueReply → Option Fault
  | .fault f => some f
  | _ => none

/-- The number that a queue reply holds; a reply that is not four bytes long holds none. -/
def replyNumber? : QueueReply → Option Int
  | .pending n => if fitsFourBytes n then some n else none
  | .raw bytes => ofFourBytes? bytes
  | .fault _ => none

/-- Asks how many bytes wait to be sent on a socket. -/
def queryQueue (fd : Nat) : Probe Int := do
  let (reply, rest) := nextAnswer (.pending 0) (← get).world.queue
  modify fun s => { s with world := { s.world with queue := rest } }
  finish fd .queryQueue (replyFault? reply)
  match replyNumber? reply with
  | some n => return n
  | none => throw .packing

/-! ## Clocks -/

/-- Reads the clock that times a run. -/
def readClock : Probe Binary64 := do
  let time := reading (← get).world.clock (← get).clockReads
  modify fun s => { s with clockReads := s.clockReads + 1 }
  return time

/-- Reads the clock that stamps sends. -/
def readSendClock : Probe Binary64 := do
  let time := reading (← get).world.sendClock (← get).sendClockReads
  modify fun s => { s with sendClockReads := s.sendClockReads + 1 }
  return time

end RdsReach.Probe
