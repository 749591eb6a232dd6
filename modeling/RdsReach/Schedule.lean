import RdsReach.Binary64.Shortest
import RdsReach.Drain
import RdsReach.Elapsed
import RdsReach.Group
import RdsReach.RunResult

/-!
# Sending

The packets of a run go out on one socket after the other, in the order of the slots. After the
last packet of a socket its queue is spun on, if that is wanted, before the next socket is served.
The first send that fails ends the run; what was sent until then stays counted.
-/

namespace RdsReach.Probe

/-! ## One socket -/

/-- Changes the socket at a place of the group. -/
def modifyMember (place : Nat) (change : ProbeSocket → ProbeSocket) : Probe Unit :=
  modify fun s =>
    { s with group := { s.group with sockets := s.group.sockets.modify place change } }

/-- The fault of a send, told with the socket's count of packets. -/
def sendOnce (conf : RunConfig) (place : Nat) (socket : ProbeSocket) : Probe Unit := do
  (send socket.fd conf.destination.sockAddr).onFault Fault.isSystemOrIllTyped fun f =>
    .send ⟨socket.slot, socket.sent, f.errno⟩
  modifyMember place fun member => { member with sent := member.sent + 1 }
  let time ← readSendClock
  modifyMember place fun member => { member with lastSent := some time }

/-- Sends `n` packets on the socket at a place of the group. -/
def sendPackets (conf : RunConfig) (place : Nat) : (n : Nat) → Probe Unit
  | 0 => pure ()
  | n + 1 => do
    match (← get).group.sockets[place]? with
    | none => pure ()
    | some socket =>
      sendOnce conf place socket
      sendPackets conf place n

/-- Spins on the socket at a place of the group and keeps the outcome. -/
def spinMember (ceiling : Int) (place : Nat) : Probe Unit := do
  match (← get).group.sockets[place]? with
  | none => pure ()
  | some socket =>
    let outcome ← spin ceiling socket.fd
    modifyMember place fun member => { member with spin := some outcome }
    say .sending .debug
      s!"Spun for {← number outcome.count} counts on socket {← number socket.slot}"

/-! ## All sockets -/

/-- Sends all packets of the socket at a place; gives the send that failed, if one did. -/
def servePackets (conf : RunConfig) (place : Nat) : Probe (Option SendFailure) := do
  let served : Probe (Option SendFailure) := do
    sendPackets conf place conf.perSocketCount.toNat
    return none
  tryCatch served fun
    | .send failure => do
      say .sending .error (Failure.send failure).message
      return some failure
    | f => throw f

/-- Serves `n` places of the group from a place on, until a send fails. -/
def servePlaces (conf : RunConfig) (spinner : Option Int) :
    (n place : Nat) → Probe (Option SendFailure)
  | 0, _ => pure none
  | n + 1, place => do
    match ← servePackets conf place with
    | some failure => return some failure
    | none =>
      if let some ceiling := spinner then spinMember ceiling place
      servePlaces conf spinner n (place + 1)

/-- What became of a socket so far. -/
def sampleOf (socket : ProbeSocket) : Sample := ⟨socket.slot, socket.sent, socket.spin⟩

/-- Sends the packets of a run on the group. -/
def sendAll (conf : RunConfig) (spinner : Option Int) : Probe RunResult := do
  let failure ← servePlaces conf spinner (← get).group.sockets.size 0
  let samples := ((← get).group.sockets.map sampleOf).toList
  return { perSocketCount := conf.perSocketCount, samples, failure }

/-! ## Timing -/

/-- The failure that an undefined time is. -/
def undefinedTime : Elapsed.Undefined → Failure
  | .infinite => .fault .outOfRange
  | .notANumber => .notANumber

/-- Sends the packets of a run on the group and takes the time. -/
def timedRun (conf : RunConfig) (spinner : Option Int) : Probe RunResult := do
  let start ← readClock
  let result ← sendAll conf spinner
  let stop ← readClock
  let elapsed ← ofExcept ((Elapsed.milliseconds start stop).mapError undefinedTime)
  say .timing .debug s!"Scheduling phase took {elapsed.shortest} msec"
  return { result with elapsed }

end RdsReach.Probe
