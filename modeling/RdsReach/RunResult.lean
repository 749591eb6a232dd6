import RdsReach.Binary64.Fixed
import RdsReach.Spin

/-!
# Results of a run

What became of each socket of a group, and what ended the run if it did not complete. A result
does not depend on the sockets any more, which may be closed when it is reported.
-/

namespace RdsReach

/-- What became of a socket. -/
structure Sample where
  slot : Int
  sent : Int
  spin : Option Spin := none
deriving DecidableEq, Repr

/-- What became of a run. -/
structure RunResult where
  /-- The number of packets that each socket had to send. -/
  perSocketCount : Int
  samples : List Sample
  /-- The send that ended the run early. -/
  failure : Option SendFailure := none
  /-- Milliseconds that sending and spinning took. -/
  elapsed : Binary64 := .zero

namespace RunResult

/-- The number of sockets. -/
def socketCount (r : RunResult) : Nat := r.samples.length

/-- The number of sockets that sent all their packets. -/
def completedSockets (r : RunResult) : Nat := r.samples.countP (·.sent = r.perSocketCount)

/-- The number of packets that were sent. -/
def packetsSent (r : RunResult) : Int := r.samples.foldr (·.sent + ·) 0

/-- The number of packets on the sockets that sent all of theirs. -/
def completedPackets (r : RunResult) : Int := r.completedSockets * r.perSocketCount

/-- The number of packets that a run has to send. -/
def requestedPackets (r : RunResult) : Int := r.socketCount * r.perSocketCount

/-- Did the run end early? -/
def isAborted (r : RunResult) : Bool := r.failure.isSome

/-- The outcomes of spinning, in the order of the slots. -/
def spins (r : RunResult) : List Spin := r.samples.filterMap (·.spin)

end RunResult

end RdsReach
