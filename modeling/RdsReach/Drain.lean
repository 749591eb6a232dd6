import RdsReach.Probe.Calls

/-!
# Draining

Spinning on the outbound queue of a socket: the queue is asked until it is empty, until it was
asked as often as the ceiling allows, or until a query fails.
-/

namespace RdsReach.Probe

/-- The ceiling that nothing else is said about. -/
def defaultCeiling : Int := 100000

/-- The most queries that a ceiling allows; one is always made. -/
def queryLimit (ceiling : Int) : Nat := max 1 ceiling.toNat

/-- Asks a queue once: the bytes that wait, or the error number of a query that failed. -/
def tryQuery (fd : Nat) : Probe (Except Int Int) :=
  let query := (queryQueue fd).onFault Fault.isSystem fun f => .queueQuery f.errno
  tryCatch (Except.ok <$> query) fun
    | .queueQuery errno => pure (.error errno)
    | f => throw f

/-- Asks a queue at most `left` times after `spins` answers. -/
def spinFrom (fd : Nat) : (left spins : Nat) → Probe Spin
  | 0, spins => pure ⟨.ceilingReached, spins⟩
  | left + 1, spins => do
    match ← tryQuery fd with
    | .error errno => return ⟨.queryFailed errno, spins⟩
    | .ok pending =>
      if pending = 0 then return ⟨.drained, spins + 1⟩
      else spinFrom fd left (spins + 1)

/-- Spins on the queue of a socket. -/
def spin (ceiling : Int) (fd : Nat) : Probe Spin := spinFrom fd (queryLimit ceiling) 0

end RdsReach.Probe
