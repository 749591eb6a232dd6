import RdsReach.Failure

/-!
# Outcomes of spinning

Spinning on a socket asks for its outbound queue again and again until the queue is empty. Its
outcome is a signal for the reader of the report and never an error of the run.
-/

namespace RdsReach

/-- How spinning ended. -/
inductive SpinEnd where
  /-- The queue was empty. -/
  | drained
  /-- The queue was asked as often as allowed. -/
  | ceilingReached
  /-- A query failed with this error number, 0 if it had none. -/
  | queryFailed (errno : Int)
deriving DecidableEq, Repr

/-- The name of an outcome. -/
def SpinEnd.name : SpinEnd → String
  | .drained => "drained"
  | .ceilingReached => "ceiling-reached"
  | .queryFailed _ => "query-failed"

/-- The outcome of spinning, with the number of queries that were answered. -/
structure Spin where
  outcome : SpinEnd
  spins : Int
deriving DecidableEq, Repr

namespace Spin

/-- The error number of the query that failed, if one did. -/
def failedErrno? (s : Spin) : Option Int :=
  match s.outcome with
  | .queryFailed errno => some errno
  | _ => none

/-- Did every query succeed? -/
def succeeded (s : Spin) : Bool := s.failedErrno?.isNone

/-- The number of answered queries; for a failed query the negated error number, which is never
zero. -/
def count (s : Spin) : Int :=
  match s.failedErrno? with
  | some errno => -(if errno = 0 then 1 else errno)
  | none => s.spins

/-- The text of an outcome, unless its number is too long to print. -/
def text (s : Spin) : Except Failure String :=
  match s.failedErrno? with
  | some errno => .ok s!"{s.outcome.name} ({Failure.errnoText errno})"
  | none => return s!"{← numberText s.spins} ({s.outcome.name})"

end Spin

end RdsReach
