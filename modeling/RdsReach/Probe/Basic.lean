import RdsReach.Probe.State

/-!
# Probes

A probe is an action on the state that ends with a value or a failure; whatever it did before a
failure stays done. The combinators here say what becomes of a failure:

* `Probe.onFault` turns some faults into another failure;
* `Probe.ensuring` runs a cleanup however an action ends;
* `Probe.undoing` runs a cleanup only when an action fails in some way.

A cleanup that fails itself puts its own failure in place of the first one.
-/

namespace RdsReach

/-- An action of the program. -/
abbrev Probe := EStateM Failure State

namespace Probe

/-- Fails, with the failure that a report of `f` comes to. -/
def fail (f : Failure) : Probe α := throw f.settled

/-- The value of an outcome, or its failure. -/
def ofExcept : Except Failure α → Probe α
  | .ok a => pure a
  | .error f => throw f

/-- Runs an action; a fault of the class `catches` becomes the failure that `handler` makes of
it. -/
def onFault (action : Probe α) (catches : Fault → Bool) (handler : Fault → Failure) : Probe α :=
  tryCatch action fun
    | .fault f => if catches f then fail (handler f) else throw (.fault f)
    | f => throw f

/-- Runs an action and, if it fails in a way that `catches` holds of, a cleanup before the failure
goes on. -/
def undoing (action : Probe α) (catches : Failure → Bool) (cleanup : Probe Unit) : Probe α :=
  tryCatch action fun f => do
    if catches f then cleanup
    throw f

/-- Runs an action and then, however it ended, a cleanup. -/
def ensuring (action : Probe α) (cleanup : Probe Unit) : Probe α := do
  let a ← action.undoing (fun _ => true) cleanup
  cleanup
  return a

/-- Says a message. -/
def say (origin : Origin) (level : Level) (text : String) : Probe Unit :=
  modify fun s => { s with journal := s.journal.push (.message origin level text) }

/-- Prints a text with a line end. -/
def print (text : String) : Probe Unit :=
  modify fun s => { s with journal := s.journal.push (.printed text) }

/-- The text of a number in a message; too long a number fails. -/
def number (n : Int) : Probe String := ofExcept (numberText n)

end Probe

end RdsReach
