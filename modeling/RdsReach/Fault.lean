/-!
# Faults of the outside world

What a call of the system, of the name service or of a socket can raise. The program tells faults
apart only by the classes below; an interrupt is the one fault that no part of it takes for an
error.
-/

namespace RdsReach

/-- A fault that a call of the outside world raises. -/
inductive Fault where
  /-- A failed system call, with its error number if it has one. -/
  | system (errno : Option Int)
  /-- A failed lookup, which is a system fault too, with its reason if it gives one. -/
  | lookup (errno : Option Int) (reason : Option String)
  /-- An argument of the wrong shape. -/
  | illTyped
  /-- An argument of the right shape and a wrong value. -/
  | illValued (text : String)
  /-- A number beyond the range of its machine type. -/
  | outOfRange
  /-- A host name that cannot be encoded. -/
  | unencodable (text : String)
  /-- The user's interrupt. -/
  | interrupt
deriving DecidableEq, Repr

namespace Fault

/-- Is this a fault of the system? -/
def isSystem : Fault → Bool
  | .system _ => true
  | .lookup _ _ => true
  | _ => false

/-- Is this a fault that a socket call may answer a wrong address or a failed system call with? -/
def isSystemOrIllTyped (f : Fault) : Bool := f.isSystem || f = .illTyped

/-- The error number that a fault is reported with, 0 if it has none. -/
def errno : Fault → Int
  | .system errno => errno.getD 0
  | .lookup errno _ => errno.getD 0
  | _ => 0

end Fault

end RdsReach
