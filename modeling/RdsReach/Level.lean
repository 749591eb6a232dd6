/-!
# Levels of messages

The program says more or less about what it does; how much is the balance of the verbose and the
quiet flags of its command line.
-/

namespace RdsReach

/-- How serious a message is. -/
inductive Level where
  | debug
  | info
  | warning
  | error
  | critical
deriving DecidableEq, Repr

namespace Level

/-- The rank of a level; the more serious, the higher. -/
def rank : Level → Nat
  | .debug => 10
  | .info => 20
  | .warning => 30
  | .error => 40
  | .critical => 50

/-- The name of a level. -/
def name : Level → String
  | .debug => "DEBUG"
  | .info => "INFO"
  | .warning => "WARNING"
  | .error => "ERROR"
  | .critical => "CRITICAL"

/-- The least level that is said at a verbosity; 0 is the default. -/
def ofVerbosity (verbosity : Int) : Level :=
  if verbosity ≤ -2 then .critical
  else if verbosity = -1 then .error
  else if verbosity = 0 then .warning
  else if verbosity = 1 then .info
  else .debug

/-- Is a message of the level `l` said when `threshold` is the least level to say? -/
def reaches (l threshold : Level) : Bool := threshold.rank ≤ l.rank

end Level

end RdsReach
