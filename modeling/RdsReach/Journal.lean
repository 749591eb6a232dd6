import RdsReach.Level

/-!
# The journal

What the program says, in order: messages of a level, which come from a place of the program, and
text that it prints unasked.
-/

namespace RdsReach

/-- The places that messages come from. -/
inductive Origin where
  | resolving
  | describingSource
  | configuring
  | guessingSource
  | creatingSocket
  | openingGroup
  | closingGroup
  | sending
  | timing
  | running
  | ending
deriving DecidableEq, Repr

/-- How a line of the log names a place. -/
def Origin.text : Origin → String
  | .resolving => "network - resolve_endpoint"
  | .describingSource => "network - describe_source"
  | .configuring => "run - _prepare_context"
  | .guessingSource => "factory - source_endpoint"
  | .creatingSocket => "factory - create"
  | .openingGroup => "group - open"
  | .closingGroup => "group - close"
  | .sending => "scheduler - run"
  | .timing => "timing - run"
  | .running => "run - run"
  | .ending => "run - main"

/-- An entry of the journal. -/
inductive Entry where
  | message (origin : Origin) (level : Level) (text : String)
  /-- Text printed as it is, with a line end after it. -/
  | printed (text : String)
deriving DecidableEq, Repr

namespace Entry

/-- A message with its level, as it is without place and time. -/
def brief? : Entry → Option String
  | .message _ level text => some s!"{level.name}: {text}"
  | .printed _ => none

/-- What an entry puts on the standard output when `threshold` is the least level to say. -/
def output (threshold : Level) : Entry → String
  | .message origin level text =>
    if level.reaches threshold then s!"TIME - {origin.text} - {level.name}: {text}\n" else ""
  | .printed text => text ++ "\n"

end Entry

end RdsReach
