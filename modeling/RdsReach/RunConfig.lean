import RdsReach.Probe.Basic

/-!
# Configuration of a run

Everything that a run needs to know, settled before any socket exists. `RunConfig.ofOptions` makes
one of the options that a user gave: the numbers are checked first, then the addresses are
resolved, then their versions are compared. The first rule that is broken is the one that is told.
-/

namespace RdsReach

/-! ## Options -/

/-- An option of the command line. An option that was given with nothing but the end mark of
options has no value at all. -/
inductive Setting (α : Type) where
  | absent
  | blank
  | value (a : α)
deriving DecidableEq, Repr

/-- What a user asks for. -/
structure Options where
  destination : String
  source : Setting String := .absent
  /-- Packets for each socket; 0 if absent. -/
  count : Setting Int := .absent
  groupSize : Setting Int := .absent
  /-- Type of service; 0 if absent. -/
  tos : Setting Int := .absent
  spin : Bool := false
deriving DecidableEq, Repr

/-! ## Configurations -/

/-- The size of a group that nothing else is said about. -/
def defaultGroupSize : Int := 8

/-- Everything that a run needs to know. -/
structure RunConfig where
  destination : Endpoint
  source : Option Endpoint := none
  /-- Packets for each socket as asked for, 0 if they were not. -/
  count : Int := 0
  groupSize : Int := defaultGroupSize
  /-- Was the size of the group asked for? -/
  groupSizeGiven : Bool := false
  tos : Int := 0
  spin : Bool := false

namespace RunConfig

/-- The number of packets for each socket; one if no number was asked for. -/
def perSocketCount (c : RunConfig) : Int := if c.count = 0 then 1 else c.count

/-- The text of a configuration. -/
def describe (c : RunConfig) : Probe String := do
  let size ← Probe.number c.groupSize
  let count ← Probe.number c.perSocketCount
  let tos ← Probe.number c.tos
  let source := (c.source.map (·.address.text)).getD "None"
  let spin := if c.spin then "True" else "False"
  return s!"RunConfig(dst={c.destination.address.text}, src={source}, nsockets={size}, " ++
    s!"count={count}, tos={tos}, spin={spin})"

/-! ## From options -/

/-- May a group have this size? -/
def isGroupSize (n : Int) : Bool := 1 ≤ n && n ≤ 32

/-- Does the type of service fit a byte? -/
def isTos (n : Int) : Bool := 0 ≤ n && n ≤ 255

/-- Checks the size of a group that was asked for. -/
def checkGroupSize : Setting Int → Probe Unit
  | .absent => pure ()
  | .blank => throw (.fault .illTyped)
  | .value n =>
    if isGroupSize n then pure () else Probe.fail (.refused .groupSize (.socketCount n))

/-- Checks the type of service that was asked for, and gives it. -/
def checkTos : Setting Int → Probe Int
  | .absent => pure 0
  | .blank => throw (.fault .illTyped)
  | .value n => if isTos n then pure n else Probe.fail (.refused .tosRange (.tosValue n))

/-- Resolves the source that was asked for. -/
def resolveSource (resolve : Host → Probe Endpoint) :
    Setting String → Probe (Option Endpoint)
  | .absent => pure none
  | .blank => some <$> resolve .blank
  | .value text => some <$> resolve (.named text)

/-- Compares the versions of a source that was asked for and of the destination. -/
def checkFamilies (source : Option Endpoint) (destination : Endpoint) : Probe Unit :=
  match source with
  | none => pure ()
  | some source =>
    if source.version = destination.version then pure ()
    else Probe.fail (.refused .familyMatch (.families source.version destination.version))

/-- The size of a group that was not asked for: no more sockets than packets for each of them. -/
def impliedGroupSize (count : Int) : Int :=
  if count ≠ 0 && count < defaultGroupSize then count else defaultGroupSize

/-- The number that an option stands for, 0 for one without a value. -/
def numberOr0 : Setting Int → Int
  | .value n => n
  | _ => 0

/-- The configuration that a user asks for. -/
def ofOptions (resolve : Host → Probe Endpoint) (options : Options) : Probe RunConfig := do
  checkGroupSize options.groupSize
  let tos ← checkTos options.tos
  let destination ← resolve (.named options.destination)
  let source ← resolveSource resolve options.source
  checkFamilies source destination
  let count := numberOr0 options.count
  let (groupSize, groupSizeGiven) :=
    match options.groupSize with
    | .value n => (n, true)
    | _ => (impliedGroupSize count, false)
  return { destination, source, count, groupSize, groupSizeGiven, tos, spin := options.spin }

end RunConfig

/-- The state in which the run of a configuration starts: the source is known if it was given, and
the group is empty. -/
def State.forRun (s : State) (conf : RunConfig) : State :=
  { s with source := conf.source, group := { size := conf.groupSize } }

end RdsReach
