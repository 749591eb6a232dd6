import RdsReach.Report
import RdsReach.Schedule

/-!
# Sessions

A session takes the parts of a run one step at a time, on one configuration and in a world that
may change between the steps. A step that fails leaves the session in the state that it reached,
and the session goes on.
-/

namespace RdsReach

/-- A step of a session. -/
inductive Session.Step where
  /-- The source of the run. -/
  | source
  /-- Creates a socket beside the group. -/
  | create (slot : Int)
  /-- Closes a socket beside the group. -/
  | closeCreated (index : Nat)
  /-- Spins on a socket beside the group. -/
  | spinCreated (index : Nat)
  /-- Puts a new group in the place of the group, which is forgotten as it is. -/
  | newGroup (size : Option Int)
  | enter
  | exit
  | openAll
  | closeAll
  | count
  /-- Sends the packets of a run on the group. -/
  | run
  /-- Reports the latest result. -/
  | report (details : Bool)
  /-- Spins on a socket of the group. -/
  | spin (index : Nat)
  /-- Asks for the bytes that wait on a socket of the group. -/
  | pending (index : Nat)
  /-- Sets the ceiling of spinning, or turns it off. -/
  | spinner (ceiling : Option Int)
  /-- Changes how the world answers. -/
  | adjust (world : World → World) (sockets : List (Nat × (SocketScript → SocketScript)))

/-- The answer of a step. -/
inductive Session.Answer where
  | none
  | endpoint (e : Endpoint)
  | created (text : String) (fd : Nat)
  | spin (s : Spin)
  | number (n : Int)
  | result (r : RunResult)
  | text (text : String)

/-- What a session holds beside the state of its probe. -/
structure Session where
  conf : RunConfig
  /-- The ceiling of spinning, if it is on. -/
  spinner : Option Int
  /-- The sockets beside the group. -/
  loose : List ProbeSocket := []
  /-- The latest result. -/
  latest : Option RunResult := none

namespace Session

/-- The session of a configuration. -/
def start (conf : RunConfig) (ceiling : Option Int) : Session :=
  { conf, spinner := if conf.spin then some (ceiling.getD Probe.defaultCeiling) else none }

/-- Spins with the spinner of the session, or a plain one if spinning is off. -/
def spinOn (s : Session) (socket : Option ProbeSocket) : Probe Answer := do
  match socket with
  | some socket => return .spin (← Probe.spin (s.spinner.getD Probe.defaultCeiling) socket.fd)
  | none => return .none

/-- The socket at a place of the group. -/
def member? (index : Nat) : Probe (Option ProbeSocket) := do
  return (← get).group.sockets[index]?

/-- Changes the script of a socket. -/
def adjustSocket (fd : Nat) (edit : SocketScript → SocketScript) : Probe Unit :=
  Probe.modifySocket fd fun socket => { socket with script := edit socket.script }

/-- Takes a step that leaves everything but the state as it is. -/
def stepInside (s : Session) : Step → Probe Answer
  | .source => .endpoint <$> Probe.sourceEndpoint s.conf
  | .closeCreated index => do
    if let some socket := s.loose[index]? then Probe.close socket.fd
    return .none
  | .spinCreated index => s.spinOn s.loose[index]?
  | .newGroup size => do
    modify fun state => { state with group := { size := size.getD s.conf.groupSize } }
    return .none
  | .enter => do Probe.enterGroup s.conf; return .none
  | .exit => do Probe.closeGroup; return .none
  | .openAll => do Probe.openGroup s.conf; return .none
  | .closeAll => do Probe.closeGroup; return .none
  | .count => do return .number (← get).group.sockets.size
  | .report details =>
    match s.latest with
    | some result => do
      let state ← get
      let text ← Probe.ofExcept (Report.text result details state.world.render)
      return .text (text ++ "\n")
    | none => return .none
  | .spin index => do s.spinOn (← member? index)
  | .pending index => do
    match ← member? index with
    | some socket => return .number (← Probe.queryQueue socket.fd)
    | none => return .none
  | .adjust world sockets => do
    modify fun state => { state with world := world state.world }
    sockets.forM fun (fd, edit) => adjustSocket fd edit
    return .none
  | _ => return .none

/-- Takes a step. -/
def step (s : Session) : Step → Probe (Answer × Session)
  | .create slot => do
    let socket ← Probe.createProbeSocket s.conf slot
    let text ← Probe.ofExcept socket.text
    return (.created text socket.fd, { s with loose := s.loose ++ [socket] })
  | .run => do
    let result ← Probe.timedRun s.conf s.spinner
    return (.result result, { s with latest := some result })
  | .spinner ceiling => return (.none, { s with spinner := ceiling })
  | other => do return (← s.stepInside other, s)

end Session

end RdsReach
