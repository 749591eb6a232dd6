import RdsReach.CommandLine
import RdsReach.Report
import RdsReach.Resolve
import RdsReach.Interface
import RdsReach.Schedule

/-!
# The program

From a command line to an exit status: the command line is read, the configuration is settled, the
group of sockets is opened, the packets are sent, the group is closed and the report is printed.

The status is 0 for help, the version and a run that completed, 130 after an interrupt and 1 for
everything else.
-/

namespace RdsReach.Program

/-! ## A run -/

/-- The spinner of a configuration: its ceiling, if spinning is wanted. -/
def spinner (conf : RunConfig) : Option Int :=
  if conf.spin then some Probe.defaultCeiling else none

/-- Says where packets go, where they come from and how many there are. -/
def announce (conf : RunConfig) : Probe Unit := do
  let source ← Probe.sourceEndpoint conf
  let source ← Probe.describeSource source conf.source.isSome
  let size ← Probe.number conf.groupSize
  let count ← Probe.number conf.perSocketCount
  Probe.say .running .info
    (s!"Probing {conf.destination.address.text} from {source} " ++
      s!"with {size} sockets, {count} packets each")

/-- Prints the report on a result, with the table of all sockets if `details` are wanted. -/
def printReport (result : RunResult) (details : Bool) : Probe Unit := do
  let s ← get
  Probe.print (← Probe.ofExcept (Report.text result details s.world.render))

/-- Carries a run out, and prints its report. -/
def conduct (conf : RunConfig) (details : Bool) : Probe RunResult := do
  announce conf
  let result ← Probe.withGroup conf (Probe.timedRun conf (spinner conf))
  printReport result details
  return result

/-! ## A command line -/

/-- How the program ends once its command line is read. -/
inductive Verdict where
  | completed
  /-- A send failed, after which the report was printed. -/
  | aborted
  /-- The configuration was refused. -/
  | refused (reason : Failure)
  | failed (reason : Failure)
deriving DecidableEq, Repr

/-- The exit status of a verdict. -/
def Verdict.status : Verdict → Nat
  | .completed => 0
  | .aborted => 1
  | .refused _ => 1
  | .failed f => if f.isInterrupt then 130 else 1

/-- What goes to the standard error. -/
def Verdict.errors : Verdict → String
  | .refused f => CommandLine.complaint f.message
  | .failed f => if f.isReported then f.message ++ "\n" else ""
  | _ => ""

/-- Runs the configuration, and says it first. -/
def execute (conf : RunConfig) (details : Bool) : Probe Verdict := do
  Probe.say .configuring .debug s!"Configured {← conf.describe}"
  modify (·.forRun conf)
  let result ← conduct conf details
  return if result.isAborted then .aborted else .completed

/-- Settles the configuration and runs it. -/
def configureAndExecute (arguments : CommandLine.Arguments) : Probe Verdict := do
  let settle : Probe (Except Failure RunConfig) :=
    Except.ok <$> RunConfig.ofOptions Probe.resolve arguments.options
  let conf ← tryCatch settle fun f =>
    if f.isConfiguration then pure (.error f) else throw f
  match conf with
  | .error f => return .refused f
  | .ok conf => execute conf (0 < arguments.settings.verbosity)

/-- Says what ended the program. -/
def sayFailure (f : Failure) : Probe Unit :=
  if f.isReported then Probe.say .ending .critical f.message
  else if f.isInterrupt then Probe.say .ending .warning "Interrupted"
  else Probe.say .ending .error "Unexpected exception encountered"

/-- Does what a command line says; every failure becomes a verdict. -/
def perform (arguments : CommandLine.Arguments) : Probe Verdict :=
  tryCatch (configureAndExecute arguments) fun f => do
    sayFailure f
    return .failed f

/-- How the program ended. -/
structure Ended where
  status : Nat
  output : String := ""
  errors : String := ""
  /-- The state at the end. -/
  final : State

/-- What the entries of a journal put on the standard output. -/
def output (threshold : Level) (journal : Array Entry) : String :=
  journal.foldl (fun text e => text ++ e.output threshold) ""

/-- Runs the program. -/
def run (arguments : List String) (world : World) : Ended :=
  let start : State := { world }
  match CommandLine.read arguments with
  | .error .help => { status := 0, output := CommandLine.help, final := start }
  | .error .version => { status := 0, output := CommandLine.versionText, final := start }
  | .error (.wrong e) =>
    { status := 1, errors := CommandLine.complaint e.message, final := start }
  | .ok arguments =>
    let (verdict, final) :=
      match perform arguments start with
      | .ok verdict final => (verdict, final)
      | .error f final => (.failed f, final)
    { status := verdict.status
      output := output (.ofVerbosity arguments.settings.verbosity) final.journal
      errors := verdict.errors
      final }

end RdsReach.Program
