import RdsReach.Report.Table
import RdsReach.RunResult

/-!
# The report of a run

For each socket that was spun on a line with the count, on demand a table of all sockets, a summary
and, if the run ended early, a line that says how far it came. A report has to be complete: a
number in it that is too long to print leaves no report at all.
-/

namespace RdsReach.Report

/-- The line of a socket that was spun on. -/
def spinLine (slot : Int) (spin : Spin) : Except Failure String :=
  return s!"Spun for {← numberText spin.count} counts on socket {← numberText slot}"

/-- The lines of the sockets that were spun on. -/
def spinLines (r : RunResult) : Except Failure (List String) :=
  (r.samples.filterMap fun s => s.spin.map (s.slot, ·)).mapM fun (slot, spin) => spinLine slot spin

/-- What the table says about a spin that may not have been made. -/
def spinCell : Option Spin → Except Failure String
  | some spin => spin.text
  | none => .ok "--"

/-- The row of a socket in the table. -/
def socketRow (s : Sample) : Except Failure (List String) :=
  return [← numberText s.slot, ← numberText s.sent, ← spinCell s.spin]

/-- The table of all sockets. -/
def socketTable (render : Renderer) (r : RunResult) : Except Failure String := do
  let rows ← r.samples.mapM socketRow
  (render ["Socket", "Sent", "Spin"] rows).mapError fun reason => .fault (.illValued reason)

/-- The summary of a run. -/
def summaryLine (r : RunResult) : Except Failure String :=
  return s!"{r.socketCount} sockets took {r.elapsed.fixed 6} msec to send and spin for " ++
    s!"{← numberText r.completedPackets} packets"

/-- The line about a run that ended early. -/
def abortLine (r : RunResult) (failure : SendFailure) : Except Failure String :=
  return s!"Run aborted on socket {← numberText failure.slot}: {← numberText r.packetsSent} of " ++
    s!"{← numberText r.requestedPackets} packets sent"

/-- The parts of a report, with the table of all sockets if `details` are wanted. -/
def lines (r : RunResult) (details : Bool) (render : Renderer := .plain) :
    Except Failure (List String) := do
  let spins ← spinLines r
  let table ← if details then List.singleton <$> socketTable render r else pure []
  let summary ← summaryLine r
  let abort ← r.failure.toList.mapM (abortLine r)
  return spins ++ table ++ [summary] ++ abort

/-- The text of a report. -/
def text (r : RunResult) (details : Bool) (render : Renderer := .plain) :
    Except Failure String :=
  return "\n".intercalate (← lines r details render)

end RdsReach.Report
