import RdsReach.Program

/-!
# A dry run

The command line of the program, in a world where names are unknown and every other call succeeds:
it shows what a run would do and say.
-/

open RdsReach in
/-- Runs the program on a command line. -/
def main (arguments : List String) : IO UInt32 := do
  let ended := Program.run arguments {}
  (← IO.getStdout).putStr ended.output
  (← IO.getStderr).putStr ended.errors
  return ended.status.toUInt32
