import RdsReach.CommandLine.Opt
import RdsReach.Text.Quoted

/-!
# Usage errors and help

What is wrong with a command line, and the texts that explain the command line.
-/

namespace RdsReach.CommandLine

/-- The name of the program. -/
def program : String := "rdsprobe"

/-- What is wrong with a command line. -/
inductive UsageError where
  /-- An abbreviation that stands for more than one option. -/
  | ambiguous (argument : String) (candidates : List Opt)
  /-- An option without the value that it takes. -/
  | valueMissing (option : Opt)
  /-- A value for an option that takes none. -/
  | valueUnwanted (option : Opt) (value : String)
  /-- A value that is no number for an option that takes one. -/
  | invalidNumber (option : Opt) (value : String)
  /-- An option that excludes an earlier one. -/
  | conflict (option earlier : Opt)
  | destinationMissing
  /-- Arguments that are left over. -/
  | unrecognized (arguments : List String)
deriving DecidableEq, Repr

namespace UsageError

/-- The wording of a usage error. -/
def message : UsageError → String
  | .ambiguous argument candidates =>
    s!"ambiguous option: {argument} could match " ++
      ", ".intercalate (candidates.map ("--" ++ ·.name))
  | .valueMissing option => s!"argument {option.display}: expected one argument"
  | .valueUnwanted option value =>
    s!"argument {option.display}: ignored explicit argument " ++ Text.quoted value
  | .invalidNumber option value => s!"argument {option.display}: invalid number <{value}>"
  | .conflict option earlier =>
    s!"argument {option.display}: not allowed with argument {earlier.display}"
  | .destinationMissing => "the following arguments are required: dst_addr"
  | .unrecognized arguments => "unrecognized arguments: " ++ " ".intercalate arguments

end UsageError

/-- The summary of the command line. -/
def usage : String :=
  "usage: rdsprobe [-h] [--version] [-c COUNT] [-n SOCKETS] [-I interface]\n" ++
  "                [-Q TOS] [-s] [-v | -q]\n" ++
  "                dst_addr\n"

/-- What is printed about a command line that is wrong. -/
def complaint (message : String) : String := usage ++ s!"{program}: error: {message}\n"

/-- The explanation of the command line. -/
def help : String :=
  usage ++
  "\n" ++
  "Test reachability of a remote RDS node by sending zero-length packets to port\n" ++
  "0 over a group of RDS sockets.\n" ++
  "\n" ++
  "positional arguments:\n" ++
  "  dst_addr              Destination address or host name\n" ++
  "\n" ++
  "options:\n" ++
  "  -h, --help            show this help message and exit\n" ++
  "  --version             show program's version number and exit\n" ++
  "\n" ++
  "PROBING:\n" ++
  "  -c COUNT, --count COUNT\n" ++
  "                        Limit packet count per socket (default one packet per\n" ++
  "                        socket). Accepts k/m/g suffixes.\n" ++
  "  -n SOCKETS, --sockets SOCKETS\n" ++
  "                        Number of RDS sockets used, 1-32 (default 8, or the\n" ++
  "                        packet count if lower)\n" ++
  "  -I interface, --source interface\n" ++
  "                        Source IP address (default guessed from the route to\n" ++
  "                        the destination)\n" ++
  "  -Q TOS, --tos TOS     Type of service applied to each socket (default none)\n" ++
  "  -s, --spin            Spin on the outbound queue (SIOCOUTQ) of each socket\n" ++
  "                        until it drained\n" ++
  "\n" ++
  "LOGGING:\n" ++
  "  -v, --verbose         Increase verbosity once per call\n" ++
  "  -q, --quiet           Decrease verbosity once per call\n"

/-- The name of the program with its version. -/
def versionText : String := s!"{program} version 0.1.0\n"

end RdsReach.CommandLine
