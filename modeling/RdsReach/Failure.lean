import RdsReach.Endpoint
import RdsReach.Errno
import RdsReach.Fault
import RdsReach.Host
import RdsReach.Numeral

/-!
# Failures

Everything that can end an operation of the probe. A *reported* failure is one that the program
raises itself to tell the user what went wrong: a refused configuration, a socket that could not
be set up, a send that failed. Its causes are values; `Complaint.text` and `Failure.message` word
them. All other failures pass through from where they arose.

A report that cannot be worded, because an error number does not fit its machine type or a number
is too long to print, gives way to that second failure: see `Failure.settled`.
-/

namespace RdsReach

/-- What a reported failure is about. -/
inductive Complaint where
  | socketCount (requested : Int)
  | tosValue (requested : Int)
  | families (source destination : Version)
  | openRds
  | openUdp
  | connect (destination : IpAddress)
  | localAddress
  | bindIpv6 (source : IpAddress)
  | bind (source : IpAddress)
  | setTos (tos : Int)
  /-- Something that the caller words itself. -/
  | other (text : String)
deriving DecidableEq, Repr

namespace Complaint

/-- The wording of a complaint. -/
def text : Complaint → String
  | .socketCount n => s!"Invalid number of sockets <{n}>, must be within [1, 32]"
  | .tosValue n => s!"Bad tos <{n}>, must be within [0, 255]"
  | .families source destination =>
    "Source and destination address family are not the same " ++
      s!"(IPv{source.number} source, IPv{destination.number} destination)"
  | .openRds => "unable to create RDS socket"
  | .openUdp => "unable to create UDP socket"
  | .connect destination => s!"unable to connect to {destination.text}"
  | .localAddress => "getsockname failed"
  | .bindIpv6 source => s!"bind() to {source.text} failed, RDS over IPv6 is not supported"
  | .bind source => s!"bind() to {source.text} failed"
  | .setTos n => s!"failed to set TOS {n}"
  | .other text => text

/-- The numbers that stand in the wording of a complaint. -/
def numbers : Complaint → List Int
  | .socketCount n => [n]
  | .tosValue n => [n]
  | .setTos n => [n]
  | _ => []

end Complaint

/-- The rules that a configuration can break, beside the form of an address. -/
inductive Rule where
  | groupSize
  | tosRange
  | familyMatch
  | general
deriving DecidableEq, Repr

/-- The steps of making a socket ready. -/
inductive SetupStep where
  | create
  | route
  | bind
  | tos
  | general
deriving DecidableEq, Repr

/-- A send that failed: on which socket of the group, and after how many packets. -/
structure SendFailure where
  slot : Int
  sent : Int
  errno : Int
deriving DecidableEq, Repr

/-- What can end an operation. -/
inductive Failure where
  /-- A reported failure of no closer description. -/
  | general (about : Complaint)
  /-- A configuration that breaks a rule. -/
  | refused (rule : Rule) (about : Complaint)
  /-- A host that is no address and has none. -/
  | unresolved (host : Host) (reason : Option String)
  /-- A socket that could not be made ready. -/
  | setup (step : SetupStep) (about : Complaint) (errno : Int)
  | send (failure : SendFailure)
  /-- A query of the outbound queue that failed; it becomes part of a spin's outcome. -/
  | queueQuery (errno : Int)
  /-- A fault that no one took for something else. -/
  | fault (fault : Fault)
  /-- A text that is no IP address of either version. -/
  | notAnAddress (text : String)
  | malformed (reason : Endpoint.Malformed)
  | misread (reason : Numeral.Misread)
  /-- A number of too many digits to print. -/
  | overlong
  /-- A number that does not fit the bytes it goes into, or bytes that hold no number. -/
  | packing
  /-- A time that is not a number. -/
  | notANumber
deriving DecidableEq, Repr

namespace Failure

/-! ## Classes -/

/-- Does the failure refuse a configuration? -/
def isConfiguration : Failure → Bool
  | .refused _ _ => true
  | .unresolved _ _ => true
  | _ => false

/-- Does the failure come from making a socket ready? -/
def isSetup : Failure → Bool
  | .setup _ _ _ => true
  | _ => false

/-- Is the failure one that the program ends with in a controlled way? -/
def isReported : Failure → Bool
  | .general _ => true
  | .send _ => true
  | f => f.isConfiguration || f.isSetup

/-- Is the failure a fault of the system? -/
def isSystem : Failure → Bool
  | .fault f => f.isSystem
  | _ => false

/-- Is the failure the user's interrupt? -/
def isInterrupt : Failure → Bool
  | .fault .interrupt => true
  | _ => false

/-! ## Wording -/

/-- The text of an error number in a report; 0 stands for none. -/
def errnoText (errno : Int) : String :=
  if errno = 0 then "unknown error" else Errno.text errno

/-- The error number with its text, as reports end with it. -/
def errnoSuffix (errno : Int) : String := s!", errno: {errno} ({errnoText errno})"

/-- The wording of a failure, empty for one that is known by its kind alone. -/
def message : Failure → String
  | .general about => about.text
  | .refused _ about => about.text
  | .unresolved host reason =>
    let reason := reason.getD ""
    s!"Cannot parse address <{host.shown}>" ++ if reason.isEmpty then "" else s!": {reason}"
  | .setup _ about errno => about.text ++ errnoSuffix errno
  | .send f => s!"Send failed on socket {f.slot} after {f.sent} packets" ++ errnoSuffix f.errno
  | .queueQuery errno => "Outbound queue query failed" ++ errnoSuffix errno
  | .fault (.illValued text) => text
  | .fault (.unencodable text) => text
  | .notAnAddress text => Text.quoted text ++ " does not appear to be an IPv4 or IPv6 address"
  | .malformed (.tooFew expected got) =>
    s!"not enough values to unpack (expected {expected}, got {got})"
  | .malformed (.tooMany expected) => s!"too many values to unpack (expected {expected})"
  | .malformed (.unsupportedFamily family) => s!"Unsupported address family {family}"
  | .misread reason => reason.message
  | .overlong => Decimal.overlongText
  | .notANumber => "cannot convert float NaN to integer"
  | _ => ""

/-- The error number that a report shows. -/
def reportedErrno : Failure → Option Int
  | .setup _ _ errno => some errno
  | .send f => some f.errno
  | .queueQuery errno => some errno
  | _ => none

/-- The numbers that stand in the wording of a failure, its error number aside. -/
def numbers : Failure → List Int
  | .general about => about.numbers
  | .refused _ about => about.numbers
  | .setup _ about _ => about.numbers
  | .send f => [f.slot, f.sent]
  | _ => []

/-- The failure that a report comes to: itself, unless it cannot be worded. -/
def settled (f : Failure) : Failure :=
  if (f.reportedErrno.map Errno.inRange).getD true then
    if f.numbers.all Decimal.isPrintable then f else .overlong
  else .fault .outOfRange

end Failure

/-- The text of a number, unless it is too long to print. -/
def numberText (n : Int) : Except Failure String :=
  match Decimal.text? n with
  | some text => .ok text
  | none => .error .overlong

/-- The text of an endpoint, unless its port is too long to print. -/
def endpointText (e : Endpoint) : Except Failure String :=
  match e.port with
  | .number n => (numberText n).map fun _ => e.text
  | .name _ => .ok e.text

end RdsReach
