import RdsReach.NumericHost
import RdsReach.Probe.Basic

/-!
# Resolving host names

A host text becomes the endpoint of the first address that a lookup gives. A lookup for numeric
addresses comes first, so that an address never makes the name service work; only if it fails as a
lookup the name service is asked.
-/

namespace RdsReach

/-! ## Lookups -/

/-- The fault of a lookup that finds nothing. -/
def Fault.unknownName (reason : String) : Fault := .lookup (some (-2)) (some reason)

/-- What a lookup of a text finds among names that stand in a table. -/
def NameService.find? (prepare : Nameprep) (hosts : List (String × List Candidate)) :
    LookupKind → String → Except Fault (Option (List Candidate))
  | .numeric, text =>
    (Idna.encode prepare text.toList).map fun name => (NumericHost.read? name).map ([·])
  | .full, text => .ok (hosts.lookup text)

/-- The answer of a lookup of a text among names that stand in a table. -/
def NameService.answer (prepare : Nameprep) (hosts : List (String × List Candidate))
    (kind : LookupKind) (text : String) : Except Fault (List Candidate) := do
  match ← find? prepare hosts kind text with
  | some candidates => return candidates
  | none => .error (.unknownName "Name or service not known")

namespace Probe

/-- The answer to a lookup. -/
def takeAnswer (kind : LookupKind) (host : Host) : Probe (Except Fault (List Candidate)) := do
  let s ← get
  match s.world.names, host with
  | .table hosts, .named text => return NameService.answer s.world.nameprep hosts kind text
  | .table _, .blank => return .error .illTyped
  | .staged [], _ => return .error (.unknownName "script exhausted")
  | .staged (answer :: rest), _ =>
    modify fun s => { s with world := { s.world with names := .staged rest } }
    return answer

/-- Notes a lookup. -/
def noteLookup (kind : LookupKind) (host : Host) (fault : Option Fault) : Probe Unit :=
  modify fun s => { s with lookups := s.lookups.push { kind, host, fault } }

/-- Looks a host up. -/
def lookup (kind : LookupKind) (host : Host) : Probe (List Candidate) := do
  match ← takeAnswer kind host with
  | .ok candidates =>
    noteLookup kind host none
    return candidates
  | .error f =>
    noteLookup kind host (some f)
    throw (.fault f)

/-! ## Resolving -/

/-- The lookup after the numeric one failed; its failure as a lookup is the one that is told. -/
def lookupFull (host : Host) : Probe (List Candidate) := do
  say .resolving .debug s!"'{host.shown}' is not a numeric address, resolving"
  tryCatch (lookup .full host) fun
    | .fault (.lookup _ reason) => fail (.unresolved host reason)
    | f => throw f

/-- The answers of the two lookups. -/
def candidates (host : Host) : Probe (List Candidate) :=
  tryCatch (lookup .numeric host) fun
    | .fault (.lookup _ _) => lookupFull host
    | .fault (.unencodable reason) => fail (.unresolved host (some reason))
    | f => throw f

/-- The endpoint of a host. -/
def resolve (host : Host) : Probe Endpoint := do
  match ← candidates host with
  | [] => fail (.unresolved host (some "no address returned"))
  | first :: _ =>
    if (Version.ofFamily? first.family).isNone then
      let family ← number first.family
      fail (.unresolved host (some s!"getaddrinfo() returns unsupported family: {family}"))
    let endpoint ← ofExcept ((Endpoint.ofSockAddr first.family first.address).mapError .malformed)
    say .resolving .debug s!"Resolved '{host.shown}' to {endpoint.address.text}"
    return endpoint

end Probe

end RdsReach
