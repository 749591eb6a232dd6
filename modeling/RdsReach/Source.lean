import RdsReach.Probe.Calls
import RdsReach.RunConfig

/-!
# The source of a run

The address that packets come from: the one that the user gave, or else the local address that the
system picks when a UDP socket is connected towards the destination. Nothing is sent for that. The
address is found out once and kept for the whole run.
-/

namespace RdsReach.Probe

/-- The port that stands in for one while a route is looked up. -/
def routePort : Int := 1

/-- Connects a UDP helper and gives its local address. -/
def connectedName (helper : Nat) (destination : Endpoint) : Probe SockAddr := do
  (connect helper destination.sockAddr).onFault Fault.isSystem fun f =>
    .setup .route (.connect destination.address) f.errno
  (localName helper).onFault Fault.isSystem fun f =>
    .setup .route .localAddress f.errno

/-- The local address towards the destination. -/
def guessSource (destination : Endpoint) : Probe Endpoint := do
  let destination := destination.withPort routePort
  let helper ← (createSocket (.udp destination.version)).onFault Fault.isSystem fun f =>
    .setup .route .openUdp f.errno
  let name ← (connectedName helper destination).ensuring (close helper)
  let source ←
    ofExcept ((Endpoint.ofSockAddr destination.version.family name).mapError .malformed)
  return source.withPort 0

/-- The source of a run with port 0, as the system assigns the ports. -/
def sourceEndpoint (conf : RunConfig) : Probe Endpoint := do
  match (← get).source with
  | some source => return source.withPort 0
  | none =>
    let source ← guessSource conf.destination
    modify fun s => { s with source := some source }
    say .guessingSource .info
      s!"Using source address {source.address.text} for {conf.destination.address.text}"
    return source.withPort 0

end RdsReach.Probe
