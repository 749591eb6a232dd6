import RdsReach.Probe.Basic

/-!
# Network interfaces

Which interface an address is assigned to. An assigned address is written without a scope of its
own or with one that does not count; one that is missing or cannot be read is skipped.
-/

namespace RdsReach

namespace Link

/-- The address that a link assigns, for links of the family of `version`. -/
def address? (version : Version) (link : Link) : Option IpAddress :=
  if link.family = version.family then
    link.address.bind fun text =>
      IpAddress.read? (String.ofList (IpAddress.withoutScope text.toList))
  else none

end Link

namespace Nic

/-- Is the address assigned to the interface? -/
def owns (nic : Nic) (address : IpAddress) : Bool :=
  nic.links.any fun link => link.address? address.version = some address

end Nic

/-- The name of the first interface that an address is assigned to. -/
def findInterface (nics : List Nic) (address : IpAddress) : Option String :=
  (nics.find? (·.owns address)).map (·.name)

namespace Probe

/-- The address of a source with its interface. A source that the user gave and no interface has
is warned of. -/
def describeSource (source : Endpoint) (explicit : Bool) : Probe String := do
  let address := source.address.text
  match findInterface (← get).world.nics source.address with
  | some name => return s!"{address} ({name})"
  | none =>
    if explicit then
      say .describingSource .warning
        (s!"Source address {address} is not assigned to any local interface, " ++
          "binding is likely to fail")
    return address

end Probe

end RdsReach
