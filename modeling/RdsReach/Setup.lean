import RdsReach.Source

/-!
# Making a socket ready

A socket of a group is created, bound to the source of the run and given its type of service. If a
step fails in a way that is reported, the socket is closed before the report.
-/

namespace RdsReach.Probe

/-- The byte of a type of service. -/
def tosByte (tos : Int) : Probe UInt8 :=
  if RunConfig.isTos tos then pure (UInt8.ofNat tos.toNat) else throw .packing

/-- Gives a socket its type of service. -/
def applyTos (fd : Nat) (tos : Int) : Probe Unit := do
  let byte ← tosByte tos
  (setTos fd byte).onFault Fault.isSystem fun f => .setup .tos (.setTos tos) f.errno

/-- Makes a new socket ready and gives the source that it is bound to. -/
def prepare (conf : RunConfig) (fd : Nat) : Probe Endpoint := do
  let source ← sourceEndpoint conf
  -- the RDS transport has no IPv6 addresses, and no call is made to find that out
  if source.version ≠ .four then
    fail (.setup .bind (.bindIpv6 source.address) Errno.familyNotSupported)
  (bind fd source.sockAddr).onFault Fault.isSystemOrIllTyped fun f =>
    .setup .bind (.bind source.address) f.errno
  if conf.tos ≠ 0 then applyTos fd conf.tos
  return source

/-- Creates the socket of a slot. -/
def createProbeSocket (conf : RunConfig) (slot : Int) : Probe ProbeSocket := do
  let fd ← (createSocket .rds).onFault Fault.isSystem fun f => .setup .create .openRds f.errno
  let source ← (prepare conf fd).undoing Failure.isReported (close fd)
  let slotText ← number slot
  say .creatingSocket .debug s!"Created RDS socket {slotText} bound to {source.address.text}"
  return { fd, slot }

end RdsReach.Probe
