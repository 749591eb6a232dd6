import RdsReach.Setup

/-!
# The group of sockets

The sockets of a run, in the order of their slots. Opening adds as many sockets as the group's
size; closing closes all of them and leaves the group empty, also when some cannot be closed.
Entering opens the group and closes it again if that fails half-way.
-/

namespace RdsReach.Probe

/-- Adds a socket to the group. -/
def addToGroup (socket : ProbeSocket) : Probe Unit :=
  modify fun s => { s with group := { s.group with sockets := s.group.sockets.push socket } }

/-- Adds the sockets of `n` slots to the group, the first of them `slot`. -/
def openSlots (conf : RunConfig) : (n : Nat) → (slot : Nat) → Probe Unit
  | 0, _ => pure ()
  | n + 1, slot => do
    addToGroup (← createProbeSocket conf slot)
    openSlots conf n (slot + 1)

/-- Opens the group. -/
def openGroup (conf : RunConfig) : Probe Unit := do
  openSlots conf (← get).group.size.toNat 0
  say .openingGroup .info s!"Opened {(← get).group.sockets.size} RDS sockets"

/-- Closes a socket; that the system cannot close it is said and no failure. -/
def closeSocket (socket : ProbeSocket) : Probe Unit :=
  tryCatch (close socket.fd) fun f => do
    if f.isSystem then
      say .closingGroup .error s!"Failed to close socket {← number socket.slot}"
    else throw f

/-- Closes sockets one after the other. -/
def closeSockets : List ProbeSocket → Probe Unit
  | [] => pure ()
  | socket :: rest => do
    closeSocket socket
    closeSockets rest

/-- Closes the group. -/
def closeGroup : Probe Unit := do
  closeSockets (← get).group.sockets.toList
  modify fun s => { s with group := { s.group with sockets := #[] } }

/-- Opens the group or, if that fails, leaves it closed. -/
def enterGroup (conf : RunConfig) : Probe Unit :=
  (openGroup conf).undoing (fun _ => true) closeGroup

/-- Does something with the group open, and closes it afterwards in any case. -/
def withGroup (conf : RunConfig) (action : Probe α) : Probe α := do
  enterGroup conf
  action.ensuring closeGroup

end RdsReach.Probe
