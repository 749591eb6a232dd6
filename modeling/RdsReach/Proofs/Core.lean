import RdsReach.Proofs.Trace

/-!
# The core of a state

A part of what a probe knows and does is there for its user's information only: which interface an
address belongs to, how long a queue is, when a packet went out, and what is said about all that.
The core of a state is the state without it. What a probe does to the sockets is decided by the
core, which is why the core has to keep every other field.
-/

namespace RdsReach

/-- The world without the answers that are for information only. -/
def World.core (w : World) : World := { w with nics := [], queue := [], sendClock := [] }

/-- The socket without its time and its spin. -/
def ProbeSocket.core (m : ProbeSocket) : ProbeSocket := { m with lastSent := none, spin := none }

/-- The state without what is for information only: the answers for that, the questions about
queues, the times and spins of the sockets, and the journal. -/
def State.core (s : State) : State :=
  { s with
    world := s.world.core
    sendClockReads := 0
    events := s.events.filter fun e => !e.isQuery
    journal := #[]
    group := { s.group with sockets := s.group.sockets.map ProbeSocket.core } }

namespace State

variable {s s' : State}

/-! ## What states of the same core share -/

section Fields

variable (h : s.core = s'.core)
include h

theorem core_names : s.world.names = s'.world.names := congrArg (·.world.names) h

theorem core_nameprep : s.world.nameprep = s'.world.nameprep := congrArg (·.world.nameprep) h

theorem core_rds : s.world.rds = s'.world.rds := congrArg (·.world.rds) h

theorem core_udp : s.world.udp = s'.world.udp := congrArg (·.world.udp) h

theorem core_tos : s.world.tos = s'.world.tos := congrArg (·.world.tos) h

theorem core_clock : s.world.clock = s'.world.clock := congrArg (·.world.clock) h

theorem core_render : s.world.render = s'.world.render := congrArg (·.world.render) h

theorem core_sockets : s.sockets = s'.sockets := congrArg (·.sockets) h

theorem core_rdsAttempts : s.rdsAttempts = s'.rdsAttempts := congrArg (·.rdsAttempts) h

theorem core_udpAttempts : s.udpAttempts = s'.udpAttempts := congrArg (·.udpAttempts) h

theorem core_tosCalls : s.tosCalls = s'.tosCalls := congrArg (·.tosCalls) h

theorem core_clockReads : s.clockReads = s'.clockReads := congrArg (·.clockReads) h

theorem core_source : s.source = s'.source := congrArg (·.source) h

theorem core_groupSize : s.group.size = s'.group.size := congrArg (·.group.size) h

theorem core_groupSockets :
    s.group.sockets.map ProbeSocket.core = s'.group.sockets.map ProbeSocket.core :=
  congrArg (·.group.sockets) h

theorem core_members : s.members.map ProbeSocket.core = s'.members.map ProbeSocket.core := by
  have hsockets := congrArg Array.toList (core_groupSockets h)
  rwa [Array.toList_map, Array.toList_map] at hsockets

theorem core_member (place : Nat) :
    s.group.sockets[place]?.map ProbeSocket.core =
      s'.group.sockets[place]?.map ProbeSocket.core := by
  have hsockets := congrArg (·[place]?) (core_groupSockets h)
  simpa only [Array.getElem?_map] using hsockets

theorem core_memberCount : s.group.sockets.size = s'.group.sockets.size := by
  have hsizes := congrArg Array.size (core_groupSockets h)
  rwa [Array.size_map, Array.size_map] at hsizes

theorem core_trace :
    (s.trace.filter fun e => !e.isQuery) = s'.trace.filter fun e => !e.isQuery := by
  have hevents := congrArg (fun s : State => s.events.toList) h
  simpa only [core, Array.toList_filter, trace] using hevents

end Fields

end State

end RdsReach
