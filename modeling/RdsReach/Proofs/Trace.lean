import Mathlib.Data.List.Basic
import RdsReach.Proofs.Outcome

/-!
# Traces

The trace of a state is the list of events so far. It is looked at in two ways:

* `State.Emits s es t`: the events `es` lead from `s` to `t`, and `State.After s es t`: they do so
  while the group of sockets and the source stay as they are;
* `eventsAt fd es`: the events among `es` that are about one descriptor, in order.
-/

namespace RdsReach

/-! ## Views of a state -/

/-- The events so far, in order. -/
def State.trace (s : State) : List Event := s.events.toList

/-- The sockets of the group, in order. -/
def State.members (s : State) : List ProbeSocket := s.group.sockets.toList

@[simp] theorem State.trace_note (s : State) (e : Event) : (s.note e).trace = s.trace ++ [e] := by
  simp [State.trace, State.note]

/-! ## Kinds of events -/

/-- Is this a packet that is sent? -/
def Call.isSend : Call → Bool
  | .send _ => true
  | _ => false

/-- Is this a question about the queue? -/
def Call.isQuery : Call → Bool
  | .queryQueue => true
  | _ => false

/-- Is this a call that serves a socket, a packet or a question? -/
def Call.isService (c : Call) : Bool := c.isSend || c.isQuery

/-- Is this a call of a setup, with which a route is looked up or a socket is made ready? -/
def Call.isSetup : Call → Bool
  | .bind _ => true
  | .connect _ => true
  | .localName => true
  | .setTos _ => true
  | _ => false

namespace Event

/-- The descriptor that the system gave out, if it did. -/
def openedFd? : Event → Option Nat
  | .opened _ fd => some fd
  | _ => none

/-- Is this a packet that is sent, with success or not? -/
def isSend : Event → Bool
  | .call _ c _ => c.isSend
  | _ => false

/-- Is this a question about a queue? -/
def isQuery : Event → Bool
  | .call _ c _ => c.isQuery
  | _ => false

/-- Is this a call that serves a socket, with success or not? -/
def isService : Event → Bool
  | .call _ c _ => c.isService
  | _ => false

/-- Is this a step of a setup, with success or not? -/
def isSetup : Event → Bool
  | .call _ c _ => c.isSetup
  | _ => true

/-- Did a packet go out? -/
def isSent (e : Event) : Bool := e.isSend && e.fault?.isNone

/-- The descriptor that an event is about. -/
def fd? : Event → Option Nat
  | .opened _ fd => some fd
  | .notOpened _ _ => none
  | .call fd _ _ => some fd

end Event

/-! ## The events on a descriptor -/

/-- The events on a descriptor, in order. -/
def eventsAt (fd : Nat) (es : List Event) : List Event := es.filter fun e => e.fd? = some fd

section EventsAt

variable {fd : Nat} {es es' : List Event}

@[simp] theorem eventsAt_append : eventsAt fd (es ++ es') = eventsAt fd es ++ eventsAt fd es' :=
  List.filter_append ..

theorem eventsAt_eq_self (h : ∀ e ∈ es, e.fd? = some fd) : eventsAt fd es = es :=
  List.filter_eq_self.2 fun e he => decide_eq_true (h e he)

theorem eventsAt_eq_nil (h : ∀ e ∈ es, e.fd? ≠ some fd) : eventsAt fd es = [] :=
  List.filter_eq_nil_iff.2 fun e he => by simpa using h e he

end EventsAt

/-! ## Events that lead from one state to another -/

/-- The descriptors that were given out, in order. -/
def openedFds (es : List Event) : List Nat := es.filterMap (·.openedFd?)

@[simp] theorem openedFds_append (es es' : List Event) :
    openedFds (es ++ es') = openedFds es ++ openedFds es' := List.filterMap_append ..

/-- The events `es` lead from `s` to `t`. The descriptors that are given out on the way are the ones
that come next. -/
structure State.Emits (s : State) (es : List Event) (t : State) : Prop where
  trace_eq : t.trace = s.trace ++ es
  size_eq : t.sockets.size = s.sockets.size + (openedFds es).length
  openedFds_eq : openedFds es = List.range' (firstFd + s.sockets.size) (openedFds es).length

/-- The events `es` lead from `s` to `t`, which has the group and the source of `s`. -/
structure State.After (s : State) (es : List Event) (t : State) : Prop extends
    s.Emits es t where
  group_eq : t.group = s.group
  source_eq : t.source = s.source

namespace State

variable {s t u : State} {es es' : List Event}

/-- Events that create no socket. -/
theorem Emits.of_calls (ht : t.trace = s.trace ++ es) (hn : t.sockets.size = s.sockets.size)
    (hes : openedFds es = []) : s.Emits es t :=
  ⟨ht, by rw [hn, hes, List.length_nil, Nat.add_zero],
    by rw [hes, List.length_nil, List.range'_zero]⟩

/-- A step that leaves events and sockets alone. -/
theorem Emits.of_eq (he : t.events = s.events) (hn : t.sockets.size = s.sockets.size) :
    s.Emits [] t := .of_calls (by rw [trace, he, List.append_nil, trace]) hn rfl

theorem Emits.refl (s : State) : s.Emits [] s := .of_eq rfl rfl

theorem Emits.trans (h : s.Emits es t) (h' : t.Emits es' u) : s.Emits (es ++ es') u where
  trace_eq := by rw [h'.trace_eq, h.trace_eq, List.append_assoc]
  size_eq := by rw [h'.size_eq, h.size_eq, openedFds_append, List.length_append, Nat.add_assoc]
  openedFds_eq := by
    rw [openedFds_append, List.length_append, ← List.range'_append_1, ← h.openedFds_eq,
      Nat.add_assoc, ← h.size_eq, ← h'.openedFds_eq]

/-- What follows the events without one of its own changes nothing. -/
theorem Emits.then_nil (h : s.Emits es t) (h' : t.Emits [] u) : s.Emits es u := by
  simpa using h.trans h'

/-- No descriptor is given out twice. -/
theorem Emits.nodup (h : s.Emits es t) : (openedFds es).Nodup := by
  rw [h.openedFds_eq]
  exact List.nodup_range'

theorem After.refl (s : State) : s.After [] s := ⟨.refl s, rfl, rfl⟩

theorem After.trans (h : s.After es t) (h' : t.After es' u) : s.After (es ++ es') u where
  toEmits := h.toEmits.trans h'.toEmits
  group_eq := by rw [h'.group_eq, h.group_eq]
  source_eq := by rw [h'.source_eq, h.source_eq]

theorem After.members_eq (h : s.After es t) : t.members = s.members := by
  rw [State.members, h.group_eq, State.members]

end State

end RdsReach
