import RdsReach.Session
import RdsReach.Proofs.Counting
import RdsReach.Proofs.OneSource
import RdsReach.Proofs.Program

/-!
# Versions agree down to the sockets

An RDS socket can have IPv4 addresses alone. No check stands before the calls that bind it and send
on it; that they are never made with another address follows from what is known of a configuration
once it is settled, and of the source once it is found out.

`Fitting conf before s` is the invariant that carries this through a session: the source is of the
destination's version, a group has sockets only if that is IPv4, and since the trace `before` no
address came to an RDS socket that does not fit. `RunConfig.families_agree` says what it comes to.
-/

namespace RdsReach

/-! ## What fits the destination -/

/-- The address of a call on an RDS socket that has one. -/
def Event.rdsAddress? : Event → Option SockAddr
  | .call _ (.bind a) _ => some a
  | .call _ (.send a) _ => some a
  | _ => none

/-- A call with an address on an RDS socket is made only for an IPv4 destination, and with an
address of the shape that the socket takes. -/
def Event.Fits (conf : RunConfig) (e : Event) : Prop :=
  ∀ a, e.rdsAddress? = some a →
    conf.destination.version = .four ∧ Probe.shapeFault? a = none

/-- Everything that is kept, and everything that happened since the trace `before`, fits the
destination. -/
structure Fitting (conf : RunConfig) (before : List Event) (s : State) : Prop where
  source_version : ∀ src, s.source = some src → src.version = conf.destination.version
  four_of_member : s.members ≠ [] → conf.destination.version = .four
  events : ∃ es, s.trace = before ++ es ∧ ∀ e ∈ es, e.Fits conf

/-- Only what fits happened, the source stayed as it was, and no empty group got a member. -/
structure State.Apart (conf : RunConfig) (s t : State) : Prop where
  source_eq : t.source = s.source
  members : t.members ≠ [] → s.members ≠ []
  events : ∃ es, t.trace = s.trace ++ es ∧ ∀ e ∈ es, e.Fits conf

instance (conf : RunConfig) : IsPreorder State (State.Apart conf) where
  refl s := ⟨rfl, id, [], (List.append_nil _).symm, by simp⟩
  trans s t u h h' := by
    obtain ⟨es, hes, hfits⟩ := h.events
    obtain ⟨es', hes', hfits'⟩ := h'.events
    refine ⟨h'.source_eq.trans h.source_eq, fun hu => h.members (h'.members hu), es ++ es', ?_,
      List.forall_mem_append.2 ⟨hfits, hfits'⟩⟩
    rw [hes', hes, List.append_assoc]

section Fits

variable {conf : RunConfig} {before : List Event} {s t : State} {src : Endpoint}

/-- Calls without an address fit in any case. -/
theorem Event.fits_of_none {e : Event} (h : e.rdsAddress? = none) : e.Fits conf := by
  intro a ha
  rw [h] at ha
  cases ha

/-- The socket address of an IPv4 endpoint is one that an RDS socket takes. -/
theorem shapeFault?_sockAddr {e : Endpoint} (h : e.version = .four) :
    Probe.shapeFault? e.sockAddr = none := by
  rw [Probe.shapeFault?, Endpoint.sockAddr, h]
  rfl

/-- What makes a socket ready with a source of the destination's version fits. -/
theorem Readies.fits {c : Call} (h : Readies src c)
    (hversion : src.version = conf.destination.version) (fd : Nat) (o : Option Fault) :
    (Event.call fd c o).Fits conf := by
  obtain ⟨hfour, rfl | ⟨byte, rfl⟩⟩ := h
  · intro a ha
    cases ha
    exact ⟨hversion.symm.trans hfour, shapeFault?_sockAddr hfour⟩
  · exact Event.fits_of_none rfl

/-- A guess goes by UDP. -/
theorem Attempt.fits {destination : Endpoint} {fd : Nat} {es : List Event}
    (h : Attempt destination fd es) : ∀ e ∈ es, e.Fits conf := by
  -- a helper is connected, and neither bound nor sent on
  have hnone : ∀ e ∈ es, e.rdsAddress? = none := by
    cases h with
    | unopened g => simp [Event.rdsAddress?]
    | unconnected g o => simp [eventsOn, Event.rdsAddress?]
    | connected o o' => simp [eventsOn, Event.rdsAddress?]
  exact fun e he => Event.fits_of_none (hnone e he)

/-- Asking for the source keeps to the destination's version. -/
theorem SourceLookup.fits {fd : Nat} {es : List Event} {known : Option Endpoint}
    (h : SourceLookup conf fd s es known)
    (hs : ∀ src, s.source = some src → src.version = conf.destination.version) :
    (∀ src, known = some src → src.version = conf.destination.version) ∧
      ∀ e ∈ es, e.Fits conf := by
  cases h with
  | known hsource => exact ⟨fun src hsrc => hs src (hsource.trans hsrc), by simp⟩
  | found hsource hfinds =>
    refine ⟨fun src hsrc => ?_, (Attempt.connected none none).fits⟩
    cases hsrc
    exact hfinds.version_eq
  | vain hsource hattempt hvain => exact ⟨by simp, hattempt.fits⟩

namespace Fitting

theorem of_apart (h : Fitting conf before s) (ht : s.Apart conf t) : Fitting conf before t := by
  obtain ⟨es, hes, hfits⟩ := h.events
  obtain ⟨es', hes', hfits'⟩ := ht.events
  refine ⟨?_, fun hmembers => h.four_of_member (ht.members hmembers), es ++ es', ?_,
    List.forall_mem_append.2 ⟨hfits, hfits'⟩⟩
  · rw [ht.source_eq]
    exact h.source_version
  · rw [hes', hes, List.append_assoc]

/-- The source became known, or was asked for in vain. -/
theorem asked (h : Fitting conf before s) (hgroup : s.SameGroup t) {es : List Event}
    (ht : s.Emits es t) (hes : ∀ e ∈ es, e.Fits conf)
    (hsource : ∀ src, t.source = some src → src.version = conf.destination.version) :
    Fitting conf before t := by
  obtain ⟨es', hes', hfits⟩ := h.events
  refine ⟨hsource, ?_, es' ++ es, ?_, List.forall_mem_append.2 ⟨hfits, hes⟩⟩
  · rw [State.members, hgroup]
    exact h.four_of_member
  · rw [ht.trace_eq, hes', List.append_assoc]

end Fitting

theorem State.Apart.of_eq (hsource : t.source = s.source) (hmembers : t.members = s.members)
    (hevents : t.events = s.events) : s.Apart conf t where
  source_eq := hsource
  members := by
    rw [hmembers]
    exact id
  events := ⟨[], by rw [trace, hevents, List.append_nil, trace], by simp⟩

theorem State.After.apart {es : List Event} (h : s.After es t) (hes : ∀ e ∈ es, e.Fits conf) :
    s.Apart conf t where
  source_eq := h.source_eq
  members := by
    rw [h.members_eq]
    exact id
  events := ⟨es, h.trace_eq, hes⟩

end Fits

namespace Probe

open State (Apart Preserves Emits)

variable {α : Type} {conf : RunConfig} {before : List Event} {s : State}

/-- The action fits the destination, however it ends. -/
def KeepsFit (conf : RunConfig) (before : List Event) (action : Probe α) : Prop :=
  Respects (Preserves (Fitting conf before)) action

/-- What stays apart from the source and the group keeps the invariant. -/
theorem Respects.keepsFit {action : Probe α} (h : Respects (Apart conf) action) :
    KeepsFit conf before action := h.mono fun _ _ ht hs => hs.of_apart ht

/-! ## The source and new sockets -/

/-- A guessed source comes from a helper of the destination's version. -/
theorem sourceEndpoint_keepsFit : KeepsFit conf before (sourceEndpoint conf) := by
  intro s
  apply ((sourceEndpoint_lookup conf s).and ((sourceEndpoint_composed conf).sameGroup s)).mono
  · intro _ t ht hs
    obtain ⟨⟨es, src, hlookup, -, hsource, ht⟩, hgroup⟩ := ht
    obtain ⟨hversion, hes⟩ := hlookup.fits hs.source_version
    exact hs.asked hgroup ht hes (hsource ▸ hversion)
  · intro _ t ht hs
    obtain ⟨⟨es, hlookup, hsource, ht⟩, hgroup⟩ := ht
    obtain ⟨hversion, hes⟩ := hlookup.fits hs.source_version
    exact hs.asked hgroup ht hes (hsource ▸ hversion)

/-- A source that is given is of the destination's version. -/
theorem sourceEndpoint_version (hs : Fitting conf before s) :
    Meets (sourceEndpoint conf) s (fun e _ => e.version = conf.destination.version)
      fun _ _ => True := by
  apply (sourceEndpoint_lookup conf s).mono
  · intro _ t ht
    obtain ⟨es, src, hlookup, rfl, -⟩ := ht
    rw [Endpoint.version_withPort]
    exact (hlookup.fits hs.source_version).1 src rfl
  · exact fun _ _ _ => trivial

/-- Sockets are created for an IPv4 destination only, and with a source that is IPv4, too. -/
theorem createProbeSocket_four (slot : Int) (hs : Fitting conf before s) :
    Meets (createProbeSocket conf slot) s
      (fun _ t => conf.destination.version = .four ∧
        ∃ src, t.source = some src ∧ src.version = .four)
      fun _ _ => True := by
  apply (createProbeSocket_lookup conf slot s).mono
  · intro _ t ht
    obtain ⟨es, src, hlookup, -, hfour, hsource, -⟩ := ht
    have hversion := (hlookup.fits hs.source_version).1 src rfl
    exact ⟨hversion.symm.trans hfour, src, hsource, hfour⟩
  · exact fun _ _ _ => trivial

/-- The calls on a new socket fit where the source does. -/
theorem fits_eventsOn {known : Option Endpoint} {cs : List (Call × Option Fault)} (fd : Nat)
    (hversion : ∀ src, known = some src → src.version = conf.destination.version)
    (hcs : ∀ c ∈ cs, c.1 = .close ∨ ∃ src, known = some src ∧ Readies (src.withPort 0) c.1) :
    ∀ e ∈ eventsOn fd cs, e.Fits conf := by
  intro e he
  obtain ⟨⟨c, o⟩, hc, rfl⟩ := List.mem_map.1 he
  rcases hcs _ hc with hclose | ⟨src, hsrc, hready⟩
  · dsimp only at hclose
    rw [hclose]
    exact Event.fits_of_none rfl
  · exact hready.fits (hversion src hsrc) fd o

/-- Before a socket is bound, its source is known to be of the right version, or it is closed
unbound. -/
theorem createProbeSocket_keepsFit (slot : Int) :
    KeepsFit conf before (createProbeSocket conf slot) := by
  intro s
  have hopened (fd : Nat) : (Event.opened .rds fd).Fits conf := Event.fits_of_none rfl
  apply ((createProbeSocket_lookup conf slot s).and
    ((createProbeSocket_composed conf slot).sameGroup s)).mono
  · intro _ t ht hs
    obtain ⟨⟨es, src, hlookup, -, hfour, hsource, ht⟩, hgroup⟩ := ht
    obtain ⟨hversion, hes⟩ := hlookup.fits hs.source_version
    have hready := fits_eventsOn (firstFd + s.sockets.size) hversion fun c hc =>
      .inr ⟨src, rfl, readies_readyCalls conf hfour c hc⟩
    exact hs.asked hgroup ht
      (List.forall_mem_cons.2 ⟨hopened _, List.forall_mem_append.2 ⟨hes, hready⟩⟩)
      (hsource ▸ hversion)
  · intro _ t ht hs
    obtain ⟨⟨g, ht, hsource⟩ | ⟨es, known, cs, hlookup, hsource, ht, hcs⟩, hgroup⟩ := ht
    · refine hs.asked hgroup ht ?_ (hsource ▸ hs.source_version)
      exact List.forall_mem_singleton.2 (Event.fits_of_none rfl)
    · obtain ⟨hversion, hes⟩ := hlookup.fits hs.source_version
      have hready := fits_eventsOn (firstFd + s.sockets.size) hversion hcs
      exact hs.asked hgroup ht
        (List.forall_mem_cons.2 ⟨hopened _, List.forall_mem_append.2 ⟨hes, hready⟩⟩)
        (hsource ▸ hversion)

/-! ## The group -/

theorem say_apart (origin : Origin) (level : Level) (text : String) :
    Respects (Apart conf) (say origin level text) := fun _ => .of_eq rfl rfl rfl

/-- A call stays apart if it fits, whatever its outcome. -/
theorem Makes.apart {action : Probe α} {fd : Nat} {c : Call} (h : Makes action fd c)
    (hc : ∀ o, (Event.call fd c o).Fits conf) : Respects (Apart conf) action := by
  intro s
  exact h.ends s fun o t ht => ht.apart (List.forall_mem_singleton.2 (hc o))

theorem close_apart (fd : Nat) : Respects (Apart conf) (close fd) :=
  (close_makes fd).apart fun _ => Event.fits_of_none rfl

/-- Sockets are closed without an address, and one that cannot be closed is told. -/
theorem closeSockets_apart (ms : List ProbeSocket) :
    Respects (Apart conf) (closeSockets ms) := by
  have hclose (m : ProbeSocket) : Respects (Apart conf) (closeSocket m) := by
    apply (close_apart m.fd).tryCatch
    intro f
    split
    · exact (number_respects _).bind fun _ => say_apart _ _ _
    · exact .throw f
  induction ms with
  | nil => exact .pure _
  | cons m ms ih => exact (hclose m).bind fun _ => ih

/-- A group that was closed has no members, and so none for another version. -/
theorem closeGroup_apart : Respects (Apart conf) closeGroup := by
  apply Respects.get.bind
  intro s
  apply (closeSockets_apart _).bind
  intro _
  exact Respects.modify fun t => ⟨rfl, fun h => absurd rfl h, [], (List.append_nil _).symm, by simp⟩

/-- A socket joins the group only after it was created, which takes an IPv4 destination. -/
theorem openSlots_keepsFit (n slot : Nat) : KeepsFit conf before (openSlots conf n slot) := by
  induction n generalizing slot with
  | zero => exact .pure _
  | succ n ih =>
    intro s
    rw [openSlots, meets_bind]
    have hcreate : KeepsFit conf before (createProbeSocket conf slot) :=
      createProbeSocket_keepsFit slot
    apply ((hcreate s).and (meets_self _ s)).mono
    · intro m t ht
      obtain ⟨hkeeps, hcreated⟩ := ht
      rw [meets_bind, addToGroup, meets_modify]
      -- a socket is there to join the group only if the destination is IPv4
      have hjoined (hs : Fitting conf before s) : Fitting conf before (t.withMember m) := by
        have hfour := ((createProbeSocket_four slot hs).of_ok hcreated).1
        have ht := hkeeps hs
        exact ⟨ht.source_version, fun _ => hfour, ht.events⟩
      exact (ih (slot + 1) (t.withMember m)).mono (fun _ _ hu hs => hu (hjoined hs))
        fun _ _ hu hs => hu (hjoined hs)
    · exact fun _ _ ht => ht.1

theorem openGroup_keepsFit : KeepsFit conf before (openGroup conf) := by
  apply Respects.get.bind
  intro s
  apply (openSlots_keepsFit _ _).bind
  intro _
  apply Respects.get.bind
  intro t
  exact (say_apart _ _ _).keepsFit

theorem enterGroup_keepsFit : KeepsFit conf before (enterGroup conf) :=
  openGroup_keepsFit.undoing _ closeGroup_apart.keepsFit

/-! ## Runs -/

/-- A member changes, but none joins. -/
theorem modifyMember_apart (place : Nat) (change : ProbeSocket → ProbeSocket) :
    Respects (Apart conf) (modifyMember place change) := by
  apply Respects.modify
  intro s
  refine ⟨rfl, ?_, [], (List.append_nil _).symm, by simp⟩
  intro hmembers hempty
  apply hmembers
  have hmodified : (s.group.sockets.modify place change).toList = s.members.modify place change :=
    Array.toList_modify ..
  rw [State.members, hmodified, hempty, List.modify_nil]

theorem readSendClock_apart : Respects (Apart conf) readSendClock := by
  apply Respects.get.bind
  intro s
  apply Respects.get.bind
  intro t
  exact Respects.bind (.modify fun u => .of_eq rfl rfl rfl) fun _ => .pure _

theorem readClock_apart : Respects (Apart conf) readClock := by
  apply Respects.get.bind
  intro s
  apply Respects.get.bind
  intro t
  exact Respects.bind (.modify fun u => .of_eq rfl rfl rfl) fun _ => .pure _

/-- Packets for an IPv4 destination fit. -/
theorem servePackets_apart (hfour : conf.destination.version = .four) (place : Nat) :
    Respects (Apart conf) (servePackets conf place) := by
  have hsend (fd : Nat) : Respects (Apart conf) (send fd conf.destination.sockAddr) := by
    apply (send_makes fd _).apart
    intro o a ha
    cases ha
    exact ⟨hfour, shapeFault?_sockAddr hfour⟩
  have honce (m : ProbeSocket) : Respects (Apart conf) (sendOnce conf place m) :=
    ((hsend m.fd).onFault _ _).bind fun _ => (modifyMember_apart place _).bind fun _ =>
      readSendClock_apart.bind fun _ => modifyMember_apart place _
  have hpackets (n : Nat) : Respects (Apart conf) (sendPackets conf place n) := by
    induction n with
    | zero => exact .pure _
    | succ n ih =>
      apply Respects.get.bind
      intro s
      split
      · exact .pure _
      · exact (honce _).bind fun _ => ih
  apply Respects.tryCatch
  · exact (hpackets _).bind fun _ => .pure _
  · intro f
    split
    · exact (say_apart _ _ _).bind fun _ => .pure _
    · exact .throw _

theorem noteQuery_apart (s : State) (fd : Nat) (o : Option Fault) :
    s.Apart conf (s.note (.call fd .queryQueue o)) :=
  (State.After.note_call s fd .queryQueue o).apart
    (List.forall_mem_singleton.2 (Event.fits_of_none rfl))

theorem queryQueue_apart (fd : Nat) : Respects (Apart conf) (queryQueue fd) :=
  queryQueue_respects (fun _ _ => .of_eq rfl rfl rfl) noteQuery_apart fd

theorem spin_apart (ceiling : Int) (fd : Nat) : Respects (Apart conf) (spin ceiling fd) :=
  spin_respects (fun _ _ => .of_eq rfl rfl rfl) noteQuery_apart ceiling fd

theorem spinMember_apart (ceiling : Int) (place : Nat) :
    Respects (Apart conf) (spinMember ceiling place) := by
  apply spinMember_respects
  · exact spin_apart
  · exact fun place spin => modifyMember_apart place _
  · exact say_apart

/-- Packets go to an IPv4 destination, or there is no member to send them. -/
theorem sendAll_keepsFit (spinner : Option Int) : KeepsFit conf before (sendAll conf spinner) := by
  by_cases hfour : conf.destination.version = .four
  · exact (sendAll_respects (servePackets_apart hfour) spinMember_apart spinner).keepsFit
  · intro s
    by_cases hs : Fitting conf before s
    -- without an IPv4 destination there is no member to serve
    · have hempty : s.members = [] := by
        by_contra hmembers
        exact hfour (hs.four_of_member hmembers)
      have hsize : s.group.sockets.size = 0 := by
        rw [← Array.length_toList]
        exact congrArg List.length hempty
      rw [sendAll, meets_bind, meets_get, hsize]
      exact fun hs => hs
    · exact (meets_any _ s).mono (fun _ _ _ h => absurd h hs) fun _ _ _ h => absurd h hs

theorem ofExcept_keepsFit (e : Except Failure α) : KeepsFit conf before (ofExcept e) := by
  cases e with
  | ok a => exact .pure a
  | error f => exact .throw f

/-- Reading the clocks has nothing to do with addresses. -/
theorem timedRun_keepsFit (spinner : Option Int) :
    KeepsFit conf before (timedRun conf spinner) := by
  apply readClock_apart.keepsFit.bind
  intro start
  apply (sendAll_keepsFit spinner).bind
  intro r
  apply readClock_apart.keepsFit.bind
  intro stop
  apply (ofExcept_keepsFit _).bind
  intro elapsed
  exact (say_apart _ _ _).keepsFit.bind fun _ => .pure _

/-- Carrying a run out fits the destination. -/
theorem conduct_keepsFit (details : Bool) :
    KeepsFit conf before (Program.conduct conf details) := by
  have hdescribe (source : Endpoint) (explicit : Bool) :
      KeepsFit conf before (describeSource source explicit) := by
    apply Respects.get.bind
    intro s
    dsimp only
    split
    · exact .pure _
    · split
      · exact (say_apart _ _ _).keepsFit.bind fun _ => .pure _
      · exact .pure _
  have hannounce : KeepsFit conf before (Program.announce conf) :=
    sourceEndpoint_keepsFit.bind fun _ => (hdescribe _ _).bind fun _ =>
      (number_respects _).bind fun _ => (number_respects _).bind fun _ =>
        (say_apart _ _ _).keepsFit
  have hclose : KeepsFit conf before closeGroup := closeGroup_apart.keepsFit
  have hgroup : KeepsFit conf before
      (withGroup conf (timedRun conf (Program.spinner conf))) :=
    enterGroup_keepsFit.bind fun _ =>
      ((timedRun_keepsFit _).undoing _ hclose).bind fun _ => hclose.bind fun _ => .pure _
  have hprint (text : String) : Respects (Apart conf) (print text) := fun _ => .of_eq rfl rfl rfl
  have hreport (r : RunResult) : KeepsFit conf before (Program.printReport r details) :=
    Respects.get.bind fun _ => (ofExcept_keepsFit _).bind fun _ => (hprint _).keepsFit
  exact hannounce.bind fun _ => hgroup.bind fun _ => (hreport _).bind fun _ => .pure _

end Probe

/-! ## Sessions -/

namespace Session

open Probe
open State (Apart)

/-- The session and the state after some steps, each of which may fail. -/
def after : List Step → Session → State → Session × State
  | [], session, s => (session, s)
  | step :: steps, session, s =>
    match session.step step s with
    | .ok (_, session') t => after steps session' t
    | .error _ t => after steps session t

variable {before : List Event}

/-- What a session changes about the sockets that there are is no call. -/
theorem adjustSockets_apart (conf : RunConfig)
    (sockets : List (Nat × (SocketScript → SocketScript))) :
    Respects (Apart conf) (sockets.forM fun (fd, edit) => adjustSocket fd edit) :=
  adjustSockets_respects (fun _ _ => .modify fun _ => .of_eq rfl rfl rfl) sockets

/-- A step of a session does a part of what a run does, or edits the world, which makes no call. -/
theorem stepInside_keepsFit (session : Session) (step : Step) :
    KeepsFit session.conf before (session.stepInside step) := by
  have hspin (socket : Option ProbeSocket) :
      KeepsFit session.conf before (session.spinOn socket) := by
    cases socket with
    | none => exact .pure _
    | some m => exact (spin_apart _ _).keepsFit.bind fun _ => .pure _
  have hmember (index : Nat) : KeepsFit session.conf before (member? index) :=
    Respects.get.bind fun _ => .pure _
  cases step with
  | source =>
    rw [stepInside, map_eq_pure_bind]
    exact sourceEndpoint_keepsFit.bind fun _ => .pure _
  | closeCreated index =>
    rw [stepInside]
    split
    · exact (close_apart _).keepsFit.bind fun _ => .pure _
    · exact .pure _
  | spinCreated index => exact hspin _
  | newGroup size =>
    have hempty : Respects (Apart session.conf) (modify fun state : State =>
        { state with group := { size := size.getD session.conf.groupSize } }) :=
      Respects.modify fun s => ⟨rfl, fun h => absurd rfl h, [], (List.append_nil _).symm, by simp⟩
    exact hempty.keepsFit.bind fun _ => .pure _
  | enter => exact enterGroup_keepsFit.bind fun _ => .pure _
  | exit => exact closeGroup_apart.keepsFit.bind fun _ => .pure _
  | openAll => exact openGroup_keepsFit.bind fun _ => .pure _
  | closeAll => exact closeGroup_apart.keepsFit.bind fun _ => .pure _
  | count => exact Respects.get.bind fun _ => .pure _
  | report details =>
    rw [stepInside]
    split
    · exact Respects.get.bind fun _ => (ofExcept_keepsFit _).bind fun _ => .pure _
    · exact .pure _
  | spin index => exact (hmember index).bind fun _ => hspin _
  | pending index =>
    apply (hmember index).bind
    intro socket
    cases socket with
    | none => exact .pure _
    | some m => exact (queryQueue_apart m.fd).keepsFit.bind fun _ => .pure _
  | adjust world sockets =>
    have hworld : Respects (Apart session.conf)
        (modify fun state : State => { state with world := world state.world }) :=
      Respects.modify fun s => .of_eq rfl rfl rfl
    have hsockets := adjustSockets_apart session.conf sockets
    exact hworld.keepsFit.bind fun _ => hsockets.keepsFit.bind fun _ => .pure _
  | _ => exact .pure _

/-- Every step fits the destination and leaves the configuration as it is. -/
theorem step_keepsFit (before : List Event) (session : Session) (step : Step) (s : State) :
    Meets (session.step step) s
      (fun r t => r.2.conf = session.conf ∧ s.Preserves (Fitting session.conf before) t)
      fun _ t => s.Preserves (Fitting session.conf before) t := by
  have hinside (step : Step) : Meets (do return (← session.stepInside step, session)) s
      (fun r t => r.2.conf = session.conf ∧ s.Preserves (Fitting session.conf before) t)
      fun _ t => s.Preserves (Fitting session.conf before) t := by
    rw [meets_bind]
    apply (stepInside_keepsFit session step s).mono
    · exact fun _ _ ht => ⟨rfl, ht⟩
    · exact fun _ _ ht => ht
  cases step with
  | create slot =>
    rw [Session.step, meets_bind]
    apply (createProbeSocket_keepsFit slot s).mono
    · intro m t ht
      rw [meets_bind, meets_ofExcept]
      split
      · exact ⟨rfl, ht⟩
      · exact ht
    · exact fun _ _ ht => ht
  | run =>
    rw [Session.step, meets_bind]
    apply (timedRun_keepsFit session.spinner s).mono
    · exact fun _ _ ht => ⟨rfl, ht⟩
    · exact fun _ _ ht => ht
  | spinner ceiling => exact ⟨rfl, fun hs => hs⟩
  | _ => exact hinside _

/-- Every session that starts with what fits the destination ends with it. -/
theorem after_fitting (steps : List Step) (session : Session) {s : State}
    (h : Fitting session.conf before s) :
    Fitting session.conf before (after steps session s).2 := by
  induction steps generalizing session s with
  | nil => exact h
  | cons step steps ih =>
    have hstep := step_keepsFit before session step s
    unfold Meets at hstep
    rw [after]
    split
    · next r session' t hr =>
      rw [hr] at hstep
      obtain ⟨hconf, ht⟩ := hstep
      rw [← hconf] at h ht ⊢
      exact ih session' (ht h)
    · next f t hf =>
      rw [hf] at hstep
      exact ih session (hstep h)

end Session

/-! ## Settled configurations -/

open Probe

/-- What the versions come to in a state that was reached since the trace `before`. -/
structure Compatible (conf : RunConfig) (before : List Event) (s : State) : Prop where
  /-- A source that is given is of the destination's version. -/
  source : Meets (sourceEndpoint conf) s (fun e _ => e.version = conf.destination.version)
    fun _ _ => True
  /-- A socket is created only where the destination and the source are IPv4. -/
  create : ∀ slot, Meets (createProbeSocket conf slot) s
    (fun _ t => conf.destination.version = .four ∧ ∃ src, t.source = some src ∧ src.version = .four)
    fun _ _ => True
  /-- No socket is created for an IPv6 destination. -/
  unsupported : conf.destination.version = .six → ∀ slot,
    Meets (createProbeSocket conf slot) s (fun _ _ => False) fun _ _ => True
  /-- Every address that an RDS socket was given has the right shape. -/
  events : ∃ es, s.trace = before ++ es ∧ ∀ e ∈ es, e.Fits conf
  /-- The type of service is a byte. -/
  tos : Meets (tosByte conf.tos) s (fun byte _ => (byte.toNat : Int) = conf.tos) fun _ _ => False

/-- What is known of the source and the group is all that the versions come to. -/
theorem Fitting.compatible {conf : RunConfig} {before : List Event} {s : State}
    (h : Fitting conf before s) (htos : RunConfig.isTos conf.tos = true) :
    Compatible conf before s where
  source := sourceEndpoint_version h
  create := fun slot => createProbeSocket_four slot h
  unsupported := by
    intro hsix slot
    apply (createProbeSocket_four slot h).mono
    · intro _ _ ht
      exact absurd (hsix.symm.trans ht.1) (by decide)
    · exact fun _ _ _ => trivial
  events := h.events
  tos := by
    rw [tosByte, if_pos htos]
    exact RunConfig.toNat_tosByte htos

/-- For a configuration that was settled, with whichever way to resolve names, the versions of
source and destination agree in every session and every run, down to the addresses of the
calls. -/
theorem RunConfig.families_agree {resolve : Host → Probe Endpoint} {options : Options}
    {s₀ s₁ : State} {conf : RunConfig} (h : RunConfig.ofOptions resolve options s₀ = .ok conf s₁)
    (start : State) (ceiling : Option Int) (steps : List Session.Step) (details : Bool) :
    let s := start.forRun conf
    Compatible conf s.trace (Session.after steps (.start conf ceiling) s).2 ∧
      Meets (Program.conduct conf details) s (fun _ t => Compatible conf s.trace t)
        fun _ t => Compatible conf s.trace t := by
  intro s
  have hsettles := (ofOptions_settles resolve options s₀).of_ok h
  have hstart : Fitting conf s.trace s :=
    ⟨hsettles.versions, fun hmembers => absurd rfl hmembers, [], (List.append_nil _).symm, by simp⟩
  have hsession : Fitting conf s.trace (Session.after steps (.start conf ceiling) s).2 :=
    Session.after_fitting steps (.start conf ceiling) hstart
  refine ⟨hsession.compatible hsettles.isTos, ?_⟩
  apply (conduct_keepsFit details s).mono
  · exact fun _ _ ht => (ht hstart).compatible hsettles.isTos
  · exact fun _ _ ht => (ht hstart).compatible hsettles.isTos

/-- A source and a type of service are given, and the source is asked for, a socket is created and
the group is entered and served. -/
theorem RunConfig.families_agree_given :
    let resolve : Host → Probe Endpoint := fun _ => pure { address := .v4 ⟨192, 0, 2, 7⟩ }
    let options : Options := { destination := "node", source := .value "here", tos := .value 4 }
    let conf : RunConfig :=
      { destination := { address := .v4 ⟨192, 0, 2, 7⟩ }
        source := some { address := .v4 ⟨192, 0, 2, 7⟩ }
        tos := 4 }
    let s := State.forRun { world := {} } conf
    let steps : List Session.Step := [.source, .create 0, .enter, .run]
    RunConfig.ofOptions resolve options { world := {} } = .ok conf { world := {} } ∧
      Compatible conf s.trace (Session.after steps (.start conf none) s).2 ∧
      Meets (Program.conduct conf true) s (fun _ t => Compatible conf s.trace t)
        fun _ t => Compatible conf s.trace t := by
  intro resolve options conf s steps
  have h : RunConfig.ofOptions resolve options { world := {} } = .ok conf { world := {} } := rfl
  exact ⟨h, families_agree h { world := {} } none steps true⟩

end RdsReach
