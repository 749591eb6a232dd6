import Mathlib.Order.Defs.Unbundled
import RdsReach.Program
import RdsReach.Proofs.Core

/-!
# What actions are composed of

Nearly everything that the program does is composed of a few changes of the state. Between them it
reads the core of the state, branches, fails and handles failures. `Composed Change action` says so
of an action, and with it a fact that holds of each change is a fact about the action:
`Composed.respects` for what an action leaves alone.

The changes are told apart by what they are for: `SocketChange` for everything beside the group of
sockets, `GroupChange` for opening and closing the group, and `ServeChange` for sending packets on
it.
-/

namespace RdsReach

/-- A change of one item is not seen where it leaves alone what is looked at. -/
theorem map_modify_of_eq {α β : Type} {view : α → β} {change : α → α}
    (h : ∀ a, view (change a) = view a) (items : Array α) (place : Nat) :
    (items.modify place change).toList.map view = items.toList.map view := by
  apply List.ext_getElem?
  intro i
  rw [Array.toList_modify, List.getElem?_map, List.getElem?_map, List.getElem?_modify]
  by_cases hi : place = i
  · cases items.toList[i]? <;> simp [hi, h]
  · simp [hi]

/-- The state after a socket joined the group. -/
def State.withMember (s : State) (m : ProbeSocket) : State :=
  { s with group := { s.group with sockets := s.group.sockets.push m } }

@[simp] theorem State.members_withMember (s : State) (m : ProbeSocket) :
    (s.withMember m).members = s.members ++ [m] := Array.toList_push

namespace Probe

variable {α β : Type}

/-! ## What an action leaves alone -/

/-- However the action ends, the state at its end is related to the one at its start. -/
def Respects (R : State → State → Prop) (action : Probe α) : Prop :=
  ∀ s, Meets action s (fun _ t => R s t) fun _ t => R s t

namespace Respects

variable {R : State → State → Prop} {action : Probe α}

theorem mono {R' : State → State → Prop} (h : Respects R action) (hsub : ∀ s t, R s t → R' s t) :
    Respects R' action := fun s => (h s).mono (fun _ => hsub s) fun _ => hsub s

theorem modify {change : State → State} (h : ∀ s, R s (change s)) :
    Respects R (modify change : Probe Unit) := h

variable [IsPreorder State R]

theorem pure (a : α) : Respects R (pure a : Probe α) := fun s => refl s

theorem throw (f : Failure) : Respects R (throw f : Probe α) := fun s => refl s

theorem get : Respects R (get : Probe State) := fun s => refl s

/-- A sequence leaves alone what both of its parts leave alone. -/
theorem bind {next : α → Probe β} (h : Respects R action) (hnext : ∀ a, Respects R (next a)) :
    Respects R (action >>= next) := by
  intro s
  apply Meets.bind (h s)
  intro a t ht
  exact (hnext a t).mono (fun _ _ hu => IsTrans.trans _ _ _ ht hu) fun _ _ hu =>
    IsTrans.trans _ _ _ ht hu

/-- So does an action with a handler, which goes on from where the action failed. -/
theorem tryCatch {handler : Failure → Probe α} (h : Respects R action)
    (hhandler : ∀ f, Respects R (handler f)) : Respects R (tryCatch action handler) := by
  intro s
  rw [meets_tryCatch]
  apply (h s).mono
  · exact fun _ _ ht => ht
  · intro f t ht
    exact (hhandler f t).mono (fun _ _ hu => IsTrans.trans _ _ _ ht hu) fun _ _ hu =>
      IsTrans.trans _ _ _ ht hu

theorem onFault (h : Respects R action) (catches : Fault → Bool) (handler : Fault → Failure) :
    Respects R (action.onFault catches handler) := by
  apply h.tryCatch
  intro f
  cases f with
  | fault g =>
    dsimp only
    split
    · exact .throw _
    · exact .throw _
  | _ => exact .throw _

end Respects

/-! ## Composed actions -/

/-- The action is composed of changes of one kind, and decides by the core of the state what it does
next. -/
inductive Composed (Change : (State → State) → Prop) : {α : Type} → Probe α → Prop where
  | pure {α : Type} (a : α) : Composed Change (pure a : Probe α)
  | throw {α : Type} (f : Failure) : Composed Change (throw f : Probe α)
  | change {f : State → State} (h : Change f) : Composed Change (modify f : Probe Unit)
  | read {α : Type} {next : State → Probe α}
      (hcore : ∀ s s' : State, s.core = s'.core → next s = next s')
      (h : ∀ s, Composed Change (next s)) : Composed Change (get >>= next)
  | bind {α β : Type} {action : Probe α} {next : α → Probe β} (h : Composed Change action)
      (hnext : ∀ a, Composed Change (next a)) : Composed Change (action >>= next)
  | tryCatch {α : Type} {action : Probe α} {handler : Failure → Probe α}
      (h : Composed Change action) (hhandler : ∀ f, Composed Change (handler f)) :
      Composed Change (tryCatch action handler)

namespace Composed

variable {Change : (State → State) → Prop} {action : Probe α}

theorem mono {Change' : (State → State) → Prop} (hsub : ∀ f, Change f → Change' f)
    (h : Composed Change action) : Composed Change' action := by
  induction h with
  | pure a => exact .pure a
  | throw f => exact .throw f
  | change h => exact .change (hsub _ h)
  | read hcore h ih => exact .read hcore ih
  | bind h hnext ih ihnext => exact .bind ih ihnext
  | tryCatch h hhandler ih ihhandler => exact .tryCatch ih ihhandler

/-- What every change leaves alone, everything that is composed of changes leaves alone. -/
theorem respects {R : State → State → Prop} [IsPreorder State R] (h : Composed Change action)
    (hchange : ∀ f, Change f → ∀ s, R s (f s)) : Respects R action := by
  induction h with
  | pure a => exact .pure a
  | throw f => exact .throw f
  | change h => exact .modify (hchange _ h)
  | read hcore h ih => exact .bind .get ih
  | bind h hnext ih ihnext => exact .bind ih ihnext
  | tryCatch h hhandler ih ihhandler => exact .tryCatch ih ihhandler

/-! ### Combinators -/

theorem map (g : α → β) (h : Composed Change action) : Composed Change (g <$> action) := by
  rw [map_eq_pure_bind]
  exact h.bind fun a => .pure (g a)

theorem fail (f : Failure) : Composed Change (fail f : Probe α) := .throw _

theorem ofExcept (e : Except Failure α) : Composed Change (ofExcept e) := by
  cases e with
  | ok a => exact .pure a
  | error f => exact .throw f

theorem number (n : Int) : Composed Change (number n) := ofExcept _

theorem onFault (h : Composed Change action) (catches : Fault → Bool)
    (handler : Fault → Failure) : Composed Change (action.onFault catches handler) := by
  apply h.tryCatch
  intro f
  cases f with
  | fault g =>
    dsimp only
    split
    · exact fail _
    · exact .throw _
  | _ => exact .throw _

variable {cleanup : Probe Unit}

/-- A cleanup that follows a failure is one more part, after which the failure goes on. -/
theorem undoing (h : Composed Change action) (catches : Failure → Bool)
    (hcleanup : Composed Change cleanup) : Composed Change (action.undoing catches cleanup) := by
  apply h.tryCatch
  intro f
  dsimp only
  split
  · exact hcleanup.bind fun _ => .throw f
  · exact .throw f

theorem ensuring (h : Composed Change action) (hcleanup : Composed Change cleanup) :
    Composed Change (action.ensuring cleanup) :=
  (h.undoing _ hcleanup).bind fun a => hcleanup.bind fun _ => .pure a

end Composed

/-! ## Changes -/

/-- The changes that leave the group of sockets and the clocks alone. -/
inductive SocketChange : (State → State) → Prop where
  | note {e : Event} (h : e.isService = false) : SocketChange (·.note e)
  | countAttempt (kind : SocketKind) : SocketChange (countAttempt · kind)
  | addSocket (script : SocketScript) : SocketChange (addSocket script)
  | shut (fd : Nat) : SocketChange fun s =>
      { s with sockets := s.sockets.modify (fd - firstFd) fun x => { x with isOpen := false } }
  | countTos : SocketChange fun s => { s with tosCalls := s.tosCalls + 1 }
  | keepSource (source : Endpoint) : SocketChange fun s => { s with source := some source }
  | say (origin : Origin) (level : Level) (text : String) : SocketChange fun s =>
      { s with journal := s.journal.push (.message origin level text) }
  | takeStage (rest : List (Except Fault (List Candidate))) : SocketChange fun s =>
      { s with world := { s.world with names := .staged rest } }
  | noteLookup (lookup : Lookup) : SocketChange fun s =>
      { s with lookups := s.lookups.push lookup }

/-- The changes of opening and closing a group. -/
inductive GroupChange : (State → State) → Prop where
  | socket {f : State → State} (h : SocketChange f) : GroupChange f
  | start (conf : RunConfig) : GroupChange (·.forRun conf)
  | add (m : ProbeSocket) : GroupChange (·.withMember m)
  | clear : GroupChange fun s => { s with group := { s.group with sockets := #[] } }

/-- Notes the time of a packet that just went out on the socket at a place of the group. -/
def stamp (place : Nat) (s : State) : State :=
  let time := reading s.world.sendClock s.sendClockReads
  { s with
    sendClockReads := s.sendClockReads + 1
    group := { s.group with
      sockets := s.group.sockets.modify place fun m => { m with lastSent := some time } } }

/-- The changes of sending packets on a group. -/
inductive ServeChange : (State → State) → Prop where
  | socket {f : State → State} (h : SocketChange f) : ServeChange f
  | note {e : Event} (h : e.isSend = true) : ServeChange (·.note e)
  | countSend (fd : Nat) : ServeChange fun s =>
      { s with sockets := s.sockets.modify (fd - firstFd) fun x => { x with sends := x.sends + 1 } }
  | countPacket (place : Nat) : ServeChange fun s =>
      { s with group := { s.group with
        sockets := s.group.sockets.modify place fun m => { m with sent := m.sent + 1 } } }
  | stamp (place : Nat) : ServeChange (stamp place)

/-- Around a group sockets change as they do without one. -/
theorem Composed.group {action : Probe α} (h : Composed SocketChange action) :
    Composed GroupChange action := h.mono fun _ => .socket

theorem Composed.serve {action : Probe α} (h : Composed SocketChange action) :
    Composed ServeChange action := h.mono fun _ => .socket

/-! ## Calls -/

section Calls

variable {Change : (State → State) → Prop}

theorem say_composed (origin : Origin) (level : Level) (text : String) :
    Composed SocketChange (say origin level text) := .change (.say origin level text)

/-- A call is composed of the change that notes it, whatever its outcome. -/
theorem finish_composed {fd : Nat} {c : Call} (o : Option Fault)
    (h : ∀ o, Change (·.note (.call fd c o))) : Composed Change (finish fd c o) := by
  apply Composed.bind (.change (h o))
  intro _
  cases o with
  | none => exact .pure ()
  | some f => exact .throw _

/-- The script of a socket is part of the core. -/
theorem socketOf_composed (fd : Nat) : Composed Change (socketOf fd) := by
  apply Composed.read
  · intro s s' h
    rw [State.core_sockets h]
  · exact fun _ => .pure _

theorem bind_composed (fd : Nat) (address : SockAddr) : Composed SocketChange (bind fd address) :=
  (socketOf_composed fd).bind fun _ => finish_composed _ fun _ => .note rfl

theorem connect_composed (fd : Nat) (address : SockAddr) :
    Composed SocketChange (connect fd address) :=
  (socketOf_composed fd).bind fun _ => finish_composed _ fun _ => .note rfl

theorem localName_composed (fd : Nat) : Composed SocketChange (localName fd) :=
  (socketOf_composed fd).bind fun _ => (finish_composed _ fun _ => .note rfl).bind fun _ => .pure _

/-- A close that fails leaves the socket open, so shutting it is a change of its own. -/
theorem close_composed (fd : Nat) : Composed SocketChange (close fd) :=
  (socketOf_composed fd).bind fun _ =>
    (finish_composed _ fun _ => .note rfl).bind fun _ => .change (.shut fd)

/-- The world answers by how often a type of service was set, so these calls are counted. -/
theorem setTos_composed (fd : Nat) (tos : UInt8) : Composed SocketChange (setTos fd tos) := by
  apply Composed.read
  · intro s s' h
    rw [State.core_tos h]
  intro s
  apply Composed.read
  · intro t t' h
    rw [State.core_tosCalls h]
  intro t
  exact (Composed.change .countTos).bind fun _ => finish_composed _ fun _ => .note rfl

/-- The core decides which script a new socket gets. -/
theorem nextScript_core {s s' : State} (h : s.core = s'.core) (kind : SocketKind) :
    nextScript s kind = nextScript s' kind := by
  cases kind with
  | rds => rw [nextScript, nextScript, State.core_rds h, State.core_rdsAttempts h]
  | udp v => rw [nextScript, nextScript, State.core_udp h, State.core_udpAttempts h]

/-- An attempt counts also where no socket comes of it. -/
theorem createSocket_composed (kind : SocketKind) :
    Composed SocketChange (createSocket kind) := by
  apply Composed.read
  · intro s s' h
    rw [nextScript_core h]
  intro s
  apply Composed.bind (.change (.countAttempt kind))
  intro _
  dsimp only
  split
  · exact (Composed.change (.note rfl)).bind fun _ => .throw _
  · apply Composed.read
    · intro t t' h
      rw [State.core_sockets h]
    intro t
    have hopened : Composed SocketChange (modify (·.note (.opened kind
        (firstFd + t.sockets.size))) : Probe Unit) := .change (.note rfl)
    exact (Composed.change (.addSocket _)).bind fun _ => hopened.bind fun _ => .pure _

/-- A packet that goes out is counted at its socket, one that fails is not. -/
theorem send_composed (fd : Nat) (address : SockAddr) : Composed ServeChange (send fd address) :=
  (socketOf_composed fd).bind fun _ =>
    (finish_composed _ fun _ => .note rfl).bind fun _ => .change (.countSend fd)

end Calls

/-! ## Settling a configuration -/

/-- Answers that are staged are used up one by one. All others come from what never changes. -/
theorem takeAnswer_composed (kind : LookupKind) (host : Host) :
    Composed SocketChange (takeAnswer kind host) := by
  apply Composed.read
  · intro s s' h
    rw [State.core_names h, State.core_nameprep h]
  intro s
  split
  · exact .pure _
  · exact .pure _
  · exact .pure _
  · exact (Composed.change (.takeStage _)).bind fun _ => .pure _

/-- A lookup is noted whichever way it is answered. -/
theorem lookup_composed (kind : LookupKind) (host : Host) :
    Composed SocketChange (lookup kind host) := by
  apply (takeAnswer_composed kind host).bind
  intro answer
  split
  · exact (Composed.change (.noteLookup _)).bind fun _ => .pure _
  · exact (Composed.change (.noteLookup _)).bind fun _ => .throw _

/-- A numeric lookup is followed by a full one if it fails for a reason that allows for that. -/
theorem candidates_composed (host : Host) : Composed SocketChange (candidates host) := by
  apply (lookup_composed .numeric host).tryCatch
  intro f
  split
  · apply (say_composed _ _ _).bind
    intro _
    apply (lookup_composed .full host).tryCatch
    intro g
    split
    · exact .fail _
    · exact .throw _
  · exact .fail _
  · exact .throw _

/-- Resolving is done with its lookups before it looks at what they found. -/
theorem resolve_composed (host : Host) : Composed SocketChange (resolve host) := by
  apply (candidates_composed host).bind
  intro found
  split
  · exact .fail _
  · next first rest =>
    have hread : Composed SocketChange (do
        let endpoint ←
          Probe.ofExcept ((Endpoint.ofSockAddr first.family first.address).mapError .malformed)
        say .resolving .debug s!"Resolved '{host.shown}' to {endpoint.address.text}"
        return endpoint) :=
      (Composed.ofExcept _).bind fun _ => (say_composed _ _ _).bind fun _ => .pure _
    dsimp only
    split
    · exact (Composed.number _).bind fun _ => (Composed.fail _).bind fun _ => hread
    · exact hread

/-- The checks of the options change nothing, so what changes is due to resolving hosts. -/
theorem ofOptions_composed (options : Options) :
    Composed SocketChange (RunConfig.ofOptions resolve options) := by
  have hsize : Composed SocketChange (RunConfig.checkGroupSize options.groupSize) := by
    unfold RunConfig.checkGroupSize
    split
    · exact .pure _
    · exact .throw _
    · split
      · exact .pure _
      · exact .fail _
  have htos : Composed SocketChange (RunConfig.checkTos options.tos) := by
    unfold RunConfig.checkTos
    split
    · exact .pure _
    · exact .throw _
    · split
      · exact .pure _
      · exact .fail _
  have hsource : Composed SocketChange (RunConfig.resolveSource resolve options.source) := by
    unfold RunConfig.resolveSource
    split
    · exact .pure _
    · exact (resolve_composed _).map _
    · exact (resolve_composed _).map _
  have hfamilies (source : Option Endpoint) (destination : Endpoint) :
      Composed SocketChange (RunConfig.checkFamilies source destination) := by
    unfold RunConfig.checkFamilies
    split
    · exact .pure _
    · split
      · exact .pure _
      · exact .fail _
  exact hsize.bind fun _ => htos.bind fun _ => (resolve_composed _).bind fun _ =>
    hsource.bind fun _ => (hfamilies _ _).bind fun _ => .pure _

theorem describe_composed (conf : RunConfig) : Composed SocketChange conf.describe :=
  (Composed.number _).bind fun _ => (Composed.number _).bind fun _ =>
    (Composed.number _).bind fun _ => .pure _

/-! ## Making sockets ready -/

/-- A helper is created, connected and asked for its name, and closed in any case. -/
theorem guessSource_composed (destination : Endpoint) :
    Composed SocketChange (guessSource destination) := by
  have hname (helper : Nat) (destination : Endpoint) :
      Composed SocketChange (connectedName helper destination) :=
    ((connect_composed helper _).onFault _ _).bind fun _ =>
      (localName_composed helper).onFault _ _
  apply ((createSocket_composed _).onFault _ _).bind
  intro helper
  apply ((hname helper _).ensuring (close_composed helper)).bind
  intro name
  exact (Composed.ofExcept _).bind fun _ => .pure _

/-- A source that was guessed is kept for all that ask after it. -/
theorem sourceEndpoint_composed (conf : RunConfig) :
    Composed SocketChange (sourceEndpoint conf) := by
  apply Composed.read
  · intro s s' h
    rw [State.core_source h]
  intro s
  split
  · exact .pure _
  · exact (guessSource_composed _).bind fun source => (Composed.change (.keepSource source)).bind
      fun _ => (say_composed _ _ _).bind fun _ => .pure _

/-- Readying a socket asks for the source first, then binds, and sets a type of service last. -/
theorem prepare_composed (conf : RunConfig) (fd : Nat) :
    Composed SocketChange (prepare conf fd) := by
  have hbyte : Composed SocketChange (tosByte conf.tos) := by
    unfold tosByte
    split
    · exact .pure _
    · exact .throw _
  have htos : Composed SocketChange (applyTos fd conf.tos) :=
    hbyte.bind fun byte => (setTos_composed fd byte).onFault _ _
  apply (sourceEndpoint_composed conf).bind
  intro source
  have hbind : Composed SocketChange ((Probe.bind fd source.sockAddr).onFault
      Fault.isSystemOrIllTyped fun f => .setup .bind (.bind source.address) f.errno) :=
    (bind_composed fd _).onFault _ _
  have hrest : Composed SocketChange (do
      if conf.tos ≠ 0 then applyTos fd conf.tos
      return source) := by
    split
    · exact htos.bind fun _ => .pure _
    · exact .pure _
  dsimp only
  split
  · exact (Composed.fail _).bind fun _ => hbind.bind fun _ => hrest
  · exact hbind.bind fun _ => hrest

/-- A socket that cannot be made ready is closed again. -/
theorem createProbeSocket_composed (conf : RunConfig) (slot : Int) :
    Composed SocketChange (createProbeSocket conf slot) := by
  apply ((createSocket_composed .rds).onFault _ _).bind
  intro fd
  apply ((prepare_composed conf fd).undoing _ (close_composed fd)).bind
  intro source
  exact (Composed.number slot).bind fun _ => (say_composed _ _ _).bind fun _ => .pure _

/-! ## The group -/

/-- Each socket joins the group before the next one is created. -/
theorem openSlots_composed (conf : RunConfig) (n slot : Nat) :
    Composed GroupChange (openSlots conf n slot) := by
  induction n generalizing slot with
  | zero => exact .pure _
  | succ n ih =>
    exact (createProbeSocket_composed conf slot).group.bind fun m =>
      (Composed.change (.add m)).bind fun _ => ih _

/-- How many sockets are opened is the size of the group, and part of the core. -/
theorem openGroup_composed (conf : RunConfig) : Composed GroupChange (openGroup conf) := by
  apply Composed.read
  · intro s s' h
    rw [State.core_groupSize h]
  intro s
  apply (openSlots_composed conf _ _).bind
  intro _
  apply Composed.read
  · intro t t' h
    rw [State.core_memberCount h]
  · exact fun t => (say_composed _ _ _).group

/-- That a socket cannot be closed is no more than said. -/
theorem closeSocket_composed (m : ProbeSocket) : Composed SocketChange (closeSocket m) := by
  apply (close_composed m.fd).tryCatch
  intro f
  split
  · exact (Composed.number _).bind fun _ => say_composed _ _ _
  · exact .throw _

theorem closeSockets_composed (ms : List ProbeSocket) :
    Composed SocketChange (closeSockets ms) := by
  induction ms with
  | nil => exact .pure _
  | cons m ms ih => exact (closeSocket_composed m).bind fun _ => ih

/-- Times and spins do not matter to closing. -/
theorem closeSockets_map_core (ms : List ProbeSocket) :
    closeSockets (ms.map ProbeSocket.core) = closeSockets ms := by
  induction ms with
  | nil => rfl
  | cons m ms ih =>
    have hhead : closeSocket m.core = closeSocket m := rfl
    rw [List.map_cons, closeSockets, closeSockets, ih, hhead]

/-- The members are closed in their order, and leave the group together. -/
theorem closeGroup_composed : Composed GroupChange closeGroup := by
  apply Composed.read
  · intro s s' h
    have hclose : closeSockets s.members = closeSockets s'.members := by
      rw [← closeSockets_map_core, State.core_members h, closeSockets_map_core]
    change (closeSockets s.members >>= fun _ => _) = closeSockets s'.members >>= fun _ => _
    rw [hclose]
  intro s
  exact (closeSockets_composed _).group.bind fun _ => .change .clear

/-- A group that could be opened in part only is closed again. -/
theorem enterGroup_composed (conf : RunConfig) : Composed GroupChange (enterGroup conf) :=
  (openGroup_composed conf).undoing _ closeGroup_composed

/-! ## Sending -/

/-- A packet that went out is counted, and then stamped with the time. -/
theorem sendOnce_composed (conf : RunConfig) (place : Nat) (m : ProbeSocket) :
    Composed ServeChange (sendOnce conf place m) := by
  apply ((send_composed m.fd _).onFault _ _).bind
  intro _
  apply Composed.bind (.change (.countPacket place))
  intro _
  -- the time of the clock is read for the stamp alone, so both are one change
  exact Composed.change (.stamp place)

/-- The member that sends is looked up for each packet anew. Its core is all that matters. -/
theorem sendPackets_composed (conf : RunConfig) (place n : Nat) :
    Composed ServeChange (sendPackets conf place n) := by
  induction n with
  | zero => exact .pure _
  | succ n ih =>
    apply Composed.read
    · intro s s' h
      have hmember := State.core_member h place
      cases hs : s.group.sockets[place]? with
      | none =>
        rw [hs, Option.map_none, eq_comm, Option.map_eq_none_iff] at hmember
        rw [hmember]
      | some m =>
        rw [hs, Option.map_some, eq_comm, Option.map_eq_some_iff] at hmember
        obtain ⟨m', hs', hcore⟩ := hmember
        have hsend : sendOnce conf place m = sendOnce conf place m' := by
          change sendOnce conf place m.core = sendOnce conf place m'.core
          rw [hcore]
        rw [hs']
        dsimp only
        rw [hsend]
    intro s
    split
    · exact .pure _
    · exact (sendOnce_composed conf place _).bind fun _ => ih

/-- A packet that fails ends the run, and is told in its result. -/
theorem servePackets_composed (conf : RunConfig) (place : Nat) :
    Composed ServeChange (servePackets conf place) := by
  apply Composed.tryCatch ((sendPackets_composed conf place _).bind fun _ => .pure _)
  intro f
  split
  · exact (say_composed _ _ _).serve.bind fun _ => .pure _
  · exact .throw _

/-! ## Making a socket ready -/

section Readying

variable {conf : RunConfig} {R : State → State → Prop} [IsPreorder State R]

/-- What is done to a new socket once its source is known. -/
def readySocket (conf : RunConfig) (fd : Nat) (source : Endpoint) : Probe Endpoint := do
  if source.version ≠ .four then
    fail (.setup .bind (.bindIpv6 source.address) Errno.familyNotSupported)
  (bind fd source.sockAddr).onFault Fault.isSystemOrIllTyped fun f =>
    .setup .bind (.bind source.address) f.errno
  if conf.tos ≠ 0 then applyTos fd conf.tos
  return source

/-- Whatever fails before the source is known fails before the socket is touched. -/
theorem prepare_eq (conf : RunConfig) (fd : Nat) :
    prepare conf fd = sourceEndpoint conf >>= readySocket conf fd := rfl

/-- A source of another version than IPv4 makes no socket ready. -/
theorem readySocket_of_ne_four {source : Endpoint} (h : source.version ≠ .four) (fd : Nat) :
    readySocket conf fd source =
      fail (.setup .bind (.bindIpv6 source.address) Errno.familyNotSupported) := by
  rw [readySocket, if_pos h]
  rfl

/-- Making a socket ready leaves alone what its two calls leave alone, which are made for an IPv4
source only. -/
theorem readySocket_respects {fd : Nat} {source : Endpoint}
    (hbind : source.version = .four → Respects R (bind fd source.sockAddr))
    (htos : source.version = .four → ∀ byte, Respects R (setTos fd byte)) :
    Respects R (readySocket conf fd source) := by
  by_cases hfour : source.version = .four
  · have hbyte : Respects R (tosByte conf.tos) := by
      unfold tosByte
      split
      · exact .pure _
      · exact .throw _
    have hset : Respects R (applyTos fd conf.tos) :=
      hbyte.bind fun byte => (htos hfour byte).onFault _ _
    rw [readySocket, if_neg (not_not.2 hfour)]
    apply ((hbind hfour).onFault _ _).bind
    intro _
    split
    · exact hset.bind fun _ => .pure _
    · exact .pure _
  · rw [readySocket_of_ne_four hfour]
    exact .throw _

end Readying

/-! ## Spinning -/

section Spinning

variable {R : State → State → Prop} [IsPreorder State R]

/-- A question about a queue takes a reply and notes the question, and leaves alone what these two
leave alone. -/
theorem queryQueue_respects
    (hqueue : ∀ (s : State) queue, R s { s with world := { s.world with queue } })
    (hnote : ∀ (s : State) fd o, R s (s.note (.call fd .queryQueue o))) (fd : Nat) :
    Respects R (queryQueue fd) := by
  have hfinish (o : Option Fault) : Respects R (finish fd .queryQueue o) := by
    apply Respects.bind (.modify fun s => hnote s fd o)
    intro _
    cases o with
    | none => exact .pure ()
    | some f => exact .throw _
  apply Respects.get.bind
  intro s
  apply Respects.bind (.modify fun t => hqueue t _)
  intro _
  apply (hfinish _).bind
  intro _
  split
  · exact .pure _
  · exact .throw _

/-- What a question about a queue leaves alone, spinning does. -/
theorem spin_respects
    (hqueue : ∀ (s : State) queue, R s { s with world := { s.world with queue } })
    (hnote : ∀ (s : State) fd o, R s (s.note (.call fd .queryQueue o))) (ceiling : Int) (fd : Nat) :
    Respects R (spin ceiling fd) := by
  have hask : Respects R (queryQueue fd) := queryQueue_respects hqueue hnote fd
  have hquery : Respects R (tryQuery fd) := by
    apply Respects.tryCatch
    · rw [map_eq_pure_bind]
      exact (hask.onFault _ _).bind fun _ => .pure _
    · intro f
      split
      · exact .pure _
      · exact .throw _
  have hfrom (left spins : Nat) : Respects R (spinFrom fd left spins) := by
    induction left generalizing spins with
    | zero => exact .pure _
    | succ left ih =>
      apply hquery.bind
      intro answer
      split
      · exact .pure _
      · split
        · exact .pure _
        · exact ih _
  exact hfrom _ _

end Spinning

/-! ## Runs on a group -/

section Serving

variable {R : State → State → Prop} [IsPreorder State R]

theorem number_respects (n : Int) : Respects R (number n) := by
  rw [number, numberText_eq]
  split
  · exact .pure _
  · exact .throw _

/-- Spinning on a member of the group keeps the outcome and says it. -/
theorem spinMember_respects (hspin : ∀ ceiling fd, Respects R (spin ceiling fd))
    (hkeep : ∀ place spin, Respects R (modifyMember place fun m => { m with spin }))
    (hsay : ∀ origin level text, Respects R (say origin level text)) (ceiling : Int) (place : Nat) :
    Respects R (spinMember ceiling place) := by
  apply Respects.get.bind
  intro s
  split
  · exact .pure _
  · apply (hspin ceiling _).bind
    intro outcome
    apply (hkeep place _).bind
    intro _
    apply (number_respects _).bind
    intro _
    apply (number_respects _).bind
    intro _
    exact hsay _ _ _

/-- What serving a socket leaves alone, be it sending or spinning, sending all packets does. -/
theorem sendAll_respects {conf : RunConfig} (hserve : ∀ place, Respects R (servePackets conf place))
    (hspin : ∀ ceiling place, Respects R (spinMember ceiling place)) (spinner : Option Int) :
    Respects R (sendAll conf spinner) := by
  have hplaces (n place : Nat) : Respects R (servePlaces conf spinner n place) := by
    induction n generalizing place with
    | zero => exact .pure _
    | succ n ih =>
      apply (hserve place).bind
      intro failure
      split
      · exact .pure _
      · split
        · exact (hspin _ place).bind fun _ => ih _
        · exact ih _
  apply Respects.get.bind
  intro s
  apply (hplaces _ _).bind
  intro failure
  exact Respects.get.bind fun _ => .pure _

end Serving

end Probe

end RdsReach
