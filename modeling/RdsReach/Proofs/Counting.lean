import RdsReach.Proofs.Ownership
import RdsReach.Proofs.Sending
import RdsReach.Session

/-!
# Counters and the packets that went out

A socket of a group counts its packets and keeps the time of the latest one. `Counted clock s` is
the invariant that ties these fields to the packets that went out, which are the events
`State.packetsOut`. Every step of a session keeps it: opening, entering and closing the group, and
runs with or without timing, however they end. What the world answers may change between the steps,
so that packets go out again on a socket that refused one.

The clock that stamps packets is read once directly after each packet, so the reading after a packet
has as number the count of the packets before it.
-/

namespace RdsReach

/-- The packets that went out so far, in order. -/
def State.packetsOut (s : State) : List Event := s.trace.filter Event.isSent

theorem State.packetsOut_of_trace {s t : State} {es : List Event} (h : t.trace = s.trace ++ es) :
    t.packetsOut = s.packetsOut ++ es.filter Event.isSent := by
  rw [packetsOut, h, List.filter_append, packetsOut]

/-- The fields of the socket agree with the packets that went out: it counted those on its
descriptor, and has the time of the reading after the latest of them. -/
structure ProbeSocket.Counts (m : ProbeSocket) (out : List Event) (clock : List Binary64) :
    Prop where
  sent_eq : m.sent = (eventsAt m.fd out).length
  lastSent_eq_none_iff : m.lastSent = none ↔ m.sent = 0
  lastSent_eq : m.sent ≠ 0 → ∃ before latest after, out = before ++ latest :: after ∧
    latest.fd? = some m.fd ∧ eventsAt m.fd after = [] ∧
      m.lastSent = some (reading clock before.length)
  replies_eq : m.replies = 0

namespace ProbeSocket.Counts

variable {m : ProbeSocket} {out : List Event} {clock : List Binary64} {e : Event}

/-- A socket that was just created has counted nothing, and nothing went out on it. -/
theorem fresh {fd : Nat} {slot : Int} (hout : eventsAt fd out = []) :
    Counts { fd, slot } out clock where
  sent_eq := by rw [hout, List.length_nil]
  lastSent_eq_none_iff := by simp
  lastSent_eq := fun h => absurd rfl h
  replies_eq := rfl

/-- A packet on another descriptor does not matter. -/
theorem other (h : m.Counts out clock) (he : e.fd? ≠ some m.fd) : m.Counts (out ++ [e]) clock where
  sent_eq := by
    have hnone : eventsAt m.fd [e] = [] := eventsAt_eq_nil (by simpa using he)
    rw [eventsAt_append, hnone, List.append_nil]
    exact h.sent_eq
  lastSent_eq_none_iff := h.lastSent_eq_none_iff
  lastSent_eq := by
    intro hne
    obtain ⟨before, latest, after, hout, hlatest, hafter, htime⟩ := h.lastSent_eq hne
    have hnone : eventsAt m.fd [e] = [] := eventsAt_eq_nil (by simpa using he)
    refine ⟨before, latest, after ++ [e], ?_, hlatest, ?_, htime⟩
    · rw [hout, List.append_assoc, List.cons_append]
    · rw [eventsAt_append, hafter, hnone, List.append_nil]
  replies_eq := h.replies_eq

/-- A packet on the descriptor is counted, and stamped with the reading after it. -/
theorem packet (h : m.Counts out clock) (he : e.fd? = some m.fd) :
    Counts { m with sent := m.sent + 1, lastSent := some (reading clock out.length) } (out ++ [e])
      clock where
  sent_eq := by
    have hone : eventsAt m.fd [e] = [e] := eventsAt_eq_self (by simpa using he)
    have hsent := h.sent_eq
    rw [eventsAt_append, hone, List.length_append, List.length_singleton]
    exact congrArg (· + 1) hsent
  lastSent_eq_none_iff := by simp
  lastSent_eq := fun _ => ⟨out, e, [], rfl, he, rfl, rfl⟩
  replies_eq := h.replies_eq

/-- The outcome of spinning does not count. -/
theorem spun (h : m.Counts out clock) (spin : Option Spin) :
    Counts { m with spin } out clock :=
  ⟨h.sent_eq, h.lastSent_eq_none_iff, h.lastSent_eq, h.replies_eq⟩

end ProbeSocket.Counts

/-- The counters of the group agree with the packets that went out, and no packet went out on a
descriptor that is still to come. -/
structure Counted (clock : List Binary64) (s : State) : Prop where
  clock_eq : s.world.sendClock = clock
  reads_eq : s.sendClockReads = s.packetsOut.length
  fds_lt_of_out : ∀ e ∈ s.packetsOut, ∀ fd, e.fd? = some fd → fd < firstFd + s.sockets.size
  fds_nodup : (s.members.map (·.fd)).Nodup
  fds_lt : ∀ m ∈ s.members, m.fd < firstFd + s.sockets.size
  counts : ∀ m ∈ s.members, m.Counts s.packetsOut clock

/-! ## What counters do not depend on -/

/-- Nothing happened that the counters of a group depend on. -/
structure State.Beside (s t : State) : Prop where
  group_eq : t.group = s.group
  out_eq : t.packetsOut = s.packetsOut
  clock_eq : t.world.sendClock = s.world.sendClock
  reads_eq : t.sendClockReads = s.sendClockReads
  size_le : s.sockets.size ≤ t.sockets.size

instance : IsPreorder State State.Beside where
  refl _ := ⟨rfl, rfl, rfl, rfl, Nat.le_refl _⟩
  trans _ _ _ h h' :=
    ⟨h'.group_eq.trans h.group_eq, h'.out_eq.trans h.out_eq, h'.clock_eq.trans h.clock_eq,
      h'.reads_eq.trans h.reads_eq, Nat.le_trans h.size_le h'.size_le⟩

/-- What held before an action holds after it. -/
def State.Preserves (P : State → Prop) (s t : State) : Prop := P s → P t

instance (P : State → Prop) : IsPreorder State (State.Preserves P) where
  refl _ := id
  trans _ _ _ h h' := fun hs => h' (h hs)

namespace State.Beside

variable {s t : State} {clock : List Binary64}

theorem of_eq (hgroup : t.group = s.group) (hevents : t.events = s.events)
    (hclock : t.world.sendClock = s.world.sendClock) (hreads : t.sendClockReads = s.sendClockReads)
    (hsize : s.sockets.size ≤ t.sockets.size) : s.Beside t where
  group_eq := hgroup
  out_eq := by rw [packetsOut, trace, hevents, packetsOut, trace]
  clock_eq := hclock
  reads_eq := hreads
  size_le := hsize

/-- An event that is no packet that went out. -/
theorem note (s : State) {e : Event} (he : e.isSent = false) : s.Beside (s.note e) where
  group_eq := rfl
  out_eq := by
    have hnone : [e].filter Event.isSent = [] := List.filter_eq_nil_iff.2 (by simpa using he)
    rw [packetsOut_of_trace (s.trace_note e), hnone, List.append_nil]
  clock_eq := rfl
  reads_eq := rfl
  size_le := Nat.le_refl _

theorem members_eq (h : s.Beside t) : t.members = s.members := by
  rw [State.members, h.group_eq, State.members]

theorem counted (h : s.Beside t) (hs : Counted clock s) : Counted clock t := by
  have hsize := h.size_le
  refine ⟨h.clock_eq.trans hs.clock_eq, ?_, ?_, ?_, ?_, ?_⟩
  · rw [h.reads_eq, h.out_eq, hs.reads_eq]
  · rw [h.out_eq]
    intro e he fd hfd
    have hlt := hs.fds_lt_of_out e he fd hfd
    omega
  · rw [h.members_eq]
    exact hs.fds_nodup
  · rw [h.members_eq]
    intro m hm
    have hlt := hs.fds_lt m hm
    omega
  · rw [h.members_eq, h.out_eq]
    exact hs.counts

end State.Beside

namespace Counted

variable {clock : List Binary64} {s : State}

/-- An empty group has nothing to count. -/
theorem empty (h : Counted clock s) {group : Group} (hempty : group.sockets = #[]) :
    Counted clock { s with group } := by
  refine ⟨h.clock_eq, h.reads_eq, h.fds_lt_of_out, ?_, ?_, ?_⟩
  · rw [State.members, hempty]
    exact List.nodup_nil
  · simp [State.members, hempty]
  · simp [State.members, hempty]

/-- A socket that was just created joins the group. -/
theorem push {t : State} {slot : Int} (h : Counted clock s) (ht : s.Beside t)
    (hsize : s.sockets.size < t.sockets.size) :
    Counted clock (t.withMember { fd := firstFd + s.sockets.size, slot }) := by
  have hcounted := ht.counted h
  -- nothing went out on its descriptor, which was still to come
  have hout : eventsAt (firstFd + s.sockets.size) t.packetsOut = [] := by
    apply eventsAt_eq_nil
    intro e he hfd
    rw [ht.out_eq] at he
    have hlt := h.fds_lt_of_out e he _ hfd
    omega
  refine ⟨hcounted.clock_eq, hcounted.reads_eq, hcounted.fds_lt_of_out, ?_, ?_, ?_⟩
  · rw [State.members_withMember, List.map_append, List.nodup_append]
    refine ⟨hcounted.fds_nodup, by simp, fun fd hfd fd' hfd' => ?_⟩
    rw [ht.members_eq] at hfd
    obtain ⟨m, hm, rfl⟩ := List.mem_map.1 hfd
    obtain rfl := List.mem_singleton.1 hfd'
    have hlt := h.fds_lt m hm
    change m.fd ≠ firstFd + s.sockets.size
    omega
  · rw [State.members_withMember]
    refine List.forall_mem_append.2 ⟨hcounted.fds_lt, List.forall_mem_singleton.2 ?_⟩
    change firstFd + s.sockets.size < firstFd + t.sockets.size
    omega
  · rw [State.members_withMember]
    exact List.forall_mem_append.2
      ⟨hcounted.counts, List.forall_mem_singleton.2 (.fresh hout)⟩

/-- A packet goes out on a socket of the group, is counted and is stamped. -/
theorem packet {t : State} {pre ms : List ProbeSocket} {m : ProbeSocket} {e : Event}
    (h : Counted clock s) (hm : s.members = pre ++ m :: ms) (he : e.fd? = some m.fd)
    (hout : t.packetsOut = s.packetsOut ++ [e])
    (hmembers : t.members = pre ++
      { m with sent := m.sent + 1, lastSent := some (reading clock s.sendClockReads) } :: ms)
    (hclock : t.world.sendClock = s.world.sendClock)
    (hreads : t.sendClockReads = s.sendClockReads + 1)
    (hsize : t.sockets.size = s.sockets.size) : Counted clock t := by
  have hfds : t.members.map (·.fd) = s.members.map (·.fd) := by
    rw [hmembers, hm, List.map_append, List.map_append, List.map_cons, List.map_cons]
  have hnodup := h.fds_nodup
  rw [hm, List.map_append, List.map_cons, List.nodup_append, List.nodup_cons] at hnodup
  obtain ⟨-, ⟨hms, -⟩, hpre⟩ := hnodup
  have hcounts := h.counts
  rw [hm] at hcounts
  obtain ⟨hcountsPre, hcountsM⟩ := List.forall_mem_append.1 hcounts
  obtain ⟨hcountM, hcountsMs⟩ := List.forall_mem_cons.1 hcountsM
  refine ⟨hclock.trans h.clock_eq, ?_, ?_, ?_, ?_, ?_⟩
  · rw [hreads, hout, h.reads_eq, List.length_append, List.length_singleton]
  · rw [hout, hsize]
    refine List.forall_mem_append.2
      ⟨h.fds_lt_of_out, List.forall_mem_singleton.2 fun fd hfd => ?_⟩
    rw [he] at hfd
    obtain rfl := Option.some.inj hfd
    exact h.fds_lt m (by simp [hm])
  · rw [hfds]
    exact h.fds_nodup
  · intro m' hm'
    have hmem : m'.fd ∈ s.members.map (·.fd) := hfds ▸ List.mem_map_of_mem hm'
    obtain ⟨m₀, hm₀, heq⟩ := List.mem_map.1 hmem
    rw [← heq, hsize]
    exact h.fds_lt m₀ hm₀
  · rw [hmembers, hout]
    -- the other sockets of the group have other descriptors
    refine List.forall_mem_append.2 ⟨?_, List.forall_mem_cons.2 ⟨?_, ?_⟩⟩
    · intro m' hm'
      apply (hcountsPre m' hm').other
      rw [he]
      intro heq
      exact hpre _ (List.mem_map_of_mem hm') _ List.mem_cons_self (Option.some.inj heq).symm
    · rw [h.reads_eq]
      exact hcountM.packet he
    · intro m' hm'
      apply (hcountsMs m' hm').other
      rw [he]
      intro heq
      exact hms (Option.some.inj heq ▸ List.mem_map_of_mem hm')

end Counted

namespace Probe

open State (Beside Preserves)

variable {α : Type} {clock : List Binary64} {conf : RunConfig}

/-- The action keeps the counters of the group right, however it ends. -/
def KeepsCounts (clock : List Binary64) (action : Probe α) : Prop :=
  Respects (Preserves (Counted clock)) action

theorem Respects.keepsCounts {action : Probe α} (h : Respects Beside action) :
    KeepsCounts clock action := h.mono fun _ _ => Beside.counted

/-! ## Opening and closing -/

theorem SocketChange.beside {f : State → State} (h : SocketChange f) (s : State) :
    s.Beside (f s) := by
  cases h with
  | @note e he =>
    have hsent : e.isSent = false := by
      cases e with
      | call fd c o => cases c <;> first | rfl | cases he
      | _ => rfl
    exact .note s hsent
  | countAttempt kind => cases kind <;> exact .of_eq rfl rfl rfl rfl (Nat.le_refl _)
  | addSocket script =>
    have hsize : s.sockets.size ≤ (s.sockets.push { script }).size := by
      rw [Array.size_push]
      exact Nat.le_succ _
    exact .of_eq rfl rfl rfl rfl hsize
  | shut fd => exact .of_eq rfl rfl rfl rfl (Nat.le_of_eq (Array.size_modify ..).symm)
  | _ => exact .of_eq rfl rfl rfl rfl (Nat.le_refl _)

theorem Composed.beside {action : Probe α} (h : Composed SocketChange action) :
    Respects Beside action := h.respects fun _ => SocketChange.beside

theorem openSlots_keepsCounts (conf : RunConfig) (n slot : Nat) :
    KeepsCounts clock (openSlots conf n slot) := by
  induction n generalizing slot with
  | zero => exact .pure _
  | succ n ih =>
    intro s
    have hcreate := (createProbeSocket_own conf slot s).and
      ((createProbeSocket_composed conf slot).beside s)
    rw [openSlots]
    apply meets_bind.2
    apply hcreate.mono
    · rintro m t ⟨⟨rfl, -, hscript, -⟩, ht⟩
      have hsize : s.sockets.size < t.sockets.size := by
        have hlt := (List.getElem?_eq_some_iff.1 hscript).1
        rwa [t.length_socketScripts] at hlt
      rw [meets_bind, addToGroup, meets_modify]
      -- the socket joins the group right after it was created, so nothing went out on it
      set m : ProbeSocket := { fd := firstFd + s.sockets.size, slot }
      have hgrown {u : State} (hu : (t.withMember m).Preserves (Counted clock) u) :
          s.Preserves (Counted clock) u := fun hs => hu (hs.push ht hsize)
      exact (ih (slot + 1) (t.withMember m)).mono (fun _ _ hu => hgrown hu) fun _ _ hu => hgrown hu
    · exact fun _ t ht => ht.2.counted

theorem openGroup_keepsCounts (conf : RunConfig) : KeepsCounts clock (openGroup conf) := by
  apply Respects.get.bind
  intro s
  apply (openSlots_keepsCounts conf _ _).bind
  intro _
  apply Respects.get.bind
  intro t
  exact (say_composed _ _ _).beside.keepsCounts

theorem closeGroup_keepsCounts : KeepsCounts clock closeGroup := by
  apply Respects.get.bind
  intro s
  apply (closeSockets_composed _).beside.keepsCounts.bind
  intro _
  exact Respects.modify fun t ht => ht.empty rfl

theorem Respects.undoing {R : State → State → Prop} [IsPreorder State R] {action : Probe α}
    {cleanup : Probe Unit} (h : Respects R action) (catches : Failure → Bool)
    (hcleanup : Respects R cleanup) : Respects R (action.undoing catches cleanup) := by
  apply h.tryCatch
  intro f
  dsimp only
  split
  · exact hcleanup.bind fun _ => .throw f
  · exact .throw f

theorem enterGroup_keepsCounts (conf : RunConfig) : KeepsCounts clock (enterGroup conf) :=
  (openGroup_keepsCounts conf).undoing _ closeGroup_keepsCounts

/-! ## Sending -/

/-- Changing a member of the group changes it alone. -/
theorem toList_modify_members {s : State} {pre ms : List ProbeSocket} {m : ProbeSocket}
    (h : s.members = pre ++ m :: ms) (change change' : ProbeSocket → ProbeSocket) :
    ((s.group.sockets.modify pre.length change).modify pre.length change').toList =
      pre ++ change' (change m) :: ms := by
  have hlist : s.group.sockets.toList = pre ++ m :: ms := h
  rw [Array.toList_modify, Array.toList_modify, hlist, modify_length, modify_length]

/-- A packet that goes out is counted and stamped before anything else happens, and one that does
not go out counts for nothing. -/
theorem sendOnce_counts {s : State} {pre ms : List ProbeSocket} {m : ProbeSocket}
    (h : s.members = pre ++ m :: ms) :
    Meets (sendOnce conf pre.length m) s (fun _ t => s.Preserves (Counted clock) t)
      fun _ t => s.Preserves (Counted clock) t := by
  rw [sendOnce, meets_bind, meets_onFault, send, socketOf]
  simp only [meets_bind, meets_get, meets_pure]
  apply (finish_spec m.fd (.send conf.destination.sockAddr) _ s).mono
  · rintro _ _ ⟨-, rfl⟩
    simp only [modifySocket, modifyMember, readSendClock, meets_bind, meets_modify, meets_get,
      meets_pure]
    intro hs
    have hfd : Event.fd? (.call m.fd (.send conf.destination.sockAddr) none) = some m.fd := rfl
    apply hs.packet h hfd
    · exact State.packetsOut_of_trace (s.trace_note _)
    · rw [← hs.clock_eq]
      exact toList_modify_members h _ _
    · rfl
    · rfl
    · exact Array.size_modify ..
  · rintro _ _ ⟨g, -, rfl, rfl⟩
    have hrefused : Event.isSent (.call m.fd (.send conf.destination.sockAddr) (some g)) = false :=
      rfl
    exact (Beside.note s hrefused).counted

/-- A member of a group stands behind others and before others. -/
theorem members_split {s : State} {place : Nat} {m : ProbeSocket}
    (h : s.group.sockets[place]? = some m) :
    ∃ pre ms, s.members = pre ++ m :: ms ∧ pre.length = place := by
  have hplace : s.members[place]? = some m := by
    rw [State.members, Array.getElem?_toList]
    exact h
  obtain ⟨hlt, rfl⟩ := List.getElem?_eq_some_iff.1 hplace
  refine ⟨s.members.take place, s.members.drop (place + 1), ?_, ?_⟩
  · rw [List.getElem_cons_drop, List.take_append_drop]
  · rw [List.length_take]
    omega

theorem sendPackets_keepsCounts (conf : RunConfig) (place n : Nat) :
    KeepsCounts clock (sendPackets conf place n) := by
  induction n with
  | zero => exact .pure _
  | succ n ih =>
    intro s
    rw [sendPackets, meets_bind, meets_get]
    cases hm : s.group.sockets[place]? with
    | none => exact fun hs => hs
    | some m =>
      obtain ⟨pre, ms, hmembers, rfl⟩ := members_split hm
      apply meets_bind.2
      apply (sendOnce_counts hmembers).mono
      · intro _ t ht
        exact (ih t).mono (fun _ _ hu hs => hu (ht hs)) fun _ _ hu hs => hu (ht hs)
      · exact fun _ _ ht => ht

theorem servePackets_keepsCounts (conf : RunConfig) (place : Nat) :
    KeepsCounts clock (servePackets conf place) := by
  apply Respects.tryCatch
  · exact (sendPackets_keepsCounts conf place _).bind fun _ => .pure _
  · intro f
    split
    · exact (say_composed _ _ _).beside.keepsCounts.bind fun _ => .pure _
    · exact .throw _

/-! ## Spinning -/

theorem spin_beside (ceiling : Int) (fd : Nat) : Respects Beside (spin ceiling fd) := by
  apply spin_respects
  · exact fun s queue => .of_eq rfl rfl rfl rfl (Nat.le_refl _)
  · exact fun s fd o => .note s rfl

/-- The outcome of spinning is kept with the socket, and counts for nothing. -/
theorem keepSpin_counted {s : State} (h : Counted clock s) (place : Nat) (spin : Option Spin) :
    Counted clock { s with group := { s.group with
      sockets := s.group.sockets.modify place fun m => { m with spin } } } := by
  have hfds : (s.group.sockets.modify place fun m => { m with spin }).toList.map (·.fd) =
      s.members.map (·.fd) := by
    apply map_modify_of_eq
    exact fun _ => rfl
  have hmember : ∀ m' ∈ (s.group.sockets.modify place fun m => { m with spin }).toList,
      ∃ m ∈ s.members, m' = m ∨ m' = { m with spin } := by
    intro m' hm'
    rw [Array.toList_modify] at hm'
    obtain ⟨i, hi⟩ := List.mem_iff_getElem?.1 hm'
    rw [List.getElem?_modify, Option.map_eq_map, Option.map_eq_some_iff] at hi
    obtain ⟨m, hm, rfl⟩ := hi
    refine ⟨m, List.mem_of_getElem? hm, ?_⟩
    by_cases hplace : place = i
    · exact .inr (if_pos hplace)
    · exact .inl (if_neg hplace)
  refine ⟨h.clock_eq, h.reads_eq, h.fds_lt_of_out, ?_, ?_, ?_⟩
  · rw [State.members, hfds]
    exact h.fds_nodup
  · intro m' hm'
    obtain ⟨m, hm, rfl | rfl⟩ := hmember m' hm'
    · exact h.fds_lt m' hm
    · exact h.fds_lt m hm
  · intro m' hm'
    obtain ⟨m, hm, rfl | rfl⟩ := hmember m' hm'
    · exact h.counts m' hm
    · exact (h.counts m hm).spun spin

theorem spinMember_keepsCounts (ceiling : Int) (place : Nat) :
    KeepsCounts clock (spinMember ceiling place) := by
  apply spinMember_respects
  · exact fun ceiling fd => (spin_beside ceiling fd).keepsCounts
  · exact fun place spin => Respects.modify fun s hs => keepSpin_counted hs place spin
  · exact fun _ _ _ => (say_composed _ _ _).beside.keepsCounts

/-! ## Runs -/

theorem sendAll_keepsCounts (conf : RunConfig) (spinner : Option Int) :
    KeepsCounts clock (sendAll conf spinner) :=
  sendAll_respects (servePackets_keepsCounts conf) spinMember_keepsCounts spinner

theorem readClock_beside : Respects Beside readClock := by
  apply Respects.get.bind
  intro s
  apply Respects.get.bind
  intro t
  apply Respects.bind (.modify fun u => .of_eq rfl rfl rfl rfl (Nat.le_refl _))
  exact fun _ => .pure _

theorem timedRun_keepsCounts (conf : RunConfig) (spinner : Option Int) :
    KeepsCounts clock (timedRun conf spinner) := by
  apply readClock_beside.keepsCounts.bind
  intro start
  apply (sendAll_keepsCounts conf spinner).bind
  intro r
  apply readClock_beside.keepsCounts.bind
  intro stop
  have htime (e : Except Failure Binary64) : Composed SocketChange (ofExcept e) := .ofExcept e
  apply (htime _).beside.keepsCounts.bind
  intro elapsed
  exact (say_composed _ _ _).beside.keepsCounts.bind fun _ => .pure _

end Probe

/-! ## Sessions -/

namespace Session

open Probe (Respects)

/-- Changes to how sockets answer respect what each of them respects. -/
theorem adjustSockets_respects {R : State → State → Prop} [IsPreorder State R]
    (h : ∀ fd edit, Respects R (adjustSocket fd edit))
    (sockets : List (Nat × (SocketScript → SocketScript))) :
    Respects R (sockets.forM fun (fd, edit) => adjustSocket fd edit) := by
  induction sockets with
  | nil => exact .pure _
  | cons socket sockets ih => exact (h socket.1 socket.2).bind fun _ => ih

theorem adjustSocket_beside (fd : Nat) (edit : SocketScript → SocketScript) :
    Respects State.Beside (adjustSocket fd edit) :=
  .modify fun _ => .of_eq rfl rfl rfl rfl (Nat.le_of_eq (Array.size_modify ..).symm)

end Session

/-- What can be done in a session on a group. -/
inductive GroupMove where
  /-- A new group takes the place of the group, which is forgotten as it is. -/
  | renew (size : Int)
  /-- The group is opened, closed, entered or left. -/
  | manage (step : GroupStep)
  /-- The packets of a run are sent, with a spinner or without one. -/
  | send (spinner : Option Int)
  /-- The packets of a run are sent and the time is taken. -/
  | time (spinner : Option Int)
  /-- The answers of the world change, and those of some sockets that there are. The clock that
  stamps packets goes on. -/
  | adjust (world : World → World) (sockets : List (Nat × (SocketScript → SocketScript)))

namespace GroupMove

open Probe

/-- The action of a move. -/
def action (conf : RunConfig) : GroupMove → Probe Unit
  | renew size => modify fun s => { s with group := { size } }
  | manage step => step.action conf
  | send spinner => do let _ ← sendAll conf spinner
  | time spinner => do let _ ← timedRun conf spinner
  | adjust world sockets => do
    modify fun s => { s with world := { world s.world with sendClock := s.world.sendClock } }
    sockets.forM fun (fd, edit) => Session.adjustSocket fd edit

/-- The state after some moves, each of which may fail. -/
def after (conf : RunConfig) (moves : List GroupMove) (s : State) : State :=
  moves.foldl (fun s move => leaves (move.action conf) s) s

variable {conf : RunConfig} {clock : List Binary64}

theorem keepsCounts (move : GroupMove) : KeepsCounts clock (move.action conf) := by
  cases move with
  | renew size => exact Respects.modify fun s hs => hs.empty rfl
  | manage step =>
    cases step with
    | openAll => exact openGroup_keepsCounts conf
    | closeAll => exact closeGroup_keepsCounts
    | enter => exact enterGroup_keepsCounts conf
    | exit => exact closeGroup_keepsCounts
  | send spinner => exact (sendAll_keepsCounts conf spinner).bind fun _ => .pure ()
  | time spinner => exact (timedRun_keepsCounts conf spinner).bind fun _ => .pure ()
  | adjust world sockets =>
    have hworld : Respects State.Beside (modify fun s : State =>
        { s with world := { world s.world with sendClock := s.world.sendClock } }) :=
      .modify fun _ => .of_eq rfl rfl rfl rfl (Nat.le_refl _)
    have hsockets := Session.adjustSockets_respects Session.adjustSocket_beside sockets
    exact hworld.keepsCounts.bind fun _ => hsockets.keepsCounts

/-- The counters are right after every session that started with right ones. -/
theorem after_counted (moves : List GroupMove) {s : State} (h : Counted clock s) :
    Counted clock (after conf moves s) := by
  induction moves generalizing s with
  | nil => exact h
  | cons move moves ih =>
    have hmove : s.Preserves (Counted clock) (leaves (move.action conf) s) :=
      leaves_of_meets (move.keepsCounts s)
    exact ih (hmove h)

/-- After every session, however its moves ended, each socket of the group has counted the packets
that ever went out on its descriptor, and has the time of the clock reading after the latest of
them. The clock was read once for each packet. -/
theorem session_counts (conf : RunConfig) (world : World) (moves : List GroupMove) :
    let s := after conf moves (State.forRun { world } conf)
    s.sendClockReads = s.packetsOut.length ∧
      ∀ m ∈ s.members, m.Counts s.packetsOut world.sendClock := by
  intro s
  have hstart : Counted world.sendClock (State.forRun { world } conf) := by
    refine ⟨rfl, rfl, ?_, List.nodup_nil, ?_, ?_⟩
    · simp [State.packetsOut, State.trace, State.forRun]
    · simp [State.members, State.forRun]
    · simp [State.members, State.forRun]
  have hend : Counted world.sendClock s := after_counted moves hstart
  exact ⟨hend.reads_eq, hend.counts⟩

/-- The second of two packets is refused; in a later run, both go out. -/
example :
    let conf : RunConfig :=
      { destination := { address := .v4 ⟨192, 0, 2, 7⟩ }, count := 2, groupSize := 1 }
    let world : World := { rds := [{ send := some ⟨1, .system (some 105)⟩ }] }
    let moves : List GroupMove := [.manage .openAll, .send none,
      .adjust id [(100, fun script => { script with send := none })], .send none]
    (after conf moves (State.forRun { world } conf)).members.map (·.sent) = [3] := by
  decide +kernel

end GroupMove

end RdsReach
