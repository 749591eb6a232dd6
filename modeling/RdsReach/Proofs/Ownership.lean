import Mathlib.Data.List.Nodup
import RdsReach.Proofs.Composed
import RdsReach.Proofs.Opening

/-!
# Who closes a socket

A group owns the sockets that were created for it, and closes each of them once. This holds for any
history of opening, closing, entering and leaving the group, whatever fails on the way, as long as
closing an RDS socket fails only with faults of the system.

`Ledger s made t` is the invariant behind that. It accounts for all sockets `made` that the group
was given since the state `s`: the group holds the latest of them, on which closing was not tried,
and tried to close each of the others once. `Ledger.step` shows that every step keeps it.
-/

namespace RdsReach

/-! ## Closes among the events -/

/-- The descriptor that an event tries to close. -/
def Event.closedFd? : Event → Option Nat
  | .call fd .close _ => some fd
  | _ => none

/-- The descriptors that closing was tried on, in order. -/
def closedFds (es : List Event) : List Nat := es.filterMap Event.closedFd?

/-- The events close the descriptors, one after the other, each with its own outcome. -/
def ClosesAll : List Nat → List Event → Prop :=
  List.Forall₂ fun fd e => ∃ o, e = .call fd .close o

section ClosedFds

variable {fd : Nat} {es es' : List Event}

@[simp] theorem closedFds_append : closedFds (es ++ es') = closedFds es ++ closedFds es' :=
  List.filterMap_append

theorem closedFds_call {c : Call} (hc : c ≠ .close) (o : Option Fault) :
    closedFds [.call fd c o] = [] := by
  cases c with
  | close => exact absurd rfl hc
  | _ => rfl

theorem closedFds_subset_append (h : closedFds es ⊆ openedFds es)
    (h' : closedFds es' ⊆ openedFds es') : closedFds (es ++ es') ⊆ openedFds (es ++ es') := by
  intro x hx
  rw [closedFds_append, List.mem_append] at hx
  rw [openedFds_append, List.mem_append]
  exact hx.imp (@h x) (@h' x)

/-- Looking up a source closes no more than the helper that it opened. -/
theorem Guess.closedFds_subset (h : Guess fd es) : closedFds es ⊆ openedFds es := by
  cases h with
  | spared => exact List.nil_subset _
  | unopened v g => exact List.nil_subset _
  | closed v hcs o =>
    intro x hx
    obtain ⟨e, he, hclosed⟩ := List.mem_filterMap.1 hx
    rcases List.mem_cons.1 he with rfl | he
    · cases hclosed
    · obtain ⟨⟨c, o'⟩, -, rfl⟩ := List.mem_map.1 he
      cases c with
      | close =>
        obtain rfl := Option.some.inj hclosed
        exact List.mem_cons_self
      | _ => cases hclosed

theorem ClosesAll.closedFds_eq {fds : List Nat} (h : ClosesAll fds es) : closedFds es = fds := by
  induction h with
  | nil => rfl
  | cons hcall _ ih =>
    obtain ⟨o, rfl⟩ := hcall
    exact congrArg (_ :: ·) ih

end ClosedFds

/-! ## What opening and closing leave alone -/

namespace State

variable {s t u : State}

/-- The scripts of the sockets that there are. -/
def socketScripts (s : State) : List SocketScript := s.sockets.toList.map (·.script)

theorem length_socketScripts (s : State) : s.socketScripts.length = s.sockets.size := by
  rw [socketScripts, List.length_map, Array.length_toList]

/-- The scripts of the sockets that there are stay as they are, and so do those of the RDS sockets
to come. -/
structure Keeps (s t : State) : Prop where
  rds_eq : t.world.rds = s.world.rds
  scripts_prefix : s.socketScripts <+: t.socketScripts

instance : IsPreorder State Keeps where
  refl _ := ⟨rfl, List.prefix_rfl⟩
  trans _ _ _ h h' := ⟨h'.rds_eq.trans h.rds_eq, h.scripts_prefix.trans h'.scripts_prefix⟩

theorem Keeps.script_eq (h : s.Keeps t) {i : Nat} {x : SocketScript}
    (hx : s.socketScripts[i]? = some x) : t.socketScripts[i]? = some x := by
  obtain ⟨later, hlater⟩ := h.scripts_prefix
  rw [← hlater, List.getElem?_append_left (List.getElem?_eq_some_iff.1 hx).1]
  exact hx

/-- The group stays as it is. -/
def SameGroup (s t : State) : Prop := t.group = s.group

instance : IsPreorder State SameGroup where
  refl _ := rfl
  trans _ _ _ h h' := Eq.trans h' h

/-- A descriptor was given out on the way exactly if it is one of the new ones. -/
theorem Emits.mem_openedFds {es : List Event} (h : s.Emits es t) {fd : Nat} :
    fd ∈ openedFds es ↔ firstFd + s.sockets.size ≤ fd ∧ fd < firstFd + t.sockets.size := by
  rw [h.openedFds_eq, List.mem_range'_1, h.size_eq]
  omega

/-- Closing is tried only on descriptors that are given out on the way. -/
def ClosesOwn (s t : State) : Prop := ∃ es, s.Emits es t ∧ closedFds es ⊆ openedFds es

instance : IsPreorder State ClosesOwn where
  refl s := ⟨[], .refl s, List.nil_subset _⟩
  trans s t u h h' := by
    obtain ⟨es, ht, hes⟩ := h
    obtain ⟨es', hu, hes'⟩ := h'
    exact ⟨es ++ es', ht.trans hu, closedFds_subset_append hes hes'⟩

end State

namespace Probe

open State (Emits Keeps SameGroup ClosesOwn)

variable {conf : RunConfig} {s t : State} {α : Type}

/-- Opening and closing leave the scripts of sockets alone. -/
theorem GroupChange.keeps {f : State → State} (h : GroupChange f) (s : State) : s.Keeps (f s) := by
  have hsame {t : State} (hrds : t.world.rds = s.world.rds) (hsockets : t.sockets = s.sockets) :
      s.Keeps t := by
    have hscripts : t.socketScripts = s.socketScripts := by
      rw [State.socketScripts, hsockets, State.socketScripts]
    exact ⟨hrds, hscripts ▸ List.prefix_rfl⟩
  cases h with
  | start conf => exact hsame rfl rfl
  | add m => exact hsame rfl rfl
  | clear => exact hsame rfl rfl
  | socket h =>
    cases h with
    | note _ => exact hsame rfl rfl
    | countAttempt kind => cases kind <;> exact hsame rfl rfl
    | addSocket script =>
      refine ⟨rfl, [script], ?_⟩
      simp [State.socketScripts, addSocket]
    | shut fd =>
      have hscripts :
          (s.sockets.modify (fd - firstFd) fun x => { x with isOpen := false }).toList.map
            (·.script) = s.socketScripts := by
        apply map_modify_of_eq
        exact fun _ => rfl
      exact ⟨rfl, hscripts ▸ List.prefix_rfl⟩
    | countTos => exact hsame rfl rfl
    | keepSource source => exact hsame rfl rfl
    | say origin level text => exact hsame rfl rfl
    | takeStage rest => exact hsame rfl rfl
    | noteLookup lookup => exact hsame rfl rfl

theorem SocketChange.sameGroup {f : State → State} (h : SocketChange f) (s : State) :
    s.SameGroup (f s) := by
  cases h with
  | countAttempt kind => cases kind <;> rfl
  | _ => rfl

theorem Composed.keeps {action : Probe α} (h : Composed GroupChange action) :
    Respects Keeps action := h.respects fun _ => GroupChange.keeps

theorem Composed.sameGroup {action : Probe α} (h : Composed SocketChange action) :
    Respects SameGroup action := h.respects fun _ => SocketChange.sameGroup

/-! ## What making a socket ready closes -/

section ClosesOwn

theorem Makes.closesOwn {action : Probe α} {fd : Nat} {c : Call} (h : Makes action fd c)
    (hc : c ≠ .close) : Respects ClosesOwn action := by
  intro s
  apply h.ends s
  intro o t ht
  refine ⟨_, ht.toEmits, ?_⟩
  rw [closedFds_call hc]
  exact List.nil_subset _

theorem sourceEndpoint_closesOwn (conf : RunConfig) :
    Respects ClosesOwn (sourceEndpoint conf) := by
  intro s
  apply (sourceEndpoint_spec conf s).mono
  · rintro _ t ⟨es, ht, h, -⟩
    exact ⟨es, ht, h.closedFds_subset⟩
  · rintro _ t ⟨es, ht, h⟩
    exact ⟨es, ht, h.closedFds_subset⟩

theorem prepare_closesOwn (conf : RunConfig) (fd : Nat) :
    Respects ClosesOwn (prepare conf fd) := by
  rw [prepare_eq]
  apply (sourceEndpoint_closesOwn conf).bind
  intro source
  apply readySocket_respects
  · exact fun _ => (bind_makes fd _).closesOwn (by simp)
  · exact fun _ byte => (setTos_makes fd byte).closesOwn (by simp)

end ClosesOwn

/-! ## Sockets that can be closed -/

end Probe

/-- A socket of this script is closed, or fails to be with a fault of the system. -/
def SocketScript.ClosesTamely (x : SocketScript) : Prop :=
  ∀ f, x.close = some f → f.isSystem = true

/-- The socket was given out, and that it cannot be closed is no more than said. -/
structure State.Closable (s : State) (m : ProbeSocket) : Prop where
  slot_printable : Decimal.isPrintable m.slot = true
  script : ∃ x, s.socketScripts[m.fd - firstFd]? = some x ∧ x.ClosesTamely

namespace State.Closable

variable {s t : State} {m : ProbeSocket}

theorem fd_lt (h : s.Closable m) : m.fd < firstFd + s.sockets.size := by
  obtain ⟨x, hx, -⟩ := h.script
  have hlt := (List.getElem?_eq_some_iff.1 hx).1
  rw [s.length_socketScripts] at hlt
  omega

theorem keeps (h : s.Closable m) (ht : s.Keeps t) : t.Closable m := by
  obtain ⟨x, hx, htame⟩ := h.script
  exact ⟨h.slot_printable, x, ht.script_eq hx, htame⟩

end State.Closable

namespace Probe

open State (Emits Keeps SameGroup ClosesOwn)

variable {conf : RunConfig} {s t : State}

theorem createSocket_script (kind : SocketKind) (s : State) :
    Meets (createSocket kind) s
      (fun _ t => t.socketScripts = s.socketScripts ++ [nextScript s kind]) fun _ _ => True := by
  have hsockets : (countAttempt s kind).sockets = s.sockets := by cases kind <;> rfl
  simp only [createSocket, meets_bind, meets_get, meets_modify]
  split
  · exact trivial
  · simp [State.socketScripts, addSocket, State.note, hsockets]

/-- The script of the next socket closes tamely if all scripts to come do. -/
theorem nextScript_closesTamely (h : ∀ x ∈ s.world.rds, x.ClosesTamely) :
    (nextScript s .rds).ClosesTamely := by
  rw [nextScript, SocketScript.ofAttempt]
  cases hx : s.world.rds[s.rdsAttempts]? with
  | none =>
    intro f hf
    cases hf
  | some x => exact h x (List.mem_of_getElem? hx)

/-- A socket that is created has the next descriptor and the next script, and closing was not tried
on it. -/
theorem createProbeSocket_own (conf : RunConfig) (slot : Int) (s : State) :
    Meets (createProbeSocket conf slot) s
      (fun m t => m = { fd := firstFd + s.sockets.size, slot } ∧ Decimal.isPrintable slot = true ∧
        t.socketScripts[s.sockets.size]? = some (nextScript s .rds) ∧
          ∃ es, s.Emits es t ∧ closedFds es ⊆ openedFds es ∧ m.fd ∉ closedFds es)
      fun _ t => s.ClosesOwn t := by
  set fd := firstFd + s.sockets.size with hfd
  rw [createProbeSocket, meets_bind, meets_onFault]
  apply ((createSocket_spec .rds s).and (createSocket_script .rds s)).mono
  · rintro _ t ⟨⟨rfl, ht⟩, hscripts⟩
    have hopened : s.ClosesOwn t := ⟨_, ht.toEmits, List.nil_subset _⟩
    have hsize : t.sockets.size = s.sockets.size + 1 := by
      rw [ht.size_eq]
      rfl
    rw [meets_bind, meets_undoing]
    apply ((prepare_closesOwn conf fd t).and ((prepare_composed conf fd).group.keeps t)).mono
    · rintro source u ⟨hown, hkeeps⟩
      rw [meets_bind, meets_number]
      split
      · next hslot =>
        rw [meets_bind, meets_say, meets_pure]
        obtain ⟨es, hu, hes⟩ := hown
        refine ⟨rfl, hslot, ?_, .opened .rds fd :: es,
          (ht.toEmits.trans hu).then_nil (.of_eq rfl rfl), ?_, ?_⟩
        -- the script was taken when the socket was created, and stays the one of its place
        · have hplace : t.socketScripts[s.sockets.size]? = some (nextScript s .rds) := by
            rw [hscripts, ← s.length_socketScripts, List.getElem?_concat_length]
          exact hkeeps.script_eq hplace
        · exact fun x hx => List.mem_cons_of_mem _ (hes hx)
        · intro hclosed
          have hnew := (hu.mem_openedFds.1 (hes hclosed)).1
          change firstFd + t.sockets.size ≤ fd at hnew
          omega
      · exact IsTrans.trans _ _ _ hopened hown
    · rintro f u ⟨hown, -⟩
      obtain ⟨es, hu, hes⟩ := hown
      split
      -- a socket that was created and not made ready is closed
      · apply (close_makes fd).ends u
        intro o v hv
        refine ⟨_, (ht.toEmits.trans hu).trans hv.toEmits, fun x hx => ?_⟩
        rw [closedFds_append, List.mem_append] at hx
        rw [openedFds_append, List.mem_append]
        left
        rcases hx with hx | hx
        · exact List.mem_cons_of_mem _ (hes hx)
        · rw [List.mem_singleton.1 hx]
          exact List.mem_cons_self
      · exact IsTrans.trans _ _ _ hopened ⟨es, hu, hes⟩
  · rintro _ t ⟨⟨g, rfl, ht⟩, -⟩
    exact ⟨_, ht.toEmits, List.nil_subset _⟩

/-- The sockets that creating those of `n` slots gives, the first of them `slot`, up to the first
one that is not created. -/
def created (conf : RunConfig) : (n slot : Nat) → State → List ProbeSocket
  | 0, _, _ => []
  | n + 1, slot, s =>
    match createProbeSocket conf slot s with
    | .ok m t => m :: created conf n (slot + 1) (t.withMember m)
    | .error _ _ => []

end Probe

/-! ## Opening -/

/-- The group grew by sockets of its own. Closing was tried on none of them and on no earlier
one. -/
structure State.Grows (s : State) (ms : List ProbeSocket) (t : State) : Prop where
  emits : ∃ es, s.Emits es t ∧ closedFds es ⊆ openedFds es ∧ ∀ m ∈ ms, m.fd ∉ closedFds es
  members_eq : t.members = s.members ++ ms
  size_eq : t.group.size = s.group.size
  keeps : s.Keeps t
  fds_nodup : (ms.map (·.fd)).Nodup
  fds_ge : ∀ m ∈ ms, firstFd + s.sockets.size ≤ m.fd
  closable : ∀ m ∈ ms, t.Closable m

namespace State.Grows

variable {s t u : State} {m : ProbeSocket} {ms : List ProbeSocket}

/-- A group that stays as it is grew by no socket. -/
theorem nil (hown : s.ClosesOwn t) (hgroup : s.SameGroup t) (hkeeps : s.Keeps t) :
    s.Grows [] t := by
  obtain ⟨es, hes, hown⟩ := hown
  refine ⟨⟨es, hes, hown, by simp⟩, ?_, ?_, hkeeps, List.nodup_nil, by simp, by simp⟩
  · rw [State.members, hgroup, List.append_nil, State.members]
  · rw [hgroup]

/-- A socket that is created joins the group before the next one is. -/
theorem cons (h : s.Grows [m] t) (h' : t.Grows ms u) : s.Grows (m :: ms) u := by
  obtain ⟨es, ht, hes, hopen⟩ := h.emits
  obtain ⟨es', hu, hes', hopen'⟩ := h'.emits
  have hclosable : t.Closable m := h.closable m (List.mem_singleton_self m)
  have hlt := hclosable.fd_lt
  have hge : firstFd + s.sockets.size ≤ m.fd := h.fds_ge m (List.mem_singleton_self m)
  -- later sockets have later descriptors, and so have the closes on the way to them
  have hlater : ∀ m' ∈ ms, m.fd < m'.fd := fun m' hm' => Nat.lt_of_lt_of_le hlt (h'.fds_ge m' hm')
  refine ⟨⟨es ++ es', ht.trans hu, closedFds_subset_append hes hes', ?_⟩, ?_,
    h'.size_eq.trans h.size_eq, ?_, ?_, ?_, ?_⟩
  · intro m' hm'
    rw [closedFds_append, List.mem_append]
    rintro (hclosed | hclosed)
    · rcases List.mem_cons.1 hm' with rfl | hm'
      · exact hopen m' (List.mem_singleton_self m') hclosed
      · have hbefore := (ht.mem_openedFds.1 (hes hclosed)).2
        have hafter := h'.fds_ge m' hm'
        omega
    · rcases List.mem_cons.1 hm' with rfl | hm'
      · have hafter := (hu.mem_openedFds.1 (hes' hclosed)).1
        omega
      · exact hopen' m' hm' hclosed
  · rw [h'.members_eq, h.members_eq, List.append_assoc, List.singleton_append]
  · exact IsTrans.trans _ _ _ h.keeps h'.keeps
  · rw [List.map_cons, List.nodup_cons]
    refine ⟨fun hmem => ?_, h'.fds_nodup⟩
    obtain ⟨m', hm', heq⟩ := List.mem_map.1 hmem
    have := hlater m' hm'
    omega
  · intro m' hm'
    rcases List.mem_cons.1 hm' with rfl | hm'
    · exact hge
    · exact Nat.le_of_lt (Nat.lt_of_le_of_lt hge (hlater m' hm'))
  · intro m' hm'
    rcases List.mem_cons.1 hm' with rfl | hm'
    · exact hclosable.keeps h'.keeps
    · exact h'.closable m' hm'

end State.Grows

namespace Probe

open State (Emits Keeps SameGroup ClosesOwn Grows)

variable {conf : RunConfig} {s t : State}

theorem createProbeSocket_sameGroup (conf : RunConfig) (slot : Int) :
    Respects (fun s t => s.SameGroup t ∧ s.Keeps t) (createProbeSocket conf slot) := fun s =>
  ((createProbeSocket_composed conf slot).sameGroup s).and
    ((createProbeSocket_composed conf slot).group.keeps s)

/-- The group gets exactly the sockets that are created, in their order. -/
theorem openSlots_grows (conf : RunConfig) (n slot : Nat)
    (htame : ∀ x ∈ s.world.rds, x.ClosesTamely) :
    Meets (openSlots conf n slot) s
      (fun _ t => s.Grows (created conf n slot s) t ∧
        (created conf n slot s).map (·.slot) = (List.range' slot n).map fun i : Nat => (i : Int))
      fun _ t => s.Grows (created conf n slot s) t := by
  -- on the sockets to come, each of which is in the group before the next one is created
  induction n generalizing s slot with
  | zero => exact ⟨.nil (refl s) (refl s) (refl s), rfl⟩
  | succ n ih =>
    rw [openSlots, created]
    have hcreate :=
      (createProbeSocket_own conf slot s).and (createProbeSocket_sameGroup conf slot s)
    apply meets_bind.2
    apply (hcreate.and (meets_self _ s)).mono
    · rintro m t ⟨⟨⟨hm, hslot, hscript, es, hes, hown, hopen⟩, hgroup, hkeeps⟩, hcreated⟩
      have hfd : m.fd = firstFd + s.sockets.size := by rw [hm]
      have hclosable : t.Closable m := by
        refine ⟨by rw [hm]; exact hslot, _, ?_, nextScript_closesTamely htame⟩
        rw [hfd, Nat.add_sub_cancel_left]
        exact hscript
      rw [hcreated, meets_bind, addToGroup, meets_modify]
      dsimp only
      change Meets (openSlots conf n (slot + 1)) (t.withMember m) _ _
      have hu : s.Grows [m] (t.withMember m) := by
        refine ⟨⟨es, hes.then_nil (.of_eq rfl rfl), hown, by simpa using hopen⟩, ?_, ?_,
          ⟨hkeeps.rds_eq, hkeeps.scripts_prefix⟩, by simp, by simp [hfd], ?_⟩
        · rw [State.members_withMember, State.members, hgroup, State.members]
        · change t.group.size = s.group.size
          rw [hgroup]
        · intro m' hm'
          obtain rfl := List.mem_singleton.1 hm'
          exact hclosable.keeps ⟨rfl, List.prefix_rfl⟩
      have htame' : ∀ x ∈ (t.withMember m).world.rds, x.ClosesTamely := by
        rw [hu.keeps.rds_eq]
        exact htame
      apply (ih (slot + 1) htame').mono
      · rintro _ v ⟨hv, hslots⟩
        refine ⟨hu.cons hv, ?_⟩
        rw [List.map_cons, hslots, hm, List.range'_succ, List.map_cons]
      · exact fun _ v hv => hu.cons hv
    · rintro f t ⟨⟨hown, hgroup, hkeeps⟩, hfailed⟩
      rw [hfailed]
      exact .nil hown hgroup hkeeps

/-- The sockets fill the slots of a group of a size, each on a descriptor of its own. -/
structure Fills (size : Int) (ms : List ProbeSocket) : Prop where
  slots_eq : ms.map (·.slot) = (List.range size.toNat).map fun i : Nat => (i : Int)
  fds_nodup : (ms.map (·.fd)).Nodup

/-- Opening adds the sockets that are created to the group, also if one of them is not. -/
theorem openGroup_grows (conf : RunConfig) (htame : ∀ x ∈ s.world.rds, x.ClosesTamely) :
    Meets (openGroup conf) s
      (fun _ t => s.Grows (created conf s.group.size.toNat 0 s) t ∧
        Fills s.group.size (created conf s.group.size.toNat 0 s))
      fun _ t => s.Grows (created conf s.group.size.toNat 0 s) t := by
  rw [openGroup, meets_bind, meets_get]
  apply meets_bind.2
  apply (openSlots_grows conf s.group.size.toNat 0 htame).mono
  · rintro _ t ⟨ht, hslots⟩
    rw [meets_bind, meets_get, meets_say]
    rw [← List.range_eq_range'] at hslots
    refine ⟨?_, hslots, ht.fds_nodup⟩
    obtain ⟨es, hes, hown, hopen⟩ := ht.emits
    refine ⟨⟨es, hes.then_nil (.of_eq rfl rfl), hown, hopen⟩, ht.members_eq, ht.size_eq,
      ⟨ht.keeps.rds_eq, ht.keeps.scripts_prefix⟩, ht.fds_nodup, ht.fds_ge, fun m hm => ?_⟩
    exact (ht.closable m hm).keeps ⟨rfl, List.prefix_rfl⟩
  · exact fun _ _ ht => ht

/-! ## Closing -/

/-- A socket that was given out answers as its script says. -/
theorem socketOf_script (fd : Nat) {x : SocketScript}
    (hx : s.socketScripts[fd - firstFd]? = some x) :
    Meets (socketOf fd) s (fun socket t => socket.script = x ∧ t = s) fun _ _ => False := by
  rw [State.socketScripts, List.getElem?_map, Array.getElem?_toList, Option.map_eq_some_iff] at hx
  obtain ⟨socket, hsocket, hscript⟩ := hx
  rw [socketOf, meets_bind, meets_get, meets_pure, hsocket, Option.getD_some]
  exact ⟨hscript, rfl⟩

/-- The fault of a close is the one that the script of the socket holds. -/
theorem close_script (fd : Nat) {x : SocketScript} (hx : s.socketScripts[fd - firstFd]? = some x) :
    Meets (close fd) s (fun _ _ => True) fun f _ => ∃ g, f = .fault g ∧ x.close = some g := by
  rw [close]
  apply (socketOf_script fd hx).bind_of_total
  intro socket t ht
  obtain ⟨rfl, rfl⟩ := ht
  apply meets_bind.2
  apply (finish_spec fd .close socket.script.close t).mono
  · exact fun _ _ _ => trivial
  · intro f u hf
    obtain ⟨g, hg, hf, -⟩ := hf
    exact ⟨g, hf, hg⟩

/-- Closing a socket of the group never fails. -/
theorem closeSocket_closable {m : ProbeSocket} (h : s.Closable m) :
    Meets (closeSocket m) s (fun _ t => ∃ o, s.After [.call m.fd .close o] t) fun _ _ => False := by
  obtain ⟨x, hx, htame⟩ := h.script
  rw [closeSocket, meets_tryCatch]
  apply ((close_makes m.fd s).and (close_script m.fd hx)).mono
  · exact fun _ t ht => ⟨none, ht.1⟩
  · rintro _ t ⟨⟨g, rfl, ht⟩, g', hg', hclose⟩
    obtain rfl := Failure.fault.inj hg'
    have hsystem : Failure.isSystem (.fault g) = true := htame g hclose
    rw [if_pos hsystem, meets_bind, meets_number, if_pos h.slot_printable, meets_say]
    exact ⟨some g, ht.then_eq (.of_eq rfl rfl rfl rfl)⟩

/-- All sockets are closed, whichever of them cannot be. -/
theorem closeSockets_closable (ms : List ProbeSocket) (h : ∀ m ∈ ms, s.Closable m) :
    Meets (closeSockets ms) s (fun _ t => ∃ es, s.After es t ∧ ClosesAll (ms.map (·.fd)) es)
      fun _ _ => False := by
  induction ms generalizing s with
  | nil => exact ⟨[], .refl s, .nil⟩
  | cons m ms ih =>
    obtain ⟨hm, hms⟩ := List.forall_mem_cons.1 h
    rw [closeSockets]
    have hclose := (closeSocket_closable hm).and ((closeSocket_composed m).group.keeps s)
    apply meets_bind.2
    apply hclose.mono
    · rintro _ t ⟨⟨o, ht⟩, hkeeps⟩
      apply (ih fun m' hm' => (hms m' hm').keeps hkeeps).mono
      · rintro _ u ⟨es, hu, hes⟩
        exact ⟨_, ht.trans hu, .cons ⟨o, rfl⟩ hes⟩
      · exact fun _ _ hf => hf
    · exact fun _ _ hf => hf.1

/-- Closing the group never fails, tries to close each socket once and leaves the group empty. -/
theorem closeGroup_closable (h : ∀ m ∈ s.members, s.Closable m) :
    Meets closeGroup s
      (fun _ t => t.members = [] ∧ t.group.size = s.group.size ∧
        ∃ es, s.Emits es t ∧ ClosesAll (s.members.map (·.fd)) es)
      fun _ _ => False := by
  rw [closeGroup, meets_bind, meets_get]
  apply (closeSockets_closable s.members h).bind_of_total
  rintro _ t ⟨es, ht, hes⟩
  rw [meets_modify]
  refine ⟨rfl, ?_, es, ht.toEmits.then_nil (.of_eq rfl rfl), hes⟩
  change t.group.size = s.group.size
  rw [ht.group_eq]

/-! ## Histories of a group -/

/-- The state that an action leaves, however it ends. -/
def leaves (action : Probe Unit) (s : State) : State :=
  match action s with
  | .ok _ t => t
  | .error _ t => t

theorem leaves_of_meets {action : Probe Unit} {P : State → Prop}
    (h : Meets action s (fun _ t => P t) fun _ t => P t) : P (leaves action s) := by
  unfold Meets at h
  unfold leaves
  split <;> simp_all

end Probe

/-- What can be done to a group. -/
inductive GroupStep where
  | openAll
  | closeAll
  | enter
  | exit
deriving DecidableEq, Repr

namespace GroupStep

/-- The action of a step. Leaving the group closes it. -/
def action (conf : RunConfig) : GroupStep → Probe Unit
  | openAll => Probe.openGroup conf
  | closeAll => Probe.closeGroup
  | enter => Probe.enterGroup conf
  | exit => Probe.closeGroup

/-- The sockets that are created for the group in a step. -/
def made (conf : RunConfig) (s : State) : GroupStep → List ProbeSocket
  | openAll => Probe.created conf s.group.size.toNat 0 s
  | enter => Probe.created conf s.group.size.toNat 0 s
  | _ => []

/-- The state after some steps, each of which may fail. -/
def after (conf : RunConfig) (steps : List GroupStep) (s : State) : State :=
  steps.foldl (fun s step => Probe.leaves (step.action conf) s) s

/-- The sockets that are created for the group in some steps. -/
def madeIn (conf : RunConfig) : List GroupStep → State → List ProbeSocket
  | [], _ => []
  | step :: steps, s => step.made conf s ++ madeIn conf steps (Probe.leaves (step.action conf) s)

end GroupStep

open Probe State GroupStep

/-- What is known of a group that was empty in `s`, was given the sockets `made` and is now in the
state `t`, to which the events `es` lead. -/
structure Ledger (s : State) (made : List ProbeSocket) (es : List Event) (t : State) : Prop where
  emits : s.Emits es t
  released : ∃ released, made = released ++ t.members ∧
    ∀ m ∈ released, (closedFds es).count m.fd = 1
  held : ∀ m ∈ t.members, m.fd ∉ closedFds es
  closed_lt : ∀ fd ∈ closedFds es, fd < firstFd + t.sockets.size
  fds_nodup : (made.map (·.fd)).Nodup
  fds_lt : ∀ m ∈ made, m.fd < firstFd + t.sockets.size
  closable : ∀ m ∈ t.members, t.Closable m
  tame : ∀ x ∈ t.world.rds, x.ClosesTamely
  size_eq : t.group.size = s.group.size

namespace Ledger

variable {conf : RunConfig} {s t u : State} {made ms : List ProbeSocket} {es : List Event}

theorem start (hempty : s.members = []) (htame : ∀ x ∈ s.world.rds, x.ClosesTamely) :
    Ledger s [] [] s where
  emits := .refl s
  released := ⟨[], by rw [hempty, List.append_nil], by simp⟩
  held := by simp [closedFds]
  closed_lt := by simp [closedFds]
  fds_nodup := List.nodup_nil
  fds_lt := by simp
  closable := by simp [hempty]
  tame := htame
  size_eq := rfl

/-- Sockets join the group. They come after everything that was closed, and what is closed on the
way comes after the sockets from before. -/
theorem grow (h : Ledger s made es t) (hu : t.Grows ms u) :
    ∃ es', Ledger s (made ++ ms) es' u := by
  obtain ⟨es', hes', hown, hopen⟩ := hu.emits
  obtain ⟨released, hmade, hreleased⟩ := h.released
  have hgrown : t.sockets.size ≤ u.sockets.size := by
    rw [hes'.size_eq]
    exact Nat.le_add_right _ _
  have hold : ∀ m ∈ made, m.fd ∉ closedFds es' := by
    intro m hm hclosed
    have hlt := h.fds_lt m hm
    have hge := (hes'.mem_openedFds.1 (hown hclosed)).1
    omega
  have hnew : ∀ m ∈ ms, m.fd ∉ closedFds es := by
    intro m hm hclosed
    have hlt := h.closed_lt m.fd hclosed
    have hge := hu.fds_ge m hm
    omega
  have hmembers : ∀ m ∈ t.members, m ∈ made := by
    intro m hm
    rw [hmade]
    exact List.mem_append_right _ hm
  refine ⟨es ++ es', h.emits.trans hes', ⟨released, ?_, ?_⟩, ?_, ?_, ?_, ?_, ?_, ?_,
    hu.size_eq.trans h.size_eq⟩
  · rw [hmade, hu.members_eq, List.append_assoc]
  · intro m hm
    have hmem : m ∈ made := hmade ▸ List.mem_append_left _ hm
    rw [closedFds_append, List.count_append, hreleased m hm, List.count_eq_zero.2 (hold m hmem)]
  · intro m hm
    rw [closedFds_append, List.mem_append, not_or]
    rw [hu.members_eq, List.mem_append] at hm
    rcases hm with hm | hm
    · exact ⟨h.held m hm, hold m (hmembers m hm)⟩
    · exact ⟨hnew m hm, hopen m hm⟩
  · intro fd hfd
    rw [closedFds_append, List.mem_append] at hfd
    rcases hfd with hfd | hfd
    · have hlt := h.closed_lt fd hfd
      omega
    · exact (hes'.mem_openedFds.1 (hown hfd)).2
  · rw [List.map_append, List.nodup_append]
    refine ⟨h.fds_nodup, hu.fds_nodup, fun fd hfd fd' hfd' => ?_⟩
    obtain ⟨m, hm, rfl⟩ := List.mem_map.1 hfd
    obtain ⟨m', hm', rfl⟩ := List.mem_map.1 hfd'
    have hlt := h.fds_lt m hm
    have hge := hu.fds_ge m' hm'
    omega
  · intro m hm
    rcases List.mem_append.1 hm with hm | hm
    · have hlt := h.fds_lt m hm
      omega
    · exact (hu.closable m hm).fd_lt
  · rw [hu.members_eq]
    exact List.forall_mem_append.2
      ⟨fun m hm => (h.closable m hm).keeps hu.keeps, hu.closable⟩
  · rw [hu.keeps.rds_eq]
    exact h.tame

/-- All sockets leave the group, each with a close of its own. -/
theorem release {es' : List Event} (h : Ledger s made es t) (hes' : t.Emits es' u)
    (hcloses : ClosesAll (t.members.map (·.fd)) es') (hempty : u.members = [])
    (hsize : u.group.size = t.group.size) (hkeeps : t.Keeps u) :
    Ledger s made (es ++ es') u := by
  obtain ⟨released, hmade, hreleased⟩ := h.released
  have hgrown : t.sockets.size ≤ u.sockets.size := by
    rw [hes'.size_eq]
    exact Nat.le_add_right _ _
  have hclosed := hcloses.closedFds_eq
  have hnodup := h.fds_nodup
  rw [hmade, List.map_append, List.nodup_append] at hnodup
  obtain ⟨-, hmembers, hdisjoint⟩ := hnodup
  refine ⟨h.emits.trans hes', ⟨made, ?_, ?_⟩, ?_, ?_, h.fds_nodup, ?_, ?_, ?_,
    hsize.trans h.size_eq⟩
  · rw [hempty, List.append_nil]
  · intro m hm
    rw [closedFds_append, hclosed, List.count_append]
    rw [hmade] at hm
    -- a socket that left the group before is closed no more, and one of the group only now
    rcases List.mem_append.1 hm with hm | hm
    · have hnot : m.fd ∉ t.members.map (·.fd) := fun hmem =>
        hdisjoint _ (List.mem_map_of_mem hm) _ hmem rfl
      rw [hreleased m hm, List.count_eq_zero.2 hnot]
    · rw [List.count_eq_zero.2 (h.held m hm),
        List.nodup_iff_count_eq_one.1 hmembers _ (List.mem_map_of_mem hm)]
  · simp [hempty]
  · intro fd hfd
    rw [closedFds_append, hclosed, List.mem_append] at hfd
    rcases hfd with hfd | hfd
    · have hlt := h.closed_lt fd hfd
      omega
    · obtain ⟨m, hm, rfl⟩ := List.mem_map.1 hfd
      have hlt := (h.closable m hm).fd_lt
      omega
  · intro m hm
    have hlt := h.fds_lt m hm
    omega
  · simp [hempty]
  · rw [hkeeps.rds_eq]
    exact h.tame

/-! ### Steps -/

theorem openGroup_ledger (h : Ledger s made es t) :
    Meets (openGroup conf) t
      (fun _ u => ∃ es', Ledger s (made ++ created conf t.group.size.toNat 0 t) es' u)
      fun _ u => ∃ es', Ledger s (made ++ created conf t.group.size.toNat 0 t) es' u :=
  (openGroup_grows conf h.tame).mono (fun _ _ hu => h.grow hu.1) fun _ _ hu => h.grow hu

theorem closeGroup_ledger (h : Ledger s made es t) :
    Meets closeGroup t (fun _ u => u.members = [] ∧ ∃ es', Ledger s made es' u)
      fun _ _ => False := by
  apply ((closeGroup_closable h.closable).and (closeGroup_composed.keeps t)).mono
  · rintro _ u ⟨⟨hempty, hsize, es', hes', hcloses⟩, hkeeps⟩
    exact ⟨hempty, _, h.release hes' hcloses hempty hsize hkeeps⟩
  · exact fun _ _ hf => hf.1

/-- A group that cannot be opened in full is closed, whatever the reason. -/
theorem enterGroup_ledger (h : Ledger s made es t) :
    Meets (enterGroup conf) t
      (fun _ u => u.members = t.members ++ created conf t.group.size.toNat 0 t ∧
        ∃ es', Ledger s (made ++ created conf t.group.size.toNat 0 t) es' u)
      fun _ u => u.members = [] ∧
        ∃ es', Ledger s (made ++ created conf t.group.size.toNat 0 t) es' u := by
  rw [enterGroup, meets_undoing]
  apply (openGroup_grows conf h.tame).mono
  · exact fun _ u hu => ⟨hu.1.members_eq, h.grow hu.1⟩
  · intro f u hu
    rw [if_pos rfl]
    obtain ⟨es', hledger⟩ := h.grow hu
    exact hledger.closeGroup_ledger.mono (fun _ _ hv => hv) fun _ _ hf => hf.elim

/-- Every step accounts for the sockets that it creates. -/
theorem step (conf : RunConfig) (h : Ledger s made es t) (step : GroupStep) :
    ∃ es', Ledger s (made ++ step.made conf t) es' (leaves (step.action conf) t) := by
  have hclose : ∃ es', Ledger s (made ++ []) es' (leaves closeGroup t) := by
    rw [List.append_nil]
    have hmeets : Meets closeGroup t (fun _ u => ∃ es', Ledger s made es' u)
        fun _ u => ∃ es', Ledger s made es' u :=
      h.closeGroup_ledger.mono (fun _ _ hu => hu.2) fun _ _ hf => hf.elim
    exact leaves_of_meets hmeets
  cases step with
  | openAll => exact leaves_of_meets h.openGroup_ledger
  | closeAll => exact hclose
  | enter =>
    exact leaves_of_meets (h.enterGroup_ledger.mono (fun _ _ hu => hu.2) fun _ _ hu => hu.2)
  | exit => exact hclose

/-- Every history accounts for the sockets that are created in it. -/
theorem steps (conf : RunConfig) (h : Ledger s made es t) (steps : List GroupStep) :
    ∃ es', Ledger s (made ++ madeIn conf steps t) es' (after conf steps t) := by
  induction steps generalizing made es t with
  | nil =>
    rw [madeIn, List.append_nil]
    exact ⟨es, h⟩
  | cons step steps ih =>
    obtain ⟨es', hstep⟩ := h.step conf step
    rw [madeIn, ← List.append_assoc]
    exact ih hstep

end Ledger

/-! ## The group owns its sockets -/

/-- Of the sockets that were created for a group, those that it holds are the latest, and closing
was tried on none of them; on each of the others it was tried once. -/
structure Owned (made members : List ProbeSocket) (es : List Event) : Prop where
  fds_nodup : (made.map (·.fd)).Nodup
  members_suffix : members <:+ made
  held_or_released : ∀ m ∈ made,
    (m ∈ members ∧ (closedFds es).count m.fd = 0) ∨ (m ∉ members ∧ (closedFds es).count m.fd = 1)

theorem Ledger.owned {s t : State} {made : List ProbeSocket} {es : List Event}
    (h : Ledger s made es t) : Owned made t.members es := by
  obtain ⟨released, hmade, hreleased⟩ := h.released
  refine ⟨h.fds_nodup, ⟨released, hmade.symm⟩, fun m hm => ?_⟩
  have hheld (hmem : m ∈ t.members) : (closedFds es).count m.fd = 0 :=
    List.count_eq_zero.2 (h.held m hmem)
  rw [hmade] at hm
  rcases List.mem_append.1 hm with hm | hm
  · right
    refine ⟨fun hmem => ?_, hreleased m hm⟩
    have hone := hreleased m hm
    rw [hheld hmem] at hone
    cases hone
  · exact .inl ⟨hm, hheld hm⟩

/-- How a group of a size behaves in a state: what becomes of its sockets when it is opened, entered
and closed. -/
structure Managed (conf : RunConfig) (size : Int) (t : State) : Prop where
  /-- Closing never fails, and tries each socket once whichever of the others cannot be closed. -/
  closes : ∃ u es, closeGroup t = .ok () u ∧ t.Emits es u ∧ u.members = [] ∧
    ClosesAll (t.members.map (·.fd)) es
  /-- Opening keeps the sockets that were created, also if it fails. -/
  opens : Meets (openGroup conf) t
    (fun _ u => u.members = t.members ++ openAll.made conf t ∧
      (t.members = [] → Fills size u.members))
    fun _ u => u.members = t.members ++ openAll.made conf t
  /-- Entering the group leaves it empty if it fails. -/
  enters : Meets (enterGroup conf) t
    (fun _ u => u.members = t.members ++ enter.made conf t ∧
      (t.members = [] → Fills size u.members))
    fun _ u => u.members = []

theorem Ledger.managed {conf : RunConfig} {s t : State} {made : List ProbeSocket} {es : List Event}
    (h : Ledger s made es t) : Managed conf s.group.size t := by
  have hopen := openGroup_grows conf h.tame
  have hfills {u : State} (hu : u.members = t.members ++ openAll.made conf t)
      (hmade : Fills t.group.size (openAll.made conf t)) (hempty : t.members = []) :
      Fills s.group.size u.members := by
    rw [hempty, List.nil_append] at hu
    rw [hu, ← h.size_eq]
    exact hmade
  refine ⟨?_, ?_, ?_⟩
  · have hclose := closeGroup_closable h.closable
    unfold Meets at hclose
    split at hclose
    · next u hu =>
      obtain ⟨hempty, -, es', hes', hcloses⟩ := hclose
      exact ⟨u, es', hu, hes', hempty, hcloses⟩
    · exact hclose.elim
  · apply hopen.mono
    · exact fun _ u hu => ⟨hu.1.members_eq, hfills hu.1.members_eq hu.2⟩
    · exact fun _ u hu => hu.members_eq
  · rw [enterGroup, meets_undoing]
    apply hopen.mono
    · exact fun _ u hu => ⟨hu.1.members_eq, hfills hu.1.members_eq hu.2⟩
    · intro f u hu
      rw [if_pos rfl]
      obtain ⟨es', hledger⟩ := h.grow hu
      exact hledger.closeGroup_ledger.mono (fun _ _ hv => hv.1) fun _ _ hf => hf.elim

/-- Where closing an RDS socket fails only with faults of the system, every history of a group
leaves each of its sockets either in the group, where closing was not tried on it, or out of the
group, where it was tried once. -/
theorem Group.owns (conf : RunConfig) (size : Int) (start : State) (steps : List GroupStep)
    (htame : ∀ x ∈ start.world.rds, x.ClosesTamely) :
    let s : State := { start with group := { size } }
    let t := after conf steps s
    (∃ es, s.Emits es t ∧ Owned (madeIn conf steps s) t.members es) ∧ Managed conf size t := by
  intro s t
  have hstart : Ledger s [] [] s := .start rfl htame
  obtain ⟨es, hledger⟩ := hstart.steps conf steps
  rw [List.nil_append] at hledger
  exact ⟨⟨es, hledger.emits, hledger.owned⟩, hledger.managed⟩

/-- A group of two sockets, the second of which cannot be closed. It is opened twice, the second
time until an interrupt, and closed twice. -/
theorem Group.owns_interrupted :
    let conf : RunConfig := { destination := { address := .v4 ⟨192, 0, 2, 7⟩ } }
    let world : World :=
      { rds := [{}, { close := some (.system (some 5)) }, {}, { bind := some .interrupt }] }
    let s : State := { world, group := { size := 2 } }
    let steps := [openAll, enter, closeAll, exit]
    let t := after conf steps s
    (∀ x ∈ world.rds, x.ClosesTamely) ∧
      (∃ es, s.Emits es t ∧ Owned (madeIn conf steps s) t.members es) ∧ Managed conf 2 t := by
  intro conf world s steps t
  have htame : ∀ x ∈ world.rds, x.ClosesTamely := by
    simp [world, SocketScript.ClosesTamely, Fault.isSystem]
  exact ⟨htame, owns conf 2 { world } steps htame⟩

end RdsReach
