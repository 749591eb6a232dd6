import RdsReach.Proofs.Spinning

/-!
# The events of sending

`Serves conf spinner replies ms es o ms'` tells how the sockets `ms` are served: which events that
leaves behind, with which outcome it ends, and what became of the sockets. A socket is served
completely before the next one is, and the run ends at the first packet that does not go out.
`sendAll_spec` says that this is what a run does.
-/

namespace RdsReach

/-- The events of `k` packets that go out on a descriptor. -/
def packets (conf : RunConfig) (fd k : Nat) : List Event :=
  List.replicate k (.call fd (.send conf.destination.sockAddr) none)

theorem packets_add (conf : RunConfig) (fd k l : Nat) :
    packets conf fd (k + l) = packets conf fd k ++ packets conf fd l := List.replicate_add ..

/-- The event of a packet that does not go out. -/
def refusal (conf : RunConfig) (fd : Nat) (g : Fault) : Event :=
  .call fd (.send conf.destination.sockAddr) (some g)

/-- The socket `m'` is the socket `m` after `k` more packets. -/
structure ProbeSocket.Sent (m : ProbeSocket) (k : Nat) (m' : ProbeSocket) : Prop where
  fd_eq : m'.fd = m.fd
  slot_eq : m'.slot = m.slot
  sent_eq : m'.sent = m.sent + k

theorem ProbeSocket.Sent.trans {m m' m'' : ProbeSocket} {k l : Nat} (h : m.Sent k m')
    (h' : m'.Sent l m'') : m.Sent (k + l) m'' where
  fd_eq := by rw [h'.fd_eq, h.fd_eq]
  slot_eq := by rw [h'.slot_eq, h.slot_eq]
  sent_eq := by rw [h'.sent_eq, h.sent_eq, Nat.add_assoc]

/-- What becomes of the spin of a socket once its packets went out. -/
inductive Spun (fd : Nat) : Option Int → List Event → Option Spin → Option Spin → Prop where
  | off (o : Option Spin) : Spun fd none [] o o
  | on {ceiling : Int} {qs : List Event} {r : Spin} (o : Option Spin) (hqueries : Queries fd qs)
      (hne : qs ≠ []) (hle : qs.length ≤ Probe.queryLimit ceiling) (hwithin : r.Within qs.length) :
      Spun fd (some ceiling) qs o (some r)

theorem Spun.queries {fd : Nat} {spinner : Option Int} {qs : List Event} {o o' : Option Spin}
    (h : Spun fd spinner qs o o') : Queries fd qs := by
  cases h with
  | off => simp [Queries]
  | on o hqueries hne hle hwithin => exact hqueries

/-- What ends a run at the fault of a packet after `k` others: a failed send, which is part of the
result, or a failure that has no place there. -/
def sendOutcome (m : ProbeSocket) (k : Nat) (g : Fault) : Except Failure (Option SendFailure) :=
  match Probe.told Fault.isSystemOrIllTyped
    (fun f => .send ⟨m.slot, (m.sent + k : Nat), f.errno⟩) g with
  | .send failure => .ok (some failure)
  | f => .error f

theorem sendOutcome_eq (m : ProbeSocket) (k : Nat) (g : Fault) :
    sendOutcome m k g =
      if g.isReportable Fault.isSystemOrIllTyped then
        if Decimal.isPrintable m.slot && Decimal.isPrintable (m.sent + k : Nat) then
          .ok (some ⟨m.slot, (m.sent + k : Nat), g.errno⟩)
        else .error .overlong
      else if g.isSystemOrIllTyped then .error (.fault .outOfRange) else .error (.fault g) := by
  unfold sendOutcome Probe.told Fault.isReportable Failure.settled
  generalize ((m.sent + k : Nat) : Int) = sent
  cases g.isSystemOrIllTyped with
  | false => rfl
  | true =>
    cases herrno : Errno.inRange g.errno with
    | false => simp [Failure.reportedErrno, herrno]
    | true =>
      cases hslot : Decimal.isPrintable m.slot <;> cases hsent : Decimal.isPrintable sent <;>
        simp [Failure.reportedErrno, Failure.numbers, herrno, hslot, hsent]

theorem sendOutcome_ok {m : ProbeSocket} {k : Nat} {g : Fault} {o : Option SendFailure}
    (h : sendOutcome m k g = .ok o) : o = some ⟨m.slot, (m.sent + k : Nat), g.errno⟩ := by
  rw [sendOutcome_eq] at h
  split_ifs at h
  exact (Except.ok.inj h).symm

/-- The fault of a packet is told, unless a number in what is told is too long to print. -/
theorem sendOutcome_error {m : ProbeSocket} {k : Nat} {g : Fault} {f : Failure}
    (hg : g.isReportable Fault.isSystemOrIllTyped = true) (h : sendOutcome m k g = .error f) :
    f = .overlong ∧ (Decimal.isPrintable m.slot = false ∨ Decimal.limit ≤ m.sent + k) := by
  rw [sendOutcome_eq, if_pos hg] at h
  split_ifs at h with hprint
  refine ⟨(Except.error.inj h).symm, ?_⟩
  by_contra! hall
  refine hprint (Bool.and_eq_true_iff.2 ⟨by simpa using hall.1, ?_⟩)
  rw [Decimal.isPrintable_iff, Int.natAbs_natCast]
  omega

/-- Why spinning on a socket that was served can fail: a question was not answered, or a number in
what is said about it is too long to print. -/
def SpinFails (replies : List QueueReply) (slot : Int) (qs : List Event) (f : Failure) : Prop :=
  Unanswered replies qs ∨
    f = .overlong ∧ (Decimal.limit ≤ qs.length ∨ Decimal.isPrintable slot = false)

/-- How the sockets of a group are served. -/
inductive Serves (conf : RunConfig) (spinner : Option Int) (replies : List QueueReply) :
    List ProbeSocket → List Event → Except Failure (Option SendFailure) → List ProbeSocket → Prop
  where
  | done : Serves conf spinner replies [] [] (.ok none) []
  /-- A packet does not go out. -/
  | cut {m m' : ProbeSocket} {k : Nat} (g : Fault) (ms : List ProbeSocket)
      (hk : k < conf.perSocketCount.toNat) (hsent : m.Sent k m') (hspin : m'.spin = m.spin) :
      Serves conf spinner replies (m :: ms) (packets conf m.fd k ++ [refusal conf m.fd g])
        (sendOutcome m k g) (m' :: ms)
  /-- All packets go out, but spinning fails. -/
  | broken {m m' : ProbeSocket} {qs : List Event} {ceiling : Int} {f : Failure}
      (ms : List ProbeSocket) (hspinner : spinner = some ceiling)
      (hsent : m.Sent conf.perSocketCount.toNat m') (hqueries : Queries m.fd qs) (hne : qs ≠ [])
      (hle : qs.length ≤ Probe.queryLimit ceiling) (hwhy : SpinFails replies m.slot qs f) :
      Serves conf spinner replies (m :: ms) (packets conf m.fd conf.perSocketCount.toNat ++ qs)
        (.error f) (m' :: ms)
  /-- All packets go out, spinning ends well if it is wanted, and the next socket is served. -/
  | next {m m' : ProbeSocket} {ms ms' : List ProbeSocket} {qs es : List Event}
      {o : Except Failure (Option SendFailure)} (hsent : m.Sent conf.perSocketCount.toNat m')
      (hspun : Spun m.fd spinner qs m.spin m'.spin)
      (hrest : Serves conf spinner replies ms es o ms') :
      Serves conf spinner replies (m :: ms)
        (packets conf m.fd conf.perSocketCount.toNat ++ qs ++ es) o (m' :: ms')

namespace Serves

variable {conf : RunConfig} {spinner : Option Int} {replies replies' : List QueueReply}
  {ms ms' : List ProbeSocket} {es : List Event} {o : Except Failure (Option SendFailure)}

theorem mono (hsub : replies ⊆ replies') (h : Serves conf spinner replies ms es o ms') :
    Serves conf spinner replies' ms es o ms' := by
  induction h with
  | done => exact .done
  | cut g ms hk hsent hspin => exact .cut g ms hk hsent hspin
  | broken ms hspinner hsent hqueries hne hle hwhy =>
    exact .broken ms hspinner hsent hqueries hne hle (hwhy.imp (·.mono hsub) id)
  | next hsent hspun _ ih => exact .next hsent hspun ih

/-- The sockets keep their descriptors. -/
theorem fds_eq (h : Serves conf spinner replies ms es o ms') :
    ms'.map (·.fd) = ms.map (·.fd) := by
  induction h with
  | done => rfl
  | cut g ms hk hsent hspin => rw [List.map_cons, hsent.fd_eq, List.map_cons]
  | broken ms hspinner hsent hqueries hne hle hwhy =>
    rw [List.map_cons, hsent.fd_eq, List.map_cons]
  | next hsent hspun _ ih => rw [List.map_cons, hsent.fd_eq, ih, List.map_cons]

/-- The sockets keep their slots. -/
theorem slots_eq {o : Except Failure (Option SendFailure)}
    (h : Serves conf spinner replies ms es o ms') : ms'.map (·.slot) = ms.map (·.slot) := by
  induction h with
  | done => rfl
  | cut g ms hk hsent hspin => rw [List.map_cons, hsent.slot_eq, List.map_cons]
  | broken ms hspinner hsent hqueries hne hle hwhy =>
    rw [List.map_cons, hsent.slot_eq, List.map_cons]
  | next hsent hspun _ ih => rw [List.map_cons, hsent.slot_eq, ih, List.map_cons]

/-- Nothing but packets and questions about the sockets that are served happens. -/
theorem on_member {o : Except Failure (Option SendFailure)}
    (h : Serves conf spinner replies ms es o ms') :
    ∀ e ∈ es, ∃ m ∈ ms, ∃ c f, e = .call m.fd c f ∧ (c.isSend ∨ c.isQuery) := by
  have hpackets (m : ProbeSocket) (k : Nat) :
      ∀ e ∈ packets conf m.fd k, ∃ c f, e = .call m.fd c f ∧ (c.isSend ∨ c.isQuery) :=
    fun e he => ⟨_, _, List.eq_of_mem_replicate he, .inl rfl⟩
  have hquery {m : ProbeSocket} {qs : List Event} (hqs : Queries m.fd qs) :
      ∀ e ∈ qs, ∃ c f, e = .call m.fd c f ∧ (c.isSend ∨ c.isQuery) := by
    intro e he
    obtain ⟨o, rfl⟩ := hqs e he
    exact ⟨_, _, rfl, .inr rfl⟩
  induction h with
  | done => simp
  | @cut m m' k g ms hk hsent hspin =>
    intro e he
    refine ⟨m, List.mem_cons_self, ?_⟩
    rcases List.mem_append.1 he with he | he
    · exact hpackets m k e he
    · exact ⟨_, _, List.mem_singleton.1 he, .inl rfl⟩
  | @broken m m' qs ceiling f ms hspinner hsent hqueries hne hle hwhy =>
    intro e he
    refine ⟨m, List.mem_cons_self, ?_⟩
    rcases List.mem_append.1 he with he | he
    · exact hpackets m _ e he
    · exact hquery hqueries e he
  | @next m m' ms ms' qs es o hsent hspun _ ih =>
    intro e he
    rcases List.mem_append.1 he with he | he
    · refine ⟨m, List.mem_cons_self, ?_⟩
      rcases List.mem_append.1 he with he | he
      · exact hpackets m _ e he
      · exact hquery hspun.queries e he
    · obtain ⟨m₁, hm₁, hcall⟩ := ih e he
      exact ⟨m₁, List.mem_cons_of_mem _ hm₁, hcall⟩

/-- Nothing happens on other descriptors. -/
theorem eventsAt_eq_nil (h : Serves conf spinner replies ms es o ms') {fd : Nat}
    (hfd : fd ∉ ms.map (·.fd)) : eventsAt fd es = [] := by
  refine RdsReach.eventsAt_eq_nil fun e he heq => ?_
  obtain ⟨m, hm, c, f, rfl, -⟩ := h.on_member e he
  exact hfd (Option.some.inj heq ▸ List.mem_map_of_mem hm)

end Serves

/-- The members `ms` of a group, which stand behind `pre`, are served on the way from `s` to `t`. -/
def State.Serving (s : State) (conf : RunConfig) (spinner : Option Int) (pre ms : List ProbeSocket)
    (o : Except Failure (Option SendFailure)) (t : State) : Prop :=
  ∃ es ms', s.Emits es t ∧ t.members = pre ++ ms' ∧ Serves conf spinner s.world.queue ms es o ms'

/-- A member all packets of which went out, and which was spun on if that is wanted, is followed by
the members behind it. -/
theorem State.Serving.next {s t u v : State} {conf : RunConfig} {spinner : Option Int}
    {pre ms : List ProbeSocket} {m m' : ProbeSocket} {qs : List Event}
    {o : Except Failure (Option SendFailure)}
    (ht : s.Emits (packets conf m.fd conf.perSocketCount.toNat) t) (hu : t.Emits qs u)
    (hsent : m.Sent conf.perSocketCount.toNat m') (hspun : Spun m.fd spinner qs m.spin m'.spin)
    (hqueue : u.world.queue ⊆ s.world.queue) (h : u.Serving conf spinner (pre ++ [m']) ms o v) :
    s.Serving conf spinner pre (m :: ms) o v := by
  obtain ⟨es, ms', hes, hms', hserves⟩ := h
  refine ⟨_, m' :: ms', (ht.trans hu).trans hes, by rw [hms', ← List.append_cons], ?_⟩
  exact .next hsent hspun (hserves.mono hqueue)

namespace Probe

open State (Emits)

variable {conf : RunConfig} {s : State} {pre ms : List ProbeSocket} {m : ProbeSocket}

/-! ## One socket -/

theorem member_at (h : s.members = pre ++ m :: ms) : s.group.sockets[pre.length]? = some m := by
  rw [← Array.getElem?_toList]
  change s.members[pre.length]? = some m
  simp [h]

theorem modify_length (pre ms : List ProbeSocket) (m : ProbeSocket)
    (change : ProbeSocket → ProbeSocket) :
    (pre ++ m :: ms).modify pre.length change = pre ++ change m :: ms := by
  induction pre with
  | nil => rfl
  | cons m' pre ih => simpa using ih

/-- Changing a member of the group changes nothing else. -/
theorem modifyMember_spec (h : s.members = pre ++ m :: ms) (change : ProbeSocket → ProbeSocket) :
    Meets (modifyMember pre.length change) s
      (fun _ t => s.Emits [] t ∧ t.members = pre ++ change m :: ms) fun _ _ => False := by
  rw [modifyMember, meets_modify]
  refine ⟨.of_eq rfl (by simp), ?_⟩
  change (s.group.sockets.modify pre.length change).toList = _
  rw [Array.toList_modify, ← modify_length, ← h, State.members]

theorem readSendClock_spec (s : State) :
    Meets readSendClock s (fun _ t => s.Emits [] t ∧ t.members = s.members) fun _ _ => False := by
  simp only [readSendClock, meets_bind, meets_get, meets_modify, meets_pure]
  exact ⟨.of_eq rfl rfl, rfl⟩

/-- A packet goes out, and the socket counts it, or it does not. -/
theorem sendOnce_spec (h : s.members = pre ++ m :: ms) :
    Meets (sendOnce conf pre.length m) s
      (fun _ t => s.Emits (packets conf m.fd 1) t ∧ ∃ m', m.Sent 1 m' ∧ m'.spin = m.spin ∧
        t.members = pre ++ m' :: ms)
      fun f t => ∃ g,
        f = told Fault.isSystemOrIllTyped (fun f => .send ⟨m.slot, m.sent, f.errno⟩) g ∧
          s.Emits [refusal conf m.fd g] t ∧ t.members = s.members := by
  rw [sendOnce, meets_bind]
  refine ((send_makes m.fd conf.destination.sockAddr).onFault _ _ s).mono ?_ ?_
  · rintro _ t ht
    have hmembers : t.members = pre ++ m :: ms := ht.members_eq.trans h
    refine (modifyMember_spec hmembers _).bind_of_total fun _ u hu => ?_
    refine (readSendClock_spec u).bind_of_total fun time v hv => ?_
    refine (modifyMember_spec (hv.2.trans hu.2) _).mono ?_ fun _ _ hf => hf.elim
    rintro _ w ⟨hw, hw'⟩
    refine ⟨((ht.toEmits.then_nil hu.1).then_nil hv.1).then_nil hw, _, ?_, ?_, hw'⟩
    · exact ⟨rfl, rfl, rfl⟩
    · rfl
  · rintro f t ⟨g, hf, ht⟩
    exact ⟨g, hf, ht.toEmits, ht.members_eq⟩

/-- All packets of a socket go out, or all before one that does not. -/
theorem sendPackets_spec (n : Nat) (h : s.members = pre ++ m :: ms) :
    Meets (sendPackets conf pre.length n) s
      (fun _ t => s.Emits (packets conf m.fd n) t ∧ ∃ m', m.Sent n m' ∧ m'.spin = m.spin ∧
        t.members = pre ++ m' :: ms)
      fun f t => ∃ k g m', k < n ∧
        f = told Fault.isSystemOrIllTyped (fun f => .send ⟨m.slot, (m.sent + k : Nat), f.errno⟩) g ∧
          s.Emits (packets conf m.fd k ++ [refusal conf m.fd g]) t ∧ m.Sent k m' ∧
            m'.spin = m.spin ∧ t.members = pre ++ m' :: ms := by
  -- on the packets to come; `m` is the socket as it stands before them
  induction n generalizing s m with
  | zero => exact ⟨.refl s, m, ⟨rfl, rfl, rfl⟩, rfl, h⟩
  | succ n ih =>
    rw [sendPackets, meets_bind, meets_get, member_at h]
    dsimp only
    refine meets_bind.2 ((sendOnce_spec h).mono ?_ ?_)
    · rintro _ t ⟨ht, m₁, hsent, hspin, hmembers⟩
      refine (ih hmembers).mono ?_ ?_
      · rintro _ u ⟨hu, m', hsent', hspin', hmembers'⟩
        rw [hsent.fd_eq] at hu
        rw [Nat.add_comm n 1]
        refine ⟨?_, m', hsent.trans hsent', hspin'.trans hspin, hmembers'⟩
        rw [packets_add]
        exact ht.trans hu
      · rintro f u ⟨k, g, m', hk, hf, hu, hsent', hspin', hmembers'⟩
        rw [hsent.fd_eq] at hu
        rw [hsent.slot_eq, hsent.sent_eq, Nat.add_assoc] at hf
        refine ⟨1 + k, g, m', by omega, hf, ?_, hsent.trans hsent', hspin'.trans hspin, hmembers'⟩
        rw [packets_add, List.append_assoc]
        exact ht.trans hu
    · rintro f t ⟨g, hf, ht, hmembers⟩
      exact ⟨0, g, m, by omega, hf, ht, ⟨rfl, rfl, rfl⟩, rfl, hmembers.trans h⟩

/-- The packets of a socket all go out, or the run ends at the one that does not. -/
theorem servePackets_spec (conf : RunConfig) (spinner : Option Int)
    (h : s.members = pre ++ m :: ms) :
    Meets (servePackets conf pre.length) s
      (fun r t =>
        (r = none ∧ s.Emits (packets conf m.fd conf.perSocketCount.toNat) t ∧
          ∃ m', m.Sent conf.perSocketCount.toNat m' ∧ m'.spin = m.spin ∧
            t.members = pre ++ m' :: ms) ∨
        (r.isSome ∧ s.Serving conf spinner pre (m :: ms) (.ok r) t))
      fun f t => s.Serving conf spinner pre (m :: ms) (.error f) t := by
  rw [servePackets, meets_tryCatch, meets_bind]
  refine (sendPackets_spec conf.perSocketCount.toNat h).mono ?_ ?_
  · rintro _ t ht
    exact .inl ⟨rfl, ht⟩
  · rintro f t ⟨k, g, m', hk, hf, ht, hsent, hspin, hmembers⟩
    have hcut : s.Serving conf spinner pre (m :: ms) (sendOutcome m k g) t :=
      ⟨_, _, ht, hmembers, .cut g ms hk hsent hspin⟩
    -- a failed send is part of the result, any other failure ends the run without one
    rw [sendOutcome, ← hf] at hcut
    cases f with
    | send failure =>
      obtain ⟨es, ms', hes, hms', hserves⟩ := hcut
      exact .inr ⟨rfl, es, ms', hes.then_nil (.of_eq rfl rfl), hms', hserves⟩
    | _ => exact hcut

/-- Spinning on a socket that was served keeps the outcome, or fails for a reason. -/
theorem spinMember_spec (ceiling : Int) (h : s.members = pre ++ m :: ms) :
    Meets (spinMember ceiling pre.length) s
      (fun _ t => ∃ qs m', s.Emits qs t ∧ Spun m.fd (some ceiling) qs m.spin m'.spin ∧ m.Sent 0 m' ∧
        t.members = pre ++ m' :: ms)
      fun f t => ∃ qs m', s.Emits qs t ∧ Queries m.fd qs ∧ qs ≠ [] ∧
        qs.length ≤ queryLimit ceiling ∧ SpinFails s.world.queue m.slot qs f ∧ m.Sent 0 m' ∧
          t.members = pre ++ m' :: ms := by
  rw [spinMember, meets_bind, meets_get, member_at h]
  dsimp only
  refine meets_bind.2 ((spin_spec ceiling m.fd s).mono ?_ ?_)
  · rintro r t ⟨qs, ht, hqueries, hne, hle, hwithin⟩
    refine (modifyMember_spec (ht.members_eq.trans h) _).bind_of_total fun _ u hu => ?_
    obtain ⟨hu, hmembers⟩ := hu
    have hemits : s.Emits qs u := ht.toEmits.then_nil hu
    have hsent : m.Sent 0 { m with spin := some r } := ⟨rfl, rfl, rfl⟩
    -- the outcome is kept before anything is said about it, which is all that can still fail
    have hbad (hlong : Decimal.limit ≤ qs.length ∨ Decimal.isPrintable m.slot = false) :
        ∃ qs' m', s.Emits qs' u ∧ Queries m.fd qs' ∧ qs' ≠ [] ∧
          qs'.length ≤ queryLimit ceiling ∧ SpinFails s.world.queue m.slot qs' .overlong ∧
            m.Sent 0 m' ∧ u.members = pre ++ m' :: ms :=
      ⟨qs, _, hemits, hqueries, hne, hle, .inr ⟨rfl, hlong⟩, hsent, hmembers⟩
    rw [meets_bind, meets_number]
    split
    · rw [meets_bind, meets_number]
      split
      · exact ⟨qs, _, hemits.then_nil (.of_eq rfl rfl), .on m.spin hqueries hne hle hwithin, hsent,
          hmembers⟩
      · next hslot => exact hbad (.inr (by simpa using hslot))
    · next hcount =>
      refine hbad (.inl ?_)
      by_contra hlt
      exact hcount (hwithin.printable (by omega))
  · rintro f t ⟨qs, ht, hqueries, hne, hle, hwhy⟩
    exact ⟨qs, m, ht.toEmits, hqueries, hne, hle, .inl hwhy, ⟨rfl, rfl, rfl⟩, ht.members_eq.trans h⟩

/-! ## All sockets -/

theorem servePlaces_spec (spinner : Option Int) (pre : List ProbeSocket)
    (h : s.members = pre ++ ms) :
    Meets (servePlaces conf spinner ms.length pre.length) s
      (fun r t => s.Serving conf spinner pre ms (.ok r) t)
      fun f t => s.Serving conf spinner pre ms (.error f) t := by
  -- on the sockets to come; those in `pre` were served, and keep what they counted
  induction ms generalizing s pre with
  | nil => exact ⟨[], [], .refl s, h, .done⟩
  | cons m ms ih =>
    rw [List.length_cons, servePlaces]
    have hserve := (servePackets_spec conf spinner h).and (servePackets_faithful conf _ s)
    refine meets_bind.2 (hserve.mono ?_ fun _ _ hf => hf.1)
    rintro r t ⟨⟨rfl, ht, m₁, hsent, hspin, hmembers⟩ | ⟨hr, hserving⟩, hpass⟩
    · dsimp only
      -- with or without a spin, the rest of the group is served from the state `u` after it
      have hnext {u : State} {qs : List Event} {m' : ProbeSocket} (hu : t.Emits qs u)
          (hsent' : m₁.Sent 0 m') (hspun : Spun m.fd spinner qs m.spin m'.spin)
          (hqueue : u.world.queue ⊆ s.world.queue) (hmembers' : u.members = pre ++ m' :: ms) :
          Meets (servePlaces conf spinner ms.length (pre.length + 1)) u
            (fun r v => s.Serving conf spinner pre (m :: ms) (.ok r) v)
            fun f v => s.Serving conf spinner pre (m :: ms) (.error f) v := by
        have hsplit : u.members = (pre ++ [m']) ++ ms := by rw [hmembers', List.append_cons]
        have hrest := ih _ hsplit
        rw [List.length_append, List.length_singleton] at hrest
        have hgrow {o : Except Failure (Option SendFailure)} {v : State} :
            u.Serving conf spinner (pre ++ [m']) ms o v →
              s.Serving conf spinner pre (m :: ms) o v :=
          State.Serving.next ht hu (hsent.trans hsent') hspun hqueue
        exact hrest.mono (fun _ _ => hgrow) fun _ _ => hgrow
      cases spinner with
      | none =>
        refine hnext (.refl t) ⟨rfl, rfl, rfl⟩ ?_ hpass.queue_subset hmembers
        rw [hspin]
        exact .off _
      | some ceiling =>
        have hspinning := (spinMember_spec ceiling hmembers).and (spinMember_faithful ceiling _ t)
        refine meets_bind.2 (hspinning.mono ?_ ?_)
        · rintro _ u ⟨⟨qs, m', hu, hspun, hsent', hmembers'⟩, hpass'⟩
          rw [hsent.fd_eq, hspin] at hspun
          have hqueue := List.Subset.trans hpass'.queue_subset hpass.queue_subset
          exact hnext hu hsent' hspun hqueue hmembers'
        · rintro f u ⟨⟨qs, m', hu, hqueries, hne, hle, hwhy, hsent', hmembers'⟩, -⟩
          rw [hsent.fd_eq] at hqueries
          rw [hsent.slot_eq] at hwhy
          refine ⟨_, _, ht.trans hu, hmembers', ?_⟩
          exact .broken ms rfl (hsent.trans hsent') hqueries hne hle
            (hwhy.imp (·.mono hpass.queue_subset) id)
    · obtain ⟨failure, rfl⟩ := Option.isSome_iff_exists.1 hr
      exact hserving

/-- A run serves its group, and its result says with which outcome and what became of the
sockets. -/
theorem sendAll_spec (conf : RunConfig) (spinner : Option Int) (s : State) :
    Meets (sendAll conf spinner) s
      (fun r t => r.perSocketCount = conf.perSocketCount ∧ r.samples = t.members.map sampleOf ∧
        s.Serving conf spinner [] s.members (.ok r.failure) t)
      fun f t => s.Serving conf spinner [] s.members (.error f) t := by
  rw [sendAll, meets_bind, meets_get, meets_bind]
  have hsize : s.group.sockets.size = s.members.length := (Array.length_toList ..).symm
  rw [hsize]
  refine (servePlaces_spec spinner [] rfl).mono ?_ fun _ _ hf => hf
  intro failure t ht
  rw [meets_bind, meets_get, meets_pure]
  exact ⟨rfl, by rw [Array.toList_map, State.members], ht⟩

end Probe

end RdsReach
