import RdsReach.Proofs.Sending

/-!
# Accounting of a run

The result of a run is computed from counters on the sockets after the last packet. Here it is
compared with the packets themselves: `RunResult.Accounts` says that a result agrees with the
events of its run, and `Probe.sendAll_accounts` that the result of every run on a just opened group
does.
-/

namespace RdsReach

/-! ## Events of packets -/

/-- No packet failed. -/
def Unrefused (es : List Event) : Prop := ∀ e ∈ es, e.isSend = true → e.fault? = none

theorem Unrefused.append {es es' : List Event} (h : Unrefused es) (h' : Unrefused es') :
    Unrefused (es ++ es') := List.forall_mem_append.2 ⟨h, h'⟩

theorem unrefused_packets (conf : RunConfig) (fd k : Nat) : Unrefused (packets conf fd k) := by
  intro e he _
  rw [List.eq_of_mem_replicate he]
  rfl

theorem Queries.unrefused {fd : Nat} {qs : List Event} (h : Queries fd qs) : Unrefused qs := by
  intro e he hsend
  obtain ⟨o, rfl⟩ := h e he
  cases hsend

theorem countP_isSent_packets (conf : RunConfig) (fd k : Nat) :
    (packets conf fd k).countP Event.isSent = k := by
  simp [packets, List.countP_replicate, Event.isSent, Event.isSend, Call.isSend, Event.fault?]

theorem Queries.countP_isSent {fd : Nat} {qs : List Event} (h : Queries fd qs) :
    qs.countP Event.isSent = 0 := by
  rw [List.countP_eq_zero]
  intro e he
  obtain ⟨o, rfl⟩ := h e he
  simp [Event.isSent, Event.isSend, Call.isSend]

theorem Spun.isSome_eq {fd : Nat} {spinner : Option Int} {qs : List Event} {o : Option Spin}
    (h : Spun fd spinner qs none o) : o.isSome = spinner.isSome := by
  cases h <;> rfl

/-! ## Ways to serve a group -/

/-- Nothing was sent on the sockets so far. -/
def Unused (ms : List ProbeSocket) : Prop := ∀ m ∈ ms, m.sent = 0 ∧ m.spin = none

/-- The sockets of a group that was just opened: they have descriptors of their own, fill the slots
from 0 on and were not used so far. -/
structure JustOpened (ms : List ProbeSocket) : Prop where
  fds_nodup : (ms.map (·.fd)).Nodup
  slots_eq : ms.map (·.slot) = (List.range ms.length).map fun i : Nat => (i : Int)
  unused : Unused ms

theorem JustOpened.slot_eq {ms : List ProbeSocket} (h : JustOpened ms) {i : Nat} {m : ProbeSocket}
    (hm : ms[i]? = some m) : m.slot = i := by
  have hi : i < ms.length := (List.getElem?_eq_some_iff.1 hm).1
  have hslot : (ms.map (·.slot))[i]? = some m.slot := by rw [List.getElem?_map, hm, Option.map_some]
  rw [h.slots_eq, List.getElem?_map, List.getElem?_range hi] at hslot
  exact (Option.some.inj hslot).symm

/-- A slot without a text lies beyond all numbers that have one, and so does the group. -/
theorem JustOpened.limit_le_of_slot {ms : List ProbeSocket} (h : JustOpened ms) {m : ProbeSocket}
    (hm : m ∈ ms) (hslot : Decimal.isPrintable m.slot = false) : Decimal.limit ≤ ms.length := by
  obtain ⟨i, hi⟩ := List.mem_iff_getElem?.1 hm
  have hlength : i < ms.length := (List.getElem?_eq_some_iff.1 hi).1
  rw [h.slot_eq hi] at hslot
  by_contra hlt
  have hprint : Decimal.isPrintable (i : Int) = true :=
    Decimal.isPrintable_iff.2 (by rw [Int.natAbs_natCast]; omega)
  rw [hprint] at hslot
  cases hslot

/-- The most calls that a run makes on one socket: its packets, and the questions of its spin. -/
def RunConfig.callLimit (conf : RunConfig) (spinner : Option Int) : Nat :=
  conf.perSocketCount.toNat + (spinner.map Probe.queryLimit).getD 0

/-- All numbers that a run on `n` sockets can come to have texts. -/
structure RunConfig.Tellable (conf : RunConfig) (spinner : Option Int) (n : Nat) : Prop where
  sockets : n < Decimal.limit
  calls : conf.callLimit spinner < Decimal.limit

namespace Serves

variable {conf : RunConfig} {spinner : Option Int} {replies : List QueueReply}
  {ms ms' : List ProbeSocket} {es : List Event}

/-- A run without a failure sends everything on every socket. -/
theorem complete (h : Serves conf spinner replies ms es (.ok none) ms') (hunused : Unused ms) :
    Unrefused es ∧ es.countP Event.isSent = ms.length * conf.perSocketCount.toNat ∧
      ms'.map (·.sent) = List.replicate ms.length conf.perSocketCount.toNat ∧
        ∀ m ∈ ms', m.spin.isSome = spinner.isSome := by
  -- on the sockets that were served; each adds its packets, its questions count nothing
  generalize ho : Except.ok none = o at h
  induction h with
  | done => simp [Unrefused]
  | cut g ms hk hsent hspin => cases sendOutcome_ok ho.symm
  | broken ms hspinner hsent hqueries hne hle hwhy => cases ho
  | @next m m' ms ms' qs es o hsent hspun _ ih =>
    obtain ⟨hsent₀, hspin₀⟩ := hunused m List.mem_cons_self
    obtain ⟨hrefused, hcount, hsents, hspins⟩ :=
      ih (fun m₁ hm₁ => hunused m₁ (List.mem_cons_of_mem _ hm₁)) ho
    have hqueries := hspun.queries
    rw [hspin₀] at hspun
    refine ⟨((unrefused_packets _ _ _).append hqueries.unrefused).append hrefused, ?_, ?_, ?_⟩
    · rw [List.countP_append, List.countP_append, countP_isSent_packets, hqueries.countP_isSent,
        hcount, List.length_cons, Nat.add_mul]
      omega
    · rw [List.map_cons, hsent.sent_eq, hsent₀, hsents, List.length_cons, List.replicate_succ,
        Nat.zero_add]
    · intro m₁ hm₁
      rcases List.mem_cons.1 hm₁ with rfl | hm₁
      · exact hspun.isSome_eq
      · exact hspins m₁ hm₁

/-- A run that ends at a packet that does not go out has served the sockets before completely, and
the sockets after it not at all. -/
theorem split_at_failure {failure : SendFailure}
    (h : Serves conf spinner replies ms es (.ok (some failure)) ms') :
    ∃ done done' m m' rest before k g, ms = done ++ m :: rest ∧ ms' = done' ++ m' :: rest ∧
      es = before ++ packets conf m.fd k ++ [refusal conf m.fd g] ∧
        Serves conf spinner replies done before (.ok none) done' ∧
          k < conf.perSocketCount.toNat ∧ m.Sent k m' ∧ m'.spin = m.spin ∧
            failure = ⟨m.slot, (m.sent + k : Nat), g.errno⟩ := by
  -- the socket that was cut stands at the end of the induction, complete ones before it
  generalize ho : Except.ok (some failure) = o at h
  induction h with
  | done => cases ho
  | @cut m m' k g ms hk hsent hspin =>
    exact ⟨[], [], m, m', ms, [], k, g, rfl, rfl, rfl, .done, hk, hsent, hspin,
      Option.some.inj (sendOutcome_ok ho.symm)⟩
  | broken ms hspinner hsent hqueries hne hle hwhy => cases ho
  | next hsent hspun _ ih =>
    obtain ⟨done, done', m, m', rest, before, k, g, rfl, rfl, rfl, hdone, hlast⟩ := ih ho
    refine ⟨_ :: done, _ :: done', m, m', rest, _, k, g, rfl, rfl, ?_, .next hsent hspun hdone,
      hlast⟩
    simp only [List.append_assoc]

/-- Before the packet that ends a run no packet failed, and those on its descriptor are the `k`
packets before it. -/
theorem unrefused_before {m : ProbeSocket} (h : Serves conf spinner replies ms es (.ok none) ms')
    (hunused : Unused ms) (hm : m.fd ∉ ms.map (·.fd)) (k : Nat) :
    Unrefused (es ++ packets conf m.fd k) ∧
      (eventsAt m.fd (es ++ packets conf m.fd k)).countP Event.isSend = k := by
  have hpackets : eventsAt m.fd (packets conf m.fd k) = packets conf m.fd k :=
    eventsAt_eq_self fun e he => by rw [List.eq_of_mem_replicate he, Event.fd?]
  refine ⟨(h.complete hunused).1.append (unrefused_packets _ _ _), ?_⟩
  rw [eventsAt_append, h.eventsAt_eq_nil hm, hpackets, List.nil_append, packets,
    List.countP_replicate]
  exact if_pos rfl

/-- Where sends and questions fail only in ways that are told, a run fails only because a number in
what it says is too long to print. -/
theorem overlong_of_error {f : Failure} (h : Serves conf spinner replies ms es (.error f) ms')
    (hunused : Unused ms)
    (hsends : ∀ fd g, refusal conf fd g ∈ es → g.isReportable Fault.isSystemOrIllTyped = true)
    (hqueries : ∀ fd g, .call fd .queryQueue (some g) ∈ es → g.isReportable Fault.isSystem = true)
    (hreplies : ∀ r ∈ replies, r.isReadable = true) :
    f = .overlong ∧ ((∃ m ∈ ms, Decimal.isPrintable m.slot = false) ∨
      Decimal.limit ≤ es.length ∧ Decimal.limit ≤ conf.callLimit spinner) := by
  generalize ho : Except.error f = o at h
  induction h with
  | done => cases ho
  | @cut m m' k g ms hk hsent hspin =>
    -- the fault is one that is told, so what is said about it is too long
    have hg := hsends m.fd g (List.mem_append_right _ (List.mem_singleton_self _))
    obtain ⟨rfl, hlong⟩ := sendOutcome_error hg ho.symm
    refine ⟨rfl, hlong.imp (fun hslot => ⟨m, List.mem_cons_self, hslot⟩) fun hlimit => ?_⟩
    rw [(hunused m List.mem_cons_self).1, Nat.zero_add] at hlimit
    rw [List.length_append, packets, List.length_replicate, RunConfig.callLimit]
    omega
  | @broken m m' qs ceiling f' ms hspinner hsent hqueries' hne hle hwhy =>
    injection ho with ho
    subst ho hspinner
    -- all questions were answered, so what is said about them is too long
    rcases hwhy with (⟨e, he, g, hg, hunread⟩ | ⟨r, hr, hunread⟩) | ⟨rfl, hlong⟩
    · obtain ⟨o, rfl⟩ := hqueries' e he
      rw [Event.fault?] at hg
      rw [hqueries m.fd g (List.mem_append_right _ (hg ▸ he))] at hunread
      cases hunread
    · rw [hreplies r hr] at hunread
      cases hunread
    · refine ⟨rfl, hlong.symm.imp (fun hslot => ⟨m, List.mem_cons_self, hslot⟩) fun hlimit => ?_⟩
      have hcalls : conf.callLimit (some ceiling) =
          conf.perSocketCount.toNat + Probe.queryLimit ceiling := rfl
      rw [List.length_append, hcalls]
      omega
  | @next m m' ms ms' qs es o hsent hspun _ ih =>
    obtain ⟨hf, hlong⟩ := ih (fun m₁ hm₁ => hunused m₁ (List.mem_cons_of_mem _ hm₁))
      (fun fd g hg => hsends fd g (List.mem_append_right _ hg))
      (fun fd g hg => hqueries fd g (List.mem_append_right _ hg)) ho
    refine ⟨hf, hlong.imp ?_ fun hlimit => ?_⟩
    · rintro ⟨m₁, hm₁, hslot⟩
      exact ⟨m₁, List.mem_cons_of_mem _ hm₁, hslot⟩
    · rw [List.length_append]
      omega

end Serves

/-! ## Results that agree with their runs -/

namespace RunResult

/-- The result of a run that sent everything: no packet failed, each of the `n` sockets sent all its
packets, and no failure is told. -/
structure CompleteAfter (r : RunResult) (conf : RunConfig) (n : Nat) (es : List Event) : Prop where
  unrefused : Unrefused es
  failure_eq : r.failure = none
  sent_eq : ∀ x ∈ r.samples, x.sent = conf.perSocketCount
  length_eq : r.samples.length = n
  completed_eq : r.completedSockets = n

/-- The result of a run in which the packet that follows `k` others on the socket at slot `f` is the
first one that fails, with the fault `g`. -/
structure CutAfter (r : RunResult) (conf : RunConfig) (ms : List ProbeSocket) (es : List Event)
    (f k : Nat) (g : Fault) : Prop where
  first : ∃ m before, ms[f]? = some m ∧ es = before ++ [refusal conf m.fd g] ∧ Unrefused before ∧
    (eventsAt m.fd before).countP Event.isSend = k
  lt : k < conf.perSocketCount
  failure_eq : r.failure = some ⟨f, k, g.errno⟩
  sents_eq : r.samples.map (·.sent) =
    List.replicate f conf.perSocketCount ++ (k : Int) :: List.replicate (ms.length - f - 1) 0
  completed_eq : r.completedSockets = f

/-- The result agrees with the events of its run on the sockets `ms`. -/
structure Accounts (r : RunResult) (conf : RunConfig) (spinner : Option Int)
    (ms : List ProbeSocket) (es : List Event) : Prop where
  slots_eq : r.samples.map (·.slot) = ms.map (·.slot)
  ending : r.CompleteAfter conf ms.length es ∨ ∃ f k g, r.CutAfter conf ms es f k g
  completedPackets_eq : r.completedPackets = r.completedSockets * conf.perSocketCount
  packetsSent_eq_events : r.packetsSent = es.countP Event.isSent
  packetsSent_eq : r.packetsSent = r.completedPackets + (r.failure.map (·.sent)).getD 0
  spin_iff : ∀ x ∈ r.samples,
    x.spin.isSome = true ↔ spinner.isSome = true ∧ x.sent = conf.perSocketCount

variable {r : RunResult} {conf : RunConfig} {spinner : Option Int} {replies : List QueueReply}
  {ms ms' : List ProbeSocket} {es : List Event}

theorem completedSockets_eq (r : RunResult) :
    r.completedSockets = (r.samples.map (·.sent)).countP (· = r.perSocketCount) := by
  rw [completedSockets, List.countP_map]
  rfl

theorem packetsSent_eq_foldr (r : RunResult) :
    r.packetsSent = (r.samples.map (·.sent)).foldr (· + ·) 0 := by
  rw [packetsSent, List.foldr_map]

theorem foldr_add_replicate (n : Nat) (count a : Int) :
    (List.replicate n count).foldr (· + ·) a = n * count + a := by
  induction n with
  | zero => simp
  | succ n ih =>
    rw [List.replicate_succ, List.foldr_cons, ih, Int.natCast_succ, Int.add_mul]
    omega

theorem map_sent_sampleOf (ms : List ProbeSocket) :
    (ms.map Probe.sampleOf).map (·.sent) = (ms.map (·.sent)).map fun n : Nat => (n : Int) := by
  rw [List.map_map, List.map_map]
  rfl

theorem map_slot_sampleOf (ms : List ProbeSocket) :
    (ms.map Probe.sampleOf).map (·.slot) = ms.map (·.slot) := by
  rw [List.map_map]
  rfl

/-- The counts of sockets of which `n` were served, one was cut short and the others were not
used. -/
theorem sents_of_cut {done rest : List ProbeSocket} {m : ProbeSocket} {n count : Nat}
    (hdone : done.map (·.sent) = List.replicate n count) (hrest : Unused rest) :
    (done ++ m :: rest).map (·.sent) =
      List.replicate n count ++ m.sent :: List.replicate rest.length 0 := by
  have hunused : rest.map (·.sent) = List.replicate rest.length 0 :=
    List.eq_replicate_iff.2 ⟨List.length_map .., by simpa using fun m hm => (hrest m hm).1⟩
  rw [List.map_append, List.map_cons, hdone, hunused]

/-- The counts of a result after `f` sockets that sent all their packets, one that sent `k` of them,
and others that sent none. -/
theorem counts_of_sents {f k rest : Nat} {count : Int} (hper : r.perSocketCount = count)
    (hsents : r.samples.map (·.sent) =
      List.replicate f count ++ (k : Int) :: List.replicate rest 0)
    (hk : (k : Int) < count) : r.completedSockets = f ∧ r.packetsSent = f * count + k := by
  have hne : (k : Int) ≠ count := by omega
  have hzero : (0 : Int) ≠ count := by omega
  constructor
  · rw [completedSockets_eq, hsents, hper, List.countP_append, List.countP_cons,
      List.countP_replicate, List.countP_replicate]
    simp [hne, hzero]
  · rw [packetsSent_eq_foldr, hsents, List.foldr_append, List.foldr_cons, foldr_add_replicate,
      foldr_add_replicate, Int.mul_zero, Int.add_zero, Int.add_zero]

/-- The accounts of a run that sent everything. -/
theorem Accounts.of_complete (h : Serves conf spinner replies ms es (.ok none) ms')
    (hcount : 0 < conf.perSocketCount) (hunused : Unused ms)
    (hper : r.perSocketCount = conf.perSocketCount) (hsamples : r.samples = ms'.map Probe.sampleOf)
    (hfailure : r.failure = none) : r.Accounts conf spinner ms es := by
  obtain ⟨hrefused, hsent, hsents, hspins⟩ := h.complete hunused
  have hcast : ((conf.perSocketCount.toNat : Nat) : Int) = conf.perSocketCount :=
    Int.toNat_of_nonneg (by omega)
  have hlist : r.samples.map (·.sent) = List.replicate ms.length conf.perSocketCount := by
    rw [hsamples, map_sent_sampleOf, hsents, List.map_replicate, hcast]
  have hall : ∀ x ∈ r.samples, x.sent = conf.perSocketCount := fun x hx =>
    List.eq_of_mem_replicate (hlist ▸ List.mem_map_of_mem hx)
  have hcompleted : r.completedSockets = ms.length := by
    rw [completedSockets_eq, hlist, hper, List.countP_replicate]
    simp
  have hlength : r.samples.length = ms.length := by
    simpa using congrArg List.length hlist
  have htotal : r.packetsSent = ms.length * conf.perSocketCount := by
    rw [packetsSent_eq_foldr, hlist, foldr_add_replicate, Int.add_zero]
  refine ⟨?_, .inl ⟨hrefused, hfailure, hall, hlength, hcompleted⟩, ?_, ?_, ?_, ?_⟩
  · rw [hsamples, map_slot_sampleOf, h.slots_eq]
  · rw [completedPackets, hper]
  · rw [htotal, hsent, Int.natCast_mul, hcast]
  · rw [htotal, completedPackets, hcompleted, hper, hfailure]
    simp
  · intro x hx
    rw [hall x hx, eq_self_iff_true, and_true]
    rw [hsamples, List.mem_map] at hx
    obtain ⟨m, hm, rfl⟩ := hx
    rw [Probe.sampleOf, hspins m hm]

/-- The accounts of a run that ended at a packet. -/
theorem Accounts.of_cut {failure : SendFailure}
    (h : Serves conf spinner replies ms es (.ok (some failure)) ms')
    (hcount : 0 < conf.perSocketCount) (hopen : JustOpened ms)
    (hper : r.perSocketCount = conf.perSocketCount) (hsamples : r.samples = ms'.map Probe.sampleOf)
    (hfailure : r.failure = some failure) : r.Accounts conf spinner ms es := by
  have hslots := h.slots_eq
  obtain ⟨done, done', m, m', rest, before, k, g, rfl, rfl, rfl, hdone, hk, hsent, hspin, rfl⟩ :=
    h.split_at_failure
  obtain ⟨hunusedDone, hunused⟩ := List.forall_mem_append.1 hopen.unused
  obtain ⟨hm, hunusedRest⟩ := List.forall_mem_cons.1 hunused
  obtain ⟨-, hcountBefore, hsents, hspins⟩ := hdone.complete hunusedDone
  have hcast : ((conf.perSocketCount.toNat : Nat) : Int) = conf.perSocketCount :=
    Int.toNat_of_nonneg (by omega)
  have hlt : (k : Int) < conf.perSocketCount := by omega
  have hslot : m.slot = done.length := hopen.slot_eq (by simp)
  have hlist : r.samples.map (·.sent) = List.replicate done.length conf.perSocketCount ++
      (k : Int) :: List.replicate rest.length 0 := by
    rw [hsamples, map_sent_sampleOf, sents_of_cut hsents hunusedRest, hsent.sent_eq, hm.1,
      Nat.zero_add, List.map_append, List.map_replicate, List.map_cons, List.map_replicate, hcast]
    rfl
  -- the sockets before have other descriptors, so none of their packets is one of this socket
  have hfd : m.fd ∉ done.map (·.fd) := by
    have hnodup := hopen.fds_nodup
    rw [List.map_append, List.map_cons, List.nodup_append] at hnodup
    exact fun hmem => hnodup.2.2 _ hmem _ List.mem_cons_self rfl
  obtain ⟨hcompleted, htotal⟩ := counts_of_sents hper hlist hlt
  obtain ⟨hbefore, hsends⟩ := hdone.unrefused_before hunusedDone hfd k
  have hat : (done ++ m :: rest)[done.length]? = some m := by simp
  refine ⟨?_, .inr ⟨done.length, k, g, ⟨m, _, hat, rfl, hbefore, hsends⟩, hlt, ?_, ?_, hcompleted⟩,
    ?_, ?_, ?_, ?_⟩
  · rw [hsamples, map_slot_sampleOf, hslots]
  · rw [hfailure, hslot, hm.1, Nat.zero_add]
  · rw [hlist, List.length_append, List.length_cons]
    congr 3
    omega
  · rw [completedPackets, hper]
  · have hrefusal : [refusal conf m.fd g].countP Event.isSent = 0 := rfl
    rw [htotal, List.countP_append, List.countP_append, hcountBefore, countP_isSent_packets,
      hrefusal, Nat.add_zero, Int.natCast_add, Int.natCast_mul, hcast]
  · rw [htotal, completedPackets, hcompleted, hper, hfailure, hm.1, Nat.zero_add]
    rfl
  · intro x hx
    rw [hsamples, List.mem_map] at hx
    obtain ⟨m₁, hm₁, rfl⟩ := hx
    have hne : (k : Int) ≠ conf.perSocketCount := by omega
    have hzero : (0 : Int) ≠ conf.perSocketCount := by omega
    -- before the cut, at it and after it
    rcases List.mem_append.1 hm₁ with hm₁ | hm₁
    · have hsent₁ : m₁.sent = conf.perSocketCount.toNat :=
        List.eq_of_mem_replicate (hsents ▸ List.mem_map_of_mem hm₁)
      simp [Probe.sampleOf, hspins m₁ hm₁, hsent₁, hcast]
    · rcases List.mem_cons.1 hm₁ with rfl | hm₁
      · simp [Probe.sampleOf, hspin, hm.2, hsent.sent_eq, hm.1, hne]
      · simp [Probe.sampleOf, hunusedRest m₁ hm₁, hzero]

end RunResult

/-! ## Runs on a group -/

namespace Probe

/-- A run on a just opened group gives a result that agrees with the sends that were made, where a
send fails only with a system fault or an ill typed address, a queue answers with four bytes or a
system fault, and all numbers that the run can come to have texts. Without the latter, the one other
way out is a slot or a number of calls that no text is long enough for, which takes at least
`Decimal.limit` sockets or events. -/
theorem sendAll_accounts {conf : RunConfig} (spinner : Option Int) {s : State}
    (hcount : 0 ≤ conf.count) (hopen : JustOpened s.members)
    (hsends : ∀ address g, s.Raises (.send address) g →
      g.isReportable Fault.isSystemOrIllTyped = true)
    (hqueries : ∀ g, s.Raises .queryQueue g → g.isReportable Fault.isSystem = true)
    (hreplies : ∀ r ∈ s.world.queue, r.isReadable = true) :
    (conf.Tellable spinner s.members.length →
      ∃ r es t, sendAll conf spinner s = .ok r t ∧ s.Emits es t ∧
        r.Accounts conf spinner s.members es) ∧
    ∃ es t, s.Emits es t ∧
      ((∃ r, sendAll conf spinner s = .ok r t ∧ r.Accounts conf spinner s.members es) ∨
        sendAll conf spinner s = .error .overlong t ∧
          (Decimal.limit ≤ s.members.length ∨ Decimal.limit ≤ es.length)) := by
  have hpositive : 0 < conf.perSocketCount := by
    unfold RunConfig.perSocketCount
    split <;> omega
  have hspec := (sendAll_spec conf spinner s).and (sendAll_faithful conf spinner s)
  cases hrun : sendAll conf spinner s with
  | ok r t =>
    obtain ⟨⟨hper, hsamples, es, ms', hes, hms', hserves⟩, -⟩ := hspec.of_ok hrun
    rw [List.nil_append] at hms'
    subst hms'
    have haccounts : r.Accounts conf spinner s.members es := by
      cases hfailure : r.failure with
      | none =>
        rw [hfailure] at hserves
        exact .of_complete hserves hpositive hopen.unused hper hsamples hfailure
      | some failure =>
        rw [hfailure] at hserves
        exact .of_cut hserves hpositive hopen hper hsamples hfailure
    exact ⟨fun _ => ⟨r, es, t, rfl, hes, haccounts⟩, es, t, hes, .inl ⟨r, rfl, haccounts⟩⟩
  | error f t =>
    obtain ⟨⟨es, ms', hes, -, hserves⟩, hpass⟩ := hspec.of_error hrun
    obtain ⟨rfl, hlong⟩ := hserves.overlong_of_error hopen.unused
      (fun fd g hg => hsends _ g (hpass.raised hes hg))
      (fun fd g hg => hqueries g (hpass.raised hes hg)) hreplies
    have hlimit : Decimal.limit ≤ s.members.length ∨
        Decimal.limit ≤ es.length ∧ Decimal.limit ≤ conf.callLimit spinner := by
      refine hlong.imp_left ?_
      rintro ⟨m, hm, hslot⟩
      exact hopen.limit_le_of_slot hm hslot
    refine ⟨fun htell => ?_, es, t, hes, .inr ⟨rfl, hlimit.imp_right And.left⟩⟩
    -- a run that can be told has neither so many sockets nor so many calls
    have hsockets := htell.sockets
    have hcalls := htell.calls
    omega

/-- Two sockets, the second of which sends one packet of three. -/
theorem sendAll_accounts_of_two :
    let conf : RunConfig := { destination := { address := .v4 ⟨192, 0, 2, 7⟩ }, count := 3 }
    let refusing : SocketScript := { send := some ⟨1, .system (some 111)⟩ }
    let s : State :=
      { world := { queue := [.pending 4, .fault (.system none), .raw [0, 0, 0, 0]] }
        sockets := #[{ script := {} }, { script := refusing }]
        group := { size := 2, sockets := #[{ fd := 100, slot := 0 }, { fd := 101, slot := 1 }] } }
    JustOpened s.members ∧ conf.Tellable (some 5) s.members.length ∧
      ∃ r es t, sendAll conf (some 5) s = .ok r t ∧ s.Emits es t ∧
        r.Accounts conf (some 5) s.members es := by
  intro conf refusing s
  have hopen : JustOpened s.members := by
    refine ⟨by decide, by decide, ?_⟩
    simp [Unused, State.members, s]
  have hqueue : ∀ r ∈ s.world.queue, r.isReadable = true := by decide
  have htell : conf.Tellable (some 5) s.members.length :=
    ⟨Decimal.lt_limit (by decide), Decimal.lt_limit (by decide)⟩
  refine ⟨hopen, htell, (sendAll_accounts (some 5) (by decide) hopen ?_ ?_ hqueue).1 htell⟩
  · rintro address g (⟨-, rfl⟩ | ⟨x, hx, limit, hlimit, rfl⟩)
    · rfl
    · rcases (by simpa [State.scripts, s] using hx : x = {} ∨ x = refusing) with rfl | rfl
      · cases hlimit
      · cases hlimit
        rfl
  · intro g hg
    obtain rfl : g = .system none := by simpa [State.Raises, s] using hg
    rfl

end Probe

end RdsReach
