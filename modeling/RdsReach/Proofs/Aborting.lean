import RdsReach.Proofs.AnyOrder
import RdsReach.Proofs.Attending
import RdsReach.Proofs.ExitStatus
import RdsReach.Proofs.Numerals

/-!
# Runs that end at a refused packet

A packet that the system refuses ends a run: nothing more is sent, the group is closed, and the
status is 1. The report on what was sent until then is printed, unless the number of packets that
the run had to send is too long to print.

* `AbortedAt` says this of the events of a run, by the packets that went out on each socket;
* `Report.Partial` says which lines the report has;
* `Program.run_aborted` says that every run with a refused packet ends like this.
-/

namespace RdsReach

/-! ## Sockets of packets -/

/-- The descriptors of the RDS sockets that were created, in order. -/
def rdsFds (es : List Event) : List Nat :=
  es.filterMap fun
    | .opened .rds fd => some fd
    | _ => none

section RdsFds

@[simp] theorem rdsFds_append (es es' : List Event) :
    rdsFds (es ++ es') = rdsFds es ++ rdsFds es' :=
  List.filterMap_append

theorem rdsFds_eq_nil {es : List Event} (h : ∀ fd, .opened .rds fd ∉ es) : rdsFds es = [] := by
  apply List.filterMap_eq_nil_iff.2
  intro e he
  match e with
  | .opened .rds fd => exact absurd he (h fd)
  | .opened (.udp _) _ => rfl
  | .notOpened _ _ => rfl
  | .call _ _ _ => rfl

theorem rdsFds_setups (conf : RunConfig) (source : Endpoint) (n fd : Nat) :
    rdsFds (setups conf source n fd) = List.range' fd n := by
  induction n generalizing fd with
  | zero => rfl
  | succ n ih =>
    have hsetup : rdsFds (setup conf source fd) = [fd] := by
      have hcalls : rdsFds (eventsOn fd (readyCalls conf source)) = [] :=
        rdsFds_eq_nil fun g => by simp [eventsOn]
      rw [setup, ← List.singleton_append, rdsFds_append, hcalls]
      rfl
    rw [setups, rdsFds_append, hsetup, ih, List.range'_succ]
    rfl

theorem length_openedFds_setups (conf : RunConfig) (source : Endpoint) (n fd : Nat) :
    (openedFds (setups conf source n fd)).length = n := by
  induction n generalizing fd with
  | zero => rfl
  | succ n ih =>
    rw [setups, openedFds_append, openedFds_setup, List.length_append, ih, Nat.add_comm]
    rfl

end RdsFds

theorem ClosesAll.mem {fds : List Nat} {es : List Event} (h : ClosesAll fds es) {e : Event}
    (he : e ∈ es) : ∃ fd o, e = .call fd .close o := by
  induction h with
  | nil => cases he
  | @cons fd e' fds es hcall _ ih =>
    rcases List.mem_cons.1 he with rfl | he
    · exact ⟨fd, hcall⟩
    · exact ih he

/-! ## Packets on a descriptor -/

/-- The number of packets that went out on a descriptor. -/
def sentOn (fd : Nat) (es : List Event) : Nat := (eventsAt fd es).countP Event.isSent

section SentOn

variable {fd fd' : Nat} {es es' : List Event}

@[simp] theorem sentOn_append : sentOn fd (es ++ es') = sentOn fd es + sentOn fd es' := by
  rw [sentOn, eventsAt_append, List.countP_append, sentOn, sentOn]

theorem sentOn_of_eventsAt (h : eventsAt fd es = []) : sentOn fd es = 0 := by
  rw [sentOn, h, List.countP_nil]

/-- Events that are no packets that go out. -/
theorem sentOn_of_not_sent (h : ∀ e ∈ es, e.isSent = false) : sentOn fd es = 0 := by
  rw [sentOn, List.countP_eq_zero]
  intro e he
  rw [h e (List.mem_of_mem_filter he)]
  exact Bool.false_ne_true

@[simp] theorem sentOn_packets (conf : RunConfig) (fd k : Nat) :
    sentOn fd (packets conf fd k) = k := by
  have hself : eventsAt fd (packets conf fd k) = packets conf fd k :=
    eventsAt_eq_self fun e he => by rw [List.eq_of_mem_replicate he, Event.fd?]
  rw [sentOn, hself, countP_isSent_packets]

theorem sentOn_packets_of_ne (conf : RunConfig) (h : fd' ≠ fd) (k : Nat) :
    sentOn fd (packets conf fd' k) = 0 := by
  apply sentOn_of_eventsAt
  apply eventsAt_eq_nil
  intro e he
  rw [List.eq_of_mem_replicate he]
  simpa [Event.fd?] using h

@[simp] theorem sentOn_refusal (conf : RunConfig) (g : Fault) :
    sentOn fd [refusal conf fd' g] = 0 := by
  apply sentOn_of_not_sent
  intro e he
  rw [List.mem_singleton.1 he]
  rfl

theorem Queries.sentOn_eq {qs : List Event} (h : Queries fd' qs) : sentOn fd qs = 0 := by
  apply sentOn_of_not_sent
  intro e he
  obtain ⟨o, rfl⟩ := h e he
  rfl

theorem Idle.sentOn_eq (h : Idle es) : sentOn fd es = 0 := by
  apply sentOn_of_not_sent
  intro e he
  have hidle := h e he
  cases e with
  | call fd c o => cases c <;> simp_all [Event.isService, Event.isSent, Event.isSend, Call.isSend,
      Call.isService]
  | _ => rfl

end SentOn

/-! ## Refused packets -/

namespace Serves

variable {conf : RunConfig} {spinner : Option Int} {replies : List QueueReply}
  {ms ms' : List ProbeSocket} {es : List Event} {o : Except Failure (Option SendFailure)}

/-- A refused packet is the last event of a run, and becomes part of its result if its fault is one
that is reported. -/
theorem of_refused (h : Serves conf spinner replies ms es o ms') (hunused : Unused ms)
    (hslots : ∀ m ∈ ms, Decimal.isPrintable m.slot = true)
    (hcount : Decimal.isPrintable conf.perSocketCount = true) {fd : Nat} {address : SockAddr}
    {g : Fault} (hmem : .call fd (.send address) (some g) ∈ es)
    (hg : g.isReportable Fault.isSystemOrIllTyped = true) :
    ∃ before failure, es = before ++ [refusal conf fd g] ∧ o = .ok (some failure) := by
  have hpackets {m : ProbeSocket} {k : Nat} :
      .call fd (.send address) (some g) ∉ packets conf m.fd k := by
    intro hin
    cases List.eq_of_mem_replicate hin
  have hqueries {m : ProbeSocket} {qs : List Event} (hqs : Queries m.fd qs) :
      .call fd (.send address) (some g) ∉ qs := by
    intro hin
    obtain ⟨o', heq⟩ := hqs _ hin
    cases heq
  induction h with
  | done => cases hmem
  | @cut m m' k g' ms hk hsent hspin =>
    obtain heq := List.mem_singleton.1 ((List.mem_append.1 hmem).resolve_left hpackets)
    have hsame : Event.call fd (.send address) (some g) = refusal conf m.fd g' := heq
    rw [refusal] at hsame
    injection hsame with hfd haddress hfault
    obtain rfl := Option.some.inj hfault
    subst hfd
    -- the count of the packets before has a text, as all packets have
    have hprint : Decimal.isPrintable ((m.sent + k : Nat) : Int) = true := by
      rw [(hunused m List.mem_cons_self).1, Nat.zero_add]
      exact Decimal.isPrintable_of_le (Int.natCast_nonneg k) (by omega) hcount
    have hall : (Decimal.isPrintable m.slot && Decimal.isPrintable ((m.sent + k : Nat) : Int)) =
        true := by
      rw [hslots m List.mem_cons_self, hprint, Bool.and_self]
    refine ⟨_, ⟨m.slot, (m.sent + k : Nat), g.errno⟩, rfl, ?_⟩
    rw [sendOutcome_eq, if_pos hg, if_pos hall]
  | broken ms hspinner hsent hqs hne hle hwhy =>
    rcases List.mem_append.1 hmem with hin | hin
    · exact absurd hin hpackets
    · exact absurd hin (hqueries hqs)
  | @next m m' ms ms' qs es o hsent hspun _ ih =>
    rcases List.mem_append.1 hmem with hin | hin
    · rcases List.mem_append.1 hin with hin | hin
      · exact absurd hin hpackets
      · exact absurd hin (hqueries hspun.queries)
    · obtain ⟨before, failure, rfl, ho⟩ := ih
        (fun m₁ hm₁ => hunused m₁ (List.mem_cons_of_mem _ hm₁))
        (fun m₁ hm₁ => hslots m₁ (List.mem_cons_of_mem _ hm₁)) hin
      exact ⟨_, failure, (List.append_assoc ..).symm, ho⟩

/-- Each socket counted the packets that went out on its descriptor. -/
theorem sents_eq (h : Serves conf spinner replies ms es o ms') (hnodup : (ms.map (·.fd)).Nodup) :
    ms'.map (·.sent) = ms.map fun m => m.sent + sentOn m.fd es := by
  -- the packets of a socket that is served count for it, and for none of those behind it
  have hothers {m : ProbeSocket} {ms : List ProbeSocket} {qs : List Event} (k : Nat)
      (hfd : m.fd ∉ ms.map (·.fd)) (hqs : ∀ fd, sentOn fd qs = 0) :
      ∀ m₁ ∈ ms, sentOn m₁.fd (packets conf m.fd k ++ qs) = 0 := by
    intro m₁ hm₁
    have hne : m.fd ≠ m₁.fd := fun heq => hfd (heq ▸ List.mem_map_of_mem hm₁)
    rw [sentOn_append, sentOn_packets_of_ne conf hne, hqs]
  induction h with
  | done => rfl
  | @cut m m' k g ms hk hsent hspin =>
    rw [List.map_cons, List.nodup_cons] at hnodup
    have hrest : ∀ m₁ ∈ ms, m₁.sent =
        m₁.sent + sentOn m₁.fd (packets conf m.fd k ++ [refusal conf m.fd g]) := by
      intro m₁ hm₁
      rw [hothers k hnodup.1 (fun _ => sentOn_refusal conf g) m₁ hm₁, Nat.add_zero]
    rw [List.map_cons, List.map_cons, hsent.sent_eq, sentOn_append, sentOn_packets, sentOn_refusal,
      Nat.add_zero, List.map_congr_left hrest]
  | @broken m m' qs ceiling f ms hspinner hsent hqueries hne hle hwhy =>
    rw [List.map_cons, List.nodup_cons] at hnodup
    have hrest : ∀ m₁ ∈ ms, m₁.sent =
        m₁.sent + sentOn m₁.fd (packets conf m.fd conf.perSocketCount.toNat ++ qs) := by
      intro m₁ hm₁
      rw [hothers _ hnodup.1 (fun _ => hqueries.sentOn_eq) m₁ hm₁, Nat.add_zero]
    rw [List.map_cons, List.map_cons, hsent.sent_eq, sentOn_append, sentOn_packets,
      hqueries.sentOn_eq, Nat.add_zero, List.map_congr_left hrest]
  | @next m m' ms ms' qs es o hsent hspun hserves ih =>
    rw [List.map_cons, List.nodup_cons] at hnodup
    have hhead : sentOn m.fd es = 0 := sentOn_of_eventsAt (hserves.eventsAt_eq_nil hnodup.1)
    have hrest : ∀ m₁ ∈ ms, m₁.sent + sentOn m₁.fd es =
        m₁.sent + sentOn m₁.fd (packets conf m.fd conf.perSocketCount.toNat ++ qs ++ es) := by
      intro m₁ hm₁
      rw [sentOn_append, hothers _ hnodup.1 (fun _ => hspun.queries.sentOn_eq) m₁ hm₁, Nat.zero_add]
    rw [List.map_cons, List.map_cons, hsent.sent_eq, ih hnodup.2, sentOn_append, sentOn_append,
      sentOn_packets, hspun.queries.sentOn_eq, hhead, Nat.add_zero, List.map_congr_left hrest]

end Serves

/-! ## The report on an aborted run -/

namespace Report

/-- The report on a run that sent all packets on `f` sockets and `k` packets on the next one: a line
for each of the `f` sockets if they were spun on, the table of all sockets if `details` are wanted,
the summary of the `f` sockets and the line about the early end. -/
def Partial (conf : RunConfig) (elapsed : Binary64) (details : Bool) (f k : Nat)
    (report : String) : Prop :=
  ∃ (spins : List Spin) (table : List String),
    spins.length = (if conf.spin then f else 0) ∧ (details = false → table = []) ∧
      report = "\n".intercalate
        ((spins.mapIdx fun slot s => s!"Spun for {s.count} counts on socket {slot}") ++ table ++
          [s!"{conf.groupSize} sockets took {elapsed.fixed 6} msec to send and spin for " ++
              s!"{f * conf.perSocketCount} packets",
            s!"Run aborted on socket {f}: {f * conf.perSocketCount + k} of " ++
              s!"{conf.groupSize * conf.perSocketCount} packets sent"])

/-- Sockets that were all spun on have a line each, in the order of their slots. -/
theorem spinLines_of_isSome (xs : List Sample) {slot : Nat}
    (hslots : xs.map (·.slot) = (List.range' slot xs.length).map fun i : Nat => (i : Int))
    (hspins : ∀ x ∈ xs, x.spin.isSome = true) :
    ∃ spins : List Spin, spins.length = xs.length ∧
      (xs.filterMap fun x => x.spin.map fun s => s!"Spun for {s.count} counts on socket {x.slot}") =
        spins.mapIdx fun i s => s!"Spun for {s.count} counts on socket {slot + i}" := by
  induction xs generalizing slot with
  | nil => exact ⟨[], rfl, rfl⟩
  | cons x xs ih =>
    obtain ⟨hx, hxs⟩ := List.forall_mem_cons.1 hspins
    obtain ⟨s, hs⟩ := Option.isSome_iff_exists.1 hx
    rw [List.map_cons, List.length_cons, List.range'_succ, List.map_cons] at hslots
    obtain ⟨hslot, hslots⟩ := List.cons.inj hslots
    obtain ⟨spins, hlength, hlines⟩ := ih hslots hxs
    refine ⟨s :: spins, by rw [List.length_cons, hlength, List.length_cons], ?_⟩
    have hnext : (fun (i : Nat) (s : Spin) =>
        s!"Spun for {s.count} counts on socket {slot + (i + 1)}") =
          fun i s => s!"Spun for {s.count} counts on socket {slot + 1 + i}" := by
      funext i s
      rw [Nat.add_comm i 1, Nat.add_assoc]
    rw [List.filterMap_cons, hs, Option.map_some, hlines, List.mapIdx_cons, hnext, hslot]
    rfl

/-- Sockets that were not spun on have no line. -/
theorem spinLines_of_none (xs : List Sample) (h : ∀ x ∈ xs, x.spin = none) :
    (xs.filterMap fun x =>
      x.spin.map fun s => s!"Spun for {s.count} counts on socket {x.slot}") = [] := by
  apply List.filterMap_eq_nil_iff.2
  intro x hx
  rw [h x hx, Option.map_none]

variable {conf : RunConfig} {r : RunResult} {ms : List ProbeSocket} {es : List Event} {f k : Nat}
  {g : Fault}

/-- The lines of the sockets that were spun on in a run that ended early. -/
theorem spinTexts_of_cut (hopen : JustOpened ms)
    (haccounts : r.Accounts conf (Program.spinner conf) ms es)
    (hcut : r.CutAfter conf ms es f k g) :
    ∃ spins : List Spin, spins.length = (if conf.spin then f else 0) ∧
      spinTexts r = spins.mapIdx fun slot s => s!"Spun for {s.count} counts on socket {slot}" := by
  have hspinner : (Program.spinner conf).isSome = conf.spin := by
    unfold Program.spinner
    cases conf.spin <;> rfl
  have hspun : ∀ x ∈ r.samples, x.spin.isSome = true ↔
      conf.spin = true ∧ x.sent = conf.perSocketCount := hspinner ▸ haccounts.spin_iff
  have hnone {x : Sample} (hx : x ∈ r.samples)
      (hnot : ¬ (conf.spin = true ∧ x.sent = conf.perSocketCount)) : x.spin = none := by
    rw [← hspun x hx, Bool.not_eq_true, Option.isSome_eq_false_iff,
      Option.isNone_iff_eq_none] at hnot
    exact hnot
  by_cases hspin : conf.spin = true
  · obtain ⟨done, rest, hsamples, hdone, hrest⟩ := List.map_eq_append_iff.1 hcut.sents_eq
    have hlength : done.length = f := by simpa using congrArg List.length hdone
    have hle : done.length ≤ ms.length := by
      have hall := congrArg List.length haccounts.slots_eq
      rw [List.length_map, List.length_map, hsamples, List.length_append] at hall
      omega
    have hslots : done.map (·.slot) =
        (List.range' 0 done.length).map fun i : Nat => (i : Int) := by
      have hfirst := congrArg (List.take done.length) (haccounts.slots_eq.trans hopen.slots_eq)
      rw [hsamples, ← List.map_take, List.take_left, ← List.map_take, List.take_range,
        Nat.min_eq_left hle, List.range_eq_range'] at hfirst
      exact hfirst
    have hcomplete : ∀ x ∈ done, x.spin.isSome = true := by
      intro x hx
      rw [hspun x (hsamples ▸ List.mem_append_left _ hx)]
      exact ⟨hspin, List.eq_of_mem_replicate (hdone ▸ List.mem_map_of_mem hx)⟩
    -- the sockets from the one on that the run ended at were not spun on
    have hincomplete : ∀ x ∈ rest, x.spin = none := by
      intro x hx
      apply hnone (hsamples ▸ List.mem_append_right _ hx)
      have hlt := hcut.lt
      have hmem : x.sent ∈ (k : Int) :: List.replicate (ms.length - f - 1) 0 :=
        hrest ▸ List.mem_map_of_mem hx
      rcases List.mem_cons.1 hmem with heq | hmem
      · omega
      · have heq := List.eq_of_mem_replicate hmem
        omega
    obtain ⟨spins, hspins, hlines⟩ := spinLines_of_isSome done hslots hcomplete
    refine ⟨spins, by rw [if_pos hspin, hspins, hlength], ?_⟩
    rw [spinTexts, hsamples, List.filterMap_append, hlines, spinLines_of_none rest hincomplete,
      List.append_nil]
    simp only [Nat.zero_add]
  · refine ⟨[], by rw [if_neg hspin, List.length_nil], ?_⟩
    rw [spinTexts, List.mapIdx_nil]
    apply spinLines_of_none
    intro x hx
    exact hnone hx fun h => hspin h.1

/-- A run that ended early has a report, unless the number of packets that it had to send is too
long to print. -/
theorem text_of_cut {render : Renderer} (htotal : render.Total) (hopen : JustOpened ms)
    (haccounts : r.Accounts conf (Program.spinner conf) ms es) (hcut : r.CutAfter conf ms es f k g)
    (htell : r.Tellable) (hper : r.perSocketCount = conf.perSocketCount)
    (hsize : (ms.length : Int) = conf.groupSize) (hlt : f < ms.length) (details : Bool) :
    if Decimal.isPrintable (conf.groupSize * conf.perSocketCount) then
      ∃ report, text r details render = .ok report ∧ Partial conf r.elapsed details f k report
    else text r details render = .error .overlong := by
  have hcount : (r.socketCount : Int) = conf.groupSize := by
    have hall := congrArg List.length haccounts.slots_eq
    rw [List.length_map, List.length_map] at hall
    rw [RunResult.socketCount, hall, hsize]
  have hcompleted : r.completedPackets = f * conf.perSocketCount := by
    rw [haccounts.completedPackets_eq, hcut.completed_eq]
  have hsent : r.packetsSent = f * conf.perSocketCount + k := by
    rw [haccounts.packetsSent_eq, hcompleted, hcut.failure_eq]
    rfl
  have hrequested : r.requestedPackets = conf.groupSize * conf.perSocketCount := by
    rw [RunResult.requestedPackets, hcount, hper]
  have haborted : r.isAborted = true := by rw [RunResult.isAborted, hcut.failure_eq]; rfl
  split
  · next hlong =>
    -- a socket sends no more packets than it has to, so the other numbers are smaller
    have hk := hcut.lt
    have hpositive : 0 ≤ conf.perSocketCount := by omega
    have hle : f * conf.perSocketCount + conf.perSocketCount ≤
        conf.groupSize * conf.perSocketCount := by
      have hf : (f : Int) + 1 ≤ conf.groupSize := by omega
      calc f * conf.perSocketCount + conf.perSocketCount = (f + 1) * conf.perSocketCount := by
            rw [Int.add_mul, Int.one_mul]
        _ ≤ conf.groupSize * conf.perSocketCount := Int.mul_le_mul_of_nonneg_right hf hpositive
    have hfirst : 0 ≤ f * conf.perSocketCount := Int.mul_nonneg (Int.natCast_nonneg f) hpositive
    have hprint : r.Printable := by
      refine ⟨?_, fun _ => ⟨?_, ?_⟩⟩
      · rw [hcompleted]
        exact Decimal.isPrintable_of_le hfirst (by omega) hlong
      · rw [hsent]
        exact Decimal.isPrintable_of_le (by omega) (by omega) hlong
      · rw [hrequested]
        exact hlong
    have hnat (n : Nat) : toString (n : Int) = toString n := rfl
    have hsummary : summaryText r =
        s!"{conf.groupSize} sockets took {r.elapsed.fixed 6} msec to send and spin for " ++
          s!"{f * conf.perSocketCount} packets" := by
      rw [summaryText, hcompleted, ← hcount, hnat]
    have habort : abortText r ⟨f, k, g.errno⟩ =
        s!"Run aborted on socket {f}: {f * conf.perSocketCount + k} of " ++
          s!"{conf.groupSize * conf.perSocketCount} packets sent" := by
      unfold abortText
      rw [hrequested, hsent, hnat f]
    obtain ⟨table, htable, htext⟩ := text_of_printable htotal htell hprint details
    obtain ⟨spins, hspins, hlines⟩ := spinTexts_of_cut hopen haccounts hcut
    refine ⟨_, htext, spins, table, hspins, htable, ?_⟩
    rw [hlines, hcut.failure_eq, Option.toList_some, List.map_singleton, habort, hsummary,
      List.append_assoc, List.singleton_append]
  · next hlong =>
    apply text_of_not_printable htotal
    intro hprint
    have hall := (hprint.2 haborted).2
    rw [hrequested] at hall
    exact hlong hall

end Report

/-! ## Aborted runs -/

/-- The events of a run that ended when a packet was refused with the fault `g`, after `k` others on
the socket of slot `f`. -/
structure AbortedAt (conf : RunConfig) (f k : Nat) (g : Fault) (es : List Event) : Prop where
  size_eq : ((rdsFds es).length : Int) = conf.groupSize
  /-- The refused packet is the first one, and is followed by one close for each socket. -/
  last : ∃ before fd closes, es = before ++ refusal conf fd g :: closes ∧ Unrefused before ∧
    (rdsFds es)[f]? = some fd ∧ ClosesAll (rdsFds es) closes
  lt : k < conf.perSocketCount
  sents_eq : (rdsFds es).map (fun fd => (sentOn fd es : Int)) =
    List.replicate f conf.perSocketCount ++
      (k : Int) :: List.replicate ((rdsFds es).length - f - 1) 0

theorem Idle.unrefused {es : List Event} (h : Idle es) : Unrefused es := by
  intro e he hsend
  have hidle := h e he
  cases e with
  | call fd c o =>
    change (c.isSend || c.isQuery) = false at hidle
    rw [show c.isSend = true from hsend] at hidle
    cases hidle
  | _ => cases hsend

theorem ClosesAll.idle {fds : List Nat} {es : List Event} (h : ClosesAll fds es) : Idle es := by
  intro e he
  obtain ⟨fd, o, rfl⟩ := h.mem he
  rfl

theorem ClosesAll.rdsFds_eq {fds : List Nat} {es : List Event} (h : ClosesAll fds es) :
    rdsFds es = [] := by
  apply rdsFds_eq_nil
  intro fd hmem
  obtain ⟨fd', o, heq⟩ := h.mem hmem
  cases heq

/-- The events of a run whose result says that it was cut. -/
theorem AbortedAt.of_cut {conf : RunConfig} {spinner : Option Int} {replies : List QueueReply}
    {guess es closes : List Event} {source : Endpoint} {n fd f k : Nat} {g : Fault}
    {o : Except Failure (Option SendFailure)} {ms' : List ProbeSocket} {r : RunResult}
    (hguess : Guess firstFd guess)
    (hserves : Serves conf spinner replies (freshSockets n fd 0) es o ms')
    (hcloses : ClosesAll (List.range' fd n) closes) (hsize : (n : Int) = conf.groupSize)
    (hsamples : r.samples = ms'.map Probe.sampleOf)
    (hcut : r.CutAfter conf (freshSockets n fd 0) es f k g) :
    AbortedAt conf f k g (guess ++ setups conf source n fd ++ (es ++ closes)) := by
  have hopen := justOpened_freshSockets n fd
  have hfds : rdsFds (guess ++ setups conf source n fd ++ (es ++ closes)) = List.range' fd n := by
    rw [rdsFds_append, rdsFds_append, rdsFds_append, rdsFds_setups, hcloses.rdsFds_eq,
      rdsFds_eq_nil fun _ => hguess.not_rds, rdsFds_eq_nil fun _ => hserves.not_opened]
    simp
  have hsetUp : Idle (guess ++ setups conf source n fd) :=
    hguess.idle.append (idle_setups _ _ _ _)
  have hsent (fd' : Nat) :
      sentOn fd' (guess ++ setups conf source n fd ++ (es ++ closes)) = sentOn fd' es := by
    have hbefore : sentOn fd' (guess ++ setups conf source n fd) = 0 := hsetUp.sentOn_eq
    rw [sentOn_append, hbefore, sentOn_append, hcloses.idle.sentOn_eq, Nat.zero_add, Nat.add_zero]
  refine ⟨by rw [hfds, List.length_range', hsize], ?_, hcut.lt, ?_⟩
  · obtain ⟨m, before, hm, hes, hbefore, -⟩ := hcut.first
    refine ⟨guess ++ setups conf source n fd ++ before, m.fd, closes, by simp [hes], ?_, ?_, ?_⟩
    · exact hsetUp.unrefused.append hbefore
    · rw [hfds, ← map_fd_freshSockets n fd 0, List.getElem?_map, hm, Option.map_some]
    · rw [hfds]
      exact hcloses
  · -- the sockets were not used before, so each counted the packets of this run
    have hcounted : ms'.map (·.sent) = (List.range' fd n).map fun fd => sentOn fd es := by
      rw [hserves.sents_eq hopen.fds_nodup, ← map_fd_freshSockets n fd 0, List.map_map]
      apply List.map_congr_left
      intro m hm
      rw [(hopen.unused m hm).1, Nat.zero_add, Function.comp_apply]
    have hsents := hcut.sents_eq
    rw [hsamples, RunResult.map_sent_sampleOf, hcounted, List.map_map,
      length_freshSockets] at hsents
    simp only [hfds, hsent, List.length_range']
    exact hsents

namespace Program

open Probe

variable {conf : RunConfig} {world : World} {t u : State}

/-- The sockets of a run that is set up are known to the system and have slots that can be
printed. -/
theorem Prepared.members (h : Prepared conf world t) (hchecked : conf.Checked) :
    ∀ m ∈ t.members, m.fd - firstFd < t.sockets.size ∧ Decimal.isPrintable m.slot = true := by
  obtain ⟨guess, source, -, hemits, hmembers⟩ := h.setUp
  have hsize : t.sockets.size = (openedFds guess).length + conf.size := by
    rw [hemits.size_eq, openedFds_append, List.length_append, length_openedFds_setups]
    exact Nat.zero_add _
  rw [hmembers]
  intro m hm
  have hfd : m.fd ∈ List.range' (nextFd guess) conf.size :=
    map_fd_freshSockets conf.size (nextFd guess) 0 ▸ List.mem_map_of_mem hm
  have hfd := List.mem_range'_1.1 hfd
  rw [nextFd] at hfd
  exact ⟨by omega, slot_printable_of_checked hchecked _ m hm⟩

/-- A run with a refused packet comes to a result, which accounts for the packets that went out
before. It has a report, unless the number of packets that it had to send is too long to print. -/
theorem Prepared.aborts (h : Prepared conf world t) (hchecked : conf.Checked)
    (htotal : world.render.Total) {es closes : List Event}
    {o : Except Failure (Option SendFailure)} {ms' : List ProbeSocket}
    (htended : Tended conf t es closes o ms' u) {fd : Nat} {address : SockAddr} {g : Fault}
    (hrefused : .call fd (.send address) (some g) ∈ u.trace)
    (hg : g.isReportable Fault.isSystemOrIllTyped = true) :
    ∃ failure, o = .ok (some failure) ∧ ∀ r, ResultOf conf t ms' r → r.failure = some failure →
      ∃ f k, AbortedAt conf f k g u.trace ∧ ∀ details,
        if Decimal.isPrintable (conf.groupSize * conf.perSocketCount) then
          ∃ report, Report.text r details world.render = .ok report ∧
            Report.Partial conf r.elapsed details f k report
        else Report.text r details world.render = .error .overlong := by
  obtain ⟨guess, source, hguess, hemits, hmembers⟩ := h.setUp
  have htrace := trace_of_emits (hemits.trans htended.emits)
  have hslots : ∀ m ∈ t.members, Decimal.isPrintable m.slot = true := fun m hm =>
    (h.members hchecked m hm).2
  have hopen := justOpened_freshSockets conf.size (nextFd guess)
  have hserves := htended.serves
  have hcloses := htended.closes
  rw [hmembers] at hserves hslots hcloses
  rw [map_fd_freshSockets] at hcloses
  rw [htrace] at hrefused
  -- neither the setup nor a close is a packet
  have hmem : .call fd (.send address) (some g) ∈ es := by
    have hnot {es : List Event} (hidle : Idle es) : .call fd (.send address) (some g) ∉ es := by
      intro hin
      cases hidle _ hin
    have hbefore := hnot (hguess.idle.append (idle_setups conf source conf.size (nextFd guess)))
    exact ((List.mem_append.1 ((List.mem_append.1 hrefused).resolve_left hbefore)).resolve_right
      (hnot hcloses.idle))
  obtain ⟨before, failure, hes, rfl⟩ :=
    hserves.of_refused hopen.unused hslots h.count_printable hmem hg
  refine ⟨failure, rfl, fun r hresult hfailure => ?_⟩
  have haccounts : r.Accounts conf (spinner conf) (freshSockets conf.size (nextFd guess) 0) es :=
    .of_cut hserves hchecked.perSocketCount_pos hopen hresult.perSocketCount_eq hresult.samples_eq
      hfailure
  rw [← hfailure] at hserves
  have htell : r.Tellable := .of_serves hserves hopen.unused hslots h.count_printable
    (fun _ => queryLimit_lt) hresult.samples_eq
  rcases haccounts.ending with hcomplete | ⟨f, k, g', hcut⟩
  · rw [hcomplete.failure_eq] at hfailure
    cases hfailure
  -- the last event is the refused packet, so its fault is the one that the result tells
  obtain ⟨m, before', hm, hes', -⟩ := hcut.first
  have hlast := List.append_inj_right' (hes.symm.trans hes') rfl
  injection hlast with hlast
  injection hlast with _ _ hfault
  obtain rfl := Option.some.inj hfault
  have hlt : f < (freshSockets conf.size (nextFd guess) 0).length :=
    (List.getElem?_eq_some_iff.1 hm).1
  refine ⟨f, k, ?_, fun details => ?_⟩
  · rw [htrace]
    exact .of_cut hguess hserves hcloses hchecked.size_eq hresult.samples_eq hcut
  · apply Report.text_of_cut htotal hopen haccounts hcut htell hresult.perSocketCount_eq _ hlt
    rw [length_freshSockets, hchecked.size_eq]

/-- Saying why the program failed prints nothing and touches no socket. -/
theorem sayFailure_keeps {f : Failure} (h : sayFailure f t = .ok () u) :
    u.trace = t.trace ∧ u.printed = t.printed := by
  obtain ⟨journal, rfl⟩ := (sayFailure_spec f t).of_ok h
  exact ⟨rfl, ((sayFailure_composed f).group.silent t |>.of_ok h).printed_eq⟩

/-- A program that sends a packet has set up the run of its configuration. -/
theorem exists_prepared_of_sent {arguments : List String} {fd : Nat} {address : SockAddr}
    {o : Option Fault} (hsent : .call fd (.send address) o ∈ (run arguments world).final.trace) :
    ∃ a conf v t, CommandLine.read arguments = .ok a ∧ configured arguments world = some conf ∧
      RunConfig.ofOptions resolve a.options { world } = .ok conf v ∧
        setUpRun conf v = .ok () t ∧ Prepared conf world t := by
  have hran := run_spec arguments world
  obtain ⟨conf, hconf⟩ : ∃ conf, configured arguments world = some conf := by
    by_contra hnone
    rw [not_exists, ← Option.eq_none_iff_forall_ne_some] at hnone
    rw [hran.unconfigured hnone] at hsent
    cases hsent
  obtain ⟨served, hconducted, hsucceeds⟩ := hran.conducted conf hconf
  have hserved : served.isSome = true := by
    cases served with
    | none => cases hconducted.idle _ hsent
    | some served => rfl
  obtain ⟨a, hread, _, t, hsetUp⟩ := hsucceeds hserved
  obtain ⟨conf', v, hsettled, hsetUpRun, hprepared⟩ := setUp_prepares hsetUp
  obtain rfl : conf' = conf := by
    rw [configured, hread] at hconf
    simpa [hsettled] using hconf
  exact ⟨a, conf', v, t, hread, hconf, hsettled, hsetUpRun, hprepared⟩

/-- A run with a refused packet prints the report on what was sent before. It prints nothing if the
number of packets that it had to send is too long to print. -/
theorem Prepared.attend_reports (h : Prepared conf world t) (hchecked : conf.Checked)
    (htotal : world.render.Total) {elapsed : Binary64}
    (hcloses : ∀ f, world.Raises .close f → f.isSystem = true)
    (helapsed : Elapsed.milliseconds (reading world.clock 0) (reading world.clock 1) = .ok elapsed)
    (fd : Nat) (address : SockAddr) {g : Fault}
    (hg : g.isReportable Fault.isSystemOrIllTyped = true) (details : Bool) :
    Meets (attend conf details) t
      (fun r u => .call fd (.send address) (some g) ∈ u.trace →
        r.isAborted = true ∧ ∃ f k, AbortedAt conf f k g u.trace ∧
          Decimal.isPrintable (conf.groupSize * conf.perSocketCount) = true ∧
            ∃ report, Report.Partial conf elapsed details f k report ∧
              u.printed = [report] ∧ u.journal.back? = some (.printed report))
      fun e u => .call fd (.send address) (some g) ∈ u.trace →
        e = .overlong ∧ ∃ f k, AbortedAt conf f k g u.trace ∧
          Decimal.isPrintable (conf.groupSize * conf.perSocketCount) = false ∧ u.printed = [] := by
  have htime : t.elapsed = .ok elapsed := by
    rw [State.elapsed, h.silent.clock_eq, h.silent.clockReads_eq]
    exact helapsed
  have hprinted : t.printed = [] := h.silent.printed_eq
  have hrender : t.world.render = world.render := h.silent.render_eq
  have htame : ∀ f, t.Raises .close f → f.isSystem = true := fun f hf =>
    hcloses f (h.follows.raises hf)
  have hspec := attend_spec conf details htame (h.members hchecked)
  rw [hrender] at hspec
  apply hspec.mono
  · rintro r u ⟨es, closes, ms', text, htended, hresult, htext, hprint, hback⟩ hrefused
    obtain ⟨failure, hfailure, haborts⟩ := h.aborts hchecked htotal htended hrefused hg
    have hfailure := Except.ok.inj hfailure
    obtain ⟨f, k, habortedAt, hreport⟩ := haborts r hresult hfailure
    refine ⟨by rw [RunResult.isAborted, hfailure]; rfl, f, k, habortedAt, ?_⟩
    have hreport := hreport details
    split at hreport
    · next hshort =>
      obtain ⟨report, hreport, hpartial⟩ := hreport
      obtain rfl := Except.ok.inj (htext.symm.trans hreport)
      rw [hprinted, List.nil_append] at hprint
      rw [← Except.ok.inj (htime.symm.trans hresult.elapsed_eq)] at hpartial
      exact ⟨hshort, text, hpartial, hprint, hback⟩
    · rw [htext] at hreport
      cases hreport
  · rintro e u ⟨hprint, es, closes, o, ms', htended, hwhy⟩ hrefused
    obtain ⟨failure, hfailure, haborts⟩ := h.aborts hchecked htotal htended hrefused hg
    -- serving the group came to a result, and the time has a value, so it is the report that failed
    rcases hwhy with rfl | ⟨x, _, hundefined, -⟩ | ⟨r, ho, hresult, htext⟩
    · cases hfailure
    · rw [htime] at hundefined
      cases hundefined
    obtain ⟨f, k, habortedAt, hreport⟩ :=
      haborts r hresult (Except.ok.inj (ho.symm.trans hfailure))
    have hreport := hreport details
    split at hreport
    · obtain ⟨report, hreport, -⟩ := hreport
      rw [htext] at hreport
      cases hreport
    · next hlong =>
      exact ⟨Except.error.inj (htext.symm.trans hreport), f, k, habortedAt,
        Bool.eq_false_iff.2 hlong, hprint.trans hprinted⟩

/-- Where closing a socket fails only with faults of the system, the time of a run has a value and
every table can be laid out, a packet that is refused with a fault that can be reported ends the run
with status 1. It is the last packet and is followed by the closes alone. The report on what was
sent before is all that is printed, and it is printed last, unless the number of packets that the
run had to send is too long to print: then nothing is printed. -/
theorem run_aborted (arguments : List String) {world : World} {elapsed : Binary64}
    (hcloses : ∀ f, world.Raises .close f → f.isSystem = true)
    (helapsed : Elapsed.milliseconds (reading world.clock 0) (reading world.clock 1) = .ok elapsed)
    (hrender : world.render.Total) {fd : Nat} {address : SockAddr} {g : Fault}
    (hrefused : .call fd (.send address) (some g) ∈ (run arguments world).final.trace)
    (hg : g.isReportable Fault.isSystemOrIllTyped = true) :
    ∃ a conf f k, CommandLine.read arguments = .ok a ∧ configured arguments world = some conf ∧
      (run arguments world).status = 1 ∧
      AbortedAt conf f k g (run arguments world).final.trace ∧
      if Decimal.isPrintable (conf.groupSize * conf.perSocketCount) then
        ∃ report, Report.Partial conf elapsed (0 < a.settings.verbosity) f k report ∧
          (run arguments world).final.printed = [report] ∧
            ∃ before, (run arguments world).output = before ++ report ++ "\n"
      else (run arguments world).final.printed = [] := by
  obtain ⟨a, conf, v, t, hread, hconf, hsettled, hsetUpRun, hprepared⟩ :=
    exists_prepared_of_sent hrefused
  have hreports := hprepared.attend_reports (checked_of_configured hconf) hrender hcloses helapsed
    fd address hg (0 < a.settings.verbosity)
  cases hattend : attend conf (0 < a.settings.verbosity) t with
  | ok r u =>
    rw [run_of_attended hread hsettled hsetUpRun hattend] at hrefused ⊢
    obtain ⟨haborted, f, k, habortedAt, hshort, report, hpartial, hprinted, hback⟩ :=
      hreports.of_ok hattend hrefused
    have hstatus : (endedWith a (verdictOf r) u).status = 1 := by
      rw [endedWith, verdictOf, if_pos haborted]
      rfl
    refine ⟨a, conf, f, k, hread, hconf, hstatus, habortedAt, ?_⟩
    rw [if_pos hshort]
    exact ⟨report, hpartial, hprinted, output_of_back _ hback⟩
  | error e u =>
    obtain ⟨w, hsaid, hrun⟩ := run_of_failed hread hsettled hsetUpRun hattend
    -- saying why comes after everything that was printed and leaves the trace as it is
    obtain ⟨htrace, hkept⟩ := sayFailure_keeps hsaid
    have hfinal : (endedWith a (.failed e) w).final.trace = u.trace := htrace
    rw [hrun, hfinal] at hrefused
    rw [hrun, hfinal]
    obtain ⟨rfl, f, k, habortedAt, hlong, hprinted⟩ := hreports.of_error hattend hrefused
    refine ⟨a, conf, f, k, hread, hconf, rfl, habortedAt, ?_⟩
    rw [if_neg (Bool.eq_false_iff.1 hlong)]
    exact hkept.trans hprinted

/-- Of three packets on each of two sockets, the second one on the second socket is refused. -/
theorem run_aborted_at_second :
    let arguments := ["--spin", "-n", "2", "-c", "3", "192.0.2.7"]
    let world : World :=
      { rds := [{ close := some (.system (some 5)) }, { send := some ⟨1, .system (some 111)⟩ }]
        queue := [.pending 4, .pending 0] }
    let ended := run arguments world
    (∀ f, world.Raises .close f → f.isSystem = true) ∧
      Elapsed.milliseconds (reading world.clock 0) (reading world.clock 1) = .ok .zero ∧
      world.render.Total ∧
      .call 102 (.send [.name "192.0.2.7", 0]) (some (.system (some 111))) ∈ ended.final.trace ∧
      ∃ a conf f k, CommandLine.read arguments = .ok a ∧ configured arguments world = some conf ∧
        ended.status = 1 ∧ AbortedAt conf f k (.system (some 111)) ended.final.trace ∧
        if Decimal.isPrintable (conf.groupSize * conf.perSocketCount) then
          ∃ report, Report.Partial conf .zero (0 < a.settings.verbosity) f k report ∧
            ended.final.printed = [report] ∧
              ∃ before, ended.output = before ++ report ++ "\n"
        else ended.final.printed = [] := by
  intro arguments world ended
  have hcloses : ∀ f, world.Raises .close f → f.isSystem = true := by
    intro f hf
    obtain rfl : f = .system (some 5) := by
      simpa [World.Raises, State.Raises, State.scripts, world, eq_comm] using hf
    rfl
  have helapsed :
      Elapsed.milliseconds (reading world.clock 0) (reading world.clock 1) = .ok .zero := by
    decide +kernel
  have hrefused :
      .call 102 (.send [.name "192.0.2.7", 0]) (some (.system (some 111))) ∈ ended.final.trace := by
    decide +kernel
  have hrender : world.render.Total := Renderer.plain_total
  exact ⟨hcloses, helapsed, hrender, hrefused,
    run_aborted arguments hcloses helapsed hrender hrefused rfl⟩

end Program

/-! ## The longest numerals -/

namespace Numeral

/-- A row of nines of any length that a decimal numeral may have is read. -/
theorem read_nines {n : Nat} (hpos : n ≠ 0) (hle : n ≤ Decimal.maxDigits) :
    read (String.ofList (List.replicate n '9')) = .ok (ofDigits 10 (List.replicate n '9')) := by
  have hdigits : (List.replicate n '9').all Char.isDigit = true := by
    rw [List.all_replicate, if_neg hpos]
    rfl
  have hhead : (List.replicate n '9').head? ≠ some '0' := by
    rw [List.head?_replicate, if_neg hpos]
    decide
  apply read_of_number
  apply Number.decimal ((positional_iff isDigitOf_decimal).2 ⟨hdigits, rfl⟩) _ hhead
  · rw [List.length_replicate]
    exact hle
  · simpa using hpos

end Numeral

namespace CommandLine

/-- A command line that asks for two sockets and a count. -/
theorem read_count {text : String} {n : Nat} (hplain : IsPlain text) (hread : IsNumeral text n) :
    read ["-n", "2", "-c", text, "192.0.2.7"] =
      .ok ⟨"192.0.2.7", { count := .value n, sockets := .value 2 }⟩ := by
  have hplaced : Placed
      [.number .sockets "2" 2, .number .count text n, .destination "192.0.2.7"] "192.0.2.7" := by
    refine ⟨?_, rfl, .inl (by simp)⟩
    simp only [List.forall_mem_cons]
    exact ⟨.number rfl (by decide) rfl, .number rfl hplain hread, .destination (by decide), nofun⟩
  exact read_of_placed hplaced

theorem read_nines {n : Nat} (hpos : n ≠ 0) (hle : n ≤ Decimal.maxDigits) :
    read ["-n", "2", "-c", String.ofList (List.replicate n '9'), "192.0.2.7"] =
      .ok ⟨"192.0.2.7",
        { count := .value (Numeral.ofDigits 10 (List.replicate n '9')), sockets := .value 2 }⟩ := by
  have hplain : IsPlain (String.ofList (List.replicate n '9')) := by
    rw [IsPlain, String.toList_ofList, List.head?_replicate, if_neg hpos]
    decide
  exact read_count hplain (Numeral.read_nines hpos hle)

end CommandLine

namespace Program

set_option maxRecDepth 100000 in
/-- The largest count that a command line can give has a text, and twice that count has none: the
first packet of two sockets is refused, and nothing is printed. -/
theorem run_unreported :
    let arguments := ["-n", "2", "-c", String.ofList (List.replicate 4300 '9'), "192.0.2.7"]
    let world : World := { rds := [{ send := some ⟨0, .system (some 111)⟩ }] }
    let ended := run arguments world
    (∀ f, world.Raises .close f → f.isSystem = true) ∧
      Elapsed.milliseconds (reading world.clock 0) (reading world.clock 1) = .ok .zero ∧
      .call 101 (.send [.name "192.0.2.7", 0]) (some (.system (some 111))) ∈ ended.final.trace ∧
      ended.status = 1 ∧ ended.final.printed = [] := by
  intro arguments world ended
  have hread : CommandLine.read arguments =
      .ok ⟨"192.0.2.7",
        { count := .value (Numeral.ofDigits 10 (List.replicate 4300 '9')), sockets := .value 2 }⟩ :=
    CommandLine.read_nines (by decide) (by decide)
  have hcloses : ∀ f, world.Raises .close f → f.isSystem = true := by
    simp [World.Raises, State.Raises, State.scripts, world]
  refine ⟨hcloses, by decide +kernel, ?_⟩
  rw [show ended = _ from run_of_read hread]
  decide +kernel

end Program

end RdsReach
