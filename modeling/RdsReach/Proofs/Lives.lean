import RdsReach.Proofs.Parts

/-!
# Lives of sockets

A `Life` is what happens on an RDS socket from its creation on: its fields are the calls of one kind
in their order, each with its outcome. `Life.Orderly` says which lives a configuration allows, and
`Conducted.life` that every socket of a run has one of them.
-/

namespace RdsReach

/-! ## Lives -/

/-- What happens on an RDS socket after its creation: the calls of each kind, with their outcomes.
There is at most one call that binds the socket, gives it a type of service or closes it. -/
structure Life where
  bind : Option (SockAddr × Option Fault) := none
  tos : Option (UInt8 × Option Fault) := none
  sends : List (Option Fault) := []
  queries : List (Option Fault) := []
  close : Option (Option Fault) := none

/-- The packets and questions of a socket that is served. -/
def servedCalls (conf : RunConfig) (sends queries : List (Option Fault)) :
    List (Call × Option Fault) :=
  sends.map (fun o => (.send conf.destination.sockAddr, o)) ++ queries.map fun o => (.queryQueue, o)

namespace Life

/-- The calls of a life in their order: it is bound, given a type of service, packets are sent, its
queue is asked, and it is closed. -/
def calls (conf : RunConfig) (l : Life) : List (Call × Option Fault) :=
  (l.bind.toList.map fun b => (.bind b.1, b.2)) ++ (l.tos.toList.map fun b => (.setTos b.1, b.2)) ++
    servedCalls conf l.sends l.queries ++ l.close.toList.map fun o => (.close, o)

/-- Was the socket bound with success? -/
def Bound (l : Life) : Prop := ∃ a, l.bind = some (a, none)

/-- Was the socket bound and, if the run has a type of service, given it, with success? -/
def Ready (conf : RunConfig) (l : Life) : Prop :=
  l.Bound ∧ (conf.tos ≠ 0 → ∃ byte, l.tos = some (byte, none))

/-- The close is the last call of a life, and the only one. -/
theorem calls_eq_of_close (conf : RunConfig) {l : Life} {f : Option Fault} (h : l.close = some f) :
    ∃ cs, l.calls conf = cs ++ [(.close, f)] ∧ ∀ c ∈ cs, c.1 ≠ .close := by
  refine ⟨_, by rw [calls, h]; rfl, ?_⟩
  intro c hc
  simp only [servedCalls, List.mem_append, List.mem_map] at hc
  rcases hc with (⟨b, -, rfl⟩ | ⟨b, -, rfl⟩) | ⟨b, -, rfl⟩ | ⟨b, -, rfl⟩ <;> simp

end Life

/-- The packets and questions that a configuration allows on a socket: no more packets than wanted,
none after one that failed, and no question before all packets went out. -/
structure Attended (conf : RunConfig) (sends queries : List (Option Fault)) : Prop where
  sends_le : (sends.length : Int) ≤ conf.perSocketCount
  sends_stop : ∀ o ∈ sends.dropLast, o = none
  queries_of : queries ≠ [] →
    conf.spin = true ∧ sends = List.replicate conf.perSocketCount.toNat none

/-- The lives that a configuration allows. -/
structure Life.Orderly (conf : RunConfig) (l : Life) : Prop extends
    Attended conf l.sends l.queries where
  tos_of : ∀ byte o, l.tos = some (byte, o) →
    (byte.toNat : Int) = conf.tos ∧ conf.tos ≠ 0 ∧ l.Bound
  sends_of : l.sends ≠ [] → l.Ready conf

/-! ## Served sockets -/

theorem packets_eq (conf : RunConfig) (fd k : Nat) :
    packets conf fd k = eventsOn fd (servedCalls conf (List.replicate k none) []) := by
  simp [packets, eventsOn, servedCalls]

theorem Queries.eq {fd : Nat} {qs : List Event} (h : Queries fd qs) (conf : RunConfig) :
    ∃ queries, qs = eventsOn fd (servedCalls conf [] queries) := by
  induction qs with
  | nil => exact ⟨[], rfl⟩
  | cons e qs ih =>
    obtain ⟨⟨o, rfl⟩, hqs⟩ := List.forall_mem_cons.1 h
    obtain ⟨queries, hqueries⟩ := ih hqs
    exact ⟨o :: queries, congrArg _ hqueries⟩

theorem servedCalls_append (conf : RunConfig) (sends queries : List (Option Fault)) :
    servedCalls conf sends [] ++ servedCalls conf [] queries = servedCalls conf sends queries := by
  simp [servedCalls]

namespace Attended

variable {conf : RunConfig}

theorem nothing (hcount : 0 ≤ conf.perSocketCount) : Attended conf [] [] :=
  ⟨hcount, by simp, by simp⟩

theorem cut {k : Nat} (hk : k < conf.perSocketCount.toNat) (g : Fault) :
    Attended conf (List.replicate k none ++ [some g]) [] where
  sends_le := by
    rw [List.length_append, List.length_replicate, List.length_singleton]
    omega
  sends_stop := by
    rw [List.dropLast_concat]
    exact fun o ho => List.eq_of_mem_replicate ho
  queries_of := by simp

theorem full (hcount : 0 ≤ conf.perSocketCount) {queries : List (Option Fault)}
    (hqueries : queries ≠ [] → conf.spin = true) :
    Attended conf (List.replicate conf.perSocketCount.toNat none) queries where
  sends_le := by
    rw [List.length_replicate]
    omega
  sends_stop := fun o ho => List.eq_of_mem_replicate ((List.dropLast_sublist _).subset ho)
  queries_of := fun hne => ⟨hqueries hne, rfl⟩

end Attended

theorem Spun.spinner_isSome {fd : Nat} {spinner : Option Int} {qs : List Event} {o o' : Option Spin}
    (h : Spun fd spinner qs o o') (hne : qs ≠ []) : spinner.isSome = true := by
  cases h with
  | off => exact absurd rfl hne
  | on => rfl

theorem spin_of_spinner {conf : RunConfig} (h : (Program.spinner conf).isSome = true) :
    conf.spin = true := by
  unfold Program.spinner at h
  split at h
  · assumption
  · cases h

/-- What happens on a socket while its group is served. -/
theorem Serves.attended {conf : RunConfig} {replies : List QueueReply} {ms ms' : List ProbeSocket}
    {es : List Event} {o : Except Failure (Option SendFailure)}
    (h : Serves conf (Program.spinner conf) replies ms es o ms') (hcount : 0 ≤ conf.perSocketCount)
    (hnodup : (ms.map (·.fd)).Nodup) {m : ProbeSocket} (hm : m ∈ ms) :
    ∃ sends queries, Attended conf sends queries ∧
      eventsAt m.fd es = eventsOn m.fd (servedCalls conf sends queries) ∧
        (o = .ok none → sends = List.replicate conf.perSocketCount.toNat none) := by
  have hother {m₁ : ProbeSocket} {cs : List (Call × Option Fault)} (hne : m₁.fd ≠ m.fd) :
      eventsAt m.fd (eventsOn m₁.fd cs) = [] :=
    (within_eventsOn m₁.fd cs).eventsAt_eq_nil (by omega)
  have hself (cs : List (Call × Option Fault)) :
      eventsAt m.fd (eventsOn m.fd cs) = eventsOn m.fd cs :=
    eventsAt_eq_self fun e he => fd?_of_mem_eventsOn he
  induction h with
  | done => cases hm
  | @cut m₁ m' k g ms hk hsent hspin =>
    have hevents : packets conf m₁.fd k ++ [refusal conf m₁.fd g] =
        eventsOn m₁.fd (servedCalls conf (List.replicate k none ++ [some g]) []) := by
      simp [packets, refusal, eventsOn, servedCalls]
    have hoverdue : sendOutcome m₁ k g ≠ .ok none := fun h => by cases sendOutcome_ok h
    -- the run is cut at the socket, or before its turn
    rw [hevents]
    by_cases heq : m₁.fd = m.fd
    · rw [heq]
      exact ⟨_, [], .cut hk g, hself _, fun h => absurd h hoverdue⟩
    · exact ⟨[], [], .nothing hcount, hother heq, fun h => absurd h hoverdue⟩
  | @broken m₁ m' qs ceiling f ms hspinner hsent hqueries hne hle hwhy =>
    -- spinning fails on the socket, or before its turn
    obtain ⟨queries, rfl⟩ := hqueries.eq conf
    rw [packets_eq, ← eventsOn_append, servedCalls_append]
    by_cases heq : m₁.fd = m.fd
    · rw [heq]
      exact ⟨_, queries, .full hcount fun _ => spin_of_spinner (hspinner ▸ rfl), hself _,
        fun _ => rfl⟩
    · refine ⟨[], [], .nothing hcount, hother heq, fun h => ?_⟩
      cases h
  | @next m₁ m' ms ms' qs es o hsent hspun hrest ih =>
    -- the socket is served here and not again, or by the rest
    obtain ⟨hhead, htail⟩ := List.nodup_cons.1 hnodup
    obtain ⟨queries, rfl⟩ := hspun.queries.eq conf
    rw [packets_eq, ← eventsOn_append, servedCalls_append, eventsAt_append]
    by_cases heq : m₁.fd = m.fd
    · rw [hrest.eventsAt_eq_nil (heq ▸ hhead), List.append_nil, heq, hself]
      refine ⟨_, queries, .full hcount fun hne => spin_of_spinner (hspun.spinner_isSome ?_), rfl,
        fun _ => rfl⟩
      simpa [eventsOn, servedCalls] using hne
    · have hm' : m ∈ ms := (List.mem_cons.1 hm).resolve_left fun h => heq (h ▸ rfl)
      rw [hother heq, List.nil_append]
      exact ih htail hm'

/-! ## Sockets of a run -/

/-- The life of a socket that was made ready. -/
def readyLife (conf : RunConfig) (source : Endpoint) : Life where
  bind := some (source.sockAddr, none)
  tos := if conf.tos = 0 then none else some (conf.tosByte, none)

theorem readyLife_calls (conf : RunConfig) (source : Endpoint) (sends queries : List (Option Fault))
    (close : Option (Option Fault)) :
    ({ readyLife conf source with sends, queries, close } : Life).calls conf =
      readyCalls conf source ++ servedCalls conf sends queries ++
        close.toList.map fun o => (.close, o) := by
  unfold Life.calls readyLife readyCalls
  split <;> simp

theorem readyLife_orderly {conf : RunConfig} (source : Endpoint)
    {sends queries : List (Option Fault)} (htos : RunConfig.isTos conf.tos = true)
    (h : Attended conf sends queries)
    (close : Option (Option Fault)) :
    ({ readyLife conf source with sends, queries, close } : Life).Orderly conf where
  toAttended := h
  tos_of := by
    intro byte o hbyte
    simp only [readyLife] at hbyte
    split at hbyte
    · cases hbyte
    · next hne =>
      injection hbyte with hbyte
      injection hbyte with hbyte ho
      exact ⟨hbyte ▸ RunConfig.toNat_tosByte htos, hne, _, rfl⟩
  sends_of := fun _ => ⟨⟨_, rfl⟩, fun hne => ⟨_, if_neg hne⟩⟩

/-- A socket that is not made ready has an orderly life too. -/
theorem Halted.life {conf : RunConfig} {cs : List (Call × Option Fault)} (h : Halted conf cs)
    (hcount : 0 ≤ conf.perSocketCount) (close : Option (Option Fault)) :
    ∃ l : Life, l.Orderly conf ∧ l.close = close ∧
      l.calls conf = cs ++ close.toList.map fun o => (.close, o) := by
  have hnothing := Attended.nothing hcount
  cases h with
  | unbound => exact ⟨{ close }, ⟨hnothing, by simp, by simp⟩, rfl, rfl⟩
  | bindFailed a g =>
    exact ⟨{ bind := some (a, some g), close }, ⟨hnothing, by simp, by simp⟩, rfl, rfl⟩
  | bound a => exact ⟨{ bind := some (a, none), close }, ⟨hnothing, by simp, by simp⟩, rfl, rfl⟩
  | tos a o htos hbyte =>
    refine ⟨{ bind := some (a, none), tos := some (conf.tosByte, o), close },
      ⟨hnothing, ?_, by simp⟩, rfl, rfl⟩
    rintro byte o' h
    injection h with h
    injection h with h ho
    exact ⟨h ▸ RunConfig.toNat_tosByte hbyte, htos, a, rfl⟩

/-- A call that leaves a socket open: a close that failed, or a fault of the setup that is none of
those that are reported. -/
def LeavesOpen (c : Call) (g : Fault) : Prop :=
  match c with
  | .close => True
  | .bind _ => g.isReportable Fault.isSystemOrIllTyped = false
  | .setTos _ => g.isReportable Fault.isSystem = false
  | _ => False

theorem Abandoned.leavesOpen {conf : RunConfig} {cs : List (Call × Option Fault)}
    (h : Abandoned conf cs) (htos : RunConfig.isTos conf.tos = true) :
    ∃ c g, (c, some g) ∈ cs ∧ LeavesOpen c g := by
  rcases h with hbyte | ⟨a, g, hmem, hg⟩ | ⟨b, g, hmem, hg⟩
  · rw [htos] at hbyte
    cases hbyte
  · exact ⟨_, g, hmem, hg⟩
  · exact ⟨_, g, hmem, hg⟩

/-- A life is lived on a descriptor among the events of a run: it is orderly and, unless a call left
the socket open, ends with the close. -/
structure Life.Lived (l : Life) (conf : RunConfig) (fd : Nat) (es : List Event) : Prop where
  orderly : l.Orderly conf
  events_eq : eventsAt fd es = .opened .rds fd :: eventsOn fd (l.calls conf)
  left_open : l.close = none → ∃ g c f, .call g c (some f) ∈ es ∧ LeavesOpen c f

/-- What happens on other descriptors does not change a life. -/
theorem Life.Lived.among {l : Life} {conf : RunConfig} {fd : Nat} {es es' : List Event}
    (h : l.Lived conf fd es) (hsub : es ⊆ es') (heq : eventsAt fd es' = eventsAt fd es) :
    l.Lived conf fd es' where
  orderly := h.orderly
  events_eq := heq.trans h.events_eq
  left_open := by
    intro hnone
    obtain ⟨g, c, f, hmem, hleaves⟩ := h.left_open hnone
    exact ⟨g, c, f, hsub hmem, hleaves⟩

/-- The life of a socket that is not made ready. -/
theorem Unready.life {conf : RunConfig} {slot : Int} {fd : Nat} {es : List Event}
    (h : Unready conf slot fd es) (hcount : 0 ≤ conf.perSocketCount)
    (htos : RunConfig.isTos conf.tos = true) (hslot : Decimal.isPrintable slot = true)
    (hfd : .opened .rds fd ∈ es) : ∃ l : Life, l.Lived conf fd es := by
  cases h with
  | unopened g => simp at hfd
  | closed hcs o =>
    obtain ⟨l, horderly, hclose, hcalls⟩ := hcs.life hcount (some o)
    refine ⟨l, horderly, ?_, fun hnone => ?_⟩
    · rw [eventsAt_opened, hcalls]
      rfl
    · rw [hclose] at hnone
      cases hnone
  | leftOpen hcs hwhy =>
    obtain ⟨l, horderly, hclose, hcalls⟩ := hcs.life hcount none
    refine ⟨l, horderly, ?_, fun _ => ?_⟩
    · rw [eventsAt_opened, hcalls, Option.toList_none, List.map_nil, List.append_nil]
    -- the slot has a text, so a call is to blame
    · rcases hwhy with hwhy | hlong
      · obtain ⟨c, g, hmem, hleaves⟩ := hwhy.leavesOpen htos
        exact ⟨fd, c, g, List.mem_cons_of_mem _ (List.mem_map.2 ⟨_, hmem, rfl⟩), hleaves⟩
      · rw [hslot] at hlong
        cases hlong

/-- The life of a socket that is made ready, served and closed with others. -/
theorem Attended.life {conf : RunConfig} {sends queries : List (Option Fault)}
    (h : Attended conf sends queries) (htos : RunConfig.isTos conf.tos = true) (source : Endpoint)
    {fd : Nat} {fds : List Nat} {closes es : List Event} (hcloses : Closes fds closes)
    (hnodup : fds.Nodup) (hfd : fd ∈ fds) (hsub : closes ⊆ es)
    (hes : eventsAt fd es = setup conf source fd ++ eventsOn fd (servedCalls conf sends queries) ++
      eventsAt fd closes) :
    ∃ l : Life, l.Lived conf fd es ∧ l.sends = sends := by
  obtain ⟨close, hclose, hwhy⟩ := hcloses.eventsAt_eq hnodup hfd
  refine ⟨{ readyLife conf source with sends, queries, close },
    ⟨readyLife_orderly source htos h close, ?_, fun hnone => ?_⟩, rfl⟩
  · rw [hes, readyLife_calls, hclose, setup, eventsOn_append, eventsOn_append, List.cons_append,
      List.cons_append]
  · obtain ⟨g, f, hmem⟩ := hwhy hnone
    exact ⟨g, _, f, hsub hmem, trivial⟩

section Runs

variable {conf : RunConfig} {guess closes : List Event} {source : Endpoint} {fd : Nat}

/-- The lives of a run in which a socket is not made ready: those of the sockets before it, and its
own. -/
theorem life_of_unopened (hchecked : conf.Checked) (hguess : Guess firstFd guess) {k : Nat}
    (hk : k < conf.size) {failing : List Event}
    (hfailing : Unready conf (k : Nat) (nextFd guess + k) failing)
    (hcloses : Closes (List.range' (nextFd guess) k) closes)
    (hfd : .opened .rds fd ∈ setups conf source k (nextFd guess) ++ failing) :
    ∃ l : Life,
      l.Lived conf fd (guess ++ (setups conf source k (nextFd guess) ++ failing) ++ closes) := by
  have hcount : 0 ≤ conf.perSocketCount := Int.le_of_lt hchecked.perSocketCount_pos
  rcases List.mem_append.1 hfd with hfd | hfd
  -- a socket that is ready when the next one is not
  · obtain ⟨hlo, hhi⟩ := within_setups _ _ _ _ _ hfd fd rfl
    have hat : eventsAt fd (guess ++ (setups conf source k (nextFd guess) ++ failing) ++ closes) =
        setup conf source fd ++ eventsOn fd (servedCalls conf [] []) ++ eventsAt fd closes := by
      rw [eventsAt_append, eventsAt_append, eventsAt_append,
        hguess.within.eventsAt_eq_nil (.inr hlo), eventsAt_setups _ _ hlo hhi,
        hfailing.within.eventsAt_eq_nil (.inl hhi)]
      rfl
    obtain ⟨l, hlived, -⟩ := (Attended.nothing hcount).life hchecked.tos source hcloses
      List.nodup_range' (List.mem_range'_1.2 ⟨hlo, hhi⟩) (List.subset_append_right _ _) hat
    exact ⟨l, hlived⟩
  -- the socket that is not made ready; its slot is small enough to be worded
  · obtain ⟨hlo, hhi⟩ := hfailing.within _ hfd fd rfl
    obtain rfl : fd = nextFd guess + k := by omega
    have hslot : Decimal.isPrintable (k : Nat) = true := by
      refine Decimal.isPrintable_iff.2 (Decimal.lt_limit ?_)
      have := hchecked.size.2
      have := hchecked.size_eq
      omega
    obtain ⟨l, hlived⟩ := hfailing.life hcount hchecked.tos hslot hfd
    refine ⟨l, hlived.among ?_ ?_⟩
    · intro e he
      exact List.mem_append_left _ (List.mem_append_right _ (List.mem_append_right _ he))
    · rw [eventsAt_append, eventsAt_append, eventsAt_append,
        hguess.within.eventsAt_eq_nil (.inr (by omega)),
        (within_setups _ _ _ _).eventsAt_eq_nil (.inr (by omega)),
        hcloses.within.eventsAt_eq_nil (.inr (by omega)), List.nil_append, List.nil_append,
        List.append_nil]

/-- The lives of a run that comes to serving its sockets. -/
theorem life_of_served (hchecked : conf.Checked) (hguess : Guess firstFd guess)
    {replies : List QueueReply} {es : List Event} {o : Except Failure (Option SendFailure)}
    {ms : List ProbeSocket}
    (hserves : Serves conf (Program.spinner conf) replies (freshSockets conf.size (nextFd guess) 0)
      es o ms)
    (hcloses : Closes (List.range' (nextFd guess) conf.size) closes)
    (hfd : .opened .rds fd ∈ setups conf source conf.size (nextFd guess)) :
    ∃ l : Life,
      l.Lived conf fd (guess ++ setups conf source conf.size (nextFd guess) ++ es ++ closes) ∧
      (o = .ok none → l.sends = List.replicate conf.perSocketCount.toNat none) := by
  obtain ⟨hlo, hhi⟩ := within_setups _ _ _ _ _ hfd fd rfl
  have hmem : fd ∈ List.range' (nextFd guess) conf.size := List.mem_range'_1.2 ⟨hlo, hhi⟩
  have hfds := map_fd_freshSockets conf.size (nextFd guess) 0
  obtain ⟨m, hm, rfl⟩ := List.mem_map.1 (hfds ▸ hmem)
  obtain ⟨sends, queries, hattended, hserved, hcomplete⟩ :=
    hserves.attended (Int.le_of_lt hchecked.perSocketCount_pos) (hfds ▸ List.nodup_range') hm
  have hat : eventsAt m.fd
      (guess ++ setups conf source conf.size (nextFd guess) ++ es ++ closes) =
        setup conf source m.fd ++ eventsOn m.fd (servedCalls conf sends queries) ++
          eventsAt m.fd closes := by
    rw [← hserved, eventsAt_append, eventsAt_append, eventsAt_append,
      hguess.within.eventsAt_eq_nil (.inr hlo), eventsAt_setups _ _ hlo hhi, List.nil_append]
  obtain ⟨l, hlived, hsends⟩ := hattended.life hchecked.tos source hcloses List.nodup_range' hmem
    (List.subset_append_right _ _) hat
  exact ⟨l, hlived, fun ho => hsends.trans (hcomplete ho)⟩

end Runs

/-- Every RDS socket of a run has an orderly life, and sends all its packets if the run does. -/
theorem Conducted.life {conf : RunConfig} {es : List Event}
    {o : Option (Except Failure (Option SendFailure) × List ProbeSocket)} (h : Conducted conf es o)
    (hchecked : conf.Checked) {fd : Nat} (hfd : .opened .rds fd ∈ es) :
    ∃ l : Life, l.Lived conf fd es ∧ (∀ ms, o = some (.ok none, ms) →
      l.sends = List.replicate conf.perSocketCount.toNat none) := by
  cases h with
  | unannounced hguess => exact absurd hfd hguess.not_rds
  | unopened source hguess hfaultless hk hfailing hcloses =>
    rw [List.mem_append, List.mem_append, or_iff_left hcloses.not_opened,
      or_iff_right hguess.not_rds] at hfd
    obtain ⟨l, hlived⟩ := life_of_unopened hchecked hguess hk hfailing hcloses hfd
    refine ⟨l, hlived, fun ms h => ?_⟩
    cases h
  | served source hguess hfaultless htos hserves hcloses =>
    rw [List.mem_append, List.mem_append, List.mem_append, or_iff_left hcloses.not_opened,
      or_iff_left hserves.not_opened, or_iff_right hguess.not_rds] at hfd
    obtain ⟨l, hlived, hsends⟩ := life_of_served hchecked hguess hserves hcloses hfd
    refine ⟨l, hlived, fun ms ho => hsends ?_⟩
    injection ho with ho
    injection ho

/-! ## The helper of a run -/

theorem Call.ne_close_of_isRoute {c : Call} (h : c.isRoute = true) : c ≠ .close := by
  rintro rfl
  cases h

/-- The helper of a run is closed at the end of its life, which is nothing but the lookup. -/
theorem Conducted.helper {conf : RunConfig} {es : List Event}
    {o : Option (Except Failure (Option SendFailure) × List ProbeSocket)} (h : Conducted conf es o)
    {v : Version} {fd : Nat} (hfd : .opened (.udp v) fd ∈ es) :
    ∃ cs f, (∀ c ∈ cs, c.1.isRoute = true) ∧
      eventsAt fd es = .opened (.udp v) fd :: eventsOn fd (cs ++ [(.close, f)]) := by
  obtain ⟨guess, rest, rfl, hguess, hnew, hrds⟩ := h.split
  rcases List.mem_append.1 hfd with hfd | hfd
  · have hlt := (hguess.within _ hfd fd rfl).2
    have hrest : eventsAt fd rest = [] := by
      refine RdsReach.eventsAt_eq_nil fun e he heq => ?_
      have := hnew e he fd heq
      omega
    rw [eventsAt_append, hrest, List.append_nil]
    cases hguess with
    | spared => cases hfd
    | unopened v' g => simp at hfd
    | @closed v' cs hcs f =>
      rcases List.mem_cons.1 hfd with hfd | hfd
      · injection hfd with hkind hfirst
        injection hkind with hv
        subst hv hfirst
        exact ⟨cs, f, hcs, eventsAt_opened _ _ _⟩
      · simp [eventsOn] at hfd
  · cases hrds _ _ hfd

end RdsReach
