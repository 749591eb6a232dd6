import RdsReach.Proofs.Composed
import RdsReach.Proofs.Spinning

/-!
# The events of opening and closing

What happens on the way to an open group, and on the way back, told by the events:

* `Guess fd es`: the source of the run is looked up with the helper `fd`, which is closed again;
* `setups`: sockets are made ready, one after the other; `Unready`: one of them is not;
* `Closes fds es`: the sockets of a group are closed.
-/

namespace RdsReach

/-! ## Calls as events -/

/-- The events of calls on a descriptor. -/
def eventsOn (fd : Nat) (cs : List (Call × Option Fault)) : List Event :=
  cs.map fun c => .call fd c.1 c.2

section EventsOn

variable {fd : Nat} {cs cs' : List (Call × Option Fault)}

theorem eventsOn_append : eventsOn fd (cs ++ cs') = eventsOn fd cs ++ eventsOn fd cs' :=
  List.map_append

theorem fd?_of_mem_eventsOn {e : Event} (h : e ∈ eventsOn fd cs) : e.fd? = some fd := by
  obtain ⟨c, -, rfl⟩ := List.mem_map.1 h
  rfl

@[simp] theorem openedFds_eventsOn : openedFds (eventsOn fd cs) = [] := by
  simp [openedFds, eventsOn, List.filterMap_map, Event.openedFd?]

end EventsOn

/-- A socket that is created, used and closed leaves the events of that and no others. -/
theorem State.After.closed {s t u v : State} {kind : SocketKind} {fd : Nat}
    {cs : List (Call × Option Fault)} {o : Option Fault} (ht : s.After [.opened kind fd] t)
    (hu : t.After (eventsOn fd cs) u) (hv : u.After [.call fd .close o] v) :
    s.After (.opened kind fd :: eventsOn fd (cs ++ [(.close, o)])) v := by
  rw [eventsOn_append]
  exact ht.trans (hu.trans hv)

/-- No event failed. -/
def Faultless (es : List Event) : Prop := ∀ e ∈ es, e.fault? = none

/-! ## The source of a run -/

/-- Is this a call of the lookup of a route? -/
def Call.isRoute : Call → Bool
  | .connect _ => true
  | .localName => true
  | _ => false

/-- The events of looking up the source of a run, which may be spared. The helper is closed. -/
inductive Guess (fd : Nat) : List Event → Prop where
  | spared : Guess fd []
  | unopened (v : Version) (g : Fault) : Guess fd [.notOpened (.udp v) g]
  | closed (v : Version) {cs : List (Call × Option Fault)} (hcs : ∀ c ∈ cs, c.1.isRoute = true)
      (o : Option Fault) : Guess fd (.opened (.udp v) fd :: eventsOn fd (cs ++ [(.close, o)]))

namespace Probe

open State (After Emits)

variable {conf : RunConfig} {s : State} {src : Endpoint}

theorem connectedName_spec (helper : Nat) (destination : Endpoint) (s : State) :
    Meets (connectedName helper destination) s
      (fun _ t => ∃ cs, s.After (eventsOn helper cs) t ∧ (∀ c ∈ cs, c.1.isRoute = true) ∧
        Faultless (eventsOn helper cs))
      fun _ t => ∃ cs, s.After (eventsOn helper cs) t ∧ ∀ c ∈ cs, c.1.isRoute = true := by
  rw [connectedName, meets_bind]
  refine ((connect_makes helper destination.sockAddr).onFault _ _ s).mono ?_ ?_
  · rintro _ t ht
    refine ((localName_makes helper).onFault _ _ t).mono ?_ ?_
    · rintro _ u hu
      refine ⟨[(.connect _, none), (.localName, none)], ht.trans hu, by simp [Call.isRoute], ?_⟩
      simp [Faultless, eventsOn, Event.fault?]
    · rintro _ u ⟨g, -, hu⟩
      exact ⟨[(.connect _, none), (.localName, some g)], ht.trans hu, by simp [Call.isRoute]⟩
  · rintro _ t ⟨g, -, ht⟩
    exact ⟨[(.connect _, some g)], ht, by simp [Call.isRoute]⟩

theorem guessSource_spec (destination : Endpoint) (s : State) :
    Meets (guessSource destination) s
      (fun _ t => ∃ es, s.After es t ∧ Guess (firstFd + s.sockets.size) es ∧ Faultless es)
      fun _ t => ∃ es, s.After es t ∧ Guess (firstFd + s.sockets.size) es := by
  simp only [guessSource, meets_bind, meets_onFault]
  refine (createSocket_spec _ s).mono ?_ ?_
  · rintro fd t ⟨rfl, ht⟩
    rw [meets_ensuring]
    -- however the lookup and the close end, the close is the last event of the helper
    have hclosed {cs : List (Call × Option Fault)} {u v : State} {o : Option Fault}
        (hcs : ∀ c ∈ cs, c.1.isRoute = true)
        (hu : t.After (eventsOn (firstFd + s.sockets.size) cs) u)
        (hv : u.After [.call (firstFd + s.sockets.size) .close o] v) :
        ∃ es, s.After es v ∧ Guess (firstFd + s.sockets.size) es :=
      ⟨_, ht.closed hu hv, .closed destination.version hcs o⟩
    refine (connectedName_spec _ _ t).mono ?_ ?_
    · rintro name u ⟨cs, hu, hcs, hfaultless⟩
      refine (close_makes _ u).mono ?_ ?_
      · rintro _ v hv
        have hok : ∃ es, s.After es v ∧ Guess (firstFd + s.sockets.size) es ∧ Faultless es := by
          refine ⟨_, ht.closed hu hv, .closed destination.version hcs none, ?_⟩
          rw [eventsOn_append]
          refine List.forall_mem_cons.2 ⟨rfl, List.forall_mem_append.2 ⟨hfaultless, ?_⟩⟩
          simp [eventsOn, Event.fault?]
        -- the name that the system gave may still be no endpoint
        rw [meets_ofExcept]
        split
        · exact hok
        · obtain ⟨es, hes, hguess, -⟩ := hok
          exact ⟨es, hes, hguess⟩
      · rintro _ v ⟨g, -, hv⟩
        exact hclosed hcs hu hv
    · rintro _ u ⟨cs, hu, hcs⟩
      exact (close_makes _).ends u fun o v hv => hclosed hcs hu hv
  · rintro _ t ⟨g, rfl, ht⟩
    exact ⟨_, ht, .unopened _ g⟩

/-- A source that is known is given without a lookup. -/
theorem sourceEndpoint_of_known (h : s.source = some src) :
    Meets (sourceEndpoint conf) s (fun e t => e = src.withPort 0 ∧ t = s) fun _ _ => False := by
  rw [sourceEndpoint, meets_bind, meets_get, h]
  exact ⟨rfl, rfl⟩

theorem sourceEndpoint_spec (conf : RunConfig) (s : State) :
    Meets (sourceEndpoint conf) s
      (fun _ t => ∃ es, s.Emits es t ∧ Guess (firstFd + s.sockets.size) es ∧ Faultless es ∧
        t.group = s.group ∧ ∃ src, t.source = some src)
      fun _ t => ∃ es, s.Emits es t ∧ Guess (firstFd + s.sockets.size) es := by
  rw [sourceEndpoint, meets_bind, meets_get]
  cases hsource : s.source with
  | some src => exact ⟨[], .refl s, .spared, by simp [Faultless], rfl, src, hsource⟩
  | none =>
    refine meets_bind.2 ((guessSource_spec conf.destination s).mono ?_ ?_)
    · rintro source t ⟨es, ht, hguess, hfaultless⟩
      refine ⟨es, ?_, hguess, hfaultless, ht.group_eq, source, rfl⟩
      exact ht.toEmits.then_nil (.of_eq rfl rfl)
    · rintro f t ⟨es, ht, hguess⟩
      exact ⟨es, ht.toEmits, hguess⟩

end Probe

/-! ## One socket -/

/-- The byte of the type of service of a run. -/
def RunConfig.tosByte (conf : RunConfig) : UInt8 := UInt8.ofNat conf.tos.toNat

/-- The calls that make a socket ready: it is bound and, if the run has a type of service, given
it. -/
def readyCalls (conf : RunConfig) (source : Endpoint) : List (Call × Option Fault) :=
  (.bind source.sockAddr, none) :: if conf.tos = 0 then [] else [(.setTos conf.tosByte, none)]

/-- The events of making a new socket ready. -/
def setup (conf : RunConfig) (source : Endpoint) (fd : Nat) : List Event :=
  .opened .rds fd :: eventsOn fd (readyCalls conf source)

/-- The calls on a socket that is not made ready: the last one is the one that failed, unless the
failure was none of a call. -/
inductive Halted (conf : RunConfig) : List (Call × Option Fault) → Prop where
  | unbound : Halted conf []
  | bindFailed (a : SockAddr) (g : Fault) : Halted conf [(.bind a, some g)]
  | bound (a : SockAddr) : Halted conf [(.bind a, none)]
  | tos (a : SockAddr) (o : Option Fault) (htos : conf.tos ≠ 0)
      (hbyte : RunConfig.isTos conf.tos = true) :
      Halted conf [(.bind a, none), (.setTos conf.tosByte, o)]

/-- Why a socket that is not made ready can stay open: a type of service that is no byte, or a fault
that is none of those that are reported. -/
def Abandoned (conf : RunConfig) (cs : List (Call × Option Fault)) : Prop :=
  RunConfig.isTos conf.tos = false ∨
    (∃ a g, (.bind a, some g) ∈ cs ∧ g.isReportable Fault.isSystemOrIllTyped = false) ∨
      ∃ b g, (.setTos b, some g) ∈ cs ∧ g.isReportable Fault.isSystem = false

/-- The events of a socket that is not made ready. -/
inductive Unready (conf : RunConfig) (slot : Int) (fd : Nat) : List Event → Prop where
  | unopened (g : Fault) : Unready conf slot fd [.notOpened .rds g]
  | closed {cs : List (Call × Option Fault)} (hcs : Halted conf cs) (o : Option Fault) :
      Unready conf slot fd (.opened .rds fd :: eventsOn fd (cs ++ [(.close, o)]))
  | leftOpen {cs : List (Call × Option Fault)} (hcs : Halted conf cs)
      (hwhy : Abandoned conf cs ∨ Decimal.isPrintable slot = false) :
      Unready conf slot fd (.opened .rds fd :: eventsOn fd cs)

theorem RunConfig.isTos_iff {n : Int} : RunConfig.isTos n = true ↔ 0 ≤ n ∧ n ≤ 255 := by
  simp [RunConfig.isTos]

theorem RunConfig.toNat_tosByte {conf : RunConfig} (h : RunConfig.isTos conf.tos = true) :
    (conf.tosByte.toNat : Int) = conf.tos := by
  obtain ⟨hnonneg, hle⟩ := RunConfig.isTos_iff.1 h
  rw [RunConfig.tosByte, UInt8.toNat_ofNat']
  omega

namespace Probe

open State (After Emits)

variable {conf : RunConfig} {s : State} {src : Endpoint}

/-- A failed step of the setup is reported if its fault can be. -/
theorem isReported_told_setup (catches : Fault → Bool) (step : SetupStep) {about : Complaint}
    (habout : about.numbers.all Decimal.isPrintable = true) (g : Fault) :
    (told catches (fun f => .setup step about f.errno) g).isReported = g.isReportable catches := by
  unfold told Fault.isReportable Failure.settled
  cases catches g with
  | false => rfl
  | true =>
    cases herrno : Errno.inRange g.errno with
    | false => simp [Failure.reportedErrno, herrno]; rfl
    | true => simp [Failure.reportedErrno, Failure.numbers, herrno, habout]; rfl

theorem applyTos_spec (fd : Nat) (s : State) (htos : conf.tos ≠ 0) (a : SockAddr) :
    Meets (applyTos fd conf.tos) s
      (fun _ t => RunConfig.isTos conf.tos = true ∧
        s.After (eventsOn fd [(.setTos conf.tosByte, none)]) t)
      fun f t => ∃ cs, s.After (eventsOn fd cs) t ∧ Halted conf ((.bind a, none) :: cs) ∧
        (f.isReported = false → Abandoned conf ((.bind a, none) :: cs)) := by
  rw [applyTos, tosByte]
  split
  · next hbyte =>
    rw [meets_bind, meets_pure]
    refine ((setTos_makes fd conf.tosByte).onFault _ _ s).mono (fun _ t ht => ⟨hbyte, ht⟩) ?_
    rintro _ t ⟨g, rfl, ht⟩
    refine ⟨[(.setTos conf.tosByte, some g)], ht, .tos a (some g) htos hbyte,
      fun hunreported => ?_⟩
    have habout : (Complaint.setTos conf.tos).numbers.all Decimal.isPrintable = true := by
      obtain ⟨hnonneg, hle⟩ := RunConfig.isTos_iff.1 hbyte
      have hprint : Decimal.isPrintable conf.tos = true :=
        Decimal.isPrintable_iff.2 (Decimal.lt_limit (by omega))
      simpa [Complaint.numbers] using hprint
    rw [isReported_told_setup _ _ habout] at hunreported
    exact .inr (.inr ⟨conf.tosByte, g, by simp, hunreported⟩)
  · next hbyte =>
    refine ⟨[], .refl s, .bound a, fun _ => .inl (by simpa using hbyte)⟩

theorem readySocket_spec (fd : Nat) (source : Endpoint) (s : State) :
    Meets (readySocket conf fd source) s
      (fun _ t => s.After (eventsOn fd (readyCalls conf source)) t ∧
        (conf.tos ≠ 0 → RunConfig.isTos conf.tos = true))
      fun f t => ∃ cs, s.After (eventsOn fd cs) t ∧ Halted conf cs ∧
        (f.isReported = false → Abandoned conf cs) := by
  by_cases hfour : source.version = .four
  · rw [readySocket, if_neg (not_not.2 hfour)]
    refine meets_bind.2 (((bind_makes fd source.sockAddr).onFault _ _ s).mono ?_ ?_)
    · rintro _ t ht
      by_cases htos : conf.tos = 0
      · rw [readyCalls, if_pos htos, if_neg (not_not.2 htos)]
        exact ⟨ht, fun hne => absurd htos hne⟩
      · rw [readyCalls, if_neg htos, if_pos htos]
        refine meets_bind.2 ((applyTos_spec fd t htos source.sockAddr).mono ?_ ?_)
        · rintro _ u ⟨hbyte, hu⟩
          exact ⟨ht.trans hu, fun _ => hbyte⟩
        · rintro f u ⟨cs, hu, hcs, hwhy⟩
          exact ⟨(.bind source.sockAddr, none) :: cs, ht.trans hu, hcs, hwhy⟩
    · rintro _ t ⟨g, rfl, ht⟩
      refine ⟨[(.bind _, some g)], ht, .bindFailed _ g, fun hunreported => ?_⟩
      rw [isReported_told_setup _ _ rfl] at hunreported
      exact .inr (.inl ⟨source.sockAddr, g, by simp, hunreported⟩)
  · rw [readySocket_of_ne_four hfour]
    refine ⟨[], .refl s, .unbound, ?_⟩
    intro hunreported
    cases hunreported

theorem prepare_spec (fd : Nat) (hs : s.source = some src) :
    Meets (prepare conf fd) s
      (fun _ t => s.After (eventsOn fd (readyCalls conf (src.withPort 0))) t ∧
        (conf.tos ≠ 0 → RunConfig.isTos conf.tos = true))
      fun f t => ∃ cs, s.After (eventsOn fd cs) t ∧ Halted conf cs ∧
        (f.isReported = false → Abandoned conf cs) := by
  rw [prepare_eq]
  refine (sourceEndpoint_of_known hs).bind_of_total ?_
  rintro source t ⟨rfl, ht⟩
  rw [ht]
  exact readySocket_spec fd (src.withPort 0) s

theorem halted_readyCalls (source : Endpoint)
    (h : conf.tos ≠ 0 → RunConfig.isTos conf.tos = true) :
    Halted conf (readyCalls conf source) := by
  rw [readyCalls]
  split
  · exact .bound _
  · next htos => exact .tos _ none htos (h htos)

/-- A socket is created and made ready, or not. -/
theorem createProbeSocket_spec (slot : Int) (hs : s.source = some src) :
    Meets (createProbeSocket conf slot) s
      (fun p t => p = { fd := firstFd + s.sockets.size, slot } ∧
        s.After (setup conf (src.withPort 0) (firstFd + s.sockets.size)) t ∧
          (conf.tos ≠ 0 → RunConfig.isTos conf.tos = true))
      fun _ t => ∃ es, s.After es t ∧ Unready conf slot (firstFd + s.sockets.size) es := by
  rw [createProbeSocket, meets_bind, meets_onFault]
  refine (createSocket_spec .rds s).mono ?_ ?_
  · rintro fd t ⟨rfl, ht⟩
    rw [meets_bind, meets_undoing]
    refine (prepare_spec _ (ht.source_eq.trans hs)).mono ?_ ?_
    -- the socket is ready, and only what is said about it can still fail
    · rintro source u ⟨hu, hbyte⟩
      rw [meets_bind, meets_number]
      split
      · refine ⟨rfl, (ht.trans hu).then_eq (.of_eq rfl rfl rfl rfl), hbyte⟩
      · next hslot =>
        refine ⟨_, ht.trans hu, .leftOpen (halted_readyCalls _ hbyte) (.inr ?_)⟩
        simpa using hslot
    · rintro f u ⟨cs, hu, hcs, hwhy⟩
      split
      -- a failure that is reported closes the socket, any other one leaves it as it is
      · apply (close_makes _).ends u
        exact fun o v hv => ⟨_, ht.closed hu hv, .closed hcs o⟩
      · next hunreported =>
        exact ⟨_, ht.trans hu, .leftOpen hcs (.inl (hwhy (by simpa using hunreported)))⟩
  · rintro _ t ⟨g, rfl, ht⟩
    exact ⟨_, ht, .unopened g⟩

end Probe

/-! ## The sockets of a group -/

/-- The events of making `n` sockets ready, whose descriptors start with `fd`. -/
def setups (conf : RunConfig) (source : Endpoint) : (n fd : Nat) → List Event
  | 0, _ => []
  | n + 1, fd => setup conf source fd ++ setups conf source n (fd + 1)

/-- Sockets that were just opened, with descriptors from `fd` on and slots from `slot` on. -/
def freshSockets : (n fd slot : Nat) → List ProbeSocket
  | 0, _, _ => []
  | n + 1, fd, slot => { fd, slot } :: freshSockets n (fd + 1) (slot + 1)

section FreshSockets

variable (n fd slot : Nat)

theorem map_fd_freshSockets : (freshSockets n fd slot).map (·.fd) = List.range' fd n := by
  induction n generalizing fd slot with
  | zero => rfl
  | succ n ih => rw [freshSockets, List.map_cons, ih, List.range'_succ]

theorem map_slot_freshSockets :
    (freshSockets n fd slot).map (·.slot) = (List.range' slot n).map fun i : Nat => (i : Int) := by
  induction n generalizing fd slot with
  | zero => rfl
  | succ n ih => rw [freshSockets, List.map_cons, ih, List.range'_succ, List.map_cons]

@[simp] theorem length_freshSockets : (freshSockets n fd slot).length = n := by
  simpa using congrArg List.length (map_fd_freshSockets n fd slot)

@[simp] theorem openedFds_setup (conf : RunConfig) (source : Endpoint) :
    openedFds (setup conf source fd) = [fd] := by
  simp [setup, openedFds, eventsOn, List.filterMap_map, Event.openedFd?]

end FreshSockets

namespace Probe

open State (After Emits)

variable {conf : RunConfig} {s : State} {src : Endpoint}

/-- The sockets of the slots are opened one after the other, until one is not made ready. -/
theorem openSlots_spec (n slot : Nat) {pre : List ProbeSocket} (hs : s.source = some src)
    (hpre : s.members = pre) :
    Meets (openSlots conf n slot) s
      (fun _ t => s.Emits (setups conf (src.withPort 0) n (firstFd + s.sockets.size)) t ∧
        t.members = pre ++ freshSockets n (firstFd + s.sockets.size) slot ∧
          (n ≠ 0 → conf.tos ≠ 0 → RunConfig.isTos conf.tos = true))
      fun _ t => ∃ k es, k < n ∧
        s.Emits (setups conf (src.withPort 0) k (firstFd + s.sockets.size) ++ es) t ∧
          Unready conf (slot + k : Nat) (firstFd + s.sockets.size + k) es ∧
            t.members = pre ++ freshSockets k (firstFd + s.sockets.size) slot := by
  -- on the sockets to come; those before them are the members `pre` of the group
  induction n generalizing s slot pre with
  | zero => exact ⟨.refl s, by simpa [freshSockets] using hpre, fun h => absurd rfl h⟩
  | succ n ih =>
    rw [openSlots]
    refine meets_bind.2 ((createProbeSocket_spec slot hs).mono ?_ ?_)
    · rintro p t ⟨rfl, ht, hbyte⟩
      rw [meets_bind, addToGroup, meets_modify]
      have hsize : t.sockets.size = s.sockets.size + 1 := by
        rw [ht.size_eq, openedFds_setup, List.length_singleton]
      -- the new socket joins the group before the next one is created
      set u : State := { t with group := { t.group with
        sockets := t.group.sockets.push { fd := firstFd + s.sockets.size, slot } } }
      have hu : s.Emits (setup conf (src.withPort 0) (firstFd + s.sockets.size)) u :=
        ht.toEmits.then_nil (.of_eq rfl rfl)
      have hmembers : u.members = pre ++ [{ fd := firstFd + s.sockets.size, slot }] := by
        rw [← hpre, ← ht.members_eq]
        simp [State.members, u]
      have hsource : u.source = some src := ht.source_eq.trans hs
      have hbase : firstFd + u.sockets.size = firstFd + s.sockets.size + 1 := by
        rw [show u.sockets.size = t.sockets.size from rfl, hsize, Nat.add_assoc]
      have hrest := ih (slot + 1) hsource hmembers
      rw [hbase] at hrest
      refine hrest.mono ?_ ?_
      · rintro _ v ⟨hv, hmembers', -⟩
        refine ⟨hu.trans hv, ?_, fun _ => hbyte⟩
        rw [hmembers', freshSockets, ← List.append_cons]
      · rintro f v ⟨k, es, hk, hv, hunready, hmembers'⟩
        refine ⟨k + 1, es, by omega, ?_, ?_, ?_⟩
        · rw [setups, List.append_assoc]
          exact hu.trans hv
        · rw [Nat.add_comm k 1, ← Nat.add_assoc, ← Nat.add_assoc]
          exact hunready
        · rw [hmembers', freshSockets, ← List.append_cons]
    -- this socket is the one that is not made ready
    · rintro f t ⟨es, ht, hunready⟩
      refine ⟨0, es, by omega, ht.toEmits, hunready, ?_⟩
      simpa [freshSockets] using ht.members_eq.trans hpre

/-- Opening a group that is empty makes all its sockets ready, or leaves a part of it. -/
theorem openGroup_spec (conf : RunConfig) (hs : s.source = some src) (hempty : s.members = []) :
    Meets (openGroup conf) s
      (fun _ t => s.Emits (setups conf (src.withPort 0) s.group.size.toNat
          (firstFd + s.sockets.size)) t ∧
        t.members = freshSockets s.group.size.toNat (firstFd + s.sockets.size) 0 ∧
          (s.group.size.toNat ≠ 0 → conf.tos ≠ 0 → RunConfig.isTos conf.tos = true))
      fun _ t => ∃ k es, k < s.group.size.toNat ∧
        s.Emits (setups conf (src.withPort 0) k (firstFd + s.sockets.size) ++ es) t ∧
          Unready conf (k : Nat) (firstFd + s.sockets.size + k) es ∧
            t.members = freshSockets k (firstFd + s.sockets.size) 0 := by
  rw [openGroup, meets_bind, meets_get]
  refine meets_bind.2 ((openSlots_spec _ 0 hs hempty).mono ?_ ?_)
  · rintro _ t ⟨ht, hmembers, hbyte⟩
    rw [meets_bind, meets_get, meets_say]
    exact ⟨ht.then_nil (.of_eq rfl rfl), hmembers, hbyte⟩
  · rintro f t ⟨k, es, hk, ht, hunready, hmembers⟩
    rw [Nat.zero_add] at hunready
    exact ⟨k, es, hk, ht, hunready, hmembers⟩

end Probe

/-! ## Closing -/

/-- The events of closing the sockets of a group, which end early only at one that fails. -/
inductive Closes : List Nat → List Event → Prop where
  | done : Closes [] []
  | stopped (fd : Nat) (fds : List Nat) (g : Fault) : Closes (fd :: fds) [.call fd .close (some g)]
  | next {fds : List Nat} {es : List Event} (fd : Nat) (o : Option Fault) (h : Closes fds es) :
      Closes (fd :: fds) (.call fd .close o :: es)

namespace Probe

open State (After Emits)

variable {conf : RunConfig} {s : State} {src : Endpoint}

theorem closeSocket_spec (m : ProbeSocket) (s : State) :
    Meets (closeSocket m) s (fun _ t => ∃ o, s.After [.call m.fd .close o] t)
      fun _ t => ∃ g, s.After [.call m.fd .close (some g)] t := by
  rw [closeSocket, meets_tryCatch]
  refine (close_makes m.fd s).mono (fun _ t ht => ⟨none, ht⟩) ?_
  rintro _ t ⟨g, rfl, ht⟩
  -- an error of the system is only said, so the other sockets are closed too
  split
  · rw [meets_bind, meets_number]
    split
    · exact ⟨some g, ht.then_eq (.of_eq rfl rfl rfl rfl)⟩
    · exact ⟨g, ht⟩
  · exact ⟨g, ht⟩

theorem closeSockets_spec (ms : List ProbeSocket) (s : State) :
    Meets (closeSockets ms) s (fun _ t => ∃ es, s.Emits es t ∧ Closes (ms.map (·.fd)) es)
      fun _ t => ∃ es, s.Emits es t ∧ Closes (ms.map (·.fd)) es := by
  induction ms generalizing s with
  | nil => exact ⟨[], .refl s, .done⟩
  | cons m ms ih =>
    refine meets_bind.2 ((closeSocket_spec m s).mono ?_ ?_)
    · rintro _ t ⟨o, ht⟩
      have hgrow {u : State} (hu : ∃ es, t.Emits es u ∧ Closes (ms.map (·.fd)) es) :
          ∃ es, s.Emits es u ∧ Closes ((m :: ms).map (·.fd)) es := by
        obtain ⟨es, hes, hcloses⟩ := hu
        exact ⟨_, ht.toEmits.trans hes, .next m.fd o hcloses⟩
      exact (ih t).mono (fun _ _ => hgrow) fun _ _ => hgrow
    · rintro f t ⟨g, ht⟩
      exact ⟨_, ht.toEmits, .stopped m.fd _ g⟩

theorem closeGroup_spec (s : State) :
    Meets closeGroup s (fun _ t => ∃ es, s.Emits es t ∧ Closes (s.members.map (·.fd)) es)
      fun _ t => ∃ es, s.Emits es t ∧ Closes (s.members.map (·.fd)) es := by
  rw [closeGroup, meets_bind, meets_get]
  refine meets_bind.2 ((closeSockets_spec s.members s).mono ?_ fun _ _ hf => hf)
  rintro _ t ⟨es, hes, hcloses⟩
  exact ⟨es, hes.then_nil (.of_eq rfl rfl), hcloses⟩

end Probe

end RdsReach
