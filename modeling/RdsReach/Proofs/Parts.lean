import RdsReach.Proofs.Conduct

/-!
# The parts of a run

The parts of a conducted run do not touch the same descriptors, so that what happens on one
descriptor can be read off part by part:

* `Within lo hi es` bounds the descriptors that a part is about, and the sockets that it opens are
  told by their kind;
* `Conducted.split` parts a run into the lookup of its source and the rest;
* `Conducted.setup_first` parts a run that comes to serving its sockets into the setup, which is
  complete and without a fault, and the rest, which sets nothing up.
-/

namespace RdsReach

/-! ## Descriptors -/

/-- The events are about no other descriptors than those from `lo` up to `hi`. -/
def Within (lo hi : Nat) (es : List Event) : Prop :=
  ∀ e ∈ es, ∀ fd, e.fd? = some fd → lo ≤ fd ∧ fd < hi

theorem Within.eventsAt_eq_nil {lo hi fd : Nat} {es : List Event} (h : Within lo hi es)
    (hfd : fd < lo ∨ hi ≤ fd) : eventsAt fd es = [] := by
  refine RdsReach.eventsAt_eq_nil fun e he heq => ?_
  have := h e he fd heq
  omega

theorem within_eventsOn (fd : Nat) (cs : List (Call × Option Fault)) :
    Within fd (fd + 1) (eventsOn fd cs) := by
  intro e he g hg
  rw [fd?_of_mem_eventsOn he] at hg
  obtain rfl := Option.some.inj hg
  omega

/-- The events on a new descriptor. -/
theorem within_opened (kind : SocketKind) (fd : Nat) (cs : List (Call × Option Fault)) :
    Within fd (fd + 1) (.opened kind fd :: eventsOn fd cs) := by
  intro e he g hg
  rcases List.mem_cons.1 he with rfl | he
  · obtain rfl := Option.some.inj hg
    omega
  · exact within_eventsOn fd cs e he g hg

theorem eventsAt_opened (kind : SocketKind) (fd : Nat) (cs : List (Call × Option Fault)) :
    eventsAt fd (.opened kind fd :: eventsOn fd cs) = .opened kind fd :: eventsOn fd cs :=
  eventsAt_eq_self <| List.forall_mem_cons.2 ⟨rfl, fun _ he => fd?_of_mem_eventsOn he⟩

theorem Guess.within {guess : List Event} (h : Guess firstFd guess) :
    Within firstFd (nextFd guess) guess := by
  cases h with
  | spared => simp [Within]
  | unopened v g => simp [Within, Event.fd?]
  | @closed v cs hcs o =>
    have hnext : nextFd (.opened (.udp v) firstFd :: eventsOn firstFd (cs ++ [(.close, o)])) =
        firstFd + 1 := by
      rw [nextFd, ← List.singleton_append, openedFds_append, openedFds_eventsOn]
      rfl
    rw [hnext]
    exact within_opened _ _ _

theorem Within.mono {lo hi lo' hi' : Nat} {es : List Event} (h : Within lo hi es) (hlo : lo' ≤ lo)
    (hhi : hi ≤ hi') : Within lo' hi' es := by
  intro e he fd hfd
  have := h e he fd hfd
  omega

theorem Within.append {lo hi : Nat} {es es' : List Event} (h : Within lo hi es)
    (h' : Within lo hi es') : Within lo hi (es ++ es') := List.forall_mem_append.2 ⟨h, h'⟩

theorem Guess.not_rds {guess : List Event} (h : Guess firstFd guess) {fd : Nat} :
    .opened .rds fd ∉ guess := by
  cases h with
  | spared => simp
  | unopened v g => simp
  | closed v hcs o => simp [eventsOn]

theorem within_setups (conf : RunConfig) (source : Endpoint) (n fd : Nat) :
    Within fd (fd + n) (setups conf source n fd) := by
  induction n generalizing fd with
  | zero => simp [setups, Within]
  | succ n ih =>
    have hsetup : Within fd (fd + (n + 1)) (setup conf source fd) :=
      (within_opened _ _ _).mono (by omega) (by omega)
    exact hsetup.append ((ih (fd + 1)).mono (by omega) (by omega))

theorem eventsAt_setups (conf : RunConfig) (source : Endpoint) {n fd g : Nat} (hlo : fd ≤ g)
    (hhi : g < fd + n) : eventsAt g (setups conf source n fd) = setup conf source g := by
  induction n generalizing fd with
  | zero => omega
  | succ n ih =>
    rw [setups, eventsAt_append]
    -- the setup is at the front, or further behind
    by_cases heq : g = fd
    · subst heq
      rw [(within_setups conf source n (g + 1)).eventsAt_eq_nil (by omega), List.append_nil, setup,
        eventsAt_opened]
    · have hhead : eventsAt g (setup conf source fd) = [] :=
        (within_opened .rds fd (readyCalls conf source)).eventsAt_eq_nil (by omega)
      rw [hhead, List.nil_append, ih (by omega) (by omega)]

theorem Unready.within {conf : RunConfig} {slot : Int} {fd : Nat} {es : List Event}
    (h : Unready conf slot fd es) : Within fd (fd + 1) es := by
  cases h with
  | unopened g => simp [Within, Event.fd?]
  | closed hcs o => exact within_opened _ _ _
  | leftOpen hcs hwhy => exact within_opened _ _ _

theorem Closes.mem {fds : List Nat} {es : List Event} (h : Closes fds es) :
    ∀ e ∈ es, ∃ fd ∈ fds, ∃ o, e = .call fd .close o := by
  induction h with
  | done => simp
  | stopped fd fds g =>
    intro e he
    exact ⟨fd, List.mem_cons_self, some g, List.mem_singleton.1 he⟩
  | next fd o _ ih =>
    intro e he
    rcases List.mem_cons.1 he with rfl | he
    · exact ⟨fd, List.mem_cons_self, o, rfl⟩
    · obtain ⟨g, hg, o', rfl⟩ := ih e he
      exact ⟨g, List.mem_cons_of_mem _ hg, o', rfl⟩

theorem Closes.not_opened {fds : List Nat} {es : List Event} (h : Closes fds es) {kind : SocketKind}
    {fd : Nat} : .opened kind fd ∉ es := by
  intro hfd
  obtain ⟨g, -, o, he⟩ := h.mem _ hfd
  cases he

theorem Closes.within {fd n : Nat} {es : List Event} (h : Closes (List.range' fd n) es) :
    Within fd (fd + n) es := by
  intro e he g hg
  obtain ⟨g', hg', o, rfl⟩ := h.mem e he
  obtain rfl := Option.some.inj hg
  exact List.mem_range'_1.1 hg'

/-- A socket of a group is closed at most once, and it is closed unless a close failed. -/
theorem Closes.eventsAt_eq {fds : List Nat} {es : List Event} (h : Closes fds es)
    (hnodup : fds.Nodup) {fd : Nat} (hfd : fd ∈ fds) :
    ∃ close : Option (Option Fault),
      eventsAt fd es = eventsOn fd (close.toList.map fun o => (.close, o)) ∧
        (close = none → ∃ g f, .call g .close (some f) ∈ es) := by
  induction h with
  | done => cases hfd
  | stopped fd' fds g =>
    by_cases heq : fd' = fd
    · subst heq
      exact ⟨some (some g), eventsAt_eq_self (by simp [Event.fd?]), by simp⟩
    · refine ⟨none, RdsReach.eventsAt_eq_nil (by simpa [Event.fd?] using heq), fun _ => ?_⟩
      exact ⟨fd', g, List.mem_singleton_self _⟩
  -- the close at the front is about this descriptor, or about one that is not closed again
  | @next fds es fd' o hrest ih =>
    obtain ⟨hhead, htail⟩ := List.nodup_cons.1 hnodup
    rw [← List.singleton_append, eventsAt_append]
    by_cases heq : fd' = fd
    · subst heq
      have hnil : eventsAt fd' es = [] := by
        refine RdsReach.eventsAt_eq_nil fun e he hfd => ?_
        obtain ⟨g, hg, o', rfl⟩ := hrest.mem e he
        exact hhead (Option.some.inj hfd ▸ hg)
      refine ⟨some o, ?_, by simp⟩
      rw [hnil, List.append_nil]
      exact eventsAt_eq_self (by simp [Event.fd?])
    · obtain ⟨close, hclose, hwhy⟩ := ih htail ((List.mem_cons.1 hfd).resolve_left (Ne.symm heq))
      refine ⟨close, ?_, fun hnone => ?_⟩
      · rw [hclose, RdsReach.eventsAt_eq_nil (by simpa [Event.fd?] using heq), List.nil_append]
      · obtain ⟨g, f, hmem⟩ := hwhy hnone
        exact ⟨g, f, List.mem_cons_of_mem _ hmem⟩

theorem Serves.within {conf : RunConfig} {spinner : Option Int} {replies : List QueueReply}
    {n fd : Nat} {es : List Event} {o : Except Failure (Option SendFailure)} {ms : List ProbeSocket}
    (h : Serves conf spinner replies (freshSockets n fd 0) es o ms) : Within fd (fd + n) es := by
  intro e he g hg
  obtain ⟨m, hm, c, f, rfl, -⟩ := h.on_member e he
  obtain rfl := Option.some.inj hg
  have hmem : m.fd ∈ (freshSockets n fd 0).map (·.fd) := List.mem_map_of_mem hm
  rw [map_fd_freshSockets] at hmem
  exact List.mem_range'_1.1 hmem

/-! ## Sockets that are opened -/

theorem opened_mem_setups {conf : RunConfig} {source : Endpoint} {n fd g : Nat} {kind : SocketKind}
    (h : .opened kind g ∈ setups conf source n fd) : kind = .rds := by
  induction n generalizing fd with
  | zero => cases h
  | succ n ih =>
    rcases List.mem_append.1 h with h | h
    · rcases List.mem_cons.1 h with h | h
      · injection h
      · simp [eventsOn] at h
    · exact ih h

theorem Unready.opened_mem {conf : RunConfig} {slot : Int} {fd g : Nat} {es : List Event}
    {kind : SocketKind} (h : Unready conf slot fd es) (hg : .opened kind g ∈ es) : kind = .rds := by
  cases h with
  | unopened f => simp at hg
  | closed hcs o =>
    rcases List.mem_cons.1 hg with hg | hg
    · injection hg
    · simp [eventsOn] at hg
  | leftOpen hcs hwhy =>
    rcases List.mem_cons.1 hg with hg | hg
    · injection hg
    · simp [eventsOn] at hg

theorem Serves.not_opened {conf : RunConfig} {spinner : Option Int} {replies : List QueueReply}
    {ms ms' : List ProbeSocket} {es : List Event} {o : Except Failure (Option SendFailure)}
    (h : Serves conf spinner replies ms es o ms') {kind : SocketKind} {fd : Nat} :
    .opened kind fd ∉ es := by
  intro hfd
  obtain ⟨m, hm, c, f, he, -⟩ := h.on_member _ hfd
  cases he

/-! ## The lookup and the rest -/

/-- After the lookup of the source a run uses new descriptors, and RDS sockets only. -/
theorem Conducted.split {conf : RunConfig} {es : List Event}
    {o : Option (Except Failure (Option SendFailure) × List ProbeSocket)}
    (h : Conducted conf es o) :
    ∃ guess rest, es = guess ++ rest ∧ Guess firstFd guess ∧
      (∀ e ∈ rest, ∀ fd, e.fd? = some fd → nextFd guess ≤ fd) ∧
        ∀ kind fd, .opened kind fd ∈ rest → kind = .rds := by
  cases h with
  | unannounced hguess => exact ⟨es, [], by simp, hguess, by simp, by simp⟩
  | @unopened guess failing closes k source hguess hfaultless hk hfailing hcloses =>
    refine ⟨guess, _, List.append_assoc .., hguess, ?_, ?_⟩
    · intro e he fd hfd
      rcases List.mem_append.1 he with he | he
      · rcases List.mem_append.1 he with he | he
        · exact (within_setups _ _ _ _ e he fd hfd).1
        · have := (hfailing.within e he fd hfd).1
          omega
      · exact (hcloses.within e he fd hfd).1
    · intro kind fd hfd
      rcases List.mem_append.1 hfd with hfd | hfd
      · rcases List.mem_append.1 hfd with hfd | hfd
        · exact opened_mem_setups hfd
        · exact hfailing.opened_mem hfd
      · exact absurd hfd hcloses.not_opened
  | @served guess es closes replies o ms source hguess hfaultless htos hserves hcloses =>
    refine ⟨guess, setups conf source conf.size (nextFd guess) ++ (es ++ closes), by simp, hguess,
      ?_, ?_⟩
    · intro e he fd hfd
      rcases List.mem_append.1 he with he | he
      · exact (within_setups _ _ _ _ e he fd hfd).1
      · rcases List.mem_append.1 he with he | he
        · exact (hserves.within e he fd hfd).1
        · exact (hcloses.within e he fd hfd).1
    · intro kind fd hfd
      rcases List.mem_append.1 hfd with hfd | hfd
      · exact opened_mem_setups hfd
      · rcases List.mem_append.1 hfd with hfd | hfd
        · exact absurd hfd hserves.not_opened
        · exact absurd hfd hcloses.not_opened

/-! ## Setup and service -/

/-- No packet was sent and no queue was asked. -/
def Idle (es : List Event) : Prop := ∀ e ∈ es, e.isService = false

theorem Idle.append {es es' : List Event} (h : Idle es) (h' : Idle es') : Idle (es ++ es') :=
  List.forall_mem_append.2 ⟨h, h'⟩

theorem Faultless.append {es es' : List Event} (h : Faultless es) (h' : Faultless es') :
    Faultless (es ++ es') := List.forall_mem_append.2 ⟨h, h'⟩

theorem idle_opened {kind : SocketKind} {fd : Nat} {cs : List (Call × Option Fault)}
    (h : ∀ c ∈ cs, c.1.isService = false) : Idle (.opened kind fd :: eventsOn fd cs) := by
  refine List.forall_mem_cons.2 ⟨rfl, fun e he => ?_⟩
  obtain ⟨c, hc, rfl⟩ := List.mem_map.1 he
  exact h c hc

theorem Call.isService_of_isRoute {c : Call} (h : c.isRoute = true) : c.isService = false := by
  cases c with
  | connect a => rfl
  | localName => rfl
  | _ => cases h

theorem Guess.idle {guess : List Event} (h : Guess firstFd guess) : Idle guess := by
  cases h with
  | spared => simp [Idle]
  | unopened v g => simp [Idle, Event.isService]
  | closed v hcs o =>
    refine idle_opened (List.forall_mem_append.2 ⟨fun c hc => ?_, by simp; rfl⟩)
    exact Call.isService_of_isRoute (hcs c hc)

theorem Halted.idle {conf : RunConfig} {cs : List (Call × Option Fault)} (h : Halted conf cs) :
    ∀ c ∈ cs, c.1.isService = false := by
  cases h <;> simp [Call.isService, Call.isSend, Call.isQuery]

theorem Unready.idle {conf : RunConfig} {slot : Int} {fd : Nat} {es : List Event}
    (h : Unready conf slot fd es) : Idle es := by
  cases h with
  | unopened g => simp [Idle, Event.isService]
  | closed hcs o => exact idle_opened (List.forall_mem_append.2 ⟨hcs.idle, by simp; rfl⟩)
  | leftOpen hcs hwhy => exact idle_opened hcs.idle

theorem Closes.idle {fds : List Nat} {es : List Event} (h : Closes fds es) : Idle es := by
  intro e he
  obtain ⟨fd, -, o, rfl⟩ := h.mem e he
  rfl

section Setups

variable (conf : RunConfig) (source : Endpoint)

theorem idle_setups (n fd : Nat) : Idle (setups conf source n fd) := by
  induction n generalizing fd with
  | zero => simp [setups, Idle]
  | succ n ih =>
    have hready : ∀ c ∈ readyCalls conf source, c.1.isService = false := by
      unfold readyCalls
      split <;> simp [Call.isService, Call.isSend, Call.isQuery]
    exact (idle_opened hready).append (ih (fd + 1))

theorem faultless_setups (n fd : Nat) : Faultless (setups conf source n fd) := by
  induction n generalizing fd with
  | zero => simp [setups, Faultless]
  | succ n ih =>
    have hsetup : Faultless (setup conf source fd) := by
      unfold setup readyCalls
      split <;> simp [Faultless, eventsOn, Event.fault?]
    exact hsetup.append (ih (fd + 1))

theorem setup_subset_setups {n fd g : Nat} (hlo : fd ≤ g) (hhi : g < fd + n) :
    setup conf source g ⊆ setups conf source n fd := by
  rw [← eventsAt_setups conf source hlo hhi]
  exact List.filter_subset_self _

end Setups

/-- All sockets of a run, and no others, were created, and each of them was bound and, if the run
has a type of service, given it. -/
def AllReady (conf : RunConfig) (es : List Event) : Prop :=
  ∃ fds : List Nat, fds.Nodup ∧ (fds.length : Int) = conf.groupSize ∧
    (∀ fd, .opened .rds fd ∈ es ↔ fd ∈ fds) ∧
      ∀ fd ∈ fds, (∃ a, .call fd (.bind a) none ∈ es) ∧
        (conf.tos ≠ 0 → .call fd (.setTos conf.tosByte) none ∈ es)

/-- Sockets stay ready, and no others come, where nothing is set up. -/
theorem AllReady.append {conf : RunConfig} {es es' : List Event} (h : AllReady conf es)
    (hes' : ∀ e ∈ es', e.isSetup = false) : AllReady conf (es ++ es') := by
  obtain ⟨fds, hnodup, hlength, hopened, hready⟩ := h
  refine ⟨fds, hnodup, hlength, fun fd => ?_, fun fd hfd => ?_⟩
  · rw [List.mem_append, hopened, or_iff_left]
    intro hmem
    cases hes' _ hmem
  · obtain ⟨⟨a, hbind⟩, htos⟩ := hready fd hfd
    exact ⟨⟨a, List.mem_append_left _ hbind⟩, fun hne => List.mem_append_left _ (htos hne)⟩

theorem allReady_setups {conf : RunConfig} (hchecked : conf.Checked) (source : Endpoint)
    {guess : List Event} (hguess : Guess firstFd guess) (fd : Nat) :
    AllReady conf (guess ++ setups conf source conf.size fd) := by
  refine ⟨List.range' fd conf.size, List.nodup_range', ?_, fun g => ?_, fun g hg => ?_⟩
  · rw [List.length_range', hchecked.size_eq]
  · rw [List.mem_append, or_iff_right hguess.not_rds, List.mem_range'_1]
    constructor
    · exact fun hmem => within_setups _ _ _ _ _ hmem g rfl
    · rintro ⟨hlo, hhi⟩
      exact setup_subset_setups _ _ hlo hhi List.mem_cons_self
  · obtain ⟨hlo, hhi⟩ := List.mem_range'_1.1 hg
    have hsub := setup_subset_setups conf source hlo hhi
    refine ⟨⟨source.sockAddr, List.mem_append_right _ (hsub ?_)⟩,
      fun hne => List.mem_append_right _ (hsub ?_)⟩
    · simp [setup, readyCalls, eventsOn]
    · simp [setup, readyCalls, eventsOn, hne]

/-- A run that does not come to serving its sockets sends no packet and asks no queue. -/
theorem Conducted.idle {conf : RunConfig} {es : List Event} (h : Conducted conf es none) :
    Idle es := by
  cases h with
  | unannounced hguess => exact hguess.idle
  | unopened source hguess hfaultless hk hfailing hcloses =>
    exact (hguess.idle.append ((idle_setups _ _ _ _).append hfailing.idle)).append hcloses.idle

/-- A run that comes to serving its sockets has set all of them up before, without a fault, and sets
nothing up afterwards. -/
theorem Conducted.setup_first {conf : RunConfig} {es : List Event}
    {o : Except Failure (Option SendFailure) × List ProbeSocket} (h : Conducted conf es (some o))
    (hchecked : conf.Checked) :
    ∃ before after, es = before ++ after ∧ Idle before ∧ Faultless before ∧ AllReady conf before ∧
      ∀ e ∈ after, e.isSetup = false := by
  cases h with
  | @served guess es closes replies o ms source hguess hfaultless htos hserves hcloses =>
    refine ⟨_, es ++ closes, List.append_assoc .., hguess.idle.append (idle_setups _ _ _ _),
      hfaultless.append (faultless_setups _ _ _ _), allReady_setups hchecked source hguess _, ?_⟩
    refine List.forall_mem_append.2 ⟨fun e he => ?_, fun e he => ?_⟩
    -- serving and closing a group sets nothing up
    · obtain ⟨m, hm, c, f, rfl, hc⟩ := hserves.on_member e he
      cases c with
      | send a => rfl
      | queryQueue => rfl
      | _ => simp [Call.isSend, Call.isQuery] at hc
    · obtain ⟨fd, -, o, rfl⟩ := hcloses.mem e he
      rfl

end RdsReach
