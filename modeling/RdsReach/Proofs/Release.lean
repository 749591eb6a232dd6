import RdsReach.Proofs.Faithful.Run
import RdsReach.Proofs.OneSource

/-!
# What the creation of a socket leaves open

Creating a socket of a group opens an RDS socket and, to find out the source, a UDP helper. Where
closing works, the helper is closed again however that ends. The RDS socket is closed if the
creation fails in a way that is reported. A failure that is not reported, such as an interrupt,
leaves it open.
-/

namespace RdsReach

namespace State

variable {s t : State}

/-! ## Open sockets -/

/-- Is there an open socket at this place? -/
def isOpenAt (sockets : Array Socket) (i : Nat) : Bool := (sockets[i]?.map (·.isOpen)).getD false

theorem openFds_eq (s : State) :
    s.openFds = ((List.range s.sockets.size).filter (isOpenAt s.sockets)).map (· + firstFd) := rfl

theorem lt_of_mem_openFds {fd : Nat} (h : fd ∈ s.openFds) : fd < firstFd + s.sockets.size := by
  obtain ⟨i, hi, rfl⟩ := List.mem_map.1 h
  have hlt := List.mem_range.1 (List.mem_filter.1 hi).1
  omega

/-- A new socket is open, and the others are as before. -/
theorem openFds_addSocket (script : SocketScript) (s : State) :
    (Probe.addSocket script s).openFds = s.openFds ++ [firstFd + s.sockets.size] := by
  have hsockets : (Probe.addSocket script s).sockets = s.sockets.push { script } := rfl
  have hold : ∀ i ∈ List.range s.sockets.size,
      isOpenAt (s.sockets.push { script }) i = isOpenAt s.sockets i := by
    intro i hi
    have hne : i ≠ s.sockets.size := Nat.ne_of_lt (List.mem_range.1 hi)
    rw [isOpenAt, Array.getElem?_push, if_neg hne, isOpenAt]
  have hnew : isOpenAt (s.sockets.push { script }) s.sockets.size = true := by
    rw [isOpenAt, Array.getElem?_push_size]
    rfl
  rw [openFds_eq, openFds_eq, hsockets, Array.size_push, List.range_succ, List.filter_append,
    List.map_append, List.filter_congr hold, List.filter_singleton, hnew, Nat.add_comm firstFd]
  rfl

/-- A socket that is shut is open no more, and the others are as before. -/
theorem openFds_shut (i : Nat) (s : State) :
    State.openFds
        { s with sockets := s.sockets.modify i fun x => { x with isOpen := false } } =
      s.openFds.filter fun fd => fd ≠ firstFd + i := by
  have hplaces : ∀ j ∈ List.range s.sockets.size,
      isOpenAt (s.sockets.modify i fun x => { x with isOpen := false }) j =
        (decide (j + firstFd ≠ firstFd + i) && isOpenAt s.sockets j) := by
    intro j _
    rw [isOpenAt, Array.getElem?_modify, isOpenAt]
    by_cases hj : i = j
    · rw [if_pos hj, hj, Nat.add_comm]
      cases s.sockets[j]? <;> simp
    · have hne : j + firstFd ≠ firstFd + i := by omega
      rw [if_neg hj, decide_eq_true hne, Bool.true_and]
  rw [openFds_eq, openFds_eq, Array.size_modify, List.filter_congr hplaces, List.filter_map,
    List.filter_filter]
  rfl

/-- A socket that is opened last and shut again leaves the others as they were. -/
theorem filter_openFds (s : State) :
    (s.openFds ++ [firstFd + s.sockets.size]).filter (fun fd => fd ≠ firstFd + s.sockets.size) =
      s.openFds := by
  have hold : ∀ fd ∈ s.openFds, decide (fd ≠ firstFd + s.sockets.size) = true := by
    intro fd hfd
    exact decide_eq_true (Nat.ne_of_lt (lt_of_mem_openFds hfd))
  rw [List.filter_append, List.filter_eq_self.2 hold]
  simp

/-! ## What leaves open sockets alone -/

/-- The sockets stay as they are. -/
def SameSockets (s t : State) : Prop := t.sockets = s.sockets

instance : IsPreorder State SameSockets where
  refl _ := rfl
  trans _ _ _ h h' := Eq.trans h' h

theorem SameSockets.openFds_eq (h : s.SameSockets t) : t.openFds = s.openFds := by
  rw [openFds, h, openFds]

end State

namespace Probe

open State (After Emits SameSockets)

variable {α : Type} {conf : RunConfig} {s : State}

theorem finish_sameSockets (fd : Nat) (c : Call) (o : Option Fault) :
    Respects SameSockets (finish fd c o) := by
  have hnote : Respects SameSockets (modify (·.note (.call fd c o)) : Probe Unit) := fun _ => rfl
  apply hnote.bind
  intro _
  cases o with
  | none => exact .pure ()
  | some f => exact .throw _

theorem bind_sameSockets (fd : Nat) (address : SockAddr) :
    Respects SameSockets (bind fd address) :=
  (Respects.get.bind fun _ => .pure _).bind fun _ => finish_sameSockets _ _ _

theorem connect_sameSockets (fd : Nat) (address : SockAddr) :
    Respects SameSockets (connect fd address) :=
  (Respects.get.bind fun _ => .pure _).bind fun _ => finish_sameSockets _ _ _

theorem localName_sameSockets (fd : Nat) : Respects SameSockets (localName fd) :=
  (Respects.get.bind fun _ => .pure _).bind fun _ =>
    (finish_sameSockets _ _ _).bind fun _ => .pure _

theorem setTos_sameSockets (fd : Nat) (tos : UInt8) : Respects SameSockets (setTos fd tos) := by
  apply Respects.get.bind
  intro s
  apply Respects.get.bind
  intro t
  exact Respects.bind (.modify fun _ => rfl) fun _ => finish_sameSockets _ _ _

theorem connectedName_sameSockets (helper : Nat) (destination : Endpoint) :
    Respects SameSockets (connectedName helper destination) :=
  ((connect_sameSockets helper _).onFault _ _).bind fun _ =>
    (localName_sameSockets helper).onFault _ _

theorem readySocket_sameSockets (fd : Nat) (source : Endpoint) :
    Respects SameSockets (readySocket conf fd source) := by
  apply readySocket_respects
  · exact fun _ => bind_sameSockets fd source.sockAddr
  · exact fun _ byte => setTos_sameSockets fd byte

/-! ## Opening and closing -/

theorem createSocket_openFds (kind : SocketKind) (s : State) :
    Meets (createSocket kind) s (fun fd t => t.openFds = s.openFds ++ [fd])
      fun _ t => t.openFds = s.openFds := by
  have hcount : s.SameSockets (countAttempt s kind) := by cases kind <;> rfl
  simp only [createSocket, meets_bind, meets_get, meets_modify]
  split
  · exact hcount.openFds_eq
  · simp only [meets_bind, meets_get, meets_modify, meets_pure]
    show (addSocket (nextScript s kind) (countAttempt s kind)).openFds = _
    rw [State.openFds_addSocket, hcount.openFds_eq]

/-- Where closing works, the socket is open no more. -/
theorem close_openFds (i : Nat) (h : s.ClosesWork) :
    Meets (close (firstFd + i)) s
      (fun _ t => t.openFds = s.openFds.filter (fun fd => fd ≠ firstFd + i)) fun _ _ => False := by
  have hclose : Meets (close (firstFd + i)) s
      (fun _ t => t.openFds = s.openFds.filter (fun fd => fd ≠ firstFd + i))
      fun _ _ => True := by
    simp only [close, socketOf, meets_bind, meets_get, meets_pure]
    apply (finish_spec (firstFd + i) .close _ s).mono
    · intro _ t ht
      obtain ⟨-, rfl⟩ := ht
      rw [modifySocket, meets_modify, Nat.add_sub_cancel_left]
      exact State.openFds_shut i _
    · exact fun _ _ _ => trivial
  apply (hclose.and ((close_tidy (firstFd + i)).succeeds s h)).mono
  · exact fun _ _ ht => ht.1
  · exact fun _ _ hf => hf.2

/-- Where closing works, it works after a faithful action, too. -/
theorem Faithful.closesWork {action : Probe α} (h : Faithful action) (hs : s.ClosesWork) :
    Meets action s (fun _ t => t.ClosesWork) fun _ t => t.ClosesWork :=
  (h s).mono (fun _ _ ht => ht.closesWork hs) fun _ _ ht => ht.closesWork hs

/-! ## Creating a socket -/

/-- Where closing works, the helper is closed however finding out the source ends. -/
theorem guessSource_openFds (destination : Endpoint) (h : s.ClosesWork) :
    Meets (guessSource destination) s (fun _ t => t.openFds = s.openFds)
      fun _ t => t.openFds = s.openFds := by
  rw [guessSource, meets_bind, meets_onFault]
  have hcreate := (createSocket_openFds (.udp destination.version) s).and
    ((createSocket_spec (.udp destination.version) s).and ((createSocket_faithful _).closesWork h))
  apply hcreate.mono
  · intro helper t ht
    obtain ⟨hopen, ⟨rfl, -⟩, hworks⟩ := ht
    have hclose {u : State} (hu : t.SameSockets u) (hworks : u.ClosesWork) :
        Meets (close (firstFd + s.sockets.size)) u (fun _ v => v.openFds = s.openFds)
          fun _ _ => False := by
      apply (close_openFds s.sockets.size hworks).mono
      · intro _ v hv
        rw [hv, hu.openFds_eq, hopen, State.filter_openFds]
      · exact fun _ _ hf => hf
    rw [meets_bind, meets_ensuring]
    apply ((connectedName_sameSockets _ (destination.withPort routePort) t).and
      ((connectedName_faithful _ _).closesWork hworks)).mono
    · intro name u hu
      apply (hclose hu.1 hu.2).mono
      · intro _ v hv
        rw [meets_bind, meets_ofExcept]
        split
        · exact hv
        · exact hv
      · exact fun _ _ hf => hf.elim
    · intro f u hu
      apply (hclose hu.1 hu.2).mono
      · exact fun _ _ hv => hv
      · exact fun _ _ hf => hf.elim
  · intro f t ht
    obtain ⟨hopen, ⟨g, rfl, -⟩, -⟩ := ht
    exact hopen

theorem sourceEndpoint_openFds (conf : RunConfig) (h : s.ClosesWork) :
    Meets (sourceEndpoint conf) s (fun _ t => t.openFds = s.openFds)
      fun _ t => t.openFds = s.openFds := by
  rw [sourceEndpoint, meets_bind, meets_get]
  cases s.source with
  | some src => exact rfl
  | none =>
    dsimp only
    rw [meets_bind]
    exact guessSource_openFds conf.destination h

/-- Where closing works, making a socket ready leaves open what was open. -/
theorem prepare_openFds (conf : RunConfig) (fd : Nat) (h : s.ClosesWork) :
    Meets (prepare conf fd) s (fun _ t => t.openFds = s.openFds)
      fun _ t => t.openFds = s.openFds := by
  rw [prepare_eq, meets_bind]
  apply (sourceEndpoint_openFds conf h).mono
  · intro source t ht
    apply (readySocket_sameSockets fd source t).mono
    · exact fun _ _ hu => hu.openFds_eq.trans ht
    · exact fun _ _ hu => hu.openFds_eq.trans ht
  · exact fun _ _ ht => ht

/-- Where closing works, creating a socket leaves open that socket and what was open before. A
creation that fails leaves open what was open before if the failure is reported or came before the
RDS socket was there. Any other failure leaves the RDS socket open, too, and still no helper. -/
theorem createProbeSocket_releases (conf : RunConfig) (slot : Int) (h : s.ClosesWork) :
    Meets (createProbeSocket conf slot) s
      (fun m t => m.fd = firstFd + s.sockets.size ∧ t.openFds = s.openFds ++ [m.fd])
      fun f t => (∃ g, s.Emits [.notOpened .rds g] t ∧ t.openFds = s.openFds) ∨
        ∃ es, s.Emits (.opened .rds (firstFd + s.sockets.size) :: es) t ∧
          t.openFds =
            if f.isReported then s.openFds else s.openFds ++ [firstFd + s.sockets.size] := by
  rw [createProbeSocket, meets_bind, meets_onFault]
  have hcreate := (createSocket_openFds .rds s).and
    ((createSocket_spec .rds s).and ((createSocket_faithful .rds).closesWork h))
  apply hcreate.mono
  · intro fd t ht
    obtain ⟨hopen, ⟨rfl, ht⟩, hworks⟩ := ht
    rw [meets_bind, meets_undoing]
    have hprepare := (prepare_openFds conf (firstFd + s.sockets.size) hworks).and
      ((prepare_lookup conf (firstFd + s.sockets.size) t).and
        ((prepare_faithful conf _).closesWork hworks))
    apply hprepare.mono
    · intro source u hu
      obtain ⟨hsame, ⟨es, src, -, -, -, -, hu⟩, -⟩ := hu
      have hleft : u.openFds = s.openFds ++ [firstFd + s.sockets.size] := hsame.trans hopen
      rw [meets_bind, meets_number]
      split
      · rw [meets_bind, meets_say, meets_pure]
        exact ⟨rfl, hleft⟩
      -- the slot is too long a number to be told, and no one closes the socket for that
      · exact .inr ⟨_, ht.toEmits.trans hu, hleft⟩
    · intro f u hu
      obtain ⟨hsame, ⟨es, _, cs, -, -, hu, -⟩, hworks⟩ := hu
      have hleft : u.openFds = s.openFds ++ [firstFd + s.sockets.size] := hsame.trans hopen
      by_cases hreported : f.isReported = true
      · rw [if_pos hreported]
        apply ((close_openFds s.sockets.size hworks).and (close_makes _ u)).mono
        · intro _ v hv
          refine .inr ⟨_, (ht.toEmits.trans hu).trans hv.2.toEmits, ?_⟩
          rw [if_pos hreported, hv.1, hleft, State.filter_openFds]
        · exact fun _ _ hf => hf.1.elim
      · rw [if_neg hreported]
        refine .inr ⟨_, ht.toEmits.trans hu, ?_⟩
        rw [if_neg hreported, hleft]
  · intro f t ht
    obtain ⟨hopen, ⟨g, rfl, ht⟩, -⟩ := ht
    exact .inl ⟨g, ht.toEmits, hopen⟩

set_option maxRecDepth 1000 in
/-- There is no route to the destination, and the helper and the socket are closed. -/
theorem createProbeSocket_releases_unrouted :
    let conf : RunConfig := { destination := { address := .v4 ⟨192, 0, 2, 7⟩ } }
    let s : State := { world := { udp := [{ connect := some (.system (some 101)) }] } }
    s.ClosesWork ∧ ∃ t, t.openFds = [] ∧
      createProbeSocket conf 0 s =
        .error (.setup .route (.connect conf.destination.address) 101) t := by
  intro conf s
  have hworks : s.ClosesWork := by simp [State.ClosesWork, State.Raises, State.scripts, s]
  refine ⟨hworks, _, ?_, rfl⟩
  obtain ⟨g, -, hopen⟩ | ⟨es, -, hopen⟩ :=
    (createProbeSocket_releases conf 0 hworks).of_error rfl
  · exact hopen
  · exact hopen

/-- An interrupt while the socket is bound leaves the socket open. -/
theorem createProbeSocket_interrupted :
    let conf : RunConfig :=
      { destination := { address := .v4 ⟨127, 0, 0, 1⟩ }
        source := some { address := .v4 ⟨127, 0, 0, 1⟩ } }
    let s : State := { world := { rds := [{ bind := some .interrupt }] }, source := conf.source }
    s.ClosesWork ∧ s.openFds = [] ∧
      ∃ t, createProbeSocket conf 0 s = .error (.fault .interrupt) t ∧ t.openFds = [100] := by
  intro conf s
  have hworks : s.ClosesWork := by simp [State.ClosesWork, State.Raises, State.scripts, s]
  exact ⟨hworks, rfl, _, rfl, rfl⟩

end Probe

end RdsReach
