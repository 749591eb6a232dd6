import RdsReach.Proofs.Quiet

/-!
# The parts of a run account for their faults

From the calls up to the whole program: every part of a run is `Faithful`. The cleanups of the
program are `Tidy`, so that none of them puts another failure in the place of an interrupt unless a
socket cannot be closed.
-/

namespace RdsReach.Probe

variable {α : Type} {s : State}

/-! ## The source of a run -/

theorem connectedName_faithful (helper : Nat) (destination : Endpoint) :
    Faithful (connectedName helper destination) := by
  refine Faithful.bind ?_ fun _ => ?_
  · exact (connect_faithful helper _).onFault rfl fun _ => rfl
  · exact (localName_faithful helper).onFault rfl fun _ => rfl

theorem guessSource_faithful (destination : Endpoint) : Faithful (guessSource destination) := by
  refine Faithful.bind ?_ fun helper => ?_
  · exact (createSocket_faithful _).onFault rfl fun _ => rfl
  -- the helper is closed on every way out of the lookup
  · refine ((connectedName_faithful helper _).ensuring (close_tidy helper)).bind fun name => ?_
    refine (faithful_ofExcept fun f hf => ?_).bind fun _ => faithful_pure _
    obtain ⟨x, -, rfl⟩ := exists_of_mapError hf
    rfl

theorem sourceEndpoint_faithful (conf : RunConfig) : Faithful (sourceEndpoint conf) := by
  refine faithful_get.bind fun s => ?_
  split
  · exact faithful_pure _
  · refine (guessSource_faithful _).bind fun source => Faithful.bind ?_ fun _ => ?_
    · exact faithful_modify fun _ => .of_eq rfl (fun _ => .inl) rfl (fun _ => id) rfl
    · exact (faithful_say _ _ _).bind fun _ => faithful_pure _

/-! ## Making a socket ready -/

theorem applyTos_faithful (fd : Nat) (tos : Int) : Faithful (applyTos fd tos) := by
  refine Faithful.bind ?_ fun byte => ?_
  · unfold tosByte
    split
    · exact faithful_pure _
    · exact faithful_throw rfl
  · exact (setTos_faithful fd byte).onFault rfl fun _ => rfl

theorem prepare_faithful (conf : RunConfig) (fd : Nat) : Faithful (prepare conf fd) := by
  refine (sourceEndpoint_faithful conf).bind fun source => ?_
  -- a source of another version is refused, any other one is bound
  have hbind : Faithful ((bind fd source.sockAddr).onFault Fault.isSystemOrIllTyped fun f =>
      .setup .bind (.bind source.address) f.errno) :=
    (bind_faithful fd _).onFault rfl fun _ => rfl
  have htos : Faithful (do
      if conf.tos ≠ 0 then applyTos fd conf.tos
      return source) := by
    split
    · exact (applyTos_faithful fd _).bind fun _ => faithful_pure _
    · exact faithful_pure _
  dsimp only
  split
  · exact (faithful_fail rfl).bind fun _ => hbind.bind fun _ => htos
  · exact hbind.bind fun _ => htos

theorem createProbeSocket_faithful (conf : RunConfig) (slot : Int) :
    Faithful (createProbeSocket conf slot) := by
  refine Faithful.bind ?_ fun fd => ?_
  · exact (createSocket_faithful .rds).onFault rfl fun _ => rfl
  · refine ((prepare_faithful conf fd).undoing (close_tidy fd) _).bind fun source => ?_
    exact (faithful_number slot).bind fun _ => (faithful_say _ _ _).bind fun _ => faithful_pure _

/-! ## The group -/

theorem openSlots_faithful (conf : RunConfig) (n slot : Nat) :
    Faithful (openSlots conf n slot) := by
  induction n generalizing slot with
  | zero => exact faithful_pure _
  | succ n ih =>
    refine (createProbeSocket_faithful conf slot).bind fun socket => Faithful.bind ?_ fun _ => ih _
    exact faithful_modify fun _ => .of_eq rfl (fun _ => .inl) rfl (fun _ => id) rfl

theorem openGroup_faithful (conf : RunConfig) : Faithful (openGroup conf) :=
  faithful_get.bind fun _ => (openSlots_faithful conf _ _).bind fun _ =>
    faithful_get.bind fun _ => faithful_say _ _ _

theorem closeSocket_tidy (socket : ProbeSocket) : Tidy (closeSocket socket) where
  faithful := by
    refine (close_faithful socket.fd).tryCatch (fun f hf => ?_) rfl
    split
    · exact (faithful_number _).bind fun _ => faithful_say _ _ _
    · exact faithful_throw hf
  succeeds := by
    intro s hs
    rw [closeSocket, meets_tryCatch]
    exact ((close_tidy socket.fd).succeeds s hs).mono (fun _ _ h => h) fun _ _ h => h.elim

/-- One cleanup after the other is a cleanup. -/
theorem Tidy.bind {first second : Probe Unit} (h : Tidy first) (h' : Tidy second) :
    Tidy (do first; second) where
  faithful := h.faithful.bind fun _ => h'.faithful
  succeeds := by
    intro s hs
    refine ((h.faithful s).and (h.succeeds s hs)).mono ?_ (fun _ _ hf => hf.2) |> meets_bind.2
    exact fun _ t ht => h'.succeeds t (ht.1.closesWork hs)

theorem closeSockets_tidy (sockets : List ProbeSocket) : Tidy (closeSockets sockets) := by
  induction sockets with
  | nil => exact ⟨faithful_pure _, fun _ _ => trivial⟩
  | cons socket rest ih => exact (closeSocket_tidy socket).bind ih

theorem closeGroup_tidy : Tidy closeGroup := by
  have hforget : Tidy (modify fun s => { s with group := { s.group with sockets := #[] } }) :=
    ⟨faithful_modify fun _ => .of_eq rfl (fun _ => .inl) rfl (fun _ => id) rfl,
      fun _ _ => trivial⟩
  have hclose (s : State) := (closeSockets_tidy s.group.sockets.toList).bind hforget
  exact ⟨faithful_get.bind fun s => (hclose s).faithful, fun s hs => (hclose s).succeeds s hs⟩

theorem withGroup_faithful (conf : RunConfig) {action : Probe α} (h : Faithful action) :
    Faithful (withGroup conf action) :=
  ((openGroup_faithful conf).undoing closeGroup_tidy _).bind fun _ => h.ensuring closeGroup_tidy

/-! ## Sending and spinning -/

theorem tryQuery_faithful (fd : Nat) : Faithful (tryQuery fd) := by
  refine Faithful.tryCatch (.map _ ?_) (fun f hf => ?_) rfl
  · exact (queryQueue_faithful fd).onFault rfl fun _ => rfl
  · split
    · exact faithful_pure _
    · exact faithful_throw hf

theorem spinFrom_faithful (fd left spins : Nat) : Faithful (spinFrom fd left spins) := by
  induction left generalizing spins with
  | zero => exact faithful_pure _
  | succ left ih =>
    refine (tryQuery_faithful fd).bind fun answer => ?_
    split
    · exact faithful_pure _
    · split
      · exact faithful_pure _
      · exact ih _

theorem modifyMember_faithful (place : Nat) (change : ProbeSocket → ProbeSocket) :
    Faithful (modifyMember place change) :=
  faithful_modify fun _ => .of_eq rfl (fun _ => .inl) rfl (fun _ => id) rfl

theorem sendOnce_faithful (conf : RunConfig) (place : Nat) (socket : ProbeSocket) :
    Faithful (sendOnce conf place socket) := by
  refine Faithful.bind ?_ fun _ => (modifyMember_faithful place _).bind fun _ =>
    readSendClock_faithful.bind fun _ => modifyMember_faithful place _
  exact (send_faithful socket.fd _).onFault rfl fun _ => rfl

theorem sendPackets_faithful (conf : RunConfig) (place n : Nat) :
    Faithful (sendPackets conf place n) := by
  induction n with
  | zero => exact faithful_pure _
  | succ n ih =>
    refine faithful_get.bind fun s => ?_
    split
    · exact faithful_pure _
    · exact (sendOnce_faithful conf place _).bind fun _ => ih

theorem spinMember_faithful (ceiling : Int) (place : Nat) :
    Faithful (spinMember ceiling place) := by
  refine faithful_get.bind fun s => ?_
  split
  · exact faithful_pure _
  · refine (spinFrom_faithful _ _ _).bind fun outcome => ?_
    refine (modifyMember_faithful place _).bind fun _ => ?_
    exact (faithful_number _).bind fun _ => (faithful_number _).bind fun _ => faithful_say _ _ _

theorem servePackets_faithful (conf : RunConfig) (place : Nat) :
    Faithful (servePackets conf place) := by
  refine Faithful.tryCatch ((sendPackets_faithful conf place _).bind fun _ => faithful_pure _)
    (fun f hf => ?_) rfl
  split
  · exact (faithful_say _ _ _).bind fun _ => faithful_pure _
  · exact faithful_throw hf

theorem servePlaces_faithful (conf : RunConfig) (spinner : Option Int) (n place : Nat) :
    Faithful (servePlaces conf spinner n place) := by
  induction n generalizing place with
  | zero => exact faithful_pure _
  | succ n ih =>
    refine (servePackets_faithful conf place).bind fun failure => ?_
    split
    · exact faithful_pure _
    · split
      · exact (spinMember_faithful _ place).bind fun _ => ih _
      · exact ih _

theorem sendAll_faithful (conf : RunConfig) (spinner : Option Int) :
    Faithful (sendAll conf spinner) :=
  faithful_get.bind fun _ => (servePlaces_faithful conf spinner _ _).bind fun _ =>
    faithful_get.bind fun _ => faithful_pure _

theorem timedRun_faithful (conf : RunConfig) (spinner : Option Int) :
    Faithful (timedRun conf spinner) := by
  refine readClock_faithful.bind fun _ => (sendAll_faithful conf spinner).bind fun _ =>
    readClock_faithful.bind fun _ => Faithful.bind ?_ fun _ =>
      (faithful_say _ _ _).bind fun _ => faithful_pure _
  -- the one part with a failure of its own: the times may not have a difference
  refine faithful_ofExcept fun f hf => ?_
  obtain ⟨x, -, rfl⟩ := exists_of_mapError hf
  cases x <;> rfl

/-! ## Announcing and reporting -/

theorem announce_faithful (conf : RunConfig) : Faithful (Program.announce conf) :=
  (sourceEndpoint_faithful conf).bind fun _ => (describeSource_quiet _ _).faithful.bind fun _ =>
    (faithful_number _).bind fun _ => (faithful_number _).bind fun _ => faithful_say _ _ _

theorem printReport_faithful (result : RunResult) (details : Bool) :
    Faithful (Program.printReport result details) := by
  refine faithful_get.bind fun s => Faithful.bind ?_ fun text => faithful_print text
  have htext : FailsAs (fun f => f.isInterrupt = false)
      (Report.text result details s.world.render) := by
    apply failsAs_reportText
    · rfl
    · exact fun _ _ _ _ => rfl
  exact faithful_ofExcept htext

theorem conduct_faithful (conf : RunConfig) (details : Bool) :
    Faithful (Program.conduct conf details) := by
  refine (announce_faithful conf).bind fun _ =>
    (withGroup_faithful conf (timedRun_faithful conf _)).bind fun result => ?_
  exact (printReport_faithful result details).bind fun _ => faithful_pure _

/-! ## A command line -/

theorem execute_faithful (conf : RunConfig) (details : Bool) :
    Faithful (Program.execute conf details) := by
  refine (describe_quiet conf).faithful.bind fun _ => (faithful_say _ _ _).bind fun _ =>
    Faithful.bind ?_ fun _ => (conduct_faithful conf details).bind fun _ => faithful_pure _
  exact faithful_modify fun _ => .of_eq rfl (fun _ => .inl) rfl (fun _ => id) rfl

theorem configureAndExecute_faithful (arguments : CommandLine.Arguments) :
    Faithful (Program.configureAndExecute arguments) := by
  refine Faithful.bind (.tryCatch ((ofOptions_quiet _).faithful.map _) (fun f hf => ?_) rfl)
    fun conf => ?_
  · split
    · exact faithful_pure _
    · exact faithful_throw hf
  · split
    · exact faithful_pure _
    · exact execute_faithful _ _

end RdsReach.Probe
