import RdsReach.Proofs.Provenance
import RdsReach.Report

/-!
# Every action accounts for its faults

`Faithful action` says that an action accounts for all faults, in the sense of `State.Passes`,
wherever it starts and however it ends. The combinators keep this, as long as a handler lets an
interrupt through and a cleanup can only fail where a socket cannot be closed (`Tidy`). The calls
have it, and so has everything that is composed of them.
-/

namespace RdsReach

/-! ## Results that fail in few ways -/

/-- The result has no failures but those of the kind. -/
def FailsAs (Kind : Failure → Prop) {α : Type} (e : Except Failure α) : Prop :=
  ∀ f, e = .error f → Kind f

/-- The result can fail for one reason only: a number in it is too long to print. -/
abbrev Wordable {α : Type} (e : Except Failure α) : Prop := FailsAs (· = .overlong) e

namespace FailsAs

variable {α β : Type} {Kind : Failure → Prop}

theorem pure (a : α) : FailsAs Kind (pure a : Except Failure α) := by
  intro f h
  cases h

theorem bind {e : Except Failure α} {next : α → Except Failure β} (h : FailsAs Kind e)
    (hnext : ∀ a, FailsAs Kind (next a)) : FailsAs Kind (e >>= next) := by
  intro f hf
  cases e with
  | ok a => exact hnext a f hf
  | error g =>
    injection hf with hf
    exact hf ▸ h g rfl

theorem mapM {g : α → Except Failure β} (h : ∀ a, FailsAs Kind (g a)) (as : List α) :
    FailsAs Kind (as.mapM g) := by
  induction as with
  | nil => exact pure _
  | cons a as ih =>
    rw [List.mapM_cons]
    exact (h a).bind fun b => ih.bind fun bs => pure _

theorem mono {Kind' : Failure → Prop} {e : Except Failure α} (h : FailsAs Kind e)
    (hkind : ∀ f, Kind f → Kind' f) : FailsAs Kind' e := fun f hf => hkind f (h f hf)

end FailsAs

theorem wordable_numberText (n : Int) : Wordable (numberText n) := by
  intro f h
  rw [numberText_eq] at h
  split at h
  · cases h
  · injection h with h
    exact h.symm

theorem wordable_spinText (s : Spin) : Wordable s.text := by
  unfold Spin.text
  split
  · exact .pure _
  · exact (wordable_numberText _).bind fun _ => .pure _

/-- A report fails where a number in it is too long to print or its table cannot be laid out. -/
theorem failsAs_reportText {Kind : Failure → Prop} {render : Renderer} (hlong : Kind .overlong)
    (htable : ∀ header rows reason, render header rows = .error reason →
      Kind (.fault (.illValued reason)))
    (r : RunResult) (details : Bool) : FailsAs Kind (Report.text r details render) := by
  have hnumber (n : Int) : FailsAs Kind (numberText n) :=
    (wordable_numberText n).mono fun f hf => hf ▸ hlong
  have hcell (spin : Option Spin) : FailsAs Kind (Report.spinCell spin) := by
    cases spin with
    | none => exact .pure _
    | some spin => exact (wordable_spinText spin).mono fun f hf => hf ▸ hlong
  have hspins : FailsAs Kind (Report.spinLines r) :=
    .mapM (fun _ => (hnumber _).bind fun _ => (hnumber _).bind fun _ => .pure _) _
  have hrows : FailsAs Kind (r.samples.mapM Report.socketRow) :=
    .mapM (fun _ => (hnumber _).bind fun _ => (hnumber _).bind fun _ =>
      (hcell _).bind fun _ => .pure _) _
  have hsocketTable : FailsAs Kind (Report.socketTable render r) := by
    apply hrows.bind
    intro rows f hf
    obtain ⟨reason, hreason, rfl⟩ := exists_of_mapError hf
    exact htable _ _ _ hreason
  have hsummary : FailsAs Kind (Report.summaryLine r) := (hnumber _).bind fun _ => .pure _
  have habort : FailsAs Kind (r.failure.toList.mapM (Report.abortLine r)) :=
    .mapM (fun _ => (hnumber _).bind fun _ => (hnumber _).bind fun _ =>
      (hnumber _).bind fun _ => .pure _) _
  -- the table is part of the report only if details are wanted
  refine .bind (hspins.bind fun _ => ?_) fun _ => .pure _
  cases details with
  | true =>
    exact (hsocketTable.bind fun _ => .pure _).bind fun _ =>
      hsummary.bind fun _ => habort.bind fun _ => .pure _
  | false =>
    exact (FailsAs.pure _).bind fun _ => hsummary.bind fun _ => habort.bind fun _ => .pure _

namespace Probe

open State (Passes)

variable {α β : Type} {s : State}

/-- The run of the action from `s` accounts for its faults. -/
def FaithfulAt (s : State) (action : Probe α) : Prop :=
  Meets action s (fun _ t => s.Passes none t) fun f t => s.Passes (some f) t

/-- Every run of the action accounts for its faults. -/
def Faithful (action : Probe α) : Prop := ∀ s, FaithfulAt s action

/-- A cleanup that can only fail where a socket cannot be closed. -/
structure Tidy (cleanup : Probe Unit) : Prop where
  faithful : Faithful cleanup
  succeeds : ∀ s, s.ClosesWork → Meets cleanup s (fun _ _ => True) fun _ _ => False

/-! ## Combinators -/

theorem faithful_pure (a : α) : Faithful (pure a) := fun s => Passes.refl s

theorem faithful_throw {f : Failure} (hf : f.isInterrupt = false) :
    Faithful (throw f : Probe α) :=
  fun s => (Passes.refl s).of_none (Failure.interrupts_of_not hf)

theorem faithful_fail {f : Failure} (hf : f.isInterrupt = false) : Faithful (fail f : Probe α) :=
  faithful_throw (Failure.isInterrupt_settled hf)

theorem faithful_get : Faithful (get : Probe State) := fun s => Passes.refl s

theorem faithful_modify {change : State → State} (h : ∀ s : State, s.Passes none (change s)) :
    Faithful (modify change : Probe Unit) := h

theorem faithful_say (origin : Origin) (level : Level) (text : String) :
    Faithful (say origin level text) :=
  faithful_modify fun _ => .of_eq rfl (fun _ => .inl) rfl (fun _ => id) rfl

theorem faithful_print (text : String) : Faithful (print text) :=
  faithful_modify fun _ => .of_eq rfl (fun _ => .inl) rfl (fun _ => id) rfl

theorem faithful_ofExcept {e : Except Failure α} (h : ∀ f, e = .error f → f.isInterrupt = false) :
    Faithful (ofExcept e) := by
  cases e with
  | ok a => exact faithful_pure a
  | error f => exact faithful_throw (h f rfl)

theorem faithful_wordable {e : Except Failure α} (h : Wordable e) : Faithful (ofExcept e) :=
  faithful_ofExcept fun f hf => h f hf ▸ rfl

theorem faithful_number (n : Int) : Faithful (number n) := by
  rw [number]
  exact faithful_wordable (wordable_numberText n)

variable {action : Probe α}

theorem FaithfulAt.bind {next : α → Probe β} (h : FaithfulAt s action)
    (hnext : ∀ a, Faithful (next a)) : FaithfulAt s (action >>= next) := by
  refine Meets.bind h fun a t ht => ?_
  exact (hnext a t).mono (fun _ _ hu => ht.trans rfl hu) fun _ _ hu => ht.trans rfl hu

theorem Faithful.bind {next : α → Probe β} (h : Faithful action) (hnext : ∀ a, Faithful (next a)) :
    Faithful (action >>= next) := fun s => (h s).bind hnext

theorem Faithful.map (g : α → β) (h : Faithful action) : Faithful (g <$> action) :=
  fun s => meets_map.2 (h s)

/-- A handler may end any failure but an interrupt, which it has to let through. -/
theorem Faithful.tryCatch {handler : Failure → Probe α} (h : Faithful action)
    (hhandler : ∀ f, f.isInterrupt = false → Faithful (handler f))
    (hinterrupt : handler (.fault .interrupt) = throw (.fault .interrupt)) :
    Faithful (tryCatch action handler) := by
  intro s
  rw [FaithfulAt, meets_tryCatch]
  refine (h s).mono (fun _ _ ht => ht) fun f t ht => ?_
  -- the handler lets an interrupt through and accounts for all other failures
  cases hf : f.isInterrupt with
  | false =>
    have h0 := Failure.interrupts_of_not hf
    exact (hhandler f hf t).mono (fun _ _ hu => ht.trans h0 hu) fun _ _ hu => ht.trans h0 hu
  | true =>
    have heq := Failure.eq_of_isInterrupt hf
    rw [heq, hinterrupt, meets_throw, ← heq]
    exact ht

theorem Faithful.onFault {catches : Fault → Bool} {handler : Fault → Failure} (h : Faithful action)
    (hcatches : catches .interrupt = false) (hhandler : ∀ g, (handler g).isInterrupt = false) :
    Faithful (action.onFault catches handler) := by
  refine h.tryCatch (fun f hf => ?_) (by simp [hcatches])
  cases f with
  | fault g =>
    dsimp only
    split
    · exact faithful_fail (hhandler g)
    · exact faithful_throw hf
  | _ => exact faithful_throw hf

/-- A cleanup after a failure leaves the failure standing. -/
theorem Tidy.meets {cleanup : Probe Unit} (h : Tidy cleanup) {o : Option Failure} {t : State}
    (ht : s.Passes o t) :
    Meets cleanup t (fun _ u => s.Passes o u) fun f u => s.Passes (some f) u := by
  -- the cleanup can fail only where closing can, and there interrupts are not counted
  by_cases hs : t.ClosesWork
  · refine ((h.faithful t).and (h.succeeds t hs)).mono (fun _ _ hu => ht.trans_none hu.1) ?_
    exact fun _ _ hu => hu.2.elim
  · refine (h.faithful t).mono (fun _ _ hu => ht.trans_none hu) fun _ _ hu => ?_
    exact ht.trans_of_not_closesWork hu hs

theorem Faithful.undoing {cleanup : Probe Unit} (h : Faithful action) (hc : Tidy cleanup)
    (catches : Failure → Bool) : Faithful (action.undoing catches cleanup) := by
  intro s
  rw [FaithfulAt, meets_undoing]
  refine (h s).mono (fun _ _ ht => ht) fun f t ht => ?_
  split
  · exact hc.meets ht
  · exact ht

theorem Faithful.ensuring {cleanup : Probe Unit} (h : Faithful action) (hc : Tidy cleanup) :
    Faithful (action.ensuring cleanup) := by
  intro s
  rw [FaithfulAt, meets_ensuring]
  exact (h s).mono (fun _ _ ht => hc.meets ht) fun _ _ ht => hc.meets ht

/-! ## Calls -/

/-- A call ends with a fault that is raised, or with none. -/
theorem finish_passes {t : State} (h : s.Passes none t) (fd : Nat) (c : Call) {o : Option Fault}
    (hraised : ∀ f, o = some f → s.Raises c f) :
    Meets (finish fd c o) t (fun _ u => s.Passes none u) fun f u => s.Passes (some f) u := by
  refine (finish_spec fd c o t).mono ?_ ?_
  · rintro _ _ ⟨rfl, rfl⟩
    exact h.note (.call fd c none) (by simp)
  · rintro _ _ ⟨g, rfl, rfl, rfl⟩
    refine h.note (.call fd c (some g)) fun fd' c' f he => ?_
    injection he with _ hc hf
    exact hc ▸ hraised f hf

/-- The socket of a descriptor has a script of the state, or a plain one. -/
theorem socketOf_spec (fd : Nat) (s : State) :
    Meets (socketOf fd) s (fun x t => t = s ∧ (x.script ∈ s.scripts ∨ x.script = {}))
      fun _ _ => False := by
  simp only [socketOf, meets_bind, meets_get, meets_pure, true_and]
  cases h : s.sockets[fd - firstFd]? with
  | none => exact .inr rfl
  | some x =>
    refine .inl (List.mem_append_left _ (List.mem_map.2 ⟨x, ?_, rfl⟩))
    exact Array.mem_toList_iff.2 (Array.mem_of_getElem? h)

/-- An action on the socket of a descriptor may rely on its script. -/
theorem socketOf_then {fd : Nat} {next : Socket → Probe α}
    (h : ∀ s x, x.script ∈ s.scripts ∨ x.script = {} → FaithfulAt s (next x)) :
    Faithful (socketOf fd >>= next) := by
  intro s
  refine (socketOf_spec fd s).bind_of_total ?_
  rintro x _ ⟨rfl, hx⟩
  exact h _ x hx

/-- A fault that the script of a socket holds is held by the state. -/
theorem raised_of_script {x : Socket} (hx : x.script ∈ s.scripts ∨ x.script = {})
    (get : SocketScript → Option β) (hnone : get {} = none) {b : β} (hb : get x.script = some b) :
    ∃ script ∈ s.scripts, get script = some b := by
  rcases hx with hx | hx
  · exact ⟨_, hx, hb⟩
  · rw [hx, hnone] at hb
    cases hb

/-- An address of the wrong shape is the first fault of a call that takes one. -/
theorem shapeFault_orElse {address : SockAddr} {o : Option Fault} {f : Fault}
    (h : (shapeFault? address <|> o) = some f) :
    (address.length ≠ 2 ∧ f = .illTyped) ∨ o = some f := by
  unfold shapeFault? at h
  split at h
  · exact .inr h
  · next hlen => exact .inl ⟨hlen, by simpa using h.symm⟩

theorem bind_faithful (fd : Nat) (address : SockAddr) : Faithful (bind fd address) :=
  socketOf_then fun s _ hx => finish_passes (.refl s) fd _ fun _ hf =>
    (shapeFault_orElse hf).imp id (raised_of_script hx (·.bind) rfl)

theorem connect_faithful (fd : Nat) (address : SockAddr) : Faithful (connect fd address) :=
  socketOf_then fun s _ hx =>
    finish_passes (.refl s) fd _ fun _ => raised_of_script hx (·.connect) rfl

theorem localName_faithful (fd : Nat) : Faithful (localName fd) := by
  refine socketOf_then fun s x hx => ?_
  have hcall : FaithfulAt s (finish fd .localName x.script.localName) :=
    finish_passes (.refl s) fd _ fun _ => raised_of_script hx (·.localName) rfl
  exact hcall.bind fun _ => faithful_pure _

/-- A socket that is changed, but for its script, raises the same faults. -/
theorem modifySocket_faithful (fd : Nat) {change : Socket → Socket}
    (h : ∀ x, (change x).script = x.script) : Faithful (modifySocket fd change) := by
  refine faithful_modify fun s => ?_
  -- place by place, the scripts are those from before
  have hscripts : (s.sockets.modify (fd - firstFd) change).toList.map (·.script) =
      s.sockets.toList.map (·.script) := by
    refine List.ext_getElem? fun i => ?_
    rw [Array.toList_modify, List.getElem?_map, List.getElem?_modify, List.getElem?_map]
    split
    · cases s.sockets.toList[i]? <;> simp [h]
    · simp
  refine .of_eq rfl (fun x hx => .inl ?_) rfl (fun _ => id) rfl
  rw [State.scripts, hscripts] at hx
  exact hx

theorem send_faithful (fd : Nat) (address : SockAddr) : Faithful (send fd address) := by
  refine socketOf_then fun s x hx => ?_
  have hcall : FaithfulAt s (finish fd (.send address) (shapeFault? address <|> sendFault? x)) := by
    refine finish_passes (.refl s) fd _ fun f hf => (shapeFault_orElse hf).imp id fun hf => ?_
    -- a script holds one fault for all packets beyond its limit
    unfold sendFault? at hf
    split at hf
    · next limit hlimit =>
      obtain ⟨script, hscript, hsend⟩ := raised_of_script hx (·.send) rfl hlimit
      split at hf
      · exact ⟨script, hscript, limit, hsend, by simpa using hf⟩
      · cases hf
    · cases hf
  exact hcall.bind fun _ => modifySocket_faithful fd fun _ => rfl

theorem close_faithful (fd : Nat) : Faithful (close fd) := by
  refine socketOf_then fun s x hx => ?_
  have hcall : FaithfulAt s (finish fd .close x.script.close) :=
    finish_passes (.refl s) fd _ fun _ => raised_of_script hx (·.close) rfl
  exact hcall.bind fun _ => modifySocket_faithful fd fun _ => rfl

/-- Closing a socket is tidy. -/
theorem close_tidy (fd : Nat) : Tidy (close fd) := by
  refine ⟨close_faithful fd, fun s hs => ?_⟩
  refine (socketOf_spec fd s).bind_of_total ?_
  rintro x _ ⟨rfl, hx⟩
  have hnone : x.script.close = none := by
    cases h : x.script.close with
    | none => rfl
    | some f => exact absurd (raised_of_script hx (·.close) rfl h) (hs f)
  rw [hnone]
  simp [finish, modifySocket]

theorem setTos_faithful (fd : Nat) (tos : UInt8) : Faithful (setTos fd tos) := by
  intro s
  simp only [setTos, FaithfulAt, meets_bind, meets_get, meets_modify]
  have hcount : s.Passes none { s with tosCalls := s.tosCalls + 1 } :=
    .of_eq rfl (fun _ => .inl) rfl (fun _ => id) rfl
  refine finish_passes hcount fd _ fun f hf => ?_
  -- one list of answers serves the calls of all sockets, in their order
  cases h : s.world.tos[s.tosCalls]? with
  | none => simp [h] at hf
  | some o =>
    rw [h, Option.join_some] at hf
    subst hf
    exact List.mem_of_getElem? h

theorem queryQueue_faithful (fd : Nat) : Faithful (queryQueue fd) := by
  intro s
  simp only [queryQueue, FaithfulAt, meets_bind, meets_get, meets_modify]
  have hmem := nextAnswer_mem (.pending 0) s.world.queue
  have hrest := nextAnswer_rest_subset (.pending 0) s.world.queue
  generalize (nextAnswer (.pending 0) s.world.queue).1 = r at hmem ⊢
  have htake : s.Passes none { s with
      world := { s.world with queue := (nextAnswer (.pending 0) s.world.queue).2 } } :=
    .of_eq rfl (fun _ => .inl) rfl hrest rfl
  -- the fault of a reply is one that the world held; one that cannot be read is no interrupt
  refine (finish_passes htake fd _ ?_).mono (fun _ t ht => ?_) fun _ _ ht => ht
  · intro f hf
    cases r with
    | fault g =>
      simp only [replyFault?, Option.some.injEq] at hf
      subst hf
      exact hmem.resolve_left (by simp)
    | _ => simp [replyFault?] at hf
  · split
    · exact ht
    · exact ht.of_none rfl

/-- The script of the next socket is one of the world's, or a plain one. -/
theorem nextScript_mem (s : State) (kind : SocketKind) :
    nextScript s kind ∈ s.world.rds ++ s.world.udp ∨ nextScript s kind = {} := by
  have hmem (scripts : List SocketScript) (n : Nat) :
      SocketScript.ofAttempt scripts n ∈ scripts ∨ SocketScript.ofAttempt scripts n = {} := by
    unfold SocketScript.ofAttempt
    cases h : scripts[n]? with
    | none => exact .inr rfl
    | some x => exact .inl (List.mem_of_getElem? h)
  cases kind with
  | rds => exact (hmem _ _).imp (List.mem_append_left _) id
  | udp v => exact (hmem _ _).imp (List.mem_append_right _) id

theorem createSocket_faithful (kind : SocketKind) : Faithful (createSocket kind) := by
  intro s
  have hcount : s.Passes none (countAttempt s kind) := by
    cases kind <;> exact .of_eq rfl (fun _ => .inl) rfl (fun _ => id) rfl
  simp only [createSocket, FaithfulAt, meets_bind, meets_get, meets_modify]
  split
  · next g _ => exact hcount.note (.notOpened kind g) (by simp)
  · simp only [meets_bind, meets_get, meets_modify, meets_pure]
    -- the script of the new socket comes out of the world, which holds it from the start
    have hadd : s.Passes none (addSocket (nextScript s kind) (countAttempt s kind)) := by
      refine hcount.trans rfl (.of_eq rfl (fun x hx => ?_) rfl (fun _ => id) rfl)
      have hworld : (countAttempt s kind).world = s.world := by cases kind <;> rfl
      simp only [addSocket, State.scripts, Array.toList_push, List.map_append, List.map_cons,
        List.map_nil, List.mem_append, List.mem_singleton] at hx ⊢
      rcases hx with (hx | rfl) | hx
      · exact .inl (.inl hx)
      · rw [hworld]
        exact (nextScript_mem s kind).imp (fun h => .inr (List.mem_append.1 h)) id
      · exact .inl (.inr hx)
    exact hadd.note (.opened kind _) (by simp)

theorem readClock_faithful : Faithful readClock := by
  refine faithful_get.bind fun _ => faithful_get.bind fun _ => Faithful.bind ?_ fun _ =>
    faithful_pure _
  exact faithful_modify fun _ => .of_eq rfl (fun _ => .inl) rfl (fun _ => id) rfl

theorem readSendClock_faithful : Faithful readSendClock := by
  refine faithful_get.bind fun _ => faithful_get.bind fun _ => Faithful.bind ?_ fun _ =>
    faithful_pure _
  exact faithful_modify fun _ => .of_eq rfl (fun _ => .inl) rfl (fun _ => id) rfl

end Probe

end RdsReach
