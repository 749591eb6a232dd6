import RdsReach.Proofs.Trace

/-!
# Specifications of the calls

What each call on a socket does, told by the events it leaves behind: `Makes action fd c` for a
call that either answers or raises its fault, `createSocket_spec` and `queryQueue_spec` for the two
calls that can end in more ways.
-/

namespace RdsReach

namespace State.After

variable {s t : State}

/-- Nothing happens in a step that leaves events, sockets, group and source alone. -/
theorem of_eq (he : t.events = s.events) (hg : t.group = s.group) (hs : t.source = s.source)
    (hn : t.sockets.size = s.sockets.size) : s.After [] t where
  toEmits := .of_eq he hn
  group_eq := hg
  source_eq := hs

/-- A call is one event. -/
theorem note_call (s : State) (fd : Nat) (c : Call) (o : Option Fault) :
    s.After [.call fd c o] (s.note (.call fd c o)) :=
  ⟨.of_calls (s.trace_note _) rfl rfl, rfl, rfl⟩

/-- What follows the events without an effect of its own changes nothing. -/
theorem then_eq {es : List Event} {u : State} (h : s.After es t) (h' : t.After [] u) :
    s.After es u := by
  simpa using h.trans h'

end State.After

/-! ## Replies about queues -/

/-- Can the reply be read, be it as a number of bytes or as a fault? -/
def QueueReply.isReadable (r : QueueReply) : Bool :=
  (Probe.replyFault? r).isSome || (Probe.replyNumber? r).isSome

theorem nextAnswer_mem {α : Type} (default : α) (answers : List α) :
    (nextAnswer default answers).1 = default ∨ (nextAnswer default answers).1 ∈ answers := by
  unfold nextAnswer
  split <;> simp

theorem nextAnswer_rest_subset {α : Type} (default : α) (answers : List α) :
    (nextAnswer default answers).2 ⊆ answers := by
  unfold nextAnswer
  split <;> simp

namespace Probe

open State (After)

variable {α : Type} {s : State}

/-! ## Calls that answer or raise their fault -/

/-- The action makes one call on a descriptor. It fails exactly with the fault of the call. -/
def Makes (action : Probe α) (fd : Nat) (c : Call) : Prop :=
  ∀ s, Meets action s (fun _ t => s.After [.call fd c none] t)
    fun f t => ∃ g, f = .fault g ∧ s.After [.call fd c (some g)] t

/-- The end of a call notes it, and raises the fault that it has. -/
theorem finish_spec (fd : Nat) (c : Call) (o : Option Fault) (s : State) :
    Meets (finish fd c o) s (fun _ t => o = none ∧ t = s.note (.call fd c none))
      fun f t => ∃ g, o = some g ∧ f = .fault g ∧ t = s.note (.call fd c (some g)) := by
  cases o <;> simp [finish]

theorem finish_makes (fd : Nat) (c : Call) (o : Option Fault) : Makes (finish fd c o) fd c := by
  intro s
  refine (finish_spec fd c o s).mono ?_ ?_
  · rintro _ _ ⟨-, rfl⟩
    exact After.note_call s fd c none
  · rintro _ _ ⟨g, -, rfl, rfl⟩
    exact ⟨g, rfl, After.note_call s fd c (some g)⟩

/-- Whether the call is answered or fails, it was made. -/
theorem Makes.ends {action : Probe α} {fd : Nat} {c : Call} (h : Makes action fd c) (s : State)
    {P : State → Prop} (hcall : ∀ o t, s.After [.call fd c o] t → P t) :
    Meets action s (fun _ t => P t) fun _ t => P t := by
  apply (h s).mono
  · exact fun _ t ht => hcall none t ht
  · intro _ t ht
    obtain ⟨g, -, ht⟩ := ht
    exact hcall (some g) t ht

/-- What an action does before its call without a trace is not seen. -/
theorem Makes.after {action : Probe α} {fd : Nat} {c : Call} (h : Makes action fd c) {t : State}
    (ht : s.After [] t) :
    Meets action t (fun _ u => s.After [.call fd c none] u)
      fun f u => ∃ g, f = .fault g ∧ s.After [.call fd c (some g)] u := by
  refine (h t).mono (fun _ _ hu => by simpa using ht.trans hu) ?_
  rintro _ u ⟨g, hg, hu⟩
  exact ⟨g, hg, by simpa using ht.trans hu⟩

/-- What an action does after its call without a trace is not seen. -/
theorem Makes.bind {action : Probe α} {β : Type} {next : α → Probe β} {fd : Nat} {c : Call}
    (h : Makes action fd c)
    (hnext : ∀ a t, Meets (next a) t (fun _ u => t.After [] u) fun _ _ => False) :
    Makes (action >>= next) fd c := by
  intro s
  refine (h s).bind fun a t ht => ?_
  exact (hnext a t).mono (fun _ _ hu => ht.then_eq hu) fun _ _ hf => hf.elim

theorem modifySocket_after (fd : Nat) (change : Socket → Socket) (s : State) :
    Meets (modifySocket fd change) s (fun _ t => s.After [] t) fun _ _ => False := by
  rw [modifySocket, meets_modify]
  exact .of_eq rfl rfl rfl (by simp)

theorem bind_makes (fd : Nat) (address : SockAddr) :
    Makes (bind fd address) fd (.bind address) := by
  intro s
  simpa [bind, socketOf] using finish_makes fd (.bind address) _ s

theorem connect_makes (fd : Nat) (address : SockAddr) :
    Makes (connect fd address) fd (.connect address) := by
  intro s
  simpa [connect, socketOf] using finish_makes fd (.connect address) _ s

theorem localName_makes (fd : Nat) : Makes (localName fd) fd .localName := by
  intro s
  simpa [localName, socketOf] using finish_makes fd .localName _ s

theorem send_makes (fd : Nat) (address : SockAddr) :
    Makes (send fd address) fd (.send address) := by
  intro s
  rw [send, meets_bind]
  exact ((finish_makes fd (.send address) _).bind fun _ => modifySocket_after fd _) s

theorem close_makes (fd : Nat) : Makes (close fd) fd .close := by
  intro s
  rw [close, meets_bind]
  exact ((finish_makes fd .close _).bind fun _ => modifySocket_after fd _) s

theorem setTos_makes (fd : Nat) (tos : UInt8) : Makes (setTos fd tos) fd (.setTos tos) := by
  intro s
  simp only [setTos, meets_bind, meets_get, meets_modify]
  exact (finish_makes fd (.setTos tos) _).after (.of_eq rfl rfl rfl rfl)

/-- A call whose faults of a class are told as another failure. -/
theorem Makes.onFault {action : Probe α} {fd : Nat} {c : Call} (h : Makes action fd c)
    (catches : Fault → Bool) (handler : Fault → Failure) (s : State) :
    Meets (action.onFault catches handler) s (fun _ t => s.After [.call fd c none] t)
      fun f t => ∃ g, f = told catches handler g ∧ s.After [.call fd c (some g)] t := by
  rw [meets_onFault]
  refine (h s).mono (fun _ _ ht => ht) ?_
  rintro _ t ⟨g, rfl, ht⟩
  exact ⟨g, rfl, ht⟩

/-! ## Creating a socket -/

/-- A socket that is created has the first descriptor that was not given out. -/
theorem createSocket_spec (kind : SocketKind) (s : State) :
    Meets (createSocket kind) s
      (fun fd t => fd = firstFd + s.sockets.size ∧ s.After [.opened kind fd] t)
      fun f t => ∃ g, f = .fault g ∧ s.After [.notOpened kind g] t := by
  have hcount : s.After [] (countAttempt s kind) := by
    cases kind <;> exact .of_eq rfl rfl rfl rfl
  have hsize : (countAttempt s kind).sockets = s.sockets := by cases kind <;> rfl
  -- the attempt counts as one even if the system refuses it, and leaves the sockets alone
  simp only [createSocket, meets_bind, meets_get, meets_modify]
  split
  · next g _ =>
    simp only [meets_bind, meets_modify, meets_throw]
    refine ⟨g, rfl, ?_⟩
    simpa using hcount.trans (u := (countAttempt s kind).note (.notOpened kind g))
      ⟨.of_calls (State.trace_note _ _) rfl rfl, rfl, rfl⟩
  · simp only [meets_bind, meets_get, meets_modify, meets_pure, hsize, true_and]
    simpa using hcount.trans
      (u := (addSocket (nextScript s kind) (countAttempt s kind)).note
        (.opened kind (firstFd + s.sockets.size)))
      ⟨⟨State.trace_note _ _, by simp [addSocket, State.note, openedFds, Event.openedFd?],
        by simp [openedFds, Event.openedFd?, hsize]⟩, rfl, rfl⟩

/-! ## Asking a queue -/

/-- A question about a queue fails with its fault, or because its reply cannot be read. -/
theorem queryQueue_spec (fd : Nat) (s : State) :
    Meets (queryQueue fd) s (fun _ t => s.After [.call fd .queryQueue none] t) fun f t =>
      (∃ g, f = .fault g ∧ s.After [.call fd .queryQueue (some g)] t) ∨
        f = .packing ∧ s.After [.call fd .queryQueue none] t ∧
          ∃ r ∈ s.world.queue, r.isReadable = false := by
  have hmem := nextAnswer_mem (.pending 0) s.world.queue
  simp only [queryQueue, meets_bind, meets_get, meets_modify]
  generalize (nextAnswer (.pending 0) s.world.queue).1 = r at hmem ⊢
  have hcall := (finish_makes fd .queryQueue (replyFault? r)).after
    (show s.After [] { s with
      world := { s.world with queue := (nextAnswer (.pending 0) s.world.queue).2 } } from
        .of_eq rfl rfl rfl rfl)
  refine (hcall.and (finish_spec ..)).mono ?_ fun f t hf => .inl hf.1
  rintro _ t ⟨ht, hfault, -⟩
  -- the call itself was answered, so only the reading of the reply is left to fail
  cases hn : replyNumber? r with
  | some n => simpa using ht
  | none =>
    refine .inr ⟨rfl, ht, r, ?_, by simp [QueueReply.isReadable, hfault, hn]⟩
    rcases hmem with rfl | hmem
    · exact absurd hn (by decide)
    · exact hmem

end Probe

end RdsReach
