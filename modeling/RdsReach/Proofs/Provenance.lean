import RdsReach.Proofs.Calls

/-!
# Where faults come from and where interrupts go

A state *raises* a fault at a call if the scripts and replies that it holds have it there
(`State.Raises`). One relation accounts for everything that an action does with faults:
`State.Passes s o t` says of an action that led from `s` to `t`, and failed with `o` if it failed,

* that events were only added, and that the faults of the added ones were raised by `s`;
* that `t` raises no fault that `s` does not raise;
* that, as long as closing a socket never fails, one more interrupt was noted if the action ended
  with an interrupt, and none otherwise.

`Probe.Faithful` says this of every run of an action; it holds of whatever is composed of faithful
parts, as long as no part handles an interrupt.
-/

namespace RdsReach

/-! ## Faults that a state holds -/

/-- The scripts of the sockets that there are, and those of the sockets to come. -/
def State.scripts (s : State) : List SocketScript :=
  s.sockets.toList.map (·.script) ++ (s.world.rds ++ s.world.udp)

/-- May a call of this kind raise the fault? An address of the wrong shape is a fault of its own. -/
def State.Raises (s : State) : Call → Fault → Prop
  | .bind address, f => (address.length ≠ 2 ∧ f = .illTyped) ∨ ∃ x ∈ s.scripts, x.bind = some f
  | .connect _, f => ∃ x ∈ s.scripts, x.connect = some f
  | .localName, f => ∃ x ∈ s.scripts, x.localName = some f
  | .setTos _, f => some f ∈ s.world.tos
  | .send address, f =>
    (address.length ≠ 2 ∧ f = .illTyped) ∨
      ∃ x ∈ s.scripts, ∃ limit, x.send = some limit ∧ limit.fault = f
  | .queryQueue, f => .fault f ∈ s.world.queue
  | .close, f => ∃ x ∈ s.scripts, x.close = some f

/-- May a call of this kind raise the fault in a world where no socket was created so far? -/
def World.Raises (w : World) : Call → Fault → Prop := State.Raises { world := w }

/-- Closing never fails. -/
def State.ClosesWork (s : State) : Prop := ∀ f, ¬ s.Raises .close f

/-! ## Interrupts -/

/-- The number of interrupts that calls and lookups raised. -/
def State.interrupts (s : State) : Nat :=
  s.trace.countP (·.fault? = some .interrupt) +
    s.lookups.toList.countP (·.fault = some .interrupt)

theorem State.interrupts_note (s : State) (e : Event) :
    (s.note e).interrupts = s.interrupts + if e.fault? = some .interrupt then 1 else 0 := by
  have hlookups : (s.note e).lookups = s.lookups := rfl
  rw [interrupts, trace_note, List.countP_append, List.countP_singleton, hlookups, interrupts,
    Nat.add_right_comm]
  simp only [decide_eq_true_eq]

/-- The number of interrupts that an outcome shows. -/
def Failure.interrupts : Option Failure → Nat
  | some f => if f.isInterrupt then 1 else 0
  | none => 0

namespace Failure

@[simp] theorem interrupts_none : interrupts none = 0 := rfl

theorem interrupts_of_not {f : Failure} (h : f.isInterrupt = false) : interrupts (some f) = 0 := by
  simp [interrupts, h]

@[simp] theorem interrupts_fault (g : Fault) :
    interrupts (some (.fault g)) = if g = .interrupt then 1 else 0 := by
  cases g <;> simp [interrupts, isInterrupt]

theorem eq_of_isInterrupt {f : Failure} (h : f.isInterrupt = true) : f = .fault .interrupt := by
  unfold isInterrupt at h
  split at h
  · rfl
  · cases h

theorem isInterrupt_settled {f : Failure} (h : f.isInterrupt = false) :
    f.settled.isInterrupt = false := by
  unfold settled
  split
  · split
    · exact h
    · rfl
  · rfl

end Failure

/-! ## States that follow on each other -/

/-- A state `t` that comes after `s`, with faults that `s` holds and no others. -/
structure State.Follows (s t : State) : Prop where
  added : ∃ es, t.trace = s.trace ++ es ∧ ∀ fd c f, .call fd c (some f) ∈ es → s.Raises c f
  scripts_subset : ∀ x ∈ t.scripts, x ∈ s.scripts ∨ x = {}
  tos_eq : t.world.tos = s.world.tos
  queue_subset : t.world.queue ⊆ s.world.queue

namespace State.Follows

variable {s t u : State}

/-- No state raises more than the one before. -/
theorem raises (h : s.Follows t) {c : Call} {f : Fault} (hf : t.Raises c f) : s.Raises c f := by
  -- a script that was added is a plain one, which holds no fault
  have hscript {α : Type} (get : SocketScript → Option α) (hnone : get {} = none) {a : α}
      (ha : ∃ x ∈ t.scripts, get x = some a) : ∃ x ∈ s.scripts, get x = some a := by
    obtain ⟨x, hx, ha⟩ := ha
    rcases h.scripts_subset x hx with hx | rfl
    · exact ⟨x, hx, ha⟩
    · rw [hnone] at ha
      cases ha
  -- each kind of call has one place where its fault can come from
  cases c with
  | bind address => exact hf.imp id (hscript (·.bind) rfl)
  | connect address => exact hscript (·.connect) rfl hf
  | localName => exact hscript (·.localName) rfl hf
  | setTos tos =>
    rw [State.Raises, h.tos_eq] at hf
    exact hf
  | send address =>
    refine hf.imp id ?_
    rintro ⟨x, hx, limit, hlimit, hfault⟩
    obtain ⟨y, hy, hlimit⟩ := hscript (·.send) rfl ⟨x, hx, hlimit⟩
    exact ⟨y, hy, limit, hlimit, hfault⟩
  | queryQueue => exact h.queue_subset hf
  | close => exact hscript (·.close) rfl hf

theorem closesWork (h : s.Follows t) (hs : s.ClosesWork) : t.ClosesWork :=
  fun f hf => hs f (h.raises hf)

/-- The faults of the calls that lead to a later state were raised by the state before. -/
theorem raised (h : s.Follows t) {es : List Event} (ht : s.Emits es t) {fd : Nat} {c : Call}
    {f : Fault} (hf : .call fd c (some f) ∈ es) : s.Raises c f := by
  obtain ⟨es', hes', hraises⟩ := h.added
  rw [ht.trace_eq, List.append_cancel_left_eq] at hes'
  exact hraises fd c f (hes' ▸ hf)

theorem refl (s : State) : s.Follows s :=
  ⟨⟨[], by simp⟩, fun _ => .inl, rfl, fun _ => id⟩

theorem trans (h : s.Follows t) (h' : t.Follows u) : s.Follows u where
  added := by
    obtain ⟨es, hes, hraises⟩ := h.added
    obtain ⟨es', hes', hraises'⟩ := h'.added
    refine ⟨es ++ es', by rw [hes', hes, List.append_assoc], fun fd c f hf => ?_⟩
    rcases List.mem_append.1 hf with hf | hf
    · exact hraises fd c f hf
    · exact h.raises (hraises' fd c f hf)
  scripts_subset := fun x hx => (h'.scripts_subset x hx).elim (h.scripts_subset x) .inr
  tos_eq := by rw [h'.tos_eq, h.tos_eq]
  queue_subset := fun _ hr => h.queue_subset (h'.queue_subset hr)

end State.Follows

/-! ## Passing from state to state -/

/-- An action that ends with the outcome `o` leads from `s` to `t`, and accounts for all interrupts
unless a socket cannot be closed. -/
structure State.Passes (s : State) (o : Option Failure) (t : State) : Prop extends
    s.Follows t where
  interrupts_eq : s.ClosesWork → t.interrupts = s.interrupts + Failure.interrupts o

namespace State.Passes

variable {s t u : State} {o o' : Option Failure}

/-- Nothing that faults depend on changes. -/
theorem of_eq (he : t.events = s.events) (hs : ∀ x ∈ t.scripts, x ∈ s.scripts ∨ x = {})
    (ht : t.world.tos = s.world.tos) (hq : t.world.queue ⊆ s.world.queue)
    (hl : t.lookups = s.lookups) : s.Passes none t where
  added := ⟨[], by rw [trace, he, List.append_nil, trace], by simp⟩
  scripts_subset := hs
  tos_eq := ht
  queue_subset := hq
  interrupts_eq := by
    intro _
    rw [interrupts, trace, he, hl, Failure.interrupts_none, Nat.add_zero, interrupts, trace]

theorem refl (s : State) : s.Passes none s :=
  of_eq rfl (fun _ => .inl) rfl (fun _ => id) rfl

/-- A failure that is no interrupt is a matter of the outcome alone. -/
theorem of_none (h : s.Passes none t) (ho : Failure.interrupts o = 0) : s.Passes o t where
  toFollows := h.toFollows
  interrupts_eq := fun hs => by rw [h.interrupts_eq hs, ho, Failure.interrupts_none]

/-- After an outcome that shows no interrupt another one may stand. -/
theorem trans (h : s.Passes o t) (ho : Failure.interrupts o = 0) (h' : t.Passes o' u) :
    s.Passes o' u where
  toFollows := h.toFollows.trans h'.toFollows
  interrupts_eq := by
    intro hs
    rw [h'.interrupts_eq (h.closesWork hs), h.interrupts_eq hs, ho, Nat.add_zero]

/-- What happens after an outcome, and succeeds, leaves the outcome standing. -/
theorem trans_none (h : s.Passes o t) (h' : t.Passes none u) : s.Passes o u where
  toFollows := h.toFollows.trans h'.toFollows
  interrupts_eq := by
    intro hs
    rw [h'.interrupts_eq (h.closesWork hs), h.interrupts_eq hs, Failure.interrupts_none,
      Nat.add_zero]

/-- What can only happen where closing fails may put its outcome in the place of any other. -/
theorem trans_of_not_closesWork (h : s.Passes o t) (h' : t.Passes o' u) (hs : ¬ t.ClosesWork) :
    s.Passes o' u where
  toFollows := h.toFollows.trans h'.toFollows
  interrupts_eq := fun hw => absurd (h.closesWork hw) hs

/-- An event is noted, with a fault that the state before raises or none. -/
theorem note (h : s.Passes none t) (e : Event)
    (hraised : ∀ fd c f, e = .call fd c (some f) → s.Raises c f) :
    s.Passes (e.fault?.map .fault) (t.note e) where
  added := by
    obtain ⟨es, hes, hraises⟩ := h.added
    refine ⟨es ++ [e], by rw [trace_note, hes, List.append_assoc], fun fd c f hf => ?_⟩
    rcases List.mem_append.1 hf with hf | hf
    · exact hraises fd c f hf
    · exact hraised fd c f (List.mem_singleton.1 hf).symm
  scripts_subset := h.scripts_subset
  tos_eq := h.tos_eq
  queue_subset := h.queue_subset
  interrupts_eq := by
    intro hs
    rw [interrupts_note, h.interrupts_eq hs, Failure.interrupts_none, Nat.add_zero]
    cases e.fault? <;> simp

/-- A lookup is noted, with its fault if it has one. -/
theorem note_lookup (s : State) (l : Lookup) :
    s.Passes (l.fault.map .fault) { s with lookups := s.lookups.push l } where
  toFollows := ⟨⟨[], by simp [trace]⟩, fun _ => .inl, rfl, fun _ => id⟩
  interrupts_eq := by
    intro _
    rw [interrupts, Array.toList_push, List.countP_append, List.countP_singleton, interrupts,
      ← Nat.add_assoc]
    cases l.fault <;> simp [trace]

end State.Passes

end RdsReach
