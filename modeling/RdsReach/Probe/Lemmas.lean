import RdsReach.Probe.Basic

/-!
# What probes come to

A probe is known by its outcome in a state, and the lemmas here say how the outcome of a probe
follows from those of its parts. Afterwards no proof has to open the combinators.

* `bind_apply`, `tryCatch_apply` and their kin are rewriting rules;
* `exists_of_bind_ok` takes a sequence apart, and `undoing_of_ok` says that an action that succeeds
  is left as it is.
-/

namespace RdsReach.Probe

variable {α β : Type} {s t u : State} {f : Failure}

/-! ## Rewriting rules -/

@[simp] theorem pure_apply (a : α) (s : State) : (pure a : Probe α) s = .ok a s := rfl

@[simp] theorem throw_apply (f : Failure) (s : State) : (throw f : Probe α) s = .error f s := rfl

@[simp] theorem get_apply (s : State) : (get : Probe State) s = .ok s s := rfl

@[simp] theorem modify_apply (change : State → State) (s : State) :
    (modify change : Probe Unit) s = .ok () (change s) := rfl

@[simp] theorem bind_apply (action : Probe α) (next : α → Probe β) (s : State) :
    (action >>= next) s =
      match action s with
      | .ok a t => next a t
      | .error f t => .error f t := by
  show EStateM.bind action next s = _
  unfold EStateM.bind
  cases action s <;> rfl

@[simp] theorem map_apply (g : α → β) (action : Probe α) (s : State) :
    (g <$> action) s =
      match action s with
      | .ok a t => .ok (g a) t
      | .error f t => .error f t := by
  show EStateM.map g action s = _
  unfold EStateM.map
  cases action s <;> rfl

@[simp] theorem tryCatch_apply (action : Probe α) (handler : Failure → Probe α) (s : State) :
    (tryCatch action handler : Probe α) s =
      match action s with
      | .ok a t => .ok a t
      | .error f t => handler f t := by
  show EStateM.tryCatch action handler s = _
  unfold EStateM.tryCatch
  cases action s <;> rfl

/-! ## Parts -/

/-- A sequence that ends with a value has parts that do. -/
theorem exists_of_bind_ok {action : Probe α} {next : α → Probe β} {b : β}
    (h : (action >>= next) s = .ok b u) : ∃ a t, action s = .ok a t ∧ next a t = .ok b u := by
  rw [bind_apply] at h
  split at h
  · next a t ha => exact ⟨a, t, ha, h⟩
  · cases h

theorem bind_eq_ok_iff {action : Probe α} {next : α → Probe β} {b : β} :
    (action >>= next) s = .ok b u ↔ ∃ a t, action s = .ok a t ∧ next a t = .ok b u := by
  refine ⟨exists_of_bind_ok, ?_⟩
  rintro ⟨a, t, ha, hb⟩
  rw [bind_apply, ha]
  exact hb

/-- A sequence goes on after a part that succeeds. -/
theorem bind_of_ok {action : Probe α} {a : α} (h : action s = .ok a t) (next : α → Probe β) :
    (action >>= next) s = next a t := by
  rw [bind_apply, h]

/-- A sequence ends with a part that fails. -/
theorem bind_of_error {action : Probe α} (h : action s = .error f t) (next : α → Probe β) :
    (action >>= next) s = .error f t := by
  rw [bind_apply, h]

theorem map_of_ok {action : Probe α} {a : α} (h : action s = .ok a t) (g : α → β) :
    (g <$> action) s = .ok (g a) t := by
  rw [map_apply, h]

theorem map_of_error {action : Probe α} (h : action s = .error f t) (g : α → β) :
    (g <$> action) s = .error f t := by
  rw [map_apply, h]

/-- An action that succeeds is not undone. -/
theorem undoing_of_ok {action : Probe α} {a : α} (h : action s = .ok a t)
    (catches : Failure → Bool) (cleanup : Probe Unit) :
    action.undoing catches cleanup s = .ok a t := by
  simp [undoing, h]

end RdsReach.Probe
