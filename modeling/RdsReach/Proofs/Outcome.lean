import Mathlib.Tactic.Common
import RdsReach.Probe.Calls
import RdsReach.Probe.Lemmas

/-!
# Outcomes of probes

`Meets action s ok bad` says how an action ends that starts in the state `s`: with a value and a
state as `ok` has them, or with a failure and a state as `bad` has them. Every action ends in one of
the two ways, so this is a statement of total correctness.

Two things live here:

* the rules of the combinators, as equivalences that rewrite a statement about a composed action
  into one about its parts;
* `Meets.mono` and `Meets.bind`, with which the specification of a part is put to use without the
  part being opened.
-/

namespace RdsReach

theorem numberText_eq (n : Int) :
    numberText n = if Decimal.isPrintable n then .ok (toString n) else .error .overlong := by
  unfold numberText Decimal.text?
  generalize Decimal.isPrintable n = printable
  cases printable <;> rfl

/-- A sequence of results is there if its parts are. -/
theorem exists_of_bind_eq_ok {ε α β : Type} {e : Except ε α} {next : α → Except ε β} {b : β}
    (h : (e >>= next) = .ok b) : ∃ a, e = .ok a ∧ next a = .ok b := by
  cases e with
  | error x => cases h
  | ok a => exact ⟨a, rfl, h⟩

/-- A sequence fails as its first part does, or after it. -/
theorem error_of_bind_eq_error {ε α β : Type} {e : Except ε α} {next : α → Except ε β} {x : ε}
    (h : (e >>= next) = .error x) : e = .error x ∨ ∃ a, e = .ok a ∧ next a = .error x := by
  cases e with
  | error y =>
    cases h
    exact .inl rfl
  | ok a => exact .inr ⟨a, rfl, h⟩

/-- A mapped result is there if the result is. -/
theorem exists_of_map_eq_ok {ε α β : Type} {e : Except ε α} {g : α → β} {b : β}
    (h : g <$> e = .ok b) : ∃ a, e = .ok a ∧ g a = b := by
  cases e with
  | error x => cases h
  | ok a => exact ⟨a, rfl, Except.ok.inj h⟩

theorem error_of_map_eq_error {ε α β : Type} {e : Except ε α} {g : α → β} {x : ε}
    (h : g <$> e = .error x) : e = .error x := by
  cases e with
  | error y => exact congrArg _ (Except.error.inj h)
  | ok a => cases h

/-- A result of another part of the program is there if that part has one. -/
theorem ok_of_mapError {ε ε' α : Type} {e : Except ε α} {g : ε → ε'} {a : α}
    (h : e.mapError g = .ok a) : e = .ok a := by
  cases e with
  | error x => cases h
  | ok b => exact congrArg _ (Except.ok.inj h)

/-- A result of another part of the program fails with a failure that is made of its error. -/
theorem exists_of_mapError {ε ε' α : Type} {e : Except ε α} {g : ε → ε'} {f : ε'}
    (h : e.mapError g = .error f) : ∃ x, e = .error x ∧ g x = f := by
  cases e with
  | ok a => cases h
  | error x => exact ⟨x, rfl, Except.error.inj h⟩

namespace Probe

variable {α β : Type} {s t : State}

/-- Every way in which an action ends from a state. -/
def Meets (action : Probe α) (s : State) (ok : α → State → Prop)
    (bad : Failure → State → Prop) : Prop :=
  match action s with
  | .ok a t => ok a t
  | .error f t => bad f t

variable {action : Probe α} {ok ok' : α → State → Prop} {bad bad' : Failure → State → Prop}

/-! ## Using a specification -/

/-- An outcome that is known decides. -/
theorem meets_of_ok {a : α} (ha : action s = .ok a t) : Meets action s ok bad ↔ ok a t := by
  rw [Meets, ha]

theorem meets_of_error {f : Failure} (hf : action s = .error f t) :
    Meets action s ok bad ↔ bad f t := by
  rw [Meets, hf]

theorem Meets.of_ok (h : Meets action s ok bad) {a : α} (ha : action s = .ok a t) : ok a t :=
  (meets_of_ok ha).1 h

theorem Meets.of_error (h : Meets action s ok bad) {f : Failure} (hf : action s = .error f t) :
    bad f t := (meets_of_error hf).1 h

theorem Meets.mono (h : Meets action s ok bad) (hok : ∀ a t, ok a t → ok' a t)
    (hbad : ∀ f t, bad f t → bad' f t) : Meets action s ok' bad' := by
  unfold Meets at h ⊢
  split
  · next a t ha => exact hok a t (by rw [ha] at h; exact h)
  · next f t hf => exact hbad f t (by rw [hf] at h; exact h)

/-- Two specifications of one action hold together. -/
theorem Meets.and (h : Meets action s ok bad) (h' : Meets action s ok' bad') :
    Meets action s (fun a t => ok a t ∧ ok' a t) (fun f t => bad f t ∧ bad' f t) := by
  unfold Meets at h h' ⊢
  split
  · next a t ha =>
    rw [ha] at h h'
    exact ⟨h, h'⟩
  · next f t hf =>
    rw [hf] at h h'
    exact ⟨h, h'⟩

/-- An action ends the way it does. -/
theorem meets_self (action : Probe α) (s : State) :
    Meets action s (fun a t => action s = .ok a t) fun f t => action s = .error f t := by
  unfold Meets
  split
  · assumption
  · assumption

/-- An action whose outcome does not matter. -/
theorem meets_any (action : Probe α) (s : State) :
    Meets action s (fun _ _ => True) fun _ _ => True := by
  unfold Meets
  split <;> trivial

/-- The action ends with a value. -/
def Succeeds (action : Probe α) (s : State) : Prop := ∃ a t, action s = .ok a t

/-- A sequence succeeds where its parts do. -/
theorem Succeeds.bind {next : α → Probe β} {a : α} (ha : action s = .ok a t)
    (h : Succeeds (next a) t) : Succeeds (action >>= next) s := by
  obtain ⟨b, u, hb⟩ := h
  refine ⟨b, u, ?_⟩
  rw [bind_apply, ha]
  exact hb

/-! ## Rules of the combinators -/

@[simp] theorem meets_pure (a : α) : Meets (pure a) s ok bad ↔ ok a s := Iff.rfl

@[simp] theorem meets_throw (f : Failure) : Meets (throw f) s ok bad ↔ bad f s := Iff.rfl

@[simp] theorem meets_fail (f : Failure) : Meets (fail f) s ok bad ↔ bad f.settled s := Iff.rfl

@[simp] theorem meets_get {ok : State → State → Prop} : Meets get s ok bad ↔ ok s s := Iff.rfl

@[simp] theorem meets_modify (change : State → State) {ok : Unit → State → Prop} :
    Meets (modify change) s ok bad ↔ ok () (change s) := Iff.rfl

@[simp] theorem meets_say (origin : Origin) (level : Level) (text : String)
    {ok : Unit → State → Prop} :
    Meets (say origin level text) s ok bad ↔
      ok () { s with journal := s.journal.push (.message origin level text) } := Iff.rfl

@[simp] theorem meets_print (text : String) {ok : Unit → State → Prop} :
    Meets (print text) s ok bad ↔
      ok () { s with journal := s.journal.push (.printed text) } := Iff.rfl

@[simp] theorem meets_bind {next : α → Probe β} {ok : β → State → Prop} :
    Meets (action >>= next) s ok bad ↔
      Meets action s (fun a t => Meets (next a) t ok bad) bad := by
  unfold Meets
  rw [bind_apply]
  cases action s <;> rfl

@[simp] theorem meets_map {g : α → β} {ok : β → State → Prop} :
    Meets (g <$> action) s ok bad ↔ Meets action s (fun a t => ok (g a) t) bad := by
  unfold Meets
  rw [map_apply]
  cases action s <;> rfl

@[simp] theorem meets_tryCatch {handler : Failure → Probe α} :
    Meets (tryCatch action handler) s ok bad ↔
      Meets action s ok (fun f t => Meets (handler f) t ok bad) := by
  unfold Meets
  rw [tryCatch_apply]
  cases action s <;> rfl

/-- A sequence is specified by its parts. -/
theorem Meets.bind {next : α → Probe β} {mid : α → State → Prop} {ok : β → State → Prop}
    (h : Meets action s mid bad) (hnext : ∀ a t, mid a t → Meets (next a) t ok bad) :
    Meets (action >>= next) s ok bad :=
  meets_bind.2 (h.mono hnext fun _ _ hf => hf)

/-- A sequence after an action that cannot fail is specified by its parts. -/
theorem Meets.bind_of_total {next : α → Probe β} {mid : α → State → Prop} {ok : β → State → Prop}
    (h : Meets action s mid fun _ _ => False) (hnext : ∀ a t, mid a t → Meets (next a) t ok bad) :
    Meets (action >>= next) s ok bad :=
  meets_bind.2 (h.mono hnext fun _ _ hf => hf.elim)

theorem meets_congr (h : ∀ f t, bad f t ↔ bad' f t) :
    Meets action s ok bad ↔ Meets action s ok bad' :=
  ⟨fun hm => hm.mono (fun _ _ ha => ha) fun f t => (h f t).1,
    fun hm => hm.mono (fun _ _ ha => ha) fun f t => (h f t).2⟩

theorem meets_undoing {catches : Failure → Bool} {cleanup : Probe Unit} :
    Meets (action.undoing catches cleanup) s ok bad ↔
      Meets action s ok fun f t =>
        if catches f then Meets cleanup t (fun _ u => bad f u) bad else bad f t := by
  rw [undoing, meets_tryCatch]
  refine meets_congr fun f t => ?_
  cases catches f <;> simp

theorem meets_ensuring {cleanup : Probe Unit} :
    Meets (action.ensuring cleanup) s ok bad ↔
      Meets action s (fun a t => Meets cleanup t (fun _ u => ok a u) bad)
        fun f t => Meets cleanup t (fun _ u => bad f u) bad := by
  simp [ensuring, meets_undoing]

/-- The failure that a fault becomes where faults of a class are told as another failure. -/
def told (catches : Fault → Bool) (handler : Fault → Failure) (g : Fault) : Failure :=
  if catches g then (handler g).settled else .fault g

theorem meets_onFault {catches : Fault → Bool} {handler : Fault → Failure} :
    Meets (action.onFault catches handler) s ok bad ↔
      Meets action s ok fun f t =>
        match f with
        | .fault g => bad (told catches handler g) t
        | f => bad f t := by
  rw [onFault, meets_tryCatch]
  refine meets_congr fun f t => ?_
  cases f with
  | fault g => cases h : catches g <;> simp [told, h]
  | _ => rfl

theorem meets_ofExcept {e : Except Failure α} :
    Meets (ofExcept e) s ok bad ↔
      match e with
      | .ok a => ok a s
      | .error f => bad f s := by
  cases e <;> rfl

/-- A number is worded, or is too long for that. -/
theorem meets_number {n : Int} {ok : String → State → Prop} :
    Meets (number n) s ok bad ↔
      if Decimal.isPrintable n then ok (toString n) s else bad .overlong s := by
  rw [number, numberText_eq, meets_ofExcept]
  by_cases h : Decimal.isPrintable n = true
  · rw [if_pos h, if_pos h]
  · rw [if_neg h, if_neg h]

end Probe

end RdsReach
