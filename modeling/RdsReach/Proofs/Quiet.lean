import RdsReach.Program
import RdsReach.Proofs.Faithful

/-!
# Parts of the program that touch no socket

Resolving hosts, settling a configuration and wording it make no call on a socket. `Quiet` says so,
together with the account of the faults: a quiet action leaves events, sockets, group and source as
they are.
-/

namespace RdsReach.Probe

open State (After Passes)

variable {α β : Type} {s : State}

/-- The action touches no socket, and accounts for its faults. -/
def Quiet (action : Probe α) : Prop :=
  ∀ s, Meets action s (fun _ t => s.After [] t ∧ s.Passes none t)
    fun f t => s.After [] t ∧ s.Passes (some f) t

theorem Quiet.faithful {action : Probe α} (h : Quiet action) : Faithful action :=
  fun s => (h s).mono (fun _ _ ht => ht.2) fun _ _ ht => ht.2

/-- A quiet action leaves no event. -/
theorem Quiet.after {action : Probe α} (h : Quiet action) (s : State) :
    Meets action s (fun _ t => s.After [] t) fun _ t => s.After [] t :=
  (h s).mono (fun _ _ ht => ht.1) fun _ _ ht => ht.1

/-! ## Combinators -/

theorem quiet_pure (a : α) : Quiet (pure a) := fun s => ⟨.refl s, .refl s⟩

theorem quiet_throw {f : Failure} (hf : f.isInterrupt = false) : Quiet (throw f : Probe α) :=
  fun s => ⟨.refl s, faithful_throw (α := α) hf s⟩

theorem quiet_fail {f : Failure} (hf : f.isInterrupt = false) : Quiet (fail f : Probe α) :=
  quiet_throw (Failure.isInterrupt_settled hf)

theorem quiet_get : Quiet (get : Probe State) := fun s => ⟨.refl s, .refl s⟩

theorem quiet_modify {change : State → State}
    (h : ∀ s : State, s.After [] (change s) ∧ s.Passes none (change s)) :
    Quiet (modify change : Probe Unit) := h

theorem quiet_say (origin : Origin) (level : Level) (text : String) :
    Quiet (say origin level text) :=
  quiet_modify fun s => ⟨.of_eq rfl rfl rfl rfl, faithful_say origin level text s⟩

theorem quiet_ofExcept {e : Except Failure α} (h : ∀ f, e = .error f → f.isInterrupt = false) :
    Quiet (ofExcept e) := by
  cases e with
  | ok a => exact quiet_pure a
  | error f => exact quiet_throw (h f rfl)

theorem quiet_wordable {e : Except Failure α} (h : Wordable e) : Quiet (ofExcept e) :=
  quiet_ofExcept fun f hf => h f hf ▸ rfl

theorem quiet_number (n : Int) : Quiet (number n) := by
  rw [number]
  exact quiet_wordable (wordable_numberText n)

variable {action : Probe α}

theorem Quiet.bind {next : α → Probe β} (h : Quiet action) (hnext : ∀ a, Quiet (next a)) :
    Quiet (action >>= next) := by
  intro s
  refine meets_bind.2 ((h s).mono (fun a t ht => ?_) fun _ _ ht => ht)
  exact (hnext a t).mono (fun _ _ hu => ⟨ht.1.trans hu.1, ht.2.trans rfl hu.2⟩)
    fun _ _ hu => ⟨ht.1.trans hu.1, ht.2.trans rfl hu.2⟩

theorem Quiet.map (g : α → β) (h : Quiet action) : Quiet (g <$> action) :=
  fun s => meets_map.2 (h s)

/-- A handler may end any failure but an interrupt, which it has to let through. -/
theorem Quiet.tryCatch {handler : Failure → Probe α} (h : Quiet action)
    (hhandler : ∀ f, f.isInterrupt = false → Quiet (handler f))
    (hinterrupt : handler (.fault .interrupt) = throw (.fault .interrupt)) :
    Quiet (tryCatch action handler) := by
  -- the faults are accounted for as in any other action, so the events are left
  have hfaithful := h.faithful.tryCatch (fun f hf => (hhandler f hf).faithful) hinterrupt
  have hafter (s : State) : Meets (MonadExceptOf.tryCatch action handler) s
      (fun _ t => s.After [] t) fun _ t => s.After [] t := by
    refine meets_tryCatch.2 ((h.after s).mono (fun _ _ ht => ht) fun f t ht => ?_)
    cases hf : f.isInterrupt with
    | false =>
      exact ((hhandler f hf).after t).mono (fun _ _ hu => ht.trans hu) fun _ _ hu => ht.trans hu
    | true =>
      rw [Failure.eq_of_isInterrupt hf, hinterrupt]
      exact ht
  exact fun s => (hafter s).and (hfaithful s)

/-! ## Resolving and settling -/

theorem takeAnswer_quiet (kind : LookupKind) (host : Host) : Quiet (takeAnswer kind host) := by
  refine quiet_get.bind fun s => ?_
  split
  · exact quiet_pure _
  · exact quiet_pure _
  · exact quiet_pure _
  · refine Quiet.bind ?_ fun _ => quiet_pure _
    exact quiet_modify fun _ =>
      ⟨.of_eq rfl rfl rfl rfl, .of_eq rfl (fun _ => .inl) rfl (fun _ => id) rfl⟩

theorem lookup_quiet (kind : LookupKind) (host : Host) : Quiet (lookup kind host) := by
  refine (takeAnswer_quiet kind host).bind fun answer => ?_
  have hnote (s : State) (l : Lookup) : s.After [] { s with lookups := s.lookups.push l } :=
    .of_eq rfl rfl rfl rfl
  split
  · refine Quiet.bind (quiet_modify fun s => ?_) fun _ => quiet_pure _
    exact ⟨hnote s _, .note_lookup s ⟨kind, host, none⟩⟩
  · next f => exact fun s => ⟨hnote s _, .note_lookup s ⟨kind, host, some f⟩⟩

theorem candidates_quiet (host : Host) : Quiet (candidates host) := by
  refine (lookup_quiet .numeric host).tryCatch (fun f hf => ?_) rfl
  split
  · refine (quiet_say _ _ _).bind fun _ =>
      (lookup_quiet .full host).tryCatch (fun g hg => ?_) rfl
    split
    · exact quiet_fail rfl
    · exact quiet_throw hg
  · exact quiet_fail rfl
  · exact quiet_throw hf

theorem resolve_quiet (host : Host) : Quiet (resolve host) := by
  refine (candidates_quiet host).bind fun found => ?_
  split
  · exact quiet_fail rfl
  · next first rest =>
    -- a candidate of a family that is not supported is refused, any other one is read
    have hread : Quiet (do
        let endpoint ←
          ofExcept ((Endpoint.ofSockAddr first.family first.address).mapError .malformed)
        say .resolving .debug s!"Resolved '{host.shown}' to {endpoint.address.text}"
        return endpoint) := by
      refine (quiet_ofExcept fun f hf => ?_).bind fun _ =>
        (quiet_say _ _ _).bind fun _ => quiet_pure _
      obtain ⟨x, -, rfl⟩ := exists_of_mapError hf
      rfl
    dsimp only
    split
    · exact (quiet_number _).bind fun _ => (quiet_fail rfl).bind fun _ => hread
    · exact hread

theorem ofOptions_quiet (options : Options) :
    Quiet (RunConfig.ofOptions resolve options) := by
  refine Quiet.bind ?_ fun _ => Quiet.bind ?_ fun tos =>
    (resolve_quiet _).bind fun destination => Quiet.bind ?_ fun source =>
      Quiet.bind ?_ fun _ => quiet_pure _
  · unfold RunConfig.checkGroupSize
    split
    · exact quiet_pure _
    · exact quiet_throw rfl
    · split
      · exact quiet_pure _
      · exact quiet_fail rfl
  · unfold RunConfig.checkTos
    split
    · exact quiet_pure _
    · exact quiet_throw rfl
    · split
      · exact quiet_pure _
      · exact quiet_fail rfl
  · unfold RunConfig.resolveSource
    split
    · exact quiet_pure _
    · exact (resolve_quiet _).map _
    · exact (resolve_quiet _).map _
  · unfold RunConfig.checkFamilies
    split
    · exact quiet_pure _
    · split
      · exact quiet_pure _
      · exact quiet_fail rfl

/-! ## Wording -/

theorem describeSource_quiet (source : Endpoint) (explicit : Bool) :
    Quiet (describeSource source explicit) := by
  refine quiet_get.bind fun s => ?_
  split
  · exact quiet_pure _
  · split
    · exact (quiet_say _ _ _).bind fun _ => quiet_pure _
    · exact quiet_pure _

theorem describe_quiet (conf : RunConfig) : Quiet conf.describe :=
  (quiet_number _).bind fun _ => (quiet_number _).bind fun _ =>
    (quiet_number _).bind fun _ => quiet_pure _

end RdsReach.Probe
