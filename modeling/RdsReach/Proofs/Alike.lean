import RdsReach.Proofs.Reporting
import RdsReach.Proofs.Silence

/-!
# Runs side by side

Two runs of the program are compared step by step: `Mirrors R V action action' s s'` says that two
actions end alike, one from the state `s` and the other one from `s'`. The states that are compared
are `Alike`: they have the same core, and what was printed says the same. Everything that is
composed of changes leads from alike states to alike states (`Composed.mirrors`), as the core of the
state decides what it does next.
-/

namespace RdsReach

/-! ## Changes that the core does not see -/

theorem State.core_core (s : State) : s.core.core = s.core := by
  have hevents (es : Array Event) : (es.filter fun e => !e.isQuery).filter (fun e => !e.isQuery) =
      es.filter fun e => !e.isQuery := by
    simp only [Array.filter_filter, Bool.and_self]
  have hsockets (ms : Array ProbeSocket) :
      (ms.map ProbeSocket.core).map ProbeSocket.core = ms.map ProbeSocket.core := Array.map_map
  simp only [State.core, hevents, hsockets]
  rfl

/-- What the change does to the core of a state is decided by the core. -/
def Blind (f : State → State) : Prop := ∀ s, (f s).core = (f s.core).core

namespace Blind

variable {f : State → State}

theorem core_eq (h : Blind f) {s s' : State} (hs : s.core = s'.core) :
    (f s).core = (f s').core := by
  rw [h s, hs, ← h s']

/-- A change that the core undergoes as the state does. -/
theorem of_commutes (h : ∀ s, (f s).core = f s.core) : Blind f := by
  intro s
  rw [h, h, State.core_core]

/-- A change that the core does not show. -/
theorem of_core_eq (h : ∀ s, (f s).core = s.core) : Blind f := by
  intro s
  rw [h, h, State.core_core]

end Blind

/-- The core does not show that a queue was asked. -/
theorem State.core_note_query {e : Event} (h : e.isQuery = true) (s : State) :
    (s.note e).core = s.core := by
  simp [State.core, State.note, h]

theorem note_blind (e : Event) : Blind (·.note e) := by
  cases h : e.isQuery with
  | true => exact .of_core_eq (State.core_note_query h)
  | false =>
    apply Blind.of_commutes
    intro s
    simp [State.core, State.note, h]

/-- The core does not show the times and spins of the members. -/
theorem State.core_modify (change : ProbeSocket → ProbeSocket) (h : ∀ m, (change m).core = m.core)
    (s : State) (place : Nat) :
    { s with group := { s.group with sockets := s.group.sockets.modify place change } }.core =
      s.core := by
  have hmembers : (s.group.sockets.modify place change).map ProbeSocket.core =
      s.group.sockets.map ProbeSocket.core := by
    apply Array.toList_inj.1
    rw [Array.toList_map, map_modify_of_eq h, Array.toList_map]
  simp only [State.core, hmembers]

namespace Probe

theorem SocketChange.blind {f : State → State} (h : SocketChange f) : Blind f := by
  cases h with
  | note he => exact note_blind _
  | countAttempt kind => cases kind <;> exact .of_commutes fun _ => rfl
  | say origin level text => exact .of_core_eq fun _ => rfl
  | _ => exact .of_commutes fun _ => rfl

theorem GroupChange.blind {f : State → State} (h : GroupChange f) : Blind f := by
  cases h with
  | socket h => exact h.blind
  | start conf =>
    apply Blind.of_commutes
    intro s
    simp [State.core, State.forRun]
  | add m =>
    have hadd (s : State) : (s.withMember m).core = s.core.withMember m.core := by
      simp only [State.core, State.withMember, Array.map_push]
    intro s
    dsimp only
    rw [hadd, hadd, State.core_core]
  | clear =>
    apply Blind.of_commutes
    intro s
    simp [State.core]

theorem ServeChange.blind {f : State → State} (h : ServeChange f) : Blind f := by
  cases h with
  | socket h => exact h.blind
  | note he => exact note_blind _
  | countSend fd => exact .of_commutes fun _ => rfl
  | countPacket place =>
    -- the core of a member counts packets as the member does
    have hcount (ms : Array ProbeSocket) :
        (ms.modify place fun m => { m with sent := m.sent + 1 }).map ProbeSocket.core =
          (ms.map ProbeSocket.core).modify place fun m => { m with sent := m.sent + 1 } := by
      apply Array.ext_getElem?
      intro i
      rw [Array.getElem?_map, Array.getElem?_modify, Array.getElem?_modify, Array.getElem?_map]
      by_cases hi : place = i
      · cases ms[i]? <;> simp [hi, ProbeSocket.core]
      · simp [hi]
    apply Blind.of_commutes
    intro s
    simp only [State.core, hcount]
  | stamp place =>
    apply Blind.of_core_eq
    intro s
    let time := reading s.world.sendClock s.sendClockReads
    exact State.core_modify (fun m => { m with lastSent := some time }) (fun _ => rfl) s place

end Probe

/-! ## Alike states -/

/-- Can a question about a queue be answered with the reply, be it with a number of bytes or with an
error of the system that can be reported? -/
def QueueReply.isTame : QueueReply → Bool
  | .fault g => g.isReportable Fault.isSystem
  | r => r.isReadable

/-- Questions about queues are answered. -/
def State.Tame (s : State) : Prop := ∀ r ∈ s.world.queue, r.isTame = true

/-- The reports are on results with the same summary and the same line about an early end. -/
def Report.Agree (render : Renderer) (report report' : String) : Prop :=
  ∃ r r' details details', text r details render = .ok report ∧
    text r' details' render = .ok report' ∧ summaryLine r = summaryLine r' ∧
      r.failure.toList.mapM (abortLine r) = r'.failure.toList.mapM (abortLine r')

/-- The states differ in what is for information only, and neither a question about a queue nor a
table ends a run. -/
structure State.Alike (render : Renderer) (s s' : State) : Prop where
  core_eq : s.core = s'.core
  tame : s.Tame
  tame' : s'.Tame
  render_eq : s.world.render = render
  total : render.Total
  printed : List.Forall₂ (Report.Agree render) s.printed s'.printed

namespace State

variable {render : Renderer} {s s' t t' : State}

/-- A blind change that prints nothing and takes no reply. -/
theorem Alike.change (h : s.Alike render s') {f : State → State} (hblind : Blind f)
    (hprinted : ∀ s : State, s.Unprinted (f s))
    (hqueue : ∀ s : State, (f s).world.queue = s.world.queue) : (f s).Alike render (f s') where
  core_eq := hblind.core_eq h.core_eq
  tame := by
    rw [Tame, hqueue]
    exact h.tame
  tame' := by
    rw [Tame, hqueue]
    exact h.tame'
  render_eq := (hprinted s).render_eq.trans h.render_eq
  total := h.total
  printed := by
    rw [(hprinted s).printed_eq, (hprinted s').printed_eq]
    exact h.printed

/-- What happens to the state is for information only, and nothing is printed. -/
structure Informs (s t : State) : Prop where
  core_eq : t.core = s.core
  printed_eq : t.printed = s.printed

instance : IsPreorder State Informs where
  refl _ := ⟨rfl, rfl⟩
  trans _ _ _ h h' := ⟨h'.core_eq.trans h.core_eq, h'.printed_eq.trans h.printed_eq⟩

/-- What is for information only keeps states alike, on either side. -/
theorem Alike.informs (h : s.Alike render s') (ht : s.Informs t) (htame : t.Tame)
    (ht' : s'.Informs t') (htame' : t'.Tame) : t.Alike render t' where
  core_eq := by rw [ht.core_eq, h.core_eq, ht'.core_eq]
  tame := htame
  tame' := htame'
  render_eq := (core_render ht.core_eq).trans h.render_eq
  total := h.total
  printed := by
    rw [ht.printed_eq, ht'.printed_eq]
    exact h.printed

end State

namespace Probe

/-! ## Actions that mirror each other -/

/-- From the states `s` and `s'` the actions end alike: with values that `V` relates or with the
same failure, and in states that `R` relates. -/
inductive Mirrors {α β : Type} (R : State → State → Prop) (V : α → β → Prop) (action : Probe α)
    (action' : Probe β) (s s' : State) : Prop where
  | ok {a : α} {a' : β} {t t' : State} (h : action s = .ok a t) (h' : action' s' = .ok a' t')
      (hvalue : V a a') (hstate : R t t')
  | error {f : Failure} {t t' : State} (h : action s = .error f t) (h' : action' s' = .error f t')
      (hstate : R t t')

namespace Mirrors

variable {α α' β β' : Type} {R : State → State → Prop} {V : α → α' → Prop} {W : β → β' → Prop}
  {action : Probe α} {action' : Probe α'} {s s' : State}

theorem pure {a : α} {a' : α'} (hvalue : V a a') (hstate : R s s') :
    Mirrors R V (pure a) (pure a') s s' := .ok rfl rfl hvalue hstate

theorem throw (f : Failure) (hstate : R s s') :
    Mirrors R V (throw f) (throw f) s s' := .error rfl rfl hstate

theorem modify {change change' : State → State} (hstate : R (change s) (change' s')) :
    Mirrors R Eq (modify change : Probe Unit) (modify change') s s' := .ok rfl rfl rfl hstate

/-- Only how the actions end counts. -/
theorem of_eq {other : Probe α} {other' : Probe α'} {u u' : State}
    (h : Mirrors R V action action' s s') (hu : other u = action s) (hu' : other' u' = action' s') :
    Mirrors R V other other' u u' := by
  cases h with
  | ok h h' hvalue hstate => exact .ok (hu.trans h) (hu'.trans h') hvalue hstate
  | error h h' hstate => exact .error (hu.trans h) (hu'.trans h') hstate

theorem bind_of_ok {next : α → Probe β} {next' : α' → Probe β'}
    (h : Mirrors R V action action' s s')
    (hnext : ∀ {a a' t t'}, action s = .ok a t → action' s' = .ok a' t' → V a a' → R t t' →
      Mirrors R W (next a) (next' a') t t') :
    Mirrors R W (action >>= next) (action' >>= next') s s' := by
  cases h with
  | ok h h' hvalue hstate =>
    cases hnext h h' hvalue hstate with
    | ok hn hn' hvalue hstate =>
      exact .ok (by rw [bind_apply, h]; exact hn) (by rw [bind_apply, h']; exact hn') hvalue hstate
    | error hn hn' hstate =>
      exact .error (by rw [bind_apply, h]; exact hn) (by rw [bind_apply, h']; exact hn') hstate
  | error h h' hstate =>
    exact .error (by rw [bind_apply, h]) (by rw [bind_apply, h']) hstate

theorem bind {next : α → Probe β} {next' : α' → Probe β'} (h : Mirrors R V action action' s s')
    (hnext : ∀ a a' t t', V a a' → R t t' → Mirrors R W (next a) (next' a') t t') :
    Mirrors R W (action >>= next) (action' >>= next') s s' :=
  h.bind_of_ok fun _ _ hvalue hstate => hnext _ _ _ _ hvalue hstate

/-- Where the values are the same, so is what comes next. -/
theorem bind_eq {next : α → Probe β} {next' : α → Probe β'} {action' : Probe α}
    (h : Mirrors R Eq action action' s s')
    (hnext : ∀ a t t', R t t' → Mirrors R W (next a) (next' a) t t') :
    Mirrors R W (action >>= next) (action' >>= next') s s' := by
  apply h.bind
  intro a a' t t' hvalue ht
  subst hvalue
  exact hnext a t t' ht

theorem read {next : State → Probe α} {next' : State → Probe α'}
    (h : Mirrors R V (next s) (next' s') s s') :
    Mirrors R V (get >>= next) (get >>= next') s s' := by
  cases h with
  | ok h h' hvalue hstate => exact .ok h h' hvalue hstate
  | error h h' hstate => exact .error h h' hstate

theorem tryCatch {handler : Failure → Probe α} {handler' : Failure → Probe α'}
    (h : Mirrors R V action action' s s')
    (hhandler : ∀ f t t', R t t' → Mirrors R V (handler f) (handler' f) t t') :
    Mirrors R V (tryCatch action handler) (tryCatch action' handler') s s' := by
  cases h with
  | ok h h' hvalue hstate =>
    exact .ok (by rw [tryCatch_apply, h]) (by rw [tryCatch_apply, h']) hvalue hstate
  | @error f t t' h h' hstate =>
    cases hhandler f _ _ hstate with
    | ok hn hn' hvalue hstate =>
      exact .ok (by rw [tryCatch_apply, h]; exact hn) (by rw [tryCatch_apply, h']; exact hn')
        hvalue hstate
    | error hn hn' hstate =>
      exact .error (by rw [tryCatch_apply, h]; exact hn) (by rw [tryCatch_apply, h']; exact hn')
        hstate

theorem map {g : α → β} {g' : α' → β'} (h : Mirrors R V action action' s s')
    (hvalue : ∀ a a', V a a' → W (g a) (g' a')) :
    Mirrors R W (g <$> action) (g' <$> action') s s' := by
  rw [map_eq_pure_bind, map_eq_pure_bind]
  exact h.bind fun _ _ _ _ ha ht => .pure (hvalue _ _ ha) ht

theorem undoing (h : Mirrors R V action action' s s') (catches : Failure → Bool)
    {cleanup : Probe Unit} (hcleanup : ∀ t t', R t t' → Mirrors R Eq cleanup cleanup t t') :
    Mirrors R V (action.undoing catches cleanup) (action'.undoing catches cleanup) s s' := by
  apply h.tryCatch
  intro f t t' ht
  cases catches f with
  | true => exact (hcleanup _ _ ht).bind_eq fun _ _ _ hu => .throw f hu
  | false => exact .throw f ht

theorem ensuring (h : Mirrors R V action action' s s') {cleanup : Probe Unit}
    (hcleanup : ∀ t t', R t t' → Mirrors R Eq cleanup cleanup t t') :
    Mirrors R V (action.ensuring cleanup) (action'.ensuring cleanup) s s' := by
  apply (h.undoing _ hcleanup).bind
  intro a a' t t' ha ht
  exact (hcleanup _ _ ht).bind_eq fun _ _ _ hu => .pure ha hu

theorem ofExcept (e : Except Failure α) (hs : R s s') :
    Mirrors R Eq (ofExcept e) (ofExcept e) s s' := by
  cases e with
  | ok a => exact .pure rfl hs
  | error f => exact .throw f hs

/-- Actions that never fail are compared by what each of them does. -/
theorem of_meets {P : α → State → Prop} {P' : α' → State → Prop}
    (h : Meets action s P fun _ _ => False) (h' : Meets action' s' P' fun _ _ => False)
    (hend : ∀ a a' t t', P a t → P' a' t' → V a a' ∧ R t t') :
    Mirrors R V action action' s s' := by
  cases ha : action s with
  | error f t => exact (h.of_error ha).elim
  | ok a t =>
    cases ha' : action' s' with
    | error f t' => exact (h'.of_error ha').elim
    | ok a' t' =>
      obtain ⟨hvalue, hstate⟩ := hend _ _ _ _ (h.of_ok ha) (h'.of_ok ha')
      exact .ok ha ha' hvalue hstate

end Mirrors

/-- What is composed of changes mirrors itself where each change does. -/
theorem Composed.mirrors {α : Type} {Change : (State → State) → Prop} {action : Probe α}
    (h : Composed Change action) {R : State → State → Prop}
    (hcore : ∀ s s', R s s' → s.core = s'.core)
    (hchange : ∀ f, Change f → ∀ s s', R s s' → R (f s) (f s')) {s s' : State} (hs : R s s') :
    Mirrors R Eq action action s s' := by
  induction h generalizing s s' with
  | pure a => exact .pure rfl hs
  | throw f => exact .throw f hs
  | change h => exact .modify (hchange _ h _ _ hs)
  | @read α next hnext h ih =>
    -- the core decides what comes next, so the same action does on both sides
    have heq : (get >>= next) s' = next s s' := by
      rw [bind_apply, get_apply, hnext s s' (hcore _ _ hs)]
    cases ih s hs with
    | ok h h' hvalue hstate => exact .ok h (heq.trans h') hvalue hstate
    | error h h' hstate => exact .error h (heq.trans h') hstate
  | bind h hnext ih ihnext => exact (ih hs).bind_eq fun a _ _ ht => ihnext a ht
  | tryCatch h hhandler ih ihhandler => exact (ih hs).tryCatch fun f t t' ht => ihhandler f ht

/-! ### Alike states stay alike -/

section Alike

open State (Alike)

variable {α : Type} {action : Probe α} {render : Renderer} {s s' : State}

theorem SocketChange.queue_eq {f : State → State} (h : SocketChange f) (s : State) :
    (f s).world.queue = s.world.queue := by
  cases h with
  | countAttempt kind => cases kind <;> rfl
  | _ => rfl

theorem GroupChange.alike {f : State → State} (h : GroupChange f) (hs : s.Alike render s') :
    (f s).Alike render (f s') := by
  apply hs.change h.blind fun t => (h.silent t).toUnprinted
  intro t
  cases h with
  | socket h => exact h.queue_eq t
  | _ => rfl

theorem ServeChange.alike {f : State → State} (h : ServeChange f) (hs : s.Alike render s') :
    (f s).Alike render (f s') := by
  apply hs.change h.blind fun t => (h.silent t).toUnprinted
  intro t
  cases h with
  | socket h => exact h.queue_eq t
  | _ => rfl

/-- What opens, closes or prepares for a group leads from alike states to alike states. -/
theorem Composed.alike (h : Composed GroupChange action) (hs : s.Alike render s') :
    Mirrors (Alike render) Eq action action s s' :=
  h.mirrors (fun _ _ ht => ht.core_eq) (fun _ hf _ _ ht => hf.alike ht) hs

end Alike

end Probe

end RdsReach
