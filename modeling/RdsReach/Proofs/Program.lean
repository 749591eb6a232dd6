import RdsReach.Proofs.Conduct

/-!
# What a command line comes to

`Program.configured` is the configuration that a command line is settled to. `Program.perform_spec`
says what becomes of it: without a configuration nothing happens to any socket, and with one a run
is conducted, the end of which is seen in the verdict.
-/

namespace RdsReach

/-! ## Settled configurations -/

open Probe

theorem checkGroupSize_spec (size : Setting Int) (s : State) :
    Meets (RunConfig.checkGroupSize size) s
      (fun _ _ => size = .absent ∨ ∃ n, size = .value n ∧ RunConfig.isGroupSize n = true)
      fun _ _ => True := by
  unfold RunConfig.checkGroupSize
  split
  · exact .inl rfl
  · exact trivial
  · next n =>
    split
    · next hn => exact .inr ⟨n, rfl, hn⟩
    · exact trivial

theorem checkTos_spec (tos : Setting Int) (s : State) :
    Meets (RunConfig.checkTos tos) s
      (fun n _ => RunConfig.isTos n = true ∧ (tos = .absent ∧ n = 0 ∨ tos = .value n))
      fun _ _ => True := by
  unfold RunConfig.checkTos
  split
  · exact ⟨rfl, .inl ⟨rfl, rfl⟩⟩
  · exact trivial
  · split
    · next hn => exact ⟨hn, .inr rfl⟩
    · exact trivial

theorem resolveSource_spec (resolve : Host → Probe Endpoint) (source : Setting String) (s : State) :
    Meets (RunConfig.resolveSource resolve source) s
      (fun src _ => src = none ↔ source = .absent) fun _ _ => True := by
  unfold RunConfig.resolveSource
  split
  · exact ⟨fun _ => rfl, fun _ => rfl⟩
  · rw [meets_map]
    exact (meets_any _ s).mono (fun _ _ _ => by simp) fun _ _ _ => trivial
  · rw [meets_map]
    exact (meets_any _ s).mono (fun _ _ _ => by simp) fun _ _ _ => trivial

theorem checkFamilies_spec (source : Option Endpoint) (destination : Endpoint) (s : State) :
    Meets (RunConfig.checkFamilies source destination) s
      (fun _ _ => ∀ src, source = some src → src.version = destination.version)
      fun _ _ => True := by
  unfold RunConfig.checkFamilies
  split
  · exact fun _ h => nomatch h
  · split
    · next hversion =>
      intro src h
      cases h
      exact hversion
    · exact trivial

theorem impliedGroupSize_bounds {count : Int} (h : 0 ≤ count) :
    1 ≤ RunConfig.impliedGroupSize count ∧ RunConfig.impliedGroupSize count ≤ 32 := by
  unfold RunConfig.impliedGroupSize
  split
  · next hsmall =>
    obtain ⟨hne, hlt⟩ := Bool.and_eq_true_iff.1 hsmall
    have hne : count ≠ 0 := of_decide_eq_true hne
    have hlt : count < 8 := of_decide_eq_true hlt
    omega
  · exact ⟨by decide, by decide⟩

/-- What the options that were asked for come to in a configuration. -/
structure Options.Settles (options : Options) (conf : RunConfig) : Prop where
  count_eq : conf.count = RunConfig.numberOr0 options.count
  groupSize : options.groupSize = .absent ∧
      conf.groupSize = RunConfig.impliedGroupSize conf.count ∨
    options.groupSize = .value conf.groupSize ∧ RunConfig.isGroupSize conf.groupSize = true
  isTos : RunConfig.isTos conf.tos = true
  tos : options.tos = .absent ∧ conf.tos = 0 ∨ options.tos = .value conf.tos
  source_eq_none_iff : conf.source = none ↔ options.source = .absent
  versions : ∀ src, conf.source = some src → src.version = conf.destination.version

theorem ofOptions_settles (resolve : Host → Probe Endpoint) (options : Options) (s : State) :
    Meets (RunConfig.ofOptions resolve options) s (fun conf _ => options.Settles conf)
      fun _ _ => True := by
  rw [RunConfig.ofOptions]
  apply (checkGroupSize_spec options.groupSize s).bind
  intro _ t hsize
  apply (checkTos_spec options.tos t).bind
  intro tos t htos
  apply (meets_any _ t).bind
  intro destination t _
  apply (resolveSource_spec resolve options.source t).bind
  intro source t hsource
  apply (checkFamilies_spec source destination t).bind
  intro _ t hversion
  -- a size that is not given follows from the count
  rcases hsize with hsize | ⟨n, hsize, hn⟩
  · rw [hsize]
    exact ⟨rfl, .inl ⟨hsize, rfl⟩, htos.1, htos.2, hsource, hversion⟩
  · rw [hsize]
    exact ⟨rfl, .inr ⟨hsize, hn⟩, htos.1, htos.2, hsource, hversion⟩

/-- The configuration of options passed all checks, if the count is no negative number. -/
theorem Options.Settles.checked {options : Options} {conf : RunConfig} (h : options.Settles conf)
    (hcount : 0 ≤ RunConfig.numberOr0 options.count) : conf.Checked := by
  have hnonneg : 0 ≤ conf.count := by
    rw [h.count_eq]
    exact hcount
  refine ⟨?_, h.isTos, hnonneg⟩
  rcases h.groupSize with ⟨-, hsize⟩ | ⟨-, hsize⟩
  · rw [hsize]
    exact impliedGroupSize_bounds hnonneg
  · simpa [RunConfig.isGroupSize] using hsize

theorem ofOptions_checked (options : Options) (hcount : 0 ≤ RunConfig.numberOr0 options.count)
    (s : State) :
    Meets (RunConfig.ofOptions resolve options) s (fun conf _ => conf.Checked) fun _ _ => True :=
  (ofOptions_settles resolve options s).mono (fun _ _ h => h.checked hcount) fun _ _ _ => trivial

theorem CommandLine.Arguments.count_nonneg (a : Arguments) :
    0 ≤ RunConfig.numberOr0 a.options.count := by
  rw [Arguments.options]
  cases a.settings.count with
  | value n => exact Int.natCast_nonneg n
  | _ => exact Int.le_refl 0

namespace Program

open State (Follows)

/-! ## Runs of a command line -/

/-- The configuration that a command line is settled to. -/
def configured (arguments : List String) (world : World) : Option RunConfig :=
  match CommandLine.read arguments with
  | .error _ => none
  | .ok a =>
    match RunConfig.ofOptions resolve a.options { world } with
    | .ok conf _ => some conf
    | .error _ _ => none

/-- The failure that a verdict tells. -/
def Verdict.failure? : Verdict → Option Failure
  | .failed f => some f
  | _ => none

/-- What a configured run does before its first packet. -/
def setUpRun (conf : RunConfig) : Probe Unit := do
  Probe.say .configuring .debug s!"Configured {← conf.describe}"
  modify (·.forRun conf)
  preparation conf

/-- The whole setup that a command line asks for: the configuration is settled, the source is looked
up and announced, and the group is opened. -/
def setUp (a : CommandLine.Arguments) : Probe Unit := do
  setUpRun (← RunConfig.ofOptions resolve a.options)

/-- The verdict on a run of which the result was reported. -/
def verdictOf (r : RunResult) : Verdict := if r.isAborted then .aborted else .completed

theorem execute_spec (conf : RunConfig) (details : Bool) {s : State}
    (hsockets : s.sockets.size = 0) :
    Meets (execute conf details) s
      (fun v t => ∃ es r, s.Emits es t ∧ Reported conf details s es r t ∧ v = verdictOf r ∧
        Succeeds (setUpRun conf) s)
      fun _ t => ∃ es o, s.Emits es t ∧ Conducted conf es o ∧
        (o.isSome = true → Succeeds (setUpRun conf) s) := by
  rw [execute]
  have hdescribe := ((describe_quiet conf).after s).and ((describe_composed conf).group.silent s)
  refine meets_bind.2 ((hdescribe.and (meets_self _ s)).mono ?_ ?_)
  · rintro text t ⟨⟨ht, hsilent⟩, hdescribed⟩
    rw [meets_bind, meets_say, meets_bind, meets_modify]
    set u := State.forRun { t with
      journal := t.journal.push (.message .configuring .debug s!"Configured {text}") } conf
    have hu : s.Emits [] u := ht.toEmits.then_nil (.of_eq rfl rfl)
    have hsilentu : s.Silent u :=
      (hsilent.trans (say_silent .configuring .debug _ t)).trans ((GroupChange.start conf).silent _)
    have husockets : u.sockets.size = 0 := by
      rw [hu.size_eq, hsockets]
      rfl
    have hsetUp (h : Succeeds (preparation conf) u) : Succeeds (setUpRun conf) s :=
      .bind hdescribed h
    refine meets_bind.2 ((conduct_spec conf details husockets rfl rfl).mono ?_ ?_)
    · rintro r v ⟨es, hes, hreported, hprepared⟩
      exact ⟨es, r, by simpa using hu.trans hes, hreported.of_silent hsilentu, rfl,
        hsetUp hprepared⟩
    · rintro _ v ⟨es, o, hes, hconducted, hprepared⟩
      exact ⟨es, o, by simpa using hu.trans hes, hconducted, fun ho => hsetUp (hprepared ho)⟩
  · rintro _ t ⟨⟨ht, -⟩, -⟩
    exact ⟨[], none, ht.toEmits, .unannounced .spared, fun ho => absurd ho Bool.false_ne_true⟩

/-- What became of a command line that was read: without a configuration no socket is touched, and
with one its run is conducted, which comes to serving its sockets only if the whole setup
succeeds. -/
def Performed (a : CommandLine.Arguments) (s : State) (v : Verdict) (t : State) : Prop :=
  match RunConfig.ofOptions resolve a.options s with
  | .error _ _ => s.Emits [] t ∧ v.status ≠ 0
  | .ok conf _ =>
    (∃ es r, s.Emits es t ∧ Reported conf (0 < a.settings.verbosity) s es r t ∧ v = verdictOf r ∧
      Succeeds (setUp a) s) ∨
    ∃ es o, s.Emits es t ∧ Conducted conf es o ∧ v.status ≠ 0 ∧
      (o.isSome = true → Succeeds (setUp a) s)

theorem configureAndExecute_spec (a : CommandLine.Arguments) {s : State}
    (hsockets : s.sockets.size = 0) :
    Meets (configureAndExecute a) s (fun v t => Performed a s v t ∧ v.failure? = none)
      fun f t => Performed a s (.failed f) t := by
  have hstatus (f : Failure) : (Verdict.failed f).status ≠ 0 := by
    change (if f.isInterrupt then 130 else 1) ≠ 0
    split <;> decide
  have hquiet := (ofOptions_quiet a.options).after s
  have hsilent := (ofOptions_composed a.options).group.silent s
  unfold Performed
  rw [configureAndExecute, meets_bind, meets_tryCatch, meets_map]
  -- settling leaves no event, so all events are those of the run
  cases hsettle : RunConfig.ofOptions resolve a.options s with
  | ok conf u =>
    rw [meets_of_ok hsettle] at hquiet hsilent ⊢
    have husockets : u.sockets.size = 0 := by
      rw [hquiet.size_eq, hsockets]
      rfl
    have hsetUp (h : Succeeds (setUpRun conf) u) : Succeeds (setUp a) s := .bind hsettle h
    refine (execute_spec conf _ husockets).mono ?_ ?_
    · rintro v t ⟨es, r, hes, hreported, rfl, hrun⟩
      have hemits : s.Emits es t := by simpa using hquiet.toEmits.trans hes
      refine ⟨.inl ⟨es, r, hemits, hreported.of_silent hsilent, rfl, hsetUp hrun⟩, ?_⟩
      unfold verdictOf
      split <;> rfl
    · rintro f t ⟨es, o, hes, hconducted, hrun⟩
      exact .inr ⟨es, o, by simpa using hquiet.toEmits.trans hes, hconducted, hstatus f,
        fun ho => hsetUp (hrun ho)⟩
  | error f u =>
    rw [meets_of_error hsettle] at hquiet ⊢
    split
    · exact ⟨⟨hquiet.toEmits, Nat.one_ne_zero⟩, rfl⟩
    · exact ⟨hquiet.toEmits, hstatus f⟩

theorem sayFailure_spec (f : Failure) (s : State) :
    Meets (sayFailure f) s (fun _ t => ∃ journal, t = { s with journal }) fun _ _ => False := by
  unfold sayFailure
  split
  · exact ⟨_, rfl⟩
  · split <;> exact ⟨_, rfl⟩

/-- Every command line that was read is performed, and the verdict accounts for the interrupts. -/
theorem perform_spec (a : CommandLine.Arguments) {s : State} (hsockets : s.sockets.size = 0) :
    Meets (perform a) s
      (fun v t => Performed a s v t ∧ s.Follows t ∧
        (s.ClosesWork → t.interrupts = s.interrupts + Failure.interrupts v.failure?))
      fun _ _ => False := by
  rw [perform, meets_tryCatch]
  have hspec := (configureAndExecute_spec a hsockets).and (configureAndExecute_faithful a s)
  refine hspec.mono ?_ ?_
  · rintro v t ⟨⟨hperformed, hv⟩, hpass⟩
    rw [hv]
    exact ⟨hperformed, hpass.toFollows, hpass.interrupts_eq⟩
  · rintro f t ⟨hperformed, hpass⟩
    refine (sayFailure_spec f t).bind_of_total ?_
    rintro _ _ ⟨journal, rfl⟩
    refine ⟨?_, ⟨hpass.added, hpass.scripts_subset, hpass.tos_eq, hpass.queue_subset⟩,
      hpass.interrupts_eq⟩
    -- saying why the program failed changes the journal alone
    have hsaid {es : List Event} (hes : s.Emits es t) : s.Emits es { t with journal } :=
      hes.then_nil (.of_eq rfl rfl)
    unfold Performed at hperformed ⊢
    cases hsettle : RunConfig.ofOptions resolve a.options s with
    | error g u =>
      rw [hsettle] at hperformed
      exact ⟨hsaid hperformed.1, hperformed.2⟩
    | ok conf u =>
      rw [hsettle] at hperformed
      rcases hperformed with ⟨es, r, -, -, hv, -⟩ | ⟨es, o, hes, hend⟩
      -- a run with a result does not end in a failure
      · unfold verdictOf at hv
        split at hv <;> cases hv
      · exact .inr ⟨es, o, hsaid hes, hend⟩

/-! ## The program -/

theorem checked_of_configured {arguments : List String} {world : World} {conf : RunConfig}
    (h : configured arguments world = some conf) : conf.Checked := by
  unfold configured at h
  split at h
  · cases h
  · next a _ =>
    split at h
    · next hsettle =>
      obtain rfl := Option.some.inj h
      exact (ofOptions_checked a.options a.count_nonneg _).of_ok hsettle
    · cases h

theorem Verdict.status_eq (v : Verdict) :
    v.status = 130 ∧ Failure.interrupts v.failure? = 1 ∨
      (v.status = 0 ∨ v.status = 1) ∧ Failure.interrupts v.failure? = 0 := by
  cases v with
  | completed => exact .inr ⟨.inl rfl, rfl⟩
  | aborted => exact .inr ⟨.inr rfl, rfl⟩
  | refused f => exact .inr ⟨.inr rfl, rfl⟩
  | failed f => cases h : f.isInterrupt <;> simp [status, failure?, Failure.interrupts, h]

/-- How the program ran: what it did to the sockets, and what its exit status tells. -/
structure Ran (arguments : List String) (world : World) (ended : Ended) : Prop where
  follows : State.Follows { world } ended.final
  status_eq : (∀ f, ¬ world.Raises .close f) →
    ended.status = 130 ∧ ended.final.interrupts = 1 ∨
      (ended.status = 0 ∨ ended.status = 1) ∧ ended.final.interrupts = 0
  unconfigured : configured arguments world = none → ended.final.trace = []
  conducted : ∀ conf, configured arguments world = some conf →
    ∃ o, Conducted conf ended.final.trace o ∧
      (o.isSome = true → ∃ a, CommandLine.read arguments = .ok a ∧ Succeeds (setUp a) { world })
  openedFds_nodup : (openedFds ended.final.trace).Nodup
  completed : ended.status = 0 →
    CommandLine.read arguments = .error .help ∨ CommandLine.read arguments = .error .version ∨
      ∃ conf details threshold r, configured arguments world = some conf ∧
        Reported conf details { world } ended.final.trace r ended.final ∧ r.failure = none ∧
          ended.output = output threshold ended.final.journal

/-- A command line that is not run touches no socket. -/
theorem ran_of_ending {arguments : List String} {world : World} {status : Nat}
    {out errors : String} {e : CommandLine.Ending} (hread : CommandLine.read arguments = .error e)
    (hstatus : status = 0 ∨ status = 1) (hzero : status = 0 → e = .help ∨ e = .version) :
    Ran arguments world { status, output := out, errors, final := { world } } where
  follows := .refl _
  status_eq := fun _ => .inr ⟨hstatus, rfl⟩
  unconfigured := fun _ => rfl
  conducted := by
    intro conf hconf
    rw [configured, hread] at hconf
    cases hconf
  openedFds_nodup := List.nodup_nil
  completed := by
    intro h
    rw [hread]
    rcases hzero h with rfl | rfl
    · exact .inl rfl
    · exact .inr (.inl rfl)

section Performed

variable {arguments : List String} {world : World} {a : CommandLine.Arguments} {v : Verdict}
  {t : State}

/-- How the program ends with a verdict. -/
def endedWith (a : CommandLine.Arguments) (v : Verdict) (t : State) : Ended where
  status := v.status
  output := output (.ofVerbosity a.settings.verbosity) t.journal
  errors := v.errors
  final := t

theorem status_of_interrupts
    (hinterrupts : State.ClosesWork { world } →
      t.interrupts = State.interrupts { world } + Failure.interrupts v.failure?)
    (hcloses : ∀ f, ¬ world.Raises .close f) :
    v.status = 130 ∧ t.interrupts = 1 ∨ (v.status = 0 ∨ v.status = 1) ∧ t.interrupts = 0 := by
  have hcount := hinterrupts hcloses
  rw [show State.interrupts { world } = 0 from rfl, Nat.zero_add] at hcount
  rw [hcount]
  exact v.status_eq

theorem trace_of_emits {es : List Event} (h : State.Emits { world } es t) : t.trace = es := by
  simpa [State.trace] using h.trace_eq

/-- A command line that was performed ran. -/
theorem ran_of_performed (hread : CommandLine.read arguments = .ok a)
    (hperformed : Performed a { world } v t) (hfollows : Follows { world } t)
    (hinterrupts : State.ClosesWork { world } →
      t.interrupts = State.interrupts { world } + Failure.interrupts v.failure?) :
    Ran arguments world (endedWith a v t) := by
  have hstatus := status_of_interrupts hinterrupts
  unfold Performed at hperformed
  cases hsettle : RunConfig.ofOptions resolve a.options { world } with
  | error f u =>
    rw [hsettle] at hperformed
    obtain ⟨hes, hv⟩ := hperformed
    have hnone : configured arguments world = none := by rw [configured, hread]; simp [hsettle]
    refine ⟨hfollows, hstatus, fun _ => trace_of_emits hes, fun conf hconf => ?_, ?_,
      fun h => absurd h hv⟩
    · rw [hnone] at hconf
      cases hconf
    · exact (trace_of_emits hes).symm ▸ List.nodup_nil
  | ok conf u =>
    rw [hsettle] at hperformed
    have hsome : configured arguments world = some conf := by rw [configured, hread]; simp [hsettle]
    have hran {es : List Event} {o} (hes : State.Emits { world } es t)
        (hconducted : Conducted conf es o)
        (hsetUp : o.isSome = true → Succeeds (setUp a) { world })
        (hzero : v.status = 0 → ∃ r,
          Reported conf (0 < a.settings.verbosity) { world } es r t ∧ r.failure = none) :
        Ran arguments world (endedWith a v t) := by
      obtain rfl := trace_of_emits hes
      refine ⟨hfollows, hstatus, fun hnone => ?_, fun conf' hconf => ?_, hes.nodup, fun h => ?_⟩
      · rw [hsome] at hnone
        cases hnone
      · rw [hsome] at hconf
        exact Option.some.inj hconf ▸ ⟨_, hconducted, fun ho => ⟨a, hread, hsetUp ho⟩⟩
      · obtain ⟨r, hreported, hr⟩ := hzero h
        exact .inr (.inr ⟨conf, _, _, r, hsome, hreported, hr, rfl⟩)
    rcases hperformed with ⟨es, r, hes, hreported, rfl, hsetUp⟩ |
      ⟨es, o, hes, hconducted, hv, hsetUp⟩
    · obtain ⟨ms, hconducted, -⟩ := hreported.conducted
      refine hran hes hconducted (fun _ => hsetUp) fun hzero => ⟨r, hreported, ?_⟩
      unfold verdictOf RunResult.isAborted at hzero
      cases hfailure : r.failure with
      | none => rfl
      | some failure => simp [hfailure, Verdict.status] at hzero
    · exact hran hes hconducted hsetUp fun h => absurd h hv

end Performed

/-- The program runs as it should, whatever the command line and the world. -/
theorem run_spec (arguments : List String) (world : World) :
    Ran arguments world (run arguments world) := by
  unfold run
  cases hread : CommandLine.read arguments with
  | error e =>
    cases e with
    | help => exact ran_of_ending hread (.inl rfl) fun _ => .inl rfl
    | version => exact ran_of_ending hread (.inl rfl) fun _ => .inr rfl
    | wrong error => exact ran_of_ending hread (.inr rfl) fun h => absurd h Nat.one_ne_zero
  | ok a =>
    have hspec := perform_spec a (s := { world }) rfl
    dsimp only
    cases hperform : perform a { world } with
    | error f t => exact (hspec.of_error hperform).elim
    | ok v t =>
      obtain ⟨hperformed, hfollows, hinterrupts⟩ := hspec.of_ok hperform
      exact ran_of_performed hread hperformed hfollows hinterrupts

end Program

end RdsReach
