import RdsReach.Proofs.Ownership
import RdsReach.Proofs.Program
import RdsReach.Proofs.Reporting
import RdsReach.Proofs.Silence

/-!
# Runs after their setup

A run opens its group: `Program.entry`. Then it serves the group, closes it and prints its report:
`Program.attend`. The program does nothing else from there on (`Program.run_of_attended`,
`Program.run_of_failed`).

* `Program.setUp_prepares` says what holds once a run is set up;
* `Program.attend_spec` says how it goes on from there, where closing a socket fails only with
  faults of the system.
-/

namespace RdsReach

namespace Program

open Probe
open State (Follows Silent Serving)

variable {conf : RunConfig} {details : Bool} {s t u : State}

/-! ## From the setup to the end -/

/-- What a run does once it is set up: its group is served and closed, and its report is printed. -/
def attend (conf : RunConfig) (details : Bool) : Probe RunResult := do
  let result ← (Probe.timedRun conf (spinner conf)).ensuring Probe.closeGroup
  printReport result details
  return result

/-- What a configured run does before its group is opened. -/
def introduction (conf : RunConfig) : Probe Unit := do
  Probe.say .configuring .debug s!"Configured {← conf.describe}"
  modify (·.forRun conf)
  announce conf

/-- What a configured run does until its group is open, or closed again if that fails. -/
def entry (conf : RunConfig) : Probe Unit := do
  introduction conf
  Probe.enterGroup conf

theorem execute_eq (conf : RunConfig) (details : Bool) :
    execute conf details = entry conf >>= fun _ => verdictOf <$> attend conf details := by
  simp only [execute, conduct, withGroup, entry, introduction, attend, bind_assoc, map_bind,
    map_pure]
  rfl

/-- The group is entered where it can be opened. -/
theorem enterGroup_eq_ok : enterGroup conf s = .ok () t ↔ openGroup conf s = .ok () t := by
  constructor
  · intro h
    cases hopen : openGroup conf s with
    | ok _ u =>
      rw [enterGroup, undoing_of_ok hopen] at h
      exact h
    | error f u =>
      rw [enterGroup, undoing, tryCatch_apply, hopen] at h
      obtain ⟨_, v, -, hthrow⟩ := exists_of_bind_ok h
      cases hthrow
  · intro h
    rw [enterGroup, undoing_of_ok h]

theorem entry_eq_ok : entry conf s = .ok () t ↔ setUpRun conf s = .ok () t := by
  have hsetUp : setUpRun conf = introduction conf >>= fun _ => openGroup conf := by
    simp only [setUpRun, preparation, introduction, bind_assoc]
  rw [entry, hsetUp, bind_apply, bind_apply]
  cases introduction conf s with
  | ok _ u => exact enterGroup_eq_ok
  | error f u => exact Iff.rfl

theorem execute_of_setUp (h : setUpRun conf s = .ok () t) :
    execute conf details s = (verdictOf <$> attend conf details) t := by
  rw [execute_eq, bind_apply, entry_eq_ok.2 h]

section Configure

variable {a : CommandLine.Arguments} {v : State}

theorem configureAndExecute_of_ok (h : RunConfig.ofOptions resolve a.options s = .ok conf v) :
    configureAndExecute a s = execute conf (0 < a.settings.verbosity) v := by
  rw [configureAndExecute, bind_apply, tryCatch_apply, map_apply, h]

theorem configureAndExecute_of_error {f : Failure}
    (h : RunConfig.ofOptions resolve a.options s = .error f v) :
    configureAndExecute a s = if f.isConfiguration then .ok (.refused f) v else .error f v := by
  rw [configureAndExecute, bind_apply, tryCatch_apply, map_apply, h]
  cases hf : f.isConfiguration <;> simp [hf]

theorem perform_of_setUp (hsettled : RunConfig.ofOptions resolve a.options s = .ok conf v)
    (h : setUpRun conf v = .ok () t) :
    perform a s = (tryCatch (verdictOf <$> attend conf (0 < a.settings.verbosity)) fun f => do
      sayFailure f
      return .failed f) t := by
  rw [perform, tryCatch_apply, configureAndExecute_of_ok hsettled, execute_of_setUp h,
    tryCatch_apply]

end Configure

theorem sayFailure_composed (f : Failure) : Composed SocketChange (sayFailure f) := by
  unfold sayFailure
  split
  · exact say_composed _ _ _
  · split
    · exact say_composed _ _ _
    · exact say_composed _ _ _

section Run

variable {arguments : List String} {world : World} {a : CommandLine.Arguments} {v : State}

/-- A command line that was read is performed. -/
theorem run_of_read (hread : CommandLine.read arguments = .ok a) :
    run arguments world =
      match perform a { world } with
      | .ok v t => endedWith a v t
      | .error f t => endedWith a (.failed f) t := by
  rw [run, hread]
  dsimp only
  cases perform a { world } <;> rfl

/-- A run that came to a result ends the program with it. -/
theorem run_of_attended (hread : CommandLine.read arguments = .ok a)
    (hsettled : RunConfig.ofOptions resolve a.options { world } = .ok conf v)
    (hsetUp : setUpRun conf v = .ok () t) {r : RunResult}
    (h : attend conf (0 < a.settings.verbosity) t = .ok r u) :
    run arguments world = endedWith a (verdictOf r) u := by
  have hperform : perform a { world } = .ok (verdictOf r) u := by
    rw [perform_of_setUp hsettled hsetUp, tryCatch_apply, map_apply, h]
  rw [run_of_read hread, hperform]

/-- A run that failed ends the program, which says so. -/
theorem run_of_failed (hread : CommandLine.read arguments = .ok a)
    (hsettled : RunConfig.ofOptions resolve a.options { world } = .ok conf v)
    (hsetUp : setUpRun conf v = .ok () t) {f : Failure}
    (h : attend conf (0 < a.settings.verbosity) t = .error f u) :
    ∃ w, sayFailure f u = .ok () w ∧ run arguments world = endedWith a (.failed f) w := by
  have hsaid := sayFailure_spec f u
  cases hsay : sayFailure f u with
  | error g w => exact (hsaid.of_error hsay).elim
  | ok _ w =>
    have hperform : perform a { world } = .ok (.failed f) w := by
      rw [perform_of_setUp hsettled hsetUp, tryCatch_apply, map_apply, h]
      dsimp only
      rw [bind_apply, hsay]
      rfl
    refine ⟨w, rfl, ?_⟩
    rw [run_of_read hread, hperform]

end Run

/-! ## The setup -/

/-- The run of a configuration is set up: its sockets are ready, and nothing was sent on them so
far. -/
structure Prepared (conf : RunConfig) (world : World) (t : State) : Prop where
  setUp : ∃ guess source, Guess firstFd guess ∧
    State.Emits { world } (guess ++ setups conf source conf.size (nextFd guess)) t ∧
      t.members = freshSockets conf.size (nextFd guess) 0
  count_printable : Decimal.isPrintable conf.perSocketCount = true
  silent : Silent { world } t
  follows : Follows { world } t

theorem describe_spec (conf : RunConfig) (s : State) :
    Meets conf.describe s (fun _ t => t = s ∧ Decimal.isPrintable conf.perSocketCount = true)
      fun _ _ => True := by
  rw [RunConfig.describe, meets_bind, meets_number]
  split
  · rw [meets_bind, meets_number]
    split
    · next hcount =>
      rw [meets_bind, meets_number]
      split
      · exact ⟨rfl, hcount⟩
      · trivial
    · trivial
  · trivial

theorem setUp_faithful (a : CommandLine.Arguments) : Faithful (setUp a) := by
  apply (ofOptions_quiet a.options).faithful.bind
  intro conf
  apply (describe_quiet conf).faithful.bind
  intro text
  apply (faithful_say _ _ _).bind
  intro _
  have hstart : Faithful (modify (·.forRun conf) : Probe Unit) :=
    faithful_modify fun _ => .of_eq rfl (fun _ => .inl) rfl (fun _ => id) rfl
  exact hstart.bind fun _ => (announce_faithful conf).bind fun _ => openGroup_faithful conf

theorem setUp_silent (a : CommandLine.Arguments) : Respects Silent (setUp a) := by
  apply (ofOptions_composed a.options).group.silent.bind
  intro conf
  apply (describe_composed conf).group.silent.bind
  intro text
  apply (say_silent _ _ _).bind
  intro _
  apply Respects.bind (.modify fun s => (GroupChange.start conf).silent s)
  exact fun _ => (announce_silent conf).bind fun _ => (openGroup_composed conf).silent

/-- What a configured run does before its first packet makes all its sockets ready. -/
theorem setUpRun_spec (conf : RunConfig) {s : State} (hsockets : s.sockets.size = 0) :
    Meets (setUpRun conf) s
      (fun _ t => Decimal.isPrintable conf.perSocketCount = true ∧
        ∃ guess source, Guess firstFd guess ∧
          s.Emits (guess ++ setups conf source conf.size (nextFd guess)) t ∧
            t.members = freshSockets conf.size (nextFd guess) 0)
      fun _ _ => True := by
  rw [setUpRun]
  apply meets_bind.2
  apply (describe_spec conf s).mono
  · rintro text t ⟨rfl, hcount⟩
    rw [meets_bind, meets_say, meets_bind, meets_modify, preparation]
    set u := State.forRun { t with
      journal := t.journal.push (.message .configuring .debug s!"Configured {text}") } conf
    have hu : t.Emits [] u := .of_eq rfl rfl
    apply meets_bind.2
    apply (announce_spec conf u).mono
    · rintro _ v ⟨guess, hv, hguess, -, hgroup, src, hsrc⟩
      have hsize : firstFd + u.sockets.size = firstFd := congrArg (firstFd + ·) hsockets
      have hnext : firstFd + v.sockets.size = nextFd guess := by
        rw [hv.size_eq, ← Nat.add_assoc, hsize, nextFd]
      have hempty : v.members = [] := by
        rw [State.members, hgroup]
        rfl
      rw [hsize] at hguess
      have hopen := openGroup_spec conf hsrc hempty
      rw [hnext, show v.group.size.toNat = conf.size from congrArg (·.size.toNat) hgroup] at hopen
      apply hopen.mono
      · rintro _ w ⟨hw, hmembers, -⟩
        exact ⟨hcount, guess, _, hguess, by simpa using (hu.trans hv).trans hw, hmembers⟩
      · exact fun _ _ _ => trivial
    · exact fun _ _ _ => trivial
  · exact fun _ _ _ => trivial

/-- The slots of a group of a size that passes the checks have texts. -/
theorem slot_printable_of_checked (hchecked : conf.Checked) (fd : Nat) :
    ∀ m ∈ freshSockets conf.size fd 0, Decimal.isPrintable m.slot = true := by
  intro m hm
  have hslot : m.slot ∈ (List.range' 0 conf.size).map fun i : Nat => (i : Int) :=
    map_slot_freshSockets conf.size fd 0 ▸ List.mem_map_of_mem hm
  obtain ⟨i, hi, hslot⟩ := List.mem_map.1 hslot
  have hlt := (List.mem_range'_1.1 hi).2
  have hsize := hchecked.size.2
  have hsize_eq := hchecked.size_eq
  rw [← hslot]
  exact Decimal.isPrintable_of_small (Int.natCast_nonneg i) (by omega)

/-- A setup that succeeds settles a configuration and prepares its run. -/
theorem setUp_prepares {a : CommandLine.Arguments} {world : World}
    (h : setUp a { world } = .ok () t) :
    ∃ conf v, RunConfig.ofOptions resolve a.options { world } = .ok conf v ∧
      setUpRun conf v = .ok () t ∧ Prepared conf world t := by
  have hsilent : Silent { world } t := (setUp_silent a { world }).of_ok h
  have hfollows : Follows { world } t := ((setUp_faithful a { world }).of_ok h).toFollows
  obtain ⟨conf, v, hsettled, hsetUp⟩ := exists_of_bind_ok h
  have hquiet : State.After { world } [] v := ((ofOptions_quiet a.options).after _).of_ok hsettled
  obtain ⟨hcount, guess, source, hguess, hemits, hmembers⟩ :=
    (setUpRun_spec conf hquiet.size_eq).of_ok hsetUp
  refine ⟨conf, v, hsettled, hsetUp, ⟨guess, source, hguess, ?_, hmembers⟩, hcount, hsilent,
    hfollows⟩
  simpa using hquiet.toEmits.trans hemits

/-! ## After the setup -/

/-- The queue of a socket is asked less often than numbers are long. -/
theorem queryLimit_lt {conf : RunConfig} {ceiling : Int} (h : spinner conf = some ceiling) :
    queryLimit ceiling < Decimal.limit := by
  unfold spinner at h
  split at h
  · obtain rfl := Option.some.inj h
    exact Decimal.lt_limit (by decide)
  · cases h

/-- That the sockets of the group cannot be closed is no more than said, also after they were
served. -/
theorem closable_of_serving {spinner : Option Int} {o : Except Failure (Option SendFailure)}
    (h : s.Serving conf spinner [] s.members o t) (hfollows : s.Follows t)
    (htame : ∀ f, s.Raises .close f → f.isSystem = true)
    (hmembers : ∀ m ∈ s.members,
      m.fd - firstFd < s.sockets.size ∧ Decimal.isPrintable m.slot = true) :
    ∀ m ∈ t.members, t.Closable m := by
  obtain ⟨es, ms', hes, hms', hserves⟩ := h
  rw [List.nil_append] at hms'
  intro m hm
  rw [hms'] at hm
  -- the sockets keep their descriptors and slots
  have hfd : m.fd ∈ s.members.map (·.fd) := hserves.fds_eq ▸ List.mem_map_of_mem hm
  have hslot : m.slot ∈ s.members.map (·.slot) := hserves.slots_eq ▸ List.mem_map_of_mem hm
  obtain ⟨m₁, hm₁, hfd⟩ := List.mem_map.1 hfd
  obtain ⟨m₂, hm₂, hslot⟩ := List.mem_map.1 hslot
  have hlt : m.fd - firstFd < t.sockets.size := by
    have := (hmembers m₁ hm₁).1
    rw [hes.size_eq]
    omega
  refine ⟨hslot ▸ (hmembers m₂ hm₂).2, t.sockets[m.fd - firstFd].script, ?_, fun f hf => ?_⟩
  · rw [State.socketScripts, List.getElem?_map, Array.getElem?_toList,
      Array.getElem?_eq_getElem hlt, Option.map_some]
  · apply htame f
    apply hfollows.raises
    refine ⟨_, List.mem_append_left _ (List.mem_map_of_mem ?_), hf⟩
    exact Array.getElem_mem_toList hlt

/-- The group of the state `s` was served, with the events `es` and the outcome `o`, and closed on
the way to `t`. -/
structure Tended (conf : RunConfig) (s : State) (es closes : List Event)
    (o : Except Failure (Option SendFailure)) (ms' : List ProbeSocket) (t : State) : Prop where
  emits : s.Emits (es ++ closes) t
  serves : Serves conf (spinner conf) s.world.queue s.members es o ms'
  closes : ClosesAll (s.members.map (·.fd)) closes

/-- The result of a run from the state `s` after which the sockets are `ms'`. -/
structure ResultOf (conf : RunConfig) (s : State) (ms' : List ProbeSocket) (r : RunResult) :
    Prop where
  elapsed_eq : s.elapsed = .ok r.elapsed
  perSocketCount_eq : r.perSocketCount = conf.perSocketCount
  samples_eq : r.samples = ms'.map sampleOf

/-- A run that is set up prints the report on its result, or else nothing: if serving the group
fails, if the time has no value, or if the report has no text or cannot be laid out. -/
theorem attend_spec (conf : RunConfig) (details : Bool) {s : State}
    (htame : ∀ f, s.Raises .close f → f.isSystem = true)
    (hmembers : ∀ m ∈ s.members,
      m.fd - firstFd < s.sockets.size ∧ Decimal.isPrintable m.slot = true) :
    Meets (attend conf details) s
      (fun r t => ∃ es closes ms' text, Tended conf s es closes (.ok r.failure) ms' t ∧
        ResultOf conf s ms' r ∧ Report.text r details s.world.render = .ok text ∧
          t.printed = s.printed ++ [text] ∧ t.journal.back? = some (.printed text))
      fun f t => t.printed = s.printed ∧ ∃ es closes o ms', Tended conf s es closes o ms' t ∧
        (o = .error f ∨ (∃ x failure, s.elapsed = .error x ∧ o = .ok failure) ∨
          ∃ r, o = .ok r.failure ∧ ResultOf conf s ms' r ∧
            Report.text r details s.world.render = .error f) := by
  rw [attend]
  apply meets_bind.2
  rw [meets_ensuring]
  have htimed :=
    (timedRun_spec conf (spinner conf) s).and (timedRun_faithful conf (spinner conf) s)
  -- however serving ends, the group is closed, and nothing is printed
  have hclose {o : Except Failure (Option SendFailure)} {u : State}
      (hserving : s.Serving conf (spinner conf) [] s.members o u) (hfollows : s.Follows u) :
      Meets closeGroup u (fun _ v => u.Unprinted v ∧
        ∃ es closes, Tended conf s es closes o u.members v) fun _ _ => False := by
    have hclosable := closable_of_serving hserving hfollows htame hmembers
    apply ((closeGroup_closable hclosable).and (closeGroup_composed.silent u)).mono
    · rintro _ v ⟨⟨-, -, closes, hv, hcloses⟩, hsilent⟩
      obtain ⟨es, ms', hes, rfl, hserves⟩ := hserving
      rw [hserves.fds_eq] at hcloses
      exact ⟨hsilent.toUnprinted, es, closes, hes.trans hv, hserves, hcloses⟩
    · exact fun _ _ hf => hf.1
  apply htimed.mono
  · rintro r u ⟨⟨helapsed, hsu, hper, hsamples, hserving⟩, hpass⟩
    apply (hclose hserving hpass.toFollows).mono
    · rintro _ v ⟨huv, es, closes, htended⟩
      have hresult : ResultOf conf s u.members r := ⟨helapsed, hper, hsamples⟩
      have hkept : s.Unprinted v := hsu.trans huv
      have hprint := printReport_spec r details v
      rw [hkept.render_eq] at hprint
      apply meets_bind.2
      apply hprint.mono
      · rintro _ _ ⟨text, htext, rfl⟩
        refine ⟨es, closes, u.members, text, ⟨htended.emits.then_nil (.of_eq rfl rfl),
          htended.serves, htended.closes⟩, hresult, htext, ?_, by simp⟩
        rw [State.printed_print, hkept.printed_eq]
      · rintro f _ ⟨htext, rfl⟩
        exact ⟨hkept.printed_eq, es, closes, _, u.members, htended,
          .inr (.inr ⟨r, rfl, hresult, htext⟩)⟩
    · exact fun _ _ hf => hf.elim
  · rintro f u ⟨⟨hsu, hwhy⟩, hpass⟩
    rcases hwhy with hserving | ⟨x, failure, helapsed, -, hserving⟩
    · apply (hclose hserving hpass.toFollows).mono
      · rintro _ v ⟨huv, es, closes, htended⟩
        exact ⟨(hsu.trans huv).printed_eq, es, closes, _, u.members, htended, .inl rfl⟩
      · exact fun _ _ hf => hf.elim
    · apply (hclose hserving hpass.toFollows).mono
      · rintro _ v ⟨huv, es, closes, htended⟩
        exact ⟨(hsu.trans huv).printed_eq, es, closes, _, u.members, htended,
          .inr (.inl ⟨x, failure, helapsed, rfl⟩)⟩
      · exact fun _ _ hf => hf.elim

end Program

end RdsReach
