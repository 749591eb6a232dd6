import RdsReach.Proofs.Opening
import RdsReach.Proofs.Silence

/-!
# The events of a run

`Conducted conf es o` tells all events of a run of a configuration: the source is looked up, the
sockets of the group are made ready, they are served and closed. Each part can fail, and what
follows depends on where. `Program.conduct_spec` says that this is what a run does.
-/

namespace RdsReach

/-- The descriptor that comes after those that were given out. -/
def nextFd (es : List Event) : Nat := firstFd + (openedFds es).length

/-- The number of sockets of a run. -/
def RunConfig.size (conf : RunConfig) : Nat := conf.groupSize.toNat

/-- A configuration that passed all checks. -/
structure RunConfig.Checked (conf : RunConfig) : Prop where
  size : 1 ≤ conf.groupSize ∧ conf.groupSize ≤ 32
  tos : RunConfig.isTos conf.tos = true
  count_nonneg : 0 ≤ conf.count

namespace RunConfig.Checked

variable {conf : RunConfig}

theorem size_eq (h : conf.Checked) : (conf.size : Int) = conf.groupSize := by
  have := h.size
  rw [RunConfig.size]
  omega

theorem perSocketCount_pos (h : conf.Checked) : 0 < conf.perSocketCount := by
  have := h.count_nonneg
  unfold RunConfig.perSocketCount
  split <;> omega

end RunConfig.Checked

/-- The events of a run that starts without any socket. If the run came to serving the sockets, `o`
holds the outcome of that and what became of them. -/
inductive Conducted (conf : RunConfig) :
    List Event → Option (Except Failure (Option SendFailure) × List ProbeSocket) → Prop where
  /-- The run ends before a socket of the group exists. -/
  | unannounced {guess : List Event} (hguess : Guess firstFd guess) : Conducted conf guess none
  /-- The socket at slot `k` is not made ready, and those before it are closed. -/
  | unopened {guess failing closes : List Event} {k : Nat} (source : Endpoint)
      (hguess : Guess firstFd guess) (hfaultless : Faultless guess) (hk : k < conf.size)
      (hfailing : Unready conf (k : Nat) (nextFd guess + k) failing)
      (hcloses : Closes (List.range' (nextFd guess) k) closes) :
      Conducted conf (guess ++ (setups conf source k (nextFd guess) ++ failing) ++ closes) none
  /-- The group is open, served and closed. -/
  | served {guess es closes : List Event} {replies : List QueueReply}
      {o : Except Failure (Option SendFailure)} {ms : List ProbeSocket} (source : Endpoint)
      (hguess : Guess firstFd guess) (hfaultless : Faultless guess)
      (htos : conf.size ≠ 0 → conf.tos ≠ 0 → RunConfig.isTos conf.tos = true)
      (hserves : Serves conf (Program.spinner conf) replies
        (freshSockets conf.size (nextFd guess) 0) es o ms)
      (hcloses : Closes (List.range' (nextFd guess) conf.size) closes) :
      Conducted conf (guess ++ setups conf source conf.size (nextFd guess) ++ es ++ closes)
        (some (o, ms))

/-- What comes before the first packet of a run: its source is announced and its group is opened. -/
def Program.preparation (conf : RunConfig) : Probe Unit := do
  announce conf
  Probe.openGroup conf

/-- A run from the state `s` that left the events `es` gave the result `r`, and its report was the
last thing that was printed. -/
structure Reported (conf : RunConfig) (details : Bool) (s : State) (es : List Event) (r : RunResult)
    (t : State) : Prop where
  conducted : ∃ ms, Conducted conf es (some (.ok r.failure, ms)) ∧ r.samples = ms.map Probe.sampleOf
  perSocketCount_eq : r.perSocketCount = conf.perSocketCount
  elapsed_eq : s.elapsed = .ok r.elapsed
  printed : ∃ text, Report.text r details t.world.render = .ok text ∧
    t.journal.back? = some (.printed text)

/-- What nothing was timed before starts with the same readings of the clock. -/
theorem Reported.of_silent {conf : RunConfig} {details : Bool} {s s' t : State} {es : List Event}
    {r : RunResult} (h : Reported conf details s' es r t) (hs : s.Silent s') :
    Reported conf details s es r t :=
  ⟨h.conducted, h.perSocketCount_eq, hs.elapsed_eq ▸ h.elapsed_eq, h.printed⟩

namespace Probe

open State (After Emits Silent)

variable {conf : RunConfig} {s : State}

/-- What is said about a run before it starts needs its source. -/
theorem announce_spec (conf : RunConfig) (s : State) :
    Meets (Program.announce conf) s
      (fun _ t => ∃ es, s.Emits es t ∧ Guess (firstFd + s.sockets.size) es ∧ Faultless es ∧
        t.group = s.group ∧ ∃ src, t.source = some src)
      fun _ t => ∃ es, s.Emits es t ∧ Guess (firstFd + s.sockets.size) es := by
  rw [Program.announce]
  refine meets_bind.2 ((sourceEndpoint_spec conf s).mono ?_ fun _ _ hf => hf)
  rintro source t ⟨es, ht, hguess, hfaultless, hgroup, src, hsrc⟩
  have hquiet : Quiet (do
      let source ← describeSource source conf.source.isSome
      let size ← number conf.groupSize
      let count ← number conf.perSocketCount
      say .running .info (s!"Probing {conf.destination.address.text} from {source} " ++
        s!"with {size} sockets, {count} packets each")) :=
    (describeSource_quiet _ _).bind fun _ => (quiet_number _).bind fun _ =>
      (quiet_number _).bind fun _ => quiet_say _ _ _
  refine (hquiet.after t).mono ?_ ?_
  · intro _ u hu
    exact ⟨es, ht.then_nil hu.toEmits, hguess, hfaultless, hu.group_eq.trans hgroup, src,
      hu.source_eq.trans hsrc⟩
  · intro _ u hu
    exact ⟨es, ht.then_nil hu.toEmits, hguess⟩

/-- Once the source is looked up, the group is opened, served and closed, or is not opened. -/
theorem withGroup_spec {guess : List Event} {t : State} {src : Endpoint} (ht : s.Emits guess t)
    (hguess : Guess firstFd guess) (hfaultless : Faultless guess) (hsrc : t.source = some src)
    (hmembers : t.members = []) (hbase : firstFd + t.sockets.size = nextFd guess)
    (hnumber : t.group.size.toNat = conf.size) :
    Meets (withGroup conf (timedRun conf (Program.spinner conf))) t
      (fun r u => ∃ es ms, s.Emits es u ∧ Conducted conf es (some (.ok r.failure, ms)) ∧
        r.samples = ms.map sampleOf ∧ r.perSocketCount = conf.perSocketCount ∧
          t.elapsed = .ok r.elapsed ∧ Succeeds (openGroup conf) t)
      fun _ u => ∃ es o, s.Emits es u ∧ Conducted conf es o ∧
        (o.isSome = true → Succeeds (openGroup conf) t) := by
  have hopen := openGroup_spec conf hsrc hmembers
  rw [hbase, hnumber] at hopen
  rw [withGroup, enterGroup, meets_bind, meets_undoing]
  have hsilent := (openGroup_composed conf).silent t
  refine ((hopen.and hsilent).and (meets_self _ t)).mono ?_ ?_
  · rintro _ u ⟨⟨⟨hu, hfresh, htos⟩, htu⟩, hopened⟩
    rw [meets_ensuring]
    -- however serving ends, the group is closed, and all events are those of a conducted run
    have hclose {v w : State} {es closes : List Event} {replies : List QueueReply}
        {o : Except Failure (Option SendFailure)} (hv : u.Emits es v)
        (hserves : Serves conf (Program.spinner conf) replies u.members es o v.members)
        (hw : v.Emits closes w) (hcloses : Closes (v.members.map (·.fd)) closes) :
        ∃ es', s.Emits es' w ∧ Conducted conf es' (some (o, v.members)) := by
      rw [hserves.fds_eq, hfresh, map_fd_freshSockets] at hcloses
      rw [hfresh] at hserves
      exact ⟨_, ((ht.trans hu).trans hv).trans hw,
        .served _ hguess hfaultless htos hserves hcloses⟩
    have hbad {v w : State} {es : List Event} {replies : List QueueReply}
        {o : Except Failure (Option SendFailure)} (hv : u.Emits es v)
        (hserves : Serves conf (Program.spinner conf) replies u.members es o v.members)
        (hw : ∃ closes, v.Emits closes w ∧ Closes (v.members.map (·.fd)) closes) :
        ∃ es' o', s.Emits es' w ∧ Conducted conf es' o' ∧
          (o'.isSome = true → Succeeds (openGroup conf) t) := by
      obtain ⟨closes, hw, hcloses⟩ := hw
      obtain ⟨es', hes', hconducted⟩ := hclose hv hserves hw hcloses
      exact ⟨es', _, hes', hconducted, fun _ => ⟨_, _, hopened⟩⟩
    refine (timedRun_spec conf (Program.spinner conf) u).mono ?_ ?_
    · rintro r v ⟨helapsed, -, hper, hsamples, es, ms', hv, rfl, hserves⟩
      refine (closeGroup_spec v).mono ?_ fun _ _ hw => hbad hv hserves hw
      rintro _ w ⟨closes, hw, hcloses⟩
      obtain ⟨es', hes', hconducted⟩ := hclose hv hserves hw hcloses
      rw [htu.elapsed_eq] at helapsed
      exact ⟨es', _, hes', hconducted, hsamples, hper, helapsed, _, _, hopened⟩
    · rintro _ v ⟨-, ⟨es, ms', hv, rfl, hserves⟩ |
        ⟨x, failure, -, -, es, ms', hv, rfl, hserves⟩⟩
      · exact (closeGroup_spec v).mono (fun _ _ hw => hbad hv hserves hw)
          fun _ _ hw => hbad hv hserves hw
      · exact (closeGroup_spec v).mono (fun _ _ hw => hbad hv hserves hw)
          fun _ _ hw => hbad hv hserves hw
  · rintro _ u ⟨⟨⟨k, failing, hk, hu, hunready, hfresh⟩, -⟩, -⟩
    -- the group was opened in part, and that part is closed
    have hend {v : State} (hv : ∃ closes, u.Emits closes v ∧
        Closes (u.members.map (·.fd)) closes) : ∃ es o, s.Emits es v ∧ Conducted conf es o ∧
          (o.isSome = true → Succeeds (openGroup conf) t) := by
      obtain ⟨closes, hv, hcloses⟩ := hv
      rw [hfresh, map_fd_freshSockets] at hcloses
      exact ⟨_, none, (ht.trans hu).trans hv,
        .unopened _ hguess hfaultless hk hunready hcloses,
        fun ho => absurd ho Bool.false_ne_true⟩
    exact (closeGroup_spec u).mono (fun _ _ => hend) fun _ _ => hend

/-- A run on a state without sockets is conducted. One that gives a result has served its group and
printed its report. -/
theorem conduct_spec (conf : RunConfig) (details : Bool) {s : State} (hsockets : s.sockets.size = 0)
    (hempty : s.members = []) (hsize : s.group.size = conf.groupSize) :
    Meets (Program.conduct conf details) s
      (fun r t => ∃ es, s.Emits es t ∧ Reported conf details s es r t ∧
        Succeeds (Program.preparation conf) s)
      fun _ t => ∃ es o, s.Emits es t ∧ Conducted conf es o ∧
        (o.isSome = true → Succeeds (Program.preparation conf) s) := by
  rw [Program.conduct]
  have hspec := ((announce_spec conf s).and (announce_silent conf s)).and (meets_self _ s)
  refine meets_bind.2 (hspec.mono ?_ ?_)
  · rintro _ t ⟨⟨⟨guess, ht, hguess, hfaultless, hgroup, src, hsrc⟩, hsilent⟩, hannounced⟩
    rw [hsockets, Nat.add_zero] at hguess
    have hbase : firstFd + t.sockets.size = nextFd guess := by
      rw [ht.size_eq, hsockets, Nat.zero_add, nextFd]
    have hnumber : t.group.size.toNat = conf.size := by rw [hgroup, hsize, RunConfig.size]
    have hmembers : t.members = [] := by rw [State.members, hgroup, ← State.members, hempty]
    have hprepared (h : Succeeds (openGroup conf) t) : Succeeds (Program.preparation conf) s :=
      .bind hannounced h
    refine meets_bind.2
      ((withGroup_spec ht hguess hfaultless hsrc hmembers hbase hnumber).mono ?_ ?_)
    · rintro r u ⟨es, ms, hes, hconducted, hsamples, hper, helapsed, hopened⟩
      rw [hsilent.elapsed_eq] at helapsed
      -- the run is over, but its report may be too long to word
      apply meets_bind.2
      apply (Program.printReport_spec r details u).mono
      · rintro _ _ ⟨text, htext, rfl⟩
        refine ⟨es, hes.then_nil (.of_eq rfl rfl), ?_, hprepared hopened⟩
        exact ⟨⟨ms, hconducted, hsamples⟩, hper, helapsed, text, htext, by simp⟩
      · rintro f _ ⟨-, rfl⟩
        exact ⟨es, _, hes, hconducted, fun _ => hprepared hopened⟩
    · rintro _ u ⟨es, o, hes, hconducted, hopened⟩
      exact ⟨es, o, hes, hconducted, fun ho => hprepared (hopened ho)⟩
  · rintro _ t ⟨⟨⟨guess, ht, hguess⟩, -⟩, -⟩
    rw [hsockets, Nat.add_zero] at hguess
    exact ⟨guess, none, ht, .unannounced hguess, fun ho => absurd ho Bool.false_ne_true⟩

end Probe

end RdsReach
