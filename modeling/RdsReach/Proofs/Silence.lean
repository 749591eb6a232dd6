import RdsReach.Proofs.Composed
import RdsReach.Proofs.Sending

/-!
# What is printed

A run prints its report and nothing else, and times nothing but the sending of its packets. What it
does besides is `State.Silent`: it may say messages, but it prints no text, reads the clock that
times a run not at all, and does not change how tables are laid out.
-/

namespace RdsReach

/-- The text that an entry prints unasked. -/
def Entry.printed? : Entry → Option String
  | .message _ _ _ => none
  | .printed text => some text

namespace State

variable {s t : State}

/-- The texts that were printed so far, in order. -/
def printed (s : State) : List String := s.journal.toList.filterMap Entry.printed?

theorem printed_print (s : State) (text : String) :
    { s with journal := s.journal.push (.printed text) }.printed = s.printed ++ [text] := by
  rw [printed, Array.toList_push, List.filterMap_append, printed]
  rfl

/-- Nothing was printed, and tables are laid out as before. -/
structure Unprinted (s t : State) : Prop where
  printed_eq : t.printed = s.printed
  render_eq : t.world.render = s.world.render

theorem Unprinted.trans {u : State} (h : s.Unprinted t) (h' : t.Unprinted u) : s.Unprinted u where
  printed_eq := h'.printed_eq.trans h.printed_eq
  render_eq := h'.render_eq.trans h.render_eq

/-- Nothing was printed and nothing was timed. -/
structure Silent (s t : State) : Prop extends s.Unprinted t where
  clock_eq : t.world.clock = s.world.clock
  clockReads_eq : t.clockReads = s.clockReads

theorem Silent.trans {u : State} (h : s.Silent t) (h' : t.Silent u) : s.Silent u where
  toUnprinted := h.toUnprinted.trans h'.toUnprinted
  clock_eq := h'.clock_eq.trans h.clock_eq
  clockReads_eq := h'.clockReads_eq.trans h.clockReads_eq

instance : IsPreorder State Silent where
  refl _ := ⟨⟨rfl, rfl⟩, rfl, rfl⟩
  trans _ _ _ := Silent.trans

theorem Silent.of_journal (hjournal : t.journal = s.journal)
    (hclock : t.world.clock = s.world.clock) (hreads : t.clockReads = s.clockReads)
    (hrender : t.world.render = s.world.render) :
    s.Silent t := ⟨⟨by rw [printed, hjournal, printed], hrender⟩, hclock, hreads⟩

end State

namespace Probe

open State (Silent)

variable {α : Type} {conf : RunConfig}

theorem say_silent (origin : Origin) (level : Level) (text : String) :
    Respects Silent (say origin level text) := by
  apply Respects.modify
  intro s
  refine ⟨⟨?_, rfl⟩, rfl, rfl⟩
  rw [State.printed, Array.toList_push, List.filterMap_append, State.printed]
  exact List.append_nil _

/-! ## Changes -/

theorem SocketChange.silent {f : State → State} (h : SocketChange f) (s : State) :
    s.Silent (f s) := by
  cases h with
  | countAttempt kind => cases kind <;> exact .of_journal rfl rfl rfl rfl
  | say origin level text => exact say_silent origin level text s
  | _ => exact .of_journal rfl rfl rfl rfl

theorem GroupChange.silent {f : State → State} (h : GroupChange f) (s : State) :
    s.Silent (f s) := by
  cases h with
  | socket h => exact h.silent s
  | _ => exact .of_journal rfl rfl rfl rfl

theorem ServeChange.silent {f : State → State} (h : ServeChange f) (s : State) :
    s.Silent (f s) := by
  cases h with
  | socket h => exact h.silent s
  | _ => exact .of_journal rfl rfl rfl rfl

theorem Composed.silent {action : Probe α} (h : Composed GroupChange action) :
    Respects Silent action := h.respects fun _ => GroupChange.silent

/-! ## Parts of a run -/

theorem describeSource_silent (source : Endpoint) (explicit : Bool) :
    Respects Silent (describeSource source explicit) := by
  apply Respects.get.bind
  intro s
  split
  · exact .pure _
  · split
    · exact (say_silent _ _ _).bind fun _ => .pure _
    · exact .pure _

theorem announce_silent (conf : RunConfig) : Respects Silent (Program.announce conf) := by
  apply (sourceEndpoint_composed conf).group.silent.bind
  intro source
  apply (describeSource_silent source _).bind
  intro described
  apply (number_respects _).bind
  intro size
  apply (number_respects _).bind
  intro count
  exact say_silent _ _ _

theorem sendAll_silent (conf : RunConfig) (spinner : Option Int) :
    Respects Silent (sendAll conf spinner) := by
  apply sendAll_respects
  · exact fun place => (servePackets_composed conf place).respects fun _ => ServeChange.silent
  · apply spinMember_respects
    · apply spin_respects
      · exact fun s queue => .of_journal rfl rfl rfl rfl
      · exact fun s fd o => .of_journal rfl rfl rfl rfl
    · exact fun place spin => Respects.modify fun s => .of_journal rfl rfl rfl rfl
    · exact say_silent

end Probe

/-! ## Timing -/

namespace State

/-- The milliseconds between the two readings of the clock that come next. -/
def elapsed (s : State) : Except Elapsed.Undefined Binary64 :=
  Elapsed.milliseconds (reading s.world.clock s.clockReads)
    (reading s.world.clock (s.clockReads + 1))

theorem Silent.elapsed_eq {s t : State} (h : s.Silent t) : t.elapsed = s.elapsed := by
  rw [elapsed, h.clock_eq, h.clockReads_eq, elapsed]

end State

namespace Probe

theorem readClock_spec (s : State) :
    Meets readClock s
      (fun time t => time = reading s.world.clock s.clockReads ∧
        t = { s with clockReads := s.clockReads + 1 })
      fun _ _ => False := by
  simp [readClock]

/-- A run serves its group and takes the time. It prints nothing, and fails only if serving does or
if the time has no value. -/
theorem timedRun_spec (conf : RunConfig) (spinner : Option Int) (s : State) :
    Meets (timedRun conf spinner) s
      (fun r t => s.elapsed = .ok r.elapsed ∧ s.Unprinted t ∧
        r.perSocketCount = conf.perSocketCount ∧ r.samples = t.members.map sampleOf ∧
          s.Serving conf spinner [] s.members (.ok r.failure) t)
      fun f t => s.Unprinted t ∧
        (s.Serving conf spinner [] s.members (.error f) t ∨
          ∃ x failure, s.elapsed = .error x ∧ f = undefinedTime x ∧
            s.Serving conf spinner [] s.members (.ok failure) t) := by
  rw [timedRun]
  apply (readClock_spec s).bind_of_total
  rintro _ t ⟨rfl, rfl⟩
  set t : State := { s with clockReads := s.clockReads + 1 } with ht
  -- the reading of the clock changes nothing that serving the group depends on
  have hstart {o : Except Failure (Option SendFailure)} {u : State}
      (h : t.Serving conf spinner [] t.members o u) : s.Serving conf spinner [] s.members o u := by
    obtain ⟨es, ms', hes, hms', hserves⟩ := h
    have hemits : s.Emits [] t := .of_eq rfl rfl
    exact ⟨es, ms', by simpa using hemits.trans hes, hms', hserves⟩
  apply meets_bind.2
  apply ((sendAll_spec conf spinner t).and (sendAll_silent conf spinner t)).mono
  · rintro r u ⟨⟨hper, hsamples, hserving⟩, hsilent⟩
    apply (readClock_spec u).bind_of_total
    rintro _ v ⟨rfl, rfl⟩
    have hend {o : Except Failure (Option SendFailure)} {v : State}
        (h : s.Serving conf spinner [] s.members o u) (he : v.events = u.events)
        (hn : v.sockets.size = u.sockets.size) (hg : v.group = u.group) :
        s.Serving conf spinner [] s.members o v := by
      obtain ⟨es, ms', hes, hms', hserves⟩ := h
      refine ⟨es, ms', hes.then_nil (.of_eq he hn), ?_, hserves⟩
      rw [State.members, hg]
      exact hms'
    have helapsed : Elapsed.milliseconds (reading s.world.clock s.clockReads)
        (reading u.world.clock u.clockReads) = s.elapsed := by
      rw [hsilent.clock_eq, hsilent.clockReads_eq]
      rfl
    have hunprinted : s.Unprinted { u with clockReads := u.clockReads + 1 } :=
      ⟨hsilent.printed_eq, hsilent.render_eq⟩
    rw [meets_bind, meets_ofExcept, helapsed]
    cases htime : s.elapsed with
    | ok elapsed =>
      dsimp only [Except.mapError]
      rw [meets_bind, meets_say, meets_pure]
      refine ⟨rfl, ?_, hper, hsamples, hend (hstart hserving) rfl rfl rfl⟩
      exact hunprinted.trans (say_silent .timing .debug _ _).toUnprinted
    | error x =>
      exact ⟨hunprinted, .inr ⟨x, r.failure, rfl, rfl, hend (hstart hserving) rfl rfl rfl⟩⟩
  · rintro f u ⟨hserving, hsilent⟩
    exact ⟨⟨hsilent.printed_eq, hsilent.render_eq⟩, .inl (hstart hserving)⟩

end Probe

/-! ## Reporting -/

/-- A report that can be worded and laid out is printed. -/
theorem Program.printReport_spec (r : RunResult) (details : Bool) (s : State) :
    (printReport r details).Meets s
      (fun _ t => ∃ text, Report.text r details s.world.render = .ok text ∧
        t = { s with journal := s.journal.push (.printed text) })
      fun f t => Report.text r details s.world.render = .error f ∧ t = s := by
  rw [printReport, Probe.meets_bind, Probe.meets_get, Probe.meets_bind, Probe.meets_ofExcept]
  split
  · next text htext =>
    rw [Probe.meets_print]
    exact ⟨text, htext, rfl⟩
  · next f htext => exact ⟨htext, rfl⟩

end RdsReach
