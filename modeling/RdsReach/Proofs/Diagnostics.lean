import RdsReach.Proofs.Alike
import RdsReach.Proofs.Attending
import RdsReach.Proofs.ExitStatus
import RdsReach.Proofs.Flags

/-!
# Diagnostics do not influence a run

How much the user is told, which interfaces there are, what the queues answer and when packets went
out makes no difference to what the program does to its sockets, to its exit status, and to the
summary of its report: `Program.run_blind`.

* A member of the group is spun on with or without a spinner, with the same core afterwards
  (`Probe.spinIf_spec`), so a group is served in the same way (`Probe.timedRun_mirrors`).
* Results that differ in the spins of their sockets have reports that agree
  (`Report.text_agrees`).
-/

namespace RdsReach

/-! ## Results that differ in spins -/

/-- The sample without its spin. -/
def Sample.core (x : Sample) : Sample := { x with spin := none }

namespace RunResult

/-- The result without the spins of its sockets. -/
def core (r : RunResult) : RunResult := { r with samples := r.samples.map Sample.core }

variable (r : RunResult)

theorem socketCount_core : r.core.socketCount = r.socketCount := by
  rw [socketCount, core, List.length_map, socketCount]

theorem completedPackets_core : r.core.completedPackets = r.completedPackets := by
  have hsockets : r.core.completedSockets = r.completedSockets := by
    rw [completedSockets, core, List.countP_map, completedSockets]
    rfl
  rw [completedPackets, hsockets, completedPackets]
  rfl

theorem packetsSent_core : r.core.packetsSent = r.packetsSent := by
  rw [packetsSent, core, List.foldr_map, packetsSent]
  rfl

theorem requestedPackets_core : r.core.requestedPackets = r.requestedPackets := by
  rw [requestedPackets, socketCount_core, requestedPackets]
  rfl

/-- The numbers that a report needs are the same with and without spins. -/
theorem printable_core : r.core.Printable ↔ r.Printable := by
  rw [Printable, completedPackets_core, packetsSent_core, requestedPackets_core, Printable]
  rfl

end RunResult

namespace Report

/-- Spins do not show in the summary. -/
theorem summaryLine_core (r : RunResult) : summaryLine r.core = summaryLine r := by
  rw [summaryLine, r.socketCount_core, r.completedPackets_core, summaryLine]
  rfl

/-- Spins do not show in the line about an early end. -/
theorem abortLine_core (r : RunResult) : abortLine r.core = abortLine r := by
  funext failure
  rw [abortLine, r.packetsSent_core, r.requestedPackets_core, abortLine]

/-- Results that differ in spins alone have reports that agree, or none. -/
theorem text_agrees {render : Renderer} (htotal : render.Total) {r r' : RunResult}
    (h : r.core = r'.core) (htell : r.Tellable) (htell' : r'.Tellable) (details details' : Bool) :
    (∃ report report', text r details render = .ok report ∧
        text r' details' render = .ok report' ∧ Agree render report report') ∨
      text r details render = .error .overlong ∧ text r' details' render = .error .overlong := by
  by_cases hprint : r.Printable
  · have hprint' : r'.Printable := by
      rw [← r'.printable_core, ← h, r.printable_core]
      exact hprint
    obtain ⟨_, -, htext⟩ := text_of_printable htotal htell hprint details
    obtain ⟨_, -, htext'⟩ := text_of_printable htotal htell' hprint' details'
    have hfailure : r.failure = r'.failure := congrArg (·.failure) h
    refine .inl ⟨_, _, htext, htext', r, r', details, details', htext, htext', ?_, ?_⟩
    · rw [← summaryLine_core, h, summaryLine_core]
    · rw [hfailure, ← abortLine_core r, h, abortLine_core]
  · have hprint' : ¬ r'.Printable := by
      rw [← r'.printable_core, ← h, r.printable_core]
      exact hprint
    exact .inr ⟨text_of_not_printable htotal hprint details,
      text_of_not_printable htotal hprint' details'⟩

end Report

/-- Where all replies are tame, every question is answered. -/
theorem State.Tame.answered {s t : State} {qs : List Event} {fd : Nat}
    (htame : s.Tame) (hfollows : s.Follows t) (ht : s.Emits qs t) (hqs : Queries fd qs) :
    ¬ Unanswered s.world.queue qs := by
  rintro (⟨e, he, g, hfault, hg⟩ | ⟨r, hr, hread⟩)
  · obtain ⟨o, rfl⟩ := hqs e he
    obtain rfl : o = some g := hfault
    -- the fault is one of the replies, which are tame
    have hreply : QueueReply.isTame (.fault g) = true := htame _ (hfollows.raised ht he)
    rw [QueueReply.isTame, hg] at hreply
    cases hreply
  · have hreply := htame r hr
    cases r with
    | fault g => cases hread
    | _ =>
      rw [QueueReply.isTame, hread] at hreply
      · cases hreply
      · simp

namespace Probe

open State (Alike Informs)

variable {conf : RunConfig} {render : Renderer} {s s' : State}

/-! ## Spinning -/

/-- The slots of all members have texts. -/
def SlotsTold (s : State) : Prop := ∀ m ∈ s.members, Decimal.isPrintable m.slot = true

theorem SlotsTold.of_core_eq (h : SlotsTold s) (hcore : s.core = s'.core) : SlotsTold s' := by
  intro m hm
  have hmem : m.core ∈ s'.members.map ProbeSocket.core := List.mem_map_of_mem hm
  rw [← State.core_members hcore] at hmem
  obtain ⟨m₁, hm₁, hsame⟩ := List.mem_map.1 hmem
  have hslot : m₁.slot = m.slot := congrArg (·.slot) hsame
  exact hslot ▸ h m₁ hm₁

theorem say_informs (origin : Origin) (level : Level) (text : String) :
    Respects Informs (say origin level text) :=
  .modify fun s => ⟨rfl, (say_silent origin level text s).printed_eq⟩

/-- A question takes a reply from the queue and is noted, neither of which is in the core. -/
theorem spin_informs (ceiling : Int) (fd : Nat) : Respects Informs (spin ceiling fd) := by
  apply spin_respects
  · exact fun s queue => ⟨rfl, rfl⟩
  · exact fun s fd o => ⟨State.core_note_query rfl s, rfl⟩

/-- The outcome that a member keeps is not in its core either. -/
theorem spinMember_informs (ceiling : Int) (place : Nat) :
    Respects Informs (spinMember ceiling place) := by
  have hkeep (place : Nat) (spin : Option Spin) :
      Respects Informs (modifyMember place fun m => { m with spin }) :=
    .modify fun s => ⟨State.core_modify (fun m => { m with spin }) (fun _ => rfl) s place, rfl⟩
  exact spinMember_respects spin_informs hkeep say_informs ceiling place

/-- Spinning on a member of the group ends well and tells no more than what is for information. -/
theorem spinMember_answered {ceiling : Int} (hlimit : queryLimit ceiling < Decimal.limit)
    (htame : s.Tame) (hslots : SlotsTold s) (place : Nat) :
    Meets (spinMember ceiling place) s (fun _ t => s.Informs t ∧ t.Tame) fun _ _ => False := by
  by_cases hplace : place < s.members.length
  · have hsplit : s.members =
        s.members.take place ++ s.members[place] :: s.members.drop (place + 1) := by simp
    have hspec := spinMember_spec ceiling hsplit
    rw [List.length_take_of_le (Nat.le_of_lt hplace)] at hspec
    have hkept := (spinMember_informs ceiling place s).and (spinMember_faithful ceiling place s)
    apply (hspec.and hkept).mono
    · intro _ t ht
      obtain ⟨-, hinforms, hpass⟩ := ht
      exact ⟨hinforms, fun r hr => htame r (hpass.queue_subset hr)⟩
    · intro f t ht
      obtain ⟨⟨qs, m', ht, hqs, -, hle, hwhy, -⟩, -, hpass⟩ := ht
      rcases hwhy with hwhy | ⟨-, hlong | hslot⟩
      · exact htame.answered hpass.toFollows ht hqs hwhy
      · omega
      · rw [hslots _ (List.getElem_mem hplace)] at hslot
        cases hslot
  · have hnone : s.group.sockets[place]? = none := by
      rw [← Array.getElem?_toList]
      exact List.getElem?_eq_none (Nat.le_of_not_lt hplace)
    rw [spinMember, meets_bind, meets_get, hnone]
    exact ⟨refl s, htame⟩

/-- Spins on a member of the group if that is wanted. -/
def spinIf (spinner : Option Int) (place : Nat) : Probe Unit :=
  match spinner with
  | some ceiling => spinMember ceiling place
  | none => pure ()

theorem spinIf_spec {spinner : Option Int}
    (hlimit : ∀ ceiling, spinner = some ceiling → queryLimit ceiling < Decimal.limit)
    (htame : s.Tame) (hslots : SlotsTold s) (place : Nat) :
    Meets (spinIf spinner place) s (fun _ t => s.Informs t ∧ t.Tame) fun _ _ => False := by
  cases spinner with
  | some ceiling => exact spinMember_answered (hlimit ceiling rfl) htame hslots place
  | none => exact ⟨refl s, htame⟩

theorem servePlaces_succ (conf : RunConfig) (spinner : Option Int) (n place : Nat) :
    servePlaces conf spinner (n + 1) place = (do
      match ← servePackets conf place with
      | some failure => return some failure
      | none =>
        spinIf spinner place
        servePlaces conf spinner n (place + 1)) := by
  cases spinner <;> rfl

/-! ## Serving a group -/

/-- The states are alike, and the slots of their members have texts. -/
structure Served (render : Renderer) (s s' : State) : Prop extends s.Alike render s' where
  slots : SlotsTold s

/-- Sending counts and stamps packets, and leaves the slots as they are. -/
theorem ServeChange.slots_eq {f : State → State} (h : ServeChange f) (s : State) :
    (f s).members.map (·.slot) = s.members.map (·.slot) := by
  cases h with
  | socket h => rw [State.members, show (f s).group = s.group from h.sameGroup s, State.members]
  | countPacket place =>
    apply map_modify_of_eq
    exact fun _ => rfl
  | stamp place =>
    apply map_modify_of_eq
    exact fun _ => rfl
  | _ => rfl

theorem Served.change (h : Served render s s') {f : State → State} (hf : ServeChange f) :
    Served render (f s) (f s') where
  toAlike := hf.alike h.toAlike
  slots := by
    intro m hm
    have hmem : m.slot ∈ (f s).members.map (·.slot) := List.mem_map_of_mem hm
    rw [hf.slots_eq] at hmem
    obtain ⟨m₁, hm₁, hslot⟩ := List.mem_map.1 hmem
    exact hslot ▸ h.slots m₁ hm₁

/-- What sends packets on a group leads from alike states to alike states. -/
theorem Composed.served {α : Type} {action : Probe α} (h : Composed ServeChange action)
    (hs : Served render s s') : Mirrors (Served render) Eq action action s s' :=
  h.mirrors (fun _ _ ht => ht.core_eq) (fun _ hf _ _ ht => ht.change hf) hs

/-- The clock of runs is part of the core, unlike the one that stamps packets. -/
theorem readClock_mirrors (hs : Served render s s') :
    Mirrors (Served render) Eq readClock readClock s s' := by
  have hblind : Blind fun s => { s with clockReads := s.clockReads + 1 } :=
    .of_commutes fun _ => rfl
  apply Mirrors.of_meets (readClock_spec s) (readClock_spec s')
  intro time time' t t' ht ht'
  constructor
  · rw [ht.1, ht'.1, State.core_clock hs.core_eq, State.core_clockReads hs.core_eq]
  · rw [ht.2, ht'.2]
    exact ⟨hs.toAlike.change hblind (fun _ => ⟨rfl, rfl⟩) fun _ => rfl, hs.slots⟩

section Serving

variable {spinner spinner' : Option Int}
  (hlimit : ∀ ceiling, spinner = some ceiling → queryLimit ceiling < Decimal.limit)
  (hlimit' : ∀ ceiling, spinner' = some ceiling → queryLimit ceiling < Decimal.limit)
include hlimit hlimit'

/-- Spinners make no difference, nor does having none. -/
theorem spinIf_mirrors (place : Nat) (hs : Served render s s') :
    Mirrors (Served render) Eq (spinIf spinner place) (spinIf spinner' place) s s' := by
  apply Mirrors.of_meets (spinIf_spec hlimit hs.tame hs.slots place)
    (spinIf_spec hlimit' hs.tame' (hs.slots.of_core_eq hs.core_eq) place)
  intro _ _ t t' ht ht'
  exact ⟨rfl, hs.toAlike.informs ht.1 ht.2 ht'.1 ht'.2, hs.slots.of_core_eq ht.1.core_eq.symm⟩

/-- A group is served in the same way with any two spinners. -/
theorem servePlaces_mirrors (n place : Nat) (hs : Served render s s') :
    Mirrors (Served render) Eq (servePlaces conf spinner n place)
      (servePlaces conf spinner' n place) s s' := by
  induction n generalizing place s s' with
  | zero => exact .pure rfl hs
  | succ n ih =>
    rw [servePlaces_succ, servePlaces_succ]
    apply ((servePackets_composed conf place).served hs).bind_eq
    intro failure t t' ht
    cases failure with
    | some failure => exact .pure rfl ht
    | none =>
      apply (spinIf_mirrors hlimit hlimit' place ht).bind_eq
      exact fun _ _ _ hu => ih (place + 1) hu

theorem sendAll_mirrors (hs : Served render s s') :
    Mirrors (Served render) (fun r r' => r.core = r'.core) (sendAll conf spinner)
      (sendAll conf spinner') s s' := by
  apply Mirrors.read
  rw [State.core_memberCount hs.core_eq]
  apply (servePlaces_mirrors hlimit hlimit' _ 0 hs).bind_eq
  intro failure t t' ht
  apply Mirrors.read
  -- what became of the members is the same, but for their spins
  have hsamples : (t.group.sockets.map sampleOf).toList.map Sample.core =
      (t'.group.sockets.map sampleOf).toList.map Sample.core := by
    have hmembers := congrArg (List.map sampleOf) (State.core_members ht.core_eq)
    rw [List.map_map, List.map_map] at hmembers
    rw [Array.toList_map, List.map_map, Array.toList_map, List.map_map]
    exact hmembers
  apply Mirrors.pure _ ht
  rw [RunResult.core, RunResult.core, hsamples]

theorem timedRun_mirrors (hs : Served render s s') :
    Mirrors (Served render) (fun r r' => r.core = r'.core) (timedRun conf spinner)
      (timedRun conf spinner') s s' := by
  apply (readClock_mirrors hs).bind_eq
  intro start t t' ht
  apply (sendAll_mirrors hlimit hlimit' ht).bind
  intro r r' u u' hcore hu
  apply (readClock_mirrors hu).bind_eq
  intro stop v v' hv
  apply (Mirrors.ofExcept _ hv).bind_eq
  intro elapsed w w' hw
  apply ((say_composed _ _ _).serve.served hw).bind_eq
  intro _ x x' hx
  apply Mirrors.pure _ hx
  exact congrArg (fun r : RunResult => { r with elapsed }) hcore

end Serving

end Probe

namespace Program

open Probe
open State (Alike Informs)

variable {conf : RunConfig} {render : Renderer} {s s' t t' : State}

/-! ## The spin of a configuration -/

section Spin

variable (conf : RunConfig) (spin : Bool)

/-- A run is told its spinner, and does not ask the configuration for one. -/
theorem timedRun_withSpin (spinner : Option Int) :
    timedRun { conf with spin } spinner = timedRun conf spinner := by
  have hpackets (place n : Nat) :
      sendPackets { conf with spin } place n = sendPackets conf place n := by
    induction n with
    | zero => rfl
    | succ n ih =>
      rw [sendPackets, ih]
      rfl
  have hserve (place : Nat) : servePackets { conf with spin } place = servePackets conf place := by
    rw [servePackets, hpackets]
    rfl
  have hplaces (n place : Nat) :
      servePlaces { conf with spin } spinner n place = servePlaces conf spinner n place := by
    induction n generalizing place with
    | zero => rfl
    | succ n ih =>
      rw [servePlaces_succ, hserve, ih, ← servePlaces_succ]
  unfold timedRun sendAll
  simp only [hplaces]
  rfl

theorem enterGroup_withSpin : enterGroup { conf with spin } = enterGroup conf := by
  have hslots (n slot : Nat) : openSlots { conf with spin } n slot = openSlots conf n slot := by
    induction n generalizing slot with
    | zero => rfl
    | succ n ih =>
      rw [openSlots, ih]
      rfl
  unfold enterGroup openGroup
  simp only [hslots]

/-- That spins are wanted is handed on unchecked when the options are settled. -/
theorem ofOptions_withSpin (options : Options) :
    RunConfig.ofOptions resolve { options with spin } =
      (fun conf : RunConfig => { conf with spin }) <$> RunConfig.ofOptions resolve options := by
  simp only [RunConfig.ofOptions, map_bind, map_pure]

end Spin

/-! ## The setup -/

/-- Two messages are alike whatever they say. -/
theorem say_mirrors (hs : s.Alike render s') (origin : Origin) (level : Level)
    (text text' : String) :
    Mirrors (Alike render) Eq (say origin level text) (say origin level text') s s' :=
  .modify (hs.informs (say_informs origin level text s) hs.tame (say_informs origin level text' s')
    hs.tame')

/-- Which interface has the address of a source is for information only. -/
theorem describeSource_spec (source : Endpoint) (explicit : Bool) (htame : s.Tame) :
    Meets (describeSource source explicit) s (fun _ t => s.Informs t ∧ t.Tame)
      fun _ _ => False := by
  rw [describeSource, meets_bind, meets_get]
  split
  · exact ⟨refl s, htame⟩
  · split
    · rw [meets_bind, meets_say]
      exact ⟨say_informs _ _ _ s, htame⟩
    · exact ⟨refl s, htame⟩

/-- What is announced may differ in the interface, but not in the source that is found out for it.
-/
theorem announce_mirrors (hs : s.Alike render s') :
    Mirrors (Alike render) Eq (announce conf) (announce conf) s s' := by
  apply ((sourceEndpoint_composed conf).group.alike hs).bind_eq
  intro source t t' ht
  have hdescribe : Mirrors (Alike render) (fun _ _ => True)
      (describeSource source conf.source.isSome) (describeSource source conf.source.isSome)
      t t' := by
    apply Mirrors.of_meets (describeSource_spec _ _ ht.tame) (describeSource_spec _ _ ht.tame')
    intro _ _ u u' hu hu'
    exact ⟨trivial, ht.informs hu.1 hu.2 hu'.1 hu'.2⟩
  apply hdescribe.bind
  intro text text' u u' _ hu
  apply ((Composed.number _).alike hu).bind_eq
  intro size v v' hv
  apply ((Composed.number _).alike hv).bind_eq
  intro count w w' hw
  exact say_mirrors hw _ _ _ _

/-- The texts that introduce a run may differ, its group is opened in the same way. -/
theorem entry_mirrors (spin : Bool) (hs : s.Alike render s') :
    Mirrors (Alike render) Eq (entry conf) (entry { conf with spin }) s s' := by
  have hdescribe : Mirrors (Alike render) (fun _ _ => True) conf.describe
      (RunConfig.describe { conf with spin }) s s' := by
    apply ((Composed.number _).alike hs).bind_eq
    intro size t t' ht
    apply ((Composed.number _).alike ht).bind_eq
    intro count u u' hu
    apply ((Composed.number _).alike hu).bind_eq
    intro tos v v' hv
    exact .pure trivial hv
  have hstart {t t' : State} (ht : t.Alike render t') :
      Mirrors (Alike render) Eq (modify (·.forRun conf)) (modify (·.forRun { conf with spin }))
        t t' :=
    .modify ((GroupChange.start conf).alike ht)
  have hintroduction :
      Mirrors (Alike render) Eq (introduction conf) (introduction { conf with spin }) s s' := by
    apply hdescribe.bind
    intro text text' t t' _ ht
    apply (say_mirrors ht _ _ _ _).bind_eq
    intro _ u u' hu
    apply (hstart hu).bind_eq
    intro _ v v' hv
    exact announce_mirrors hv
  apply hintroduction.bind_eq
  intro _ t t' ht
  rw [enterGroup_withSpin conf spin]
  exact (enterGroup_composed conf).alike ht

/-- The group is open and was not used so far, and what a run can tell of it has a text. -/
structure Ready (conf : RunConfig) (t : State) : Prop where
  unused : Unused t.members
  slots : SlotsTold t
  count_printable : Decimal.isPrintable conf.perSocketCount = true

theorem Ready.of_setUp (hchecked : conf.Checked) (hsockets : s.sockets.size = 0)
    (h : setUpRun conf s = .ok () t) : Ready conf t := by
  obtain ⟨hcount, guess, source, -, -, hmembers⟩ := (setUpRun_spec conf hsockets).of_ok h
  have hopen := justOpened_freshSockets conf.size (nextFd guess)
  refine ⟨hmembers ▸ hopen.unused, ?_, hcount⟩
  rw [SlotsTold, hmembers]
  exact slot_printable_of_checked hchecked _

/-! ## The run -/

/-- The result of a run can be told. -/
theorem tellable_of_timedRun (hready : Ready conf s) {r : RunResult}
    (h : timedRun conf (spinner conf) s = .ok r t) : r.Tellable := by
  obtain ⟨-, -, -, hsamples, es, ms', -, rfl, hserves⟩ :=
    (timedRun_spec conf (spinner conf) s).of_ok h
  exact .of_serves hserves hready.unused hready.slots hready.count_printable
    (fun _ => queryLimit_lt) hsamples

/-- The reports agree since the results do, spins aside. -/
theorem attend_mirrors (spin details details' : Bool) (hs : s.Alike render s')
    (hready : Ready conf s) (hready' : Ready { conf with spin } s') :
    Mirrors (Alike render) (fun r r' => r.core = r'.core) (attend conf details)
      (attend { conf with spin } details') s s' := by
  have hsame : Mirrors (Served render) (fun r r' => r.core = r'.core) (timedRun conf (spinner conf))
      (timedRun { conf with spin } (spinner { conf with spin })) s s' := by
    rw [timedRun_withSpin conf spin]
    exact timedRun_mirrors (fun _ => queryLimit_lt) (fun _ => queryLimit_lt) ⟨hs, hready.slots⟩
  have htimed : Mirrors (Alike render) (fun r r' => r.core = r'.core ∧ r.Tellable ∧ r'.Tellable)
      (timedRun conf (spinner conf)) (timedRun { conf with spin } (spinner { conf with spin }))
      s s' := by
    cases hsame with
    | ok h h' hcore ht =>
      have htell := tellable_of_timedRun hready h
      have htell' := tellable_of_timedRun hready' h'
      exact .ok h h' ⟨hcore, htell, htell'⟩ ht.toAlike
    | error h h' ht => exact .error h h' ht.toAlike
  apply (htimed.ensuring fun _ _ ht => closeGroup_composed.alike ht).bind
  intro r r' t t' hresults ht
  obtain ⟨hcore, htell, htell'⟩ := hresults
  have hprint :
      Mirrors (Alike render) Eq (printReport r details) (printReport r' details') t t' := by
    apply Mirrors.read
    rw [← State.core_render ht.core_eq, ht.render_eq]
    rcases Report.text_agrees ht.total hcore htell htell' details details' with
      ⟨report, report', htext, htext', hagree⟩ | ⟨htext, htext'⟩
    · rw [htext, htext']
      refine .ok rfl rfl rfl ⟨ht.core_eq, ht.tame, ht.tame', ht.render_eq, ht.total, ?_⟩
      rw [State.printed_print, State.printed_print]
      exact List.rel_append ht.printed (.cons hagree .nil)
    · rw [htext, htext']
      exact .error rfl rfl ht
  exact hprint.bind_eq fun _ _ _ hu => .pure hcore hu

/-- Whether details are wanted matters to the report alone, which is printed after all calls. -/
theorem execute_mirrors (spin details details' : Bool) (hs : s.Alike render s')
    (hchecked : conf.Checked) (hsockets : s.sockets.size = 0) :
    Mirrors (Alike render) Eq (execute conf details) (execute { conf with spin } details')
      s s' := by
  have hsockets' : s'.sockets.size = 0 := State.core_sockets hs.core_eq ▸ hsockets
  rw [execute_eq, execute_eq]
  apply (entry_mirrors spin hs).bind_of_ok
  intro _ _ t t' h h' _ ht
  have hready : Ready conf t := .of_setUp hchecked hsockets (entry_eq_ok.1 h)
  have hchecked' : RunConfig.Checked { conf with spin } :=
    ⟨hchecked.size, hchecked.tos, hchecked.count_nonneg⟩
  have hready' : Ready { conf with spin } t' :=
    .of_setUp hchecked' hsockets' (entry_eq_ok.1 h')
  apply (attend_mirrors spin details details' ht hready hready').map
  intro r r' hcore
  have hfailure : r.failure = r'.failure := congrArg (·.failure) hcore
  rw [verdictOf, RunResult.isAborted, hfailure, verdictOf, RunResult.isAborted]

/-! ## The program -/

theorem configureAndExecute_mirrors {a a' : CommandLine.Arguments}
    (hdestination : a.destination = a'.destination) (hsettings : a.settings.core = a'.settings.core)
    (hs : s.Alike render s') (hsockets : s.sockets.size = 0) :
    Mirrors (Alike render) Eq (configureAndExecute a) (configureAndExecute a') s s' := by
  have hoptions : a'.options = { a.options with spin := a'.settings.spin } := by
    have hsource : a.settings.source = a'.settings.source := congrArg (·.source) hsettings
    have hcount : a.settings.count = a'.settings.count := congrArg (·.count) hsettings
    have hsize : a.settings.sockets = a'.settings.sockets := congrArg (·.sockets) hsettings
    have htos : a.settings.tos = a'.settings.tos := congrArg (·.tos) hsettings
    simp only [CommandLine.Arguments.options, hdestination, hsource, hcount, hsize, htos]
  have hsettle : Mirrors (Alike render)
      (fun conf conf' => conf' = { conf with spin := a'.settings.spin })
      (RunConfig.ofOptions resolve a.options) (RunConfig.ofOptions resolve a'.options) s s' := by
    rw [hoptions, ofOptions_withSpin a'.settings.spin a.options]
    cases (ofOptions_composed a.options).group.alike hs with
    | ok h h' hconf ht =>
      subst hconf
      exact .ok h (by rw [map_apply, h']) rfl ht
    | error h h' ht => exact .error h (by rw [map_apply, h']) ht
  cases hsettle with
  | @ok conf _ t t' h h' hconf ht =>
    subst hconf
    have hchecked : conf.Checked := (ofOptions_checked a.options a.count_nonneg s).of_ok h
    have hsize : t.sockets.size = 0 :=
      ((ofOptions_quiet a.options).after s |>.of_ok h).size_eq.trans hsockets
    have hexecute := execute_mirrors a'.settings.spin (0 < a.settings.verbosity)
      (0 < a'.settings.verbosity) ht hchecked hsize
    exact hexecute.of_eq (configureAndExecute_of_ok h) (configureAndExecute_of_ok h')
  | @error f t t' h h' ht =>
    have hends := configureAndExecute_of_error h
    have hends' := configureAndExecute_of_error h'
    cases hf : f.isConfiguration with
    | true =>
      rw [hf, if_pos rfl] at hends hends'
      exact .ok hends hends' rfl ht
    | false =>
      rw [hf, if_neg Bool.false_ne_true] at hends hends'
      exact .error hends hends' ht

/-- A failure that is told to the user is one of both runs. -/
theorem perform_mirrors {a a' : CommandLine.Arguments}
    (hdestination : a.destination = a'.destination) (hsettings : a.settings.core = a'.settings.core)
    (hs : s.Alike render s') (hsockets : s.sockets.size = 0) :
    Mirrors (Alike render) Eq (perform a) (perform a') s s' := by
  apply (configureAndExecute_mirrors hdestination hsettings hs hsockets).tryCatch
  intro f t t' ht
  exact ((sayFailure_composed f).group.alike ht).bind_eq fun _ _ _ hu => .pure rfl hu

/-- Two command lines that differ in the flags for diagnostics alone, in worlds that differ in the
interfaces, in the clock that stamps packets and in tame replies about queues, and in which every
table can be laid out, end with the same status. They make the same calls on the same sockets, but
for the questions about queues, and their reports, if there are any, have the same summary and the
same line about an early end. -/
theorem run_blind {arguments arguments' : List String} {world world' : World}
    {a a' : CommandLine.Arguments} (hread : CommandLine.read arguments = .ok a)
    (hread' : CommandLine.read arguments' = .ok a')
    (hsubstance : CommandLine.substance arguments = CommandLine.substance arguments')
    (hworld : world.core = world'.core) (hrender : world.render.Total)
    (htame : ∀ r ∈ world.queue, r.isTame = true) (htame' : ∀ r ∈ world'.queue, r.isTame = true) :
    let ended := run arguments world
    let ended' := run arguments' world'
    ended.status = ended'.status ∧ ended.errors = ended'.errors ∧
      (ended.final.trace.filter fun e => !e.isQuery) =
        (ended'.final.trace.filter fun e => !e.isQuery) ∧
      List.Forall₂ (Report.Agree world.render) ended.final.printed ended'.final.printed := by
  obtain ⟨hdestination, hsettings⟩ := CommandLine.read_substance hread hread' hsubstance
  have hcore : State.core { world } = State.core { world := world' } := by
    rw [State.core, hworld, State.core]
  have hstart : State.Alike world.render { world } { world := world' } :=
    ⟨hcore, htame, htame', rfl, hrender, .nil⟩
  dsimp only
  rw [run_of_read hread, run_of_read hread']
  cases perform_mirrors hdestination hsettings hstart rfl with
  | ok h h' hverdict ht =>
    rw [h, h', hverdict]
    exact ⟨rfl, rfl, State.core_trace ht.core_eq, ht.printed⟩
  | error h h' ht =>
    rw [h, h']
    exact ⟨rfl, rfl, State.core_trace ht.core_eq, ht.printed⟩

/-- Of two runs in which the second packet on the second socket is refused, one spins on the first
socket and tells more, and the other one tells less. -/
theorem run_blind_to_spinning :
    let arguments := ["-vsc", "2", "-n", "2", "192.0.2.7"]
    let arguments' := ["-c", "2", "-n", "2", "--quiet", "192.0.2.7"]
    let world : World :=
      { rds := [{}, { send := some ⟨1, .system (some 111)⟩ }]
        nics := [⟨"eth0", [⟨2, some "192.0.2.10"⟩]⟩]
        queue := [.pending 4, .raw [1, 0, 0, 0], .fault (.system none)]
        sendClock := [.nearest 1 2] }
    let world' : World := { rds := [{}, { send := some ⟨1, .system (some 111)⟩ }] }
    let ended := run arguments world
    let ended' := run arguments' world'
    CommandLine.substance arguments = CommandLine.substance arguments' ∧ world.core = world'.core ∧
      world.render.Total ∧ (∀ r ∈ world.queue, r.isTame = true) ∧
        (∀ r ∈ world'.queue, r.isTame = true) ∧ ended.final.printed.length = 1 ∧
          ended.status = ended'.status ∧ ended.errors = ended'.errors ∧
            (ended.final.trace.filter fun e => !e.isQuery) =
              (ended'.final.trace.filter fun e => !e.isQuery) ∧
                List.Forall₂ (Report.Agree world.render) ended.final.printed
                  ended'.final.printed := by
  intro arguments arguments' world world' ended ended'
  have hread : CommandLine.read arguments = .ok ⟨"192.0.2.7",
      { count := .value 2, sockets := .value 2, spin := true, verbose := 1 }⟩ := by decide +kernel
  have hread' : CommandLine.read arguments' = .ok ⟨"192.0.2.7",
      { count := .value 2, sockets := .value 2, quiet := 1 }⟩ := by decide +kernel
  have hsubstance : CommandLine.substance arguments = CommandLine.substance arguments' := by
    decide +kernel
  have htame : ∀ r ∈ world.queue, r.isTame = true := by decide
  have htame' : ∀ r ∈ world'.queue, r.isTame = true := by decide
  have hprinted : ended.final.printed.length = 1 := by decide +kernel
  exact ⟨hsubstance, rfl, Renderer.plain_total, htame, htame', hprinted,
    run_blind hread hread' hsubstance rfl Renderer.plain_total htame htame'⟩

end Program

end RdsReach
