import RdsReach.Proofs.Accounting
import RdsReach.Proofs.Lives
import RdsReach.Proofs.Program
import RdsReach.Proofs.Reporting

/-!
# What the exit status tells

Where closing a socket works, the program ends with 130 exactly when an interrupt was raised, and
with 0 only after help, the version or a run that was completed: `Program.Completed` says what that
means, for the events of the run and for what was printed.
-/

namespace RdsReach

/-! ## Interrupts -/

/-- A call or a lookup that was made raised an interrupt. -/
def State.Interrupted (s : State) : Prop :=
  (∃ e ∈ s.trace, e.fault? = some .interrupt) ∨ ∃ l ∈ s.lookups.toList, l.fault = some .interrupt

theorem State.interrupted_iff (s : State) : s.Interrupted ↔ 0 < s.interrupts := by
  rw [interrupts, Nat.add_pos_iff_pos_or_pos, List.countP_pos_iff, List.countP_pos_iff]
  simp only [decide_eq_true_eq]
  rfl

/-! ## What is printed -/

/-- Joined lines end with the last one. -/
theorem intercalate_concat (separator : String) (lines : List String) (last : String) :
    ∃ before, separator.intercalate (lines ++ [last]) = before ++ last := by
  by_cases h : lines = []
  · exact ⟨"", by simp [h]⟩
  · rw [String.intercalate_append_of_ne_nil h (List.cons_ne_nil _ _), String.intercalate_singleton]
    exact ⟨_, rfl⟩

namespace Report

/-- The text of a report on a run that was not cut ends with the summary. -/
theorem text_eq {r : RunResult} {details : Bool} {render : Renderer} {text : String}
    (hr : r.failure = none) (h : Report.text r details render = .ok text) :
    summaryLine r = .ok (summaryText r) ∧ ∃ before, text = before ++ summaryText r := by
  obtain ⟨lines, hlines, h⟩ := exists_of_bind_eq_ok h
  obtain ⟨first, summary, abort, hsummary, habort, rfl⟩ := lines_spec hlines
  obtain rfl := summaryText_of_summaryLine hsummary
  rw [hr] at habort
  obtain rfl : [] = abort := Except.ok.inj habort
  obtain ⟨before, hbefore⟩ := intercalate_concat "\n" first (summaryText r)
  rw [List.append_nil] at h
  exact ⟨hsummary, before, (Except.ok.inj h).symm.trans hbefore⟩

end Report

namespace Program

/-- What was printed last stands at the end of the output. -/
theorem output_of_back (threshold : Level) {journal : Array Entry} {text : String}
    (h : journal.back? = some (.printed text)) :
    ∃ before, output threshold journal = before ++ text ++ "\n" := by
  rw [← Array.getLast?_toList, List.getLast?_eq_some_iff] at h
  obtain ⟨entries, hentries⟩ := h
  rw [output, ← Array.foldl_toList, hentries, List.foldl_append, List.foldl_cons, List.foldl_nil,
    Entry.output, ← String.append_assoc]
  exact ⟨_, rfl⟩

end Program

/-! ## Sockets of a complete run -/

theorem justOpened_freshSockets (n fd : Nat) : JustOpened (freshSockets n fd 0) where
  fds_nodup := by
    rw [map_fd_freshSockets]
    exact List.nodup_range'
  slots_eq := by
    rw [map_slot_freshSockets, length_freshSockets, List.range_eq_range']
  unused := by
    generalize 0 = slot
    induction n generalizing fd slot with
    | zero => simp [freshSockets, Unused]
    | succ n ih => exact List.forall_mem_cons.2 ⟨⟨rfl, rfl⟩, ih (fd + 1) (slot + 1)⟩

/-- The packets of a life are its sends. -/
theorem Life.filter_isSend (conf : RunConfig) (l : Life) (fd : Nat) :
    (eventsOn fd (l.calls conf)).filter Event.isSend =
      l.sends.map fun o => .call fd (.send conf.destination.sockAddr) o := by
  have hnone {α : Type} (g : α → Call × Option Fault) (hg : ∀ a, (g a).1.isSend = false)
      (xs : List α) : (eventsOn fd (xs.map g)).filter Event.isSend = [] := by
    rw [List.filter_eq_nil_iff]
    intro e he
    obtain ⟨c, hc, rfl⟩ := List.mem_map.1 he
    obtain ⟨a, -, rfl⟩ := List.mem_map.1 hc
    simp [Event.isSend, hg]
  have hsends : (eventsOn fd (l.sends.map fun o => (Call.send conf.destination.sockAddr, o))).filter
      Event.isSend = l.sends.map fun o => .call fd (.send conf.destination.sockAddr) o := by
    rw [List.filter_eq_self.2, eventsOn, List.map_map]
    · rfl
    · intro e he
      obtain ⟨c, hc, rfl⟩ := List.mem_map.1 he
      obtain ⟨o, -, rfl⟩ := List.mem_map.1 hc
      rfl
  -- only one of the five kinds of calls in a life sends a packet
  rw [calls, servedCalls]
  simp only [eventsOn_append, List.filter_append, hsends]
  rw [hnone _ fun _ => rfl, hnone _ fun _ => rfl, hnone _ fun _ => rfl, hnone _ fun _ => rfl]
  simp

/-- The result of a run that served its whole group counts all packets. -/
theorem Conducted.counts {conf : RunConfig} {es : List Event} {ms : List ProbeSocket}
    {r : RunResult} (h : Conducted conf es (some (.ok none, ms))) (hchecked : conf.Checked)
    (hper : r.perSocketCount = conf.perSocketCount) (hsamples : r.samples = ms.map Probe.sampleOf)
    (hr : r.failure = none) :
    (r.socketCount : Int) = conf.groupSize ∧
      r.completedPackets = conf.groupSize * conf.perSocketCount := by
  cases h with
  | @served guess es closes replies _ _ source hguess hfaultless htos hserves hcloses =>
    have haccounts := RunResult.Accounts.of_complete hserves hchecked.perSocketCount_pos
      (justOpened_freshSockets _ _).unused hper hsamples hr
    have hlength : (freshSockets conf.size (nextFd guess) 0).length = conf.size :=
      length_freshSockets _ _ _
    -- a run that was not cut is complete
    rcases haccounts.ending with hcomplete | ⟨f, k, g, hcut⟩
    · rw [RunResult.socketCount, hcomplete.length_eq, haccounts.completedPackets_eq,
        hcomplete.completed_eq, hlength, hchecked.size_eq]
      exact ⟨rfl, rfl⟩
    · rw [hcut.failure_eq] at hr
      cases hr

namespace Program

/-! ## The status -/

/-- The program did all that the configuration asks for: every socket of the group was made ready
and sent all its packets, none of which failed, and the summary that was printed counts them and
tells the time between the first two readings of the clock. -/
structure Completed (world : World) (conf : RunConfig) (ended : Ended) : Prop where
  size : 1 ≤ conf.groupSize ∧ conf.groupSize ≤ 32
  count : 1 ≤ conf.perSocketCount
  ready : AllReady conf ended.final.trace
  sends : ∀ fd, .opened .rds fd ∈ ended.final.trace →
    (eventsAt fd ended.final.trace).filter Event.isSend =
      packets conf fd conf.perSocketCount.toNat
  summary : ∃ r before, ended.output = before ++ Report.summaryText r ++ "\n" ∧
    Report.summaryLine r = .ok (Report.summaryText r) ∧
      (r.socketCount : Int) = conf.groupSize ∧
        r.completedPackets = conf.groupSize * conf.perSocketCount ∧
          Elapsed.milliseconds (reading world.clock 0) (reading world.clock 1) = .ok r.elapsed

theorem completed_of_reported {world : World} {conf : RunConfig} {details : Bool} {r : RunResult}
    {ended : Ended} {threshold : Level} (hchecked : conf.Checked)
    (h : Reported conf details { world } ended.final.trace r ended.final) (hr : r.failure = none)
    (houtput : ended.output = output threshold ended.final.journal) :
    Completed world conf ended := by
  obtain ⟨⟨ms, hconducted, hsamples⟩, hper, helapsed, text, htext, hprinted⟩ := h
  rw [hr] at hconducted
  refine ⟨hchecked.size, hchecked.perSocketCount_pos, ?_, fun fd hfd => ?_, ?_⟩
  -- the sockets stay ready to the end, as nothing is set up later
  · obtain ⟨before, after, htrace, -, -, hready, hafter⟩ := hconducted.setup_first hchecked
    rw [htrace]
    exact hready.append hafter
  · obtain ⟨l, hlived, hsends⟩ := hconducted.life hchecked hfd
    rw [hlived.events_eq, List.filter_cons_of_neg (by simp [Event.isSend]), l.filter_isSend,
      hsends ms rfl, List.map_replicate, packets]
  -- the summary is the last line of the last text that was printed
  · obtain ⟨hsockets, hpackets⟩ := hconducted.counts hchecked hper hsamples hr
    obtain ⟨hline, first, rfl⟩ := Report.text_eq hr htext
    obtain ⟨before, hbefore⟩ := output_of_back threshold hprinted
    refine ⟨r, before ++ first, ?_, hline, hsockets, hpackets, helapsed⟩
    rw [houtput, hbefore, ← String.append_assoc]

/-- The exit status is 0, 1 or 130. It is 130 exactly when an interrupt was raised, and 0 only if
the user asked for help or the version, or the run was completed. Without a configuration no socket
is touched. -/
theorem run_status (arguments : List String) {world : World}
    (hcloses : ∀ f, ¬ world.Raises .close f) :
    ((run arguments world).status = 0 ∨ (run arguments world).status = 1 ∨
      (run arguments world).status = 130) ∧
    ((run arguments world).status = 130 ↔ (run arguments world).final.Interrupted) ∧
    ((run arguments world).status = 0 →
      CommandLine.read arguments = .error .help ∨ CommandLine.read arguments = .error .version ∨
        ∃ conf, configured arguments world = some conf ∧
          Completed world conf (run arguments world)) ∧
    (configured arguments world = none → (run arguments world).final.trace = []) := by
  have hran := run_spec arguments world
  refine ⟨?_, ?_, fun hzero => ?_, hran.unconfigured⟩
  · rcases hran.status_eq hcloses with ⟨h, -⟩ | ⟨h, -⟩ <;> omega
  · rw [State.interrupted_iff]
    rcases hran.status_eq hcloses with h | h <;> omega
  · refine (hran.completed hzero).imp id (Or.imp id ?_)
    rintro ⟨conf, details, threshold, r, hconf, hreported, hr, houtput⟩
    exact ⟨conf, hconf,
      completed_of_reported (checked_of_configured hconf) hreported hr houtput⟩

/-- Two sockets send three packets each. -/
theorem run_status_of_two :
    let arguments := ["-n", "2", "-c", "3", "192.0.2.7"]
    (∀ f, ¬ World.Raises {} .close f) ∧
      ∃ conf, configured arguments {} = some conf ∧ Completed {} conf (run arguments {}) := by
  intro arguments
  have hcloses : ∀ f, ¬ World.Raises {} .close f := by
    simp [World.Raises, State.Raises, State.scripts]
  have hread : (CommandLine.read arguments).isOk = true := by decide +kernel
  have hended {e : CommandLine.Ending} : CommandLine.read arguments ≠ .error e := by
    intro h
    rw [h] at hread
    cases hread
  obtain ⟨-, -, hzero, -⟩ := run_status arguments hcloses
  exact ⟨hcloses, ((hzero (by decide +kernel)).resolve_left hended).resolve_left hended⟩

end Program

end RdsReach
