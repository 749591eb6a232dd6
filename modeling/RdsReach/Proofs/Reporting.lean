import RdsReach.Proofs.Accounting

/-!
# What a report says

A report has to be complete, so one number that is too long to print leaves no report. Of a result
whose samples can be told (`RunResult.Tellable`), which holds of every run that was carried out,
only the numbers of packets of all sockets together can be that long (`RunResult.Printable`).
`Report.text_of_printable` and `Report.text_of_not_printable` say what becomes of the report where
every table can be laid out (`Renderer.Total`).
-/

namespace RdsReach

/-- Every table is laid out. -/
def Renderer.Total (render : Renderer) : Prop :=
  ∀ header rows, ∃ text, render header rows = .ok text

theorem Renderer.plain_total : plain.Total := fun _ _ => ⟨_, rfl⟩

/-! ## Numbers that have a text -/

theorem numberText_of_printable {n : Int} (h : Decimal.isPrintable n = true) :
    numberText n = .ok (toString n) := by
  rw [numberText_eq, if_pos h]

theorem printable_of_numberText {n : Int} {text : String} (h : numberText n = .ok text) :
    Decimal.isPrintable n = true := by
  by_contra hlong
  rw [numberText_eq, if_neg hlong] at h
  cases h

/-- Smaller numbers have shorter texts. -/
theorem Decimal.isPrintable_of_le {m n : Int} (hm : 0 ≤ m) (hle : m ≤ n)
    (h : isPrintable n = true) : isPrintable m = true := by
  rw [isPrintable_iff] at h ⊢
  omega

theorem Decimal.isPrintable_of_small {n : Int} (hn : 0 ≤ n) (hsmall : n < 10000000000) :
    isPrintable n = true := by
  rw [isPrintable_iff]
  exact Decimal.lt_limit (by omega)

/-- Results that are all there make up a list. -/
theorem mapM_ok {α β : Type} {f : α → Except Failure β} {g : α → β} (as : List α)
    (h : ∀ a ∈ as, f a = .ok (g a)) : as.mapM f = .ok (as.map g) := by
  induction as with
  | nil => rfl
  | cons a as ih =>
    obtain ⟨ha, has⟩ := List.forall_mem_cons.1 h
    rw [List.mapM_cons, ha, ih has]
    rfl

/-! ## Results that can be told -/

/-- The numbers of the outcome have a text. -/
structure Spin.Tellable (s : Spin) : Prop where
  count_printable : Decimal.isPrintable s.count = true
  spins_printable : Decimal.isPrintable s.spins = true

theorem Spin.Within.tellable {s : Spin} {n : Nat} (h : s.Within n) (hn : n < Decimal.limit) :
    s.Tellable where
  count_printable := h.printable hn
  spins_printable := by
    have hnonneg := h.spins_nonneg
    have hle := h.spins_le
    rw [Decimal.isPrintable_iff]
    omega

/-- The numbers of the sample have a text. -/
structure Sample.Tellable (x : Sample) : Prop where
  slot_printable : Decimal.isPrintable x.slot = true
  sent_printable : Decimal.isPrintable x.sent = true
  spin_tellable : ∀ s, x.spin = some s → s.Tellable

namespace RunResult

/-- The numbers that the result holds for single sockets have a text. -/
structure Tellable (r : RunResult) : Prop where
  samples : ∀ x ∈ r.samples, x.Tellable
  failure : ∀ f, r.failure = some f → Decimal.isPrintable f.slot = true

/-- The numbers of packets that a report tells have a text. -/
def Printable (r : RunResult) : Prop :=
  Decimal.isPrintable r.completedPackets = true ∧
    (r.isAborted = true →
      Decimal.isPrintable r.packetsSent = true ∧ Decimal.isPrintable r.requestedPackets = true)

end RunResult

section Serves

variable {conf : RunConfig} {spinner : Option Int} {replies : List QueueReply}
  {ms ms' : List ProbeSocket} {es : List Event}

/-- What became of an unused socket can be told once its packets are counted, if all packets that it
has to send can. -/
theorem ProbeSocket.Sent.tellable {m m' : ProbeSocket} {k : Nat} (h : m.Sent k m')
    (hunused : m.sent = 0) (hslot : Decimal.isPrintable m.slot = true)
    (hcount : Decimal.isPrintable conf.perSocketCount = true)
    (hk : k ≤ conf.perSocketCount.toNat) (hspin : ∀ s, m'.spin = some s → s.Tellable) :
    (Probe.sampleOf m').Tellable where
  slot_printable := by
    change Decimal.isPrintable m'.slot = true
    rw [h.slot_eq]
    exact hslot
  sent_printable := by
    change Decimal.isPrintable (m'.sent : Int) = true
    rw [Decimal.isPrintable_iff] at hcount ⊢
    rw [h.sent_eq, hunused, Nat.zero_add, Int.natAbs_natCast]
    omega
  spin_tellable := hspin

/-- What became of the sockets of a run can be told. -/
theorem Serves.tellable {failure : Option SendFailure}
    (h : Serves conf spinner replies ms es (.ok failure) ms') (hunused : Unused ms)
    (hslots : ∀ m ∈ ms, Decimal.isPrintable m.slot = true)
    (hcount : Decimal.isPrintable conf.perSocketCount = true)
    (hlimit : ∀ ceiling, spinner = some ceiling → Probe.queryLimit ceiling < Decimal.limit) :
    ∀ m' ∈ ms', (Probe.sampleOf m').Tellable := by
  have hnone {m : ProbeSocket} (hm : m.spin = none) : ∀ s, m.spin = some s → s.Tellable := by
    intro s hs
    rw [hm] at hs
    cases hs
  generalize ho : Except.ok failure = o at h
  induction h with
  | done => simp
  | @cut m m' k g ms hk hsent hspin =>
    obtain ⟨⟨hm, hmspin⟩, hms⟩ := List.forall_mem_cons.1 hunused
    obtain ⟨hslot, hslots⟩ := List.forall_mem_cons.1 hslots
    refine List.forall_mem_cons.2
      ⟨hsent.tellable hm hslot hcount (Nat.le_of_lt hk) (hnone (hspin.trans hmspin)), ?_⟩
    -- the sockets behind the one that the run ends at are as they were
    intro m₁ hm₁
    have hkept : m₁.Sent 0 m₁ := ⟨rfl, rfl, rfl⟩
    exact hkept.tellable (hms m₁ hm₁).1 (hslots m₁ hm₁) hcount (Nat.zero_le _)
      (hnone (hms m₁ hm₁).2)
  | broken ms hspinner hsent hqueries hne hle hwhy => cases ho
  | @next m m' ms ms' qs es o hsent hspun _ ih =>
    obtain ⟨⟨hm, hmspin⟩, hms⟩ := List.forall_mem_cons.1 hunused
    obtain ⟨hslot, hslots⟩ := List.forall_mem_cons.1 hslots
    refine List.forall_mem_cons.2
      ⟨hsent.tellable hm hslot hcount (Nat.le_refl _) ?_, ih hms hslots ho⟩
    rw [hmspin] at hspun
    intro s hs
    rw [hs] at hspun
    cases hspun with
    | on _ hqueries hne hle hwithin =>
      exact hwithin.tellable (Nat.lt_of_le_of_lt hle (hlimit _ rfl))

/-- The result of a run can be told. -/
theorem RunResult.Tellable.of_serves {r : RunResult}
    (h : Serves conf spinner replies ms es (.ok r.failure) ms') (hunused : Unused ms)
    (hslots : ∀ m ∈ ms, Decimal.isPrintable m.slot = true)
    (hcount : Decimal.isPrintable conf.perSocketCount = true)
    (hlimit : ∀ ceiling, spinner = some ceiling → Probe.queryLimit ceiling < Decimal.limit)
    (hsamples : r.samples = ms'.map Probe.sampleOf) : r.Tellable where
  samples := by
    rw [hsamples]
    exact List.forall_mem_map.2 (h.tellable hunused hslots hcount hlimit)
  failure := by
    intro f hf
    rw [hf] at h
    obtain ⟨done, done', m, m', rest, before, k, g, rfl, -, -, -, -, -, -, rfl⟩ :=
      h.split_at_failure
    exact hslots m (by simp)

end Serves

namespace Report

variable {r : RunResult} {render : Renderer}

/-! ## Lines -/

/-- The lines of the sockets that were spun on, in the order of their slots. -/
def spinTexts (r : RunResult) : List String :=
  r.samples.filterMap fun x =>
    x.spin.map fun s => s!"Spun for {s.count} counts on socket {x.slot}"

/-- The summary of a run. -/
def summaryText (r : RunResult) : String :=
  s!"{r.socketCount} sockets took {r.elapsed.fixed 6} msec to send and spin for " ++
    s!"{r.completedPackets} packets"

/-- The line about a run that ended early. -/
def abortText (r : RunResult) (failure : SendFailure) : String :=
  s!"Run aborted on socket {failure.slot}: {r.packetsSent} of " ++
    s!"{r.requestedPackets} packets sent"

theorem spinLines_eq (h : r.Tellable) : spinLines r = .ok (spinTexts r) := by
  have hline : ∀ p ∈ r.samples.filterMap fun x => x.spin.map (x.slot, ·),
      spinLine p.1 p.2 = .ok s!"Spun for {p.2.count} counts on socket {p.1}" := by
    intro p hp
    obtain ⟨x, hx, hspin⟩ := List.mem_filterMap.1 hp
    obtain ⟨s, hs, rfl⟩ := Option.map_eq_some_iff.1 hspin
    have hslot := (h.samples x hx).slot_printable
    have hcount := ((h.samples x hx).spin_tellable s hs).count_printable
    rw [spinLine, numberText_of_printable hcount, numberText_of_printable hslot]
    rfl
  rw [spinLines, mapM_ok _ hline, List.map_filterMap, spinTexts]
  simp only [Option.map_map]
  rfl

/-- Every result that can be told has a table. -/
theorem socketTable_eq (htotal : render.Total) (h : r.Tellable) :
    ∃ table, socketTable render r = .ok table := by
  have hcell {x : Sample} (hx : x.Tellable) : ∃ cell, spinCell x.spin = .ok cell := by
    cases hspin : x.spin with
    | none => exact ⟨"--", rfl⟩
    | some s =>
      rw [spinCell, Spin.text, numberText_of_printable (hx.spin_tellable s hspin).spins_printable]
      cases s.failedErrno? with
      | none => exact ⟨_, rfl⟩
      | some errno => exact ⟨_, rfl⟩
  have hrow : ∀ x ∈ r.samples, ∃ row, socketRow x = .ok row := by
    intro x hx
    have htell := h.samples x hx
    obtain ⟨cell, hcell⟩ := hcell htell
    rw [socketRow, numberText_of_printable htell.slot_printable,
      numberText_of_printable htell.sent_printable, hcell]
    exact ⟨_, rfl⟩
  choose! row hrow using hrow
  obtain ⟨table, htable⟩ := htotal ["Socket", "Sent", "Spin"] (r.samples.map row)
  refine ⟨table, ?_⟩
  rw [socketTable, mapM_ok _ hrow]
  show (render ["Socket", "Sent", "Spin"] (r.samples.map row)).mapError _ = .ok table
  rw [htable]
  rfl

theorem summaryLine_eq :
    summaryLine r = if Decimal.isPrintable r.completedPackets then .ok (summaryText r)
      else .error .overlong := by
  rw [summaryLine, numberText_eq]
  split <;> rfl

theorem abortLine_of_printable {failure : SendFailure}
    (hslot : Decimal.isPrintable failure.slot = true)
    (hsent : Decimal.isPrintable r.packetsSent = true)
    (hrequested : Decimal.isPrintable r.requestedPackets = true) :
    abortLine r failure = .ok (abortText r failure) := by
  rw [abortLine, numberText_of_printable hslot, numberText_of_printable hsent,
    numberText_of_printable hrequested]
  rfl

theorem summaryText_of_summaryLine {line : String} (h : summaryLine r = .ok line) :
    line = summaryText r := by
  rw [summaryLine_eq] at h
  split at h
  · exact (Except.ok.inj h).symm
  · cases h

/-! ## The whole report -/

/-- A report ends with a summary and the line about an early end. -/
theorem lines_spec {details : Bool} {all : List String} (h : lines r details render = .ok all) :
    ∃ first summary abort, summaryLine r = .ok summary ∧
      r.failure.toList.mapM (abortLine r) = .ok abort ∧ all = first ++ [summary] ++ abort := by
  obtain ⟨spins, -, h⟩ := exists_of_bind_eq_ok h
  have hend {table : List String} (h : (do
      let summary ← summaryLine r
      let abort ← r.failure.toList.mapM (abortLine r)
      return spins ++ table ++ [summary] ++ abort) = .ok all) :
      ∃ first summary abort, summaryLine r = .ok summary ∧
        r.failure.toList.mapM (abortLine r) = .ok abort ∧ all = first ++ [summary] ++ abort := by
    obtain ⟨summary, hsummary, h⟩ := exists_of_bind_eq_ok h
    obtain ⟨abort, habort, h⟩ := exists_of_bind_eq_ok h
    exact ⟨spins ++ table, summary, abort, hsummary, habort, (Except.ok.inj h).symm⟩
  cases details with
  | true =>
    obtain ⟨table, -, h⟩ := exists_of_bind_eq_ok h
    exact hend h
  | false => exact hend h

/-- The lines of a report on a result that can be told, the summary and the line about an early end
last. -/
theorem lines_of_printable (htotal : render.Total) (h : r.Tellable) (hprint : r.Printable)
    (details : Bool) :
    ∃ table, (details = false → table = []) ∧
      lines r details render =
        .ok (spinTexts r ++ table ++ [summaryText r] ++ r.failure.toList.map (abortText r)) := by
  obtain ⟨table, htable⟩ := socketTable_eq htotal h
  have habort : r.failure.toList.mapM (abortLine r) = .ok (r.failure.toList.map (abortText r)) := by
    apply mapM_ok
    intro f hf
    have hfailure : r.failure = some f := Option.mem_toList.1 hf
    have haborted : r.isAborted = true := by rw [RunResult.isAborted, hfailure, Option.isSome_some]
    obtain ⟨hsent, hrequested⟩ := hprint.2 haborted
    exact abortLine_of_printable (h.failure f hfailure) hsent hrequested
  have hsummary : summaryLine r = .ok (summaryText r) := by rw [summaryLine_eq, if_pos hprint.1]
  cases details with
  | true =>
    refine ⟨[table], fun hfalse => absurd hfalse (by decide), ?_⟩
    rw [lines, spinLines_eq h, htable, hsummary, habort]
    rfl
  | false =>
    refine ⟨[], fun _ => rfl, ?_⟩
    rw [lines, spinLines_eq h, hsummary, habort]
    rfl

theorem text_of_printable (htotal : render.Total) (h : r.Tellable) (hprint : r.Printable)
    (details : Bool) :
    ∃ table, (details = false → table = []) ∧
      text r details render = .ok ("\n".intercalate
        (spinTexts r ++ table ++ [summaryText r] ++ r.failure.toList.map (abortText r))) := by
  obtain ⟨table, hdetails, hlines⟩ := lines_of_printable htotal h hprint details
  refine ⟨table, hdetails, ?_⟩
  rw [text, hlines]
  rfl

/-- A number of packets without a text leaves no report. -/
theorem text_of_not_printable (htotal : render.Total) (hprint : ¬ r.Printable) (details : Bool) :
    text r details render = .error .overlong := by
  have hwordable : Wordable (text r details render) := by
    apply failsAs_reportText
    · rfl
    · intro header rows reason hfails
      obtain ⟨table, htable⟩ := htotal header rows
      rw [htable] at hfails
      cases hfails
  cases htext : text r details render with
  | error f => rw [hwordable f htext]
  | ok report =>
    refine absurd ?_ hprint
    -- each of the numbers was worded, so it has a text
    obtain ⟨all, hall, -⟩ := exists_of_bind_eq_ok htext
    obtain ⟨first, summary, abort, hsummary, habort, -⟩ := lines_spec hall
    have hcompleted : Decimal.isPrintable r.completedPackets = true := by
      by_contra hlong
      rw [summaryLine_eq, if_neg hlong] at hsummary
      cases hsummary
    refine ⟨hcompleted, fun haborted => ?_⟩
    obtain ⟨f, hf⟩ := Option.isSome_iff_exists.1 haborted
    rw [hf, Option.toList_some, List.mapM_cons] at habort
    obtain ⟨line, hline, -⟩ := exists_of_bind_eq_ok habort
    obtain ⟨slot, -, hrest⟩ := exists_of_bind_eq_ok hline
    obtain ⟨sent, hsent, hrest⟩ := exists_of_bind_eq_ok hrest
    obtain ⟨requested, hrequested, -⟩ := exists_of_bind_eq_ok hrest
    exact ⟨printable_of_numberText hsent, printable_of_numberText hrequested⟩

end Report

end RdsReach
