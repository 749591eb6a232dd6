import RdsReach.Proofs.Admission

/-!
# What a configuration can be settled to

`Options.Permits` says which configurations go with options that were given. By
`RunConfig.ofOptions_eq_ok_iff` a configuration is settled exactly if the addresses resolve to its
endpoints and the options permit it.

The size of a group is checked where it was asked for. Where it follows from the number of packets
nothing is checked, and a negative number of packets makes a group of less than one socket.
-/

namespace RdsReach

namespace Probe

variable {α : Type} {s u : State}

/-- A check ends with a value exactly if it finds nothing wrong, and changes nothing. -/
theorem check_eq_ok_iff {p : Prop} [Decidable p] {a b : α} {f : Failure} :
    (if p then pure a else fail f : Probe α) s = .ok b u ↔ p ∧ b = a ∧ u = s := by
  by_cases hp : p
  · simp [hp, eq_comm]
  · simp [hp, fail]

end Probe

/-! ## Permitted configurations -/

/-- The configuration is one that the options ask for. -/
structure Options.Permits (options : Options) (conf : RunConfig) : Prop where
  count : conf.count = RunConfig.numberOr0 options.count
  spin : conf.spin = options.spin
  tos : options.tos = .absent ∧ conf.tos = 0 ∨ options.tos = .value conf.tos
  tos_bounds : 0 ≤ conf.tos ∧ conf.tos ≤ 255
  source : conf.source = none ↔ options.source = .absent
  versions : ∀ src, conf.source = some src → src.version = conf.destination.version
  groupSizeGiven : conf.groupSizeGiven = true ↔ options.groupSize ≠ .absent
  /-- There are 8 sockets, or less if less packets are sent, unless their number is given. -/
  groupSize : options.groupSize = .value conf.groupSize ∨ options.groupSize = .absent ∧
    conf.groupSize = if conf.count = 0 then 8 else min 8 conf.count
  groupSize_le : options.groupSize = .absent → conf.count ≠ 0 →
    conf.groupSize ≤ conf.perSocketCount
  /-- The size is within bounds, unless it follows from a negative number of packets. -/
  groupSize_bounds : conf.groupSize ≤ 32 ∧
    (1 ≤ conf.groupSize ↔ options.groupSize ≠ .absent ∨ 0 ≤ conf.count)

namespace RunConfig

open Probe

variable {s t : State}

/-- A number that is given is within the bounds. -/
def GivenWithin (setting : Setting Int) (low high : Int) : Prop :=
  setting = .absent ∨ ∃ n, setting = .value n ∧ low ≤ n ∧ n ≤ high

theorem isGroupSize_iff {n : Int} : isGroupSize n = true ↔ 1 ≤ n ∧ n ≤ 32 := by
  simp [isGroupSize]

theorem checkGroupSize_eq_ok_iff {size : Setting Int} :
    checkGroupSize size s = .ok () t ↔ GivenWithin size 1 32 ∧ t = s := by
  cases size with
  | absent => simp [checkGroupSize, GivenWithin, eq_comm]
  | blank => simp [checkGroupSize, GivenWithin]
  | value n => simp [checkGroupSize, GivenWithin, check_eq_ok_iff, isGroupSize_iff]

theorem checkTos_eq_ok_iff {tos : Setting Int} {n : Int} :
    checkTos tos s = .ok n t ↔
      ((tos = .absent ∧ n = 0 ∨ tos = .value n) ∧ 0 ≤ n ∧ n ≤ 255) ∧ t = s := by
  cases tos with
  | absent =>
    constructor
    · rintro ⟨⟩
      exact ⟨⟨.inl ⟨rfl, rfl⟩, by decide⟩, rfl⟩
    · rintro ⟨⟨⟨-, rfl⟩ | hn, -⟩, rfl⟩
      · rfl
      · cases hn
  | blank => simp [checkTos]
  | value m =>
    rw [checkTos, check_eq_ok_iff, isTos_iff]
    constructor
    · rintro ⟨hbounds, rfl, rfl⟩
      exact ⟨⟨.inr rfl, hbounds⟩, rfl⟩
    · rintro ⟨⟨⟨hm, -⟩ | hm, hbounds⟩, rfl⟩
      · cases hm
      · cases hm
        exact ⟨hbounds, rfl, rfl⟩

theorem checkFamilies_eq_ok_iff {source : Option Endpoint} {destination : Endpoint} :
    checkFamilies source destination s = .ok () t ↔
      (∀ src, source = some src → src.version = destination.version) ∧ t = s := by
  cases source with
  | none => simp [checkFamilies, eq_comm]
  | some src => simp [checkFamilies, check_eq_ok_iff]

theorem impliedGroupSize_eq_min (count : Int) :
    impliedGroupSize count = if count = 0 then 8 else min 8 count := by
  rw [CommandLine.impliedGroupSize_eq]
  split_ifs <;> omega

/-- What is made of the options once everything is checked and resolved. -/
def ofChecked (options : Options) (tos : Int) (destination : Endpoint) (source : Option Endpoint) :
    RunConfig where
  destination := destination
  source := source
  count := numberOr0 options.count
  groupSize := match options.groupSize with
    | .value n => n
    | _ => impliedGroupSize (numberOr0 options.count)
  groupSizeGiven := decide (options.groupSize ≠ .absent)
  tos := tos
  spin := options.spin

/-- The numbers are checked, then the addresses are resolved, then their versions are compared. -/
theorem ofOptions_eq (resolve : Host → Probe Endpoint) (options : Options) :
    ofOptions resolve options = (do
      checkGroupSize options.groupSize
      let tos ← checkTos options.tos
      let destination ← resolve (.named options.destination)
      let source ← resolveSource resolve options.source
      checkFamilies source destination
      return ofChecked options tos destination source) := by
  obtain ⟨destination, source, count, groupSize, tos, spin⟩ := options
  cases groupSize <;> rfl

section Permits

variable {options : Options} {conf : RunConfig} {tos : Int} {destination : Endpoint}
  {source : Option Endpoint}

/-- A size that was checked is the one that was asked for, or follows from the number of packets. -/
theorem eq_groupSize_ofChecked_iff {n : Int} (hwithin : GivenWithin options.groupSize 1 32) :
    n = (ofChecked options tos destination source).groupSize ↔
      options.groupSize = .value n ∨ options.groupSize = .absent ∧
        n = if numberOr0 options.count = 0 then 8 else min 8 (numberOr0 options.count) := by
  rcases hwithin with habsent | ⟨m, hm, -⟩
  · simp [ofChecked, habsent, impliedGroupSize_eq_min]
  · simp [ofChecked, hm, eq_comm]

/-- A size that was asked for is within bounds. One that follows from the number of packets is too,
unless that number is negative. -/
theorem groupSize_bounds_of_within (hwithin : GivenWithin options.groupSize 1 32)
    (hsize : options.groupSize = .value conf.groupSize ∨ options.groupSize = .absent ∧
      conf.groupSize = if conf.count = 0 then 8 else min 8 conf.count) :
    conf.groupSize ≤ 32 ∧ (1 ≤ conf.groupSize ↔ options.groupSize ≠ .absent ∨ 0 ≤ conf.count) := by
  rcases hsize with hsize | ⟨habsent, hsize⟩
  · rw [hsize] at hwithin ⊢
    rcases hwithin with habsent | ⟨n, hn, hlow, hhigh⟩
    · cases habsent
    · cases hn
      exact ⟨hhigh, fun _ => .inl nofun, fun _ => hlow⟩
  · have hgiven : options.groupSize ≠ .absent ↔ False := iff_false_intro (· habsent)
    rw [hsize, hgiven, false_or]
    split_ifs <;> omega

/-- What the options ask for is what is made of them, if they pass the checks. -/
theorem permits_iff :
    options.Permits conf ↔ GivenWithin options.groupSize 1 32 ∧
      ((options.tos = .absent ∧ conf.tos = 0 ∨ options.tos = .value conf.tos) ∧
        0 ≤ conf.tos ∧ conf.tos ≤ 255) ∧
      (conf.source = none ↔ options.source = .absent) ∧
      (∀ src, conf.source = some src → src.version = conf.destination.version) ∧
      conf = ofChecked options conf.tos conf.destination conf.source := by
  constructor
  · intro h
    have hwithin : GivenWithin options.groupSize 1 32 := by
      rcases h.groupSize with hsize | ⟨habsent, -⟩
      · obtain ⟨hhigh, hlow⟩ := h.groupSize_bounds
        exact .inr ⟨_, hsize, hlow.2 (.inl (by rw [hsize]; exact nofun)), hhigh⟩
      · exact .inl habsent
    have hsize : conf.groupSize =
        (ofChecked options conf.tos conf.destination conf.source).groupSize :=
      (eq_groupSize_ofChecked_iff hwithin).2 (h.count ▸ h.groupSize)
    have hgiven : conf.groupSizeGiven = decide (options.groupSize ≠ .absent) := by
      rw [Bool.eq_iff_iff, decide_eq_true_iff]
      exact h.groupSizeGiven
    refine ⟨hwithin, ⟨h.tos, h.tos_bounds⟩, h.source, h.versions, ?_⟩
    obtain ⟨destination, source, count, groupSize, groupSizeGiven, tos, spin⟩ := conf
    rw [RunConfig.mk.injEq]
    exact ⟨rfl, rfl, h.count, hsize, hgiven, rfl, h.spin⟩
  · rintro ⟨hwithin, htos, hsource, hversions, hconf⟩
    have hcount : conf.count = numberOr0 options.count := congrArg RunConfig.count hconf
    have hspin : conf.spin = options.spin := congrArg RunConfig.spin hconf
    have hgiven : conf.groupSizeGiven = decide (options.groupSize ≠ .absent) :=
      congrArg RunConfig.groupSizeGiven hconf
    have hsize := (eq_groupSize_ofChecked_iff hwithin).1 (congrArg RunConfig.groupSize hconf)
    rw [← hcount] at hsize
    refine ⟨hcount, hspin, htos.1, htos.2, hsource, hversions, ?_, hsize, ?_,
      groupSize_bounds_of_within hwithin hsize⟩
    · rw [hgiven]
      exact decide_eq_true_iff
    · intro habsent hne
      rw [perSocketCount, if_neg hne]
      rcases hsize with hsize | ⟨-, hsize⟩
      · cases habsent.symm.trans hsize
      · rw [hsize, if_neg hne]
        exact Int.min_le_right 8 conf.count

end Permits

/-- A configuration is settled exactly if the addresses resolve to its endpoints and it is one that
the options ask for. -/
theorem ofOptions_eq_ok_iff (resolve : Host → Probe Endpoint) (options : Options)
    (conf : RunConfig) (s t : State) :
    ofOptions resolve options s = .ok conf t ↔
      (∃ u, resolve (.named options.destination) s = .ok conf.destination u ∧
        resolveSource resolve options.source u = .ok conf.source t) ∧ options.Permits conf := by
  simp only [ofOptions_eq, bind_eq_ok_iff, permits_iff]
  constructor
  · rintro ⟨_, _, hsize, tos, _, htos, destination, u, hdestination, source, _, hsource, _, _,
      hversions, hconf⟩
    obtain ⟨hwithin, rfl⟩ := checkGroupSize_eq_ok_iff.1 hsize
    obtain ⟨hbyte, rfl⟩ := checkTos_eq_ok_iff.1 htos
    obtain ⟨hsame, rfl⟩ := checkFamilies_eq_ok_iff.1 hversions
    cases hconf
    have hgiven := (resolveSource_spec resolve options.source u).of_ok hsource
    exact ⟨⟨u, hdestination, hsource⟩, hwithin, hbyte, hgiven, hsame, rfl⟩
  · rintro ⟨⟨u, hdestination, hsource⟩, hwithin, hbyte, -, hsame, hconf⟩
    exact ⟨(), s, checkGroupSize_eq_ok_iff.2 ⟨hwithin, rfl⟩, conf.tos, s,
      checkTos_eq_ok_iff.2 ⟨hbyte, rfl⟩, conf.destination, u, hdestination, conf.source, t, hsource,
      (), t, checkFamilies_eq_ok_iff.2 ⟨hsame, rfl⟩,
      congrArg (EStateM.Result.ok · t) hconf.symm⟩

/-- A negative number of packets is let through, and the group is to have as many sockets. -/
theorem ofOptions_negative :
    let resolve : Host → Probe Endpoint := fun _ => pure { address := .v4 ⟨192, 0, 2, 7⟩ }
    let options : Options := { destination := "192.0.2.7", count := .value (-1) }
    ∃ conf, ofOptions resolve options { world := {} } = .ok conf { world := {} } ∧
      conf.groupSize = -1 := ⟨_, rfl, rfl⟩

end RunConfig

end RdsReach
