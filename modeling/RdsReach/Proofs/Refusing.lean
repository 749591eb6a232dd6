import RdsReach.Proofs.AnyOrder
import RdsReach.Proofs.Attending
import RdsReach.Proofs.Numerals
import RdsReach.Proofs.Settling

/-!
# How options are refused

Options are settled in an order: the size of the group, the type of service, the destination, the
source, the versions of the two. `Options.Ends` has one rule for each way in which that can end, and
by `RunConfig.ofOptions_eq_iff_ends` the outcome is always the one of these rules.

A number that is out of its range is refused before anything is looked up, on the command line as
well. Where it has too many digits to be printed, the refusal cannot be worded, and the program ends
as after something unexpected.
-/

namespace RdsReach

open RunConfig (GivenWithin)

/-! ## Numbers out of range -/

/-- What the refusal of a configuration comes to: a number in it that is too long to print takes the
place of the refusal. -/
def Failure.refusal (rule : Rule) (about : Complaint) : Failure :=
  if about.numbers.all Decimal.isPrintable then .refused rule about else .overlong

/-- A number among the options is out of its range, and no number that is checked before it is. -/
inductive Options.OutOfRange (options : Options) : Rule → Complaint → Prop where
  | groupSize {n : Int} (h : options.groupSize = .value n) (hout : n < 1 ∨ 32 < n) :
      options.OutOfRange .groupSize (.socketCount n)
  | tos {n : Int} (hsize : GivenWithin options.groupSize 1 32) (h : options.tos = .value n)
      (hout : n < 0 ∨ 255 < n) : options.OutOfRange .tosRange (.tosValue n)

/-- All numbers among the options that are checked are within their ranges. -/
structure Options.InRange (options : Options) : Prop where
  groupSize : GivenWithin options.groupSize 1 32
  tos : GivenWithin options.tos 0 255

/-- Options of which every number is a number are in range, or one of them is not. -/
theorem Options.inRange_or_outOfRange {options : Options} (hsize : options.groupSize ≠ .blank)
    (htos : options.tos ≠ .blank) :
    options.InRange ∨ ∃ rule about, options.OutOfRange rule about := by
  have hwithin {setting : Setting Int} (hblank : setting ≠ .blank) (low high : Int) :
      GivenWithin setting low high ∨ ∃ n, setting = .value n ∧ (n < low ∨ high < n) := by
    cases setting with
    | absent => exact .inl (.inl rfl)
    | blank => exact absurd rfl hblank
    | value n =>
      by_cases hn : low ≤ n ∧ n ≤ high
      · exact .inl (.inr ⟨n, rfl, hn⟩)
      · exact .inr ⟨n, rfl, by omega⟩
  rcases hwithin hsize 1 32 with hsize | ⟨n, hn, hout⟩
  · rcases hwithin htos 0 255 with htos | ⟨n, hn, hout⟩
    · exact .inl ⟨hsize, htos⟩
    · exact .inr ⟨_, _, .tos hsize hn hout⟩
  · exact .inr ⟨_, _, .groupSize hn hout⟩

/-! ## Settling -/

namespace RunConfig

open Probe

variable {resolve : Host → Probe Endpoint} {options : Options} {s : State} {rule : Rule}
  {about : Complaint}

/-- The host of a source that is asked for. -/
def sourceHost? : Setting String → Option Host
  | .absent => none
  | .blank => some .blank
  | .value text => some (.named text)

theorem resolveSource_of_none {source : Setting String} (h : sourceHost? source = none) :
    resolveSource resolve source = pure none := by
  cases source with
  | absent => rfl
  | blank => cases h
  | value text => cases h

theorem resolveSource_of_some {source : Setting String} {host : Host}
    (h : sourceHost? source = some host) :
    resolveSource resolve source = some <$> resolve host := by
  cases source <;> cases h <;> rfl

/-- A number out of its range is refused before anything is resolved. -/
theorem ofOptions_of_outOfRange (h : options.OutOfRange rule about) :
    ofOptions resolve options s = .error (.refusal rule about) s := by
  rw [ofOptions_eq]
  cases h with
  | @groupSize n hsize hout =>
    have hcheck : checkGroupSize options.groupSize s =
        .error (.refusal .groupSize (.socketCount n)) s := by
      rw [hsize, checkGroupSize, if_neg]
      · rfl
      · rw [isGroupSize_iff]
        omega
    exact bind_of_error hcheck _
  | @tos n hsize htos hout =>
    have hcheck : checkTos options.tos s = .error (.refusal .tosRange (.tosValue n)) s := by
      rw [htos, checkTos, if_neg]
      · rfl
      · rw [isTos_iff]
        omega
    rw [bind_of_ok (checkGroupSize_eq_ok_iff.2 ⟨hsize, rfl⟩)]
    exact bind_of_error hcheck _

/-- Past the numbers the addresses are resolved, and then compared. -/
theorem ofOptions_of_inRange (h : options.InRange) :
    ofOptions resolve options s = (do
      let destination ← resolve (.named options.destination)
      let source ← resolveSource resolve options.source
      checkFamilies source destination
      return ofChecked options (numberOr0 options.tos) destination source) s := by
  have hcheck : checkTos options.tos s = .ok (numberOr0 options.tos) s := by
    rw [checkTos_eq_ok_iff]
    rcases h.tos with htos | ⟨n, htos, hn⟩
    · exact ⟨⟨.inl ⟨htos, by rw [htos]; rfl⟩, by rw [htos]; decide⟩, rfl⟩
    · exact ⟨⟨.inr (by rw [htos]; rfl), by rw [htos]; exact hn⟩, rfl⟩
  rw [ofOptions_eq, bind_of_ok (checkGroupSize_eq_ok_iff.2 ⟨h.groupSize, rfl⟩), bind_of_ok hcheck]

end RunConfig

open RunConfig in
/-- How settling options ends. -/
inductive Options.Ends (options : Options) (resolve : Host → Probe Endpoint) (s : State) :
    EStateM.Result Failure State RunConfig → Prop where
  /-- Nothing is resolved, and the state is as it was. -/
  | outOfRange {rule : Rule} {about : Complaint} (h : options.OutOfRange rule about) :
      options.Ends resolve s (.error (.refusal rule about) s)
  | destination {f : Failure} {t : State} (hrange : options.InRange)
      (h : resolve (.named options.destination) s = .error f t) :
      options.Ends resolve s (.error f t)
  | source {destination : Endpoint} {host : Host} {f : Failure} {t u : State}
      (hrange : options.InRange)
      (hdestination : resolve (.named options.destination) s = .ok destination t)
      (hsource : sourceHost? options.source = some host) (h : resolve host t = .error f u) :
      options.Ends resolve s (.error f u)
  | versions {destination source : Endpoint} {host : Host} {t u : State}
      (hrange : options.InRange)
      (hdestination : resolve (.named options.destination) s = .ok destination t)
      (hsource : sourceHost? options.source = some host) (h : resolve host t = .ok source u)
      (hversions : source.version ≠ destination.version) :
      options.Ends resolve s
        (.error (.refused .familyMatch (.families source.version destination.version)) u)
  | settled {destination source : Endpoint} {host : Host} {t u : State}
      (hrange : options.InRange)
      (hdestination : resolve (.named options.destination) s = .ok destination t)
      (hsource : sourceHost? options.source = some host) (h : resolve host t = .ok source u)
      (hversions : source.version = destination.version) :
      options.Ends resolve s
        (.ok (ofChecked options (numberOr0 options.tos) destination (some source)) u)
  | settledAlone {destination : Endpoint} {t : State} (hrange : options.InRange)
      (hdestination : resolve (.named options.destination) s = .ok destination t)
      (hsource : sourceHost? options.source = none) :
      options.Ends resolve s
        (.ok (ofChecked options (numberOr0 options.tos) destination none) t)

namespace RunConfig

open Probe

variable {resolve : Host → Probe Endpoint} {options : Options} {s : State}

/-- Settling ends by the rules. -/
theorem ofOptions_of_ends {r : EStateM.Result Failure State RunConfig}
    (h : options.Ends resolve s r) : ofOptions resolve options s = r := by
  cases h with
  | outOfRange h => exact ofOptions_of_outOfRange h
  | destination hrange h =>
    rw [ofOptions_of_inRange hrange]
    exact bind_of_error h _
  | source hrange hdestination hsource h =>
    rw [ofOptions_of_inRange hrange, bind_of_ok hdestination, resolveSource_of_some hsource]
    exact bind_of_error (map_of_error h _) _
  | versions hrange hdestination hsource h hversions =>
    rw [ofOptions_of_inRange hrange, bind_of_ok hdestination, resolveSource_of_some hsource,
      bind_of_ok (map_of_ok h some), checkFamilies, if_neg hversions]
    rfl
  | settled hrange hdestination hsource h hversions =>
    rw [ofOptions_of_inRange hrange, bind_of_ok hdestination, resolveSource_of_some hsource,
      bind_of_ok (map_of_ok h some), checkFamilies, if_pos hversions]
    rfl
  | settledAlone hrange hdestination hsource =>
    rw [ofOptions_of_inRange hrange, bind_of_ok hdestination, resolveSource_of_none hsource]
    rfl

/-- There is a rule for every end of settling. -/
theorem exists_ends (hsize : options.groupSize ≠ .blank) (htos : options.tos ≠ .blank) :
    ∃ r, options.Ends resolve s r := by
  rcases Options.inRange_or_outOfRange hsize htos with hrange | ⟨rule, about, hout⟩
  · cases hdestination : resolve (.named options.destination) s with
    | error f t => exact ⟨_, .destination hrange hdestination⟩
    | ok destination t =>
      cases hsource : sourceHost? options.source with
      | none => exact ⟨_, .settledAlone hrange hdestination hsource⟩
      | some host =>
        cases h : resolve host t with
        | error f u => exact ⟨_, .source hrange hdestination hsource h⟩
        | ok source u =>
          by_cases hversions : source.version = destination.version
          · exact ⟨_, .settled hrange hdestination hsource h hversions⟩
          · exact ⟨_, .versions hrange hdestination hsource h hversions⟩
  · exact ⟨_, .outOfRange hout⟩

/-- Settling options of which every number is a number ends by the rules, and in no other way. -/
theorem ofOptions_eq_iff_ends (hsize : options.groupSize ≠ .blank) (htos : options.tos ≠ .blank)
    {r : EStateM.Result Failure State RunConfig} :
    ofOptions resolve options s = r ↔ options.Ends resolve s r := by
  refine ⟨?_, ofOptions_of_ends⟩
  rintro rfl
  obtain ⟨r, hr⟩ : ∃ r, options.Ends resolve s r := exists_ends hsize htos
  rw [ofOptions_of_ends hr]
  exact hr

end RunConfig

/-! ## Command lines -/

namespace CommandLine

/-- A last value of the options is a numeral of a number out of its range, and no number that is
checked before it is. -/
inductive Overruns (last : Opt → Option String) : Rule → Complaint → Prop where
  | sockets {text : String} {n : Nat} (h : last .sockets = some text)
      (hread : Numeral.read text = .ok n) (hout : n < 1 ∨ 32 < n) :
      Overruns last .groupSize (.socketCount n)
  | tos {text : String} {n : Nat}
      (hsockets : ∀ text, last .sockets = some text →
        ∃ n, Numeral.read text = .ok n ∧ 1 ≤ n ∧ n ≤ 32)
      (h : last .tos = some text) (hread : Numeral.read text = .ok n) (hout : 255 < n) :
      Overruns last .tosRange (.tosValue n)

/-- An option whose last value is a numeral has that number. -/
theorem number_of_said {setting : Setting Nat} {text : String} {n : Nat}
    (h : setting.Says IsNumeral (some text)) (hread : Numeral.read text = .ok n) :
    number setting = .value n := by
  cases h with
  | blank => exact absurd rfl (ne_mark_of_read hread)
  | value hmark hnumeral =>
    obtain rfl := Except.ok.inj (hnumeral.symm.trans hread)
    rfl

/-- What is out of range on the command line is out of range among the options. -/
theorem outOfRange_of_overruns {a : Arguments} {last : Opt → Option String} {rule : Rule}
    {about : Complaint} (hsaid : a.settings.Says last) (h : Overruns last rule about) :
    a.options.OutOfRange rule about := by
  have hlast {given : Option String} {text : String} {setting : Setting Nat} {n : Nat}
      (hmeans : setting.Says IsNumeral given) (hgiven : given = some text)
      (hread : Numeral.read text = .ok n) : number setting = .value n := by
    rw [hgiven] at hmeans
    exact number_of_said hmeans hread
  cases h with
  | sockets h hread hout =>
    exact .groupSize (hlast hsaid.sockets h hread) (by omega)
  | tos hsockets h hread hout =>
    refine .tos ?_ (hlast hsaid.tos h hread) (by omega)
    cases hsize : last .sockets with
    | none =>
      have hmeans := hsaid.sockets
      rw [hsize] at hmeans
      left
      change number a.settings.sockets = .absent
      generalize a.settings.sockets = setting at hmeans
      cases hmeans
      rfl
    | some text =>
      obtain ⟨n, hn, hlow, hhigh⟩ := hsockets text hsize
      exact .inr ⟨n, hlast hsaid.sockets hsize hn, by omega⟩

end CommandLine

namespace Program

open Probe CommandLine

variable {arguments : List String} {a : Arguments} {rule : Rule} {about : Complaint}

/-- What is said where the program ends after something that it does not tell the user about. -/
def unexpected : Entry := .message .ending .error "Unexpected exception encountered"

/-- How the program ends after a refusal: nothing was looked up and no socket was touched. The user
is told how to use the program and what was wrong, unless that cannot be worded. -/
structure EndsRefused (about : Complaint) (ended : Ended) : Prop where
  status : ended.status = 1
  lookups : ended.final.lookups = #[]
  trace : ended.final.trace = []
  told : if about.numbers.all Decimal.isPrintable then
      ended.errors = complaint about.text ∧ ended.final.journal = #[]
    else ended.errors = "" ∧ ended.final.journal = #[unexpected]

/-- A number out of its range ends the program. -/
theorem run_of_outOfRange (hread : read arguments = .ok a) (h : a.options.OutOfRange rule about)
    (world : World) : EndsRefused about (run arguments world) := by
  have hrefused : RunConfig.ofOptions resolve a.options { world } =
      .error (.refusal rule about) { world } := RunConfig.ofOptions_of_outOfRange h
  have hconfigure := configureAndExecute_of_error hrefused
  rw [run_of_read hread, perform, tryCatch_apply, hconfigure, Failure.refusal]
  by_cases hshort : about.numbers.all Decimal.isPrintable = true
  · rw [if_pos hshort]
    refine ⟨rfl, rfl, rfl, ?_⟩
    rw [if_pos hshort]
    exact ⟨rfl, rfl⟩
  · rw [if_neg hshort]
    refine ⟨rfl, rfl, rfl, ?_⟩
    rw [if_neg hshort]
    exact ⟨rfl, rfl⟩

/-- Options are settled by the rules, whatever the resolver. A command line on which the last value
of an option is out of range ends the program with nothing done and the status 1, and with the
refusal told, unless the number has too many digits to be printed. -/
theorem run_refuses (resolve : Host → Probe Endpoint) (s : State) (world : World) :
    (∀ (options : Options) (r : EStateM.Result Failure State RunConfig),
      options.groupSize ≠ .blank → options.tos ≠ .blank →
        (RunConfig.ofOptions resolve options s = r ↔ options.Ends resolve s r)) ∧
      ∀ (arguments : List String) (a : Arguments) (ps : List Piece) (rule : Rule)
        (about : Complaint),
        read arguments = .ok a → pieces arguments = .ok ps →
          Overruns (lastGiven (given none ps)) rule about →
            EndsRefused about (run arguments world) := by
  refine ⟨fun options r hsize htos => RunConfig.ofOptions_eq_iff_ends hsize htos, ?_⟩
  intro arguments a ps rule about hread hps hout
  obtain ⟨ps', hps', hsaid, -⟩ := read_values hread
  obtain rfl := Except.ok.inj (hps.symm.trans hps')
  exact run_of_outOfRange hread (outOfRange_of_overruns hsaid hout) world

/-- A type of service is too large, and the size of the group is right. -/
theorem run_refuses_tos :
    let arguments := ["-Q", "0x100", "-n", "4", "192.0.2.7"]
    let settings : Settings := { sockets := .value 4, tos := .value 256 }
    read arguments = .ok { destination := "192.0.2.7", settings } ∧
      EndsRefused (.tosValue 256) (run arguments {}) := by
  intro arguments settings
  have hread : read arguments = .ok { destination := "192.0.2.7", settings } := by decide
  have hpieces : pieces arguments = .ok [.opt .tos none, .plain "0x100", .opt .sockets none,
      .plain "4", .plain "192.0.2.7"] := by decide
  set last := lastGiven (given none [.opt .tos none, .plain "0x100", .opt .sockets none, .plain "4",
    .plain "192.0.2.7"]) with hlast
  have htos : last .tos = some "0x100" := by decide
  have hsockets : ∀ text, last .sockets = some text →
      ∃ n, Numeral.read text = .ok n ∧ 1 ≤ n ∧ n ≤ 32 := by
    rintro _ ⟨⟩
    exact ⟨4, by decide, by decide, by decide⟩
  have hrefuses := (run_refuses resolve { world := {} } {}).2
  refine ⟨hread, hrefuses arguments _ _ .tosRange _ hread hpieces ?_⟩
  exact .tos hsockets htos (n := 256) (by decide) (by decide)

end Program

/-! ## Numbers that cannot be printed -/

namespace Numeral

/-- A one and zeros after it are a power of the base. -/
theorem ofDigits_one_zeros (base k : Nat) :
    ofDigits base ('1' :: List.replicate k '0') = base ^ k := by
  induction k with
  | zero => simp [ofDigits, digitValue]
  | succ k ih =>
    have hzero : digitValue '0' = 0 := rfl
    rw [List.replicate_succ', ← List.cons_append, ofDigits_concat, ih, hzero, Nat.add_zero,
      Nat.pow_succ]

/-- A power of 16 is read from its hexadecimal digits, however many there are. -/
theorem read_hexPower (k : Nat) :
    read (String.ofList ('0' :: 'x' :: '1' :: List.replicate k '0')) = .ok (16 ^ k) := by
  have hdigits : ('1' :: List.replicate k '0').all isHexDigit = true := by
    rw [List.all_cons, List.all_replicate]
    split <;> rfl
  apply read_of_number
  apply Number.hex (.inl rfl) _ (List.cons_ne_nil _ _)
  exact (positional_iff isDigitOf_hex).2 ⟨hdigits, (ofDigits_one_zeros 16 k).symm⟩

end Numeral

namespace CommandLine

/-- A command line that asks for a number of sockets. -/
theorem read_sockets {text : String} {n : Nat} (hplain : IsPlain text) (hread : IsNumeral text n) :
    read ["-n", text, "192.0.2.7"] = .ok ⟨"192.0.2.7", { sockets := .value n }⟩ := by
  have hplaced : Placed [.number .sockets text n, .destination "192.0.2.7"] "192.0.2.7" := by
    refine ⟨?_, rfl, .inl (by simp)⟩
    simp only [List.forall_mem_cons]
    exact ⟨.number rfl hplain hread, .destination (by decide), nofun⟩
  exact read_of_placed hplaced

end CommandLine

theorem Decimal.not_isPrintable {n : Nat} (h : limit ≤ n) : isPrintable n = false := by
  rw [Bool.eq_false_iff, Ne, isPrintable_iff, Int.natAbs_natCast, Nat.not_lt]
  exact h

namespace Program

open CommandLine

/-- A power of 16 that is too long to print is given as the number of sockets. -/
theorem run_of_hexPower {k : Nat} (hlong : Decimal.limit ≤ 16 ^ k) (hlarge : 32 < 16 ^ k)
    (world : World) :
    let text := String.ofList ('0' :: 'x' :: '1' :: List.replicate k '0')
    let ended := run ["-n", text, "192.0.2.7"] world
    Numeral.read text = .ok (16 ^ k) ∧ ended.errors = "" ∧ ended.final.journal = #[unexpected] := by
  intro text ended
  have hread : Numeral.read text = .ok (16 ^ k) := Numeral.read_hexPower k
  have hplain : IsPlain text := by
    rw [IsPlain, String.toList_ofList, List.head?_cons]
    decide
  have hends : EndsRefused (.socketCount (16 ^ k : Nat)) ended :=
    run_of_outOfRange (read_sockets hplain hread)
      (.groupSize rfl (.inr (Int.ofNat_lt.2 hlarge))) world
  have htold := hends.told
  rw [if_neg (by simp only [Complaint.numbers, List.all_cons, Decimal.not_isPrintable hlong,
    Bool.false_and, Bool.false_eq_true, not_false_eq_true])] at htold
  exact ⟨hread, htold⟩

/-- A number of sockets with more than 4300 decimal digits is a numeral and out of range, and is not
refused as such: the user is told nothing about it. -/
theorem run_unrefused :
    let text := String.ofList ('0' :: 'x' :: '1' :: List.replicate 3572 '0')
    let ended := run ["-n", text, "192.0.2.7"] {}
    (∃ n, Numeral.read text = .ok n ∧ 32 < n) ∧ ended.errors = "" ∧
      ended.final.journal = #[unexpected] := by
  have hlarge : 32 < 16 ^ 3572 := by decide +kernel
  obtain ⟨hread, hended⟩ := run_of_hexPower (k := 3572) (by decide +kernel) hlarge {}
  exact ⟨⟨_, hread, hlarge⟩, hended⟩

end Program

end RdsReach
