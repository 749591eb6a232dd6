import RdsReach.Proofs.Given
import RdsReach.Proofs.Program

/-!
# What a command line lets through

A command line is refused, with nothing done and a status that says so, or it comes to a
configuration within bounds. None of the bounds on the number of packets is checked anywhere: there
is no numeral of a negative number, and a number of packets is the numeral that was given or 0.

One value is let through that is no numeral: the end mark `--` that is joined to an option. As a
number of packets it counts like none; the options for the size of the group and for the type of
service refuse it later.
-/

namespace RdsReach

open CommandLine

namespace CommandLine

/-- The command line has a value that is no numeral where there has to be one, or flags that exclude
each other. -/
def Refused (ps : List Piece) : Prop :=
  (∃ v ∈ given none ps, v.1.takesNumber = true ∧ v.2 ≠ "--" ∧ ∀ n, Numeral.read v.2 ≠ .ok n) ∨
    .opt .verbose none ∈ ps ∧ .opt .quiet none ∈ ps

/-- The exit status of an ending. -/
def Ending.status : Ending → Nat
  | .wrong _ => 1
  | _ => 0

/-- The number is the last value of an option, or the default one if there is none. -/
def Gives (last : Option String) (default n : Int) : Prop :=
  last = none ∧ n = default ∨ ∃ text m, last = some text ∧ Numeral.read text = .ok m ∧ n = m

/-- The configuration is one that the last values of the options, `last`, let through. -/
structure Admitted (last : Opt → Option String) (conf : RunConfig) : Prop where
  /-- The end mark counts like no number of packets. -/
  count : Gives (last .count) 0 conf.count ∧ 0 ≤ conf.count ∨
    last .count = some "--" ∧ conf.perSocketCount = 1
  perSocketCount : 1 ≤ conf.perSocketCount ∧
    (conf.count ≠ 0 → conf.perSocketCount = conf.count)
  /-- There are 8 sockets, or less if less packets are sent, unless their number is given. -/
  groupSize : Gives (last .sockets)
    (if conf.count ≠ 0 ∧ conf.count < 8 then conf.count else 8) conf.groupSize
  groupSize_bounds : 1 ≤ conf.groupSize ∧ conf.groupSize ≤ 32
  tos : Gives (last .tos) 0 conf.tos
  tos_bounds : 0 ≤ conf.tos ∧ conf.tos ≤ 255
  source : last .source ≠ none →
    ∃ src, conf.source = some src ∧ src.version = conf.destination.version

theorem not_refused_of_read {arguments : List String} {a : Arguments} {ps : List Piece}
    (h : read arguments = .ok a) (hps : pieces arguments = .ok ps) : ¬ Refused ps := by
  intro hrefused
  rcases hrefused with ⟨v, hv, hnumber, hmark, hno⟩ | hboth
  · obtain ⟨ps', hps', -, hnumerals⟩ := read_values h
    obtain rfl := Except.ok.inj (hps.symm.trans hps')
    rcases hnumerals v hv hnumber with hv | ⟨n, hn⟩
    · exact hmark hv
    · exact hno n hn
  · exact (read_flags h hps).2.2 hboth

/-- An option with a last value is given, as a number or as the end mark. -/
theorem gives_of_said {last : Option String} {setting : Setting Nat}
    (h : setting.Says IsNumeral last) {default n : Int}
    (hn : number setting = .absent ∧ n = default ∨ number setting = .value n) :
    Gives last default n := by
  cases h with
  | absent =>
    rcases hn with ⟨-, hn⟩ | hn
    · exact .inl ⟨rfl, hn⟩
    · cases hn
  | blank =>
    rcases hn with ⟨hn, -⟩ | hn
    · cases hn
    · cases hn
  | value hmark hnumeral =>
    rcases hn with ⟨hn, -⟩ | hn
    · cases hn
    · cases hn
      exact .inr ⟨_, _, rfl, hnumeral, rfl⟩

theorem impliedGroupSize_eq (count : Int) :
    RunConfig.impliedGroupSize count = if count ≠ 0 ∧ count < 8 then count else 8 := by
  show (if (decide (count ≠ 0) && decide (count < 8)) = true then count else 8) = _
  simp

/-- What is settled of a command line keeps to its last values. -/
theorem admitted_of_settles {a : Arguments} {last : Opt → Option String} {conf : RunConfig}
    (hsaid : a.settings.Says last) (h : a.options.Settles conf) : Admitted last conf := by
  have hchecked : conf.Checked := h.checked a.count_nonneg
  have hcount : conf.count = RunConfig.numberOr0 (number a.settings.count) := h.count_eq
  refine ⟨?_, ?_, ?_, hchecked.size, gives_of_said hsaid.tos h.tos,
    RunConfig.isTos_iff.1 hchecked.tos, ?_⟩
  · have hnonneg := hchecked.count_nonneg
    have hlast := hsaid.count
    generalize a.settings.count = setting at hcount hlast
    generalize last .count = given at hlast
    cases hlast with
    | absent => exact .inl ⟨.inl ⟨rfl, hcount⟩, hnonneg⟩
    | blank => exact .inr ⟨rfl, if_pos hcount⟩
    | value hmark hnumeral => exact .inl ⟨.inr ⟨_, _, rfl, hnumeral, hcount⟩, hnonneg⟩
  · exact ⟨hchecked.perSocketCount_pos, fun hne => if_neg hne⟩
  · apply gives_of_said hsaid.sockets
    rw [← impliedGroupSize_eq]
    exact h.groupSize.imp id And.left
  · intro hgiven
    have hsource : conf.source ≠ none := by
      intro hnone
      have habsent : a.settings.source = .absent := h.source_eq_none_iff.1 hnone
      have hlast := hsaid.source
      rw [habsent] at hlast
      generalize last .source = given at hgiven hlast
      cases hlast
      exact hgiven rfl
    obtain ⟨src, hsrc⟩ := Option.ne_none_iff_exists'.1 hsource
    exact ⟨src, hsrc, h.versions src hsrc⟩

end CommandLine

namespace Program

open Probe

/-- A command line that cannot be read ends the program before anything is done. -/
theorem run_of_unread {arguments : List String} {e : Ending} (h : read arguments = .error e)
    (world : World) : (run arguments world).final = { world } ∧
      (run arguments world).status = e.status := by
  rw [run, h]
  cases e <;> exact ⟨rfl, rfl⟩

/-- Every command line is refused with a status that says so and with nothing done, or is read. The
status 0 is kept for those that ask for help or the version. One that is read gives its options
nothing that they do not take, and whatever it is settled to is within bounds and as it says. -/
theorem run_admits (arguments : List String) (world : World) :
    (match read arguments with
      | .error e => (run arguments world).final = { world } ∧
          (run arguments world).status = e.status ∧
          ∀ o, e.asked? = some o → ∃ ps, pieces arguments = .ok ps ∧ .opt o none ∈ ps
      | .ok a => ∃ ps, pieces arguments = .ok ps ∧ ¬ Refused ps ∧
          ∀ resolve s conf t, RunConfig.ofOptions resolve a.options s = .ok conf t →
            Admitted (lastGiven (given none ps)) conf) ∧
      ∀ ps, pieces arguments = .ok ps → Refused ps → (run arguments world).final = { world } ∧
        ((run arguments world).status = 1 ∨ .opt .help none ∈ ps ∨ .opt .version none ∈ ps) := by
  constructor
  · split
    · next e h =>
      obtain ⟨hfinal, hstatus⟩ := run_of_unread h world
      exact ⟨hfinal, hstatus, fun o ho => asked_of_read h ho⟩
    · next a h =>
      obtain ⟨ps, hps, hsaid, -⟩ := read_values h
      refine ⟨ps, hps, not_refused_of_read h hps, fun resolve s conf t hconf => ?_⟩
      exact admitted_of_settles hsaid ((ofOptions_settles resolve a.options s).of_ok hconf)
  · intro ps hps hrefused
    cases h : read arguments with
    | ok a => exact absurd hrefused (not_refused_of_read h hps)
    | error e =>
      obtain ⟨hfinal, hstatus⟩ := run_of_unread h world
      refine ⟨hfinal, ?_⟩
      have hasked {o : Opt} (ho : e.asked? = some o) : .opt o none ∈ ps := by
        obtain ⟨ps', hps', hmem⟩ := asked_of_read h ho
        rwa [Except.ok.inj (hps.symm.trans hps')]
      cases e with
      | help => exact .inr (.inl (hasked rfl))
      | version => exact .inr (.inr (hasked rfl))
      | wrong x => exact .inl hstatus

/-- The end mark that is joined to an option is no numeral, and yet is let through as a number of
packets. -/
theorem run_admits_mark :
    let arguments := ["--count=--", "192.0.2.7"]
    let a : Arguments := { destination := "192.0.2.7", settings := { count := .blank } }
    let resolve : Host → Probe Endpoint := fun _ => pure { address := .v4 ⟨192, 0, 2, 7⟩ }
    (∃ ps, pieces arguments = .ok ps ∧ (.count, "--") ∈ given none ps) ∧
      (∀ n, Numeral.read "--" ≠ .ok n) ∧ read arguments = .ok a ∧
      ∃ conf t, RunConfig.ofOptions resolve a.options { world := {} } = .ok conf t := by
  intro arguments a resolve
  have hpieces : pieces arguments = .ok [.opt .count (some "--"), .plain "192.0.2.7"] := by decide
  refine ⟨⟨_, hpieces, by decide⟩, fun n => ?_, by decide, _, _, rfl⟩
  have hread : Numeral.read "--" = .error (.notANumber "--") := by decide
  rw [hread]
  exact nofun

end Program

end RdsReach
