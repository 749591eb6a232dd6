import RdsReach.Proofs.Lives
import RdsReach.Proofs.Program

/-!
# No socket is left open

Where closing a socket works, and binding it or giving it a type of service fails only in ways that
are reported, every socket that the program opens is closed once, as the last thing that happens to
it. All other calls may fail in any way, and the program may end with any status.
-/

namespace RdsReach

/-- A run in which no call left a socket open has closed all that it opened. -/
theorem Conducted.closes {conf : RunConfig} {es : List Event}
    {o : Option (Except Failure (Option SendFailure) × List ProbeSocket)} (h : Conducted conf es o)
    (hchecked : conf.Checked) (hfaults : ∀ g c f, .call g c (some f) ∈ es → ¬ LeavesOpen c f)
    {kind : SocketKind} {fd : Nat} (hopened : .opened kind fd ∈ es) :
    ∃ cs, eventsAt fd es = .opened kind fd :: eventsOn fd (cs ++ [(.close, none)]) ∧
      ∀ c ∈ cs, c.1 ≠ .close := by
  have hclosed {cs : List (Call × Option Fault)} {f : Option Fault}
      (hevents : eventsAt fd es = .opened kind fd :: eventsOn fd (cs ++ [(.close, f)])) :
      f = none := by
    -- a close that failed would leave the socket open
    have hmem : .call fd .close f ∈ eventsAt fd es := by simp [hevents, eventsOn]
    cases f with
    | none => rfl
    | some f => exact absurd trivial (hfaults fd .close f (List.mem_of_mem_filter hmem))
  cases kind with
  | udp v =>
    obtain ⟨cs, f, hcs, hevents⟩ := h.helper hopened
    obtain rfl := hclosed hevents
    exact ⟨cs, hevents, fun c hc => Call.ne_close_of_isRoute (hcs c hc)⟩
  | rds =>
    obtain ⟨l, hlived, -⟩ := h.life hchecked hopened
    cases hclose : l.close with
    | some f =>
      obtain ⟨cs, hcalls, hcs⟩ := Life.calls_eq_of_close conf hclose
      have hevents := hlived.events_eq
      rw [hcalls] at hevents
      obtain rfl := hclosed hevents
      exact ⟨cs, hevents, hcs⟩
    | none =>
      obtain ⟨g, c, f, hmem, hleaves⟩ := hlived.left_open hclose
      exact absurd hleaves (hfaults g c f hmem)

namespace Program

/-- The faults of the calls of a run were raised by the world. -/
theorem Ran.raised {arguments : List String} {world : World} {ended : Ended}
    (h : Ran arguments world ended) {fd : Nat} {c : Call} {f : Fault}
    (hf : .call fd c (some f) ∈ ended.final.trace) : world.Raises c f := by
  obtain ⟨es, hes, hraises⟩ := h.follows.added
  rw [show State.trace { world } = [] from rfl, List.nil_append] at hes
  exact hraises fd c f (hes ▸ hf)

/-- Every socket that is opened is closed once, with success, and nothing happens to it
afterwards. -/
theorem run_closes (arguments : List String) {world : World}
    (hcloses : ∀ f, ¬ world.Raises .close f)
    (hbinds : ∀ address f, world.Raises (.bind address) f →
      f.isReportable Fault.isSystemOrIllTyped = true)
    (htos : ∀ byte f, world.Raises (.setTos byte) f → f.isReportable Fault.isSystem = true)
    {kind : SocketKind} {fd : Nat}
    (hopened : .opened kind fd ∈ (run arguments world).final.trace) :
    ∃ cs, eventsAt fd (run arguments world).final.trace =
        .opened kind fd :: eventsOn fd (cs ++ [(.close, none)]) ∧ ∀ c ∈ cs, c.1 ≠ .close := by
  have hran := run_spec arguments world
  cases hconf : configured arguments world with
  | none =>
    rw [hran.unconfigured hconf] at hopened
    cases hopened
  | some conf =>
    obtain ⟨o, hconducted, -⟩ := hran.conducted conf hconf
    refine hconducted.closes (checked_of_configured hconf) (fun g c f hmem hleaves => ?_) hopened
    -- the fault of a call that leaves a socket open is one that the world does not raise
    have hraised := hran.raised hmem
    cases c with
    | close => exact hcloses f hraised
    | bind address =>
      rw [LeavesOpen, hbinds address f hraised] at hleaves
      cases hleaves
    | setTos byte =>
      rw [LeavesOpen, htos byte f hraised] at hleaves
      cases hleaves
    | _ => exact hleaves

/-- The second socket of a run cannot be bound, and is closed. -/
theorem run_closes_unbound :
    let world : World := { rds := [{}, { bind := some (.system (some 99)) }], tos := [none] }
    let trace := (run ["--tos", "8", "192.0.2.7"] world).final.trace
    ∃ cs, eventsAt 102 trace = .opened .rds 102 :: eventsOn 102 (cs ++ [(.close, none)]) ∧
      ∀ c ∈ cs, c.1 ≠ .close := by
  intro world trace
  refine run_closes ["--tos", "8", "192.0.2.7"] ?_ ?_ ?_ (by decide +kernel)
  · simp [World.Raises, State.Raises, State.scripts, world]
  · rintro address f (⟨-, rfl⟩ | hf)
    · rfl
    · obtain rfl : f = .system (some 99) := by
        simpa [State.scripts, world, eq_comm] using hf
      rfl
  · simp [World.Raises, State.Raises, world]

end Program

end RdsReach
