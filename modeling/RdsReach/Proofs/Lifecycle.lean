import RdsReach.Proofs.Lives
import RdsReach.Proofs.Program

/-!
# The order of a run

A run sets all its sockets up before it uses the first one, and uses none of them if any step of
that fails; on every RDS socket the calls come in the order of a life, and a call that fails is
followed by nothing but the close. `Conforms` says this of the events of a run, and
`Program.run_conforms` that it holds of every run of the program.
-/

namespace RdsReach

/-! ## Calls that end a life -/

/-- Is this a call on an RDS socket after which, if it fails, the socket is of no use? -/
def Call.isVital : Call → Bool
  | .bind _ => true
  | .setTos _ => true
  | .send _ => true
  | _ => false

/-- After a vital call that fails the call may only close the socket. -/
def Heeds (earlier later : Call × Option Fault) : Prop :=
  earlier.1.isVital = true → earlier.2 ≠ none → later.1 = .close

theorem pairwise_of_dropLast {α : Type} {p : α → Prop} {l : List α} (h : ∀ a ∈ l.dropLast, p a) :
    l.Pairwise fun a _ => p a := by
  induction l with
  | nil => exact .nil
  | cons a l ih =>
    -- the last element is followed by none, so nothing is asked of it
    cases l with
    | nil => exact List.pairwise_singleton _ _
    | cons b l =>
      rw [List.dropLast_cons_cons] at h
      obtain ⟨ha, hl⟩ := List.forall_mem_cons.1 h
      exact List.pairwise_cons.2 ⟨fun _ _ => ha, ih hl⟩

theorem Attended.pairwise_heeds {conf : RunConfig} {sends queries : List (Option Fault)}
    (h : Attended conf sends queries) : (servedCalls conf sends queries).Pairwise Heeds := by
  refine List.pairwise_append.2 ⟨?_, ?_, ?_⟩
  · rw [List.pairwise_map]
    exact (pairwise_of_dropLast h.sends_stop).imp fun ho _ hne => absurd ho hne
  · rw [List.pairwise_map]
    refine List.pairwise_of_forall fun _ _ hvital => ?_
    cases hvital
  · intro x hx y hy _ hne
    obtain ⟨o, ho, rfl⟩ := List.mem_map.1 hx
    have hqueries : queries ≠ [] := by
      rintro rfl
      cases hy
    rw [(h.queries_of hqueries).2] at ho
    exact absurd (List.eq_of_mem_replicate ho) hne

namespace Life

variable {conf : RunConfig} {l : Life}

/-- A socket that is served was made ready. -/
theorem Orderly.ready (h : l.Orderly conf) (hcount : 0 < conf.perSocketCount)
    (hserved : servedCalls conf l.sends l.queries ≠ []) : l.Ready conf := by
  refine h.sends_of fun hnone => hserved ?_
  have hqueries : l.queries = [] := by
    by_contra hne
    have hlength := congrArg List.length (h.queries_of hne).2
    rw [hnone, List.length_nil, List.length_replicate] at hlength
    omega
  rw [hnone, hqueries]
  rfl

/-- In an orderly life nothing but the close follows a vital call that fails. -/
theorem Orderly.pairwise_heeds (h : l.Orderly conf) (hcount : 0 < conf.perSocketCount) :
    (l.calls conf).Pairwise Heeds := by
  refine List.pairwise_append.2 ⟨List.pairwise_append.2 ⟨List.pairwise_append.2 ⟨?_, ?_, ?_⟩,
    h.toAttended.pairwise_heeds, ?_⟩, ?_, ?_⟩
  · cases l.bind <;> simp
  · cases l.tos <;> simp
  · -- a socket that is given a type of service was bound
    intro x hx y hy _ hne
    obtain ⟨b, hb, rfl⟩ := List.mem_map.1 hx
    obtain ⟨b', hb', rfl⟩ := List.mem_map.1 hy
    obtain ⟨-, -, a, ha⟩ := h.tos_of b'.1 b'.2 (Option.mem_toList.1 hb')
    rw [Option.mem_toList.1 hb] at ha
    obtain rfl := Option.some.inj ha
    exact absurd rfl hne
  · -- a socket that is served was made ready
    intro x hx y hy _ hne
    obtain ⟨⟨a, ha⟩, htos⟩ := h.ready hcount (List.ne_nil_of_mem hy)
    refine absurd ?_ hne
    rcases List.mem_append.1 hx with hx | hx
    · obtain ⟨b, hb, rfl⟩ := List.mem_map.1 hx
      rw [Option.mem_toList.1 hb] at ha
      obtain rfl := Option.some.inj ha
      rfl
    · obtain ⟨b, hb, rfl⟩ := List.mem_map.1 hx
      have hb := Option.mem_toList.1 hb
      obtain ⟨byte, hbyte⟩ := htos (h.tos_of b.1 b.2 hb).2.1
      rw [hb] at hbyte
      obtain rfl := Option.some.inj hbyte
      rfl
  · cases l.close <;> simp
  · intro x _ y hy _ _
    obtain ⟨o, -, rfl⟩ := List.mem_map.1 hy
    rfl

end Life

/-! ## Runs -/

/-- The events of a run of a configuration come in the right order. -/
structure Conforms (conf : RunConfig) (es : List Event) : Prop where
  /-- All sockets are ready before the first packet or question. -/
  ready_first : ∀ before e after, es = before ++ e :: after → e.isService = true →
    AllReady conf before
  /-- If a step of the setup fails, no packet is sent and no queue is asked. -/
  idle_of_fault : ∀ e ∈ es, e.isSetup = true → e.fault? ≠ none → Idle es
  /-- Every socket of the group has an orderly life. -/
  life : ∀ fd, .opened .rds fd ∈ es → ∃ l : Life, l.Orderly conf ∧
    eventsAt fd es = .opened .rds fd :: eventsOn fd (l.calls conf) ∧ (l.calls conf).Pairwise Heeds

namespace Conducted

variable {conf : RunConfig} {es : List Event}
  {o : Option (Except Failure (Option SendFailure) × List ProbeSocket)}

theorem ready_first (h : Conducted conf es o) (hchecked : conf.Checked) {before after : List Event}
    {e : Event} (hes : es = before ++ e :: after) (he : e.isService = true) :
    AllReady conf before := by
  cases o with
  | none =>
    rw [h.idle e (by simp [hes])] at he
    cases he
  | some o =>
    obtain ⟨first, rest, rfl, hidle, -, hready, hrest⟩ := h.setup_first hchecked
    -- a packet or question comes after the setup, which has neither
    rcases List.append_eq_append_iff.1 hes with ⟨mid, rfl, hmid⟩ | ⟨mid, rfl, hmid⟩
    · exact hready.append fun e' he' => hrest e' (hmid ▸ List.mem_append_left _ he')
    · cases mid with
      | nil => simpa using hready
      | cons e' mid =>
        -- the event would belong to the setup
        obtain ⟨rfl, -⟩ := List.cons.inj hmid
        rw [hidle e (by simp)] at he
        cases he

theorem idle_of_fault (h : Conducted conf es o) (hchecked : conf.Checked) {e : Event} (he : e ∈ es)
    (hsetup : e.isSetup = true) (hfault : e.fault? ≠ none) : Idle es := by
  cases o with
  | none => exact h.idle
  | some o =>
    obtain ⟨first, rest, rfl, -, hfaultless, -, hrest⟩ := h.setup_first hchecked
    rcases List.mem_append.1 he with he | he
    · exact absurd (hfaultless e he) hfault
    · rw [hrest e he] at hsetup
      cases hsetup

theorem conforms (h : Conducted conf es o) (hchecked : conf.Checked) : Conforms conf es where
  ready_first _ _ _ hes he := h.ready_first hchecked hes he
  idle_of_fault _ he hsetup hfault := h.idle_of_fault hchecked he hsetup hfault
  life fd hfd := by
    obtain ⟨l, hlived, -⟩ := h.life hchecked hfd
    exact ⟨l, hlived.orderly, hlived.events_eq,
      hlived.orderly.pairwise_heeds hchecked.perSocketCount_pos⟩

end Conducted

namespace Program

open Probe

/-- Every run of the program conforms to its configuration, and without one it does not touch any
socket. Where the setup fails, be it at a call or in between, no packet is sent and no queue is
asked. -/
theorem run_conforms (arguments : List String) (world : World) :
    (configured arguments world = none → (run arguments world).final.trace = []) ∧
    (∀ conf, configured arguments world = some conf →
      Conforms conf (run arguments world).final.trace) ∧
    ∀ a, CommandLine.read arguments = .ok a → ¬ Succeeds (setUp a) { world } →
      Idle (run arguments world).final.trace := by
  have hran := run_spec arguments world
  refine ⟨hran.unconfigured, fun conf hconf => ?_, fun a hread hfails => ?_⟩
  · obtain ⟨o, hconducted, -⟩ := hran.conducted conf hconf
    exact hconducted.conforms (checked_of_configured hconf)
  · cases hconf : configured arguments world with
    | none =>
      rw [hran.unconfigured hconf]
      simp [Idle]
    | some conf =>
      obtain ⟨o, hconducted, hsetUp⟩ := hran.conducted conf hconf
      cases o with
      | none => exact hconducted.idle
      | some o =>
        -- the sockets were served, so the setup succeeded
        obtain ⟨a', hread', hsucceeds⟩ := hsetUp rfl
        rw [hread] at hread'
        obtain rfl := Except.ok.inj hread'
        exact absurd hsucceeds hfails

end Program

end RdsReach
