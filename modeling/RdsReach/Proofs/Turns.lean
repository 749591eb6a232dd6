import RdsReach.Proofs.Accounting
import RdsReach.Proofs.Draining

/-!
# One socket after the other

The events of a run are the turns of its sockets. In its turn a socket sends all its packets and is
then spun on, if that is wanted, before the next socket has its turn. `TakeTurns` says so of the
events of a run, and that the last turn alone may be broken off, by the call that failed.
`TurnFails` says what ends a run without a result: such a broken turn, or what came of a spin and
is too long to be told. `Probe.sendAll_turns` says that the events of every run are of this form.
-/

namespace RdsReach

/-! ## Turns -/

/-- The questions of one spin. The last has the outcome `last`, and all others were answered. -/
def Inquiry (fd : Nat) (ceiling : Int) (last : Option Fault) (qs : List Event) : Prop :=
  ∃ n < Probe.queryLimit ceiling,
    qs = List.replicate n (.call fd .queryQueue none) ++ [.call fd .queryQueue last]

/-- The events of a turn that a socket has in full. A question that fails may end its spin if the
fault is one that the spin can report. -/
inductive WholeTurn (conf : RunConfig) (fd : Nat) : (spinner : Option Int) → List Event → Prop
  | plain : WholeTurn conf fd none (packets conf fd conf.perSocketCount.toNat)
  | spun {ceiling : Int} {last : Option Fault} {qs : List Event} (h : Inquiry fd ceiling last qs)
      (hlast : ∀ g, last = some g → g.isReportable Fault.isSystem = true) :
      WholeTurn conf fd (some ceiling) (packets conf fd conf.perSocketCount.toNat ++ qs)

/-- The events of a turn that ends at the call that failed. -/
inductive BrokenTurn (conf : RunConfig) (fd : Nat) : (spinner : Option Int) → List Event → Prop
  /-- A packet does not go out, and nothing is asked. -/
  | refused {spinner : Option Int} {k : Nat} (hk : k < conf.perSocketCount.toNat) (g : Fault) :
      BrokenTurn conf fd spinner (packets conf fd k ++ [refusal conf fd g])
  /-- A question has no answer that the spin can take. -/
  | unanswered {ceiling : Int} {last : Option Fault} {qs : List Event}
      (h : Inquiry fd ceiling last qs)
      (hlast : ∀ g, last = some g → g.isReportable Fault.isSystem = false) :
      BrokenTurn conf fd (some ceiling) (packets conf fd conf.perSocketCount.toNat ++ qs)

/-- The events are the turns of the sockets that were served, in their order, and after them maybe a
broken turn of the first socket that waits. -/
def TakeTurns (conf : RunConfig) (spinner : Option Int) (served waiting : List Nat)
    (es : List Event) : Prop :=
  ∃ turns last, es = turns.flatten ++ last ∧
    List.Forall₂ (fun fd turn => WholeTurn conf fd spinner turn) served turns ∧
      (last = [] ∨ ∃ fd, waiting.head? = some fd ∧ BrokenTurn conf fd spinner last)

namespace TakeTurns

variable {conf : RunConfig} {spinner : Option Int} {fd : Nat} {served waiting : List Nat}
  {turn es : List Event}

theorem nil : TakeTurns conf spinner [] waiting [] := ⟨[], [], rfl, .nil, .inl rfl⟩

theorem broken (h : BrokenTurn conf fd spinner es) :
    TakeTurns conf spinner [] (fd :: waiting) es := ⟨[], es, rfl, .nil, .inr ⟨fd, rfl, h⟩⟩

theorem cons (h : WholeTurn conf fd spinner turn)
    (hrest : TakeTurns conf spinner served waiting es) :
    TakeTurns conf spinner (fd :: served) waiting (turn ++ es) := by
  obtain ⟨turns, last, rfl, hturns, hlast⟩ := hrest
  refine ⟨turn :: turns, last, ?_, .cons h hturns, hlast⟩
  rw [List.flatten_cons, List.append_assoc]

end TakeTurns

/-- The failure `f` ends a run on the sockets `ms` that has no result. -/
inductive TurnFails (conf : RunConfig) (spinner : Option Int) (ms : List ProbeSocket)
    (served waiting : List Nat) (es : List Event) : Failure → Prop
  /-- The last turn is broken off. -/
  | broken {fd : Nat} {before last : List Event} (f : Failure) (hes : es = before ++ last)
      (hfirst : waiting.head? = some fd) (h : BrokenTurn conf fd spinner last) :
      TurnFails conf spinner ms served waiting es f
  /-- The last turn is whole, and its spin came to a number that is too long to print, or was one on
  a socket with such a slot. -/
  | untold {m : ProbeSocket} {ceiling : Int} {before qs : List Event} {last : Option Fault}
      (hm : m ∈ ms) (hlast : served.getLast? = some m.fd) (hspinner : spinner = some ceiling)
      (hes : es = before ++ qs) (h : Inquiry m.fd ceiling last qs)
      (hlong : Decimal.limit ≤ qs.length ∨ Decimal.isPrintable m.slot = false) :
      TurnFails conf spinner ms served waiting es .overlong

/-- A turn that comes before changes nothing about how a run fails. -/
theorem TurnFails.cons {conf : RunConfig} {spinner : Option Int} {ms : List ProbeSocket}
    {served waiting : List Nat} {es : List Event} {f : Failure}
    (h : TurnFails conf spinner ms served waiting es f) (m : ProbeSocket) (turn : List Event) :
    TurnFails conf spinner (m :: ms) (m.fd :: served) waiting (turn ++ es) f := by
  cases h with
  | broken f hes hfirst h =>
    rw [hes]
    exact .broken f (List.append_assoc ..).symm hfirst h
  | untold hm hlast hspinner hes h hlong =>
    rw [hes]
    refine .untold (List.mem_cons_of_mem _ hm) ?_ hspinner (List.append_assoc ..).symm h hlong
    rw [List.getLast?_cons, hlast, Option.getD_some]

/-- What a spin asks is an inquiry. The fault of its last question, if it has one, is one that can
be reported exactly if the spin has an outcome. -/
theorem Spin.Ends.inquiry {replies : Nat → QueueReply} {ceiling : Int} {o : Except Failure Spin}
    {n : Nat} (h : Spin.Ends replies (Probe.queryLimit ceiling) o n) (fd : Nat) :
    ∃ last, Inquiry fd ceiling last (questions fd replies n) ∧
      ∀ g, last = some g → g.isReportable Fault.isSystem = o.isOk := by
  obtain ⟨k, rfl, hquestions⟩ := h.questions_eq (Probe.queryLimit_pos ceiling) fd
  refine ⟨_, ⟨k, h.le_limit, hquestions⟩, fun g hg => ?_⟩
  have hreply : replies k = .fault g := by
    generalize replies k = r at hg
    cases r with
    | fault g' => rw [Option.some.inj hg]
    | _ => cases hg
  generalize Probe.queryLimit ceiling = limit at h
  cases h with
  | drained hi hbefore hzero =>
    rw [hreply] at hzero
    cases hzero
  | queryFailed hi hbefore hfault hreportable =>
    rw [hreply] at hfault
    cases hfault
    exact hreportable
  | ceilingReached hbefore =>
    rw [(hbefore k (by omega)).no_fault] at hg
    cases hg
  | unanswered hi hbefore hnot =>
    rw [hreply] at hnot
    exact hnot

/-! ## Runs -/

/-- On the way from `s` to `t` the sockets `ms` take turns in their order. If the way ends well and
no packet failed, none of them waits any more; if it ends with a failure, that is one of a turn. -/
def State.TurnsTo (s : State) (conf : RunConfig) (spinner : Option Int) (ms : List ProbeSocket)
    (failure : Option Failure) (t : State) : Prop :=
  ∃ served waiting es, ms.map (·.fd) = served ++ waiting ∧ s.Emits es t ∧
    TakeTurns conf spinner served waiting es ∧
      match failure with
      | none => Unrefused es → waiting = []
      | some f => TurnFails conf spinner ms served waiting es f

namespace State.TurnsTo

variable {conf : RunConfig} {spinner : Option Int} {m : ProbeSocket} {ms : List ProbeSocket}
  {failure : Option Failure} {es : List Event} {s t u : State}

/-- A turn in full comes before the turns of the other sockets. -/
theorem next (hs : s.Emits es t) (hturn : WholeTurn conf m.fd spinner es)
    (h : t.TurnsTo conf spinner ms failure u) : s.TurnsTo conf spinner (m :: ms) failure u := by
  obtain ⟨served, waiting, rest, hfds, ht, htake, hend⟩ := h
  refine ⟨m.fd :: served, waiting, es ++ rest, ?_, hs.trans ht, htake.cons hturn, ?_⟩
  · rw [List.map_cons, hfds, List.cons_append]
  · cases failure with
    | none => exact fun hall => hend (List.forall_mem_append.1 hall).2
    | some f => exact hend.cons m es

/-- A packet that does not go out ends the turns, with a result. -/
theorem refused (hs : s.Emits es t) (h : BrokenTurn conf m.fd spinner es) (hes : ¬ Unrefused es) :
    s.TurnsTo conf spinner (m :: ms) none t :=
  ⟨[], m.fd :: ms.map (·.fd), es, rfl, hs, .broken h, fun hall => absurd hall hes⟩

/-- A call that fails otherwise ends them without one. -/
theorem failed (f : Failure) (hs : s.Emits es t) (h : BrokenTurn conf m.fd spinner es) :
    s.TurnsTo conf spinner (m :: ms) (some f) t :=
  ⟨[], m.fd :: ms.map (·.fd), es, rfl, hs, .broken h, .broken f (List.nil_append es).symm rfl h⟩

/-- So does what came of a spin if it is too long to be told. -/
theorem untold {ceiling : Int} {before qs : List Event} {last : Option Fault}
    (hs : s.Emits (before ++ qs) t) (hturn : WholeTurn conf m.fd (some ceiling) (before ++ qs))
    (h : Inquiry m.fd ceiling last qs)
    (hlong : Decimal.limit ≤ qs.length ∨ Decimal.isPrintable m.slot = false) :
    s.TurnsTo conf (some ceiling) (m :: ms) (some .overlong) t := by
  have htake : TakeTurns conf (some ceiling) [m.fd] (ms.map (·.fd)) (before ++ qs ++ []) :=
    TakeTurns.nil.cons hturn
  rw [List.append_nil] at htake
  exact ⟨[m.fd], ms.map (·.fd), before ++ qs, rfl, hs, htake,
    .untold List.mem_cons_self rfl rfl rfl h hlong⟩

end State.TurnsTo

namespace Probe

variable {conf : RunConfig} {s : State} {pre ms : List ProbeSocket} {m : ProbeSocket}

/-- All packets of a socket go out, or its turn is broken at the one that does not. -/
theorem servePackets_turn (conf : RunConfig) (spinner : Option Int)
    (h : s.members = pre ++ m :: ms) :
    Meets (servePackets conf pre.length) s
      (fun r t =>
        (r = none ∧ s.Emits (packets conf m.fd conf.perSocketCount.toNat) t ∧
          ∃ m', m'.fd = m.fd ∧ m'.slot = m.slot ∧ t.members = pre ++ m' :: ms) ∨
        (r.isSome ∧ s.TurnsTo conf spinner (m :: ms) none t))
      fun f t => s.TurnsTo conf spinner (m :: ms) (some f) t := by
  rw [servePackets, meets_tryCatch, meets_bind]
  apply (sendPackets_spec conf.perSocketCount.toNat h).mono
  · rintro _ t ⟨ht, m', hsent, -, hmembers⟩
    exact .inl ⟨rfl, ht, m', hsent.fd_eq, hsent.slot_eq, hmembers⟩
  · rintro f t ⟨k, g, -, hk, -, ht, -⟩
    have hbroken : BrokenTurn conf m.fd spinner (packets conf m.fd k ++ [refusal conf m.fd g]) :=
      .refused hk g
    cases f with
    | send failure =>
      have hrefused : ¬ Unrefused (packets conf m.fd k ++ [refusal conf m.fd g]) := by
        intro hall
        cases hall _ (List.mem_append_right _ (List.mem_singleton_self _)) rfl
      exact .inr ⟨rfl, .refused (ht.then_nil (.of_eq rfl rfl)) hbroken hrefused⟩
    | _ => exact .failed _ ht hbroken

/-- Spinning on a socket is one inquiry. It fails if its last question does, or if the outcome is
too long to be told. -/
theorem spinMember_inquires (ceiling : Int) (h : s.members = pre ++ m :: ms) :
    Meets (spinMember ceiling pre.length) s
      (fun _ t => ∃ last qs, s.Emits qs t ∧ Inquiry m.fd ceiling last qs ∧
        (∀ g, last = some g → g.isReportable Fault.isSystem = true) ∧
          ∃ m', m'.fd = m.fd ∧ t.members = pre ++ m' :: ms)
      fun f t => ∃ last qs, s.Emits qs t ∧ Inquiry m.fd ceiling last qs ∧
        ((∀ g, last = some g → g.isReportable Fault.isSystem = false) ∨
          (∀ g, last = some g → g.isReportable Fault.isSystem = true) ∧ f = .overlong ∧
            (Decimal.limit ≤ qs.length ∨ Decimal.isPrintable m.slot = false)) := by
  rw [spinMember, meets_bind, meets_get, member_at h]
  dsimp only
  apply meets_bind.2
  apply (spin_ends ceiling m.fd s).mono
  · rintro r t ⟨n, hends, ht⟩
    obtain ⟨last, hinquiry, hlast⟩ := hends.inquiry m.fd
    apply (modifyMember_spec (ht.after.members_eq.trans h) _).bind_of_total
    rintro _ u ⟨hu, hmembers⟩
    have hemits : s.Emits (questions m.fd s.replyAt n) u := ht.after.toEmits.then_nil hu
    -- the words that are still to be said can be too long, but no call is made any more
    rw [meets_bind, meets_number]
    split
    · rw [meets_bind, meets_number]
      split
      · exact ⟨last, _, hemits.then_nil (.of_eq rfl rfl), hinquiry, hlast,
          { m with spin := some r }, rfl, hmembers⟩
      · next hslot =>
        exact ⟨last, _, hemits, hinquiry, .inr ⟨hlast, rfl, .inr (by simpa using hslot)⟩⟩
    · next hcount =>
      refine ⟨last, _, hemits, hinquiry, .inr ⟨hlast, rfl, .inl ?_⟩⟩
      rw [length_questions]
      by_contra hlt
      exact hcount (hends.within.printable (by omega))
  · rintro f t ⟨n, hends, ht⟩
    obtain ⟨last, hinquiry, hlast⟩ := hends.inquiry m.fd
    exact ⟨last, _, ht.after.toEmits, hinquiry, .inl hlast⟩

theorem servePlaces_turns (spinner : Option Int) (pre : List ProbeSocket)
    (h : s.members = pre ++ ms) :
    Meets (servePlaces conf spinner ms.length pre.length) s
      (fun _ t => s.TurnsTo conf spinner ms none t)
      fun f t => s.TurnsTo conf spinner ms (some f) t := by
  -- on the sockets to come; those in `pre` had their turns
  induction ms generalizing s pre with
  | nil => exact ⟨[], [], [], rfl, .refl s, .nil, fun _ => rfl⟩
  | cons m ms ih =>
    rw [List.length_cons, servePlaces]
    apply meets_bind.2
    apply (servePackets_turn conf spinner h).mono
    · rintro r t (⟨rfl, ht, m₁, hfd, hslot, hmembers⟩ | ⟨hr, hturns⟩)
      · dsimp only
        have hnext {turn : List Event} {u : State} {m' : ProbeSocket} (hu : s.Emits turn u)
            (hturn : WholeTurn conf m.fd spinner turn) (hmembers' : u.members = pre ++ m' :: ms) :
            Meets (servePlaces conf spinner ms.length (pre.length + 1)) u
              (fun _ v => s.TurnsTo conf spinner (m :: ms) none v)
              fun f v => s.TurnsTo conf spinner (m :: ms) (some f) v := by
          have hsplit : u.members = (pre ++ [m']) ++ ms := by rw [hmembers', List.append_cons]
          have hrest := ih _ hsplit
          rw [List.length_append, List.length_singleton] at hrest
          exact hrest.mono (fun _ _ hv => hv.next hu hturn) fun _ _ hv => hv.next hu hturn
        cases spinner with
        | none => exact hnext ht .plain hmembers
        | some ceiling =>
          apply meets_bind.2
          apply (spinMember_inquires ceiling hmembers).mono
          · rintro _ u ⟨last, qs, hu, hinquiry, hlast, m', -, hmembers'⟩
            rw [hfd] at hinquiry
            exact hnext (ht.trans hu) (.spun hinquiry hlast) hmembers'
          · rintro f u ⟨last, qs, hu, hinquiry, hlast | ⟨hlast, rfl, hlong⟩⟩
            · rw [hfd] at hinquiry
              exact .failed f (ht.trans hu) (.unanswered hinquiry hlast)
            · rw [hfd] at hinquiry
              rw [hslot] at hlong
              exact .untold (ht.trans hu) (.spun hinquiry hlast) hinquiry hlong
      · obtain ⟨failure, rfl⟩ := Option.isSome_iff_exists.1 hr
        exact hturns
    · exact fun _ _ hturns => hturns

/-- In every run, on any group and in any world, the sockets take turns in the order of the group,
and only the last turn can be broken off, by the call that failed. A run that ends with a result and
in which no packet failed leaves no socket out. A run that ends without one has a broken turn, or
comes to a number that is too long to print after a spin. -/
theorem sendAll_turns (conf : RunConfig) (spinner : Option Int) (s : State) :
    ∃ served waiting es t, s.members.map (·.fd) = served ++ waiting ∧ s.Emits es t ∧
      TakeTurns conf spinner served waiting es ∧
        ((∃ r, sendAll conf spinner s = .ok r t ∧ (Unrefused es → waiting = [])) ∨
          ∃ f, sendAll conf spinner s = .error f t ∧
            TurnFails conf spinner s.members served waiting es f) := by
  have hturns : Meets (sendAll conf spinner) s
      (fun _ t => s.TurnsTo conf spinner s.members none t)
      fun f t => s.TurnsTo conf spinner s.members (some f) t := by
    rw [sendAll, meets_bind, meets_get, meets_bind]
    have hsize : s.group.sockets.size = s.members.length := (Array.length_toList ..).symm
    rw [hsize]
    exact (servePlaces_turns spinner [] rfl).mono (fun _ _ h => h) fun _ _ h => h
  cases hrun : sendAll conf spinner s with
  | ok r t =>
    obtain ⟨served, waiting, es, hfds, hes, htake, hend⟩ := hturns.of_ok hrun
    exact ⟨served, waiting, es, t, hfds, hes, htake, .inl ⟨r, rfl, hend⟩⟩
  | error f t =>
    obtain ⟨served, waiting, es, hfds, hes, htake, hend⟩ := hturns.of_error hrun
    exact ⟨served, waiting, es, t, hfds, hes, htake, .inr ⟨f, rfl, hend⟩⟩

/-- Two sockets, the second of which is asked twice and then gets a reply of two bytes. -/
theorem sendAll_turns_of_two :
    let conf : RunConfig := { destination := { address := .v4 ⟨192, 0, 2, 7⟩ }, count := 3 }
    let s : State :=
      { world := { queue := [.pending 4, .raw [0, 0, 0, 0], .pending 4, .raw [1, 0]] }
        sockets := #[{ script := {} }, { script := {} }]
        group := { size := 2, sockets := #[{ fd := 100, slot := 0 }, { fd := 101, slot := 1 }] } }
    ∃ served waiting es t, [100, 101] = served ++ waiting ∧ s.Emits es t ∧
      TakeTurns conf (some 5) served waiting es ∧
        ∃ f, sendAll conf (some 5) s = .error f t ∧
          TurnFails conf (some 5) s.members served waiting es f := by
  intro conf s
  obtain ⟨served, waiting, es, t, hfds, hes, htake, ⟨r, hrun, -⟩ | hfails⟩ :=
    sendAll_turns conf (some 5) s
  · have hfailed : (match sendAll conf (some 5) s with
        | .ok _ _ => false
        | .error _ _ => true) = true := by decide +kernel
    rw [hrun] at hfailed
    cases hfailed
  · exact ⟨served, waiting, es, t, hfds, hes, htake, hfails⟩

end Probe

end RdsReach
