import RdsReach.Proofs.Alike

/-!
# What spinning comes to

The replies about a queue are one stream, and each question takes the next of them. A reply decides
if it says that no bytes wait or if it is a fault. `Spin.Ends` says what a spin comes to by the
place of the first reply that decides, and `Probe.spin_ends` that every spin does. Spins that are
made one after the other share the stream: each goes on at the place where the one before it
stopped (`Spin.InTurn`).
-/

namespace RdsReach

/-! ## Streams of answers -/

/-- The answer that is given after `n` others. -/
def answerAt {α : Type} (default : α) (answers : List α) (n : Nat) : α :=
  answers[min n (answers.length - 1)]?.getD default

section Answers

variable {α : Type} (default : α) (answers : List α)

theorem answerAt_zero : answerAt default answers 0 = (nextAnswer default answers).1 := by
  rw [answerAt, Nat.zero_min]
  unfold nextAnswer
  split <;> rfl

/-- The next answer is taken off the stream, and all others follow as they would have. -/
theorem answerAt_rest (n : Nat) :
    answerAt default (nextAnswer default answers).2 n = answerAt default answers (n + 1) := by
  unfold answerAt nextAnswer
  split
  · rfl
  · simp
  · next a rest hne =>
    have hpos : 0 < rest.length := List.length_pos_iff.2 fun h => hne (by rw [h])
    have hmin : min (n + 1) ((a :: rest).length - 1) = min n (rest.length - 1) + 1 := by
      rw [List.length_cons]
      omega
    rw [hmin, List.getElem?_cons_succ]

end Answers

/-- The reply that a question about a queue gets after `n` others. -/
def State.replyAt (s : State) : Nat → QueueReply := answerAt (.pending 0) s.world.queue

/-- The reply says that bytes wait, in whatever number. -/
def QueueReply.IsPending (r : QueueReply) : Prop := ∃ n, Probe.replyNumber? r = some n ∧ n ≠ 0

theorem QueueReply.IsPending.no_fault {r : QueueReply} (h : r.IsPending) :
    Probe.replyFault? r = none := by
  obtain ⟨n, hn, -⟩ := h
  cases r with
  | fault g => cases hn
  | _ => rfl

/-- The events of `n` questions about the queue of a descriptor that are answered in the order of a
stream. -/
def questions (fd : Nat) (replies : Nat → QueueReply) (n : Nat) : List Event :=
  (List.range n).map fun i => .call fd .queryQueue (Probe.replyFault? (replies i))

theorem length_questions (fd : Nat) (replies : Nat → QueueReply) (n : Nat) :
    (questions fd replies n).length = n := by
  rw [questions, List.length_map, List.length_range]

theorem questions_add (fd : Nat) (replies : Nat → QueueReply) (n k : Nat) :
    questions fd replies (n + k) =
      questions fd replies n ++ questions fd (fun i => replies (n + i)) k := by
  rw [questions, List.range_add, List.map_append, List.map_map]
  rfl

/-- From `s` to `t` the queue of a descriptor was asked `n` times, and the replies to these
questions are gone from the stream. -/
structure State.Asked (s : State) (fd n : Nat) (t : State) : Prop where
  after : s.After (questions fd s.replyAt n) t
  replyAt_eq : ∀ i, t.replyAt i = s.replyAt (n + i)

namespace State.Asked

variable {s t u : State} {fd fd' n k : Nat}

theorem refl (s : State) (fd : Nat) : s.Asked fd 0 s where
  after := .refl s
  replyAt_eq i := by rw [Nat.zero_add]

theorem trans (h : s.Asked fd n t) (h' : t.Asked fd k u) : s.Asked fd (n + k) u where
  after := by
    rw [questions_add, ← funext h.replyAt_eq]
    exact h.after.trans h'.after
  replyAt_eq i := by rw [h'.replyAt_eq, h.replyAt_eq, Nat.add_assoc]

end State.Asked

/-! ## Where a spin ends -/

/-- What a spin comes to that may ask `limit` times and gets the replies of a stream, and how many
questions it asks. -/
inductive Spin.Ends (replies : Nat → QueueReply) (limit : Nat) : Except Failure Spin → Nat → Prop
  /-- The first reply that decides says that no bytes wait. -/
  | drained {i : Nat} (hi : i < limit) (hbefore : ∀ j < i, (replies j).IsPending)
      (hzero : Probe.replyNumber? (replies i) = some 0) :
      Ends replies limit (.ok ⟨.drained, i + 1⟩) (i + 1)
  /-- The first reply that decides is an error of the system. -/
  | queryFailed {i : Nat} {g : Fault} (hi : i < limit) (hbefore : ∀ j < i, (replies j).IsPending)
      (hfault : replies i = .fault g) (hreportable : g.isReportable Fault.isSystem = true) :
      Ends replies limit (.ok ⟨.queryFailed g.errno, i⟩) (i + 1)
  /-- No reply decides as long as questions are allowed. -/
  | ceilingReached (hbefore : ∀ j < limit, (replies j).IsPending) :
      Ends replies limit (.ok ⟨.ceilingReached, limit⟩) limit
  /-- The first reply that decides is none that a spin can take. -/
  | unanswered {i : Nat} {f : Failure} (hi : i < limit) (hbefore : ∀ j < i, (replies j).IsPending)
      (hreply : (replies i).isTame = false) :
      Ends replies limit (.error f) (i + 1)

/-- The count of an outcome is at least one, or tells of a failed question by its negated error
number, which is -1 if there was none. -/
def Spin.Counts (r : Spin) : Prop :=
  match r.outcome with
  | .queryFailed errno => r.count = if errno = 0 then -1 else -errno
  | _ => 1 ≤ r.count

namespace Spin.Ends

variable {replies : Nat → QueueReply} {limit n : Nat} {r : Spin} {f : Failure}

/-- A spin whose questions all are answered ends with an outcome. -/
theorem exists_untame (h : Ends replies limit (.error f) n) :
    ∃ i < limit, (replies i).isTame = false := by
  cases h with
  | unanswered hi hbefore hreply => exact ⟨_, hi, hreply⟩

/-- An outcome counts no more than the replies that its spin asked for. -/
theorem within (h : Ends replies limit (.ok r) n) : r.Within n := by
  cases h with
  | @drained i hi hbefore hzero =>
    refine ⟨?_, ?_, nofun⟩
    · show (0 : Int) ≤ (i : Int) + 1
      omega
    · exact Int.le_refl _
  | @queryFailed i g hi hbefore hfault hreportable =>
    refine ⟨Int.natCast_nonneg i, ?_, ?_⟩
    · show (i : Int) ≤ ((i + 1 : Nat) : Int)
      omega
    · intro errno herrno
      obtain rfl : g.errno = errno := SpinEnd.queryFailed.inj herrno
      exact (Bool.and_eq_true_iff.1 hreportable).2
  | ceilingReached hbefore => exact ⟨Int.natCast_nonneg _, Int.le_refl _, nofun⟩

theorem counts (h : Ends replies limit (.ok r) n) (hlimit : 1 ≤ limit) : r.Counts := by
  cases h with
  | @drained i hi hbefore hzero =>
    show (1 : Int) ≤ (i : Int) + 1
    omega
  | @queryFailed i g hi hbefore hfault hreportable =>
    show -(if g.errno = 0 then 1 else g.errno) = if g.errno = 0 then -1 else -g.errno
    split <;> rfl
  | ceilingReached hbefore =>
    show (1 : Int) ≤ (limit : Int)
    omega

/-- A spin depends on the replies alone that it may ask for. -/
theorem congr {replies' : Nat → QueueReply} (h : Ends replies limit (.ok r) n)
    (heq : ∀ i < limit, replies i = replies' i) : Ends replies' limit (.ok r) n := by
  have hpending {k : Nat} (hk : k ≤ limit) (hbefore : ∀ j < k, (replies j).IsPending) :
      ∀ j < k, (replies' j).IsPending := by
    intro j hj
    rw [← heq j (by omega)]
    exact hbefore j hj
  cases h with
  | drained hi hbefore hzero =>
    refine .drained hi (hpending (Nat.le_of_lt hi) hbefore) ?_
    rw [← heq _ hi]
    exact hzero
  | queryFailed hi hbefore hfault hreportable =>
    refine .queryFailed hi (hpending (Nat.le_of_lt hi) hbefore) ?_ hreportable
    rw [← heq _ hi]
    exact hfault
  | ceilingReached hbefore => exact .ceilingReached (hpending (Nat.le_refl _) hbefore)

theorem le_limit {o : Except Failure Spin} (h : Ends replies limit o n) : n ≤ limit := by
  cases h with
  | drained hi => exact hi
  | queryFailed hi => exact hi
  | ceilingReached => exact Nat.le_refl _
  | unanswered hi => exact hi

/-- The questions of a spin before its last one were answered. -/
theorem questions_eq {o : Except Failure Spin} (h : Ends replies limit o n) (hlimit : 1 ≤ limit)
    (fd : Nat) : ∃ k, n = k + 1 ∧ questions fd replies n =
      List.replicate k (.call fd .queryQueue none) ++
        [.call fd .queryQueue (Probe.replyFault? (replies k))] := by
  have hpending {k : Nat} (hbefore : ∀ j < k, (replies j).IsPending) :
      ∃ k', k + 1 = k' + 1 ∧ questions fd replies (k + 1) =
        List.replicate k' (.call fd .queryQueue none) ++
          [.call fd .queryQueue (Probe.replyFault? (replies k'))] := by
    refine ⟨k, rfl, ?_⟩
    rw [questions_add]
    congr 1
    refine List.eq_replicate_iff.2 ⟨length_questions .., fun e he => ?_⟩
    obtain ⟨j, hj, rfl⟩ := List.mem_map.1 he
    rw [(hbefore j (List.mem_range.1 hj)).no_fault]
  cases h with
  | drained hi hbefore hzero => exact hpending hbefore
  | queryFailed hi hbefore hfault hreportable => exact hpending hbefore
  | ceilingReached hbefore =>
    obtain ⟨k, rfl⟩ : ∃ k, limit = k + 1 := ⟨limit - 1, by omega⟩
    exact hpending fun j hj => hbefore j (by omega)
  | unanswered hi hbefore hreply => exact hpending hbefore

end Spin.Ends

namespace Probe

variable {s : State} {replies : Nat → QueueReply} {limit : Nat}

/-! ## One question -/

/-- A question takes the next reply, and ends as that says. -/
theorem queryQueue_asks (fd : Nat) (s : State) :
    Meets (queryQueue fd) s
      (fun n t => s.Asked fd 1 t ∧ replyNumber? (s.replyAt 0) = some n)
      fun f t => s.Asked fd 1 t ∧
        ((∃ g, s.replyAt 0 = .fault g ∧ f = .fault g) ∨
          f = .packing ∧ (s.replyAt 0).isTame = false) := by
  have hfirst : s.replyAt 0 = (nextAnswer (.pending 0) s.world.queue).1 := answerAt_zero ..
  simp only [queryQueue, meets_bind, meets_get, meets_modify]
  rw [← hfirst]
  have hasked {t : State} (ht : t =
      ({ s with world := { s.world with queue := (nextAnswer (.pending 0) s.world.queue).2 } } :
        State).note (.call fd .queryQueue (replyFault? (s.replyAt 0)))) : s.Asked fd 1 t := by
    subst ht
    refine ⟨⟨.of_calls (State.trace_note _ _) rfl rfl, rfl, rfl⟩, fun i => ?_⟩
    rw [Nat.add_comm]
    exact answerAt_rest ..
  generalize s.replyAt 0 = r at hasked ⊢
  apply (finish_spec fd .queryQueue (replyFault? r) _).mono
  · rintro _ t ⟨hnone, rfl⟩
    rw [hnone] at hasked
    have hask := hasked rfl
    cases hn : replyNumber? r with
    | some n => exact ⟨hask, rfl⟩
    | none =>
      refine ⟨hask, .inr ⟨rfl, ?_⟩⟩
      cases r with
      | fault g => cases hnone
      | _ => simp [QueueReply.isTame, QueueReply.isReadable, hnone, hn]
  · rintro _ t ⟨g, hg, rfl, rfl⟩
    rw [hg] at hasked
    refine ⟨hasked rfl, .inl ⟨g, ?_, rfl⟩⟩
    cases r with
    | fault g' => rw [Option.some.inj hg]
    | _ => cases hg

/-- A question is answered with the number of its reply or with an error number, or its reply is one
that a spin cannot take. -/
theorem tryQuery_asks (fd : Nat) (s : State) :
    Meets (tryQuery fd) s
      (fun a t => s.Asked fd 1 t ∧
        ((∃ n, a = .ok n ∧ replyNumber? (s.replyAt 0) = some n) ∨
          ∃ g, a = .error g.errno ∧ s.replyAt 0 = .fault g ∧ g.isReportable Fault.isSystem = true))
      fun _ t => s.Asked fd 1 t ∧ (s.replyAt 0).isTame = false := by
  rw [tryQuery, meets_tryCatch, meets_map, meets_onFault]
  apply (queryQueue_asks fd s).mono
  · rintro n t ⟨ht, hn⟩
    exact ⟨ht, .inl ⟨n, rfl, hn⟩⟩
  · rintro f t ⟨ht, ⟨g, hg, rfl⟩ | ⟨rfl, hreply⟩⟩
    · dsimp only
      rw [told_queueQuery]
      cases hreportable : g.isReportable Fault.isSystem with
      | true => exact ⟨ht, .inr ⟨g, rfl, hg, hreportable⟩⟩
      | false =>
        have hreply : (s.replyAt 0).isTame = false := by rw [hg, QueueReply.isTame, hreportable]
        cases g.isSystem
        · exact ⟨ht, hreply⟩
        · exact ⟨ht, hreply⟩
    · exact ⟨ht, hreply⟩

/-! ## One spin -/

theorem spinFrom_ends (fd left spins : Nat) (hlimit : spins + left = limit)
    (hreplies : ∀ i, s.replyAt i = replies (spins + i))
    (hbefore : ∀ j < spins, (replies j).IsPending) :
    Meets (spinFrom fd left spins) s
      (fun r t => ∃ n, Spin.Ends replies limit (.ok r) (spins + n) ∧ s.Asked fd n t)
      fun f t => ∃ n, Spin.Ends replies limit (.error f) (spins + n) ∧ s.Asked fd n t := by
  -- on the questions that are left; the `spins` replies so far all said that bytes wait
  induction left generalizing spins s with
  | zero =>
    obtain rfl : spins = limit := hlimit
    exact ⟨0, .ceilingReached hbefore, .refl s fd⟩
  | succ left ih =>
    have hfirst : s.replyAt 0 = replies spins := hreplies 0
    have hi : spins < limit := by omega
    rw [spinFrom]
    apply meets_bind.2
    apply (tryQuery_asks fd s).mono
    · rw [hfirst]
      rintro a t ⟨ht, ⟨pending, rfl, hpending⟩ | ⟨g, rfl, hg, hreportable⟩⟩
      · dsimp only
        by_cases hzero : pending = 0
        · rw [if_pos hzero]
          rw [hzero] at hpending
          exact ⟨1, .drained hi hbefore hpending, ht⟩
        · rw [if_neg hzero]
          have hnext : ∀ i, t.replyAt i = replies (spins + 1 + i) := by
            intro i
            rw [ht.replyAt_eq, hreplies, Nat.add_assoc]
          have hpendings : ∀ j < spins + 1, (replies j).IsPending := by
            intro j hj
            rcases Nat.lt_succ_iff_lt_or_eq.1 hj with hj | rfl
            · exact hbefore j hj
            · exact ⟨pending, hpending, hzero⟩
          have hgrow {o : Except Failure Spin} {u : State}
              (h : ∃ n, Spin.Ends replies limit o (spins + 1 + n) ∧ t.Asked fd n u) :
              ∃ n, Spin.Ends replies limit o (spins + n) ∧ s.Asked fd n u := by
            obtain ⟨n, hends, hu⟩ := h
            refine ⟨1 + n, ?_, ht.trans hu⟩
            rw [← Nat.add_assoc]
            exact hends
          apply (ih (spins + 1) (by omega) hnext hpendings).mono
          · exact fun _ _ h => hgrow h
          · exact fun _ _ h => hgrow h
      · exact ⟨1, .queryFailed hi hbefore hg hreportable, ht⟩
    · rw [hfirst]
      rintro f t ⟨ht, hreply⟩
      exact ⟨1, .unanswered hi hbefore hreply, ht⟩

/-- A spin ends at the first reply that decides, or where its ceiling is reached. -/
theorem spin_ends (ceiling : Int) (fd : Nat) (s : State) :
    Meets (spin ceiling fd) s
      (fun r t => ∃ n, Spin.Ends s.replyAt (queryLimit ceiling) (.ok r) n ∧ s.Asked fd n t)
      fun f t => ∃ n, Spin.Ends s.replyAt (queryLimit ceiling) (.error f) n ∧ s.Asked fd n t := by
  rw [spin]
  have hspin := spinFrom_ends (s := s) fd (queryLimit ceiling) 0 (Nat.zero_add _)
    (fun i => by rw [Nat.zero_add]) nofun
  simpa only [Nat.zero_add] using hspin

end Probe

/-! ## Spins one after the other -/

/-- What spins that are made one after the other come to, how many questions they ask in all, and
which events these leave. Each goes on in the stream where the one before it stopped. -/
inductive Spin.InTurn : (replies : Nat → QueueReply) → (requests : List (Int × Nat)) →
    List Spin → Nat → List Event → Prop
  | nil {replies : Nat → QueueReply} : InTurn replies [] [] 0 []
  | cons {replies : Nat → QueueReply} {ceiling : Int} {fd n m : Nat} {requests : List (Int × Nat)}
      {r : Spin} {rs : List Spin} {es : List Event}
      (hends : Spin.Ends replies (Probe.queryLimit ceiling) (.ok r) n)
      (hrest : InTurn (fun i => replies (n + i)) requests rs m es) :
      InTurn replies ((ceiling, fd) :: requests) (r :: rs) (n + m) (questions fd replies n ++ es)

namespace Probe

/-- Spins on descriptors, each with its ceiling, one after the other. -/
def spinAll : List (Int × Nat) → Probe (List Spin)
  | [] => pure []
  | (ceiling, fd) :: requests => do
    let r ← spin ceiling fd
    let rs ← spinAll requests
    return r :: rs

/-- The most questions that some spins may ask. -/
def allowance : List (Int × Nat) → Nat
  | [] => 0
  | (ceiling, _) :: requests => queryLimit ceiling + allowance requests

/-- Spins that are made one after the other, on any descriptors and with any ceilings, all end with
an outcome where every reply can be taken: each outcome is decided by the first reply that decides,
among those that no spin before has taken. They ask nothing but what that takes, and leave the rest
of the stream as it is. -/
theorem spinAll_ends {replies : Nat → QueueReply} {requests : List (Int × Nat)} {s : State}
    (hreplies : ∀ i < allowance requests, s.replyAt i = replies i)
    (htame : ∀ i < allowance requests, (replies i).isTame = true) :
    ∃ rs n es t, spinAll requests s = .ok rs t ∧ Spin.InTurn replies requests rs n es ∧
      s.After es t ∧ (∀ i, t.replyAt i = s.replyAt (n + i)) ∧ ∀ r ∈ rs, r.Counts := by
  induction requests generalizing replies s with
  | nil =>
    refine ⟨[], 0, [], s, rfl, .nil, .refl s, fun i => ?_, by simp⟩
    rw [Nat.zero_add]
  | cons q requests ih =>
    obtain ⟨ceiling, fd⟩ := q
    rw [allowance] at hreplies htame
    have hspin := spin_ends ceiling fd s
    cases hrun : spin ceiling fd s with
    | error f t =>
      obtain ⟨n, hends, -⟩ := hspin.of_error hrun
      obtain ⟨i, hi, hreply⟩ := hends.exists_untame
      rw [hreplies i (by omega), htame i (by omega)] at hreply
      cases hreply
    | ok r t =>
      obtain ⟨n, hends, ht⟩ := hspin.of_ok hrun
      have hle := hends.le_limit
      -- the spins to come see the stream from the place where this one stopped
      obtain ⟨rs, m, es, u, hrest, hturn, hu, hreply, hcounts⟩ :=
        @ih (fun i => replies (n + i)) t
          (fun i hi => by rw [ht.replyAt_eq, hreplies _ (by omega)])
          (fun i hi => htame _ (by omega))
      have hquestions : questions fd s.replyAt n = questions fd replies n := by
        refine List.map_congr_left fun i hi => ?_
        rw [hreplies i (by have := List.mem_range.1 hi; omega)]
      refine ⟨r :: rs, n + m, questions fd replies n ++ es, u, ?_, ?_, ?_, fun i => ?_, ?_⟩
      · rw [spinAll, bind_apply, hrun]
        dsimp only
        rw [bind_apply, hrest]
        rfl
      · exact .cons (hends.congr fun i hi => hreplies i (by omega)) hturn
      · rw [← hquestions]
        exact ht.after.trans hu
      · rw [hreply, ht.replyAt_eq, Nat.add_assoc]
      · exact List.forall_mem_cons.2 ⟨hends.counts (queryLimit_pos ceiling), hcounts⟩

/-- Four spins on two descriptors: the first may ask once only, the second meets an empty queue at
its last question, and a question of each of the others fails. -/
theorem spinAll_ends_of_four :
    let requests : List (Int × Nat) := [(0, 100), (3, 101), (-5, 100), (2, 101)]
    let queue : List QueueReply := [.pending 7, .pending (-3), .raw [1, 0, 0, 0], .pending 0,
      .fault (.system none), .pending 4, .fault (.lookup (some (-2)) none)]
    let replies : Nat → QueueReply := fun i => queue[i]?.getD (.pending i)
    let s : State := { world := { queue } }
    (∀ i < allowance requests, s.replyAt i = replies i) ∧
      (∀ i < allowance requests, (replies i).isTame = true) ∧
        ∃ rs n es t, spinAll requests s = .ok rs t ∧ Spin.InTurn replies requests rs n es ∧
          s.After es t ∧ (∀ i, t.replyAt i = s.replyAt (n + i)) ∧ ∀ r ∈ rs, r.Counts := by
  intro requests queue replies s
  have hreplies : ∀ i < allowance requests, s.replyAt i = replies i := by decide
  have htame : ∀ i < allowance requests, (replies i).isTame = true := by decide
  exact ⟨hreplies, htame, spinAll_ends hreplies htame⟩

end Probe

end RdsReach
