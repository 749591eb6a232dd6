import RdsReach.Proofs.Faithful.Run

/-!
# The events of spinning

Spinning on a socket asks its queue at least once and at most as often as the ceiling allows, and
does nothing else. It fails only for a reason that is found in the events or in the replies that
the world holds (`Unanswered`).
-/

namespace RdsReach

/-- A fault that the program can report: one of a class that it takes for an error, with an error
number that has a text. -/
def Fault.isReportable (catches : Fault → Bool) (g : Fault) : Bool :=
  catches g && Errno.inRange g.errno

/-- Events that are all questions about the queue of one descriptor. -/
def Queries (fd : Nat) (qs : List Event) : Prop := ∀ e ∈ qs, ∃ o, e = .call fd .queryQueue o

/-- A question was not answered with a number of bytes or an error of the system: it raised another
fault, or one of the replies that there are cannot be read. -/
def Unanswered (replies : List QueueReply) (qs : List Event) : Prop :=
  (∃ e ∈ qs, ∃ g, e.fault? = some g ∧ g.isReportable Fault.isSystem = false) ∨
    ∃ r ∈ replies, r.isReadable = false

theorem Unanswered.append_left {replies : List QueueReply} {qs qs' : List Event}
    (h : Unanswered replies qs') : Unanswered replies (qs ++ qs') := by
  refine h.imp ?_ id
  rintro ⟨e, he, hg⟩
  exact ⟨e, List.mem_append_right _ he, hg⟩

theorem Unanswered.mono {replies replies' : List QueueReply} {qs : List Event}
    (hsub : replies ⊆ replies') (h : Unanswered replies qs) : Unanswered replies' qs := by
  refine h.imp id ?_
  rintro ⟨r, hr, hread⟩
  exact ⟨r, hsub hr, hread⟩

/-- The outcome of spinning counts no more than `n` answers, and shows an error number that has a
text. -/
structure Spin.Within (r : Spin) (n : Nat) : Prop where
  spins_nonneg : 0 ≤ r.spins
  spins_le : r.spins ≤ n
  errno_inRange : ∀ errno, r.outcome = .queryFailed errno → Errno.inRange errno = true

/-- Small numbers have a text. -/
theorem Decimal.lt_limit {n : Nat} (h : n < 10000000000) : n < limit := by
  have hgrows {m : Nat} (hm : 10 ≤ m) : Nat.pow 10 10 ≤ Nat.pow 10 m :=
    Nat.pow_le_pow_right (by decide) hm
  unfold limit
  exact Nat.lt_of_lt_of_le h (hgrows (by decide))

/-- The count of an outcome has a text, unless a number of answers beyond all texts was counted. -/
theorem Spin.Within.printable {r : Spin} {n : Nat} (h : r.Within n) (hn : n < Decimal.limit) :
    Decimal.isPrintable r.count = true := by
  have hnonneg := h.spins_nonneg
  have hle := h.spins_le
  rw [Decimal.isPrintable_iff]
  -- the count is that of the answers or, after a failed question, the negated error number
  unfold Spin.count Spin.failedErrno?
  split
  · next errno herrno =>
    have hrange : Errno.inRange errno = true := by
      refine h.errno_inRange errno ?_
      split at herrno
      · next e he =>
        injection herrno with herrno
        exact herrno ▸ he
      · cases herrno
    simp only [Errno.inRange, Bool.and_eq_true, decide_eq_true_eq] at hrange
    apply Decimal.lt_limit
    split <;> omega
  · omega

namespace Probe

open State (After)

variable {s : State}

/-- A query failure is told apart from all others by its own kind. -/
theorem told_queueQuery (g : Fault) :
    told Fault.isSystem (fun f => .queueQuery f.errno) g =
      if g.isReportable Fault.isSystem then .queueQuery g.errno
      else if g.isSystem then .fault .outOfRange else .fault g := by
  unfold told Fault.isReportable Failure.settled
  cases g.isSystem <;> cases h : Errno.inRange g.errno <;>
    simp [Failure.reportedErrno, Failure.numbers, h]

/-- A question is answered, with an error number at worst, or ends the spinning for a reason. -/
theorem tryQuery_spec (fd : Nat) (s : State) :
    Meets (tryQuery fd) s
      (fun a t => ∃ o, s.After [.call fd .queryQueue o] t ∧
        ∀ errno, a = .error errno → Errno.inRange errno = true)
      fun _ t => ∃ o, s.After [.call fd .queryQueue o] t ∧
        Unanswered s.world.queue [.call fd .queryQueue o] := by
  rw [tryQuery, meets_tryCatch, meets_map, meets_onFault]
  refine (queryQueue_spec fd s).mono (fun _ t ht => ⟨none, ht, by simp⟩) ?_
  rintro f t (⟨g, rfl, ht⟩ | ⟨rfl, ht, hread⟩)
  · dsimp only
    rw [told_queueQuery]
    cases hg : g.isReportable Fault.isSystem with
    | true =>
      refine ⟨some g, ht, ?_⟩
      rintro errno ⟨⟩
      exact (Bool.and_eq_true_iff.1 hg).2
    | false =>
      have hwhy : Unanswered s.world.queue [.call fd .queryQueue (some g)] :=
        .inl ⟨_, List.mem_singleton_self _, g, rfl, hg⟩
      cases g.isSystem
      · exact ⟨some g, ht, hwhy⟩
      · exact ⟨some g, ht, hwhy⟩
  · exact ⟨none, ht, .inr hread⟩

theorem spinFrom_spec (fd left spins : Nat) (s : State) :
    Meets (spinFrom fd left spins) s
      (fun r t => ∃ qs, s.After qs t ∧ Queries fd qs ∧ qs.length ≤ left ∧ (left ≠ 0 → qs ≠ []) ∧
        r.Within (spins + qs.length))
      fun _ t => ∃ qs, s.After qs t ∧ Queries fd qs ∧ qs.length ≤ left ∧ qs ≠ [] ∧
        Unanswered s.world.queue qs := by
  -- on the questions that are left; `spins` counts the answers so far
  induction left generalizing spins s with
  | zero =>
    refine ⟨[], .refl s, by simp [Queries], by simp, by simp, ?_⟩
    exact ⟨by simp, by simp, by simp⟩
  | succ left ih =>
    rw [spinFrom]
    have hquery := (tryQuery_spec fd s).and (tryQuery_faithful fd s)
    refine meets_bind.2 (hquery.mono ?_ ?_)
    · rintro a t ⟨⟨o, ht, herrno⟩, hpass⟩
      have hq : Queries fd [.call fd .queryQueue o] := by simp [Queries]
      cases a with
      | error errno =>
        have hle : ((spins : Nat) : Int) ≤ (spins + 1 : Nat) := Int.ofNat_le.2 (Nat.le_succ spins)
        refine ⟨_, ht, hq, by simp, by simp, Int.natCast_nonneg _, hle, ?_⟩
        rintro e ⟨⟩
        exact herrno errno rfl
      | ok pending =>
        dsimp only
        split
        · exact ⟨_, ht, hq, by simp, by simp, by simp; omega, by simp, by simp⟩
        -- bytes are pending, so the queue is asked again
        · refine (ih (spins + 1) t).mono ?_ ?_
          · rintro r u ⟨qs, hu, hqs, hlen, -, hwithin⟩
            refine ⟨_, ht.trans hu, List.forall_mem_append.2 ⟨hq, hqs⟩, ?_, by simp, ?_⟩
            · rw [List.length_append, List.length_singleton]
              omega
            · rw [List.length_append, List.length_singleton, ← Nat.add_assoc]
              exact hwithin
          · rintro f u ⟨qs, hu, hqs, hlen, -, hwhy⟩
            refine ⟨_, ht.trans hu, List.forall_mem_append.2 ⟨hq, hqs⟩, ?_, by simp, ?_⟩
            · rw [List.length_append, List.length_singleton]
              omega
            · exact (hwhy.mono hpass.queue_subset).append_left
    · rintro f t ⟨⟨o, ht, hwhy⟩, -⟩
      exact ⟨_, ht, by simp [Queries], by simp, by simp, hwhy⟩

theorem queryLimit_pos (ceiling : Int) : 1 ≤ queryLimit ceiling := Nat.le_max_left ..

/-- One spin asks at least once and no more often than the ceiling allows. -/
theorem spin_spec (ceiling : Int) (fd : Nat) (s : State) :
    Meets (spin ceiling fd) s
      (fun r t => ∃ qs, s.After qs t ∧ Queries fd qs ∧ qs ≠ [] ∧
        qs.length ≤ queryLimit ceiling ∧ r.Within qs.length)
      fun _ t => ∃ qs, s.After qs t ∧ Queries fd qs ∧ qs ≠ [] ∧
        qs.length ≤ queryLimit ceiling ∧ Unanswered s.world.queue qs := by
  have hpos := queryLimit_pos ceiling
  refine (spinFrom_spec fd (queryLimit ceiling) 0 s).mono ?_ ?_
  · rintro r t ⟨qs, ht, hqs, hlen, hne, hwithin⟩
    rw [Nat.zero_add] at hwithin
    exact ⟨qs, ht, hqs, hne (by omega), hlen, hwithin⟩
  · rintro f t ⟨qs, ht, hqs, hlen, hne, hwhy⟩
    exact ⟨qs, ht, hqs, hne, hlen, hwhy⟩

end Probe

end RdsReach
