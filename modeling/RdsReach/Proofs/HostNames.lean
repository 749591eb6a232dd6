import Mathlib.Data.List.Basic
import RdsReach.Idna
import RdsReach.Proofs.Outcome

/-!
# Host names as the system takes them

However labels are prepared, a name that is encoded is in ASCII (`Idna.encode_isAscii`), and one
that was in ASCII before is encoded as itself (`Idna.encode_eq_ok_iff_of_isAscii`).
-/

namespace RdsReach

namespace Idna

theorem isAscii_iff {cs : List Char} : isAscii cs = true ↔ ∀ c ∈ cs, c.toNat < 128 := by
  rw [isAscii, List.all_eq_true]
  simp only [decide_eq_true_eq]

theorem isAscii_append {cs cs' : List Char} :
    isAscii (cs ++ cs') = true ↔ isAscii cs = true ∧ isAscii cs' = true := by
  rw [isAscii, List.all_append, Bool.and_eq_true, isAscii, isAscii]

end Idna

open Idna (isAscii isAscii_iff isAscii_append)

/-! ## Punycode -/

namespace Punycode

theorem digit_lt {d : Nat} (h : d < 36) : (digit d).toNat < 128 := by
  have hall : ∀ d < 36, (digit d).toNat < 128 := by decide
  exact hall d h

theorem isAscii_writeNumber (bias position n : Nat) :
    isAscii (writeNumber bias position n) = true := by
  fun_induction writeNumber bias position n with
  | case1 position n t hlt =>
    have ht := threshold_bounds bias position
    have hdigit : (digit n).toNat < 128 := digit_lt (by omega)
    simpa [isAscii] using hdigit
  | case2 position n t hge ih =>
    have ht := threshold_bounds bias position
    have hrest : (n - t) % (36 - t) < 36 - t := Nat.mod_lt _ (by omega)
    have hdigit : (digit (t + (n - t) % (36 - t))).toNat < 128 := digit_lt (by omega)
    rw [isAscii, List.all_cons, Bool.and_eq_true, decide_eq_true_eq]
    exact ⟨hdigit, ih⟩

theorem isAscii_writeGaps (bias written : Nat) (first : Bool) (gaps : List Nat) :
    isAscii (writeGaps bias written first gaps) = true := by
  induction gaps generalizing bias written first with
  | nil => rfl
  | cons gap gaps ih =>
    rw [writeGaps, isAscii_append]
    exact ⟨isAscii_writeNumber bias 36 gap, ih _ _ _⟩

theorem isAscii_encode (cs : List Char) : isAscii (encode cs) = true := by
  have hbasic : isAscii (cs.filter (·.toNat < 128)) = true :=
    isAscii_iff.2 fun c hc => of_decide_eq_true (List.mem_filter.1 hc).2
  rw [encode, List.partition_eq_filter_filter]
  dsimp only
  rw [isAscii_append, isAscii_append]
  refine ⟨⟨hbasic, ?_⟩, isAscii_writeGaps _ _ _ _⟩
  split
  · rfl
  · decide

end Punycode

namespace Idna

variable {prepare : Nameprep} {cs name : List Char}

/-! ## Labels -/

theorem of_sized {label out : List Char} (h : sized label = .ok out) :
    isInnerLabel label = true ∧ out = label := by
  unfold sized at h
  split at h
  · next hinner => exact ⟨hinner, (Except.ok.inj h).symm⟩
  · cases h

/-- A label that is encoded is in ASCII, and is neither empty nor long. -/
theorem encodeLabel_spec {label out : List Char} (h : encodeLabel prepare label = .ok out) :
    isAscii out = true ∧ isInnerLabel out = true := by
  have hsized {label : List Char} (hascii : isAscii label = true) (h : sized label = .ok out) :
      isAscii out = true ∧ isInnerLabel out = true := by
    obtain ⟨hinner, rfl⟩ := of_sized h
    exact ⟨hascii, hinner⟩
  unfold encodeLabel at h
  split at h
  · next hascii => exact hsized hascii h
  · obtain ⟨prepared, -, h⟩ := exists_of_bind_eq_ok h
    split at h
    · next hascii => exact hsized hascii h
    · split at h
      · cases h
      · exact hsized (isAscii_append.2 ⟨by decide, Punycode.isAscii_encode prepared⟩) h

theorem encodeLabels_isAscii (labels : List (List Char)) {outs : List (List Char)}
    (h : labels.mapM (encodeLabel prepare) = .ok outs) : ∀ out ∈ outs, isAscii out = true := by
  induction labels generalizing outs with
  | nil =>
    cases h
    exact nofun
  | cons label labels ih =>
    rw [List.mapM_cons] at h
    obtain ⟨out, hout, h⟩ := exists_of_bind_eq_ok h
    obtain ⟨rest, hrest, h⟩ := exists_of_bind_eq_ok h
    cases h
    exact List.forall_mem_cons.2 ⟨(encodeLabel_spec hout).1, ih hrest⟩

/-! ## Names -/

theorem isAscii_intercalate {outs : List (List Char)} (h : ∀ out ∈ outs, isAscii out = true) :
    isAscii (['.'].intercalate outs) = true := by
  induction outs with
  | nil => rfl
  | cons out outs ih =>
    have hout := h out List.mem_cons_self
    have hrest := ih fun out hout => h out (List.mem_cons_of_mem _ hout)
    cases outs with
    | nil =>
      rw [List.intercalate_singleton]
      exact hout
    | cons out' outs =>
      rw [List.intercalate_cons_cons, isAscii_append, isAscii_append]
      exact ⟨⟨hout, by decide⟩, hrest⟩

/-- A name in ASCII is taken as it is, if its labels are neither empty nor long. -/
theorem encode_eq_ok_iff_of_isAscii (h : isAscii cs = true) :
    encode prepare cs = .ok name ↔ checkLabels (Text.parts '.' cs) = .ok () ∧ name = cs := by
  rw [encode, if_pos h]
  cases checkLabels (Text.parts '.' cs) with
  | ok _ =>
    show Except.ok cs = .ok name ↔ _
    rw [Except.ok.injEq, eq_comm]
    exact (and_iff_right rfl).symm
  | error reason => exact ⟨nofun, fun h => nomatch h.1⟩

/-- The system gets names in ASCII only. -/
theorem encode_isAscii (h : encode prepare cs = .ok name) : isAscii name = true := by
  cases hcs : isAscii cs with
  | true =>
    rw [((encode_eq_ok_iff_of_isAscii hcs).1 h).2]
    exact hcs
  | false =>
    rw [encode, if_neg (by rw [hcs]; exact Bool.false_ne_true)] at h
    obtain ⟨outs, houts, hname⟩ := exists_of_bind_eq_ok (ok_of_mapError h)
    have htail : isAscii (labels cs).2 = true := by
      rw [labels]
      split <;> rfl
    rw [← Except.ok.inj hname, isAscii_append]
    exact ⟨isAscii_intercalate (encodeLabels_isAscii _ houts), htail⟩

end Idna

end RdsReach
