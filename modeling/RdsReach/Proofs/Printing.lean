import RdsReach.Proofs.Numerals
import RdsReach.Text.Parts

/-!
# Numbers and parts as they are printed

Two things are undone by reading: a number that is written in a base up to 16
(`Numeral.positional_toDigits`), and texts that are joined by a separator that none of them holds
(`Text.parts_intercalate`).
-/

namespace RdsReach

/-! ## Parts -/

namespace Text

variable {separator : Char}

/-- Parting a text at one of its separators parts what is before and what is after it. -/
theorem parts_append (as bs : List Char) :
    parts separator (as ++ separator :: bs) = parts separator as ++ parts separator bs := by
  induction as with
  | nil => simp [parts]
  | cons c as ih =>
    rw [List.cons_append, parts, parts, ih]
    split
    · rfl
    · cases h : parts separator as with
      | nil => exact absurd h (parts_ne_nil separator as)
      | cons p ps => rfl

/-- A text without separators is one part. -/
theorem parts_of_not_mem {cs : List Char} (h : separator ∉ cs) : parts separator cs = [cs] := by
  induction cs with
  | nil => rfl
  | cons c cs ih =>
    rw [List.mem_cons, not_or] at h
    obtain ⟨hc, hcs⟩ := h
    rw [parts, if_neg (Ne.symm hc), ih hcs]

/-- Joined texts fall into the texts that were joined. -/
theorem parts_intercalate {ps : List (List Char)} (hne : ps ≠ []) (h : ∀ p ∈ ps, separator ∉ p) :
    parts separator ([separator].intercalate ps) = ps := by
  induction ps with
  | nil => exact absurd rfl hne
  | cons p ps ih =>
    obtain ⟨hp, hps⟩ := List.forall_mem_cons.1 h
    cases ps with
    | nil => rw [List.intercalate_singleton, parts_of_not_mem hp]
    | cons q ps =>
      rw [List.intercalate_cons_cons, List.append_assoc, List.singleton_append, parts_append,
        parts_of_not_mem hp, ih (List.cons_ne_nil q ps) hps, List.singleton_append]

/-- A character that is no separator is in one of the parts. -/
theorem exists_mem_parts {cs : List Char} {c : Char} (hc : c ∈ cs) (hne : c ≠ separator) :
    ∃ p ∈ parts separator cs, c ∈ p := by
  obtain ⟨as, bs, rfl⟩ := List.append_of_mem hc
  induction as with
  | nil =>
    rw [List.nil_append, parts, if_neg hne]
    split
    · exact ⟨[c], List.mem_singleton_self _, List.mem_singleton_self _⟩
    · exact ⟨_, List.mem_cons_self, List.mem_cons_self⟩
  | cons a as ih =>
    obtain ⟨p, hp, hcp⟩ := ih (by simp)
    rw [List.cons_append, parts]
    split
    · exact ⟨p, List.mem_cons_of_mem _ hp, hcp⟩
    · split
      · next h => exact absurd h (parts_ne_nil _ _)
      · next q qs h =>
        rw [h] at hp
        rcases List.mem_cons.1 hp with rfl | hp
        · exact ⟨a :: p, List.mem_cons_self, List.mem_cons_of_mem _ hcp⟩
        · exact ⟨p, List.mem_cons_of_mem _ hp, hcp⟩

end Text

/-! ## Digits -/

namespace Numeral

/-- A digit is written as one of its value. -/
theorem isDigitOf_digitChar {base d : Nat} (hbase : base ≤ 16) (hd : d < base) :
    IsDigitOf base d.digitChar d := by
  have hrow : ∀ d < 16, "0123456789abcdef".toList[d]? = some d.digitChar := by decide
  exact ⟨hd, .inl (hrow d (Nat.lt_of_lt_of_le hd hbase))⟩

theorem positional_concat {base m d : Nat} {cs : List Char} {c : Char} (hcs : Positional base cs m)
    (hc : IsDigitOf base c d) : Positional base (cs ++ [c]) (base * m + d) := by
  obtain ⟨ds, hds, rfl⟩ := hcs
  refine ⟨ds ++ [d], List.rel_append hds (.cons hc .nil), ?_⟩
  rw [List.reverse_append, List.reverse_singleton, List.singleton_append, Nat.ofDigits_cons,
    Nat.add_comm]

/-- A number is written as a row of digits whose value it is. -/
theorem positional_toDigits {base : Nat} (hone : 1 < base) (hbase : base ≤ 16) (n : Nat) :
    Positional base (Nat.toDigits base n) n := by
  induction n using Nat.strongRecOn with
  | ind n ih =>
    rw [Nat.toDigits_eq_if hone]
    split
    · next hn =>
      have hempty : Positional base [] 0 := ⟨[], .nil, rfl⟩
      simpa using positional_concat hempty (isDigitOf_digitChar hbase hn)
    · next hn =>
      have hless : n / base < n := Nat.div_lt_self (by omega) hone
      have hdigit := isDigitOf_digitChar hbase (Nat.mod_lt n (by omega : 0 < base))
      have hrow := positional_concat (ih _ hless) hdigit
      rwa [Nat.div_add_mod] at hrow

/-- No number but zero is written with a zero in front. -/
theorem head?_toDigits {base n : Nat} (hone : 1 < base) (hn : n ≠ 0) :
    (Nat.toDigits base n).head? ≠ some '0' := by
  induction n using Nat.strongRecOn with
  | ind n ih =>
    rw [Nat.toDigits_eq_if hone]
    split
    · simpa using hn
    · next hle =>
      have hless : n / base < n := Nat.div_lt_self (by omega) hone
      have hpos : n / base ≠ 0 := by
        have := Nat.div_pos (Nat.not_lt.1 hle) (by omega)
        omega
      rw [List.head?_append_of_ne_nil _ Nat.toDigits_ne_nil]
      exact ih _ hless hpos

/-- A number that is written in decimal is read as the number, if it is short enough. -/
theorem read_toString {n : Nat} (h : (toString n).length ≤ Decimal.maxDigits) :
    read (toString n) = .ok n := by
  have htext : toString n = String.ofList (Nat.toDigits 10 n) := rfl
  rw [htext, String.length_ofList] at h
  rw [htext]
  apply read_of_number
  by_cases hn : n = 0
  · rw [hn]
    exact .zero
  · exact .decimal (positional_toDigits (by decide) (by decide) n) Nat.toDigits_ne_nil
      (head?_toDigits (by decide) hn) h

end Numeral

end RdsReach
