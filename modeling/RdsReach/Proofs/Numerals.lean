import Mathlib.Data.List.Forall2
import Mathlib.Data.List.Induction
import Mathlib.Data.List.TakeWhile
import Mathlib.Data.Nat.Digits.Defs
import RdsReach.Numeral

/-!
# The grammar of numerals

`Numeral.Denotes` is the grammar of the numerals of the command line together with the numbers that
they denote: a number in one of three bases, which is the positional value of its digits, and a
factor for the suffix. `Numeral.read_eq_ok_iff` says that a text is read exactly if what is left of
it without the blanks at its ends belongs to the grammar, and as that number.
-/

namespace RdsReach

/-! ## Blanks at the ends -/

namespace Text

/-- `t` is what is left of a text without the blanks at its ends. -/
structure Stripped (cs t : List Char) : Prop where
  split : ∃ before after, cs = before ++ t ++ after ∧ ∀ c ∈ before ++ after, isBlank c = true
  head : ∀ c, t.head? = some c → isBlank c = false
  last : ∀ c, t.getLast? = some c → isBlank c = false

theorem head_dropWhile_isBlank (cs : List Char) {c : Char}
    (h : (cs.dropWhile isBlank).head? = some c) : isBlank c = false := by
  have hnot := List.head?_dropWhile_not isBlank cs
  rw [h] at hnot
  simpa using hnot

/-- Trimming takes the blanks off both ends and nothing else. -/
theorem stripped_trim (cs : List Char) : Stripped cs (trim cs) := by
  have hfront : cs = cs.takeWhile isBlank ++ cs.dropWhile isBlank :=
    List.takeWhile_append_dropWhile.symm
  set rest := cs.dropWhile isBlank with hrest
  have hback : rest = trim cs ++ (rest.reverse.takeWhile isBlank).reverse := by
    rw [trim, ← hrest, ← List.reverse_append, List.takeWhile_append_dropWhile, List.reverse_reverse]
  refine ⟨⟨cs.takeWhile isBlank, (rest.reverse.takeWhile isBlank).reverse, ?_, ?_⟩, ?_, ?_⟩
  · rw [List.append_assoc, ← hback]
    exact hfront
  · intro c hc
    rcases List.mem_append.1 hc with hc | hc
    · exact List.mem_takeWhile_imp hc
    · exact List.mem_takeWhile_imp (List.mem_reverse.1 hc)
  · -- the first character that is left is the first one after the blanks in front
    intro c hc
    apply head_dropWhile_isBlank cs
    rw [← hrest, hback, List.head?_append, hc, Option.some_or]
  · intro c hc
    apply head_dropWhile_isBlank rest.reverse
    rw [trim, List.getLast?_reverse] at hc
    exact hc

end Text

namespace Numeral

/-! ## Digits -/

/-- The character is the digit of a value in a base up to 16; digits above nine have two cases. -/
def IsDigitOf (base : Nat) (c : Char) (d : Nat) : Prop :=
  d < base ∧ ("0123456789abcdef".toList[d]? = some c ∨ "0123456789ABCDEF".toList[d]? = some c)

instance (base : Nat) (c : Char) (d : Nat) : Decidable (IsDigitOf base c d) :=
  inferInstanceAs (Decidable (_ ∧ _))

/-- The characters are digits of a base, and their positional value is the number. -/
def Positional (base : Nat) (cs : List Char) (n : Nat) : Prop :=
  ∃ ds, List.Forall₂ (IsDigitOf base) cs ds ∧ n = Nat.ofDigits base ds.reverse

/-- A character class is that of the digits of a base if it is among the ASCII characters. -/
theorem isDigitOf_iff {base : Nat} {isDigit : Char → Bool} {c : Char} {d : Nat} (hbase : base ≤ 16)
    (hascii : ∀ c, isDigit c = true → c.toNat < 128)
    (hdigits : ∀ k < 128, isDigit (Char.ofNat k) = true ↔
      IsDigitOf base (Char.ofNat k) (digitValue (Char.ofNat k))) :
    IsDigitOf base c d ↔ isDigit c = true ∧ d = digitValue c := by
  have hrows : ∀ d < 16, ("0123456789abcdef".toList[d]?.toList ++
      "0123456789ABCDEF".toList[d]?.toList).all (fun c => c.toNat < 128 ∧ d = digitValue c) := by
    decide
  constructor
  · intro h
    have hmem : c ∈ "0123456789abcdef".toList[d]?.toList ++
        "0123456789ABCDEF".toList[d]?.toList := by
      simpa [Option.mem_toList, eq_comm] using h.2
    have hrow := List.all_eq_true.1 (hrows d (Nat.lt_of_lt_of_le h.1 hbase)) c hmem
    obtain ⟨hc, hd⟩ := of_decide_eq_true hrow
    have hdigit := hdigits c.toNat hc
    rw [Char.ofNat_toNat, ← hd] at hdigit
    exact ⟨hdigit.2 h, hd⟩
  · rintro ⟨hc, rfl⟩
    have hdigit := hdigits c.toNat (hascii c hc)
    rw [Char.ofNat_toNat] at hdigit
    exact hdigit.1 hc

theorem isDigitOf_octal {c : Char} {d : Nat} :
    IsDigitOf 8 c d ↔ isOctalDigit c = true ∧ d = digitValue c := by
  refine isDigitOf_iff (by decide) (fun c hc => ?_) (by decide +kernel)
  have hle : c ≤ '7' := of_decide_eq_true (Bool.and_eq_true_iff.1 hc).2
  exact Nat.lt_of_le_of_lt hle (by decide)

theorem isDigitOf_decimal {c : Char} {d : Nat} :
    IsDigitOf 10 c d ↔ c.isDigit = true ∧ d = digitValue c := by
  refine isDigitOf_iff (by decide) (fun c hc => ?_) (by decide +kernel)
  have hle : c ≤ '9' := of_decide_eq_true (Bool.and_eq_true_iff.1 hc).2
  exact Nat.lt_of_le_of_lt hle (by decide)

theorem isDigitOf_hex {c : Char} {d : Nat} :
    IsDigitOf 16 c d ↔ isHexDigit c = true ∧ d = digitValue c := by
  refine isDigitOf_iff (by decide) (fun c hc => ?_) (by decide +kernel)
  have hle {a : Char} (h : c ≤ a) (ha : a.toNat < 128) : c.toNat < 128 := Nat.lt_of_le_of_lt h ha
  simp only [isHexDigit, Bool.or_eq_true, Bool.and_eq_true, decide_eq_true_eq] at hc
  rcases hc with (hc | ⟨-, hc⟩) | ⟨-, hc⟩
  · exact hle (a := '9') (of_decide_eq_true (Bool.and_eq_true_iff.1 hc).2) (by decide)
  · exact hle hc (by decide)
  · exact hle hc (by decide)

/-! ## Positional values -/

theorem ofDigits_concat (base : Nat) (cs : List Char) (c : Char) :
    ofDigits base (cs ++ [c]) = ofDigits base cs * base + digitValue c := by
  rw [ofDigits, List.foldl_append, ofDigits]
  rfl

/-- Adding up digits from the left gives their positional value. -/
theorem ofDigits_eq (base : Nat) (cs : List Char) :
    ofDigits base cs = Nat.ofDigits base (cs.map digitValue).reverse := by
  induction cs using List.reverseRecOn with
  | nil => rfl
  | append_singleton cs c ih =>
    rw [ofDigits_concat, ih, List.map_append, List.map_singleton, List.reverse_append,
      List.reverse_singleton, List.singleton_append, Nat.ofDigits_cons, Nat.mul_comm, Nat.add_comm]

section Rows

variable {base : Nat} {isDigit : Char → Bool}
  (hdigit : ∀ {c d}, IsDigitOf base c d ↔ isDigit c = true ∧ d = digitValue c)

include hdigit

theorem forall₂_isDigitOf_iff {cs : List Char} {ds : List Nat} :
    List.Forall₂ (IsDigitOf base) cs ds ↔ cs.all isDigit = true ∧ ds = cs.map digitValue := by
  induction cs generalizing ds with
  | nil => simp
  | cons c cs ih =>
    cases ds with
    | nil => simp
    | cons d ds =>
      rw [List.forall₂_cons, hdigit, ih, List.all_cons, Bool.and_eq_true, List.map_cons,
        List.cons_eq_cons]
      tauto

/-- A row of digits has one positional value, the one that it is read with. -/
theorem positional_iff {cs : List Char} {n : Nat} :
    Positional base cs n ↔ cs.all isDigit = true ∧ n = ofDigits base cs := by
  constructor
  · rintro ⟨ds, hds, rfl⟩
    obtain ⟨hall, rfl⟩ := (forall₂_isDigitOf_iff hdigit).1 hds
    exact ⟨hall, (ofDigits_eq base cs).symm⟩
  · rintro ⟨hall, rfl⟩
    exact ⟨_, (forall₂_isDigitOf_iff hdigit).2 ⟨hall, rfl⟩, ofDigits_eq base cs⟩

end Rows

/-! ## The grammar -/

/-- The digits of a numeral with the mark of their base, and their number. -/
inductive Number : List Char → Nat → Prop
  | zero : Number ['0'] 0
  | decimal {cs : List Char} {n : Nat} (hdigits : Positional 10 cs n) (hne : cs ≠ [])
      (hzero : cs.head? ≠ some '0') (hlength : cs.length ≤ 4300) : Number cs n
  | octal {cs : List Char} {n : Nat} (hdigits : Positional 8 cs n) (hne : cs ≠ []) :
      Number ('0' :: cs) n
  | hex {x : Char} {cs : List Char} {n : Nat} (hx : x = 'x' ∨ x = 'X')
      (hdigits : Positional 16 cs n) (hne : cs ≠ []) : Number ('0' :: x :: cs) n

/-- A suffix and the factor that it stands for. -/
inductive Suffix : List Char → Nat → Prop
  | none : Suffix [] 1
  | kibi {c : Char} (hc : c = 'k' ∨ c = 'K') : Suffix [c] (2 ^ 10)
  | mebi {c : Char} (hc : c = 'm' ∨ c = 'M') : Suffix [c] (2 ^ 20)
  | gibi {c : Char} (hc : c = 'g' ∨ c = 'G') : Suffix [c] (2 ^ 30)

/-- The characters are a numeral of the number. -/
def Denotes (cs : List Char) (n : Nat) : Prop :=
  ∃ digits suffix m factor, cs = digits ++ suffix ∧ Number digits m ∧ Suffix suffix factor ∧
    n = m * factor

/-! ## Reading digits -/

theorem isDigit_of_isOctalDigit {c : Char} (h : isOctalDigit c = true) : c.isDigit = true := by
  obtain ⟨hlow, hhigh⟩ := Bool.and_eq_true_iff.1 h
  have hle : c.toNat ≤ '7'.toNat := of_decide_eq_true hhigh
  exact Bool.and_eq_true_iff.2 ⟨hlow, decide_eq_true (Nat.le_trans hle (by decide))⟩

/-- A leading zero weighs nothing. -/
theorem ofDigits_zero_cons (base : Nat) (cs : List Char) :
    ofDigits base ('0' :: cs) = ofDigits base cs := by
  rw [ofDigits, List.foldl_cons, Nat.zero_mul]
  rfl

/-- Past a check there is a number only if the check finds nothing wrong. -/
theorem checked_eq_ok_iff {p : Prop} [Decidable p] {e : Misread} {r : Except Misread Nat}
    {n : Nat} : (if p then .error e else r) = .ok n ↔ ¬ p ∧ r = .ok n := by
  by_cases hp : p <;> simp [hp]

/-- After the mark of base 16 there are digits of that base and nothing else. -/
theorem readDigits_hex {text : String} {x : Char} {cs : List Char} {n : Nat}
    (hx : x = 'x' ∨ x = 'X') :
    readDigits text ('0' :: x :: cs) = .ok n ↔ Positional 16 cs n ∧ cs ≠ [] := by
  have hmark : (decide (x = 'x') || decide (x = 'X')) = true := by simpa using hx
  rw [readDigits, if_pos hmark, checked_eq_ok_iff, positional_iff isDigitOf_hex, Except.ok.injEq,
    Bool.or_eq_true, not_or, Bool.not_eq_true', Bool.not_eq_false, List.isEmpty_iff, @eq_comm _ n]
  tauto

/-- A leading zero without that mark is followed by digits of base 8. -/
theorem readDigits_octal {text : String} {x : Char} {cs : List Char} {n : Nat}
    (hx : ¬ (x = 'x' ∨ x = 'X')) :
    readDigits text ('0' :: x :: cs) = .ok n ↔ Positional 8 (x :: cs) n := by
  have hmark : ¬ (decide (x = 'x') || decide (x = 'X')) = true := by simpa using hx
  have hoctal : ('0' :: x :: cs).all isOctalDigit = (x :: cs).all isOctalDigit := rfl
  rw [readDigits, if_neg hmark, checked_eq_ok_iff, checked_eq_ok_iff, hoctal, ofDigits_zero_cons,
    positional_iff isDigitOf_octal, Except.ok.injEq, Bool.not_eq_true', Bool.not_eq_true',
    Bool.not_eq_false, Bool.not_eq_false, @eq_comm _ n]
  -- what is octal is decimal too, so the first of the two checks says nothing new
  refine ⟨And.right, fun h => ⟨?_, h⟩⟩
  rw [List.all_cons, Bool.and_eq_true]
  refine ⟨rfl, List.all_eq_true.2 fun c hc => ?_⟩
  exact isDigit_of_isOctalDigit (List.all_eq_true.1 h.1 c hc)

/-- Without a leading zero all is base 10, as is a zero alone. -/
theorem readDigits_decimal {text : String} {cs : List Char} {n : Nat}
    (hcs : ∀ x ds, cs ≠ '0' :: x :: ds) :
    readDigits text cs = .ok n ↔ Positional 10 cs n ∧ cs ≠ [] ∧ cs.length ≤ Decimal.maxDigits := by
  rw [readDigits]
  · rw [checked_eq_ok_iff, checked_eq_ok_iff, positional_iff isDigitOf_decimal, Except.ok.injEq,
      Bool.or_eq_true, not_or, Bool.not_eq_true', Bool.not_eq_false, List.isEmpty_iff, Nat.not_lt,
      @eq_comm _ n]
    tauto
  · exact hcs

theorem positional_zero_iff {n : Nat} : Positional 10 ['0'] n ↔ n = 0 := by
  rw [positional_iff isDigitOf_decimal]
  exact and_iff_right rfl

/-- After a leading zero the next character decides between the bases 16 and 8. -/
theorem number_zero_cons_iff {x : Char} {cs : List Char} {n : Nat} :
    Number ('0' :: x :: cs) n ↔
      if x = 'x' ∨ x = 'X' then Positional 16 cs n ∧ cs ≠ [] else Positional 8 (x :: cs) n := by
  constructor
  · rintro (_ | ⟨-, -, hzero, -⟩ | ⟨hdigits, -⟩ | ⟨hx, hdigits, hne⟩)
    · exact absurd rfl hzero
    · -- neither mark is a digit of base 8
      rw [if_neg ?_]
      · exact hdigits
      · rintro (rfl | rfl) <;>
          exact absurd ((positional_iff isDigitOf_octal).1 hdigits).1 (by simp [isOctalDigit])
    · rw [if_pos hx]
      exact ⟨hdigits, hne⟩
  · intro h
    split at h
    case isTrue hx => exact .hex hx h.1 h.2
    case isFalse => exact .octal h (List.cons_ne_nil x cs)

/-- All that does not go on after a leading zero is in base 10. -/
theorem number_iff_decimal {cs : List Char} {n : Nat} (hcs : ∀ x ds, cs ≠ '0' :: x :: ds) :
    Number cs n ↔ Positional 10 cs n ∧ cs ≠ [] ∧ cs.length ≤ Decimal.maxDigits := by
  constructor
  · rintro (_ | ⟨hdigits, hne, -, hlength⟩ | ⟨-, hne⟩ | _)
    · exact ⟨positional_zero_iff.2 rfl, List.cons_ne_nil _ _, by decide⟩
    · exact ⟨hdigits, hne, hlength⟩
    · obtain ⟨x, ds, rfl⟩ := List.exists_cons_of_ne_nil hne
      exact absurd rfl (hcs x ds)
    · exact absurd rfl (hcs _ _)
  · rintro ⟨hdigits, hne, hlength⟩
    obtain ⟨c, ds, rfl⟩ := List.exists_cons_of_ne_nil hne
    by_cases hc : c = '0'
    · subst hc
      cases ds with
      | nil => exact positional_zero_iff.1 hdigits ▸ .zero
      | cons x ds => exact absurd rfl (hcs x ds)
    · exact .decimal hdigits hne (by simpa using hc) hlength

/-- The digits of a numeral are read as their number, and nothing else is read. -/
theorem readDigits_eq_ok_iff {text : String} {cs : List Char} {n : Nat} :
    readDigits text cs = .ok n ↔ Number cs n := by
  by_cases hcs : ∃ x ds, cs = '0' :: x :: ds
  · obtain ⟨x, ds, rfl⟩ := hcs
    rw [number_zero_cons_iff]
    split
    case isTrue hx => exact readDigits_hex hx
    case isFalse hx => exact readDigits_octal hx
  · have hcs : ∀ x ds, cs ≠ '0' :: x :: ds := fun x ds h => hcs ⟨x, ds, h⟩
    rw [number_iff_decimal hcs]
    exact readDigits_decimal hcs

/-! ## The suffix -/

theorem suffix_singleton_iff {c : Char} {factor : Nat} :
    Suffix [c] factor ↔ ∃ shift, suffixShift? c = some shift ∧ factor = 2 ^ shift := by
  constructor
  · rintro (_ | ⟨rfl | rfl⟩ | ⟨rfl | rfl⟩ | ⟨rfl | rfl⟩) <;> exact ⟨_, rfl, rfl⟩
  · rintro ⟨shift, hshift, rfl⟩
    simp only [suffixShift?, Bool.or_eq_true, decide_eq_true_eq] at hshift
    split_ifs at hshift with hkibi hmebi hgibi <;> cases hshift
    · exact .kibi hkibi
    · exact .mebi hmebi
    · exact .gibi hgibi

/-- What holds of the digits of all bases holds of those of a row. -/
theorem forall_of_positional {p : Char → Bool}
    (hp : "0123456789abcdefABCDEFxX".toList.all p = true) {base : Nat} {cs : List Char} {n : Nat}
    (h : Positional base cs n) : ∀ c ∈ cs, p c = true := by
  have hlower : "0123456789abcdef".toList ⊆ "0123456789abcdefABCDEFxX".toList := by decide
  have hupper : "0123456789ABCDEF".toList ⊆ "0123456789abcdefABCDEFxX".toList := by decide
  obtain ⟨ds, hds, -⟩ := h
  induction hds with
  | nil => simp
  | cons hdigit _ ih =>
    refine List.forall_mem_cons.2 ⟨List.all_eq_true.1 hp _ ?_, ih⟩
    rcases hdigit.2 with hc | hc
    · exact hlower (List.mem_of_getElem? hc)
    · exact hupper (List.mem_of_getElem? hc)

/-- What holds of all digits and of the mark of base 16 holds of the characters of a number. -/
theorem forall_of_number {p : Char → Bool}
    (hp : "0123456789abcdefABCDEFxX".toList.all p = true) {cs : List Char} {n : Nat}
    (h : Number cs n) : ∀ c ∈ cs, p c = true := by
  have hmem : ∀ c ∈ "0123456789abcdefABCDEFxX".toList, p c = true := List.all_eq_true.1 hp
  have hzero : p '0' = true := hmem '0' (by decide)
  cases h with
  | zero => exact List.forall_mem_singleton.2 hzero
  | decimal hdigits => exact forall_of_positional hp hdigits
  | octal hdigits => exact List.forall_mem_cons.2 ⟨hzero, forall_of_positional hp hdigits⟩
  | hex hx hdigits =>
    have hmark : ∀ x, x = 'x' ∨ x = 'X' → p x = true := by
      rintro x (rfl | rfl)
      · exact hmem 'x' (by decide)
      · exact hmem 'X' (by decide)
    exact List.forall_mem_cons.2 ⟨hzero, List.forall_mem_cons.2
      ⟨hmark _ hx, forall_of_positional hp hdigits⟩⟩

/-- No character of a number is a suffix, the mark of base 16 included. -/
theorem suffixShift?_of_number {cs : List Char} {n : Nat} (h : Number cs n) :
    ∀ c ∈ cs, suffixShift? c = none := by
  simpa using forall_of_number (p := fun c => suffixShift? c = none) (by decide) h

theorem splitSuffix_of_number {cs : List Char} {n : Nat} (h : Number cs n) :
    splitSuffix cs = (cs, 0) := by
  have hnone : cs.getLast?.bind suffixShift? = none :=
    Option.bind_eq_none_iff.2 fun c hc => suffixShift?_of_number h c (List.mem_of_getLast? hc)
  rw [splitSuffix, hnone]

theorem splitSuffix_concat {cs : List Char} {c : Char} {shift : Nat}
    (h : suffixShift? c = some shift) : splitSuffix (cs ++ [c]) = (cs, shift) := by
  rw [splitSuffix, List.getLast?_concat, Option.bind_some, h, List.dropLast_concat]

/-- The suffix is split off without a look at the digits, and where it belongs to them there is no
numeral either way. -/
theorem denotes_iff {cs : List Char} {n : Nat} :
    Denotes cs n ↔ ∃ m, Number (splitSuffix cs).1 m ∧ n = m * 2 ^ (splitSuffix cs).2 := by
  constructor
  · rintro ⟨digits, suffix, m, factor, rfl, hnumber, hsuffix, rfl⟩
    refine ⟨m, ?_⟩
    have hsplit :
        ∃ shift, splitSuffix (digits ++ suffix) = (digits, shift) ∧ factor = 2 ^ shift := by
      match suffix, hsuffix with
      | [], .none => exact ⟨0, by rw [List.append_nil, splitSuffix_of_number hnumber], rfl⟩
      | [c], hsuffix =>
        obtain ⟨shift, hshift, hfactor⟩ := suffix_singleton_iff.1 hsuffix
        exact ⟨shift, splitSuffix_concat hshift, hfactor⟩
    obtain ⟨shift, hsplit, rfl⟩ := hsplit
    rw [hsplit]
    exact ⟨hnumber, rfl⟩
  · rintro ⟨m, hnumber, rfl⟩
    unfold splitSuffix at hnumber ⊢
    split at hnumber
    case h_1 shift hshift =>
      obtain ⟨c, hc, hshift⟩ := Option.bind_eq_some_iff.1 hshift
      exact ⟨cs.dropLast, [c], m, _, (List.dropLast_append_getLast? c hc).symm, hnumber,
        suffix_singleton_iff.2 ⟨shift, hshift, rfl⟩, rfl⟩
    case h_2 => exact ⟨cs, [], m, 1, (List.append_nil cs).symm, hnumber, .none, rfl⟩

/-- A number without a suffix and without blanks around it is read. -/
theorem read_of_number {cs : List Char} {n : Nat} (h : Number cs n) :
    read (String.ofList cs) = .ok n := by
  have hblank : ∀ c ∈ cs, (!Text.isBlank c) = true := forall_of_number (by decide) h
  have hkeep {ds : List Char} (hds : ∀ c ∈ ds, c ∈ cs) : ds.dropWhile Text.isBlank = ds := by
    rw [List.dropWhile_eq_self_iff]
    intro hlength
    simpa using hblank _ (hds _ (List.getElem_mem hlength))
  have htrim : Text.trim cs = cs := by
    rw [Text.trim, hkeep fun _ hc => hc, hkeep fun _ hc => List.mem_reverse.1 hc,
      List.reverse_reverse]
  rw [read, String.toList_ofList, htrim, splitSuffix_of_number h]
  dsimp only
  rw [readDigits_eq_ok_iff.2 h]
  exact congrArg Except.ok (Nat.mul_one n)

/-! ## Reading -/

/-- A text is read exactly if it is a numeral with blanks around it, and as the number of that
numeral. Every other text is refused. -/
theorem read_eq_ok_iff (text : String) :
    Text.Stripped text.toList (Text.trim text.toList) ∧
      (∀ n, read text = .ok n ↔ Denotes (Text.trim text.toList) n) ∧
        ((¬ ∃ n, Denotes (Text.trim text.toList) n) → ∃ e, read text = .error e) := by
  have hread : ∀ n, read text = .ok n ↔ Denotes (Text.trim text.toList) n := by
    intro n
    rw [denotes_iff]
    simp only [← @readDigits_eq_ok_iff text, read]
    cases readDigits text (splitSuffix (Text.trim text.toList)).1 with
    | error e => simp [Except.map]
    | ok m => simp [Except.map, eq_comm]
  refine ⟨Text.stripped_trim text.toList, hread, fun hno => ?_⟩
  cases h : read text with
  | error e => exact ⟨e, rfl⟩
  | ok n => exact absurd ⟨n, (hread n).1 h⟩ hno

example : read "\t0X1fk\n" = .ok (31 * 1024) := by rfl

end Numeral

end RdsReach
