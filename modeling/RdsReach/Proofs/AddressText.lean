import RdsReach.Address
import RdsReach.Proofs.Printing

/-!
# Addresses are read as they are printed

The text of an address is read as that address: a text of IPv4 by the strict and by the loose
reader (`Address.V4.read?_text`, `Address.V4.readLoose?_text`), and one of IPv6 whatever zero groups
its gap stands for (`Address.V6.read?_text`). The two versions are told apart by a colon, which no
text holds that is read as IPv4, and every text that is read as IPv6.
-/

namespace RdsReach

/-! ## Readers of all parts -/

section Readers

variable {α β : Type} {read? : α → Option β}

/-- All parts are read as what each of them was written for. -/
theorem mapM_map {write : β → α} (h : ∀ b, read? (write b) = some b) (bs : List β) :
    (bs.map write).mapM read? = some bs := by
  induction bs with
  | nil => rfl
  | cons b bs ih =>
    rw [List.map_cons, List.mapM_cons, h, ih]
    rfl

/-- If all parts are read, then each of them is. -/
theorem exists_of_mapM {as : List α} {bs : List β} (h : as.mapM read? = some bs) :
    ∀ a ∈ as, ∃ b, read? a = some b := by
  induction as generalizing bs with
  | nil => exact nofun
  | cons a as ih =>
    rw [List.mapM_cons] at h
    obtain ⟨b, hb, h⟩ := Option.bind_eq_some_iff.1 h
    obtain ⟨bs, hbs, -⟩ := Option.bind_eq_some_iff.1 h
    exact List.forall_mem_cons.2 ⟨⟨b, hb⟩, ih hbs⟩

end Readers

namespace Address

/-! ## IPv4 -/

namespace V4

/-- Texts of octets with points between them fall into those of the octets. -/
theorem parts_text (x : V4) :
    Text.parts '.' x.text.toList =
      [x.a, x.b, x.c, x.d].map fun n => Nat.toDigits 10 n.toNat := by
  have hjoined : x.text.toList =
      ['.'].intercalate ([x.a, x.b, x.c, x.d].map fun n => Nat.toDigits 10 n.toNat) := by
    simp [text, octetText, List.intercalate, String.toList_append]
  rw [hjoined, Text.parts_intercalate (by simp)]
  intro p hp hpoint
  obtain ⟨n, -, rfl⟩ := List.mem_map.1 hp
  exact absurd (Nat.isDigit_of_mem_toDigits (by decide) (by decide) hpoint) (by decide)

theorem length_toDigits_le (n : UInt8) : (Nat.toDigits 10 n.toNat).length ≤ 3 :=
  (Nat.length_toDigits_le_iff (by decide) (by decide)).2 (Nat.lt_trans n.toNat_lt (by decide))

theorem readOctet?_toDigits (n : UInt8) : readOctet? (Nat.toDigits 10 n.toNat) = some n := by
  have hless : n.toNat < 256 := n.toNat_lt
  have hne : Nat.toDigits 10 n.toNat ≠ [] := Nat.toDigits_ne_nil
  have hshort := length_toDigits_le n
  obtain ⟨hall, hvalue⟩ := (Numeral.positional_iff Numeral.isDigitOf_decimal).1
    (Numeral.positional_toDigits (by decide) (by decide) n.toNat)
  have hzero : ¬ ((Nat.toDigits 10 n.toNat).length ≠ 1 &&
      (Nat.toDigits 10 n.toNat).head? = some '0') = true := by
    by_cases hn : n.toNat = 0
    · rw [hn]
      decide
    · simp [Numeral.head?_toDigits (by decide : 1 < 10) hn]
  rw [readOctet?, if_neg (by simp [hne, hall, hshort]), if_neg hzero, ← hvalue,
    if_neg (by omega), UInt8.ofNat_toNat]

/-- The strict reader reads the text of an address as the address. -/
theorem read?_text (x : V4) : read? x.text.toList = some x := by
  rw [read?, parts_text]
  simp only [List.map_cons, List.map_nil, readOctet?_toDigits]
  rfl

/-- A number that is written in base 10 is read in base 10, as it has no zero in front. -/
theorem readPart?_toDigits (n : Nat) : readPart? (Nat.toDigits 10 n) = some n := by
  obtain ⟨hall, hvalue⟩ := (Numeral.positional_iff Numeral.isDigitOf_decimal).1
    (Numeral.positional_toDigits (by decide) (by decide) n)
  rw [readPart?]
  · rw [if_neg (by simp [hall]), ← hvalue]
  · intro x rest hdigits
    by_cases hn : n = 0
    · rw [hn] at hdigits
      exact absurd hdigits (by simp)
    · exact Numeral.head?_toDigits (by decide : 1 < 10) hn (by rw [hdigits]; rfl)

/-- Four octets are combined to the number of the address. -/
theorem combine?_octets (x : V4) :
    combine? 4 ([x.a, x.b, x.c, x.d].map UInt8.toNat) =
      some (x.a.toNat * 0x1000000 + (x.b.toNat * 0x10000 + (x.c.toNat * 0x100 + x.d.toNat))) := by
  have hle (n : UInt8) : ¬ 255 < n.toNat := Nat.not_lt.2 (Nat.le_of_lt_succ n.toNat_lt)
  have hlast : x.d.toNat < Nat.pow 256 1 := x.d.toNat_lt
  simp [combine?, hle, hlast]

/-- The number that its octets make up gives an address back. -/
theorem ofNat_octets (x : V4) :
    ofNat (x.a.toNat * 0x1000000 + (x.b.toNat * 0x10000 + (x.c.toNat * 0x100 + x.d.toNat))) =
      x := by
  obtain ⟨a, b, c, d⟩ := x
  have ha := a.toNat_lt
  have hb := b.toNat_lt
  have hc := c.toNat_lt
  have hd := d.toNat_lt
  rw [ofNat, V4.mk.injEq]
  simp only [← UInt8.toNat_inj, UInt8.toNat_ofNat']
  omega

/-- The loose reader reads the text of an address as the address. -/
theorem readLoose?_text (x : V4) : readLoose? x.text.toList = some x := by
  have hnumbers : (Text.parts '.' x.text.toList).mapM readPart? =
      some ([x.a, x.b, x.c, x.d].map UInt8.toNat) := by
    rw [parts_text]
    simp [readPart?_toDigits]
  rw [readLoose?, hnumbers, Option.bind_eq_bind, Option.bind_some, combine?_octets,
    Option.bind_eq_bind, Option.bind_some, ofNat_octets]
  rfl

/-- What holds of the point and of all digits holds of the characters of a text. -/
theorem forall_of_text {p : Char → Bool} (hpoint : p '.' = true)
    (hdigits : "0123456789abcdefABCDEFxX".toList.all p = true) (x : V4) :
    ∀ c ∈ x.text.toList, p c = true := by
  intro c hc
  by_cases h : c = '.'
  · rwa [h]
  · obtain ⟨cs, hcs, hmem⟩ := Text.exists_mem_parts hc h
    rw [parts_text] at hcs
    obtain ⟨n, -, rfl⟩ := List.mem_map.1 hcs
    exact Numeral.forall_of_positional hdigits
      (Numeral.positional_toDigits (by decide) (by decide) _) c hmem

/-- A part of an address is a row of digits, with the mark of base 16 at most. -/
theorem forall_of_readPart? {p : Char → Bool}
    (hp : "0123456789abcdefABCDEFxX".toList.all p = true) {cs : List Char} {n : Nat}
    (h : readPart? cs = some n) : ∀ c ∈ cs, p c = true := by
  have hrow {base : Nat} {isDigit : Char → Bool} {ds : List Char}
      (hdigit : ∀ {c d}, Numeral.IsDigitOf base c d ↔ isDigit c = true ∧ d = Numeral.digitValue c)
      (hds : ds.all isDigit = true) : ∀ c ∈ ds, p c = true :=
    Numeral.forall_of_positional hp ((Numeral.positional_iff hdigit).2 ⟨hds, rfl⟩)
  have hmem : ∀ c ∈ "0123456789abcdefABCDEFxX".toList, p c = true := List.all_eq_true.1 hp
  unfold readPart? at h
  split at h
  · next x rest =>
    split at h
    · next hx =>
      split at h
      · cases h
      · next hrest =>
        have hmark : p x = true := by
          rcases Bool.or_eq_true_iff.1 hx with hx | hx <;> rw [of_decide_eq_true hx] <;>
            exact hmem _ (by decide)
        simp only [Bool.or_eq_true, not_or, Bool.not_eq_true', Bool.not_eq_false] at hrest
        exact List.forall_mem_cons.2 ⟨hmem '0' (by decide), List.forall_mem_cons.2
          ⟨hmark, hrow Numeral.isDigitOf_hex hrest.2⟩⟩
    · split at h
      · next hoctal => exact hrow Numeral.isDigitOf_octal hoctal
      · cases h
  · split at h
    · cases h
    · next hdecimal =>
      simp only [Bool.or_eq_true, not_or, Bool.not_eq_true', Bool.not_eq_false] at hdecimal
      exact hrow Numeral.isDigitOf_decimal hdecimal.2

/-- What is read as an IPv4 address holds points and the characters of numerals only. -/
theorem not_mem_of_readLoose? {c : Char} (hc : c ∉ ".0123456789abcdefABCDEFxX".toList)
    {cs : List Char} {x : V4} (h : readLoose? cs = some x) : c ∉ cs := by
  intro hmem
  have hpoint : c ≠ '.' := by
    rintro rfl
    exact hc (by decide)
  obtain ⟨part, hpart, hmem⟩ : ∃ p ∈ Text.parts '.' cs, c ∈ p := Text.exists_mem_parts hmem hpoint
  obtain ⟨numbers, hnumbers, -⟩ := Option.bind_eq_some_iff.1 h
  obtain ⟨n, hn⟩ := exists_of_mapM hnumbers part hpart
  have hdigit := forall_of_readPart? (p := (· ∈ ".0123456789abcdefABCDEFxX".toList)) (by decide) hn
    c hmem
  exact hc (of_decide_eq_true hdigit)

end V4

/-! ## IPv6 -/

namespace V6

/-! ### Groups -/

theorem positional_groupText (g : UInt16) : Numeral.Positional 16 (groupText g) g.toNat :=
  Numeral.positional_toDigits (by decide) (by decide) g.toNat

theorem groupText_ne_nil (g : UInt16) : groupText g ≠ [] := Nat.toDigits_ne_nil

theorem length_groupText_le (g : UInt16) : (groupText g).length ≤ 4 :=
  (Nat.length_toDigits_le_iff (by decide) (by decide)).2 g.toNat_lt

theorem not_mem_groupText {c : Char} (hc : c ∉ "0123456789abcdefABCDEFxX".toList) (g : UInt16) :
    c ∉ groupText g := by
  intro hmem
  have hdigit := Numeral.forall_of_positional
    (p := (· ∈ "0123456789abcdefABCDEFxX".toList)) (by decide) (positional_groupText g) c hmem
  exact hc (of_decide_eq_true hdigit)

theorem readGroup?_groupText (g : UInt16) : readGroup? (groupText g) = some g := by
  obtain ⟨hall, hvalue⟩ := (Numeral.positional_iff Numeral.isDigitOf_hex).1 (positional_groupText g)
  rw [readGroup?, if_neg (by simp [groupText_ne_nil, length_groupText_le, hall]), ← hvalue,
    UInt16.ofNat_toNat]

theorem readTail?_map (gs : List UInt16) : readTail? (gs.map groupText) = some gs := by
  have hpoint (g : UInt16) : '.' ∉ groupText g := not_mem_groupText (by decide) g
  induction gs with
  | nil => rfl
  | cons g gs ih =>
    cases gs with
    | nil => simp [readTail?, hpoint, readGroup?_groupText]
    | cons g' gs =>
      rw [List.map_cons, List.map_cons, readTail?, readGroup?_groupText]
      · rw [← List.map_cons, ih]
        rfl
      · exact nofun

/-! ### Rows of groups -/

/-- A row of groups falls into the texts of the groups. -/
theorem parts_joined {gs : List UInt16} (hne : gs ≠ []) :
    Text.parts ':' (joined gs) = gs.map groupText := by
  rw [joined, Text.parts_intercalate (by simpa using hne)]
  rintro p hp
  obtain ⟨g, -, rfl⟩ := List.mem_map.1 hp
  exact not_mem_groupText (by decide) g

/-- The side of a gap is read as the groups that stand there, if there are any. -/
theorem readSide?_joined {read? : List (List Char) → Option (List UInt16)} {gs : List UInt16}
    (h : read? (gs.map groupText) = some gs) :
    readSide? read? (Text.parts ':' (joined gs)) = some gs := by
  cases gs with
  | nil => rfl
  | cons g gs =>
    rw [parts_joined (List.cons_ne_nil g gs), readSide?, if_neg (by simp [groupText_ne_nil]), h]

theorem forall_of_joined {p : Char → Bool} (hcolon : p ':' = true)
    (hdigits : "0123456789abcdefABCDEFxX".toList.all p = true) (gs : List UInt16) :
    ∀ c ∈ joined gs, p c = true := by
  intro c hc
  by_cases h : c = ':'
  · rwa [h]
  · obtain ⟨cs, hcs, hmem⟩ := Text.exists_mem_parts hc h
    cases gs with
    | nil => exact absurd hc List.not_mem_nil
    | cons g gs =>
      rw [parts_joined (List.cons_ne_nil g gs)] at hcs
      obtain ⟨g', -, rfl⟩ := List.mem_map.1 hcs
      exact Numeral.forall_of_positional hdigits (positional_groupText g') c hmem

theorem length_joined_le (gs : List UInt16) : (joined gs).length ≤ 5 * gs.length := by
  induction gs with
  | nil => exact Nat.le_refl 0
  | cons g gs ih =>
    have hg := length_groupText_le g
    cases gs with
    | nil => simpa [joined] using Nat.le_succ_of_le hg
    | cons g' gs =>
      rw [joined, List.map_cons, List.map_cons, List.intercalate_cons_cons, ← List.map_cons,
        ← joined, List.length_append, List.length_append, List.length_singleton, List.length_cons]
      omega

/-! ### The gap -/

/-- From the position that is found on there are as many zero groups as are found. -/
theorem longestZeros_le (gs : List UInt16) :
    (longestZeros gs).2 ≤ zerosFrom gs (longestZeros gs).1 := by
  rw [longestZeros]
  refine List.foldlRecOn (motive := fun best : Nat × Nat => best.2 ≤ zerosFrom gs best.1) _ _
    (Nat.zero_le _) ?_
  intro best hbest i _
  dsimp only
  split
  · exact Nat.le_refl _
  · exact hbest

/-- Groups are those before some zero groups, the zero groups and those after them. -/
theorem eq_append_zeros {gs : List UInt16} {start count : Nat} (h : count ≤ zerosFrom gs start) :
    gs = gs.take start ++ List.replicate count 0 ++ gs.drop (start + count) := by
  have hzeros : (gs.drop start).take count = List.replicate count 0 := by
    have htake : (gs.drop start).take count =
        ((gs.drop start).takeWhile (· = 0)).take count := by
      conv_lhs => rw [← List.takeWhile_append_dropWhile (p := (· = 0)) (l := gs.drop start)]
      exact List.take_append_of_le_length h
    rw [htake, List.eq_replicate_iff]
    refine ⟨List.length_take_of_le h, fun g hg => ?_⟩
    have hzero := List.mem_takeWhile_imp (List.mem_of_mem_take hg)
    exact of_decide_eq_true hzero
  rw [← hzeros, ← List.drop_drop, List.append_assoc, List.take_append_drop, List.take_append_drop]

/-- An address is written as its eight groups, or with a gap in the place of some zero groups. -/
theorem toList_text (x : V6) :
    x.text.toList = joined x.groups ∨
      ∃ before after count, 0 < count ∧ x.groups = before ++ List.replicate count 0 ++ after ∧
        x.text.toList = joined before ++ ':' :: ':' :: joined after := by
  have hzeros := eq_append_zeros (longestZeros_le x.groups)
  unfold text
  generalize longestZeros x.groups = zeros at hzeros
  obtain ⟨start, count⟩ := zeros
  dsimp only at hzeros ⊢
  rw [String.toList_ofList]
  by_cases hcount : count < 2
  · rw [if_pos hcount]
    exact .inl rfl
  · rw [if_neg hcount]
    refine .inr ⟨_, _, count, by omega, hzeros, ?_⟩
    rw [List.append_assoc, List.cons_append, List.singleton_append]

/-- There is no gap where no part is empty. -/
theorem splitGap?_of_ne_nil {ps : List (List Char)} (h : ∀ p ∈ ps, p ≠ []) :
    splitGap? ps = none := by
  induction ps with
  | nil => rfl
  | cons p ps ih =>
    obtain ⟨hp, hps⟩ := List.forall_mem_cons.1 h
    cases ps with
    | nil => rfl
    | cons q ps => rw [splitGap?, if_neg (by simpa using hp), ih hps, Option.map_none]

/-- The gap is at the first empty part. -/
theorem splitGap?_append {before after : List (List Char)} (h : ∀ p ∈ before, p ≠ [])
    (hafter : after ≠ []) : splitGap? (before ++ [] :: after) = some (before, after) := by
  induction before with
  | nil =>
    obtain ⟨q, ps, rfl⟩ := List.exists_cons_of_ne_nil hafter
    rfl
  | cons p before ih =>
    obtain ⟨hp, hbefore⟩ := List.forall_mem_cons.1 h
    obtain ⟨q, ps, hcons⟩ : ∃ q ps, before ++ [] :: after = q :: ps :=
      List.exists_cons_of_ne_nil (by simp)
    rw [List.cons_append, hcons, splitGap?, if_neg (by simpa using hp), ← hcons, ih hbefore,
      Option.map_some]

/-! ### Reading -/

theorem ofGroups?_groups (x : V6) : ofGroups? x.groups = some x := dif_pos x.length_groups

/-- Eight groups are read as their address. -/
theorem read?_joined (x : V6) : read? (joined x.groups) = some x := by
  have hne : x.groups ≠ [] := by
    intro hnil
    have hlength := x.length_groups
    rw [hnil] at hlength
    exact absurd hlength (by decide)
  obtain ⟨g, gs, hgs⟩ := List.exists_cons_of_ne_nil hne
  rw [read?, parts_joined hne, hgs, List.map_cons]
  dsimp only
  rw [splitGap?_of_ne_nil (by simp [groupText_ne_nil])]
  dsimp only
  rw [← List.map_cons, readTail?_map, ← hgs]
  exact ofGroups?_groups x

/-- Groups around a gap are read as the address with zeros in its place. -/
theorem read?_gap {x : V6} {before after : List UInt16} {count : Nat} (hcount : 0 < count)
    (hgroups : x.groups = before ++ List.replicate count 0 ++ after) :
    read? (joined before ++ ':' :: ':' :: joined after) = some x := by
  have hlength : before.length + count + after.length = 8 := by
    rw [← x.length_groups, hgroups, List.length_append, List.length_append, List.length_replicate]
  have hparts : Text.parts ':' (joined before ++ ':' :: ':' :: joined after) =
      Text.parts ':' (joined before) ++ [] :: Text.parts ':' (joined after) := by
    rw [Text.parts_append]
    exact congrArg _ (Text.parts_append [] _)
  have hbefore := readSide?_joined (mapM_map readGroup?_groupText before)
  have hafter := readSide?_joined (readTail?_map after)
  obtain ⟨first, rest, hfirst⟩ := List.exists_cons_of_ne_nil
    (Text.parts_ne_nil ':' (joined before))
  have hrest : ∀ p ∈ rest, p ≠ [] := by
    cases before with
    | nil =>
      cases hfirst
      exact nofun
    | cons g gs =>
      rw [parts_joined (List.cons_ne_nil g gs)] at hfirst
      cases hfirst
      simp [groupText_ne_nil]
  rw [hfirst] at hbefore
  rw [read?, hparts, hfirst, List.cons_append]
  dsimp only
  rw [splitGap?_append hrest (Text.parts_ne_nil _ _)]
  dsimp only
  rw [hbefore, hafter]
  dsimp only [Option.bind_eq_bind, Option.bind_some]
  have hcount : 8 - (before.length + after.length) = count := by omega
  rw [fillGap?, if_neg (by omega), hcount, ← hgroups]
  exact ofGroups?_groups x

/-- The text of an address is read as the address. -/
theorem read?_text (x : V6) : read? x.text.toList = some x := by
  rcases toList_text x with htext | ⟨before, after, count, hcount, hgroups, htext⟩
  · rw [htext]
    exact read?_joined x
  · rw [htext]
    exact read?_gap hcount hgroups

/-- What holds of the colon and of all digits holds of the characters of a text. -/
theorem forall_of_text {p : Char → Bool} (hcolon : p ':' = true)
    (hdigits : "0123456789abcdefABCDEFxX".toList.all p = true) (x : V6) :
    ∀ c ∈ x.text.toList, p c = true := by
  have hjoined := forall_of_joined hcolon hdigits
  rcases toList_text x with htext | ⟨before, after, count, -, -, htext⟩
  · rw [htext]
    exact hjoined x.groups
  · rw [htext, List.forall_mem_append, List.forall_mem_cons, List.forall_mem_cons]
    exact ⟨hjoined before, hcolon, hcolon, hjoined after⟩

/-- A text is about as long as eight groups of four digits. -/
theorem length_text_le (x : V6) : x.text.toList.length ≤ 42 := by
  have hlength := x.length_groups
  rcases toList_text x with htext | ⟨before, after, count, -, hgroups, htext⟩
  · rw [htext]
    have := length_joined_le x.groups
    omega
  · rw [hgroups] at hlength
    simp only [List.length_append, List.length_replicate] at hlength
    have := length_joined_le before
    have := length_joined_le after
    rw [htext, List.length_append, List.length_cons, List.length_cons]
    omega

theorem length_of_readTail? {p : List Char} {gs : List UInt16} (h : readTail? [p] = some gs) :
    gs.length ≤ 2 := by
  rw [readTail?] at h
  split at h
  · obtain ⟨x, -, rfl⟩ := Option.map_eq_some_iff.1 h
    exact Nat.le_refl 2
  · obtain ⟨g, -, rfl⟩ := Option.map_eq_some_iff.1 h
    exact Nat.le_succ 1

/-- What is read as an IPv6 address holds a colon. -/
theorem colon_mem_of_read? {cs : List Char} {x : V6} (h : read? cs = some x) : ':' ∈ cs := by
  by_contra hcolon
  rw [read?, Text.parts_of_not_mem hcolon] at h
  obtain ⟨gs, hgs, h⟩ := Option.bind_eq_some_iff.1 h
  have hshort := length_of_readTail? hgs
  rw [ofGroups?, dif_neg (by omega)] at h
  cases h

end V6

end Address

/-! ## Both versions -/

namespace IpAddress

/-- A text without `%` stands before its scope as a whole. -/
theorem withoutScope_of_not_mem {cs : List Char} (h : '%' ∉ cs) : withoutScope cs = cs := by
  rw [withoutScope, List.takeWhile_eq_self_iff]
  exact fun c hc => decide_eq_true fun hscope => h (hscope ▸ hc)

theorem not_mem_withoutScope (cs : List Char) : '%' ∉ withoutScope cs := by
  intro h
  exact absurd (List.mem_takeWhile_imp h) (by decide)

/-- A text without `%` has no scope. -/
theorem dropWhile_of_not_mem {cs : List Char} (h : '%' ∉ cs) : cs.dropWhile (· ≠ '%') = [] := by
  rw [List.dropWhile_eq_nil_iff]
  exact fun c hc => decide_eq_true fun hscope => h (hscope ▸ hc)

/-- What follows the text before its scope begins with `%`. -/
theorem eq_of_dropWhile {cs rest : List Char} {c : Char}
    (h : cs.dropWhile (· ≠ '%') = c :: rest) : c = '%' := by
  have hnot := List.head?_dropWhile_not (· ≠ '%') cs
  rw [h] at hnot
  simpa using hnot

end IpAddress

end RdsReach
