import RdsReach.Proofs.SockAddrs

/-!
# Equal endpoints mean the same

Endpoints are compared by their socket addresses, in which an address is a text. No two addresses
have one text, scopes included (`IpAddress.text_injective`), so that nothing is lost in the
comparison: `Endpoint.Agree` says what endpoints have to share in order to mean the same, and by
`Endpoint.beq_iff_agree` they are equal exactly if they do.
-/

namespace RdsReach

/-! ## The number of an address -/

namespace Address

/-- The number of an IPv4 address, which has 32 bits. -/
def V4.number (x : V4) : Nat :=
  x.a.toNat * 0x1000000 + (x.b.toNat * 0x10000 + (x.c.toNat * 0x100 + x.d.toNat))

theorem V4.number_injective : Function.Injective V4.number :=
  Function.LeftInverse.injective ofNat_octets

/-- The number of an IPv6 address, which has 128 bits: its groups in base 2 ^ 16. -/
def V6.number (x : V6) : Nat := Nat.ofDigits 0x10000 (x.groups.map UInt16.toNat).reverse

theorem V6.number_injective : Function.Injective V6.number := by
  intro x y h
  have hbound (z : V6) : ∀ d ∈ (z.groups.map UInt16.toNat).reverse, d < 0x10000 := by
    intro d hd
    obtain ⟨g, -, rfl⟩ := List.mem_map.1 (List.mem_reverse.1 hd)
    exact g.toNat_lt
  have hlength : (x.groups.map UInt16.toNat).reverse.length =
      (y.groups.map UInt16.toNat).reverse.length := by
    simp only [List.length_reverse, List.length_map, x.length_groups, y.length_groups]
  have hdigits := Nat.ofDigits_inj_of_len_eq (by decide) hlength (hbound x) (hbound y) h
  have hgroups : x.groups = y.groups :=
    List.map_injective_iff.2 (fun _ _ => UInt16.toNat_inj.1) (List.reverse_inj.1 hdigits)
  cases x
  cases y
  cases hgroups
  rfl

end Address

/-! ## The text of an address -/

namespace IpAddress

/-- The number of an address. -/
def number : IpAddress → Nat
  | .v4 a => a.number
  | .v6 a _ => a.number

/-- The text of the scope that an address has. -/
def scope? : IpAddress → Option String
  | .v4 _ => none
  | .v6 _ scope => scope

/-- Addresses of one version are the same if they have one number and one scope. -/
theorem ext_number {x y : IpAddress} (hversion : x.version = y.version)
    (hnumber : x.number = y.number) (hscope : x.scope? = y.scope?) : x = y := by
  cases x with
  | v4 a =>
    cases y with
    | v4 b => rw [Address.V4.number_injective hnumber]
    | v6 b scope => cases hversion
  | v6 a scope =>
    cases y with
    | v4 b => cases hversion
    | v6 b scope' => rw [Address.V6.number_injective hnumber, show scope = scope' from hscope]

/-- What the scope of an address adds to its text. -/
def scopeMark : Option String → List Char
  | none => []
  | some scope => '%' :: scope.toList

theorem scopeMark_injective : Function.Injective scopeMark := by
  intro s s' h
  cases s with
  | none =>
    cases s' with
    | none => rfl
    | some scope' => cases h
  | some scope =>
    cases s' with
    | none => cases h
    | some scope' => rw [String.toList_injective (List.cons.inj h).2]

theorem toList_text_v6 (a : Address.V6) (scope : Option String) :
    (IpAddress.v6 a scope).text.toList = a.text.toList ++ scopeMark scope := by
  cases scope with
  | none => exact (List.append_nil _).symm
  | some scope => simp [text, scopeMark]

/-- The scope is what follows the first `%`, whatever it holds itself. -/
theorem split_text_v6 (a : Address.V6) (scope : Option String) :
    withoutScope (IpAddress.v6 a scope).text.toList = a.text.toList ∧
      (IpAddress.v6 a scope).text.toList.dropWhile (· ≠ '%') = scopeMark scope := by
  have hfront : ∀ c ∈ a.text.toList, decide (c ≠ '%') = true :=
    Address.V6.forall_of_text (by decide) (by decide) a
  have hmark : (scopeMark scope).takeWhile (· ≠ '%') = [] ∧
      (scopeMark scope).dropWhile (· ≠ '%') = scopeMark scope := by
    cases scope <;> simp [scopeMark]
  rw [toList_text_v6, withoutScope, List.takeWhile_append_of_pos hfront, hmark.1,
    List.dropWhile_append_of_pos hfront, hmark.2, List.append_nil]
  exact ⟨rfl, rfl⟩

/-- No two addresses have one text. -/
theorem text_injective : Function.Injective text := by
  -- an IPv6 address has a colon in its text, an IPv4 address has not
  have hcolon (a : Address.V4) (b : Address.V6) (scope : Option String) :
      (IpAddress.v4 a).text ≠ (IpAddress.v6 b scope).text := by
    intro h
    have hmem : ':' ∈ (IpAddress.v6 b scope).text.toList := by
      rw [toList_text_v6]
      exact List.mem_append_left _ (Address.V6.colon_mem_of_read? (Address.V6.read?_text b))
    rw [← h] at hmem
    exact absurd (Address.V4.forall_of_text (p := (· ≠ ':')) (by decide) (by decide) a ':' hmem)
      (by decide)
  intro x y h
  cases x with
  | v4 a =>
    cases y with
    | v4 b =>
      have hread := Address.V4.read?_text a
      rw [show a.text = b.text from h, Address.V4.read?_text b] at hread
      rw [Option.some.inj hread]
    | v6 b scope => exact absurd h (hcolon a b scope)
  | v6 a scope =>
    cases y with
    | v4 b => exact absurd h.symm (hcolon b a scope)
    | v6 b scope' =>
      obtain ⟨hfront, hmark⟩ := split_text_v6 a scope
      obtain ⟨hfront', hmark'⟩ := split_text_v6 b scope'
      rw [h] at hfront hmark
      have hread := Address.V6.read?_text a
      rw [← hfront, hfront', Address.V6.read?_text b] at hread
      rw [Option.some.inj hread, scopeMark_injective (hmark.symm.trans hmark')]

end IpAddress

/-! ## Endpoints -/

namespace Endpoint

/-- The endpoints mean the same. For IPv4 their flows and scopes mean nothing. -/
structure Agree (a b : Endpoint) : Prop where
  version : a.version = b.version
  number : a.address.number = b.address.number
  scopeText : a.address.scope? = b.address.scope?
  port : a.port = b.port
  flow : a.version = .six → a.flow = b.flow
  scope : a.version = .six → a.scope = b.scope

theorem Agree.address_eq {a b : Endpoint} (h : a.Agree b) : a.address = b.address :=
  IpAddress.ext_number h.version h.number h.scopeText

theorem agree_of_sockAddr {a b : Endpoint} (h : a.sockAddr = b.sockAddr) : a.Agree b := by
  have hagree (htext : a.address.text = b.address.text) (hport : a.port = b.port)
      (hflow : a.version = .six → a.flow = b.flow) (hscope : a.version = .six → a.scope = b.scope) :
      a.Agree b := by
    have haddress := IpAddress.text_injective htext
    exact ⟨congrArg IpAddress.version haddress, congrArg IpAddress.number haddress,
      congrArg IpAddress.scope? haddress, hport, hflow, hscope⟩
  unfold sockAddr at h
  cases ha : a.version <;> cases hb : b.version <;> rw [ha, hb] at h <;>
    simp only [List.cons.injEq, Item.name.injEq, reduceCtorEq, and_false, and_true] at h
  · exact hagree h.1 h.2 (by simp [ha]) (by simp [ha])
  · exact hagree h.1 h.2.1 (fun _ => h.2.2.1) fun _ => h.2.2.2

theorem Agree.sockAddr_eq {a b : Endpoint} (h : a.Agree b) : a.sockAddr = b.sockAddr := by
  unfold sockAddr
  rw [← h.version, h.address_eq, h.port]
  cases hversion : a.version with
  | four => rfl
  | six =>
    rw [h.flow hversion, h.scope hversion]

/-- Endpoints are equal exactly if they mean the same. So those of different versions are not, be
their numbers the same; and endpoints are equal exactly if they have one port and are equal with any
other port. -/
theorem beq_iff_agree (a b : Endpoint) :
    ((a == b) = true ↔ a.Agree b) ∧ (a.version ≠ b.version → (a == b) = false) ∧
      ∀ port, (a == b) = true ↔ (a.withPort port == b.withPort port) = true ∧ a.port = b.port := by
  have hbeq (x y : Endpoint) : (x == y) = true ↔ x.Agree y := by
    change (x.sockAddr == y.sockAddr) = true ↔ _
    rw [beq_iff_eq]
    exact ⟨agree_of_sockAddr, Agree.sockAddr_eq⟩
  refine ⟨hbeq a b, fun hversion => ?_, fun port => ?_⟩
  · rw [Bool.eq_false_iff]
    exact fun h => hversion ((hbeq a b).1 h).version
  · rw [hbeq, hbeq]
    constructor
    · intro h
      exact ⟨⟨h.version, h.number, h.scopeText, rfl, h.flow, h.scope⟩, h.port⟩
    · rintro ⟨h, hport⟩
      exact ⟨h.version, h.number, h.scopeText, hport, h.flow, h.scope⟩

/-- The same number is another endpoint in the other version. -/
example :
    let a : Endpoint := { address := .v4 ⟨192, 0, 2, 7⟩ }
    let b : Endpoint := { address := .v6 ⟨[0, 0, 0, 0, 0, 0, 0xc000, 0x207], rfl⟩ none }
    a.address.number = b.address.number ∧ (a == b) = false := by decide

end Endpoint

end RdsReach
