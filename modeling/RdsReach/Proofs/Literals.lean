import RdsReach.Proofs.HostNames
import RdsReach.Proofs.Resolving
import RdsReach.Proofs.SockAddrs

/-!
# Literals

A host that is an address itself is resolved without the name service. `NumericHost.IsLiteral` says
which endpoint a name in ASCII stands for, and by `Probe.resolve_literals` that endpoint is what the
host comes to, by one lookup and whatever names there are. Addresses are literals as they are
printed, so what any host comes to can be printed and resolved again.

What decides is the name as the system sees it, in ASCII and up to its first NUL, and not the text
as it was written: `Probe.resolve_unlike_written` has a colon in the text of an IPv4 address, and no
colon in that of an IPv6 address.
-/

namespace RdsReach

namespace NumericHost

/-! ## Which endpoint a text stands for -/

/-- What the system sees of a name: all that stands before its first NUL. -/
def seen (name : List Char) : List Char := name.takeWhile (· ≠ '\x00')

/-- The name spells the address, which is without scope. -/
inductive Spells (cs : List Char) : IpAddress → Prop where
  | v4 {a : Address.V4} (h : Address.V4.readLoose? cs = some a) : Spells cs (.v4 a)
  | v6 {a : Address.V6} (h : Address.V6.read? cs = some a) : Spells cs (.v6 a none)

/-- The scope of a name is the number of 32 bits that stands after the first `%` in base 10, and 0
if there is no `%`. -/
inductive ScopeOf (cs : List Char) : Nat → Prop where
  | none (h : '%' ∉ cs) : ScopeOf cs 0
  | number {front digits : List Char} {n : Nat} (hcs : cs = front ++ '%' :: digits)
      (hfront : '%' ∉ front) (hne : digits ≠ []) (hdigits : Numeral.Positional 10 digits n)
      (hbound : n < 2 ^ 32) : ScopeOf cs n

/-- The endpoint is the one that the name stands for: it has the address that is spelled before the
scope, the number of the scope, and no port. -/
structure IsLiteral (cs : List Char) (e : Endpoint) : Prop where
  address : Spells (IpAddress.withoutScope cs) e.address
  scope : ∃ n : Nat, ScopeOf cs n ∧ e.scope = .number n
  port : e.port = 0
  flow : e.flow = 0
  version : e.version = .six ↔ ':' ∈ cs

/-! ## Texts that are read -/

theorem positional_of_readScope? {cs : List Char} {n : Nat} (h : readScope? cs = some n) :
    cs ≠ [] ∧ Numeral.Positional 10 cs n ∧ n < 2 ^ 32 := by
  unfold readScope? at h
  split at h
  · cases h
  · next hdigits =>
    split at h
    · next hbound =>
      cases h
      simp only [Bool.or_eq_true, not_or, Bool.not_eq_true', Bool.not_eq_false,
        List.isEmpty_iff] at hdigits
      exact ⟨hdigits.1, (Numeral.positional_iff Numeral.isDigitOf_decimal).2 ⟨hdigits.2, rfl⟩,
        hbound⟩
    · cases h

theorem exists_of_readV6? {cs : List Char} {a : Address.V6} {n : Nat}
    (h : readV6? cs = some (a, n)) :
    Address.V6.read? (IpAddress.withoutScope cs) = some a ∧ ScopeOf cs n := by
  obtain ⟨a', haddress, h⟩ := Option.bind_eq_some_iff.1 h
  have hsplit : IpAddress.withoutScope cs ++ cs.dropWhile (· ≠ '%') = cs :=
    List.takeWhile_append_dropWhile
  split at h
  · next hnone =>
    cases h
    refine ⟨haddress, .none ?_⟩
    rw [← hsplit, hnone, List.append_nil]
    exact IpAddress.not_mem_withoutScope cs
  · next c digits hscope =>
    obtain ⟨n', hn, h⟩ := Option.bind_eq_some_iff.1 h
    cases h
    obtain ⟨hne, hdigits, hbound⟩ := positional_of_readScope? hn
    have hfirst : c = '%' := IpAddress.eq_of_dropWhile hscope
    refine ⟨haddress, .number ?_ (IpAddress.not_mem_withoutScope cs) hne hdigits hbound⟩
    rw [← hfirst, ← hscope]
    exact hsplit.symm

/-- What is read as an address has the form of the endpoint that it stands for. -/
theorem exists_of_readAddress? {cs : List Char} {c : Candidate} (h : readAddress? cs = some c) :
    ∃ e, IsLiteral cs e ∧ Endpoint.ofSockAddr c.family c.address = .ok e := by
  unfold readAddress? at h
  split at h
  · next a ha =>
    cases h
    have hscope : '%' ∉ cs := Address.V4.not_mem_of_readLoose? (by decide) ha
    have hcolon : ':' ∉ cs := Address.V4.not_mem_of_readLoose? (by decide) ha
    refine ⟨_, ⟨.v4 ?_, ⟨0, .none hscope, rfl⟩, rfl, rfl, ?_⟩, Endpoint.ofSockAddr_four a 0 []⟩
    · rwa [IpAddress.withoutScope_of_not_mem hscope]
    · exact ⟨nofun, fun h => absurd h hcolon⟩
  · obtain ⟨⟨a, n⟩, hread, rfl⟩ := Option.map_eq_some_iff.1 h
    obtain ⟨haddress, hscope⟩ := exists_of_readV6? hread
    have hcolon : ':' ∈ cs :=
      (List.takeWhile_prefix _).subset (Address.V6.colon_mem_of_read? haddress)
    exact ⟨_, ⟨.v6 haddress, ⟨n, hscope, rfl⟩, rfl, rfl, ⟨fun _ => hcolon, fun _ => rfl⟩⟩,
      Endpoint.ofSockAddr_six a 0 0 (.number n)⟩

/-! ## Addresses as they are printed -/

/-- An address that is printed is read as the address. -/
theorem readAddress?_text {address : IpAddress} (h : address.Bare) :
    readAddress? address.text.toList =
      some ⟨address.version.family, ({ address } : Endpoint).sockAddr⟩ := by
  cases h with
  | v4 a =>
    rw [IpAddress.text, readAddress?, Address.V4.readLoose?_text]
    rfl
  | v6 a =>
    have hcolon : ':' ∈ a.text.toList := Address.V6.colon_mem_of_read? (Address.V6.read?_text a)
    have hscope : '%' ∉ a.text.toList := fun h => ((IpAddress.Bare.v6 a).forall_of_text _ h).1 rfl
    have hnot : Address.V4.readLoose? a.text.toList = none := by
      cases hread : Address.V4.readLoose? a.text.toList with
      | none => rfl
      | some b => exact absurd hcolon (Address.V4.not_mem_of_readLoose? (by decide) hread)
    rw [IpAddress.text, readAddress?, hnot]
    dsimp only
    rw [readV6?, IpAddress.withoutScope_of_not_mem hscope, Address.V6.read?_text,
      IpAddress.dropWhile_of_not_mem hscope]
    rfl

/-- An address is printed in ASCII. -/
theorem isAscii_text {address : IpAddress} (h : address.Bare) :
    Idna.isAscii address.text.toList = true := by
  rw [Idna.isAscii, List.all_eq_true]
  cases h with
  | v4 a => exact Address.V4.forall_of_text (by decide) (by decide) a
  | v6 a => exact Address.V6.forall_of_text (by decide) (by decide) a

/-- No label of an address that is printed is empty or long. -/
theorem checkLabels_text {address : IpAddress} (h : address.Bare) :
    Idna.checkLabels (Text.parts '.' address.text.toList) = .ok () := by
  cases h with
  | v4 a =>
    have hlast (n : UInt8) : (Nat.toDigits 10 n.toNat).length ≤ Idna.maxLabel :=
      Nat.le_trans (Address.V4.length_toDigits_le n) (by decide)
    have hinner (n : UInt8) : Idna.isInnerLabel (Nat.toDigits 10 n.toNat) = true := by
      simp [Idna.isInnerLabel, Nat.toDigits_ne_nil, hlast]
    rw [IpAddress.text, Address.V4.parts_text]
    simp [Idna.checkLabels, hinner, hlast]
  | v6 a =>
    have hpoint : '.' ∉ a.text.toList := by
      intro h
      have hne := Address.V6.forall_of_text (p := (· ≠ '.')) (by decide) (by decide) a '.' h
      exact absurd hne (by decide)
    have hshort : a.text.toList.length ≤ Idna.maxLabel :=
      Nat.le_trans (Address.V6.length_text_le a) (by decide)
    rw [IpAddress.text, Text.parts_of_not_mem hpoint, Idna.checkLabels, if_pos hshort]

/-- An address that is printed is taken as it is, however labels are prepared. -/
theorem encode_text (prepare : Nameprep) {address : IpAddress} (h : address.Bare) :
    Idna.encode prepare address.text.toList = .ok address.text.toList :=
  (Idna.encode_eq_ok_iff_of_isAscii (isAscii_text h)).2 ⟨checkLabels_text h, rfl⟩

/-- The system sees all of an address that is printed. -/
theorem seen_text {address : IpAddress} (h : address.Bare) :
    seen address.text.toList = address.text.toList := by
  rw [seen, List.takeWhile_eq_self_iff]
  cases h with
  | v4 a => exact Address.V4.forall_of_text (by decide) (by decide) a
  | v6 a => exact Address.V6.forall_of_text (by decide) (by decide) a

end NumericHost

/-! ## The numeric lookup -/

/-- A numeric lookup accepts the hosts whose name in ASCII is read as an address. -/
theorem NameService.answer_numeric_eq_ok_iff {prepare : Nameprep}
    {hosts : List (String × List Candidate)} {text : String} {found : List Candidate} :
    answer prepare hosts .numeric text = .ok found ↔
      ∃ name c, Idna.encode prepare text.toList = .ok name ∧
        NumericHost.readAddress? (NumericHost.seen name) = some c ∧ found = [c] := by
  have hread (name : List Char) :
      NumericHost.readAddress? (NumericHost.seen name) = NumericHost.read? name := rfl
  rw [answer, find?]
  cases Idna.encode prepare text.toList with
  | error f => exact ⟨nofun, fun ⟨_, _, h, _⟩ => nomatch h⟩
  | ok name =>
    simp only [hread]
    dsimp only [Except.map, bind, Except.bind]
    cases hc : NumericHost.read? name with
    | none =>
      refine ⟨nofun, fun ⟨name', c, hname, hread, _⟩ => ?_⟩
      rw [← Except.ok.inj hname, hc] at hread
      cases hread
    | some c =>
      constructor
      · intro h
        exact ⟨name, c, rfl, hc, (Except.ok.inj h).symm⟩
      · rintro ⟨name', c', hname, hread, rfl⟩
        rw [← Except.ok.inj hname, hc] at hread
        rw [← Option.some.inj hread]
        rfl

namespace Probe

open NumericHost

/-- Wherever labels are prepared like that, and whatever names there are, the text comes to the
endpoint by a numeric lookup and no other one, and nothing else happens but that something is
said. -/
def ResolvesAlone (prepare : Nameprep) (text : String) (e : Endpoint) : Prop :=
  ∀ s hosts, s.world.nameprep = prepare → s.world.names = .table hosts → ∃ journal,
    resolve (.named text) s =
      .ok e { s with lookups := s.lookups.push ⟨.numeric, .named text, none⟩, journal }

variable {prepare : Nameprep}

/-- A text that a numeric lookup accepts comes to the endpoint that was found. -/
theorem resolvesAlone_of_accepted {text : String} {name : List Char} {c : Candidate} {e : Endpoint}
    (hname : Idna.encode prepare text.toList = .ok name) (hread : readAddress? (seen name) = some c)
    (hendpoint : Endpoint.ofSockAddr c.family c.address = .ok e) :
    ResolvesAlone prepare text e := by
  intro s hosts hprepare hnames
  have hanswer : NameService.answer prepare hosts .numeric text = .ok [c] :=
    NameService.answer_numeric_eq_ok_iff.2 ⟨name, c, hname, hread, rfl⟩
  have hreply : s.world.reply .numeric (.named text) = (.ok [c], s.world) := by
    unfold World.reply
    rw [hnames, hprepare]
    dsimp only
    rw [hanswer]
  have hlookup : candidates (.named text) s =
      .ok [c] { s with lookups := s.lookups.push ⟨.numeric, .named text, none⟩ } := by
    rw [candidates, tryCatch_apply, lookup, bind_of_ok (takeAnswer_apply _ _ s), hreply]
    rfl
  obtain ⟨v, hfamily, -⟩ := Endpoint.taken_of_ofSockAddr hendpoint
  rw [resolve, bind_of_ok hlookup]
  dsimp only
  rw [hfamily, Version.ofFamily?_family, if_neg (by exact Bool.false_ne_true), ← hfamily,
    hendpoint]
  exact ⟨_, rfl⟩

/-- An address comes to itself when its text is resolved. -/
theorem resolvesAlone_text {address : IpAddress} (h : address.Bare) :
    ResolvesAlone prepare address.text { address } := by
  have hread : readAddress? (seen address.text.toList) =
      some ⟨address.version.family, ({ address } : Endpoint).sockAddr⟩ := by
    rw [seen_text h, readAddress?_text h]
  refine resolvesAlone_of_accepted (encode_text prepare h) hread ?_
  cases h with
  | v4 a => exact Endpoint.ofSockAddr_four a 0 []
  | v6 a => exact Endpoint.ofSockAddr_six a 0 0 0

/-- What a host comes to has no scope in its address. -/
theorem resolve_bare (host : Host) (s : State) :
    Meets (resolve host) s (fun e _ => e.address.Bare) fun _ _ => True := by
  rw [resolve]
  refine Meets.bind (meets_any _ s) fun candidates t _ => ?_
  cases candidates with
  | nil => trivial
  | cons first rest =>
    dsimp only
    split
    · rw [meets_bind, meets_number]
      split <;> trivial
    · rw [meets_bind, meets_ofExcept]
      cases hread : Endpoint.ofSockAddr first.family first.address with
      | ok e =>
        obtain ⟨v, -, htaken⟩ := Endpoint.taken_of_ofSockAddr hread
        exact htaken.bare
      | error x => trivial

/-- However labels are prepared, a text that a numeric lookup accepts comes to the endpoint that its
name in ASCII stands for, by that lookup alone and whatever names there are. Among these texts are
those of all addresses without scope, each of which comes to its address; so what any host has come
to is printed as a text that comes to the same address. -/
theorem resolve_literals (prepare : Nameprep) (hosts : List (String × List Candidate)) (s : State) :
    (∀ text found, NameService.answer prepare hosts .numeric text = .ok found →
      ∃ name e, Idna.encode prepare text.toList = .ok name ∧ Idna.isAscii name = true ∧
        IsLiteral (seen name) e ∧ ResolvesAlone prepare text e) ∧
    (∀ address : IpAddress, address.Bare → ResolvesAlone prepare address.text { address }) ∧
    ∀ host e t, resolve host s = .ok e t →
      ResolvesAlone prepare e.address.text { address := e.address } := by
  refine ⟨fun text found hfound => ?_, fun address => resolvesAlone_text, ?_⟩
  · obtain ⟨name, c, hname, hread, -⟩ := NameService.answer_numeric_eq_ok_iff.1 hfound
    obtain ⟨e, hliteral, hendpoint⟩ := exists_of_readAddress? hread
    exact ⟨name, e, hname, Idna.encode_isAscii hname, hliteral,
      resolvesAlone_of_accepted hname hread hendpoint⟩
  · intro host e t hresolve
    exact resolvesAlone_text ((resolve_bare host s).of_ok hresolve)

/-- A text with a scope, some of it in full-width forms, comes to an endpoint that has the scope,
and whose address has not. -/
theorem resolve_literals_scoped :
    ∃ name e, Idna.encode .narrow "fe80::1％３".toList = .ok name ∧ IsLiteral (seen name) e ∧
      ResolvesAlone .narrow "fe80::1％３" e ∧ name = "fe80::1%3".toList ∧
        e.sockAddr = [.name "fe80::1", 0, 0, 3] := by
  have hanswer : NameService.answer .narrow [] .numeric "fe80::1％３" =
      .ok [⟨10, [.name "fe80::1", 0, 0, 3]⟩] := by rfl
  obtain ⟨name, e, hname, -, hliteral, halone⟩ :=
    (resolve_literals .narrow [] { world := {} }).1 _ _ hanswer
  have hnarrow : Idna.encode .narrow "fe80::1％３".toList = .ok "fe80::1%3".toList := by
    decide +kernel
  refine ⟨name, e, hname, hliteral, halone, Except.ok.inj (hname.symm.trans hnarrow), ?_⟩
  obtain ⟨journal, hresolve⟩ := halone { world := {} } [] rfl rfl
  have he : resolve (.named "fe80::1％３") { world := {} } = .ok
      { address := .v6 ⟨[0xfe80, 0, 0, 0, 0, 0, 0, 1], rfl⟩ none, scope := 3 } _ := rfl
  obtain ⟨rfl, -⟩ := EStateM.Result.ok.inj (hresolve.symm.trans he)
  rfl

/-- An IPv4 address is what stands before a NUL, with a colon after it, and an IPv6 address can be
written without a colon that is one in ASCII. -/
theorem resolve_unlike_written :
    (':' ∈ "1.2.3.4\x00:".toList ∧
      (∃ found, NameService.answer .narrow [] .numeric "1.2.3.4\x00:" = .ok found) ∧
        ∃ e t, resolve (.named "1.2.3.4\x00:") { world := {} } = .ok e t ∧ e.version = .four) ∧
    ':' ∉ "：：1".toList ∧
      (∃ found, NameService.answer .narrow [] .numeric "：：1" = .ok found) ∧
        ∃ e t, resolve (.named "：：1") { world := {} } = .ok e t ∧ e.version = .six :=
  ⟨⟨by decide, ⟨_, rfl⟩, _, _, rfl, rfl⟩, by decide, ⟨_, rfl⟩, _, _, rfl, rfl⟩

end Probe

end RdsReach
