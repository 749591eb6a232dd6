import RdsReach.Endpoint
import RdsReach.Proofs.AddressText

/-!
# Socket addresses carry endpoints

`Endpoint.Taken` says which endpoint is taken from a socket address: one whose address has no scope,
whatever the host's text has. As the text of an address is read as the address, the socket address
of such an endpoint gives the endpoint back, and `Endpoint.ofSockAddr_returns` says so of all
endpoints that come from a socket address and have their port set any number of times.
-/

namespace RdsReach

theorem Version.ofFamily?_family (v : Version) : Version.ofFamily? v.family = some v := by
  cases v <;> rfl

theorem Version.family_of_ofFamily? {family : Int} {v : Version}
    (h : Version.ofFamily? family = some v) : family = v.family := by
  unfold Version.ofFamily? at h
  split_ifs at h <;> cases h <;> assumption

namespace IpAddress

/-- The address is without scope. -/
inductive Bare : IpAddress → Prop where
  | v4 (a : Address.V4) : Bare (.v4 a)
  | v6 (a : Address.V6) : Bare (.v6 a none)

/-- Where no scope stands, an IPv6 address without scope is read. -/
theorem readV6?_of_not_mem {cs : List Char} (hscope : '%' ∉ cs) {address : IpAddress}
    (h : readV6? cs = some address) :
    ∃ a, Address.V6.read? cs = some a ∧ address = .v6 a none := by
  unfold readV6? at h
  split at h
  · cases h
  · rw [dropWhile_of_not_mem hscope] at h
    obtain ⟨a, ha, rfl⟩ := Option.map_eq_some_iff.1 h
    exact ⟨a, ha, rfl⟩

/-- The text of an address without scope holds neither a scope nor a slash. -/
theorem Bare.forall_of_text {address : IpAddress} (h : address.Bare) :
    ∀ c ∈ address.text.toList, c ≠ '%' ∧ c ≠ '/' := by
  have hboth {cs : List Char} (hcs : ∀ c ∈ cs, (c ≠ '%' && c ≠ '/') = true) :
      ∀ c ∈ cs, c ≠ '%' ∧ c ≠ '/' := by simpa using hcs
  cases h with
  | v4 a => exact hboth (Address.V4.forall_of_text (by decide) (by decide) a)
  | v6 a => exact hboth (Address.V6.forall_of_text (by decide) (by decide) a)

end IpAddress

namespace Endpoint

variable {family : Int} {items : SockAddr} {e : Endpoint}

/-! ## Taking endpoints -/

/-- The endpoint that is taken from a socket address. The host's text up to its scope is the
address, which is without scope; the items after it are taken as they are. -/
inductive Taken : Version → SockAddr → Endpoint → Prop where
  | four {host port : Item} {more : List Item} {a : Address.V4} (hhost : hostV4? host = some a) :
      Taken .four (host :: port :: more) { address := .v4 a, port }
  | six {host : String} {port flow scope : Item} {a : Address.V6}
      (hhost : Address.V6.read? (IpAddress.withoutScope host.toList) = some a) :
      Taken .six [.name host, port, flow, scope] { address := .v6 a none, port, flow, scope }

theorem taken_of_ofSockAddr (h : ofSockAddr family items = .ok e) :
    ∃ v : Version, family = v.family ∧ Taken v items e := by
  unfold ofSockAddr at h
  split at h
  · next hfamily =>
    refine ⟨.four, Version.family_of_ofFamily? hfamily, ?_⟩
    unfold ofSockAddr4 at h
    split at h
    · split at h
      · next hhost =>
        cases h
        exact .four hhost
      · cases h
    · cases h
  · next hfamily =>
    refine ⟨.six, Version.family_of_ofFamily? hfamily, ?_⟩
    unfold ofSockAddr6 at h
    split at h
    · split at h
      · next hhost =>
        cases h
        obtain ⟨a, ha, rfl⟩ :=
          IpAddress.readV6?_of_not_mem (IpAddress.not_mem_withoutScope _) hhost
        exact .six ha
      · cases h
    · cases h
    · cases h
  · cases h

theorem Taken.version_eq {v : Version} (h : Taken v items e) : e.version = v := by
  cases h <;> rfl

/-- An address that is read as one of a version is of that version. -/
theorem version_of_ofSockAddr {v : Version} (h : ofSockAddr v.family items = .ok e) :
    e.version = v := by
  obtain ⟨v', hfamily, htaken⟩ := taken_of_ofSockAddr h
  rw [htaken.version_eq, ← Option.some_inj, ← Version.ofFamily?_family, ← hfamily,
    Version.ofFamily?_family]

/-- No endpoint has the scope in its address. -/
theorem Taken.bare {v : Version} (h : Taken v items e) : e.address.Bare := by
  cases h with
  | four => exact .v4 _
  | six => exact .v6 _

/-! ## Giving them back -/

/-- The text of an IPv4 address in a socket address gives the address back. -/
theorem ofSockAddr_four (a : Address.V4) (port : Item) (more : List Item) :
    ofSockAddr Version.four.family (.name (IpAddress.v4 a).text :: port :: more) =
      .ok { address := .v4 a, port } := by
  rw [ofSockAddr, Version.ofFamily?_family]
  dsimp only
  rw [ofSockAddr4, hostV4?, IpAddress.text, Address.V4.read?_text]

/-- The text of an IPv6 address in a socket address gives the address back. -/
theorem ofSockAddr_six (a : Address.V6) (port flow scope : Item) :
    ofSockAddr Version.six.family [.name (IpAddress.v6 a none).text, port, flow, scope] =
      .ok { address := .v6 a none, port, flow, scope } := by
  have htext := (IpAddress.Bare.v6 a).forall_of_text
  have hscope : '%' ∉ (IpAddress.v6 a none).text.toList := fun h => (htext _ h).1 rfl
  have hslash : '/' ∉ (IpAddress.v6 a none).text.toList := fun h => (htext _ h).2 rfl
  rw [ofSockAddr, Version.ofFamily?_family]
  dsimp only
  rw [ofSockAddr6, IpAddress.withoutScope_of_not_mem hscope, IpAddress.readV6?,
    if_neg (by simpa using hslash), IpAddress.dropWhile_of_not_mem hscope]
  dsimp only
  rw [IpAddress.text, Address.V6.read?_text]
  rfl

/-- What was taken from a socket address is given back by its own one, with any port and with any
address of its version in the place of its own. -/
theorem Taken.ofSockAddr_sockAddr {v : Version} (h : Taken v items e) (port : Item)
    {address : IpAddress} (hbare : address.Bare) (hversion : address.version = v) :
    ofSockAddr v.family ({ e.withPort port with address } : Endpoint).sockAddr =
      .ok { e.withPort port with address } := by
  cases h with
  | four =>
    cases hbare with
    | v4 a => exact ofSockAddr_four a port []
    | v6 a => cases hversion
  | six =>
    cases hbare with
    | v4 a => cases hversion
    | v6 a => exact ofSockAddr_six a port _ _

/-- Of several ports that are set the last one stays. -/
theorem foldl_withPort (e : Endpoint) (ports : List Item) :
    ports.foldl withPort e = e.withPort (ports.getLastD e.port) := by
  induction ports generalizing e with
  | nil => rfl
  | cons port ports ih =>
    rw [List.foldl_cons, ih, List.getLastD_cons]
    rfl

/-- The socket address of an endpoint that was taken from one of a family, and has had its port set
any number of times, is one of that family and gives the endpoint back, so that nothing changes when
it is taken and given once more. The same is true with any other address of the version. There is no
scope in the host's text, and for IPv6 the flow and the scope are those that were taken. -/
theorem ofSockAddr_returns (h : ofSockAddr family items = .ok e) (ports : List Item) :
    let e' := ports.foldl withPort e
    Taken e'.version items e ∧ e' = e.withPort (ports.getLastD e.port) ∧
      e'.version.family = family ∧
      ofSockAddr e'.version.family e'.sockAddr = .ok e' ∧
      (ofSockAddr e'.version.family e'.sockAddr).map sockAddr = .ok e'.sockAddr ∧
      (∀ address : IpAddress, address.Bare → address.version = e'.version →
        ofSockAddr family ({ e' with address } : Endpoint).sockAddr = .ok { e' with address }) ∧
      '%' ∉ e'.address.text.toList ∧
      e'.sockAddr = .name e'.address.text :: e'.port ::
        match e'.version with
        | .four => []
        | .six => [e'.flow, e'.scope] := by
  obtain ⟨v, rfl, htaken⟩ := taken_of_ofSockAddr h
  have hversion : (e.withPort (ports.getLastD e.port)).version = v := htaken.version_eq
  have hreturns : ofSockAddr v.family (e.withPort (ports.getLastD e.port)).sockAddr =
      .ok (e.withPort (ports.getLastD e.port)) :=
    htaken.ofSockAddr_sockAddr _ htaken.bare htaken.version_eq
  rw [foldl_withPort]
  dsimp only
  rw [hversion, hreturns]
  refine ⟨htaken, rfl, rfl, rfl, rfl, fun address => htaken.ofSockAddr_sockAddr _, ?_, ?_⟩
  · exact fun hscope => (htaken.bare.forall_of_text _ hscope).1 rfl
  · rw [sockAddr, hversion]
    cases v <;> rfl

/-- A link-local address that was given with its interface, and the last of two ports. -/
theorem ofSockAddr_returns_linkLocal :
    ∃ e, ofSockAddr 10 [.name "FE80:0::1%eth0", 80, 7, 3] = .ok e ∧
      e.sockAddr = [.name "fe80::1", 80, 7, 3] ∧
      ofSockAddr 10 [.name "fe80::1", 4000, 7, 3] = .ok (e.withPort 4000) := by
  have hread : ofSockAddr 10 [.name "FE80:0::1%eth0", 80, 7, 3] =
      .ok { address := .v6 ⟨[0xfe80, 0, 0, 0, 0, 0, 0, 1], rfl⟩ none, port := 80, flow := 7,
            scope := 3 } := by
    rfl
  obtain ⟨-, -, -, hreturns, -⟩ := ofSockAddr_returns hread [0, 4000]
  exact ⟨_, hread, by rfl, hreturns⟩

end Endpoint

end RdsReach
