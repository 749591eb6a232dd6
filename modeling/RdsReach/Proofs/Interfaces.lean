import Mathlib.Data.List.Forall2
import RdsReach.Interface
import RdsReach.Proofs.AddressText
import RdsReach.Probe.Lemmas

/-!
# Which interface an address is assigned to

`Nic.Assigned` says what it takes that an address is assigned to an interface: a link of the
address's family, the text of which is read as the address up to its scope. By
`findInterface_first` the first such interface is found whatever else the table holds, and a source
is warned of exactly if the user gave it and there is none. Links that cannot assign an address of
the version, `Link.Idle`, may stand anywhere.
-/

namespace RdsReach

/-! ## Assigned addresses -/

/-- The part of a text before the first `%`. -/
inductive Unscoped : List Char → List Char → Prop where
  | whole {cs : List Char} (h : '%' ∉ cs) : Unscoped cs cs
  | cut {front scope : List Char} (h : '%' ∉ front) : Unscoped (front ++ '%' :: scope) front

theorem unscoped_iff {cs front : List Char} :
    Unscoped cs front ↔ front = IpAddress.withoutScope cs := by
  constructor
  · rintro (h | @⟨_, scope, h⟩)
    · exact (IpAddress.withoutScope_of_not_mem h).symm
    · have hfront : ∀ c ∈ front, decide (c ≠ '%') = true :=
        fun c hc => decide_eq_true fun hscope => h (hscope ▸ hc)
      rw [IpAddress.withoutScope, List.takeWhile_append_of_pos hfront,
        List.takeWhile_cons_of_neg (by simp), List.append_nil]
  · rintro rfl
    have hnot : '%' ∉ IpAddress.withoutScope cs := IpAddress.not_mem_withoutScope cs
    have hsplit : IpAddress.withoutScope cs ++ cs.dropWhile (· ≠ '%') = cs :=
      List.takeWhile_append_dropWhile
    cases hrest : cs.dropWhile (· ≠ '%') with
    | nil =>
      rw [hrest, List.append_nil] at hsplit
      rw [hsplit] at hnot ⊢
      exact .whole hnot
    | cons c scope =>
      have hfirst : c = '%' := IpAddress.eq_of_dropWhile hrest
      have hcut : Unscoped (IpAddress.withoutScope cs ++ '%' :: scope)
          (IpAddress.withoutScope cs) := .cut hnot
      rwa [← hfirst, ← hrest, hsplit] at hcut

/-- The link assigns the address. -/
structure Link.Assigns (link : Link) (address : IpAddress) : Prop where
  family : link.family = address.version.family
  text : ∃ text front, link.address = some text ∧ Unscoped text.toList front ∧
    IpAddress.read? (String.ofList front) = some address

/-- The address is assigned to the interface. -/
def Nic.Assigned (nic : Nic) (address : IpAddress) : Prop :=
  ∃ link ∈ nic.links, link.Assigns address

theorem Link.assigns_iff {link : Link} {address : IpAddress} :
    link.Assigns address ↔ link.address? address.version = some address := by
  unfold address?
  constructor
  · rintro ⟨hfamily, text, front, htext, hfront, hread⟩
    rw [if_pos hfamily, htext, Option.bind_some, ← unscoped_iff.1 hfront, hread]
  · intro h
    split at h
    · next hfamily =>
      obtain ⟨text, htext, hread⟩ := Option.bind_eq_some_iff.1 h
      exact ⟨hfamily, text, _, htext, unscoped_iff.2 rfl, hread⟩
    · cases h

theorem Nic.owns_iff {nic : Nic} {address : IpAddress} :
    nic.owns address = true ↔ nic.Assigned address := by
  rw [owns, List.any_eq_true]
  exact exists_congr fun link => and_congr_right fun _ =>
    decide_eq_true_iff.trans Link.assigns_iff.symm

/-! ## Links that do not count -/

/-- The link assigns no address of the version: it is of another family, has no address, or has one
that cannot be read. -/
inductive Link.Idle (version : Version) (link : Link) : Prop where
  | foreign (h : link.family ≠ version.family)
  | missing (h : link.address = none)
  | malformed {text : String} {front : List Char} (htext : link.address = some text)
      (hfront : Unscoped text.toList front) (h : IpAddress.read? (String.ofList front) = none)

theorem Link.Assigns.not_idle {link : Link} {address : IpAddress} (h : link.Assigns address) :
    ¬ link.Idle address.version := by
  obtain ⟨hfamily, text, front, htext, hfront, hread⟩ := h
  rintro (hforeign | hmissing | ⟨htext', hfront', hnone⟩)
  · exact hforeign hfamily
  · rw [htext] at hmissing
    cases hmissing
  · obtain rfl := Option.some.inj (htext.symm.trans htext')
    rw [unscoped_iff.1 hfront', ← unscoped_iff.1 hfront, hread] at hnone
    cases hnone

/-- The interfaces have one name and the same links, in any order, but for idle ones. -/
structure Nic.SameLinks (version : Version) (nic nic' : Nic) : Prop where
  name_eq : nic.name = nic'.name
  mem_iff : ∀ link : Link, ¬ link.Idle version → (link ∈ nic.links ↔ link ∈ nic'.links)

theorem Nic.SameLinks.owns_eq {nic nic' : Nic} {address : IpAddress}
    (h : nic.SameLinks address.version nic') : nic.owns address = nic'.owns address := by
  rw [Bool.eq_iff_iff, owns_iff, owns_iff]
  exact exists_congr fun link => and_congr_left fun hlink => h.mem_iff link hlink.not_idle

/-- Idle links do not change which interface is found. -/
theorem findInterface_congr {nics nics' : List Nic} {address : IpAddress}
    (h : List.Forall₂ (Nic.SameLinks address.version) nics nics') :
    findInterface nics address = findInterface nics' address := by
  induction h with
  | nil => rfl
  | cons hnic hrest ih =>
    unfold findInterface at ih ⊢
    rw [List.find?_cons, List.find?_cons, hnic.owns_eq]
    split
    · rw [Option.map_some, Option.map_some, hnic.name_eq]
    · exact ih

/-! ## The search -/

theorem findInterface_eq_some_iff {nics : List Nic} {address : IpAddress} {name : String} :
    findInterface nics address = some name ↔
      ∃ before nic after, nics = before ++ nic :: after ∧
        (∀ other ∈ before, ¬ other.Assigned address) ∧ nic.Assigned address ∧ nic.name = name := by
  simp only [findInterface, Option.map_eq_some_iff, List.find?_eq_some_iff_append,
    Nic.owns_iff, Bool.not_eq_true', ← Bool.not_eq_true]
  constructor
  · rintro ⟨nic, ⟨hnic, before, after, hnics, hbefore⟩, hname⟩
    exact ⟨before, nic, after, hnics, hbefore, hnic, hname⟩
  · rintro ⟨before, nic, after, hnics, hbefore, hnic, hname⟩
    exact ⟨nic, ⟨hnic, before, after, hnics, hbefore⟩, hname⟩

theorem findInterface_eq_none_iff {nics : List Nic} {address : IpAddress} :
    findInterface nics address = none ↔ ∀ nic ∈ nics, ¬ nic.Assigned address := by
  simp only [findInterface, Option.map_eq_none_iff, List.find?_eq_none, Nic.owns_iff]

/-- The state in which the user was warned of a source that no interface has. -/
def State.warned (s : State) (source : Endpoint) : State :=
  { s with journal := s.journal.push <| .message .describingSource .warning <|
      s!"Source address {source.address.text} is not assigned to any local interface, " ++
        "binding is likely to fail" }

/-- The source that is described is known to an interface, or the user is warned if it was given. -/
theorem Probe.describeSource_apply (source : Endpoint) (explicit : Bool) (s : State) :
    describeSource source explicit s =
      match findInterface s.world.nics source.address with
      | some name => .ok s!"{source.address.text} ({name})" s
      | none => .ok source.address.text (if explicit then s.warned source else s) := by
  rw [describeSource, bind_of_ok (get_apply s)]
  cases findInterface s.world.nics source.address with
  | some name => rfl
  | none => cases explicit <;> rfl

/-- The interface that is found is the first one that the address is assigned to, and none is found
only if there is none; links that are idle, more of them, less or in another order, never change
that. A source is warned of exactly if it was given and is assigned to no interface. -/
theorem findInterface_first (nics : List Nic) (address : IpAddress) (source : Endpoint)
    (explicit : Bool) (s : State) :
    (∀ name, findInterface nics address = some name ↔
      ∃ before nic after, nics = before ++ nic :: after ∧
        (∀ other ∈ before, ¬ other.Assigned address) ∧ nic.Assigned address ∧ nic.name = name) ∧
    (findInterface nics address = none ↔ ∀ nic ∈ nics, ¬ nic.Assigned address) ∧
    (∀ nics', List.Forall₂ (Nic.SameLinks address.version) nics nics' →
      findInterface nics' address = findInterface nics address) ∧
    ∃ text t, Probe.describeSource source explicit s = .ok text t ∧
      ((explicit = true ∧ ∀ nic ∈ s.world.nics, ¬ nic.Assigned source.address) ∧
          t = s.warned source ∨
        ¬ (explicit = true ∧ ∀ nic ∈ s.world.nics, ¬ nic.Assigned source.address) ∧ t = s) := by
  refine ⟨fun name => findInterface_eq_some_iff, findInterface_eq_none_iff,
    fun nics' h => (findInterface_congr h).symm, ?_⟩
  rw [Probe.describeSource_apply, ← findInterface_eq_none_iff]
  cases findInterface s.world.nics source.address with
  | some name => exact ⟨_, s, rfl, .inr ⟨nofun, rfl⟩⟩
  | none =>
    cases explicit with
    | true => exact ⟨_, _, rfl, .inl ⟨⟨rfl, rfl⟩, rfl⟩⟩
    | false => exact ⟨_, _, rfl, .inr ⟨nofun, rfl⟩⟩

/-- A link that cannot be read hides no later one, and one of the other family does not count. -/
example :
    let nics : List Nic :=
      [⟨"lo", [⟨2, some "127.0.0.1"⟩, ⟨10, none⟩]⟩,
        ⟨"eth0", [⟨10, some "fe80::g"⟩, ⟨2, some "fe80::1"⟩]⟩,
        ⟨"eth1", [⟨10, some "fe80::g"⟩, ⟨10, some "FE80:0::1%eth1"⟩]⟩]
    findInterface nics (.v6 ⟨[0xfe80, 0, 0, 0, 0, 0, 0, 1], rfl⟩ none) = some "eth1" := by
  rfl

end RdsReach
