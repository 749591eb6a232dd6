import RdsReach.Proofs.Outcome
import RdsReach.Resolve

/-!
# What becomes of a lookup

A host is looked up as a numeric address first, and in full exactly if that fails as a lookup.
`State.LooksUp` says which lookups are made and what the last of them answers. By
`Probe.resolve_tells` the first address that was found is what the host comes to, and where there is
none, the failure names the host.

A full lookup that finds the name to be one that cannot be encoded is not told that way, though a
numeric lookup is: its fault passes through.
-/

namespace RdsReach

/-! ## Answers -/

/-- The fault of an answer, if it is one. -/
def answerFault? : Except Fault (List Candidate) → Option Fault
  | .ok _ => none
  | .error f => some f

/-- The endpoint of the first address that was found, if it is one of either version. -/
def firstEndpoint? : Except Fault (List Candidate) → Option Endpoint
  | .ok (first :: _) => (Endpoint.ofSockAddr first.family first.address).toOption
  | _ => none

/-- The answer is one that a name service gives: it fails as a lookup, takes the name for one that
cannot be encoded, or has found addresses, which are well formed if they are IPv4 or IPv6. -/
inductive Regular : Except Fault (List Candidate) → Prop where
  | unknown (errno : Option Int) (reason : Option String) : Regular (.error (.lookup errno reason))
  | unencodable (words : String) : Regular (.error (.unencodable words))
  | found {candidates : List Candidate}
      (h : ∀ c ∈ candidates, Version.ofFamily? c.family ≠ none →
        ∃ e, Endpoint.ofSockAddr c.family c.address = .ok e) : Regular (.ok candidates)

/-- The answer to a lookup, and the world that answers later lookups. -/
def World.reply (w : World) (kind : LookupKind) (host : Host) :
    Except Fault (List Candidate) × World :=
  match w.names, host with
  | .table hosts, .named text => (NameService.answer w.nameprep hosts kind text, w)
  | .table _, .blank => (.error .illTyped, w)
  | .staged [], _ => (.error (.unknownName "script exhausted"), w)
  | .staged (answer :: rest), _ => (answer, { w with names := .staged rest })

/-- The lookups of a host lead from `s` to `t`, and the last of them, one of the kind `kind`, gives
the answer. The numeric one comes first, and the full one is made exactly if the numeric one fails
as a lookup. -/
inductive State.LooksUp (s : State) (host : Host) :
    LookupKind → Except Fault (List Candidate) → State → Prop where
  | numeric {answer : Except Fault (List Candidate)} {w : World} {t : State}
      (hreply : s.world.reply .numeric host = (answer, w))
      (hother : ∀ errno reason, answer ≠ .error (.lookup errno reason))
      (hlookups : t.lookups = s.lookups.push ⟨.numeric, host, answerFault? answer⟩) :
      s.LooksUp host .numeric answer t
  | full {errno : Option Int} {reason : Option String} {answer : Except Fault (List Candidate)}
      {w w' : World} {t : State}
      (hnumeric : s.world.reply .numeric host = (.error (.lookup errno reason), w))
      (hfull : w.reply .full host = (answer, w'))
      (hlookups : t.lookups = (s.lookups.push ⟨.numeric, host, some (.lookup errno reason)⟩).push
        ⟨.full, host, answerFault? answer⟩) :
      s.LooksUp host .full answer t

/-- The lookups are those of every later state in which no other one was made. -/
theorem State.LooksUp.of_lookups_eq {s t u : State} {host : Host} {kind : LookupKind}
    {answer : Except Fault (List Candidate)} (h : s.LooksUp host kind answer t)
    (hu : u.lookups = t.lookups) : s.LooksUp host kind answer u := by
  cases h with
  | numeric hreply hother hlookups => exact .numeric hreply hother (hu.trans hlookups)
  | full hnumeric hfull hlookups => exact .full hnumeric hfull (hu.trans hlookups)

namespace Probe

variable {s : State} {host : Host}

/-! ## Lookups -/

theorem takeAnswer_apply (kind : LookupKind) (host : Host) (s : State) :
    takeAnswer kind host s =
      .ok (s.world.reply kind host).1 { s with world := (s.world.reply kind host).2 } := by
  obtain ⟨⟨names⟩⟩ := s
  rcases names with _ | hosts
  · next answers => cases answers <;> rfl
  · cases host <;> rfl

/-- A lookup is answered from the names, and noted with its fault. -/
theorem lookup_spec (kind : LookupKind) (host : Host) (s : State) :
    Meets (lookup kind host) s
      (fun candidates t => ∃ w, s.world.reply kind host = (.ok candidates, w) ∧
        t.world = w ∧ t.lookups = s.lookups.push ⟨kind, host, none⟩)
      fun f t => ∃ g w, s.world.reply kind host = (.error g, w) ∧ f = .fault g ∧
        t.world = w ∧ t.lookups = s.lookups.push ⟨kind, host, some g⟩ := by
  rw [lookup, meets_bind, meets_of_ok (takeAnswer_apply kind host s)]
  obtain ⟨answer, w⟩ := s.world.reply kind host
  cases answer with
  | ok candidates => exact ⟨w, rfl, rfl, rfl⟩
  | error g => exact ⟨g, w, rfl, rfl, rfl, rfl⟩

/-- What a fault of the last lookup is told as. -/
def toldLookup (host : Host) : LookupKind → Fault → Failure
  | _, .lookup _ reason => .unresolved host reason
  | .numeric, .unencodable words => .unresolved host (some words)
  | _, g => .fault g

theorem lookupFull_spec (host : Host) (s : State) :
    Meets (lookupFull host) s
      (fun candidates t => ∃ w, s.world.reply .full host = (.ok candidates, w) ∧
        t.lookups = s.lookups.push ⟨.full, host, none⟩)
      fun f t => ∃ g w, s.world.reply .full host = (.error g, w) ∧
        f = toldLookup host .full g ∧ t.lookups = s.lookups.push ⟨.full, host, some g⟩ := by
  rw [lookupFull, meets_bind, meets_say, meets_tryCatch]
  apply (lookup_spec .full host _).mono
  · rintro candidates t ⟨w, hreply, -, hlookups⟩
    exact ⟨w, hreply, hlookups⟩
  · rintro _ t ⟨g, w, hreply, rfl, -, hlookups⟩
    cases g <;> exact ⟨_, w, hreply, rfl, hlookups⟩

/-- The candidates are those that the last lookup gives, and its fault is told. -/
theorem candidates_spec (host : Host) (s : State) :
    Meets (candidates host) s
      (fun candidates t => ∃ kind, s.LooksUp host kind (.ok candidates) t)
      fun f t => ∃ kind g, s.LooksUp host kind (.error g) t ∧ f = toldLookup host kind g := by
  rw [candidates, meets_tryCatch]
  apply (lookup_spec .numeric host s).mono
  · rintro candidates t ⟨w, hreply, -, hlookups⟩
    exact ⟨.numeric, .numeric hreply nofun hlookups⟩
  · rintro _ t ⟨g, w, hreply, rfl, hworld, hlookups⟩
    cases g with
    | lookup errno reason =>
      apply (lookupFull_spec host t).mono
      · rintro candidates u ⟨w', hfull, hfulls⟩
        rw [hworld] at hfull
        exact ⟨.full, .full hreply hfull (by rw [hfulls, hlookups]; rfl)⟩
      · rintro _ u ⟨g, w', hfull, rfl, hfulls⟩
        rw [hworld] at hfull
        exact ⟨.full, g, .full hreply hfull (by rw [hfulls, hlookups]; rfl), rfl⟩
    | _ => exact ⟨.numeric, _, .numeric hreply nofun hlookups, rfl⟩

/-! ## Resolving -/

/-- The failure of a regular answer that does not name the host: a name that a full lookup takes for
one that cannot be encoded, or a number of a family that is too long to print. -/
def escape? : LookupKind → Except Fault (List Candidate) → Option Failure
  | .full, .error (.unencodable words) => some (.fault (.unencodable words))
  | _, .ok (first :: _) => if Decimal.isPrintable first.family then none else some .overlong
  | _, _ => none

/-- A host is looked up as a numeric address, and in full exactly if that fails as a lookup. It
comes to the endpoint of the first address that the last lookup found. Where there is none of either
version, and the answer is one that a name service gives, the failure names the host, but for the
answers that `escape?` lists. -/
theorem resolve_tells (host : Host) (s : State) :
    Meets (resolve host) s
      (fun e t => ∃ kind answer, s.LooksUp host kind answer t ∧ firstEndpoint? answer = some e)
      fun f t => ∃ kind answer, s.LooksUp host kind answer t ∧ firstEndpoint? answer = none ∧
        (Regular answer →
          match escape? kind answer with
          | some g => f = g
          | none => ∃ reason, f = .unresolved host reason) := by
  rw [resolve, meets_bind]
  apply (candidates_spec host s).mono
  · rintro candidates t ⟨kind, hlookups⟩
    cases candidates with
    | nil => exact ⟨kind, _, hlookups, rfl, fun _ => by cases kind <;> exact ⟨_, rfl⟩⟩
    | cons first rest =>
      dsimp only
      cases hfamily : Version.ofFamily? first.family with
      | none =>
        have hnone : firstEndpoint? (.ok (first :: rest)) = none := by
          rw [firstEndpoint?, Endpoint.ofSockAddr, hfamily]
          rfl
        rw [if_pos (by rfl), meets_bind, meets_number]
        split
        · next hshort =>
          refine ⟨kind, _, hlookups, hnone, fun _ => ?_⟩
          rw [escape?, if_pos hshort]
          exact ⟨_, rfl⟩
        · next hlong =>
          refine ⟨kind, _, hlookups, hnone, fun _ => ?_⟩
          rw [escape?, if_neg hlong]
      | some version =>
        rw [if_neg (by exact Bool.false_ne_true), meets_bind, meets_ofExcept]
        cases hread : Endpoint.ofSockAddr first.family first.address with
        | ok e =>
          refine ⟨kind, _, hlookups.of_lookups_eq rfl, ?_⟩
          rw [firstEndpoint?, hread]
          rfl
        | error x =>
          refine ⟨kind, _, hlookups, by rw [firstEndpoint?, hread]; rfl, fun hregular => ?_⟩
          -- an address of either version is well formed
          cases hregular with
          | found hfound =>
            obtain ⟨e, he⟩ := hfound first List.mem_cons_self (by rw [hfamily]; exact nofun)
            cases hread.symm.trans he
  · rintro _ t ⟨kind, g, hlookups, rfl⟩
    refine ⟨kind, _, hlookups, rfl, fun hregular => ?_⟩
    cases hregular with
    | unknown errno reason => cases kind <;> exact ⟨reason, rfl⟩
    | unencodable words =>
      cases kind with
      | numeric => exact ⟨_, rfl⟩
      | full => exact rfl

/-- A host that is unknown as a numeric address is found by the full lookup to be one that cannot be
encoded, and that fault is not told as a host that has no address. -/
theorem resolve_unencodable :
    let answers : List (Except Fault (List Candidate)) :=
      [.error (.lookup (some (-2)) (some "Name or service not known")),
        .error (.unencodable "label too long")]
    (∀ answer ∈ answers, Regular answer) ∧
      ∃ t, resolve (.named "node") { world := { names := .staged answers } } =
        .error (.fault (.unencodable "label too long")) t := by
  refine ⟨?_, _, rfl⟩
  rintro answer (_ | ⟨_, _ | ⟨_, ⟨⟩⟩⟩)
  · exact .unknown _ _
  · exact .unencodable _

end Probe

end RdsReach
