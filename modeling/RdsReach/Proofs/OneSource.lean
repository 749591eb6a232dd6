import RdsReach.Proofs.Route

/-!
# One source for all sockets

Both who asks for the source of a run and who creates a socket can be the first to need it. Whatever
the order of their requests is, and whichever of them fail, they share one source:

* a source that was given is never looked up;
* one that was not is looked up once by each request that needs it, until a lookup finds it, and
  never again;
* every socket is bound to that source with port 0.

The port is the second item of a socket address: `Event.Ported` says which one a helper is connected
to and which one a socket is bound to. `Handled.Account` tells what one request does, and
`Request.one_source` follows from it by induction on the requests.
-/

namespace RdsReach

/-! ## Requests -/

/-- A request for the source of a run, or for a socket that is bound to it. -/
inductive Request where
  | source
  | create (slot : Int)
deriving DecidableEq, Repr

/-- What a request that is met gives. -/
inductive Request.Answer where
  | endpoint (e : Endpoint)
  | socket (m : ProbeSocket)

/-- The action of a request. -/
def Request.action (conf : RunConfig) : Request → Probe Request.Answer
  | source => Request.Answer.endpoint <$> Probe.sourceEndpoint conf
  | create slot => Request.Answer.socket <$> Probe.createProbeSocket conf slot

/-- A request that was made, with the states before and after it and its answer or failure. -/
structure Handled where
  request : Request
  before : State
  answer : Except Failure Request.Answer
  after : State

/-- Makes a request in a state. -/
def Request.handle (conf : RunConfig) (request : Request) (s : State) : Handled :=
  match request.action conf s with
  | .ok a t => { request, before := s, answer := .ok a, after := t }
  | .error f t => { request, before := s, answer := .error f, after := t }

/-- Makes one request after the other, also after those that fail. -/
def Request.handleAll (conf : RunConfig) : List Request → State → List Handled
  | [], _ => []
  | request :: requests, s =>
    request.handle conf s :: handleAll conf requests (request.handle conf s).after

/-! ## What a request does -/

/-- The events of a request: those of asking for the source, unless the request ends before that,
and the calls on the socket `fd` that it creates. -/
inductive Request.Leaves (fd : Nat) :
    Request → Option (List Event) → List (Call × Option Fault) → List Event → Prop where
  | source (asked : List Event) : Leaves fd .source (some asked) [] asked
  | refused (slot : Int) (g : Fault) : Leaves fd (.create slot) none [] [.notOpened .rds g]
  | create (slot : Int) (asked : List Event) (cs : List (Call × Option Fault)) :
      Leaves fd (.create slot) (some asked) cs (.opened .rds fd :: (asked ++ eventsOn fd cs))

/-- What a request did that asked for the source with the events `asked`, if it got that far, and
left the source `known`. -/
structure Handled.Account (conf : RunConfig) (h : Handled) (asked : Option (List Event))
    (known : Option Endpoint) : Prop where
  /-- The socket is bound to nothing but the source with port 0, and a socket that is given was
  bound to it. -/
  events : ∃ fd cs es, h.before.Emits es h.after ∧ h.request.Leaves fd asked cs es ∧
    (∀ c ∈ cs, c.1 = .close ∨ ∃ src, known = some src ∧ Readies (src.withPort 0) c.1) ∧
    ∀ m, h.answer = .ok (.socket m) →
      m.fd = fd ∧ ∃ src, known = some src ∧ cs = readyCalls conf (src.withPort 0)
  /-- Whoever asks for the source gets it with port 0. -/
  answered : ∀ src, known = some src → h.request = .source →
    h.answer = .ok (.endpoint (src.withPort 0))
  failed : known = none → ∃ f, h.answer = .error f
  kept : h.after.source = known

/-- The source was `src` before the request and stays it. Nothing is done to find it out. -/
def Handled.Settled (conf : RunConfig) (src : Endpoint) (h : Handled) : Prop :=
  ∃ asked, (∀ es ∈ asked, es = []) ∧ h.Account conf asked (some src)

/-- The request finds out the source `src` with one attempt. -/
def Handled.Finds (conf : RunConfig) (src : Endpoint) (h : Handled) : Prop :=
  h.before.Finds conf.destination src ∧
    ∃ helper, h.Account conf (some (answeredAttempt conf.destination helper)) (some src)

/-- The request leaves the source unknown: it fails, before it needs the source or after one attempt
that does not find it. -/
def Handled.Fruitless (conf : RunConfig) (h : Handled) : Prop :=
  ∃ asked, h.Account conf asked none ∧ ∀ es ∈ asked, ∃ helper,
    Attempt conf.destination helper es ∧
      (es = answeredAttempt conf.destination helper →
        ∀ src, ¬ h.before.Finds conf.destination src)

/-- Is this a request for a UDP socket? -/
def Event.isUdpRequest : Event → Bool
  | .opened (.udp _) _ => true
  | .notOpened (.udp _) _ => true
  | _ => false

/-- Where the source is settled, no UDP socket is asked for. -/
theorem Handled.Settled.no_udp {conf : RunConfig} {src : Endpoint} {h : Handled}
    (hs : h.Settled conf src) :
    ∃ es, h.before.Emits es h.after ∧ ∀ e ∈ es, e.isUdpRequest = false := by
  obtain ⟨asked, hasked, account⟩ := hs
  obtain ⟨fd, cs, es, hes, hleaves, -⟩ := account.events
  refine ⟨es, hes, ?_⟩
  have hcalls : ∀ e ∈ eventsOn fd cs, e.isUdpRequest = false := by
    intro e he
    obtain ⟨c, -, rfl⟩ := List.mem_map.1 he
    rfl
  generalize h.request = request at hleaves
  cases hleaves with
  | source =>
    rw [hasked es rfl]
    simp
  | refused slot g => simp [Event.isUdpRequest]
  | create slot asked =>
    rw [hasked asked rfl]
    exact List.forall_mem_cons.2 ⟨rfl, hcalls⟩

/-! ## Ports -/

/-- A helper is connected to port 1, and a socket is bound to port 0. -/
def Event.Ported : Event → Prop
  | .call _ (.connect address) _ => address[1]? = some 1
  | .call _ (.bind address) _ => address[1]? = some 0
  | _ => True

/-- All calls that the request made had these ports. -/
def Handled.Ported (h : Handled) : Prop :=
  ∃ es, h.before.Emits es h.after ∧ ∀ e ∈ es, e.Ported

theorem Endpoint.port_item (e : Endpoint) (port : Item) :
    (e.withPort port).sockAddr[1]? = some port := by
  rw [sockAddr]
  split
  · rfl
  · rfl

theorem Attempt.ported {destination : Endpoint} {fd : Nat} {es : List Event}
    (h : Attempt destination fd es) : ∀ e ∈ es, e.Ported := by
  have hport : (destination.withPort 1).sockAddr[1]? = some 1 := destination.port_item 1
  cases h with
  | unopened g => exact List.forall_mem_singleton.2 trivial
  | unconnected g o => simp [eventsOn, Event.Ported, hport]
  | connected o o' => simp [eventsOn, Event.Ported, hport]

theorem SourceLookup.ported {conf : RunConfig} {fd : Nat} {s : State} {es : List Event}
    {known : Option Endpoint} (h : SourceLookup conf fd s es known) : ∀ e ∈ es, e.Ported := by
  cases h with
  | known hsource => exact nofun
  | found hsource hfinds => exact (Attempt.connected none none).ported
  | vain hsource hattempt hvain => exact hattempt.ported

/-- What a request does has these ports if what it does to find out the source has. -/
theorem Handled.Account.ported {conf : RunConfig} {h : Handled} {asked : Option (List Event)}
    {known : Option Endpoint} (account : h.Account conf asked known)
    (hasked : ∀ es ∈ asked, ∀ e ∈ es, e.Ported) : h.Ported := by
  obtain ⟨fd, cs, es, hes, hleaves, hcs, -⟩ := account.events
  refine ⟨es, hes, ?_⟩
  have hcalls : ∀ e ∈ eventsOn fd cs, e.Ported := by
    intro e he
    obtain ⟨c, hc, rfl⟩ := List.mem_map.1 he
    rcases hcs c hc with hclose | ⟨src, -, -, hbind | ⟨byte, htos⟩⟩
    · rw [hclose]
      trivial
    · rw [hbind]
      exact src.port_item 0
    · rw [htos]
      trivial
  generalize h.request = request at hleaves
  cases hleaves with
  | source => exact hasked es rfl
  | refused slot g => exact List.forall_mem_singleton.2 trivial
  | create slot asked =>
    have hall := List.forall_mem_append.2 ⟨hasked asked rfl, hcalls⟩
    exact List.forall_mem_cons.2 ⟨trivial, hall⟩

/-! ## One request -/

/-- What is asked for does not depend on more than the known source and the scripts of helpers. -/
theorem SourceLookup.congr {conf : RunConfig} {fd : Nat} {s t : State} {es : List Event}
    {known : Option Endpoint} (hsource : t.source = s.source)
    (hscript : ∀ v, Probe.nextScript t (.udp v) = Probe.nextScript s (.udp v))
    (h : SourceLookup conf fd t es known) : SourceLookup conf fd s es known := by
  have hfinds (src : Endpoint) (h : t.Finds conf.destination src) :
      s.Finds conf.destination src := by
    rw [State.Finds, hscript] at h
    exact h
  have hvain (src : Endpoint) (h : s.Finds conf.destination src) :
      t.Finds conf.destination src := by
    rw [State.Finds, ← hscript] at h
    exact h
  cases h with
  | known ht => exact .known (hsource ▸ ht)
  | found ht hfound => exact .found (hsource ▸ ht) (hfinds _ hfound)
  | vain ht hattempt hnone =>
    exact .vain (hsource ▸ ht) hattempt fun hes src h => hnone hes src (hvain src h)

namespace Probe

open State (After Emits)

/-- Creating a socket asks for the source once the RDS socket is there, and binds it to nothing
else. -/
theorem createProbeSocket_lookup (conf : RunConfig) (slot : Int) (s : State) :
    Meets (createProbeSocket conf slot) s
      (fun m t => ∃ es src, SourceLookup conf (firstFd + s.sockets.size + 1) s es (some src) ∧
        m.fd = firstFd + s.sockets.size ∧ src.version = .four ∧ t.source = some src ∧
          s.Emits (.opened .rds (firstFd + s.sockets.size) ::
            (es ++ eventsOn (firstFd + s.sockets.size) (readyCalls conf (src.withPort 0)))) t)
      fun _ t => (∃ g, s.Emits [.notOpened .rds g] t ∧ t.source = s.source) ∨
        ∃ es known cs, SourceLookup conf (firstFd + s.sockets.size + 1) s es known ∧
          t.source = known ∧
          s.Emits (.opened .rds (firstFd + s.sockets.size) ::
            (es ++ eventsOn (firstFd + s.sockets.size) cs)) t ∧
          ∀ c ∈ cs, c.1 = .close ∨ ∃ src, known = some src ∧ Readies (src.withPort 0) c.1 := by
  set fd := firstFd + s.sockets.size with hfd
  have hcreate := (createSocket_spec .rds s).and (createSocket_rds_nextScript s)
  rw [createProbeSocket, meets_bind, meets_onFault]
  apply hcreate.mono
  · intro _ t ht
    obtain ⟨⟨rfl, ht⟩, hscript⟩ := ht
    have hsize : firstFd + t.sockets.size = fd + 1 := by
      rw [ht.size_eq]
      rfl
    have hlookup {es : List Event} {known : Option Endpoint}
        (h : SourceLookup conf (firstFd + t.sockets.size) t es known) :
        SourceLookup conf (fd + 1) s es known := by
      rw [hsize] at h
      exact h.congr ht.source_eq hscript
    rw [meets_bind, meets_undoing]
    apply (prepare_lookup conf fd t).mono
    · intro e u hu
      obtain ⟨es, src, hknown, rfl, hfour, hsource, hu⟩ := hu
      rw [meets_bind, meets_number]
      split
      · rw [meets_bind, meets_say, meets_pure]
        exact ⟨es, src, hlookup hknown, rfl, hfour, hsource,
          (ht.toEmits.trans hu).then_nil (.of_eq rfl rfl)⟩
      -- the slot is too long a number to be told, and the socket stays open
      · exact .inr ⟨es, some src, _, hlookup hknown, hsource, ht.toEmits.trans hu,
          fun c hc => .inr ⟨src, rfl, readies_readyCalls conf hfour c hc⟩⟩
    · intro f u hu
      obtain ⟨es, known, cs, hknown, hsource, hu, hcs⟩ := hu
      have hready : ∀ c ∈ cs, c.1 = .close ∨
          ∃ src, known = some src ∧ Readies (src.withPort 0) c.1 := fun c hc => .inr (hcs c hc)
      split
      · apply (close_makes fd).ends u
        intro o v hv
        refine .inr ⟨es, known, cs ++ [(.close, o)], hlookup hknown,
          hv.source_eq.trans hsource, ?_, ?_⟩
        · rw [eventsOn_append, ← List.append_assoc]
          exact (ht.toEmits.trans hu).trans hv.toEmits
        · exact List.forall_mem_append.2 ⟨hready, by simp⟩
      · exact .inr ⟨es, known, cs, hlookup hknown, hsource, ht.toEmits.trans hu, hready⟩
  · intro _ t ht
    obtain ⟨⟨g, rfl, ht⟩, -⟩ := ht
    exact .inl ⟨g, ht.toEmits, ht.source_eq⟩

end Probe

open Probe

/-- The way a request is handled is the way its action ends. -/
theorem Request.handle_of_meets {conf : RunConfig} {request : Request} {s : State}
    {P : Handled → Prop}
    (h : Meets (request.action conf) s
      (fun a t => P { request, before := s, answer := .ok a, after := t })
      fun f t => P { request, before := s, answer := .error f, after := t }) :
    P (request.handle conf s) := by
  unfold Meets at h
  rw [handle]
  split
  · next hout => simpa [hout] using h
  · next hout => simpa [hout] using h

/-- Every request accounts for what it does. It finds the source known if it does not get as far as
asking for it. -/
theorem Request.handle_account (conf : RunConfig) (request : Request) (s : State) :
    ∃ asked known, (request.handle conf s).Account conf asked known ∧
      (asked = none → known = s.source) ∧
      ∀ es ∈ asked, ∃ helper, SourceLookup conf helper s es known := by
  apply Request.handle_of_meets (P := fun h => ∃ asked known, h.Account conf asked known ∧
    (asked = none → known = s.source) ∧ ∀ es ∈ asked, ∃ helper, SourceLookup conf helper s es known)
  cases request with
  | source =>
    rw [action, meets_map]
    apply (sourceEndpoint_lookup conf s).mono
    · intro e t ht
      obtain ⟨es, src, hlookup, rfl, hsource, ht⟩ := ht
      refine ⟨some es, some src, ⟨?_, ?_, by simp, hsource⟩, by simp, ?_⟩
      · exact ⟨0, [], es, ht, .source es, by simp, fun m hm => by cases hm⟩
      · intro src' hsrc _
        cases hsrc
        rfl
      · simpa using ⟨_, hlookup⟩
    · intro f t ht
      obtain ⟨es, hlookup, hsource, ht⟩ := ht
      refine ⟨some es, none, ⟨?_, by simp, fun _ => ⟨f, rfl⟩, hsource⟩, by simp, ?_⟩
      · exact ⟨0, [], es, ht, .source es, by simp, fun m hm => by cases hm⟩
      · simpa using ⟨_, hlookup⟩
  | create slot =>
    rw [action, meets_map]
    apply (createProbeSocket_lookup conf slot s).mono
    · intro m t ht
      obtain ⟨es, src, hlookup, hfd, hfour, hsource, ht⟩ := ht
      refine ⟨some es, some src, ⟨?_, ?_, by simp, hsource⟩, by simp, ?_⟩
      · refine ⟨_, _, _, ht, .create slot es _, ?_, ?_⟩
        · exact fun c hc => .inr ⟨src, rfl, readies_readyCalls conf hfour c hc⟩
        · intro m' hm
          cases hm
          exact ⟨hfd, src, rfl, rfl⟩
      · simp
      · simpa using ⟨_, hlookup⟩
    · intro f t ht
      rcases ht with ⟨g, ht, hsource⟩ | ⟨es, known, cs, hlookup, hsource, ht, hcs⟩
      · refine ⟨none, s.source, ⟨?_, ?_, fun _ => ⟨f, rfl⟩, hsource⟩, fun _ => rfl, by simp⟩
        · exact ⟨0, [], _, ht, .refused slot g, by simp, fun m hm => by cases hm⟩
        · simp
      · refine ⟨some es, known, ⟨?_, ?_, fun _ => ⟨f, rfl⟩, hsource⟩, by simp, ?_⟩
        · exact ⟨_, cs, _, ht, .create slot es cs, hcs, fun m hm => by cases hm⟩
        · simp
        · simpa using ⟨_, hlookup⟩

/-! ## One request after the other -/

section Handled

variable {conf : RunConfig} {request : Request} {requests : List Request} {s : State}
  {src : Endpoint}

theorem Request.before_handle (conf : RunConfig) (request : Request) (s : State) :
    (request.handle conf s).before = s := by
  rw [handle]
  split
  · rfl
  · rfl

theorem Request.handle_ported (conf : RunConfig) (request : Request) (s : State) :
    (request.handle conf s).Ported := by
  obtain ⟨asked, known, account, -, hasked⟩ := request.handle_account conf s
  apply account.ported
  intro es hes
  obtain ⟨helper, hlookup⟩ := hasked es hes
  exact hlookup.ported

theorem Request.handleAll_ported (conf : RunConfig) (requests : List Request) (s : State) :
    ∀ h ∈ handleAll conf requests s, h.Ported := by
  induction requests generalizing s with
  | nil => simp [handleAll]
  | cons request requests ih =>
    rw [handleAll]
    exact List.forall_mem_cons.2 ⟨handle_ported conf request s, ih _⟩

/-- A source that is known stays settled. -/
theorem Request.handle_settled (hs : s.source = some src) :
    (request.handle conf s).Settled conf src := by
  obtain ⟨asked, known, account, hunasked, hasked⟩ := request.handle_account conf s
  have hlookup {es : List Event} {helper : Nat} (h : SourceLookup conf helper s es known) :
      known = some src ∧ es = [] := by
    cases h with
    | known h => exact ⟨h.symm.trans hs, rfl⟩
    | found h _ => cases h.symm.trans hs
    | vain h _ _ => cases h.symm.trans hs
  have hknown : known = some src := by
    cases asked with
    | none => exact (hunasked rfl).trans hs
    | some es =>
      obtain ⟨helper, h⟩ := hasked es rfl
      exact (hlookup h).1
  refine ⟨asked, fun es hes => ?_, hknown ▸ account⟩
  obtain ⟨helper, h⟩ := hasked es hes
  exact (hlookup h).2

/-- A source that is unknown is found, or stays unknown. -/
theorem Request.handle_unknown (conf : RunConfig) (request : Request) (hs : s.source = none) :
    (request.handle conf s).Fruitless conf ∨ ∃ src, (request.handle conf s).Finds conf src := by
  obtain ⟨asked, known, account, hunasked, hasked⟩ := request.handle_account conf s
  cases asked with
  | none =>
    rw [hs] at hunasked
    rw [hunasked rfl] at account
    exact .inl ⟨none, account, by simp⟩
  | some es =>
    obtain ⟨helper, h⟩ := hasked es rfl
    cases h with
    | known h => cases h.symm.trans hs
    | @found src _ hfinds =>
      exact .inr ⟨src, (before_handle conf request s).symm ▸ hfinds, helper, account⟩
    | vain _ hattempt hvain =>
      refine .inl ⟨some es, account, fun es' hes => ?_⟩
      cases hes
      rw [before_handle]
      exact ⟨helper, hattempt, hvain⟩

theorem Request.handleAll_settled (hs : s.source = some src) :
    ∀ h ∈ handleAll conf requests s, h.Settled conf src := by
  induction requests generalizing s with
  | nil => simp [handleAll]
  | cons request requests ih =>
    have hfirst : (request.handle conf s).Settled conf src := handle_settled hs
    obtain ⟨asked, -, account⟩ := hfirst
    rw [handleAll]
    exact List.forall_mem_cons.2 ⟨handle_settled hs, ih account.kept⟩

/-- The requests up to the first one that finds the source are fruitless, and after it the source is
settled. -/
theorem Request.handleAll_unknown (hs : s.source = none) :
    ∃ vain rest, handleAll conf requests s = vain ++ rest ∧ (∀ h ∈ vain, h.Fruitless conf) ∧
      ∀ h later, rest = h :: later →
        ∃ src, h.Finds conf src ∧ ∀ h' ∈ later, h'.Settled conf src := by
  induction requests generalizing s with
  | nil => exact ⟨[], [], rfl, by simp, by simp⟩
  | cons request requests ih =>
    rw [handleAll]
    rcases handle_unknown conf request hs with hfruitless | ⟨src, hfinds⟩
    · obtain ⟨asked, account, -⟩ := id hfruitless
      obtain ⟨vain, rest, hall, hvain, hrest⟩ := ih account.kept
      refine ⟨request.handle conf s :: vain, rest, ?_, ?_, hrest⟩
      · rw [hall, List.cons_append]
      · exact List.forall_mem_cons.2 ⟨hfruitless, hvain⟩
    · obtain ⟨-, helper, account⟩ := id hfinds
      refine ⟨[], _, rfl, by simp, fun h later heq => ?_⟩
      cases heq
      exact ⟨src, hfinds, handleAll_settled account.kept⟩

end Handled

/-- All requests of a run share one source: the one that was given, which is never looked up, or the
first one that a lookup finds. Every request that needs the source before makes one attempt, in
vain, and every request after it makes none. Helpers are connected to port 1, and sockets are bound
to port 0. -/
theorem Request.one_source (conf : RunConfig) (start : State) (requests : List Request) :
    let handled := handleAll conf requests (start.forRun conf)
    (∀ h ∈ handled, h.Ported) ∧
    match conf.source with
    | some src => ∀ h ∈ handled, h.Settled conf src ∧
        ∃ es, h.before.Emits es h.after ∧ ∀ e ∈ es, e.isUdpRequest = false
    | none => ∃ vain rest, handled = vain ++ rest ∧ (∀ h ∈ vain, h.Fruitless conf) ∧
        ∀ h later, rest = h :: later →
          ∃ src, h.Finds conf src ∧ ∀ h' ∈ later, h'.Settled conf src := by
  intro handled
  have hstart : (start.forRun conf).source = conf.source := rfl
  refine ⟨handleAll_ported conf requests _, ?_⟩
  split
  · next src hsource =>
    intro h hh
    have hsettled : h.Settled conf src := handleAll_settled (hstart.trans hsource) h hh
    exact ⟨hsettled, hsettled.no_udp⟩
  · next hsource => exact handleAll_unknown (hstart.trans hsource)

/-- The first helper cannot be connected, and the second one cannot be asked for its address. The
third one finds the source for all requests that come after. -/
theorem Request.one_source_found_late :
    let conf : RunConfig := { destination := { address := .v4 ⟨192, 0, 2, 7⟩ } }
    let start : State := { world := { udp := [{ connect := some (.system (some 101)) },
      { localName := some (.system (some 107)) }] } }
    let handled := handleAll conf [.source, .create 0, .source, .create 1] (start.forRun conf)
    (handled.map fun h => h.answer.isOk) = [false, false, true, true] ∧
    (handled.map fun h => h.after.trace.drop h.before.trace.length) = [
      [.opened (.udp .four) 100,
        .call 100 (.connect [.name "192.0.2.7", 1]) (some (.system (some 101))),
        .call 100 .close none],
      [.opened .rds 101, .opened (.udp .four) 102,
        .call 102 (.connect [.name "192.0.2.7", 1]) none,
        .call 102 .localName (some (.system (some 107))), .call 102 .close none,
        .call 101 .close none],
      [.opened (.udp .four) 103, .call 103 (.connect [.name "192.0.2.7", 1]) none,
        .call 103 .localName none, .call 103 .close none],
      [.opened .rds 104, .call 104 (.bind [.name "192.0.2.10", 0]) none]] ∧
    (∀ h ∈ handled, h.Ported) ∧
      ∃ vain rest, handled = vain ++ rest ∧ (∀ h ∈ vain, h.Fruitless conf) ∧
        ∀ h later, rest = h :: later →
          ∃ src, h.Finds conf src ∧ ∀ h' ∈ later, h'.Settled conf src := by
  intro conf start handled
  have hanswers : (handled.map fun h => h.answer.isOk) = [false, false, true, true] := by
    decide +kernel
  exact ⟨hanswers, by decide +kernel, one_source conf start _⟩

end RdsReach
