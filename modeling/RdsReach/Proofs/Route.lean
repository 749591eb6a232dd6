import RdsReach.Proofs.Ownership
import RdsReach.Proofs.SockAddrs

/-!
# The lookup of a route

A source that was not given is found out by a helper, which is connected towards the destination and
asked for its address. Here it is told exactly which calls that makes, and when it finds a source:

* `Attempt destination fd es`: the events of an attempt with the helper `fd`, successful or not;
* `State.Finds s destination src`: the address that the helper is given in `s` is the source `src`;
* `Probe.guessSource_attempts` ties both together: an attempt finds the source exactly if all its
  calls are answered and the address can be read.

`SourceLookup` and `Probe.prepare_lookup` carry this on to what needs the source: it is known, or
one attempt is made, and the socket is bound to nothing but the source with port 0.
-/

namespace RdsReach

/-! ## Attempts -/

/-- The events of an attempt to find out the source with the helper `fd`. A helper that was opened
is connected to the destination at port 1, is asked for its address if that worked, and is closed
however the attempt ends. -/
inductive Attempt (destination : Endpoint) (fd : Nat) : List Event → Prop where
  | unopened (g : Fault) : Attempt destination fd [.notOpened (.udp destination.version) g]
  | unconnected (g : Fault) (o : Option Fault) :
      Attempt destination fd (.opened (.udp destination.version) fd ::
        eventsOn fd [(.connect (destination.withPort 1).sockAddr, some g), (.close, o)])
  | connected (o o' : Option Fault) :
      Attempt destination fd (.opened (.udp destination.version) fd ::
        eventsOn fd [(.connect (destination.withPort 1).sockAddr, none), (.localName, o),
          (.close, o')])

/-- The events of an attempt all calls of which are answered. -/
def answeredAttempt (destination : Endpoint) (fd : Nat) : List Event :=
  .opened (.udp destination.version) fd ::
    eventsOn fd [(.connect (destination.withPort 1).sockAddr, none), (.localName, none),
      (.close, none)]

/-- The next helper has an address of the destination's version, and this address, with port 0, is
the source. -/
def State.Finds (s : State) (destination src : Endpoint) : Prop :=
  ∃ e, Endpoint.ofSockAddr destination.version.family
      (Probe.nextScript s (.udp destination.version)).localAddress = .ok e ∧
    src = e.withPort 0

theorem eventsOn_injective {fd : Nat} {cs cs' : List (Call × Option Fault)}
    (h : eventsOn fd cs = eventsOn fd cs') : cs = cs' := by
  apply List.map_injective_iff.2 _ h
  intro c c' hc
  injection hc with _ hcall hfault
  exact Prod.ext hcall hfault

@[simp] theorem Endpoint.version_withPort (e : Endpoint) (port : Item) :
    (e.withPort port).version = e.version := rfl

/-- A source that is found is of the destination's version. -/
theorem State.Finds.version_eq {s : State} {destination src : Endpoint}
    (h : s.Finds destination src) : src.version = destination.version := by
  obtain ⟨e, he, hsrc⟩ := h
  rw [hsrc]
  show e.version = destination.version
  exact Endpoint.version_of_ofSockAddr he

namespace Probe

open State (After Emits)

variable {s : State}

/-- A socket that is asked for its address gives the one of its script. -/
theorem localName_script (fd : Nat) {x : SocketScript}
    (hx : s.socketScripts[fd - firstFd]? = some x) :
    Meets (localName fd) s (fun address _ => address = x.localAddress) fun _ _ => True := by
  rw [localName]
  apply (socketOf_script fd hx).bind_of_total
  intro socket t ht
  obtain ⟨rfl, rfl⟩ := ht
  apply meets_bind.2
  apply (finish_spec fd .localName socket.script.localName t).mono
  · exact fun _ _ _ => rfl
  · exact fun _ _ _ => trivial

/-- The calls that ask a helper for its address, up to the first one that fails. -/
theorem connectedName_attempts (helper : Nat) (destination : Endpoint) {x : SocketScript}
    (hx : s.socketScripts[helper - firstFd]? = some x) :
    Meets (connectedName helper destination) s
      (fun address t => address = x.localAddress ∧
        s.After (eventsOn helper [(.connect destination.sockAddr, none), (.localName, none)]) t)
      fun _ t => ∃ g,
        s.After (eventsOn helper [(.connect destination.sockAddr, some g)]) t ∨
        s.After (eventsOn helper [(.connect destination.sockAddr, none), (.localName, some g)])
          t := by
  rw [connectedName, meets_bind]
  have hconnect := ((connect_makes helper destination.sockAddr).onFault Fault.isSystem
    (fun f => .setup .route (.connect destination.address) f.errno) s).and
      (((connect_composed helper destination.sockAddr).onFault _ _).group.keeps s)
  apply hconnect.mono
  · intro _ t ht
    obtain ⟨ht, hkeeps⟩ := ht
    have hname := (localName_makes helper t).and (localName_script helper (hkeeps.script_eq hx))
    rw [meets_onFault]
    apply hname.mono
    · intro address u hu
      exact ⟨hu.2, ht.trans hu.1⟩
    · intro f u hu
      obtain ⟨⟨g, rfl, hu⟩, -⟩ := hu
      exact ⟨g, .inr (ht.trans hu)⟩
  · intro _ t ht
    obtain ⟨⟨g, -, ht⟩, -⟩ := ht
    exact ⟨g, .inl ht⟩

/-- Creating an RDS socket leaves the helpers alone. -/
theorem createSocket_rds_nextScript (s : State) :
    Meets (createSocket .rds) s (fun _ t => ∀ v, nextScript t (.udp v) = nextScript s (.udp v))
      fun _ _ => True := by
  simp only [createSocket, meets_bind, meets_get, meets_modify]
  split
  · exact trivial
  · exact fun _ => rfl

/-- An attempt finds the source exactly if all its calls are answered and the address of the helper
can be read. -/
theorem guessSource_attempts (destination : Endpoint) (s : State) :
    Meets (guessSource destination) s
      (fun src t => s.Finds destination src ∧
        s.After (answeredAttempt destination (firstFd + s.sockets.size)) t)
      fun _ t => ∃ es, s.After es t ∧ Attempt destination (firstFd + s.sockets.size) es ∧
        (es = answeredAttempt destination (firstFd + s.sockets.size) →
          ∀ src, ¬ s.Finds destination src) := by
  set fd := firstFd + s.sockets.size with hfd
  set helper := nextScript s (.udp destination.version) with hhelper
  rw [guessSource, meets_bind, meets_onFault]
  apply ((createSocket_spec (.udp destination.version) s).and
    (createSocket_script (.udp destination.version) s)).mono
  · intro _ t ht
    obtain ⟨⟨rfl, ht⟩, hscripts⟩ := ht
    have hx : t.socketScripts[fd - firstFd]? = some helper := by
      rw [hscripts, hfd, Nat.add_sub_cancel_left, ← s.length_socketScripts,
        List.getElem?_concat_length]
    -- however the calls of the attempt end, the helper is closed
    have hvain {cs : List (Call × Option Fault)} {u v : State} {o : Option Fault}
        (hu : t.After (eventsOn fd cs) u) (hv : u.After [.call fd .close o] v)
        (hattempt : Attempt destination fd (.opened (.udp destination.version) fd ::
          eventsOn fd (cs ++ [(.close, o)])))
        (hfailed : cs ++ [(.close, o)] ≠ [(.connect (destination.withPort 1).sockAddr, none),
          (.localName, none), (.close, none)]) :
        ∃ es, s.After es v ∧ Attempt destination fd es ∧
          (es = answeredAttempt destination fd → ∀ src, ¬ s.Finds destination src) := by
      refine ⟨_, ht.closed hu hv, hattempt, fun heq => absurd ?_ hfailed⟩
      exact eventsOn_injective (List.cons.inj heq).2
    rw [meets_bind, meets_ensuring]
    apply (connectedName_attempts fd (destination.withPort routePort) hx).mono
    · intro address u hu
      obtain ⟨rfl, hu⟩ := hu
      apply (close_makes fd u).mono
      · intro _ v hv
        have hall : s.After (answeredAttempt destination fd) v := ht.closed hu hv
        -- the address of the helper may still be none that can be read
        rw [meets_bind, meets_ofExcept, Endpoint.version_withPort]
        cases hread : Endpoint.ofSockAddr destination.version.family helper.localAddress with
        | ok e =>
          show s.Finds destination (e.withPort 0) ∧ s.After _ v
          exact ⟨⟨e, hread, rfl⟩, hall⟩
        | error reason =>
          refine ⟨_, hall, .connected none none, fun _ src hfinds => ?_⟩
          obtain ⟨e, he, -⟩ := hfinds
          rw [← hhelper, hread] at he
          cases he
      · intro _ v hv
        obtain ⟨g, -, hv⟩ := hv
        exact hvain hu hv (.connected none (some g)) (by simp)
    · intro _ u hu
      obtain ⟨g, hu | hu⟩ := hu
      · apply (close_makes fd).ends u
        exact fun o v hv => hvain hu hv (.unconnected g o) (by simp)
      · apply (close_makes fd).ends u
        exact fun o v hv => hvain hu hv (.connected (some g) o) (by simp)
  · intro _ t ht
    obtain ⟨⟨g, rfl, ht⟩, -⟩ := ht
    refine ⟨_, ht, .unopened g, fun heq => ?_⟩
    simp [answeredAttempt] at heq

end Probe

/-! ## What needs the source -/

/-- The events of asking for the source in the state `s`, and the source that is known afterwards.
One that is known is not looked up; for another one an attempt is made with the helper `fd`. -/
inductive SourceLookup (conf : RunConfig) (fd : Nat) (s : State) :
    List Event → Option Endpoint → Prop where
  | known {src : Endpoint} (hsource : s.source = some src) : SourceLookup conf fd s [] (some src)
  | found {src : Endpoint} (hsource : s.source = none) (hfinds : s.Finds conf.destination src) :
      SourceLookup conf fd s (answeredAttempt conf.destination fd) (some src)
  | vain {es : List Event} (hsource : s.source = none)
      (hattempt : Attempt conf.destination fd es)
      (hvain : es = answeredAttempt conf.destination fd →
        ∀ src, ¬ s.Finds conf.destination src) : SourceLookup conf fd s es none

/-- The calls that make a socket ready: it is bound to the source, an IPv4 one, and given its type
of service. -/
def Readies (source : Endpoint) (c : Call) : Prop :=
  source.version = .four ∧ (c = .bind source.sockAddr ∨ ∃ byte, c = .setTos byte)

theorem readies_readyCalls (conf : RunConfig) {src : Endpoint} (hfour : src.version = .four) :
    ∀ c ∈ readyCalls conf (src.withPort 0), Readies (src.withPort 0) c.1 := by
  intro c hc
  refine ⟨hfour, ?_⟩
  rw [readyCalls] at hc
  rcases List.mem_cons.1 hc with rfl | hc
  · exact .inl rfl
  · split at hc
    · cases hc
    · rw [List.mem_singleton.1 hc]
      exact .inr ⟨_, rfl⟩

/-- Only calls of a kind on one descriptor lead from `s` to `t`. -/
def State.CallsOnly (fd : Nat) (P : Call → Prop) (s t : State) : Prop :=
  ∃ cs, s.After (eventsOn fd cs) t ∧ ∀ c ∈ cs, P c.1

instance (fd : Nat) (P : Call → Prop) : IsPreorder State (State.CallsOnly fd P) where
  refl s := ⟨[], .refl s, by simp⟩
  trans s t u h h' := by
    obtain ⟨cs, ht, hcs⟩ := h
    obtain ⟨cs', hu, hcs'⟩ := h'
    refine ⟨cs ++ cs', ?_, List.forall_mem_append.2 ⟨hcs, hcs'⟩⟩
    rw [eventsOn_append]
    exact ht.trans hu

namespace Probe

open State (After Emits CallsOnly)

theorem Makes.callsOnly {α : Type} {action : Probe α} {fd : Nat} {c : Call} {P : Call → Prop}
    (h : Makes action fd c) (hc : P c) : Respects (CallsOnly fd P) action := by
  intro s
  exact h.ends s fun o t ht => ⟨[(c, o)], ht, by simpa using hc⟩

theorem readySocket_callsOnly (conf : RunConfig) (fd : Nat) (source : Endpoint) :
    Respects (CallsOnly fd (Readies source)) (readySocket conf fd source) := by
  apply readySocket_respects
  · exact fun hfour => (bind_makes fd _).callsOnly ⟨hfour, .inl rfl⟩
  · exact fun hfour byte => (setTos_makes fd byte).callsOnly ⟨hfour, .inr ⟨byte, rfl⟩⟩

/-- A socket that is made ready has the source that it was to be made ready with, an IPv4 one. -/
theorem readySocket_value (conf : RunConfig) (fd : Nat) (source : Endpoint) (s : State) :
    Meets (readySocket conf fd source) s (fun e _ => e = source ∧ source.version = .four)
      fun _ _ => True := by
  by_cases hfour : source.version = .four
  · rw [readySocket, if_neg (not_not.2 hfour)]
    apply (meets_any _ s).bind
    intro _ t _
    split
    · apply (meets_any _ t).bind
      exact fun _ _ _ => ⟨rfl, hfour⟩
    · exact ⟨rfl, hfour⟩
  · rw [readySocket_of_ne_four hfour]
    exact trivial

/-- Only an IPv4 source makes a socket ready, and it does with all the calls of a setup. -/
theorem readySocket_ready (conf : RunConfig) (fd : Nat) (source : Endpoint) (s : State) :
    Meets (readySocket conf fd source) s
      (fun e t => e = source ∧ source.version = .four ∧
        s.After (eventsOn fd (readyCalls conf source)) t)
      fun _ _ => True := by
  apply ((readySocket_value conf fd source s).and (readySocket_spec fd source s)).mono
  · exact fun _ _ ht => ⟨ht.1.1, ht.1.2, ht.2.1⟩
  · exact fun _ _ _ => trivial

/-- Asking for the source leaves it known, or the lookup was in vain. -/
theorem sourceEndpoint_lookup (conf : RunConfig) (s : State) :
    Meets (sourceEndpoint conf) s
      (fun e t => ∃ es src, SourceLookup conf (firstFd + s.sockets.size) s es (some src) ∧
        e = src.withPort 0 ∧ t.source = some src ∧ s.Emits es t)
      fun _ t => ∃ es, SourceLookup conf (firstFd + s.sockets.size) s es none ∧
        t.source = none ∧ s.Emits es t := by
  cases hsource : s.source with
  | some src =>
    apply (sourceEndpoint_of_known hsource).mono
    · intro e t ht
      obtain ⟨rfl, rfl⟩ := ht
      exact ⟨[], src, .known hsource, rfl, hsource, .refl t⟩
    · exact fun _ _ hf => hf.elim
  | none =>
    rw [sourceEndpoint, meets_bind, meets_get, hsource]
    dsimp only
    rw [meets_bind]
    apply (guessSource_attempts conf.destination s).mono
    · intro src t ht
      obtain ⟨hfinds, ht⟩ := ht
      exact ⟨_, src, .found hsource hfinds, rfl, rfl, ht.toEmits.then_nil (.of_eq rfl rfl)⟩
    · intro _ t ht
      obtain ⟨es, ht, hattempt, hvain⟩ := ht
      exact ⟨es, .vain hsource hattempt hvain, ht.source_eq.trans hsource, ht.toEmits⟩

/-- What makes a socket ready asks for the source first, and binds the socket to nothing else. -/
theorem prepare_lookup (conf : RunConfig) (fd : Nat) (s : State) :
    Meets (prepare conf fd) s
      (fun e t => ∃ es src, SourceLookup conf (firstFd + s.sockets.size) s es (some src) ∧
        e = src.withPort 0 ∧ src.version = .four ∧ t.source = some src ∧
          s.Emits (es ++ eventsOn fd (readyCalls conf (src.withPort 0))) t)
      fun _ t => ∃ es known cs, SourceLookup conf (firstFd + s.sockets.size) s es known ∧
        t.source = known ∧ s.Emits (es ++ eventsOn fd cs) t ∧
          ∀ c ∈ cs, ∃ src, known = some src ∧ Readies (src.withPort 0) c.1 := by
  rw [prepare_eq, meets_bind]
  apply (sourceEndpoint_lookup conf s).mono
  · intro source t ht
    obtain ⟨es, src, hlookup, rfl, hsource, ht⟩ := ht
    apply ((readySocket_ready conf fd (src.withPort 0) t).and
      (readySocket_callsOnly conf fd (src.withPort 0) t)).mono
    · intro e u hu
      obtain ⟨⟨rfl, hfour, hu⟩, -⟩ := hu
      exact ⟨es, src, hlookup, rfl, hfour, hu.source_eq.trans hsource, ht.trans hu.toEmits⟩
    · intro _ u hu
      obtain ⟨-, cs, hu, hcs⟩ := hu
      exact ⟨es, some src, cs, hlookup, hu.source_eq.trans hsource, ht.trans hu.toEmits,
        fun c hc => ⟨src, rfl, hcs c hc⟩⟩
  · intro _ t ht
    obtain ⟨es, hlookup, hsource, ht⟩ := ht
    refine ⟨es, none, [], hlookup, hsource, ?_, by simp⟩
    rw [eventsOn, List.map_nil, List.append_nil]
    exact ht

end Probe

end RdsReach
