import Mathlib.Data.List.Count
import RdsReach.Proofs.Flags

/-!
# What options are given

Which values a command line gives to its options can be told from its pieces alone: the value of an
option is joined to it or is the next plain argument. A command line that can be read keeps to that:

* of the values of an option the last one counts, and each was one that the option takes
  (`read_values`);
* its flags are those among the pieces, and none of them ends the reading or excludes another one
  (`read_flags`).

A command line that cannot be read ends with help or the version only if it asks for that
(`asked_of_read`).
-/

namespace RdsReach

/-- A setting is what its last value says: nothing, the end mark, or a value that is converted. -/
inductive Setting.Says {α : Type} (Converts : String → α → Prop) :
    Option String → Setting α → Prop where
  | absent : Says Converts none .absent
  | blank : Says Converts (some "--") .blank
  | value {text : String} {a : α} (hmark : text ≠ "--") (h : Converts text a) :
      Says Converts (some text) (.value a)

theorem Setting.Says.mono {α : Type} {Converts Converts' : String → α → Prop}
    {last : Option String} {setting : Setting α} (h : setting.Says Converts last)
    (hsub : ∀ text a, Converts text a → Converts' text a) : setting.Says Converts' last := by
  cases h with
  | absent => exact .absent
  | blank => exact .blank
  | value hmark h => exact .value hmark (hsub _ _ h)

namespace CommandLine

/-- The pieces of a command line. -/
def pieces (arguments : List String) : Except UsageError (List Piece) :=
  (·.flatMap Token.pieces) <$> tokens arguments

/-! ## Values -/

/-- The values that options are given, in order. A plain argument is the value of the option that
waits for one. -/
def given : Option Opt → List Piece → List (Opt × String)
  | _, [] => []
  | some o, .plain text :: rest => (o, text) :: given none rest
  | waiting, .opt o (some text) :: rest => (o, text) :: given waiting rest
  | waiting, .opt o none :: rest => given (if o.takesValue then some o else waiting) rest
  | waiting, _ :: rest => given waiting rest

/-- The last value of each option. -/
def lastGiven (values : List (Opt × String)) : Opt → Option String :=
  values.foldl (fun last v => Function.update last v.1 (some v.2)) fun _ => none

/-- Does the option take a number? -/
def Opt.takesNumber : Opt → Bool
  | .count => true
  | .sockets => true
  | .tos => true
  | _ => false

/-- The text is a numeral of this number. -/
def IsNumeral (text : String) (n : Nat) : Prop := Numeral.read text = .ok n

/-- The settings that have a value are what the last values say. -/
structure Settings.Says (last : Opt → Option String) (s : Settings) : Prop where
  count : s.count.Says IsNumeral (last .count)
  sockets : s.sockets.Says IsNumeral (last .sockets)
  tos : s.tos.Says IsNumeral (last .tos)
  source : s.source.Says (fun text name => name = text) (last .source)

/-- Takes values, one after the other. -/
def takeValues (values : List (Opt × String)) (s : Settings) : Except Ending Settings :=
  values.foldlM (fun s v => takeValue v.1 v.2 s) s

theorem says_of_readValue {α : Type} {convert : String → Except Ending α} {text : String}
    {setting : Setting α} (h : readValue convert text = .ok setting) :
    setting.Says (fun text a => convert text = .ok a) (some text) := by
  unfold readValue at h
  split at h
  · next hmark =>
    cases h
    rw [hmark]
    exact .blank
  · next hmark =>
    obtain ⟨a, hconvert, rfl⟩ := exists_of_map_eq_ok h
    exact .value hmark hconvert

theorem says_of_readNumber {o : Opt} {text : String} {setting : Setting Nat}
    (h : readNumber o text = .ok setting) : setting.Says IsNumeral (some text) := by
  apply (says_of_readValue h).mono
  exact fun text n hn => ok_of_mapError hn

/-- No numeral is the end mark. -/
theorem ne_mark_of_read {text : String} {n : Nat} (h : Numeral.read text = .ok n) :
    text ≠ "--" := by
  rintro rfl
  have hread : Numeral.read "--" = .error (.notANumber "--") := by decide
  cases hread.symm.trans h

/-- A value replaces what was said of its option, and nothing else. -/
theorem says_of_takeValue {o : Opt} {text : String} {s s' : Settings} {last : Opt → Option String}
    (h : takeValue o text s = .ok s') (hs : s.Says last) :
    s'.Says (Function.update last o (some text)) := by
  unfold takeValue at h
  split at h
  · obtain ⟨n, hn, h⟩ := exists_of_bind_eq_ok h
    cases h
    exact ⟨says_of_readNumber hn, hs.sockets, hs.tos, hs.source⟩
  · obtain ⟨n, hn, h⟩ := exists_of_bind_eq_ok h
    cases h
    exact ⟨hs.count, says_of_readNumber hn, hs.tos, hs.source⟩
  · obtain ⟨n, hn, h⟩ := exists_of_bind_eq_ok h
    cases h
    exact ⟨hs.count, hs.sockets, says_of_readNumber hn, hs.source⟩
  · obtain ⟨name, hname, h⟩ := exists_of_bind_eq_ok h
    cases h
    refine ⟨hs.count, hs.sockets, hs.tos, (says_of_readValue hname).mono fun text name h => ?_⟩
    exact (Except.ok.inj h).symm
  · next hcount hsockets htos hsource =>
    cases h
    have hother {o' : Opt} (ho : o' ≠ o) : Function.update last o (some text) o' = last o' :=
      Function.update_of_ne ho _ _
    refine ⟨?_, ?_, ?_, ?_⟩
    · rw [hother fun ho => hcount ho.symm]
      exact hs.count
    · rw [hother fun ho => hsockets ho.symm]
      exact hs.sockets
    · rw [hother fun ho => htos ho.symm]
      exact hs.tos
    · rw [hother fun ho => hsource ho.symm]
      exact hs.source

/-- A value that is taken is a numeral, or no value, where its option takes numbers. -/
theorem takeValue_numeral {o : Opt} {text : String} {s s' : Settings}
    (h : takeValue o text s = .ok s') (ho : o.takesNumber = true) :
    text = "--" ∨ ∃ n, IsNumeral text n := by
  have hread {setting : Setting Nat} (h : readNumber o text = .ok setting) :
      text = "--" ∨ ∃ n, IsNumeral text n := by
    cases says_of_readNumber h with
    | blank => exact .inl rfl
    | value hmark hnumeral => exact .inr ⟨_, hnumeral⟩
  unfold takeValue at h
  cases o with
  | count =>
    obtain ⟨n, hn, -⟩ := exists_of_bind_eq_ok h
    exact hread hn
  | sockets =>
    obtain ⟨n, hn, -⟩ := exists_of_bind_eq_ok h
    exact hread hn
  | tos =>
    obtain ⟨n, hn, -⟩ := exists_of_bind_eq_ok h
    exact hread hn
  | _ => cases ho

/-- Values that are taken are what the settings say in the end, the last one of each option. -/
theorem says_of_takeValues {values : List (Opt × String)} {s s' : Settings}
    {last : Opt → Option String} (h : takeValues values s = .ok s') (hs : s.Says last) :
    s'.Says (values.foldl (fun last v => Function.update last v.1 (some v.2)) last) := by
  induction values generalizing s last with
  | nil =>
    cases h
    exact hs
  | cons v values ih =>
    rw [takeValues, List.foldlM_cons] at h
    obtain ⟨s₁, hfirst, hrest⟩ := exists_of_bind_eq_ok h
    exact ih hrest (says_of_takeValue hfirst hs)

theorem takeValues_numerals {values : List (Opt × String)} {s s' : Settings}
    (h : takeValues values s = .ok s') :
    ∀ v ∈ values, v.1.takesNumber = true → v.2 = "--" ∨ ∃ n, IsNumeral v.2 n := by
  induction values generalizing s with
  | nil => simp
  | cons v values ih =>
    rw [takeValues, List.foldlM_cons] at h
    obtain ⟨s₁, hfirst, hrest⟩ := exists_of_bind_eq_ok h
    exact List.forall_mem_cons.2 ⟨takeValue_numeral hfirst, ih hrest⟩

/-- A piece gives a value that is taken, or changes no setting. -/
theorem Gist.step_given {piece : Piece} {g g' : Gist} (h : g.step piece = .ok g')
    (rest : List Piece) :
    (∃ v, given g.awaiting (piece :: rest) = v :: given g'.awaiting rest ∧
        takeValue v.1 v.2 g.settings = .ok g'.settings) ∨
      given g.awaiting (piece :: rest) = given g'.awaiting rest ∧ g'.settings = g.settings := by
  unfold step at h
  split at h
  · next o text hwaiting =>
    obtain ⟨s, hvalue, rfl⟩ := exists_of_map_eq_ok h
    rw [hwaiting]
    exact .inl ⟨(o, text), rfl, hvalue⟩
  · next text hwaiting =>
    cases h
    rw [hwaiting]
    exact .inr ⟨rfl, rfl⟩
  · next o text =>
    obtain ⟨s, hvalue, rfl⟩ := exists_of_map_eq_ok h
    refine .inl ⟨(o, text), ?_, hvalue⟩
    cases g.awaiting <;> rfl
  · next o =>
    cases h
    have hgiven : given g.awaiting (.opt o none :: rest) =
        given (if o.takesValue then some o else g.awaiting) rest := by
      cases g.awaiting <;> rfl
    rw [hgiven]
    cases o.takesValue <;> exact .inr ⟨rfl, rfl⟩
  · next piece _ _ hvalued hopt hawaited hplain =>
    cases h
    have hgiven : given g.awaiting (piece :: rest) = given g.awaiting rest := by
      cases piece with
      | plain text =>
        cases hwaiting : g.awaiting with
        | none => exact (hplain text hwaiting rfl).elim
        | some o => exact (hawaited o text hwaiting rfl).elim
      | opt o value =>
        cases value with
        | none => exact (hopt o rfl).elim
        | some text => exact (hvalued o text rfl).elim
      | _ => cases g.awaiting <;> rfl
    exact .inr ⟨hgiven, rfl⟩

/-- Reading pieces takes the values that are given among them. -/
theorem Gist.foldlM_given {ps : List Piece} {g g' : Gist} (h : ps.foldlM step g = .ok g') :
    takeValues (given g.awaiting ps) g.settings = .ok g'.settings := by
  induction ps generalizing g with
  | nil =>
    cases h
    rw [given]
    rfl
  | cons piece ps ih =>
    rw [List.foldlM_cons] at h
    obtain ⟨g₁, hstep, hrest⟩ := exists_of_bind_eq_ok h
    rcases step_given hstep ps with ⟨v, hgiven, hvalue⟩ | ⟨hgiven, hsettings⟩
    · rw [hgiven, takeValues, List.foldlM_cons, hvalue]
      exact ih hrest
    · rw [hgiven, ← hsettings]
      exact ih hrest

/-- The settings of a command line say what the last values say, and all of its values are such that
their options take them. -/
theorem read_values {arguments : List String} {a : Arguments} (h : read arguments = .ok a) :
    ∃ ps, pieces arguments = .ok ps ∧ a.settings.Says (lastGiven (given none ps)) ∧
      ∀ v ∈ given none ps, v.1.takesNumber = true → v.2 = "--" ∨ ∃ n, IsNumeral v.2 n := by
  obtain ⟨ts, p, htokens, hread, hfinish⟩ := exists_of_read_ok h
  have hgist := Progress.foldlM_gist hread
  rw [Progress.finish_gist hfinish] at hgist
  have htaken := Gist.foldlM_given hgist
  have hsaid : Settings.Says (fun _ => none) (Progress.gist {}).settings :=
    ⟨.absent, .absent, .absent, .absent⟩
  obtain ⟨hcount, hsockets, htos, hsource⟩ := says_of_takeValues htaken hsaid
  exact ⟨ts.flatMap Token.pieces, by rw [pieces, htokens]; rfl,
    ⟨hcount, hsockets, htos, hsource⟩, takeValues_numerals htaken⟩

/-! ## Flags -/

/-- Is this a flag that is counted, or one that ends the reading? -/
def Opt.isTallied : Opt → Bool
  | .help => true
  | .version => true
  | .verbose => true
  | .quiet => true
  | _ => false

theorem Opt.takesValue_of_isTallied {o : Opt} (h : o.isTallied = true) : o.takesValue = false := by
  revert h
  cases o <;> decide

/-- How often a flag counts in the settings. -/
def Settings.tally (s : Settings) : Opt → Nat
  | .verbose => s.verbose
  | .quiet => s.quiet
  | _ => 0

/-- The flags that wait for the value of the option behind them. -/
def Phase.flags : Phase → List Opt
  | .awaiting flags _ => flags
  | _ => []

/-- What was read so far counted the flags among the pieces, but for those that wait. -/
structure Progress.Tallied (p : Progress) (ps : List Piece) : Prop where
  count_eq : ∀ o, o.isTallied = true →
    ps.count (.opt o none) = p.settings.tally o + p.phase.flags.count o
  exclusive : p.settings.verbose = 0 ∨ p.settings.quiet = 0

theorem takeFlag_tally {flag o : Opt} {s s' : Settings} (h : takeFlag flag s = .ok s')
    (ho : o.isTallied = true) : s'.tally o = s.tally o + [flag].count o := by
  cases flag with
  | help => cases h
  | version => cases h
  | verbose =>
    rw [takeFlag] at h
    split at h
    · cases h
    · cases h
      cases o <;> rfl
  | quiet =>
    rw [takeFlag] at h
    split at h
    · cases h
    · cases h
      cases o <;> rfl
  | _ =>
    cases h
    cases o <;> first | rfl | cases ho

/-- A flag that excludes another one is not taken with it. -/
theorem takeFlag_exclusive {flag : Opt} {s s' : Settings} (h : takeFlag flag s = .ok s')
    (hs : s.verbose = 0 ∨ s.quiet = 0) : s'.verbose = 0 ∨ s'.quiet = 0 := by
  cases flag with
  | help => cases h
  | version => cases h
  | verbose =>
    rw [takeFlag] at h
    split at h
    · cases h
    · next hquiet =>
      cases h
      exact .inr (not_not.1 hquiet)
  | quiet =>
    rw [takeFlag] at h
    split at h
    · cases h
    · next hverbose =>
      cases h
      exact .inl (not_not.1 hverbose)
  | _ =>
    cases h
    exact hs

theorem takeFlags_tally {flags : List Opt} {o : Opt} {s s' : Settings}
    (h : takeFlags flags s = .ok s') (ho : o.isTallied = true) :
    s'.tally o = s.tally o + flags.count o := by
  induction flags generalizing s with
  | nil =>
    cases h
    rfl
  | cons flag flags ih =>
    obtain ⟨s₁, hflag, hflags⟩ := exists_of_bind_eq_ok h
    rw [ih hflags, takeFlag_tally hflag ho, Nat.add_assoc, ← List.count_append,
      List.singleton_append]

theorem takeFlags_exclusive {flags : List Opt} {s s' : Settings} (h : takeFlags flags s = .ok s')
    (hs : s.verbose = 0 ∨ s.quiet = 0) : s'.verbose = 0 ∨ s'.quiet = 0 := by
  induction flags generalizing s with
  | nil =>
    cases h
    exact hs
  | cons flag flags ih =>
    obtain ⟨s₁, hflag, hflags⟩ := exists_of_bind_eq_ok h
    exact ih hflags (takeFlag_exclusive hflag hs)

/-- A value counts for no flag. -/
theorem takeValue_flags {o : Opt} {text : String} {s s' : Settings}
    (h : takeValue o text s = .ok s') : s'.verbose = s.verbose ∧ s'.quiet = s.quiet := by
  unfold takeValue at h
  split at h
  · obtain ⟨n, -, h⟩ := exists_of_bind_eq_ok h
    cases h
    exact ⟨rfl, rfl⟩
  · obtain ⟨n, -, h⟩ := exists_of_bind_eq_ok h
    cases h
    exact ⟨rfl, rfl⟩
  · obtain ⟨n, -, h⟩ := exists_of_bind_eq_ok h
    cases h
    exact ⟨rfl, rfl⟩
  · obtain ⟨n, -, h⟩ := exists_of_bind_eq_ok h
    cases h
    exact ⟨rfl, rfl⟩
  · cases h
    exact ⟨rfl, rfl⟩

/-- The flags among the pieces of joined options. -/
theorem count_ofJoined (flags : List Opt) (last : Opt) (value : Option String) (o : Opt) :
    (Piece.ofJoined flags last value).count (.opt o none) =
      flags.count o + [Piece.opt last value].count (.opt o none) := by
  have hinjective : Function.Injective fun o => Piece.opt o none := by
    intro o o' h
    cases h
    rfl
  rw [Piece.ofJoined, List.count_append, List.count_map_of_injective flags _ hinjective]

namespace Progress

variable {p q : Progress} {ps : List Piece}

/-- A value is taken with the flags before it. -/
theorem addValue_tallied {flags : List Opt} {last : Opt} {text : String}
    (h : p.addValue flags last text = .ok q)
    (hcount : ∀ o, o.isTallied = true →
      ps.count (.opt o none) = p.settings.tally o + flags.count o)
    (hexclusive : p.settings.verbose = 0 ∨ p.settings.quiet = 0) : q.Tallied ps := by
  obtain ⟨s, hflags, h⟩ := exists_of_bind_eq_ok h
  obtain ⟨s', hvalue, h⟩ := exists_of_bind_eq_ok h
  cases h
  obtain ⟨hverbose, hquiet⟩ := takeValue_flags hvalue
  have htally (o : Opt) : s'.tally o = s.tally o := by
    cases o <;> first | rfl | exact hverbose | exact hquiet
  refine ⟨fun o ho => ?_, ?_⟩
  · rw [hcount o ho, ← takeFlags_tally hflags ho, ← htally o]
    rfl
  · rw [show Settings.verbose _ = s.verbose from hverbose,
      show Settings.quiet _ = s.quiet from hquiet]
    exact takeFlags_exclusive hflags hexclusive

theorem flags_eq_nil (h : p.phase.awaited = none) : p.phase.flags = [] := by
  cases hphase : p.phase with
  | awaiting flags last =>
    rw [hphase] at h
    cases h
  | _ => rfl

theorem addOption_tallied {flags : List Opt} {last : Opt} {value : Option String}
    (h : p.addOption flags last value = .ok q) (hp : p.Tallied ps)
    (hphase : p.phase.awaited = none) : q.Tallied (ps ++ Piece.ofJoined flags last value) := by
  have hcount (o : Opt) (ho : o.isTallied = true) :
      (ps ++ Piece.ofJoined flags last value).count (.opt o none) =
        p.settings.tally o + (flags.count o + [Piece.opt last value].count (.opt o none)) := by
    rw [List.count_append, hp.count_eq o ho, flags_eq_nil hphase, count_ofJoined, List.count_nil,
      Nat.add_zero]
  unfold addOption at h
  split at h
  · next text hlast =>
    apply addValue_tallied h _ hp.exclusive
    intro o ho
    rw [hcount o ho]
    simp
  · next hlast =>
    cases h
    refine ⟨fun o ho => ?_, hp.exclusive⟩
    have hne : last ≠ o := by
      intro heq
      rw [heq, Opt.takesValue_of_isTallied ho] at hlast
      cases hlast
    rw [hcount o ho]
    simp [Phase.flags, hne]
  · cases h
  · next hlast =>
    obtain ⟨s, hs, h⟩ := exists_of_bind_eq_ok h
    cases h
    refine ⟨fun o ho => ?_, takeFlags_exclusive hs hp.exclusive⟩
    have hlast : [Piece.opt last none].count (.opt o none) = [last].count o := by
      simp [List.count_cons]
    rw [hcount o ho, hlast, ← List.count_append, ← takeFlags_tally hs ho]
    rfl

/-- Reading a token counts the flags among its pieces. -/
theorem step_tallied {token : Token} (h : p.step token = .ok q) (hp : p.Tallied ps) :
    q.Tallied (ps ++ token.pieces) := by
  -- a piece that is no flag leaves the counts as they are
  have hsame {piece : Piece} (hpiece : ∀ o, piece ≠ .opt o none) (o : Opt) :
      (ps ++ [piece]).count (.opt o none) = ps.count (.opt o none) := by
    rw [List.count_append, List.count_singleton, if_neg, Nat.add_zero]
    simpa using hpiece o
  have hother {piece : Piece} (hpiece : ∀ o, piece ≠ .opt o none)
      (hphase : p.phase.awaited = none) (hsettings : q.settings = p.settings)
      (hflags : q.phase.flags = []) : q.Tallied (ps ++ [piece]) := by
    refine ⟨fun o ho => ?_, ?_⟩
    · rw [hsame hpiece, hp.count_eq o ho, flags_eq_nil hphase, hsettings, hflags]
    · rw [hsettings]
      exact hp.exclusive
  unfold step at h
  split at h
  · next flags last text hphase =>
    apply addValue_tallied h _ hp.exclusive
    intro o ho
    rw [Token.pieces, hsame (by simp), hp.count_eq o ho, hphase]
    rfl
  · cases h
  · next text hphase =>
    cases h
    have hplain : (p.addPlain text).settings = p.settings ∧ (p.addPlain text).phase.flags = [] := by
      unfold addPlain
      split <;> exact ⟨rfl, rfl⟩
    exact hother (by simp) (awaited_eq_none hphase) hplain.1 hplain.2
  · next hphase =>
    cases h
    have hmark : p.addEndMark.settings = p.settings ∧ p.addEndMark.phase.flags = [] := by
      unfold addEndMark
      split <;> exact ⟨rfl, rfl⟩
    exact hother (by simp) (awaited_eq_none hphase) hmark.1 hmark.2
  · next hphase => exact addOption_tallied h hp (awaited_eq_none hphase)
  · next hphase => exact addOption_tallied h hp (awaited_eq_none hphase)
  · next option text hphase =>
    obtain ⟨j, hj, h⟩ := exists_of_bind_eq_ok h
    rw [Token.pieces, ok_of_mapError hj]
    exact addOption_tallied h hp (awaited_eq_none hphase)
  · next text hphase =>
    cases h
    exact hother (by simp) (awaited_eq_none hphase) rfl rfl

theorem foldlM_tallied {ts : List Token} (h : ts.foldlM step p = .ok q) (hp : p.Tallied ps) :
    q.Tallied (ps ++ ts.flatMap Token.pieces) := by
  induction ts generalizing p ps with
  | nil =>
    cases h
    simpa using hp
  | cons token ts ih =>
    rw [List.foldlM_cons] at h
    obtain ⟨p', htoken, h⟩ := exists_of_bind_eq_ok h
    rw [List.flatMap_cons, ← List.append_assoc]
    exact ih h (step_tallied htoken hp)

theorem tallied_start : Progress.Tallied {} [] :=
  ⟨fun o _ => by cases o <;> rfl, .inl rfl⟩

end Progress

/-- No flag of a command line that is read asks for help or the version, and none of them excludes
another one. -/
theorem read_flags {arguments : List String} {a : Arguments} {ps : List Piece}
    (h : read arguments = .ok a) (hps : pieces arguments = .ok ps) :
    .opt .help none ∉ ps ∧ .opt .version none ∉ ps ∧
      ¬ (.opt .verbose none ∈ ps ∧ .opt .quiet none ∈ ps) := by
  obtain ⟨ts, p, htokens, hread, hfinish⟩ := exists_of_read_ok h
  rw [pieces, htokens] at hps
  obtain rfl := Except.ok.inj hps
  have htallied : p.Tallied (ts.flatMap Token.pieces) :=
    Progress.foldlM_tallied hread Progress.tallied_start
  have hflags : p.phase.flags = [] := by
    have hgist := Progress.finish_gist hfinish
    exact Progress.flags_eq_nil (congrArg Gist.awaiting hgist)
  have hcount (o : Opt) (ho : o.isTallied = true) :
      (ts.flatMap Token.pieces).count (.opt o none) = p.settings.tally o := by
    rw [htallied.count_eq o ho, hflags, List.count_nil, Nat.add_zero]
  refine ⟨List.count_eq_zero.1 (hcount .help rfl), List.count_eq_zero.1 (hcount .version rfl), ?_⟩
  intro hboth
  obtain ⟨hverbose, hquiet⟩ := hboth
  rcases htallied.exclusive with hzero | hzero
  · exact List.count_eq_zero.1 ((hcount .verbose rfl).trans hzero) hverbose
  · exact List.count_eq_zero.1 ((hcount .quiet rfl).trans hzero) hquiet

/-! ## Endings -/

/-- The flag that asks for an ending, if one does. -/
def Ending.asked? : Ending → Option Opt
  | .help => some .help
  | .version => some .version
  | .wrong _ => none

theorem takeFlag_asked {flag o : Opt} {s : Settings} {e : Ending}
    (h : takeFlag flag s = .error e) (ho : e.asked? = some o) : o = flag := by
  unfold takeFlag at h
  split at h
  · cases h
    cases ho
    rfl
  · cases h
    cases ho
    rfl
  · cases h
  · split at h
    · cases h
      cases ho
    · cases h
  · split at h
    · cases h
      cases ho
    · cases h
  · cases h

theorem takeFlags_asked {flags : List Opt} {o : Opt} {s : Settings} {e : Ending}
    (h : takeFlags flags s = .error e) (ho : e.asked? = some o) : o ∈ flags := by
  induction flags generalizing s with
  | nil => cases h
  | cons flag flags ih =>
    rcases error_of_bind_eq_error h with hflag | ⟨s₁, -, hflags⟩
    · exact List.mem_cons.2 (.inl (takeFlag_asked hflag ho))
    · exact List.mem_cons_of_mem _ (ih hflags)

theorem error_of_readValue {α : Type} {convert : String → Except Ending α} {text : String}
    {e : Ending} (h : readValue convert text = .error e) : convert text = .error e := by
  unfold readValue at h
  split at h
  · cases h
  · exact error_of_map_eq_error h

theorem readNumber_asked {option : Opt} {text : String} {e : Ending}
    (h : readNumber option text = .error e) : e.asked? = none := by
  obtain ⟨x, -, rfl⟩ := exists_of_mapError (error_of_readValue h)
  rfl

/-- A value asks for no ending. -/
theorem takeValue_asked {option : Opt} {text : String} {s : Settings} {e : Ending}
    (h : takeValue option text s = .error e) : e.asked? = none := by
  unfold takeValue at h
  split at h
  · rcases error_of_bind_eq_error h with hn | ⟨n, -, h⟩
    · exact readNumber_asked hn
    · cases h
  · rcases error_of_bind_eq_error h with hn | ⟨n, -, h⟩
    · exact readNumber_asked hn
    · cases h
  · rcases error_of_bind_eq_error h with hn | ⟨n, -, h⟩
    · exact readNumber_asked hn
    · cases h
  · rcases error_of_bind_eq_error h with hname | ⟨name, -, h⟩
    · cases error_of_readValue hname
    · cases h
  · cases h

namespace Progress

variable {p : Progress} {ps : List Piece} {e : Ending} {o : Opt}

theorem addValue_asked {flags : List Opt} {last : Opt} {text : String}
    (h : p.addValue flags last text = .error e) (ho : e.asked? = some o) : o ∈ flags := by
  rcases error_of_bind_eq_error h with hflags | ⟨s, -, h⟩
  · exact takeFlags_asked hflags ho
  · rcases error_of_bind_eq_error h with hvalue | ⟨s', -, h⟩
    · rw [takeValue_asked hvalue] at ho
      cases ho
    · cases h

theorem addOption_asked {flags : List Opt} {last : Opt} {value : Option String}
    (h : p.addOption flags last value = .error e) (ho : e.asked? = some o) :
    .opt o none ∈ Piece.ofJoined flags last value := by
  have hmem (h : o ∈ flags) : .opt o none ∈ Piece.ofJoined flags last value :=
    List.mem_append_left _ (List.mem_map_of_mem h)
  unfold addOption at h
  split at h
  · exact hmem (addValue_asked h ho)
  · cases h
  · cases h
    cases ho
  · rcases error_of_bind_eq_error h with hflags | ⟨s, -, h⟩
    · rcases List.mem_append.1 (takeFlags_asked hflags ho) with hflag | hlast
      · exact hmem hflag
      · rw [List.mem_singleton.1 hlast]
        exact List.mem_append_right _ List.mem_cons_self
    · cases h

/-- An ending that is asked for is asked for by a flag that waits or by one of the token. -/
theorem step_asked {token : Token} (h : p.step token = .error e) (ho : e.asked? = some o) :
    o ∈ p.phase.flags ∨ .opt o none ∈ token.pieces := by
  unfold step at h
  split at h
  · next flags last text hphase =>
    rw [hphase]
    exact .inl (addValue_asked h ho)
  · cases h
    cases ho
  · cases h
  · cases h
  · exact .inr (addOption_asked h ho)
  · exact .inr (addOption_asked h ho)
  · next option text _ =>
    rcases error_of_bind_eq_error h with hjoined | ⟨j, hjoined, h⟩
    · obtain ⟨x, -, rfl⟩ := exists_of_mapError hjoined
      cases ho
    · rw [Token.pieces, ok_of_mapError hjoined]
      exact .inr (addOption_asked h ho)
  · cases h

theorem foldlM_asked {ts : List Token} (h : ts.foldlM step p = .error e) (hp : p.Tallied ps)
    (ho : e.asked? = some o) : .opt o none ∈ ps ++ ts.flatMap Token.pieces := by
  have htallied : o.isTallied = true := by
    cases e with
    | wrong _ => cases ho
    | _ =>
      cases ho
      rfl
  induction ts generalizing p ps with
  | nil => cases h
  | cons token ts ih =>
    rw [List.foldlM_cons] at h
    rw [List.flatMap_cons, ← List.append_assoc]
    rcases error_of_bind_eq_error h with hstep | ⟨p', hstep, h⟩
    · rcases step_asked hstep ho with hwaiting | hpiece
      -- a flag that waits is among the pieces so far
      · have hcount := hp.count_eq o htallied
        have hone := List.count_pos_iff.2 hwaiting
        have hmem : .opt o none ∈ ps := List.count_pos_iff.1 (by omega)
        exact List.mem_append_left _ (List.mem_append_left _ hmem)
      · exact List.mem_append_left _ (List.mem_append_right _ hpiece)
    · exact ih h (step_tallied hstep hp)

end Progress

theorem finish_asked {a : Progress} {e : Ending} (h : a.finish = .error e) : e.asked? = none := by
  unfold Progress.finish at h
  split at h
  · cases h
    rfl
  · cases h
    rfl
  · cases h
  · cases h
    rfl

/-- Reading ends with help or the version only if a flag asks for that. -/
theorem asked_of_read {arguments : List String} {e : Ending} {o : Opt}
    (h : read arguments = .error e) (ho : e.asked? = some o) :
    ∃ ps, pieces arguments = .ok ps ∧ .opt o none ∈ ps := by
  rcases error_of_bind_eq_error h with htokens | ⟨ts, htokens, h⟩
  · obtain ⟨x, -, rfl⟩ := exists_of_mapError htokens
    cases ho
  · refine ⟨ts.flatMap Token.pieces, by rw [pieces, ok_of_mapError htokens]; rfl, ?_⟩
    rcases error_of_bind_eq_error h with hfold | ⟨p, -, hfinish⟩
    · simpa using Progress.foldlM_asked hfold Progress.tallied_start ho
    · rw [finish_asked hfinish] at ho
      cases ho

end CommandLine

end RdsReach
