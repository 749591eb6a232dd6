import RdsReach.CommandLine
import RdsReach.Proofs.Outcome

/-!
# Flags for diagnostics

How much the user is told, and whether queues are spun on, is set by flags: `-v`, `-q` and `-s`.
They may stand anywhere between the options of a command line, also joined to others. The substance
of a command line is what is left without them, and `CommandLine.read_substance` says that
everything else that a command line says is in its substance.
-/

namespace RdsReach.CommandLine

/-! ## The substance of a command line -/

/-- Is this a flag that sets how much is told? -/
def Opt.isDiagnostic : Opt → Bool
  | .verbose => true
  | .quiet => true
  | .spin => true
  | _ => false

/-- A piece of a command line: an argument by its looks, joined short options taken apart. -/
inductive Piece where
  | plain (text : String)
  | endMark
  | opt (o : Opt) (value : Option String)
  /-- An option that there is not, or short options that cannot be joined. -/
  | unknown (text : String)
deriving DecidableEq, Repr

/-- Is this a flag that sets how much is told? -/
def Piece.isDiagnostic : Piece → Bool
  | .opt o none => o.isDiagnostic
  | _ => false

/-- The pieces of flags and of an option behind them. -/
def Piece.ofJoined (flags : List Opt) (last : Opt) (value : Option String) : List Piece :=
  flags.map (.opt · none) ++ [.opt last value]

/-- The pieces of a token. -/
def Token.pieces : Token → List Piece
  | .plain text => [.plain text]
  | .endMark => [.endMark]
  | .long option value => Piece.ofJoined [] option value
  | .short option none => Piece.ofJoined [] option none
  | .short option (some text) =>
    match joined option text with
    | .ok j => Piece.ofJoined j.flags j.last (j.text.map String.ofList)
    | .error _ => [.unknown (String.ofList text)]
  | .unknown text => [.unknown text]

/-- The pieces of tokens, without the flags for diagnostics. -/
def substanceOf (tokens : List Token) : List Piece :=
  (tokens.flatMap Token.pieces).filter fun piece => !piece.isDiagnostic

/-- The pieces of a command line, without the flags for diagnostics. -/
def substance (arguments : List String) : Except UsageError (List Piece) :=
  substanceOf <$> tokens arguments

/-- The settings without those of the flags for diagnostics. -/
def Settings.core (s : Settings) : Settings := { s with spin := false, verbose := 0, quiet := 0 }

/-! ## The gist of what was read -/

/-- What was read so far, without the flags. -/
structure Gist where
  destination : Option String
  settings : Settings
  /-- The option that waits for its value. -/
  awaiting : Option Opt

/-- The option that waits for its value. -/
def Phase.awaited : Phase → Option Opt
  | .awaiting _ last => some last
  | _ => none

/-- The gist of what was read so far. -/
def Progress.gist (p : Progress) : Gist := ⟨p.destination, p.settings.core, p.phase.awaited⟩

/-- Reads a piece. -/
def Gist.step (g : Gist) (piece : Piece) : Except Ending Gist :=
  match g.awaiting, piece with
  | some option, .plain text =>
    (fun settings => { g with settings, awaiting := none }) <$> takeValue option text g.settings
  | none, .plain text => .ok { g with destination := g.destination <|> some text }
  | _, .opt o (some text) =>
    (fun settings => { g with settings }) <$> takeValue o text g.settings
  | _, .opt o none => .ok (if o.takesValue then { g with awaiting := some o } else g)
  | _, _ => .ok g

namespace Gist

/-- A flag leaves the gist as it is. -/
theorem step_flag (g : Gist) {o : Opt} (h : o.takesValue = false) :
    g.step (.opt o none) = .ok g := by
  unfold step
  cases g.awaiting <;> simp [h]

theorem step_of_isDiagnostic (g : Gist) {piece : Piece} (h : piece.isDiagnostic = true) :
    g.step piece = .ok g := by
  cases piece with
  | opt o value =>
    cases value with
    | none =>
      apply g.step_flag
      cases o <;> first | rfl | cases h
    | some text => cases h
  | _ => cases h

/-- Reading leaves out the flags for diagnostics. -/
theorem foldlM_filter (pieces : List Piece) (g : Gist) :
    (pieces.filter fun piece => !piece.isDiagnostic).foldlM step g = pieces.foldlM step g := by
  induction pieces generalizing g with
  | nil => rfl
  | cons piece pieces ih =>
    rw [List.foldlM_cons, List.filter_cons]
    cases hpiece : piece.isDiagnostic with
    | true =>
      rw [g.step_of_isDiagnostic hpiece]
      exact ih g
    | false =>
      rw [Bool.not_false, if_pos rfl, List.foldlM_cons]
      congr 1
      exact funext ih

theorem foldlM_flags (flags : List Opt) (h : ∀ option ∈ flags, option.takesValue = false)
    (g : Gist) : (flags.map (Piece.opt · none)).foldlM step g = .ok g := by
  induction flags with
  | nil => rfl
  | cons option flags ih =>
    obtain ⟨hoption, hflags⟩ := List.forall_mem_cons.1 h
    rw [List.map_cons, List.foldlM_cons, g.step_flag hoption]
    exact ih hflags

end Gist

/-! ## Settings -/

/-- A flag sets nothing but what is for diagnostics. -/
theorem takeFlag_core {option : Opt} {s s' : Settings} (h : takeFlag option s = .ok s') :
    s'.core = s.core := by
  unfold takeFlag at h
  split at h
  all_goals try split at h
  all_goals cases h
  all_goals rfl

theorem takeFlags_core {flags : List Opt} {s s' : Settings} (h : takeFlags flags s = .ok s') :
    s'.core = s.core := by
  induction flags generalizing s with
  | nil =>
    cases h
    rfl
  | cons option flags ih =>
    obtain ⟨s₁, hflag, hflags⟩ := exists_of_bind_eq_ok h
    rw [ih hflags, takeFlag_core hflag]

/-- The value of an option has nothing to do with diagnostics. -/
theorem takeValue_core {option : Opt} {text : String} {s s' : Settings}
    (h : takeValue option text s = .ok s') : takeValue option text s.core = .ok s'.core := by
  unfold takeValue at h ⊢
  split at h
  · obtain ⟨n, hn, h⟩ := exists_of_bind_eq_ok h
    cases h
    rw [hn]
    rfl
  · obtain ⟨n, hn, h⟩ := exists_of_bind_eq_ok h
    cases h
    rw [hn]
    rfl
  · obtain ⟨n, hn, h⟩ := exists_of_bind_eq_ok h
    cases h
    rw [hn]
    rfl
  · obtain ⟨n, hn, h⟩ := exists_of_bind_eq_ok h
    cases h
    rw [hn]
    rfl
  · cases h
    rfl

/-! ## Reading -/

/-- What is joined before the last option are flags. -/
theorem takesValue_of_joined {option : Opt} {text : List Char} {j : Joined}
    (h : joined option text = .ok j) : ∀ flag ∈ j.flags, flag.takesValue = false := by
  induction text generalizing option j with
  | nil =>
    unfold joined at h
    split at h <;> cases h
    simp
  | cons c text ih =>
    unfold joined at h
    split at h
    · cases h
      simp
    · next hoption =>
      split at h
      · cases h
      · next next _ =>
        split at h
        · cases h
          simpa using hoption
        · obtain ⟨rest, hrest, rfl⟩ := exists_of_map_eq_ok h
          exact List.forall_mem_cons.2 ⟨by simpa using hoption, ih hrest⟩

namespace Progress

variable {p q : Progress}

/-- A value goes to the option that it is for, also after flags. -/
theorem addValue_gist {flags : List Opt} {last : Opt} {text : String}
    (h : p.addValue flags last text = .ok q) :
    (fun settings => (⟨p.destination, settings, none⟩ : Gist)) <$>
      takeValue last text p.settings.core = .ok q.gist := by
  obtain ⟨s, hflags, h⟩ := exists_of_bind_eq_ok h
  obtain ⟨s', hvalue, h⟩ := exists_of_bind_eq_ok h
  cases h
  rw [← takeFlags_core hflags, takeValue_core hvalue]
  rfl

theorem addOption_gist {flags : List Opt} {last : Opt} {value : Option String}
    (hphase : p.phase.awaited = none) (hflags : ∀ flag ∈ flags, flag.takesValue = false)
    (h : p.addOption flags last value = .ok q) :
    (Piece.ofJoined flags last value).foldlM Gist.step p.gist = .ok q.gist := by
  rw [Piece.ofJoined, List.foldlM_append, Gist.foldlM_flags flags hflags]
  change (List.foldlM Gist.step p.gist [.opt last value]) = _
  rw [List.foldlM_cons]
  unfold addOption at h
  split at h
  · next text hlast =>
    have hgist := addValue_gist h
    have hstep : p.gist.step (.opt last (some text)) = .ok q.gist := by
      rw [← hgist]
      unfold Gist.step gist
      rw [hphase]
    rw [hstep]
    rfl
  · next hlast =>
    cases h
    unfold Gist.step gist
    rw [hphase]
    simp [hlast, Phase.awaited]
  · cases h
  · next hlast =>
    obtain ⟨s, hs, h⟩ := exists_of_bind_eq_ok h
    cases h
    rw [p.gist.step_flag hlast]
    unfold gist
    rw [takeFlags_core hs, hphase]
    rfl

theorem awaited_eq_none (h : ∀ flags last, p.phase = .awaiting flags last → False) :
    p.phase.awaited = none := by
  cases hphase : p.phase with
  | awaiting flags last => exact (h flags last hphase).elim
  | _ => rfl

theorem addPlain_gist (hphase : p.phase.awaited = none) (text : String) :
    p.gist.step (.plain text) = .ok (p.addPlain text).gist := by
  unfold Gist.step gist addPlain
  rw [hphase]
  cases hdestination : p.destination with
  | none => rfl
  | some destination =>
    change _ = Except.ok (⟨p.destination, p.settings.core, none⟩ : Gist)
    rw [hdestination]
    rfl

theorem addEndMark_gist (hphase : p.phase.awaited = none) : p.addEndMark.gist = p.gist := by
  unfold addEndMark gist
  rw [hphase]
  split <;> rfl

/-- Reading a token comes to reading its pieces. -/
theorem step_gist {token : Token} (h : p.step token = .ok q) :
    token.pieces.foldlM Gist.step p.gist = .ok q.gist := by
  have hone {piece : Piece} (h : p.gist.step piece = .ok q.gist) :
      [piece].foldlM Gist.step p.gist = .ok q.gist := by
    rw [List.foldlM_cons, h]
    rfl
  unfold step at h
  split at h
  · next flags last text hphase =>
    apply hone
    rw [← addValue_gist h]
    unfold Gist.step gist
    rw [hphase]
    rfl
  · cases h
  · next text hphase =>
    cases h
    exact hone (addPlain_gist (awaited_eq_none hphase) text)
  · next hphase =>
    cases h
    apply hone
    rw [addEndMark_gist (awaited_eq_none hphase)]
    unfold Gist.step
    cases p.gist.awaiting <;> rfl
  · next hphase => exact addOption_gist (awaited_eq_none hphase) (by simp) h
  · next hphase => exact addOption_gist (awaited_eq_none hphase) (by simp) h
  · next option text hphase =>
    obtain ⟨j, hj, h⟩ := exists_of_bind_eq_ok h
    have hjoined : joined option text = .ok j := ok_of_mapError hj
    rw [Token.pieces, hjoined]
    exact addOption_gist (awaited_eq_none hphase) (takesValue_of_joined hjoined) h
  · next text hphase =>
    cases h
    apply hone
    unfold Gist.step gist addExtra
    rw [awaited_eq_none hphase]
    rfl

/-- Reading tokens comes to reading their pieces. -/
theorem foldlM_gist {tokens : List Token} (h : tokens.foldlM step p = .ok q) :
    (tokens.flatMap Token.pieces).foldlM Gist.step p.gist = .ok q.gist := by
  induction tokens generalizing p with
  | nil =>
    cases h
    rfl
  | cons token tokens ih =>
    rw [List.foldlM_cons] at h
    obtain ⟨p', htoken, h⟩ := exists_of_bind_eq_ok h
    rw [List.flatMap_cons, List.foldlM_append, step_gist htoken]
    exact ih h

theorem finish_gist {a : Arguments} (h : p.finish = .ok a) :
    p.gist = ⟨some a.destination, a.settings.core, none⟩ := by
  unfold finish at h
  split at h
  · cases h
  · cases h
  · next destination hdestination _ hphase =>
    cases h
    unfold gist
    rw [hdestination, awaited_eq_none hphase]
  · cases h

end Progress

/-- A command line that is read is read token after token. -/
theorem exists_of_read_ok {arguments : List String} {a : Arguments} (h : read arguments = .ok a) :
    ∃ ts p, tokens arguments = .ok ts ∧ ts.foldlM Progress.step {} = .ok p ∧ p.finish = .ok a := by
  obtain ⟨ts, htokens, h⟩ := exists_of_bind_eq_ok h
  obtain ⟨p, hread, hfinish⟩ := exists_of_bind_eq_ok h
  exact ⟨ts, p, ok_of_mapError htokens, hread, hfinish⟩

/-- The destination and the settings that are not for diagnostics are those of the substance. -/
theorem read_gist {arguments : List String} {a : Arguments} (h : read arguments = .ok a) :
    ∃ pieces, substance arguments = .ok pieces ∧
      pieces.foldlM Gist.step (Progress.gist {}) =
        .ok ⟨some a.destination, a.settings.core, none⟩ := by
  obtain ⟨ts, p, htokens, hread, hfinish⟩ := exists_of_read_ok h
  refine ⟨substanceOf ts, by rw [substance, htokens]; rfl, ?_⟩
  rw [substanceOf, Gist.foldlM_filter, Progress.foldlM_gist hread, Progress.finish_gist hfinish]

/-- Command lines of the same substance say the same, but for the flags for diagnostics. -/
theorem read_substance {arguments arguments' : List String} {a a' : Arguments}
    (h : read arguments = .ok a) (h' : read arguments' = .ok a')
    (hsubstance : substance arguments = substance arguments') :
    a.destination = a'.destination ∧ a.settings.core = a'.settings.core := by
  obtain ⟨pieces, hpieces, hgist⟩ := read_gist h
  obtain ⟨pieces', hpieces', hgist'⟩ := read_gist h'
  rw [hpieces, hpieces'] at hsubstance
  obtain rfl := Except.ok.inj hsubstance
  have hsame := Except.ok.inj (hgist.symm.trans hgist')
  injection hsame with hdestination hsettings
  exact ⟨Option.some.inj hdestination, hsettings⟩

/-- Flags are no part of the substance, also where they are joined to an option with a value. -/
example : substance ["-vsc", "2", "192.0.2.7"] = substance ["-c", "2", "--quiet", "192.0.2.7"] := by
  decide

end RdsReach.CommandLine
