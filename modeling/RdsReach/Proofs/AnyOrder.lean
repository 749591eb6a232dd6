import RdsReach.Proofs.Given
import RdsReach.Proofs.Printing

/-!
# Command lines in any order

A command line is put together from parts: options with their values, flags and one destination.
Whatever their order, the command line says what the parts say, the last one of those that set the
same option (`read_of_placed`). So what a user chooses can be written down in any order, and is read
as it was chosen: `read_placed`.
-/

namespace RdsReach

/-- The setting of a value that may be absent. -/
def Setting.ofOption {α : Type} : Option α → Setting α
  | none => .absent
  | some a => .value a

namespace CommandLine

/-! ## Parts of a command line -/

/-- How an option is given by its letter. -/
def Opt.short (o : Opt) : String := String.ofList ('-' :: o.letter?.toList)

/-- A part of a command line. -/
inductive Part where
  /-- An option with a numeral and its number. -/
  | number (o : Opt) (text : String) (n : Nat)
  | source (text : String)
  | flag (o : Opt)
  | destination (text : String)
deriving DecidableEq, Repr

/-- The text does not begin like an option. -/
def IsPlain (text : String) : Prop := text.toList.head? ≠ some '-'

instance (text : String) : Decidable (IsPlain text) := inferInstanceAs (Decidable (_ ≠ _))

namespace Part

/-- The arguments of a part. -/
def arguments : Part → List String
  | number o text _ => [o.short, text]
  | source text => [Opt.source.short, text]
  | flag o => [o.short]
  | destination text => [text]

/-- The part is one that a command line may have. -/
inductive Regular : Part → Prop where
  | number {o : Opt} {text : String} {n : Nat} (ho : o.takesNumber = true) (hplain : IsPlain text)
      (hread : IsNumeral text n) : Regular (.number o text n)
  | source {text : String} (hplain : IsPlain text) : Regular (.source text)
  | flag {o : Opt} (ho : o.isDiagnostic = true) : Regular (.flag o)
  | destination {text : String} (hplain : IsPlain text) : Regular (.destination text)

/-- The number that the part gives to an option. -/
def number? (o : Opt) : Part → Option Nat
  | number o' _ n => if o' = o then some n else none
  | _ => none

def source? : Part → Option String
  | source text => some text
  | _ => none

def destination? : Part → Option String
  | destination text => some text
  | _ => none

/-- The tokens of a part. -/
def tokens : Part → List Token
  | number o text _ => [.short o none, .plain text]
  | source text => [.short .source none, .plain text]
  | flag o => [.short o none]
  | destination text => [.plain text]

end Part

/-- The last of what the parts say. -/
def last {α : Type} (f : Part → Option α) (ps : List Part) : Option α := (ps.filterMap f).getLast?

/-- A later part has the last word, unless it says nothing. -/
@[simp]
theorem last_concat {α : Type} (f : Part → Option α) (ps : List Part) (part : Part) :
    last f (ps ++ [part]) = (f part).or (last f ps) := by
  cases h : f part <;> simp [last, h]

/-- What the parts of a command line say: an option has its last value, and flags are counted. -/
def said (ps : List Part) : Settings where
  source := .ofOption (last Part.source? ps)
  count := .ofOption (last (Part.number? .count) ps)
  sockets := .ofOption (last (Part.number? .sockets) ps)
  tos := .ofOption (last (Part.number? .tos) ps)
  spin := decide (.flag .spin ∈ ps)
  verbose := ps.count (.flag .verbose)
  quiet := ps.count (.flag .quiet)

/-- The parts make up a command line with this destination. -/
structure Placed (ps : List Part) (destination : String) : Prop where
  regular : ∀ part ∈ ps, part.Regular
  single : ps.filterMap Part.destination? = [destination]
  exclusive : .flag .verbose ∉ ps ∨ .flag .quiet ∉ ps

/-! ## Tokens -/

theorem ofArgument_short {o : Opt} (h : o ≠ .version) :
    Token.ofArgument o.short = .ok (.short o none) := by
  revert h
  cases o <;> decide

/-- A text that does not begin like an option is a plain argument. -/
theorem ofArgument_of_isPlain {text : String} (h : IsPlain text) :
    Token.ofArgument text = .ok (.plain text) := by
  unfold IsPlain at h
  rw [Token.ofArgument]
  split <;> simp_all

theorem tokens_cons {argument : String} {rest : List String} {token : Token} {ts : List Token}
    (h : Token.ofArgument argument = .ok token) (hmark : token ≠ .endMark)
    (hrest : tokens rest = .ok ts) : tokens (argument :: rest) = .ok (token :: ts) := by
  rw [tokens, h]
  cases token with
  | endMark => exact absurd rfl hmark
  | _ =>
    change (tokens rest >>= _) = _
    rw [hrest]
    rfl

/-- A number is written with digits only. -/
theorem isPlain_toString (n : Nat) : IsPlain (toString n) := by
  intro h
  have htext : (toString n).toList = Nat.toDigits 10 n := String.toList_ofList
  rw [htext] at h
  have hmem : '-' ∈ Nat.toDigits 10 n := List.mem_of_mem_head? h
  exact absurd (Nat.isDigit_of_mem_toDigits (by decide) (by decide) hmem) (by decide)

/-- Each part has its own tokens. -/
theorem tokens_flatMap {ps : List Part} (h : ∀ part ∈ ps, part.Regular) :
    tokens (ps.flatMap Part.arguments) = .ok (ps.flatMap Part.tokens) := by
  have hplain {text : String} (htext : IsPlain text) {rest : List String} {ts : List Token}
      (hrest : tokens rest = .ok ts) : tokens (text :: rest) = .ok (.plain text :: ts) :=
    tokens_cons (ofArgument_of_isPlain htext) nofun hrest
  have hshort {o : Opt} (ho : o ≠ .version) {rest : List String} {ts : List Token}
      (hrest : tokens rest = .ok ts) : tokens (o.short :: rest) = .ok (.short o none :: ts) :=
    tokens_cons (ofArgument_short ho) nofun hrest
  induction ps with
  | nil => rfl
  | cons part ps ih =>
    obtain ⟨hpart, hps⟩ := List.forall_mem_cons.1 h
    cases hpart with
    | number ho htext _ => exact hshort (by rintro rfl; cases ho) (hplain htext (ih hps))
    | source htext => exact hshort Opt.noConfusion (hplain htext (ih hps))
    | flag ho => exact hshort (by rintro rfl; cases ho) (ih hps)
    | destination htext => exact hplain htext (ih hps)

/-! ## Reading a part -/

theorem Opt.takesValue_of_takesNumber {o : Opt} (h : o.takesNumber = true) :
    o.takesValue = true := by
  revert h
  cases o <;> decide

theorem Opt.takesValue_of_isDiagnostic {o : Opt} (h : o.isDiagnostic = true) :
    o.takesValue = false := by
  revert h
  cases o <;> decide

/-- A numeral is a number for every option that takes one. -/
theorem readNumber_of_read {text : String} {n : Nat} (o : Opt) (h : Numeral.read text = .ok n) :
    readNumber o text = .ok (.value n) := by
  rw [readNumber, readValue, if_neg (ne_mark_of_read h), h]
  rfl

variable {ps : List Part} {p : Progress}

/-- A number goes to its option, in the place of what was said of it before. -/
theorem takeValue_number {o : Opt} {text : String} {n : Nat} (ho : o.takesNumber = true)
    (hread : IsNumeral text n) :
    takeValue o text (said ps) = .ok (said (ps ++ [.number o text n])) := by
  cases o with
  | count | sockets | tos =>
    rw [takeValue, readNumber_of_read _ hread]
    simp [said, Part.number?, Part.source?, Setting.ofOption]
  | _ => cases ho

/-- A name of a source is taken as it is. -/
theorem takeValue_source {text : String} (h : IsPlain text) :
    takeValue .source text (said ps) = .ok (said (ps ++ [.source text])) := by
  have hmark : text ≠ "--" := by
    rintro rfl
    exact h rfl
  rw [takeValue, readValue, if_neg hmark]
  simp [said, Part.number?, Part.source?, Setting.ofOption]

/-- A flag is counted, if it does not exclude one that was counted before. -/
theorem takeFlag_said {o : Opt} (ho : o.isDiagnostic = true)
    (hexclusive : .flag .verbose ∉ ps ++ [.flag o] ∨ .flag .quiet ∉ ps ++ [.flag o]) :
    takeFlag o (said ps) = .ok (said (ps ++ [.flag o])) := by
  cases o with
  | spin => simp [takeFlag, said, Part.number?, Part.source?]
  | verbose =>
    have hquiet : (said ps).quiet = 0 := by simpa [said, List.count_eq_zero] using hexclusive
    rw [takeFlag, if_neg (not_not.2 hquiet)]
    simp [said, Part.number?, Part.source?]
  | quiet =>
    have hverbose : (said ps).verbose = 0 := by simpa [said, List.count_eq_zero] using hexclusive
    rw [takeFlag, if_neg (not_not.2 hverbose)]
    simp [said, Part.number?, Part.source?]
  | _ => cases ho

/-- The parts were read, and nothing else. -/
structure Progress.Reached (p : Progress) (ps : List Part) : Prop where
  destination : p.destination = (ps.filterMap Part.destination?).head?
  settings : p.settings = said ps
  extras : p.extras = []
  awaited : p.phase.awaited = none

namespace Progress

/-- Unless an option waits for its value, options and plain arguments are what they look like. -/
theorem step_of_awaited (h : p.phase.awaited = none) :
    (∀ o, p.step (.short o none) = p.addOption [] o none) ∧
      ∀ text, p.step (.plain text) = .ok (p.addPlain text) := by
  unfold step
  cases hphase : p.phase with
  | awaiting flags last =>
    rw [hphase] at h
    cases h
  | _ => exact ⟨fun _ => rfl, fun _ => rfl⟩

/-- An option takes the next plain argument as its value. -/
theorem foldlM_value (h : p.phase.awaited = none) {o : Opt} {text : String} {s : Settings}
    (ho : o.takesValue = true) (hvalue : takeValue o text p.settings = .ok s) :
    [.short o none, .plain text].foldlM step p = .ok { p with settings := s, phase := .free } := by
  have hwaiting : p.addOption [] o none = .ok { p with phase := .awaiting [] o } := by
    unfold addOption
    rw [ho]
  have htaken : step { p with phase := .awaiting [] o } (.plain text) =
      .ok { p with settings := s, phase := .free } := by
    change (takeValue o text p.settings >>= _) = _
    rw [hvalue]
    rfl
  rw [List.foldlM_cons, (step_of_awaited h).1, hwaiting]
  change (step { p with phase := .awaiting [] o } (.plain text) >>= _) = _
  rw [htaken]
  rfl

theorem foldlM_flag (h : p.phase.awaited = none) {o : Opt} {s : Settings}
    (ho : o.takesValue = false) (hflag : takeFlag o p.settings = .ok s) :
    [.short o none].foldlM step p = .ok { p with settings := s, phase := .free } := by
  have htaken : p.addOption [] o none = .ok { p with settings := s, phase := .free } := by
    unfold addOption
    rw [ho]
    change ((takeFlag o p.settings >>= takeFlags []) >>= _) = _
    rw [hflag]
    rfl
  rw [List.foldlM_cons, (step_of_awaited h).1, htaken]
  rfl

theorem Reached.value {part : Part} {s : Settings} (h : p.Reached ps)
    (hpart : part.destination? = none) (hs : s = said (ps ++ [part])) :
    Reached { p with settings := s, phase := .free } (ps ++ [part]) where
  destination := by
    rw [List.filterMap_append, List.filterMap_cons_none hpart, List.filterMap_nil, List.append_nil]
    exact h.destination
  settings := hs
  extras := h.extras
  awaited := rfl

/-- Reading one more part, which may follow those that were read. -/
theorem Reached.step {part : Part} (h : p.Reached ps) (hpart : part.Regular)
    (hsingle : ((ps ++ [part]).filterMap Part.destination?).length ≤ 1)
    (hexclusive : .flag .verbose ∉ ps ++ [part] ∨ .flag .quiet ∉ ps ++ [part]) :
    ∃ q, part.tokens.foldlM Progress.step p = .ok q ∧ q.Reached (ps ++ [part]) := by
  cases hpart with
  | @number o text n ho hplain hread =>
    have hvalue : takeValue o text p.settings = .ok (said (ps ++ [.number o text n])) := by
      rw [h.settings, takeValue_number ho hread]
    exact ⟨_, foldlM_value h.awaited (Opt.takesValue_of_takesNumber ho) hvalue, h.value rfl rfl⟩
  | @source text hplain =>
    have hvalue : takeValue .source text p.settings = .ok (said (ps ++ [.source text])) := by
      rw [h.settings, takeValue_source hplain]
    exact ⟨_, foldlM_value h.awaited rfl hvalue, h.value rfl rfl⟩
  | @flag o ho =>
    have hflag : takeFlag o p.settings = .ok (said (ps ++ [.flag o])) := by
      rw [h.settings, takeFlag_said ho hexclusive]
    exact ⟨_, foldlM_flag h.awaited (Opt.takesValue_of_isDiagnostic ho) hflag, h.value rfl rfl⟩
  | @destination text hplain =>
    have hnone : ps.filterMap Part.destination? = [] := by
      rw [List.filterMap_append, List.length_append] at hsingle
      have hone : ([Part.destination text].filterMap Part.destination?).length = 1 := rfl
      exact List.length_eq_zero_iff.1 (by omega)
    have hplace : p.addPlain text =
        { p with destination := some text, phase := .placed } := by
      unfold addPlain
      rw [h.destination, hnone]
      rfl
    refine ⟨{ p with destination := some text, phase := .placed }, ?_, ?_, ?_, h.extras, rfl⟩
    · rw [Part.tokens, List.foldlM_cons, (step_of_awaited h.awaited).2, hplace]
      rfl
    · rw [List.filterMap_append, hnone]
      rfl
    · rw [h.settings]
      simp [said, Part.number?, Part.source?]

/-- Reading all parts, one after the other. -/
theorem foldlM_parts (hregular : ∀ part ∈ ps, part.Regular)
    (hsingle : (ps.filterMap Part.destination?).length ≤ 1)
    (hexclusive : .flag .verbose ∉ ps ∨ .flag .quiet ∉ ps) :
    ∃ p, (ps.flatMap Part.tokens).foldlM Progress.step {} = .ok p ∧ p.Reached ps := by
  induction ps using List.reverseRecOn with
  | nil => exact ⟨{}, rfl, rfl, rfl, rfl, rfl⟩
  | append_singleton ps part ih =>
    have hpart := hregular part (by simp)
    have hbefore : (ps.filterMap Part.destination?).length ≤ 1 := by
      rw [List.filterMap_append, List.length_append] at hsingle
      omega
    obtain ⟨p, hread, hp⟩ := ih (fun part h => hregular part (List.mem_append_left _ h)) hbefore
      (hexclusive.imp (fun h hmem => h (List.mem_append_left _ hmem))
        fun h hmem => h (List.mem_append_left _ hmem))
    obtain ⟨q, hstep, hq⟩ := hp.step hpart hsingle hexclusive
    refine ⟨q, ?_, hq⟩
    rw [List.flatMap_append, List.foldlM_append, hread, List.flatMap_singleton]
    exact hstep

theorem Reached.finish {destination : String} (h : p.Reached ps)
    (hsingle : ps.filterMap Part.destination? = [destination]) :
    p.finish = .ok ⟨destination, said ps⟩ := by
  have hdestination : p.destination = some destination := by
    rw [h.destination, hsingle]
    rfl
  have hawaited := h.awaited
  unfold Progress.finish
  rw [hdestination, h.extras, ← h.settings]
  cases hphase : p.phase with
  | awaiting flags last =>
    rw [hphase] at hawaited
    cases hawaited
  | _ => rfl

end Progress

/-- A command line of parts in any order says what its parts say. -/
theorem read_of_placed {destination : String} (h : Placed ps destination) :
    read (ps.flatMap Part.arguments) = .ok ⟨destination, said ps⟩ := by
  obtain ⟨p, hread, hp⟩ := Progress.foldlM_parts h.regular (by rw [h.single]; exact Nat.le_refl 1)
    h.exclusive
  rw [read, tokens_flatMap h.regular]
  change (List.foldlM Progress.step {} (ps.flatMap Part.tokens) >>= _) = _
  rw [hread]
  exact hp.finish h.single

/-! ## What a user chooses -/

/-- What a user chooses. -/
structure Choice where
  destination : String
  source : Option String := none
  count : Option Nat := none
  sockets : Option Nat := none
  tos : Option Nat := none
  spin : Bool := false
  /-- How often the user asks to be told more, or less if it is negative. -/
  verbosity : Int := 0

namespace Choice

variable {c : Choice}

/-- The number of an option. -/
def number? (c : Choice) : Opt → Option Nat
  | .count => c.count
  | .sockets => c.sockets
  | .tos => c.tos
  | _ => none

/-- The choice can be written down: no text begins like an option, and no number is too long. -/
structure Writable (c : Choice) : Prop where
  destination : IsPlain c.destination
  source : ∀ text, c.source = some text → IsPlain text
  number : ∀ o n, c.number? o = some n → (toString n).length ≤ 4300

/-- The parts that give numbers to options, in decimal. -/
def numberParts (c : Choice) : List Part :=
  [Opt.count, .sockets, .tos].flatMap fun o =>
    (c.number? o).toList.map fun n => .number o (toString n) n

/-- The flags of the choice. -/
def flags (c : Choice) : List Opt :=
  (if c.spin then [.spin] else []) ++ List.replicate c.verbosity.toNat .verbose ++
    List.replicate (-c.verbosity).toNat .quiet

/-- The parts that the choice is written as. -/
def parts (c : Choice) : List Part :=
  .destination c.destination ::
    (c.source.toList.map Part.source ++ c.numberParts ++ c.flags.map Part.flag)

/-- What the choice is read as. -/
def settings (c : Choice) : Settings where
  source := .ofOption c.source
  count := .ofOption c.count
  sockets := .ofOption c.sockets
  tos := .ofOption c.tos
  spin := c.spin
  verbose := c.verbosity.toNat
  quiet := (-c.verbosity).toNat

/-- What is asked for, with 0 in the place of numbers that are absent, but for that of the
sockets. -/
def options (c : Choice) : Options where
  destination := c.destination
  source := .ofOption c.source
  count := .value (c.count.getD 0 : Nat)
  groupSize := .ofOption (c.sockets.map Nat.cast)
  tos := .value (c.tos.getD 0 : Nat)
  spin := c.spin

/-- What holds of the destination, of the source, of the numbers and of the flags holds of all
parts. -/
theorem Writable.regular (h : c.Writable) : ∀ part ∈ c.parts, part.Regular := by
  refine List.forall_mem_cons.2 ⟨.destination h.destination, ?_⟩
  rw [List.forall_mem_append, List.forall_mem_append]
  refine ⟨⟨?_, ?_⟩, ?_⟩
  · intro part hpart
    obtain ⟨text, htext, rfl⟩ := List.mem_map.1 hpart
    exact .source (h.source text (Option.mem_toList.1 htext))
  · intro part hpart
    obtain ⟨o, ho, hpart⟩ := List.mem_flatMap.1 hpart
    obtain ⟨n, hn, rfl⟩ := List.mem_map.1 hpart
    have hnumber : ∀ o ∈ [Opt.count, .sockets, .tos], o.takesNumber = true := by decide
    exact .number (hnumber o ho) (isPlain_toString n)
      (Numeral.read_toString (h.number o n (Option.mem_toList.1 hn)))
  · intro part hpart
    obtain ⟨o, ho, rfl⟩ := List.mem_map.1 hpart
    simp only [flags, List.mem_append, List.mem_replicate, List.mem_ite_nil_right,
      List.mem_singleton] at ho
    rcases ho with (⟨-, rfl⟩ | ⟨-, rfl⟩) | ⟨-, rfl⟩ <;> exact .flag rfl

theorem filterMap_destination (c : Choice) :
    c.parts.filterMap Part.destination? = [c.destination] := by
  simp [parts, numberParts, Part.destination?, Function.comp_def]

theorem filterMap_source (c : Choice) :
    c.parts.filterMap Part.source? = c.source.toList := by
  simp [parts, numberParts, Part.source?, List.filterMap_cons, Function.comp_def]

theorem filterMap_number (c : Choice) {o : Opt} (ho : o.takesNumber = true) :
    c.parts.filterMap (Part.number? o) = (c.number? o).toList := by
  cases o with
  | count | sockets | tos =>
    simp [parts, numberParts, number?, Part.number?, List.filterMap_cons, Function.comp_def]
  | _ => cases ho

theorem count_flag (c : Choice) (o : Opt) : c.parts.count (.flag o) = c.flags.count o := by
  have hinjective : Function.Injective Part.flag := fun o o' h => Part.flag.inj h
  have hother : (c.source.toList.map Part.source ++ c.numberParts).count (.flag o) = 0 := by
    rw [List.count_eq_zero]
    simp [numberParts]
  rw [parts, List.count_cons_of_ne Part.noConfusion, List.count_append, hother, Nat.zero_add,
    List.count_map_of_injective _ _ hinjective]

theorem count_flags (c : Choice) :
    c.flags.count .spin = c.spin.toNat ∧ c.flags.count .verbose = c.verbosity.toNat ∧
      c.flags.count .quiet = (-c.verbosity).toNat := by
  cases hspin : c.spin <;> simp [flags, hspin, List.count_replicate]

variable {ps : List Part}

theorem count_of_perm (h : ps.Perm c.parts) :
    ps.count (.flag .spin) = c.spin.toNat ∧ ps.count (.flag .verbose) = c.verbosity.toNat ∧
      ps.count (.flag .quiet) = (-c.verbosity).toNat := by
  simp only [h.count_eq, count_flag, count_flags, and_self]

/-- In any order its parts say what was chosen. -/
theorem said_of_perm (h : ps.Perm c.parts) : said ps = c.settings := by
  have hlast {α : Type} {f : Part → Option α} {a : Option α}
      (hf : c.parts.filterMap f = a.toList) : last f ps = a := by
    have hperm := h.filterMap f
    rw [hf] at hperm
    cases a with
    | none => rw [last, hperm.eq_nil, List.getLast?_nil]
    | some a => rw [last, List.perm_singleton.1 hperm, List.getLast?_singleton]
  obtain ⟨hspin, hverbose, hquiet⟩ := count_of_perm h
  have hgiven : decide (.flag .spin ∈ ps) = c.spin := by
    rw [Bool.eq_iff_iff, decide_eq_true_iff, ← List.count_pos_iff, hspin]
    cases c.spin <;> simp
  rw [said, hlast c.filterMap_source, hlast (c.filterMap_number (o := .count) rfl),
    hlast (c.filterMap_number (o := .sockets) rfl), hlast (c.filterMap_number (o := .tos) rfl),
    hgiven, hverbose, hquiet]
  rfl

theorem Writable.placed (h : c.Writable) (hps : ps.Perm c.parts) : Placed ps c.destination where
  regular part hpart := h.regular part (hps.mem_iff.1 hpart)
  single := by
    have hperm := hps.filterMap Part.destination?
    rw [filterMap_destination] at hperm
    exact List.perm_singleton.1 hperm
  exclusive := by
    obtain ⟨-, hverbose, hquiet⟩ := count_of_perm hps
    rw [← List.count_eq_zero, ← List.count_eq_zero, hverbose, hquiet]
    omega

theorem verbosity_settings (c : Choice) : c.settings.verbosity = c.verbosity := by
  change (c.verbosity.toNat : Int) - (-c.verbosity).toNat = c.verbosity
  omega

/-- A number that is absent is asked for as 0, but for that of the sockets. -/
theorem ofOptions_options (c : Choice) (resolve : Host → Probe Endpoint) :
    RunConfig.ofOptions resolve (Arguments.mk c.destination c.settings).options =
      RunConfig.ofOptions resolve c.options := by
  obtain ⟨d, source, count, sockets, tos, spin, v⟩ := c
  cases count <;> cases sockets <;> cases tos <;> rfl

end Choice

/-- What a user chooses can be written down in any order, and is read as it was chosen, with the
numbers that are absent being 0 and that of the sockets being left open. Options may be given more
often: of what they are given the last counts. -/
theorem read_placed (c : Choice) (hc : c.Writable) :
    (∀ ps : List Part, ps.Perm c.parts →
      read (ps.flatMap Part.arguments) = .ok ⟨c.destination, c.settings⟩) ∧
    c.settings.verbosity = c.verbosity ∧
    (∀ resolve, RunConfig.ofOptions resolve (Arguments.mk c.destination c.settings).options =
      RunConfig.ofOptions resolve c.options) ∧
    ∀ ps destination, Placed ps destination →
      read (ps.flatMap Part.arguments) = .ok ⟨destination, said ps⟩ := by
  refine ⟨fun ps hps => ?_, c.verbosity_settings, c.ofOptions_options,
    fun ps destination => read_of_placed⟩
  rw [read_of_placed (hc.placed hps), Choice.said_of_perm hps]

/-- A choice in an order of its own, and one with a number that is given twice. -/
theorem read_placed_quietly :
    let c : Choice :=
      { destination := "2001:db8::7", source := some "", count := some 3, tos := some 255,
        spin := true, verbosity := -2 }
    c.Writable ∧
      read ["-q", "-Q", "255", "-I", "", "2001:db8::7", "-q", "-s", "-c", "3"] =
        .ok ⟨"2001:db8::7",
          { source := .value "", count := .value 3, tos := .value 255, spin := true, quiet := 2 }⟩ ∧
      read ["-c", "2k", "a b", "-c", "3"] = .ok ⟨"a b", { count := .value 3 }⟩ := by
  intro c
  have hc : c.Writable := by
    refine ⟨by decide, ?_, ?_⟩
    · rintro _ ⟨⟩
      decide
    · rintro o n hn
      cases o <;> cases hn <;> decide
  obtain ⟨horder, -, -, hlast⟩ := read_placed c hc
  refine ⟨hc, ?_, ?_⟩
  · exact horder [.flag .quiet, .number .tos "255" 255, .source "", .destination "2001:db8::7",
      .flag .quiet, .flag .spin, .number .count "3" 3] (by decide)
  · refine hlast [.number .count "2k" 2048, .destination "a b", .number .count "3" 3] "a b"
      ⟨?_, by decide, by decide⟩
    simp only [List.forall_mem_cons]
    exact ⟨.number rfl (by decide) (by rfl), .destination (by decide),
      .number rfl (by decide) (by rfl), nofun⟩

end CommandLine

end RdsReach
