import RdsReach.CommandLine.Token
import RdsReach.Numeral
import RdsReach.RunConfig

/-!
# The command line

The command line is read from left to right. The first plain argument that is not the value of an
option is the destination; an end mark next to it goes with it. Of an option that is given more
than once the last value counts, and a flag counts as often as it is given. Asking for help or for
the version ends the reading.

* `CommandLine.read` reads a command line;
* `CommandLine.Arguments` is what a command line says.
-/

namespace RdsReach.CommandLine

/-! ## What a command line says -/

/-- What the options of a command line say. -/
structure Settings where
  source : Setting String := .absent
  count : Setting Nat := .absent
  sockets : Setting Nat := .absent
  tos : Setting Nat := .absent
  spin : Bool := false
  verbose : Nat := 0
  quiet : Nat := 0
deriving DecidableEq, Repr

/-- What a command line says. -/
structure Arguments where
  destination : String
  settings : Settings
deriving DecidableEq, Repr

/-- How much the user wants to be told. -/
def Settings.verbosity (s : Settings) : Int := s.verbose - s.quiet

/-- A number that an option gives. -/
def number : Setting Nat → Setting Int
  | .absent => .absent
  | .blank => .blank
  | .value n => .value n

/-- What a command line says about the run. -/
def Arguments.options (a : Arguments) : Options where
  destination := a.destination
  source := a.settings.source
  count := number a.settings.count
  groupSize := number a.settings.sockets
  tos := number a.settings.tos
  spin := a.settings.spin

/-- Why the reading of a command line ends without arguments. -/
inductive Ending where
  | help
  | version
  | wrong (error : UsageError)
deriving DecidableEq, Repr

/-! ## Taking an option -/

/-- The value that an option is given, converted; the end mark is no value. -/
def readValue (convert : String → Except Ending α) (text : String) :
    Except Ending (Setting α) :=
  if text = "--" then .ok .blank else .value <$> convert text

/-- The number that an option is given. -/
def readNumber (option : Opt) (text : String) : Except Ending (Setting Nat) :=
  readValue (fun text => (Numeral.read text).mapError fun _ => .wrong (.invalidNumber option text))
    text

/-- Takes an option that has a value. -/
def takeValue (option : Opt) (text : String) (s : Settings) : Except Ending Settings :=
  match option with
  | .count => return { s with count := ← readNumber option text }
  | .sockets => return { s with sockets := ← readNumber option text }
  | .tos => return { s with tos := ← readNumber option text }
  | .source => return { s with source := ← readValue .ok text }
  | _ => .ok s

/-- Takes a flag. -/
def takeFlag (option : Opt) (s : Settings) : Except Ending Settings :=
  match option with
  | .help => .error .help
  | .version => .error .version
  | .spin => .ok { s with spin := true }
  | .verbose =>
    if s.quiet ≠ 0 then .error (.wrong (.conflict .verbose .quiet))
    else .ok { s with verbose := s.verbose + 1 }
  | .quiet =>
    if s.verbose ≠ 0 then .error (.wrong (.conflict .quiet .verbose))
    else .ok { s with quiet := s.quiet + 1 }
  | _ => .ok s

/-- Takes flags, one after the other. -/
def takeFlags : List Opt → Settings → Except Ending Settings
  | [], s => .ok s
  | option :: rest, s => do takeFlags rest (← takeFlag option s)

/-! ## Joined short options -/

/-- Short options that are joined: flags, and the last one with the text joined to it. -/
structure Joined where
  flags : List Opt
  last : Opt
  text : Option (List Char)
deriving DecidableEq, Repr

/-- Takes joined short options apart. The text of an option that takes a value is its value;
the text of a flag is further options. -/
def joined (option : Opt) : List Char → Except UsageError Joined
  | [] =>
    if option.takesValue then .ok ⟨[], option, some []⟩
    else .error (.valueUnwanted option "")
  | c :: text =>
    if option.takesValue then .ok ⟨[], option, some (c :: text)⟩
    else
      match Opt.ofLetter? c with
      | none => .error (.valueUnwanted option (String.ofList (c :: text)))
      | some next =>
        if text.isEmpty then .ok ⟨[option], next, none⟩
        else (joined next text).map fun j => { j with flags := option :: j.flags }

/-! ## Reading -/

/-- What the reading is in the middle of. -/
inductive Phase where
  | free
  /-- The latest argument was the destination. -/
  | placed
  /-- The latest argument was an option that takes a value, with flags joined before it. -/
  | awaiting (flags : List Opt) (last : Opt)
deriving DecidableEq, Repr

/-- What was read so far. -/
structure Progress where
  destination : Option String := none
  settings : Settings := {}
  /-- Arguments that belong nowhere. -/
  extras : List String := []
  phase : Phase := .free
deriving DecidableEq, Repr

namespace Progress

/-- Notes an argument that belongs nowhere. -/
def addExtra (p : Progress) (text : String) : Progress :=
  { p with extras := p.extras ++ [text], phase := .free }

/-- Takes flags and then an option with its value. -/
def addValue (p : Progress) (flags : List Opt) (last : Opt) (text : String) :
    Except Ending Progress := do
  let settings ← takeValue last text (← takeFlags flags p.settings)
  return { p with settings, phase := .free }

/-- Takes flags and a last option, which may come with a value or still wait for it. -/
def addOption (p : Progress) (flags : List Opt) (last : Opt) (value : Option String) :
    Except Ending Progress :=
  match last.takesValue, value with
  | true, some text => p.addValue flags last text
  | true, none => .ok { p with phase := .awaiting flags last }
  | false, some text => .error (.wrong (.valueUnwanted last text))
  | false, none => do
    return { p with settings := ← takeFlags (flags ++ [last]) p.settings, phase := .free }

/-- Takes a plain argument that is not the value of an option. -/
def addPlain (p : Progress) (text : String) : Progress :=
  match p.destination with
  | none => { p with destination := some text, phase := .placed }
  | some _ => p.addExtra text

/-- Takes the end mark: next to the destination it is no argument of its own. -/
def addEndMark (p : Progress) : Progress :=
  match p.destination, p.phase with
  | some _, .free => p.addExtra "--"
  | _, _ => { p with phase := .free }

/-- Takes a token. -/
def step (p : Progress) (token : Token) : Except Ending Progress :=
  match p.phase, token with
  | .awaiting flags last, .plain text => p.addValue flags last text
  | .awaiting _ last, _ => .error (.wrong (.valueMissing last))
  | _, .plain text => .ok (p.addPlain text)
  | _, .endMark => .ok p.addEndMark
  | _, .long option value => p.addOption [] option value
  | _, .short option none => p.addOption [] option none
  | _, .short option (some text) => do
    let j ← (joined option text).mapError .wrong
    p.addOption j.flags j.last (j.text.map String.ofList)
  | _, .unknown text => .ok (p.addExtra text)

/-- What the command line says once all of it is read. -/
def finish (p : Progress) : Except Ending Arguments :=
  match p.phase, p.destination, p.extras with
  | .awaiting _ last, _, _ => .error (.wrong (.valueMissing last))
  | _, none, _ => .error (.wrong .destinationMissing)
  | _, some destination, [] => .ok { destination, settings := p.settings }
  | _, some _, extras => .error (.wrong (.unrecognized extras))

end Progress

/-- Reads a command line. -/
def read (arguments : List String) : Except Ending Arguments := do
  let tokens ← (tokens arguments).mapError .wrong
  let progress ← tokens.foldlM Progress.step {}
  progress.finish

end RdsReach.CommandLine
