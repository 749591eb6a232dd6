/-!
# Options of the command line

Every option has a long name, and all but one have a letter. Some take a value, the others are
flags. No long name begins another one, so that a long name abbreviates no other option.
-/

namespace RdsReach.CommandLine

/-- The options of the command line. -/
inductive Opt where
  | help
  | version
  | count
  | sockets
  | source
  | tos
  | spin
  | verbose
  | quiet
deriving DecidableEq, Repr

namespace Opt

/-- All options, in the order in which they are listed. -/
def all : List Opt := [help, version, count, sockets, source, tos, spin, verbose, quiet]

/-- The letter of an option. -/
def letter? : Opt → Option Char
  | help => some 'h'
  | version => none
  | count => some 'c'
  | sockets => some 'n'
  | source => some 'I'
  | tos => some 'Q'
  | spin => some 's'
  | verbose => some 'v'
  | quiet => some 'q'

/-- The long name of an option. -/
def name : Opt → String
  | help => "help"
  | version => "version"
  | count => "count"
  | sockets => "sockets"
  | source => "source"
  | tos => "tos"
  | spin => "spin"
  | verbose => "verbose"
  | quiet => "quiet"

/-- Does the option take a value? -/
def takesValue : Opt → Bool
  | count => true
  | sockets => true
  | source => true
  | tos => true
  | _ => false

/-- The option of a letter. -/
def ofLetter? (c : Char) : Option Opt := all.find? (·.letter? = some c)

/-- The options whose long name begins with a text. -/
def abbreviated (text : List Char) : List Opt := all.filter (text.isPrefixOf ·.name.toList)

/-- How messages name an option. -/
def display (o : Opt) : String :=
  match o.letter? with
  | some c => s!"-{c}/--{o.name}"
  | none => s!"--{o.name}"

end Opt

end RdsReach.CommandLine
