import RdsReach.CommandLine.UsageError
import RdsReach.Text.DecimalDigit

/-!
# Tokens of the command line

What each argument is by its own looks: plain text, an option, a text that looks like an option and
is none, or the mark `--` after which everything is plain.

* A long option may be abbreviated as long as it stands for one option only, and may carry a value
  after `=`.
* Short options may be joined, and carry the text after their letter, which is either further
  letters or a value; an `=` right after the first letter is left out.
* A negative number, and a text with a space in it, is plain unless it begins like an option.
-/

namespace RdsReach.CommandLine

/-- An argument by its looks. -/
inductive Token where
  | plain (text : String)
  /-- The mark that ends the options. -/
  | endMark
  | long (option : Opt) (value : Option String)
  /-- A short option with the text that is joined to it. -/
  | short (option : Opt) (joined : Option (List Char))
  /-- An option that there is not. -/
  | unknown (text : String)
deriving DecidableEq, Repr

/-- Is the text, which follows a `-`, the rest of a negative number? A line end may follow. -/
def isNumberRest (cs : List Char) : Bool :=
  let cs := if cs.getLast? = some '\n' then cs.dropLast else cs
  let fraction := cs.dropWhile Text.isDecimalDigit
  match fraction with
  | [] => !cs.isEmpty
  | '.' :: digits => !digits.isEmpty && digits.all Text.isDecimalDigit
  | _ => false

/-- The token of an argument that begins with a `-` and names no option. -/
def unnamedToken (argument : String) : Token :=
  if isNumberRest (argument.toList.drop 1) || argument.contains ' ' then .plain argument
  else .unknown argument

/-- The token of an argument `--` with a text behind. -/
def longToken (argument : String) (text : List Char) : Except UsageError Token :=
  let value :=
    match text.dropWhile (· ≠ '=') with
    | [] => none
    | _ :: value => some (String.ofList value)
  match Opt.abbreviated (text.takeWhile (· ≠ '=')) with
  | [] => .ok (unnamedToken argument)
  | [option] => .ok (.long option value)
  | options => .error (.ambiguous argument options)

/-- The text that is joined to a short option. -/
def joinedText : List Char → Option (List Char)
  | [] => none
  | '=' :: value => some value
  | text => some text

/-- The token of an argument `-` with a letter and a text behind. -/
def shortToken (argument : String) (letter : Char) (text : List Char) : Token :=
  match Opt.ofLetter? letter with
  | some option => .short option (joinedText text)
  | none => unnamedToken argument

/-- The token of an argument that no end mark precedes. -/
def Token.ofArgument (argument : String) : Except UsageError Token :=
  match argument.toList with
  | ['-', '-'] => .ok .endMark
  | '-' :: '-' :: text => longToken argument text
  | '-' :: letter :: text => .ok (shortToken argument letter text)
  | _ => .ok (.plain argument)

/-- The tokens of a command line. -/
def tokens : List String → Except UsageError (List Token)
  | [] => .ok []
  | argument :: rest => do
    match ← Token.ofArgument argument with
    | .endMark => return .endMark :: rest.map .plain
    | token => return token :: (← tokens rest)

end RdsReach.CommandLine
