import RdsReach.Idna.Punycode
import RdsReach.Fault
import RdsReach.Text.Parts

/-!
# Host names in ASCII

The system takes host names in ASCII, with labels that are neither empty nor long. A name in ASCII
is taken as it is. A name beyond ASCII is encoded label by label: the label is prepared first, so
that characters that mean the same become the same, and if it is in ASCII then, it stays so.
Otherwise it is written in Punycode after a prefix.

Labels are prepared by the tables of Unicode, which are not a matter of this library: a `Nameprep`
is what they come to. Of these tables `Nameprep.narrow` has the full-width forms of ASCII only.
-/

namespace RdsReach

/-- How a label beyond ASCII is prepared, or why it is refused. -/
abbrev Nameprep := List Char → Except String (List Char)

/-- The character of ASCII that has the full-width form, in small letters. -/
def narrowForm (c : Char) : Char :=
  (if '\uff01' ≤ c ∧ c ≤ '\uff5e' then Char.ofNat (c.toNat - 0xfee0) else c).toLower

/-- Prepares a label in which nothing but full-width forms and capitals has to be prepared. -/
def Nameprep.narrow : Nameprep := fun label => .ok (label.map narrowForm)

namespace Idna

def isAscii (cs : List Char) : Bool := cs.all (·.toNat < 128)

/-! ## Labels -/

/-- The most characters that a label may have. -/
def maxLabel : Nat := 63

/-- Is the label one that another label may follow? -/
def isInnerLabel (label : List Char) : Bool := !label.isEmpty && label.length ≤ maxLabel

/-- Checks the labels of a name in ASCII; the last one may be empty. -/
def checkLabels : List (List Char) → Except String Unit
  | [] => .ok ()
  | [last] => if last.length ≤ maxLabel then .ok () else .error "label too long"
  | label :: rest =>
    if isInnerLabel label then checkLabels rest else .error "label empty or too long"

/-- The label, if it is neither empty nor long. -/
def sized (label : List Char) : Except String (List Char) :=
  if isInnerLabel label then .ok label else .error "label empty or too long"

/-- What stands before a label in Punycode. -/
def acePrefix : List Char := "xn--".toList

/-- The label in ASCII. -/
def encodeLabel (prepare : Nameprep) (label : List Char) : Except String (List Char) := do
  if isAscii label then sized label
  else
    let label ← prepare label
    if isAscii label then sized label
    else if acePrefix.isPrefixOf label then .error "Label starts with ACE prefix"
    else sized (acePrefix ++ Punycode.encode label)

/-! ## Names -/

/-- The stop that parts labels; some scripts have one of their own. -/
def plainStop (c : Char) : Char :=
  if c = '\u3002' || c = '\uff0e' || c = '\uff61' then '.' else c

/-- The labels of a name, and the stop that may stand after the last one. -/
def labels (cs : List Char) : List (List Char) × List Char :=
  let labels := Text.parts '.' (cs.map plainStop)
  if labels.getLast? = some [] then (labels.dropLast, ['.']) else (labels, [])

/-- The name in ASCII, label by label. -/
def encodeLabels (prepare : Nameprep) (cs : List Char) : Except String (List Char) :=
  return ['.'].intercalate (← (labels cs).1.mapM (encodeLabel prepare)) ++ (labels cs).2

/-- What is said about a host name that cannot be encoded. -/
def unencodable (reason : String) : Fault :=
  .unencodable s!"encoding with 'idna' codec failed (UnicodeError: {reason})"

/-- The name as the system takes it. -/
def encode (prepare : Nameprep) (cs : List Char) : Except Fault (List Char) :=
  Except.mapError unencodable <|
    if isAscii cs then (checkLabels (Text.parts '.' cs)).map fun _ => cs
    else encodeLabels prepare cs

end Idna

end RdsReach
