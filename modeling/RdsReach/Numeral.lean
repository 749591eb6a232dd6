import RdsReach.Numeral.Decimal
import RdsReach.Numeral.Digits
import RdsReach.Text.Blank
import RdsReach.Text.Quoted

/-!
# Numerals of the command line

A numeral is a natural number in base 10, 8 (after a `0`) or 16 (after `0x`), with an optional
suffix `k`, `m` or `g` that multiplies by a power of 1024, and blanks around it. Signs, digits of
other scripts and blanks inside are refused.

* `Numeral.read` reads a numeral or says why the text is none;
* `Numeral.Misread.message` words the reasons.
-/

namespace RdsReach.Numeral

/-! ## The suffix -/

/-- The power of two that a suffix multiplies by. -/
def suffixShift? (c : Char) : Option Nat :=
  if c = 'k' || c = 'K' then some 10
  else if c = 'm' || c = 'M' then some 20
  else if c = 'g' || c = 'G' then some 30
  else none

/-- The text before its suffix, and the power of two of the suffix (0 where there is none). -/
def splitSuffix (cs : List Char) : List Char × Nat :=
  match cs.getLast?.bind suffixShift? with
  | some shift => (cs.dropLast, shift)
  | none => (cs, 0)

/-! ## Reading -/

/-- Why a text is no numeral. -/
inductive Misread where
  /-- The text has not the form of a numeral. -/
  | notANumber (text : String)
  /-- The digits after a leading `0` are not all octal. -/
  | notOctal (digits : String)
  /-- A decimal numeral of too many digits. -/
  | overlong (digits : Nat)
deriving DecidableEq, Repr

/-- The value of the digits of a numeral, in the base that they announce themselves. -/
def readDigits (text : String) (cs : List Char) : Except Misread Nat :=
  match cs with
  | '0' :: x :: digits =>
    if x = 'x' || x = 'X' then
      if digits.isEmpty || !digits.all isHexDigit then .error (.notANumber text)
      else .ok (ofDigits 16 digits)
    else if !cs.all Char.isDigit then .error (.notANumber text)
    else if !cs.all isOctalDigit then .error (.notOctal (String.ofList cs))
    else .ok (ofDigits 8 cs)
  | _ =>
    if cs.isEmpty || !cs.all Char.isDigit then .error (.notANumber text)
    else if Decimal.maxDigits < cs.length then .error (.overlong cs.length)
    else .ok (ofDigits 10 cs)

/-- Reads a numeral. -/
def read (text : String) : Except Misread Nat :=
  let (digits, shift) := splitSuffix (Text.trim text.toList)
  (readDigits text digits).map (· * Nat.pow 2 shift)

/-- What is said about a text that is no numeral; of wrong octal digits only a beginning is
shown. -/
def Misread.message : Misread → String
  | .notANumber text => "Not a number: " ++ Text.quoted text
  | .notOctal digits =>
    "invalid literal for int() with base 8: " ++
      String.ofList ((Text.quoted digits).toList.take 200)
  | .overlong digits => Decimal.overlongNumeral digits

end RdsReach.Numeral
