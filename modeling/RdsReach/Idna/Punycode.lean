/-!
# Punycode

A text beyond ASCII in ASCII: its ASCII characters come first, and then numbers that say where the
others stand. The others are taken in the order of their codes, and each number is the gap between
one of them and the next, counted over all pairs of a code and a place. Numbers are written in
base 36, the least digit first, and how long their digits go on is adapted to the gaps before.
-/

namespace RdsReach.Punycode

/-- The digits of the base, which are letters before they are decimal digits. -/
def digit (d : Nat) : Char := if d < 26 then Char.ofNat (0x61 + d) else Char.ofNat (0x16 + d)

/-- A digit below the threshold of its position ends a number. -/
def threshold (bias position : Nat) : Nat := max 1 (min 26 (position - bias))

theorem threshold_bounds (bias position : Nat) :
    1 ≤ threshold bias position ∧ threshold bias position ≤ 26 := by
  unfold threshold
  omega

/-- Writes a number from the digit at a position on. -/
def writeNumber (bias position n : Nat) : List Char :=
  let t := threshold bias position
  if n < t then [digit n]
  else digit (t + (n - t) % (36 - t)) :: writeNumber bias (position + 36) ((n - t) / (36 - t))
termination_by n
decreasing_by
  have ht := threshold_bounds bias position
  have hle := Nat.div_le_self (n - threshold bias position) (36 - threshold bias position)
  omega

/-- Divides a gap until it is small, and counts how often in steps of a digit. -/
def reduce (gap steps : Nat) : Nat × Nat :=
  if gap ≤ 455 then (gap, steps) else reduce (gap / 35) (steps + 36)
termination_by gap
decreasing_by omega

/-- The bias after a gap, which stands for the `place`-th character. -/
def adapt (gap place : Nat) (first : Bool) : Nat :=
  let scaled := if first then gap / 700 else gap / 2
  let (gap, steps) := reduce (scaled + scaled / place) 0
  steps + 36 * gap / (gap + 38)

/-- The gaps that end at a character of the code `code`, and the one that is left behind them. -/
def gapsAt (code : Nat) : (gap : Nat) → List Char → List Nat × Nat
  | gap, [] => ([], gap)
  | gap, c :: cs =>
    if c.toNat = code then
      let (gaps, left) := gapsAt code 0 cs
      (gap :: gaps, left)
    else gapsAt code (if c.toNat < code then gap + 1 else gap) cs

/-- The gaps between the characters of the codes, which ascend. All codes below `passed` were passed
with the gap `gap` left. -/
def gaps (cs : List Char) : (passed gap : Nat) → (codes : List Nat) → List Nat
  | _, _, [] => []
  | passed, gap, code :: codes =>
    let places := cs.countP (·.toNat < code) + 1
    let (found, left) := gapsAt code (gap + (code - passed) * places) cs
    found ++ gaps cs (code + 1) (left + 1) codes

/-- Writes gaps after `written` characters. -/
def writeGaps : (bias written : Nat) → (first : Bool) → List Nat → List Char
  | _, _, _, [] => []
  | bias, written, first, gap :: gaps =>
    writeNumber bias 36 gap ++ writeGaps (adapt gap (written + 1) first) (written + 1) false gaps

/-- The text in ASCII. -/
def encode (cs : List Char) : List Char :=
  let (basic, others) := cs.partition (·.toNat < 128)
  let codes := ((others.map Char.toNat).mergeSort).eraseDups
  let mark := if basic.isEmpty then [] else ['-']
  basic ++ mark ++ writeGaps 72 basic.length true (gaps cs 128 0 codes)

end RdsReach.Punycode
