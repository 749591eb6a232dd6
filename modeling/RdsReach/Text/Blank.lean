/-!
# Blanks

The characters that are trimmed off the two ends of a numeral: the ASCII blanks, the four
information separators, the next-line control and the Unicode separators. Zero-width characters
are not among them.
-/

namespace RdsReach.Text

/-- Is this a blank, which trimming removes? -/
def isBlank (c : Char) : Bool :=
  let n := c.toNat
  (0x09 ≤ n && n ≤ 0x0d) || (0x1c ≤ n && n ≤ 0x20) || n == 0x85 || n == 0xa0 || n == 0x1680 ||
    (0x2000 ≤ n && n ≤ 0x200a) || n == 0x2028 || n == 0x2029 || n == 0x202f || n == 0x205f ||
    n == 0x3000

/-- The text without the blanks at its two ends. -/
def trim (cs : List Char) : List Char :=
  ((cs.dropWhile isBlank).reverse.dropWhile isBlank).reverse

end RdsReach.Text
