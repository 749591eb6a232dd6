import RdsReach.Address.V4

/-!
# IPv6 addresses

Eight groups of 16 bits. They are written in lower-case hexadecimal without leading zeros, with
colons between them and the longest run of at least two zero groups (the first of several equally
long ones) as `::`; the dotted form of the last two groups is read but never written.
-/

namespace RdsReach.Address

/-- An IPv6 address, without scope. -/
structure V6 where
  groups : List UInt16
  length_groups : groups.length = 8
deriving DecidableEq, Repr

namespace V6

/-- The address of eight groups. -/
def ofGroups? (groups : List UInt16) : Option V6 :=
  if h : groups.length = 8 then some ⟨groups, h⟩ else none

/-! ## Writing -/

/-- The hexadecimal text of a group. -/
def groupText (g : UInt16) : List Char := Nat.toDigits 16 g.toNat

/-- The number of zero groups from the position `i` on. -/
def zerosFrom (groups : List UInt16) (i : Nat) : Nat :=
  ((groups.drop i).takeWhile (· = 0)).length

/-- Position and length of the longest run of zero groups, the first of equally long ones. -/
def longestZeros (groups : List UInt16) : Nat × Nat :=
  (List.range groups.length).foldl
    (fun best i =>
      let n := zerosFrom groups i
      if best.2 < n then (i, n) else best)
    (0, 0)

/-- Groups with colons between them. -/
def joined (groups : List UInt16) : List Char :=
  List.intercalate [':'] (groups.map groupText)

/-- The text of an address. -/
def text (x : V6) : String :=
  let (start, count) := longestZeros x.groups
  String.ofList <|
    if count < 2 then joined x.groups
    else joined (x.groups.take start) ++ [':', ':'] ++ joined (x.groups.drop (start + count))

/-! ## Reading -/

/-- Reads a group of one to four hexadecimal digits. -/
def readGroup? (cs : List Char) : Option UInt16 :=
  if cs.isEmpty || 4 < cs.length || !cs.all Numeral.isHexDigit then none
  else some (UInt16.ofNat (Numeral.ofDigits 16 cs))

/-- The two groups of a dotted part. -/
def groupsOfV4 (x : V4) : List UInt16 :=
  [UInt16.ofNat (x.a.toNat * 256 + x.b.toNat), UInt16.ofNat (x.c.toNat * 256 + x.d.toNat)]

/-- Reads the parts at the end of an address, the last of which may be dotted. -/
def readTail? : List (List Char) → Option (List UInt16)
  | [] => some []
  | [last] =>
    if last.contains '.' then (V4.read? last).map groupsOfV4
    else (readGroup? last).map ([·])
  | p :: ps => do return (← readGroup? p) :: (← readTail? ps)

/-- The parts before and after the first empty part that is not the last one. -/
def splitGap? : List (List Char) → Option (List (List Char) × List (List Char))
  | p :: q :: ps =>
    if p.isEmpty then some ([], q :: ps)
    else (splitGap? (q :: ps)).map fun (before, after) => (p :: before, after)
  | _ => none

/-- Reads the parts on one side of `::`, which are a single empty one if nothing stands there. -/
def readSide? (read? : List (List Char) → Option (List UInt16)) (ps : List (List Char)) :
    Option (List UInt16) :=
  if ps = [[]] then some [] else read? ps

/-- Eight groups from those around a `::`, which stands for one zero group at least. -/
def fillGap? (before after : List UInt16) : Option V6 :=
  let known := before.length + after.length
  if 8 ≤ known then none
  else ofGroups? (before ++ List.replicate (8 - known) 0 ++ after)

/-- Reads an address. -/
def read? (cs : List Char) : Option V6 :=
  match Text.parts ':' cs with
  | [] => none
  | first :: rest =>
    match splitGap? rest with
    | none => do ofGroups? (← readTail? (first :: rest))
    | some (before, after) => do
      fillGap? (← readSide? (·.mapM readGroup?) (first :: before)) (← readSide? readTail? after)

end V6

end RdsReach.Address
