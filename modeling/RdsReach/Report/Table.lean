/-!
# Tables

A table of text: a header and rows in columns as wide as their widest cell, with rules above and
below the header and at the end, each cell in the middle of its column.

What lays tables out is a `Renderer`, and `Renderer.plain` is the one that does it like that.
-/

namespace RdsReach

/-- How a table is laid out, from its header and its rows, or why that fails. -/
abbrev Renderer := List String → List (List String) → Except String String

namespace Table

/-- Puts a text in the middle of `width` places. Where the space around it is uneven, the larger
half goes after a text of odd length and before one of even length. -/
def centred (width : Nat) (text : String) : String :=
  let excess := width - text.length
  let before := if text.length % 2 = 0 then (excess + 1) / 2 else excess / 2
  "".pushn ' ' before ++ text ++ "".pushn ' ' (excess - before)

/-- The width of each column. -/
def widths (header : List String) (rows : List (List String)) : List Nat :=
  rows.foldl (fun widths row => widths.zipWith (fun w cell => max w cell.length) row)
    (header.map String.length)

/-- A rule across the table. -/
def rule (widths : List Nat) : String :=
  widths.foldl (fun line w => line ++ "".pushn '-' (w + 2) ++ "+") "+"

/-- A row of the table. -/
def row (widths : List Nat) (cells : List String) : String :=
  (widths.zip cells).foldl (fun line (w, cell) => line ++ " " ++ centred w cell ++ " |") "|"

/-- The lines of a table. -/
def lines (header : List String) (rows : List (List String)) : List String :=
  let widths := widths header rows
  [rule widths, row widths header, rule widths] ++ rows.map (row widths) ++
    [rule widths]

/-- The text of a table. -/
def text (header : List String) (rows : List (List String)) : String :=
  "\n".intercalate (lines header rows)

end Table

/-- Lays every table out. -/
def Renderer.plain : Renderer := fun header rows => .ok (Table.text header rows)

end RdsReach
