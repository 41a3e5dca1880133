import ImageGate.Text.Split
import ImageGate.Unicode.Width

/-!
# Tables for the eye

A table has no lines, only columns: every cell has a blank on either side and is filled up to the
width of its column. A cell may have several lines, and a row is as high as its highest cell.
-/

namespace ImageGate.Display

open Text Unicode

def cellLines (cell : String) : List (List Char) :=
  pieces (· == '\n') cell.toList

def cellWidth (cell : String) : Nat :=
  ((cellLines cell).map displayWidth).foldl max 0

def columnWidths (rows : List (List String)) : List Nat :=
  let count := (rows.map List.length).foldl max 0
  (List.range count).map fun i => (rows.map fun row => cellWidth (row.getD i "")).foldl max 0

/-- A line of a cell with its blanks. -/
def fillCell (width : Nat) (line : List Char) : List Char :=
  ' ' :: line ++ List.replicate (width - displayWidth line) ' ' ++ [' ']

def rowLines (widths : List Nat) (row : List String) : List (List Char) :=
  let cells := widths.mapIdx fun i width => (width, cellLines (row.getD i ""))
  let height := (cells.map fun c => c.2.length).foldl max 0
  (List.range height).map fun k => cells.flatMap fun c => fillCell c.1 (c.2.getD k [])

/-- A table with a row of headers. -/
def table (headers : List String) (rows : List (List String)) : String :=
  let all := headers :: rows
  let widths := columnWidths all
  String.ofList (joinWith ['\n'] (all.flatMap (rowLines widths)))

end ImageGate.Display
