import ImageGate.Text.CharSet

/-!
# Tables of characters

A property of characters is tabulated as the ranges of the characters that have it. In the lines of
a table each range is written `gap` or `gap+more` in hexadecimal: its first character lies `gap`
code points behind the end of the range before, and `more` further characters follow it.
-/

namespace ImageGate.Unicode

/-- The value of a hexadecimal digit in upper case. -/
def hexValue (c : Char) : Nat :=
  if c.isDigit then c.toNat - '0'.toNat else c.toNat - 'A'.toNat + 10

/-- What has been read of a table: the code point behind the last range, the ranges in reverse, the
gap of the range being read if its `+` has been passed, and the digits since. -/
structure Cursor where
  next : Nat
  ranges : List (Nat × Nat)
  gap : Option Nat
  number : Nat

/-- End the range that is being read. -/
def Cursor.close (k : Cursor) : Cursor :=
  let lo := k.next + k.gap.getD k.number
  let hi := lo + if k.gap.isSome then k.number else 0
  { next := hi + 1, ranges := (lo, hi) :: k.ranges, gap := none, number := 0 }

/-- Read one character of a table. -/
def Cursor.step (k : Cursor) (c : Char) : Cursor :=
  if c == ' ' then k.close
  else if c == '+' then { k with gap := some k.number, number := 0 }
  else { k with number := 16 * k.number + hexValue c }

/-- Read a line of a table; every line ends a range. -/
def Cursor.line (k : Cursor) (line : String) : Cursor :=
  (line.foldl Cursor.step k).close

/-- The set of characters that a table describes. -/
def table (lines : List String) : CharSet :=
  ⟨(lines.foldl Cursor.line ⟨0, [], none, 0⟩).ranges.reverse⟩

end ImageGate.Unicode
