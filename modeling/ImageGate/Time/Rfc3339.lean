import ImageGate.Time.Instant
import ImageGate.Text.Digits
import ImageGate.Text.Split
import ImageGate.Text.Blank

/-!
# Time stamps and dates as text

Instants are written and read as time stamps `YYYY-MM-DDTHH:MM:SS`, with an optional fraction and
an offset. A second numbered 60 is a leap second. Dates are read more leniently: white space may
stand before each number, months and days may have one digit, and years may carry a sign and then
any number of digits.
-/

namespace ImageGate

open Text

/-! ## Numbers -/

namespace Digits

/-- Read at least one and at most `most` digits. -/
def readUpTo (most : Nat) (cs : List Char) : Option (Nat × List Char) :=
  let digits := (cs.take most).takeWhile Char.isDigit
  if digits.isEmpty then none else some (decimalValue digits, cs.drop digits.length)

/-- Read exactly `count` digits. -/
def readExactly (count : Nat) (cs : List Char) : Option (Nat × List Char) :=
  let digits := (cs.take count).takeWhile Char.isDigit
  if digits.length = count then some (decimalValue digits, cs.drop count) else none

end Digits

open Digits

def expect (c : Char) : List Char → Option (List Char)
  | d :: cs => if d = c then some cs else none
  | [] => none

/-! ## Reading time stamps -/

namespace Instant

/-- Read a fraction of a second in nanoseconds; digits behind the ninth do not count. -/
def readFraction : List Char → Option (Nat × List Char)
  | '.' :: cs =>
    let digits := (cs.take 9).takeWhile Char.isDigit
    if digits.isEmpty then none
    else
      let rest := cs.drop digits.length
      some (decimalValue digits * Nat.pow 10 (9 - digits.length),
        if digits.length = 9 then rest.dropWhile Char.isDigit else rest)
  | cs => some (0, cs)

/-- Read an offset from universal time in seconds: `Z`, or a sign with hours and minutes. -/
def readOffset : List Char → Option (Int × List Char)
  | 'Z' :: cs | 'z' :: cs => some (0, cs)
  | sign :: cs => do
    let negative ← if sign == '+' then some false
      else if sign == '-' || sign == '−' then some true else none
    let (hours, cs) ← readExactly 2 cs
    let cs ← expect ':' cs
    let (minutes, cs) ← readExactly 2 cs
    guard (hours ≤ 23 && minutes ≤ 59)
    let seconds : Int := (hours * 3600 + minutes * 60 : Nat)
    some (if negative then -seconds else seconds, cs)
  | [] => none

def ofStamp (cs : List Char) : Option Instant := do
  let (year, cs) ← readExactly 4 cs
  let (month, cs) ← readExactly 2 (← expect '-' cs)
  let (day, cs) ← readExactly 2 (← expect '-' cs)
  let c :: cs := cs | none
  guard (c == 'T' || c == 't' || c == ' ')
  let (hour, cs) ← readExactly 2 cs
  let (minute, cs) ← readExactly 2 (← expect ':' cs)
  let (second, cs) ← readExactly 2 (← expect ':' cs)
  let (nano, cs) ← readFraction cs
  let (offset, cs) ← readOffset cs
  guard cs.isEmpty
  let date : Date := { year, month, day }
  guard (date.isValid && hour ≤ 23 && minute ≤ 59 && second ≤ 60)
  let leap := second == 60
  let ofDay := hour * 3600 + minute * 60 + if leap then 59 else second
  some ⟨date.toDays * 86400 + ofDay - offset, if leap then nano + 1000000000 else nano⟩

end Instant

/-! ## Reading dates -/

namespace Date

/-- Read a year: up to four digits, or a sign and any number of digits. -/
def readYear : List Char → Option (Int × List Char)
  | '-' :: cs => (readUpTo cs.length cs).map fun (n, rest) => (-(n : Int), rest)
  | '+' :: cs => (readUpTo cs.length cs).map fun (n, rest) => ((n : Int), rest)
  | cs => (readUpTo 4 cs).map fun (n, rest) => ((n : Int), rest)

/-- Read a month or a day: one or two digits. -/
def readShort (cs : List Char) : Option (Nat × List Char) :=
  readUpTo 2 (cs.dropWhile isBlank)

/-- Read a date `YYYY-MM-DD`. -/
def ofText (cs : List Char) : Option Date := do
  let (year, cs) ← readYear (cs.dropWhile isBlank)
  let (month, cs) ← readShort (← expect '-' cs)
  let (day, cs) ← readShort (← expect '-' cs)
  guard cs.isEmpty
  let date : Date := { year, month, day }
  guard date.isValid
  some date

end Date

namespace Instant

/-- The beginning of a date. -/
def ofDate (d : Date) : Instant :=
  ⟨d.toDays * 86400, 0⟩

/-- Read a time stamp or a date, with white space around it. -/
def ofText (s : String) : Option Instant :=
  let cs := trimBoth isBlank s.toList
  (ofStamp cs).orElse fun _ => (Date.ofText cs).map ofDate

/-! ## Writing -/

/-- Write a year: four digits, or a sign and at least four if it has more or is negative. -/
def renderYear (year : Int) : List Char :=
  if 0 ≤ year ∧ year ≤ 9999 then padded 4 year.toNat
  else (if year < 0 then '-' else '+') :: padded 4 year.natAbs

/-- Write a fraction of a second with 0, 3, 6 or 9 digits, the fewest that lose nothing. -/
def renderFraction (nano : Nat) : List Char :=
  if nano = 0 then []
  else if nano % 1000000 = 0 then '.' :: padded 3 (nano / 1000000)
  else if nano % 1000 = 0 then '.' :: padded 6 (nano / 1000)
  else '.' :: padded 9 nano

/-- Write the instant in universal time, without an offset. -/
def renderStamp (t : Instant) : List Char :=
  let date := Date.ofDays (t.second / 86400)
  let ofDay := (t.second % 86400).toNat
  renderYear date.year ++ '-' :: padded 2 date.month ++ '-' :: padded 2 date.day ++
    'T' :: padded 2 (ofDay / 3600) ++ ':' :: padded 2 (ofDay / 60 % 60) ++
    ':' :: padded 2 (ofDay % 60 + t.nano / 1000000000) ++ renderFraction (t.nano % 1000000000)

/-- Write the instant as a time stamp that ends in `Z`. -/
def render (t : Instant) : String :=
  String.ofList (t.renderStamp ++ ['Z'])

/-- Write the instant as a time stamp with the offset `+00:00`. -/
def renderWithOffset (t : Instant) : String :=
  String.ofList (t.renderStamp ++ "+00:00".toList)

end Instant

end ImageGate
