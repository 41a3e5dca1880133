import ImageGate.Text.Split
import ImageGate.Time.Instant

/-!
# Amounts for the eye

Sizes, ages and digests as people like to read them: rounded to one decimal place in the largest
unit that fits, counted in the largest whole unit, and cut to their first digits.
-/

namespace ImageGate.Display

open Text

/-! ## Sizes -/

/-- The quotient rounded to the nearest whole number; a half goes to the even neighbour. -/
def roundDiv (a b : Nat) : Nat :=
  let q := a / b
  let twice := 2 * (a % b)
  if b < twice ∨ (twice = b ∧ q % 2 = 1) then q + 1 else q

/-- The number rounded to its 53 leading binary digits. -/
def rounded (n : Nat) : Nat :=
  let excess := n.log2 + 1 - 53
  roundDiv n (Nat.pow 2 excess) * Nat.pow 2 excess

/-- The units above one byte, the largest first. -/
def units : List (String × Nat) :=
  [("GB", 1073741824), ("MB", 1048576), ("KB", 1024)]

def size (bytes : Nat) : String :=
  match units.find? fun u => u.2 ≤ bytes with
  | none => s!"{bytes} B"
  | some (name, unit) =>
    let tenths := roundDiv (10 * rounded bytes) unit
    s!"{tenths / 10}.{tenths % 10} {name}"

/-! ## Ages -/

/-- The leap second between two times of day: it counts if the earlier of the two lies in it,
whatever their days are. -/
def leapBetween (earlier later : Instant) : Int :=
  let timeOfDay (t : Instant) : Int := t.second % 86400
  if timeOfDay earlier < timeOfDay later ∧ 1000000000 ≤ earlier.nano then 1
  else if timeOfDay later < timeOfDay earlier ∧ 1000000000 ≤ later.nano then -1
  else 0

def nanosBetween (earlier later : Instant) : Int :=
  (later.second - earlier.second + leapBetween earlier later) * 1000000000 +
    (later.nano - earlier.nano)

/-- Whole seconds from one instant to another; a part of a second does not count, on either side. -/
def secondsBetween (earlier later : Instant) : Int :=
  Int.tdiv (nanosBetween earlier later) 1000000000

/-- An age in seconds. Months have thirty days and years 365. -/
def ageOfSeconds (seconds : Nat) : String :=
  let minutes := seconds / 60
  let hours := seconds / 3600
  let days := seconds / 86400
  if seconds < 60 then s!"{seconds} seconds ago"
  else if minutes < 60 then s!"{minutes} minutes ago"
  else if hours < 24 then s!"{hours} hours ago"
  else if days < 30 then s!"{days} days ago"
  else if days / 30 < 12 then s!"{days / 30} months ago"
  else s!"{days / 365} years ago"

/-- How long ago an instant was. -/
def age (now t : Instant) : String :=
  match secondsBetween t now with
  | .ofNat seconds => ageOfSeconds seconds
  | .negSucc _ => "just now"

/-! ## Digests -/

/-- Characters that are left of a digest. -/
def digestLength : Nat := 12

/-- A digest without the name in front, cut to its first digits. -/
def shortDigest (digest : String) : String :=
  let cs := afterLast '@' digest.toList
  if cs.isEmpty then "<none>"
  else
    match cutFirst? ':' cs with
    | some (kind, digits) => String.ofList (kind ++ ':' :: digits.take digestLength)
    | none => String.ofList (cs.take digestLength)

end ImageGate.Display
