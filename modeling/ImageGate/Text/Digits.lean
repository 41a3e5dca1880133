/-!
# Digits

Numbers as runs of digits, and the largest numbers that fit into words of 64 bits.
-/

namespace ImageGate

/-- The largest number of 64 bits. -/
def wordMax : Nat := 18446744073709551615

/-- The largest number of 64 bits of which one is the sign. -/
def signedMax : Nat := 9223372036854775807

namespace Text

def decimalValue (cs : List Char) : Nat :=
  cs.foldl (fun n c => 10 * n + (c.toNat - '0'.toNat)) 0

/-- The value of a digit; letters of either case go on behind nine. -/
def digitValue? (c : Char) : Option Nat :=
  if c.isDigit then some (c.toNat - '0'.toNat)
  else if 'a' ≤ c ∧ c ≤ 'z' then some (c.toNat - 'a'.toNat + 10)
  else if 'A' ≤ c ∧ c ≤ 'Z' then some (c.toNat - 'A'.toNat + 10)
  else none

/-- The value of digits to a base, `none` where a character is no such digit. -/
def valueIn? (base : Nat) (cs : List Char) : Option Nat :=
  cs.foldlM (fun n c => (digitValue? c).bind fun d =>
    if d < base then some (base * n + d) else none) 0

def hexDigits (n : Nat) : List Char :=
  Nat.toDigits 16 n

/-- A number in at least `width` decimal digits. -/
def padded (width n : Nat) : List Char :=
  let digits := Nat.toDigits 10 n
  List.replicate (width - digits.length) '0' ++ digits

end Text

end ImageGate
