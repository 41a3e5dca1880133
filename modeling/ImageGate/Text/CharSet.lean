/-!
# Sets of characters

A set of characters is kept as ranges of code points, in ascending order and with a gap between any
two of them. The order lets a look-up stop early, and makes two sets with the same members equal.
-/

namespace ImageGate

/-- A set of characters: inclusive ranges of code points, ascending and apart. -/
structure CharSet where
  ranges : List (Nat × Nat)
deriving DecidableEq, Repr, Inhabited

namespace CharSet

def codeMax : Nat := 0x10FFFF

/-- Whether a code point is in one of the ascending ranges. -/
def coversCode (n : Nat) : List (Nat × Nat) → Bool
  | [] => false
  | (lo, hi) :: more => if n < lo then false else n ≤ hi || coversCode n more

def contains (s : CharSet) (c : Char) : Bool :=
  coversCode c.toNat s.ranges

def empty : CharSet := ⟨[]⟩

def full : CharSet := ⟨[(0, codeMax)]⟩

/-! ## Building sets -/

/-- Merge ascending ranges that overlap or touch. -/
def mergeInto (lo hi : Nat) : List (Nat × Nat) → List (Nat × Nat)
  | [] => [(lo, hi)]
  | (lo', hi') :: more =>
    if lo' ≤ hi + 1 then mergeInto lo (max hi hi') more
    else (lo, hi) :: mergeInto lo' hi' more

/-- The set that the ranges cover, in any order; a range that ends before it begins is empty. -/
def ofRanges (ranges : List (Nat × Nat)) : CharSet :=
  match (ranges.filter fun (lo, hi) => lo ≤ hi).mergeSort fun a b => a.1 ≤ b.1 with
  | [] => empty
  | (lo, hi) :: more => ⟨mergeInto lo hi more⟩

def range (lo hi : Char) : CharSet :=
  ofRanges [(lo.toNat, hi.toNat)]

def singleton (c : Char) : CharSet :=
  range c c

def ofList (cs : List Char) : CharSet :=
  ofRanges (cs.map fun c => (c.toNat, c.toNat))

/-! ## Set operations -/

def union (a b : CharSet) : CharSet :=
  ofRanges (a.ranges ++ b.ranges)

/-- The gaps between ascending ranges, from code point `next` on. -/
def gaps (next : Nat) : List (Nat × Nat) → List (Nat × Nat)
  | [] => if next ≤ codeMax then [(next, codeMax)] else []
  | (lo, hi) :: more =>
    if next < lo then (next, lo - 1) :: gaps (hi + 1) more else gaps (hi + 1) more

def compl (a : CharSet) : CharSet :=
  ⟨gaps 0 a.ranges⟩

def inter (a b : CharSet) : CharSet :=
  (a.compl.union b.compl).compl

def diff (a b : CharSet) : CharSet :=
  a.inter b.compl

/-- The characters that are in exactly one of the two sets. -/
def symmDiff (a b : CharSet) : CharSet :=
  (a.diff b).union (b.diff a)

def isAscii (a : CharSet) : Bool :=
  a.ranges.all fun (_, hi) => hi < 0x80

end CharSet

end ImageGate
