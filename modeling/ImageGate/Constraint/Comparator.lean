import ImageGate.Version.Parser

/-!
# Version comparators

A comparator is an operator with a version of which trailing parts may be absent. A requirement is
a list of comparators, all of which must hold. Pre-releases are admitted with care: a version with
a pre-release satisfies a requirement only if some comparator names the same three numbers and a
pre-release too.
-/

namespace ImageGate

/-- What a comparator asks of a version. -/
inductive Comparison where
  /-- Agrees on every part that is given. -/
  | exact
  | greater
  | greaterEq
  | less
  | lessEq
  /-- At least the given version, with the same leading parts. -/
  | tilde
  /-- At least the given version, with the same leftmost non-zero part. -/
  | caret
deriving DecidableEq, Repr

/-- An operator and a version with optional trailing parts. -/
structure Comparator where
  comparison : Comparison
  major : Nat
  minor : Option Nat
  patch : Option Nat
  /-- Pre-release identifiers, given only behind a patch number. -/
  pre : List Identifier
deriving DecidableEq, Repr

namespace Comparator

/-! ## Meaning -/

/-- The version agrees with every part that the comparator gives, and with its pre-release. -/
def agrees (c : Comparator) (v : Version) : Bool :=
  v.major == c.major && c.minor.all (v.minor == ·) && c.patch.all (v.patch == ·) &&
    v.pre == c.pre

/-- The version lies strictly on the side `side` of the comparator. The first given part that
differs decides; a version that agrees on all given parts lies on no side when a part is absent. -/
def beyond (side : Ordering) (c : Comparator) (v : Version) : Bool :=
  if v.major ≠ c.major then compare v.major c.major == side
  else
    match c.minor, c.patch with
    | none, _ => false
    | some minor, patch =>
      if v.minor ≠ minor then compare v.minor minor == side
      else
        match patch with
        | none => false
        | some patch =>
          if v.patch ≠ patch then compare v.patch patch == side
          else Version.comparePre v.pre c.pre == side

/-- At least the comparator's version in the first part after those that have to agree. -/
def holdsTilde (c : Comparator) (v : Version) : Bool :=
  v.major == c.major && c.minor.all (v.minor == ·) &&
    match c.patch with
    | some patch =>
      if v.patch ≠ patch then decide (patch < v.patch)
      else (Version.comparePre v.pre c.pre).isGE
    | none => (Version.comparePre v.pre c.pre).isGE

/-- As `holdsTilde`, where the parts that have to agree reach to the leftmost non-zero one. -/
def holdsCaret (c : Comparator) (v : Version) : Bool :=
  v.major == c.major &&
    match c.minor, c.patch with
    | none, _ => true
    | some minor, none =>
      if 0 < c.major then decide (minor ≤ v.minor) else v.minor == minor
    | some minor, some patch =>
      let pre := (Version.comparePre v.pre c.pre).isGE
      if 0 < c.major then
        if v.minor ≠ minor then decide (minor < v.minor)
        else if v.patch ≠ patch then decide (patch < v.patch)
        else pre
      else if 0 < minor then
        v.minor == minor && if v.patch ≠ patch then decide (patch < v.patch) else pre
      else v.minor == minor && v.patch == patch && pre

/-- Whether the version satisfies the comparator, pre-releases taken at face value. -/
def holds (c : Comparator) (v : Version) : Bool :=
  match c.comparison with
  | .exact => c.agrees v
  | .greater => c.beyond .gt v
  | .greaterEq => c.agrees v || c.beyond .gt v
  | .less => c.beyond .lt v
  | .lessEq => c.agrees v || c.beyond .lt v
  | .tilde => c.holdsTilde v
  | .caret => c.holdsCaret v

/-- The comparator names the version's three numbers together with a pre-release. -/
def namesPreOf (c : Comparator) (v : Version) : Bool :=
  c.major == v.major && c.minor == some v.minor && c.patch == some v.patch && !c.pre.isEmpty

end Comparator

/-! ## Requirements -/

/-- Comparators that must all hold; an empty requirement holds of every release. -/
structure Requirement where
  comparators : List Comparator
deriving DecidableEq, Repr

namespace Requirement

/-- Most comparators that a requirement may have. -/
def sizeMax : Nat := 32

/-- Every comparator holds, and a pre-release is named by one of them. -/
def admits (r : Requirement) (v : Version) : Bool :=
  r.comparators.all (·.holds v) && (v.pre.isEmpty || r.comparators.any (·.namesPreOf v))

end Requirement

end ImageGate
