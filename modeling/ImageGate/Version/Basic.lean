/-!
# Semantic versions

A version has three numbers, a pre-release and build metadata. Pre-releases come before the release
they lead to; among themselves they are ordered identifier by identifier, numbers by value and
before words, and the longer of two that agree comes last. Build metadata has no say.
-/

namespace ImageGate

/-- One identifier of a pre-release or of build metadata: ASCII letters, digits and `-`. -/
abbrev Identifier := List Char

structure Version where
  major : Nat
  minor : Nat
  patch : Nat
  /-- Pre-release identifiers; empty for a release. -/
  pre : List Identifier
  /-- Build metadata; empty when there is none. -/
  build : List Identifier
deriving DecidableEq, Repr, Inhabited

namespace Identifier

/-- Whether the identifier counts as a number. -/
def isNumeric (i : Identifier) : Bool :=
  i.all Char.isDigit

/-- Order by characters, position by position; the text that ends first comes first. -/
def compareChars : List Char → List Char → Ordering
  | [], [] => .eq
  | [], _ :: _ => .lt
  | _ :: _, [] => .gt
  | a :: as, b :: bs => (Ord.compare a.toNat b.toNat).then (compareChars as bs)

/-- Numbers come before words, numbers are ordered by value, words by their characters. A number
has no leading zero, so the one with fewer digits is the smaller. -/
def compare (a b : Identifier) : Ordering :=
  match a.isNumeric, b.isNumeric with
  | true, false => .lt
  | false, true => .gt
  | true, true => (Ord.compare a.length b.length).then (compareChars a b)
  | false, false => compareChars a b

end Identifier

namespace Version

/-- Order of two non-empty pre-releases. -/
def comparePreParts : List Identifier → List Identifier → Ordering
  | [], [] => .eq
  | [], _ :: _ => .lt
  | _ :: _, [] => .gt
  | a :: as, b :: bs => (Identifier.compare a b).then (comparePreParts as bs)

/-- Order of pre-releases; no pre-release comes last. -/
def comparePre (a b : List Identifier) : Ordering :=
  match a, b with
  | [], [] => .eq
  | [], _ :: _ => .gt
  | _ :: _, [] => .lt
  | a, b => comparePreParts a b

/-- Identifiers joined by dots. -/
def renderIdentifiers : List Identifier → List Char
  | [] => []
  | [i] => i
  | i :: is => i ++ '.' :: renderIdentifiers is

/-- The version as text: `major.minor.patch`, `-pre`, `+build`. -/
def render (v : Version) : String :=
  toString v.major ++ "." ++ toString v.minor ++ "." ++ toString v.patch ++
    (if v.pre.isEmpty then "" else "-" ++ String.ofList (renderIdentifiers v.pre)) ++
    (if v.build.isEmpty then "" else "+" ++ String.ofList (renderIdentifiers v.build))

end Version

end ImageGate
