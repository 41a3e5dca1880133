import ImageGate.Constraint.Comparator

/-!
# Reading requirements

A requirement is written as comparators with commas between them. Each is read off the front of its
own text, and the comma that separates it from the next one is visible to the reader, so that a
text which ends too early is told from one that is cut short by a comma.
-/

namespace ImageGate

open Version

def isWildcard (c : Char) : Bool :=
  c == '*' || c == 'x' || c == 'X'

namespace Comparator

/-- Read the operator; without one the comparator reads as a caret. -/
def readOperator : List Char → Option Comparison × List Char
  | '=' :: cs => (some .exact, cs)
  | '>' :: '=' :: cs => (some .greaterEq, cs)
  | '>' :: cs => (some .greater, cs)
  | '<' :: '=' :: cs => (some .lessEq, cs)
  | '<' :: cs => (some .less, cs)
  | '~' :: cs => (some .tilde, cs)
  | '^' :: cs => (some .caret, cs)
  | cs => (none, cs)

/-- A part of a version behind a dot. -/
inductive Part where
  | absent
  | wildcard
  | number (n : Nat)
deriving DecidableEq, Repr

def Part.number? : Part → Option Nat
  | .number n => some n
  | _ => none

/-- Read a dot with a number or a wildcard behind it. -/
def readPart (place : Place) : List Char → Except Fault (Part × List Char)
  | '.' :: c :: cs =>
    if isWildcard c then .ok (.wildcard, cs)
    else (readNumber place (c :: cs)).map fun (n, rest) => (.number n, rest)
  | ['.'] => .error (.ends place)
  | cs => .ok (.absent, cs)

/-- Read the patch part; behind a wildcard minor there can only be another wildcard. -/
def readPatch (minor : Part) (cs : List Char) : Except Fault (Part × List Char) :=
  match minor, cs with
  | .wildcard, '.' :: c :: cs => if isWildcard c then .ok (.wildcard, cs) else .error .afterWildcard
  | .wildcard, ['.'] => .error .afterWildcard
  | _, cs => readPart .patch cs

/-- The last part read, given which parts there were. -/
def lastPlace (minor patch : Part) (pre build : List Identifier) : Place :=
  if !build.isEmpty then .build
  else if !pre.isEmpty then .pre
  else if patch ≠ .absent then .patch
  else if minor ≠ .absent then .minor
  else .major

/-- Read one comparator: what it says, the last part it gave, and the rest of the text. A version
without an operator of its own, or with a wildcard, stands for agreement on the parts it gives. -/
def read (cs : List Char) : Except Fault (Comparator × Place × List Char) := do
  let (operator, cs) := readOperator cs
  let (major, cs) ← readNumber .major cs
  let (minor, cs) ← readPart .minor cs
  let (patch, cs) ← readPatch minor cs
  let full := patch.number?.isSome
  let (pre, cs) ← if full then readMarked '-' .pre cs else .ok ([], cs)
  let (build, cs) ← if full then readMarked '+' .build cs else .ok ([], cs)
  let default := if minor = .wildcard ∨ patch = .wildcard then Comparison.exact else .caret
  return ({ comparison := operator.getD default, major, minor := minor.number?,
            patch := patch.number?, pre }, lastPlace minor patch pre build, cs)

end Comparator

namespace Requirement

/-- A wildcard that stands where a comparator should is blamed for being there. -/
def blameWildcard (text : List Char) (fault : Fault) : Fault :=
  match text with
  | [c] => if isWildcard c then .wildcardNotAlone c else fault
  | [c, ','] => if isWildcard c then .wildcardNotAlone c else fault
  | _ => fault

/-- Read the comparators one by one, of which `room` may still come. -/
def readAll (room : Nat) : List (List Char) → Except Fault (List Comparator)
  | [] => .ok []
  | item :: items => do
    let text := if items.isEmpty then item else item ++ [',']
    let (c, place, rest) ← (Comparator.read text).mapError (blameWildcard text)
    match rest, items with
    | [], _ => return [c]
    | ',' :: _, _ :: _ =>
      if room ≤ 1 then throw .tooManyComparators
      return c :: (← readAll (room - 1) items)
    | d :: _, _ => throw (.expectedComma place d)

/-- Read the comparators of a requirement. A lone wildcard asks for nothing, and so does an empty
list. -/
def ofTexts : List (List Char) → Except Fault Requirement
  | [] => .ok ⟨[]⟩
  | [[c]] => if isWildcard c then .ok ⟨[]⟩ else (readAll sizeMax [[c]]).map (⟨·⟩)
  | (c :: cs) :: items =>
    if isWildcard c then
      .error (if cs.isEmpty then .wildcardNotAlone c else .afterWildcard)
    else (readAll sizeMax ((c :: cs) :: items)).map (⟨·⟩)
  | items => (readAll sizeMax items).map (⟨·⟩)

end Requirement

end ImageGate
