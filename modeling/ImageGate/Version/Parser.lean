import ImageGate.Text.Digits
import ImageGate.Text.Split
import ImageGate.Version.Basic

/-!
# Reading versions

The pieces that versions and version comparators share, each read off the front of a text, and
the reading of image tags as versions. A fault says in which part of the version it lies.
-/

namespace ImageGate.Version

open Text

inductive Place where
  | major
  | minor
  | patch
  | pre
  | build
deriving DecidableEq, Repr

/-- Why a text is not a version, a comparator or a list of comparators. -/
inductive Fault where
  /-- The text ends where the part should begin. -/
  | ends (place : Place)
  /-- The part cannot begin with this character. -/
  | begins (place : Place) (c : Char)
  /-- A comma should follow the part. -/
  | expectedComma (place : Place) (c : Char)
  | leadingZero (place : Place)
  | overflow (place : Place)
  | emptyIdentifier (place : Place)
  /-- A lone wildcard stands next to other comparators. -/
  | wildcardNotAlone (c : Char)
  | afterWildcard
  | tooManyComparators
deriving DecidableEq, Repr

/-! ## Numbers -/

/-- Read a number: decimal digits without a leading zero, up to `wordMax`. -/
def readNumber (place : Place) (cs : List Char) : Except Fault (Nat × List Char) :=
  let digits := cs.takeWhile Char.isDigit
  let rest := cs.dropWhile Char.isDigit
  match digits, rest with
  | [], [] => .error (.ends place)
  | [], c :: _ => .error (.begins place c)
  | '0' :: _ :: _, _ => .error (.leadingZero place)
  | digits, rest =>
    let n := decimalValue digits
    if wordMax < n then .error (.overflow place) else .ok (n, rest)

/-! ## Identifiers -/

def isIdentifierChar (c : Char) : Bool :=
  c.isAlphanum || c == '-'

/-- An identifier is not empty, and in a pre-release a number has no leading zero. -/
def checkIdentifier (place : Place) (i : Identifier) : Except Fault Unit :=
  match i with
  | [] => .error (.emptyIdentifier place)
  | '0' :: _ :: _ =>
    if place = .pre && i.isNumeric then .error (.leadingZero place) else .ok ()
  | _ => .ok ()

/-- Read dot-separated identifiers, as far as their characters and dots go. -/
def readIdentifiers (place : Place) (cs : List Char) : Except Fault (List Identifier × List Char) :=
  let body := cs.takeWhile fun c => isIdentifierChar c || c == '.'
  let rest := cs.dropWhile fun c => isIdentifierChar c || c == '.'
  let ids := pieces (· == '.') body
  match ids.forM (checkIdentifier place) with
  | .error e => .error e
  | .ok () => .ok (ids, rest)

/-- Read identifiers behind `mark`; none if the text does not begin with `mark`. -/
def readMarked (mark : Char) (place : Place) :
    List Char → Except Fault (List Identifier × List Char)
  | c :: cs => if c = mark then readIdentifiers place cs else .ok ([], c :: cs)
  | [] => .ok ([], [])

/-! ## Tags -/

def dropV : List Char → List Char
  | 'v' :: cs => cs
  | cs => cs

/-- Read `.` and a number; absent if the text does not begin with a dot. -/
def readDotNumber (place : Place) : List Char → Except Fault (Option Nat × List Char)
  | '.' :: cs => (readNumber place cs).map fun (n, rest) => (some n, rest)
  | cs => .ok (none, cs)

/-- Read one to three numbers. -/
def readNumbers (cs : List Char) : Except Fault (Nat × Nat × Nat × List Char) := do
  let (major, cs) ← readNumber .major cs
  let (minor, cs) ← readDotNumber .minor cs
  match minor with
  | none => return (major, 0, 0, cs)
  | some minor =>
    let (patch, cs) ← readDotNumber .patch cs
    return (major, minor, patch.getD 0, cs)

/-- Read an image tag as a version. Tags are written leniently: one leading `v` is dropped, and
missing minor and patch numbers count as zero. -/
def ofTagChars (cs : List Char) : Option Version := do
  let (major, minor, patch, cs) ← (readNumbers (dropV cs)).toOption
  let (pre, cs) ← (readMarked '-' .pre cs).toOption
  let (build, cs) ← (readMarked '+' .build cs).toOption
  if cs.isEmpty then some { major, minor, patch, pre, build } else none

def ofTag (tag : String) : Option Version :=
  ofTagChars tag.toList

end ImageGate.Version
