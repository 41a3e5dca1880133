import ImageGate.Text.Split

/-!
# The grammar of image references

What the parts of a reference may look like. All classes are ASCII: a character outside ASCII
belongs to none of them, so no reference holds one.

* A **domain** is a host of dot-separated labels with an optional port.
* A **path component** is made of runs of lower-case letters and digits, joined by `.`, `_`, `__`
  or any number of `-`.
* A **tag** has 1 to 128 word characters, dots and dashes, and starts with a word character.
* A **digest** is `algorithm:hex` with at least 32 hexadecimal digits.
-/

namespace ImageGate.Reference

open Text

/-- Longest repository name, in bytes. -/
def nameMax : Nat := 255

/-- Longest tag, in bytes. -/
def tagMax : Nat := 128

/-- Fewest hexadecimal digits of a digest. -/
def digestHexMin : Nat := 32

/-! ## Domains -/

/-- A host label: ASCII letters, digits and `-`, with a letter or digit at both ends. -/
def isLabel (cs : List Char) : Bool :=
  cs.head?.any Char.isAlphanum && cs.getLast?.any Char.isAlphanum &&
    cs.all fun c => c.isAlphanum || c == '-'

/-- A host: labels joined by dots. -/
def isHost (cs : List Char) : Bool :=
  (pieces (· == '.') cs).all isLabel

/-- A port: decimal digits, at least one. -/
def isPort (cs : List Char) : Bool :=
  !cs.isEmpty && cs.all Char.isDigit

/-- A registry domain: a host, with an optional port behind a colon. -/
def isDomain (cs : List Char) : Bool :=
  match cutFirst? ':' cs with
  | some (host, port) => isHost host && isPort port
  | none => isHost cs

/-- Whether the first component of a name is read as a registry domain rather than as a part of
the path: it has a dot or a colon, or is `localhost`. -/
def looksLikeDomain (cs : List Char) : Bool :=
  cs.contains '.' || cs.contains ':' || cs == "localhost".toList

/-! ## Paths -/

/-- A lower-case ASCII letter or a digit. -/
def isNameChar (c : Char) : Bool :=
  c.isLower || c.isDigit

/-- What may stand between two name characters: nothing, `.`, `_`, `__`, or a run of `-`. -/
def isJoiner (cs : List Char) : Bool :=
  cs == ['.'] || cs == ['_'] || cs == ['_', '_'] || cs.all (· == '-')

/-- A path component: it starts and ends with a name character, and what stands between two
neighbouring name characters is a joiner. -/
def isPathComponent (cs : List Char) : Bool :=
  cs.head?.any isNameChar && cs.getLast?.any isNameChar && (pieces isNameChar cs).all isJoiner

/-- A repository path: components joined by `/`. -/
def isPath (cs : List Char) : Bool :=
  (pieces (· == '/') cs).all isPathComponent

/-! ## Tags and digests -/

/-- An ASCII letter, a digit or `_`. -/
def isWordChar (c : Char) : Bool :=
  c.isAlphanum || c == '_'

/-- A tag: 1 to `tagMax` word characters, dots and dashes, the first a word character. -/
def isTag (cs : List Char) : Bool :=
  cs.head?.any isWordChar && byteLength cs ≤ tagMax &&
    cs.all fun c => isWordChar c || c == '.' || c == '-'

/-- A part of a digest's algorithm: letters and digits, the first a letter. -/
def isAlgorithmPart (cs : List Char) : Bool :=
  cs.head?.any Char.isAlpha && cs.all Char.isAlphanum

/-- An ASCII hexadecimal digit of either case. -/
def isHexDigit (c : Char) : Bool :=
  c.isDigit || ('a' ≤ c && c ≤ 'f') || ('A' ≤ c && c ≤ 'F')

/-- What joins the parts of a digest's algorithm. -/
def isAlgorithmJoiner (c : Char) : Bool :=
  c == '-' || c == '_' || c == '+' || c == '.'

/-- A digest: an algorithm, a colon and at least `digestHexMin` hexadecimal digits. -/
def isDigest (cs : List Char) : Bool :=
  match cutFirst? ':' cs with
  | some (algorithm, hex) =>
    (pieces isAlgorithmJoiner algorithm).all isAlgorithmPart &&
      digestHexMin ≤ byteLength hex && hex.all isHexDigit
  | none => false

end ImageGate.Reference
