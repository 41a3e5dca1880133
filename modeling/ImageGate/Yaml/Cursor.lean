/-!
# Positions in a YAML text

A cursor is the text ahead with the line and column it begins at. Lines end at a carriage return, a
line feed, both together, or one of three Unicode line ends. Only printable characters and tabs may
stand in a YAML text.
-/

namespace ImageGate.Yaml

/-- Why a text is not YAML. -/
inductive Fault where
  | unprintable
  | expectedColon
  | notAllowedHere
  | unexpectedCharacter
  | badDirective
  | badAnchor
  | badTag
  | badBlockHeader
  | badIndentation
  | badEscape
  | unclosedQuote
  | unexpectedColon
  | unexpectedToken
  | unknownAnchor
  | moreDocuments
deriving DecidableEq, Repr

def Fault.message : Fault → String
  | .unprintable => "control characters are not allowed"
  | .expectedColon => "could not find expected ':'"
  | .notAllowedHere => "an entry or a key is not allowed in this context"
  | .unexpectedCharacter => "found character that cannot start any token"
  | .badDirective => "invalid directive"
  | .badAnchor => "did not find expected alphabetic or numeric character"
  | .badTag => "invalid tag"
  | .badBlockHeader => "invalid block scalar header"
  | .badIndentation => "found a tab character that violates indentation"
  | .badEscape => "invalid escape sequence"
  | .unclosedQuote => "found unexpected end of quoted text"
  | .unexpectedColon => "found unexpected ':'"
  | .unexpectedToken => "did not find expected node content"
  | .unknownAnchor => "unknown anchor"
  | .moreDocuments => "expected a single document"

/-! ## Characters -/

/-- A character that may stand in a YAML text. -/
def isPrintable (c : Char) : Bool :=
  let n := c.toNat
  n == 0x09 || n == 0x0A || n == 0x0D || (0x20 ≤ n && n ≤ 0x7E) || n == 0x85 ||
    (0xA0 ≤ n && n ≤ 0xD7FF) || (0xE000 ≤ n && n ≤ 0xFFFD) || (0x10000 ≤ n && n ≤ 0x10FFFF)

def isBreak (c : Char) : Bool :=
  c == '\r' || c == '\n' || c == '\u0085' || c == '\u2028' || c == '\u2029'

def isSpace (c : Char) : Bool :=
  c == ' ' || c == '\t'

/-- A character of an anchor or of a tag handle. -/
def isNameChar (c : Char) : Bool :=
  c.isAlphanum || c == '_' || c == '-'

/-- Whether the text begins with a space, a tab or a line end, or is empty. -/
def startsBlank (cs : List Char) : Bool :=
  match cs with
  | [] => true
  | c :: _ => isSpace c || isBreak c

/-! ## Cursors -/

/-- A position in a text. -/
structure Cursor where
  rest : List Char
  line : Nat := 0
  column : Nat := 0
  /-- Characters behind. -/
  index : Nat := 0

namespace Cursor

/-- Pass `n` characters of a line. -/
def skip (k : Cursor) (n : Nat) : Cursor :=
  { k with rest := k.rest.drop n, column := k.column + n, index := k.index + n }

/-- Pass a line end, and give what it counts as in a text. -/
def readBreak (k : Cursor) : List Char × Cursor :=
  let next (rest : List Char) (n : Nat) : Cursor :=
    { rest, line := k.line + 1, column := 0, index := k.index + n }
  match k.rest with
  | '\r' :: '\n' :: cs => (['\n'], next cs 2)
  | c :: cs =>
    if c == '\u2028' || c == '\u2029' then ([c], next cs 1)
    else if isBreak c then (['\n'], next cs 1)
    else ([], k)
  | [] => ([], k)

/-- Pass the characters of a line that satisfy `p`. -/
def span (k : Cursor) (p : Char → Bool) : List Char × Cursor :=
  let cs := k.rest.takeWhile fun c => p c && !isBreak c
  (cs, k.skip cs.length)

/-- Pass the rest of the line. -/
def skipLine (k : Cursor) : Cursor :=
  (k.span fun _ => true).2

/-- The cursor stands at a line end. -/
def atBreak (k : Cursor) : Bool :=
  k.rest.head?.any isBreak

/-- The cursor stands at a line end or at the end of the text. -/
def atLineEnd (k : Cursor) : Bool :=
  k.rest.isEmpty || k.atBreak

/-- A line begins here with `---` or `...`, alone or before a blank. -/
def atDocumentMark (k : Cursor) : Bool :=
  k.column == 0 &&
    match k.rest with
    | '-' :: '-' :: '-' :: cs => startsBlank cs
    | '.' :: '.' :: '.' :: cs => startsBlank cs
    | _ => false

end Cursor

end ImageGate.Yaml
