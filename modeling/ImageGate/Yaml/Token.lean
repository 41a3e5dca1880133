import ImageGate.Yaml.Scalar

/-!
# Tokens of a YAML text

A YAML text is first cut into tokens. Block collections have no brackets of their own: a token marks
where the indentation deepens and another where it falls back. A key is recognised only by the colon
behind it, so the token that marks a key is put in front of what has been read since.
-/

namespace ImageGate.Yaml

inductive Token where
  | version (major minor : Nat)
  | tagPrefix (handle expansion : List Char)
  | documentStart
  | documentEnd
  | blockSeqStart
  | blockMapStart
  | blockEnd
  | flowSeqStart
  | flowSeqEnd
  | flowMapStart
  | flowMapEnd
  | blockEntry
  | flowEntry
  | key
  | value
  | alias (name : List Char)
  | anchor (name : List Char)
  | tag (handle suffix : List Char)
  | scalar (style : Style) (text : List Char)
  | streamEnd
deriving DecidableEq, Repr

/-! ## Anchors, tags and directives -/

/-- Read the name of an anchor or an alias behind its indicator. -/
def readAnchor (k : Cursor) : Except Fault (List Char × Cursor) := do
  let (name, k) := k.span isNameChar
  let ended := startsBlank k.rest || "?:,]\x7d%@`".toList.contains (k.rest.headD ' ')
  if name.isEmpty || !ended then throw .badAnchor
  return (name, k)

/-- A character of a tag as it is written. -/
def isTagChar (verbatim : Bool) (c : Char) : Bool :=
  isNameChar c || ";/?:@&=+$.%!~*'()".toList.contains c ||
    (verbatim && (c == ',' || c == '[' || c == ']'))

/-- The bytes of a run of percent escapes. -/
def percentBytes : Nat → List Char → Option (List UInt8 × List Char)
  | 0, cs => some ([], cs)
  | fuel + 1, '%' :: a :: b :: cs => do
    let n ← Text.valueIn? 16 [a, b]
    let (bytes, rest) ← percentBytes fuel cs
    some (n.toUInt8 :: bytes, rest)
  | _ + 1, '%' :: _ => none
  | _ + 1, cs => some ([], cs)

/-- Resolve percent escapes, which have to spell out whole characters. -/
def unescapeTag : Nat → List Char → Option (List Char)
  | 0, _ => some []
  | _ + 1, [] => some []
  | fuel + 1, '%' :: cs => do
    let (bytes, rest) ← percentBytes ('%' :: cs).length ('%' :: cs)
    let s ← String.fromUTF8? ⟨bytes.toArray⟩
    (unescapeTag fuel rest).map (s.toList ++ ·)
  | fuel + 1, c :: cs => (unescapeTag fuel cs).map (c :: ·)

/-- Read the text of a tag, which goes on from `head`. -/
def readTagText (verbatim : Bool) (head : List Char) (k : Cursor) :
    Except Fault (List Char × Cursor) := do
  let (raw, k) := k.span (isTagChar verbatim)
  if head.isEmpty && raw.isEmpty then throw .badTag
  match unescapeTag (raw.length + 1) raw with
  | some text => return (head.drop 1 ++ text, k)
  | none => throw .badTag

/-- Read a tag handle: an exclamation mark, and a name with another one if there is a name. -/
def readTagHandle (directive : Bool) (k : Cursor) : Except Fault (List Char × Cursor) := do
  if k.rest.head? != some '!' then throw .badTag
  let (name, k) := (k.skip 1).span isNameChar
  if k.rest.head? == some '!' then return ('!' :: name ++ ['!'], k.skip 1)
  if directive && !name.isEmpty then throw .badTag
  return ('!' :: name, k)

/-- Read a tag, from its exclamation mark on. -/
def readTag (inFlow : Bool) (k : Cursor) : Except Fault (Token × Cursor) := do
  let (token, k) ← (do
    if k.rest.drop 1 |>.head? |>.any (· == '<') then
      let (text, k) ← readTagText true [] (k.skip 2)
      if k.rest.head? != some '>' then throw .badTag
      return (Token.tag [] text, k.skip 1)
    let (handle, k) ← readTagHandle false k
    if 1 < handle.length && handle.getLast? == some '!' then
      let (suffix, k) ← readTagText false [] k
      return (.tag handle suffix, k)
    let (suffix, k) ← readTagText false handle k
    return (if suffix.isEmpty then .tag [] ['!'] else .tag ['!'] suffix, k)
    : Except Fault (Token × Cursor))
  if !startsBlank k.rest && !(inFlow && k.rest.head? == some ',') then throw .badTag
  return (token, k)

/-- Read a number of a version directive. -/
def readVersionNumber (k : Cursor) : Except Fault (Nat × Cursor) := do
  let (digits, k) := k.span Char.isDigit
  if digits.isEmpty || 9 < digits.length then throw .badDirective
  return (Text.decimalValue digits, k)

/-- Read a directive behind its percent sign, with the rest of its line. -/
def readDirective (k : Cursor) : Except Fault (Token × Cursor) := do
  let (name, k) := k.span isNameChar
  if !startsBlank k.rest then throw .badDirective
  let k := (k.span isSpace).2
  let (token, k) ← (do
    match String.ofList name with
    | "YAML" =>
      let (major, k) ← readVersionNumber k
      if k.rest.head? != some '.' then throw .badDirective
      let (minor, k) ← readVersionNumber (k.skip 1)
      return (Token.version major minor, k)
    | "TAG" =>
      let (handle, k) ← readTagHandle true k
      if !(k.rest.head?.any isSpace) then throw .badDirective
      let (expansion, k) ← readTagText true [] (k.span isSpace).2
      if !startsBlank k.rest then throw .badDirective
      return (.tagPrefix handle expansion, k)
    | _ => throw .badDirective
    : Except Fault (Token × Cursor))
  let k := (k.span isSpace).2
  let k := if k.rest.head? == some '#' then k.skipLine else k
  if !k.atLineEnd then throw .badDirective
  return (token, k.readBreak.2)

/-! ## The scanner -/

/-- A place where a key may have begun. -/
structure KeyMark where
  /-- Number of tokens before it. -/
  token : Nat
  line : Nat
  column : Nat
  index : Nat
  /-- Nothing but a key can stand here. -/
  required : Bool

/-- A scan under way. -/
structure Scanner where
  cursor : Cursor
  /-- The tokens so far, the last one first. -/
  tokens : List Token := []
  count : Nat := 0
  /-- The columns of the open block collections, the innermost first. -/
  indents : List Nat := []
  /-- For each open flow collection, and the block around them, where a key may have begun. -/
  keys : List (Option KeyMark) := [none]
  /-- Whether a key may begin here. -/
  keyAllowed : Bool := true

namespace Scanner

def inFlow (s : Scanner) : Bool :=
  1 < s.keys.length

def push (s : Scanner) (t : Token) : Scanner :=
  { s with tokens := t :: s.tokens, count := s.count + 1 }

/-- Insert a token behind the first `n`. -/
def insert (s : Scanner) (n : Nat) (t : Token) : Scanner :=
  let later := s.count - n
  { s with tokens := s.tokens.take later ++ t :: s.tokens.drop later, count := s.count + 1 }

/-- Open a block collection at a column that is deeper than the current one. -/
def indentTo (s : Scanner) (column : Nat) (open_ : Scanner → Scanner) : Scanner :=
  if s.inFlow || s.indents.head?.any (column ≤ ·) then s
  else open_ { s with indents := column :: s.indents }

/-- Close the block collections that are deeper than a column; all of them if there is none. -/
def dedentTo (s : Scanner) (column : Option Nat) : Scanner :=
  if s.inFlow then s
  else
    let closed := s.indents.takeWhile fun i => column.all (· < i)
    { s with
      tokens := List.replicate closed.length .blockEnd ++ s.tokens
      count := s.count + closed.length
      indents := s.indents.drop closed.length }

/-- Where a key may have begun in the innermost collection. -/
def keyMark (s : Scanner) : Option KeyMark :=
  s.keys.headD none

/-- Give up the key that may have begun. -/
def dropKey (s : Scanner) : Except Fault Scanner :=
  if s.keyMark.any (·.required) then .error .expectedColon
  else .ok { s with keys := none :: s.keys.drop 1 }

/-- A key may begin here. -/
def markKey (s : Scanner) : Except Fault Scanner :=
  if !s.keyAllowed then .ok s
  else do
    let k := s.cursor
    let required := !s.inFlow && s.indents.head? == some k.column
    let s ← s.dropKey
    return { s with
      keys := some ⟨s.count, k.line, k.column, k.index, required⟩ :: s.keys.drop 1 }

def keyMax : Nat := 1024

/-- Give up keys that have gone past their line or their greatest length. -/
def dropStaleKeys (s : Scanner) : Except Fault Scanner := do
  let stale (m : KeyMark) : Bool :=
    m.line < s.cursor.line || m.index + keyMax < s.cursor.index
  if s.keys.any fun m => m.any fun m => stale m && m.required then throw .expectedColon
  return { s with keys := s.keys.map fun m => m.filter (!stale ·) }

/-- Pass blanks, comments and line ends before the next token. Tabs count as blanks except where a
key may begin. -/
def skipBlanks : Nat → Scanner → Scanner
  | 0, s => s
  | fuel + 1, s =>
    let k := if s.cursor.index == 0 && s.cursor.rest.head? == some '\uFEFF' then s.cursor.skip 1
      else s.cursor
    let k := (k.span fun c => c == ' ' || ((s.inFlow || !s.keyAllowed) && c == '\t')).2
    let k := if k.rest.head? == some '#' then k.skipLine else k
    if k.atBreak then
      skipBlanks fuel { s with cursor := k.readBreak.2, keyAllowed := s.keyAllowed || !s.inFlow }
    else { s with cursor := k }

def skip (s : Scanner) (n : Nat) : Scanner :=
  { s with cursor := s.cursor.skip n }

/-- Say whether a key may begin behind the token at hand. -/
def allowKey (s : Scanner) (allowed : Bool) : Scanner :=
  { s with keyAllowed := allowed }

/-! ### One token -/

/-- A token at the margin, which ends all block collections. -/
def marginToken (s : Scanner) : Except Fault Scanner := do
  return (← (s.dedentTo none).dropKey).allowKey false

def openFlow (s : Scanner) (t : Token) : Except Fault Scanner := do
  let s ← s.markKey
  return ({ s with keys := none :: s.keys }.allowKey true).skip 1 |>.push t

def closeFlow (s : Scanner) (t : Token) : Except Fault Scanner := do
  let s ← s.dropKey
  let s := if s.inFlow then { s with keys := s.keys.drop 1 } else s
  return (s.allowKey false).skip 1 |>.push t

/-- An entry of a block sequence, or a complex key. -/
def blockIndicator (s : Scanner) (start t : Token) (keyBehind : Bool) : Except Fault Scanner := do
  if !s.inFlow && !s.keyAllowed then throw .notAllowedHere
  let s := s.indentTo s.cursor.column (·.push start)
  let s ← s.dropKey
  return (s.allowKey keyBehind).skip 1 |>.push t

/-- The colon behind a key. -/
def colon (s : Scanner) : Except Fault Scanner :=
  match s.keyMark with
  | some m =>
    let s := s.insert m.token .key
    let s := s.indentTo m.column (·.insert m.token .blockMapStart)
    let s := { s with keys := none :: s.keys.drop 1 }
    .ok ((s.allowKey false).skip 1 |>.push .value)
  | none =>
    if !s.inFlow && !s.keyAllowed then .error .notAllowedHere
    else
      let s := s.indentTo s.cursor.column (·.push .blockMapStart)
      .ok ((s.allowKey !s.inFlow).skip 1 |>.push .value)

/-- Take over a token with the cursor behind it. -/
def accept (s : Scanner) (t : Token) (k : Cursor) : Scanner :=
  { s with cursor := k }.push t

/-- A property of a node: an anchor, an alias or a tag. -/
def property (s : Scanner) (read : Cursor → Except Fault (Token × Cursor)) :
    Except Fault Scanner := do
  let s := (← s.markKey).allowKey false
  let (t, k) ← read s.cursor
  return s.accept t k

def blockScalar (s : Scanner) (folded : Bool) : Except Fault Scanner := do
  let s := (← s.dropKey).allowKey true
  let (text, k) ← readBlock folded s.indents.head? (s.cursor.skip 1)
  return s.accept (.scalar (if folded then .folded else .literal) text) k

def quotedScalar (s : Scanner) (single : Bool) : Except Fault Scanner := do
  let s := (← s.markKey).allowKey false
  let k := s.cursor.skip 1
  let (text, k) ← readQuoted single (k.rest.length + 1) k
  return s.accept (.scalar (if single then .single else .double) text) k

def plainScalar (s : Scanner) : Except Fault Scanner := do
  let s := (← s.markKey).allowKey false
  let indent := s.indents.head?.elim 0 (· + 1)
  let (text, broken, k) ← readPlain s.inFlow indent (s.cursor.rest.length + 1) {} s.cursor
  return (s.accept (.scalar .plain text) k).allowKey (broken || s.keyAllowed)

/-- A character that no plain scalar begins with. -/
def isIndicator (c : Char) : Bool :=
  "-?:,[]\x7b\x7d#&*!|>'\"%@`".toList.contains c

/-- Scan the token at the cursor, where the text is not empty. -/
def scanAt (s : Scanner) : Except Fault Scanner :=
  let k := s.cursor
  let c := k.rest.headD ' '
  let behind := k.rest.drop 1
  let blankBehind := startsBlank behind
  if k.column == 0 && c == '%' then do
    let s ← s.marginToken
    let (t, k) ← readDirective (s.cursor.skip 1)
    return s.accept t k
  else if k.atDocumentMark then do
    return ((← s.marginToken).skip 3).push (if c == '-' then .documentStart else .documentEnd)
  else if c == '[' then s.openFlow .flowSeqStart
  else if c == '\x7b' then s.openFlow .flowMapStart
  else if c == ']' then s.closeFlow .flowSeqEnd
  else if c == '\x7d' then s.closeFlow .flowMapEnd
  else if c == ',' then do
    return ((← s.dropKey).allowKey true).skip 1 |>.push .flowEntry
  else if c == '-' && blankBehind then s.blockIndicator .blockSeqStart .blockEntry true
  else if c == '?' && (s.inFlow || blankBehind) then
    s.blockIndicator .blockMapStart .key !s.inFlow
  else if c == ':' && (s.inFlow || blankBehind) then s.colon
  else if c == '*' then
    s.property fun k => (readAnchor (k.skip 1)).map fun (n, k) => (.alias n, k)
  else if c == '&' then
    s.property fun k => (readAnchor (k.skip 1)).map fun (n, k) => (.anchor n, k)
  else if c == '!' then s.property (readTag s.inFlow)
  else if c == '|' && !s.inFlow then s.blockScalar false
  else if c == '>' && !s.inFlow then s.blockScalar true
  else if c == '\'' then s.quotedScalar true
  else if c == '"' then s.quotedScalar false
  else if !(isSpace c || isIndicator c) || (c == '-' && !behind.head?.any isSpace) ||
      (!s.inFlow && (c == '?' || c == ':') && !blankBehind) then
    s.plainScalar
  else .error .unexpectedCharacter

/-- The tokens that are settled: those before the first place where a key may have begun. -/
def settled (s : Scanner) : List Token :=
  let n := (s.keys.filterMap (·.map KeyMark.token)).foldl min s.count
  s.tokens.reverse.take n

/-- Scan to the end of the text, or to the first fault. Gives the tokens and whether all was
well. -/
def scanAll : Nat → Scanner → List Token × Bool
  | 0, s => (s.settled, false)
  | fuel + 1, s =>
    let s := s.skipBlanks (s.cursor.rest.length + 1)
    match s.dropStaleKeys with
    | .error _ => (s.settled, false)
    | .ok s =>
      if s.cursor.rest.isEmpty then
        match (s.dedentTo none).dropKey with
        | .error _ => ((s.dedentTo none).settled, false)
        | .ok s => ((s.push .streamEnd).tokens.reverse, true)
      else
        let s := s.dedentTo (some s.cursor.column)
        match s.scanAt with
        | .error _ => (s.settled, false)
        | .ok s => scanAll fuel s

end Scanner

/-- The tokens of a text, as far as it is well-formed, and whether all of it is. A byte order mark
in front does not count. -/
def tokens (text : List Char) : List Token × Bool :=
  let text := match text with
    | '\uFEFF' :: cs => cs
    | cs => cs
  if text.all isPrintable then
    ({ cursor := { rest := text } } : Scanner).scanAll (2 * text.length + 2)
  else ([], false)

end ImageGate.Yaml
