import ImageGate.Text.Digits
import ImageGate.Yaml.Cursor

/-!
# Scalars

The texts of a YAML document, in five styles: plain, in single or double quotes, and as literal or
folded blocks. In all but literal blocks a single line end counts as a space and a run of several
as one less.
-/

namespace ImageGate.Yaml

/-- How a scalar is written. -/
inductive Style where
  | plain
  | single
  | double
  | literal
  | folded
deriving DecidableEq, Repr

/-! ## Blanks between words -/

/-- The blanks between two words of a scalar. -/
structure Blanks where
  /-- Spaces and tabs before the first line end. -/
  spaces : List Char := []
  /-- The first line end. -/
  first : List Char := []
  /-- The line ends behind the first. -/
  more : List Char := []
  /-- Whether there was a line end. -/
  broken : Bool := false
  /-- Whether a tab stands where indentation is due. -/
  tabbed : Bool := false

/-- What blanks count as in the text of a scalar: themselves on one line, a space for a single line
end, all line ends but the first for several. -/
def Blanks.text (b : Blanks) : List Char :=
  if !b.broken then b.spaces
  else if b.first == ['\n'] then if b.more.isEmpty then [' '] else b.more
  else b.first ++ b.more

/-- Read blanks; a tab before column `indent` violates the indentation. -/
def readBlanks (indent : Nat) (b : Blanks) : Nat → Cursor → Blanks × Cursor
  | 0, k => (b, k)
  | fuel + 1, k =>
    match k.rest with
    | [] => (b, k)
    | c :: _ =>
      if isSpace c then
        let b := if b.broken then { b with tabbed := b.tabbed || (c == '\t' && k.column < indent) }
          else { b with spaces := b.spaces ++ [c] }
        readBlanks indent b fuel (k.skip 1)
      else if isBreak c then
        let (text, k) := k.readBreak
        let b := if b.broken then { b with more := b.more ++ text }
          else { b with first := text, broken := true }
        readBlanks indent b fuel k
      else (b, k)

/-! ## Plain scalars -/

/-- An indicator that ends a plain scalar in a flow collection. -/
def isFlowIndicator (c : Char) : Bool :=
  c == ',' || c == '[' || c == ']' || c == '\x7b' || c == '\x7d'

/-- The word that a plain scalar goes on with, and what follows it. -/
def plainWord (inFlow : Bool) : List Char → Except Fault (List Char × List Char)
  | [] => .ok ([], [])
  | c :: cs =>
    if isSpace c || isBreak c then .ok ([], c :: cs)
    else if inFlow && c == ':' && cs.head?.any (fun d => isFlowIndicator d || d == '?') then
      .error .unexpectedColon
    else if (c == ':' && startsBlank cs) || (inFlow && isFlowIndicator c) then .ok ([], c :: cs)
    else (plainWord inFlow cs).map fun (word, rest) => (c :: word, rest)

/-- Read a plain scalar whose further lines are indented by `indent`. Gives the text, and whether
blanks with a line end stand behind it. -/
def readPlain (inFlow : Bool) (indent : Nat) :
    Nat → Blanks → Cursor → Except Fault (List Char × Bool × Cursor)
  | 0, b, k => .ok ([], b.broken, k)
  | fuel + 1, b, k => do
    if k.atDocumentMark || k.rest.head? == some '#' then return ([], b.broken, k)
    let (word, _) ← plainWord inFlow k.rest
    let before := if word.isEmpty then [] else b.text
    let after := k.skip word.length
    let broken := word.isEmpty && b.broken
    if !startsBlank after.rest || after.rest.isEmpty then return (before ++ word, broken, after)
    let (blanks, next) := readBlanks indent {} after.rest.length after
    if blanks.tabbed then throw .badIndentation
    if !inFlow && next.column < indent then return (before ++ word, blanks.broken, next)
    let (text, broken, last) ← readPlain inFlow indent fuel blanks next
    return (before ++ word ++ text, broken, last)

/-! ## Quoted scalars -/

/-- What an escape without a code stands for. -/
def simpleEscape? : Char → Option Char
  | '0' => some '\x00'
  | 'a' => some '\x07'
  | 'b' => some '\x08'
  | 't' => some '\t'
  | '\t' => some '\t'
  | 'n' => some '\n'
  | 'v' => some '\x0b'
  | 'f' => some '\x0c'
  | 'r' => some '\r'
  | 'e' => some '\x1b'
  | ' ' => some ' '
  | '"' => some '"'
  | '/' => some '/'
  | '\\' => some '\\'
  | 'N' => some '\u0085'
  | '_' => some '\u00A0'
  | 'L' => some '\u2028'
  | 'P' => some '\u2029'
  | _ => none

/-- Number of digits of an escape with a code. -/
def codeLength? : Char → Option Nat
  | 'x' => some 2
  | 'u' => some 4
  | 'U' => some 8
  | _ => none

/-- Read the escape behind a backslash: its character and its length. -/
def readEscape (cs : List Char) : Except Fault (Char × Nat) :=
  match cs with
  | [] => .error .badEscape
  | c :: cs =>
    match simpleEscape? c, codeLength? c with
    | some d, _ => .ok (d, 1)
    | none, some n =>
      match if (cs.take n).length = n then Text.valueIn? 16 (cs.take n) else none with
      | some code => if code.isValidChar then .ok (Char.ofNat code, n + 1) else .error .badEscape
      | none => .error .badEscape
    | none, none => .error .badEscape

/-- How a word in quotes ends. -/
inductive WordEnd where
  | blank
  | quote
  /-- An escaped line end, which counts for nothing. -/
  | escapedBreak

def readQuotedWord (single : Bool) :
    Nat → Cursor → Except Fault (List Char × WordEnd × Cursor)
  | 0, k => .ok ([], .blank, k)
  | fuel + 1, k => do
    match k.rest with
    | [] => return ([], .blank, k)
    | c :: cs =>
      if isSpace c || isBreak c then return ([], .blank, k)
      if single && c == '\'' then
        if cs.head? == some '\'' then
          let (word, stop, last) ← readQuotedWord single fuel (k.skip 2)
          return ('\'' :: word, stop, last)
        else return ([], .quote, k)
      if !single && c == '"' then return ([], .quote, k)
      if !single && c == '\\' then
        if cs.head?.any isBreak then return ([], .escapedBreak, (k.skip 1).readBreak.2)
        let (d, n) ← readEscape cs
        let (word, stop, last) ← readQuotedWord single fuel (k.skip (n + 1))
        return (d :: word, stop, last)
      let (word, stop, last) ← readQuotedWord single fuel (k.skip 1)
      return (c :: word, stop, last)

/-- Read a quoted scalar behind its opening quote, up to and with the closing one. -/
def readQuoted (single : Bool) : Nat → Cursor → Except Fault (List Char × Cursor)
  | 0, _ => .error .unclosedQuote
  | fuel + 1, k => do
    if k.atDocumentMark || k.rest.isEmpty then throw .unclosedQuote
    let (word, stop, k) ← readQuotedWord single k.rest.length k
    match stop with
    | .quote => return (word, k.skip 1)
    | .blank =>
      let (blanks, k) := readBlanks 0 {} k.rest.length k
      let (text, k) ← readQuoted single fuel k
      return (word ++ blanks.text ++ text, k)
    | .escapedBreak =>
      -- The closing quote may follow at once; else blanks behind the line end are dropped.
      if k.rest.head? == some '"' then return (word, k.skip 1)
      let (blanks, k) := readBlanks 0 { broken := true } k.rest.length k
      let (text, k) ← readQuoted single fuel k
      return (word ++ blanks.text ++ text, k)

/-! ## Blocks -/

/-- What becomes of the line ends at the end of a block. -/
inductive Chomping where
  | strip
  | clip
  | keep
deriving DecidableEq, Repr

/-- Read the chomping indicator and the indentation indicator of a block, in either order. -/
def readBlockHeader (k : Cursor) : Except Fault (Chomping × Nat × Cursor) := do
  let chomp (k : Cursor) : Chomping × Cursor :=
    match k.rest.head? with
    | some '+' => (.keep, k.skip 1)
    | some '-' => (.strip, k.skip 1)
    | _ => (.clip, k)
  let digit (k : Cursor) : Except Fault (Nat × Cursor) :=
    match k.rest.head? with
    | some '0' => .error .badBlockHeader
    | some c => .ok (if c.isDigit then (c.toNat - '0'.toNat, k.skip 1) else (0, k))
    | none => .ok (0, k)
  let (chomping, k) := chomp k
  let (increment, k) ← digit k
  let (chomping, k) := if chomping == .clip && increment != 0 then chomp k else (chomping, k)
  let k := (k.span isSpace).2
  let k := if k.rest.head? == some '#' then k.skipLine else k
  if !k.atLineEnd then throw .badBlockHeader
  return (chomping, increment, k.readBreak.2)

/-- Pass indentation and empty lines before the next line of a block. With `indent` zero the
indentation is not known yet. Gives the line ends, the deepest column reached and the cursor. -/
def readBlockBreaks (indent : Nat) :
    Nat → Nat → List Char → Cursor → Except Fault (List Char × Nat × Cursor)
  | 0, deepest, breaks, k => .ok (breaks, deepest, k)
  | fuel + 1, deepest, breaks, k => do
    let room := if indent == 0 then k.rest.length else indent - k.column
    let spaces := (k.rest.take room).takeWhile (· == ' ')
    let k := k.skip spaces.length
    let deepest := max deepest k.column
    if (indent == 0 || k.column < indent) && k.rest.head? == some '\t' then throw .badIndentation
    if !k.atBreak then return (breaks, deepest, k)
    let (text, k) := k.readBreak
    readBlockBreaks indent fuel deepest (breaks ++ text) k

/-- Read the lines of a block. `lead` is the line end behind the line before, `breaks` the line ends
of the empty lines since, and `blankLead` tells whether the line before began with a blank. Gives
the text up to the last line, and the two runs of line ends behind it. -/
def readBlockLines (folded : Bool) (indent : Nat) :
    Nat → (lead breaks : List Char) → Bool → Cursor →
      Except Fault (List Char × List Char × List Char × Cursor)
  | 0, lead, breaks, _, k => .ok ([], lead, breaks, k)
  | fuel + 1, lead, breaks, blankLead, k => do
    if k.column != indent || k.rest.isEmpty then return ([], lead, breaks, k)
    let blank := k.rest.head?.any isSpace
    let joint :=
      if folded && lead == ['\n'] && !blankLead && !blank then
        if breaks.isEmpty then [' '] else breaks
      else lead ++ breaks
    let (line, k) := k.span fun _ => true
    let (lead, k) := k.readBreak
    let (breaks, _, k) ← readBlockBreaks indent (k.rest.length + 1) 0 [] k
    let (text, lead, breaks, k) ← readBlockLines folded indent fuel lead breaks blank k
    return (joint ++ line ++ text, lead, breaks, k)

/-- Read a block behind its indicator, in a collection indented by `parent` (none at the top). -/
def readBlock (folded : Bool) (parent : Option Nat) (k : Cursor) :
    Except Fault (List Char × Cursor) := do
  let (chomping, increment, k) ← readBlockHeader k
  let known := if increment == 0 then 0 else parent.getD 0 + increment
  let (breaks, deepest, k) ← readBlockBreaks known (k.rest.length + 1) 0 [] k
  let least := parent.elim 0 (· + 1)
  let indent := if known == 0 then max (max deepest least) 1 else known
  let (text, lead, breaks, k) ← readBlockLines folded indent (k.rest.length + 1) [] breaks false k
  match chomping with
  | .strip => return (text, k)
  | .clip => return (text ++ lead, k)
  | .keep => return (text ++ lead ++ breaks, k)

end ImageGate.Yaml
