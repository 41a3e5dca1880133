import ImageGate.Pattern.Property
import ImageGate.Pattern.Basic
import ImageGate.Text.Blank
import ImageGate.Text.Digits
import ImageGate.Text.Split

/-!
# Scanning patterns

The text of a pattern is scanned from left to right under flags, which the text itself can change.
Here are the flags, the faults of a pattern, and the small pieces that stand on their own: escapes,
counts, flag lists and group names.
-/

namespace ImageGate.Pattern

open Text

/-- How the text of a pattern is to be read. -/
structure Flags where
  /-- Letters match in either case. -/
  ignoreCase : Bool := false
  /-- `^` and `$` match at line ends. -/
  multiLine : Bool := false
  /-- A dot matches line feeds. -/
  dotAll : Bool := false
  /-- A carriage return with a line feed ends a line. -/
  crlf : Bool := false
  /-- Classes reach beyond ASCII. -/
  unicode : Bool := true
  /-- White space and comments do not count. -/
  verbose : Bool := false
deriving DecidableEq, Repr

/-- Why a text is not a pattern. -/
inductive Fault where
  | unclosedGroup
  | unopenedGroup
  | unclosedClass
  | badClassRange
  | badClassEscape
  | unknownProperty
  | nothingToRepeat
  | badCount
  | badEscape
  | backReference
  | lookAround
  | badFlags
  | badGroupName
  | repeatedGroupName
  | notUnicode
  | tooDeep
  | tooLarge
deriving DecidableEq, Repr

def Fault.message : Fault → String
  | .unclosedGroup => "unclosed group"
  | .unopenedGroup => "unopened group"
  | .unclosedClass => "unclosed character class"
  | .badClassRange => "invalid character class range"
  | .badClassEscape => "invalid escape sequence found in character class"
  | .unknownProperty => "Unicode property not found"
  | .nothingToRepeat => "repetition operator missing expression"
  | .badCount => "invalid repetition count"
  | .badEscape => "unrecognized escape sequence"
  | .backReference => "backreferences are not supported"
  | .lookAround => "look-around is not supported"
  | .badFlags => "unrecognized or misplaced flag"
  | .badGroupName => "invalid capture group name"
  | .repeatedGroupName => "duplicate capture group name"
  | .notUnicode => "pattern can match text that is not Unicode"
  | .tooDeep => "nested too deeply"
  | .tooLarge => "compiled pattern exceeds the size limit"

/-- Where a scan stands: the text ahead, the flags in force, the group names used so far. -/
structure Scan where
  rest : List Char
  flags : Flags := {}
  names : List (List Char) := []

/-- A step of a scan. -/
abbrev Read := StateT Scan (Except Fault)

/-! ## Characters -/

mutual

/-- Skip white space and comments. -/
def skipVerbose : List Char → List Char
  | [] => []
  | c :: cs => if isBlank c then skipVerbose cs else if c == '#' then skipComment cs else c :: cs

/-- Skip the rest of a line, then white space and comments. -/
def skipComment : List Char → List Char
  | [] => []
  | c :: cs => if c == '\n' then skipVerbose cs else skipComment cs

end

namespace Read

/-- The next character; `none` at the end. -/
def peek : Read (Option Char) :=
  return (← get).rest.head?

def ahead : Read (List Char) :=
  return (← get).rest

def flags : Read Flags :=
  return (← get).flags

/-- Move on by `n` characters. -/
def drop (n : Nat) : Read Unit :=
  modify fun s => { s with rest := s.rest.drop n }

/-- Move on to what counts. -/
def skip : Read Unit :=
  modify fun s => if s.flags.verbose then { s with rest := skipVerbose s.rest } else s

/-- Move on by one character and then to what counts. -/
def dropSkip : Read Unit := do
  drop 1
  skip

/-- Fail at the end of the text. -/
def insist (fault : Fault) : Read Unit := do
  if (← peek).isNone then throw fault

/-- The longest run of characters that satisfy `p`, at most `n`; what does not count is skipped. -/
def run (p : Char → Bool) : Nat → Read (List Char)
  | 0 => return []
  | n + 1 => do
    match ← peek with
    | none => return []
    | some c =>
      if p c then
        dropSkip
        return c :: (← run p n)
      else return []

/-- The longest run of characters that satisfy `p`. -/
def runAll (p : Char → Bool) : Read (List Char) := do
  run p (← ahead).length

end Read

open Read

/-! ## Escapes -/

/-- What an escape stands for. -/
inductive Escape where
  /-- A character; `byte` if it was written as a two-digit code. -/
  | literal (c : Char) (byte : Bool)
  | set (set : CharSet)
  | look (condition : Look)

def isHex (c : Char) : Bool :=
  c.isDigit || ('a' ≤ c && c ≤ 'f') || ('A' ≤ c && c ≤ 'F')

/-- The character with a hexadecimal code, if there is one. -/
def charOfHex? (digits : List Char) : Option Char :=
  (valueIn? 16 digits).bind fun n => if n.isValidChar then some (Char.ofNat n) else none

/-- Read the code behind `\x`, `\u` or `\U`, where `width` digits are due without braces. -/
def readHex (width : Nat) : Read Escape := do
  dropSkip
  insist .badEscape
  let braced := (← peek) == some '\x7b'
  if braced then dropSkip
  let digits ← if braced then runAll isHex else run isHex width
  if braced then
    if (← peek) != some '\x7d' then throw .badEscape
    dropSkip
  if digits.isEmpty || (!braced && digits.length < width) then throw .badEscape
  match charOfHex? digits with
  | some c => return .literal c (!braced && width == 2)
  | none => throw .badEscape

/-- Close a set under letter case, if case does not count. -/
def foldCase (flags : Flags) (s : CharSet) : CharSet :=
  if !flags.ignoreCase then s
  else if flags.unicode then Unicode.closeUnderCase s
  else Unicode.closeUnderAsciiCase s

/-- A set, or its complement. Without Unicode only ASCII sets are sound. -/
def settle (flags : Flags) (negated : Bool) (s : CharSet) : Read CharSet := do
  let s := if negated then s.compl else s
  if !flags.unicode && !s.isAscii then throw .notUnicode
  return s

/-- Read a property behind `\p` or `\P`. -/
def readProperty (negated : Bool) : Read Escape := do
  dropSkip
  insist .badEscape
  let property? ←
    if (← peek) == some '\x7b' then do
      dropSkip
      let name ← runAll (· != '\x7d')
      insist .badEscape
      drop 1
      pure <|
        match cutNotEqual name, cutFirst? ':' name, cutFirst? '=' name with
        | some (n, v), _, _ => (propertyValued? n v).map CharSet.compl
        | _, some (n, v), _ => propertyValued? n v
        | _, _, some (n, v) => propertyValued? n v
        | _, _, _ => propertyNamed? name
    else do
      let name := (← ahead).take 1
      dropSkip
      pure (propertyNamed? name)
  let flags ← flags
  if !flags.unicode then throw .notUnicode
  match property? with
  | some s => return .set (← settle flags negated (foldCase flags s))
  | none => throw .unknownProperty
where
  /-- Cut at the first `!=`. -/
  cutNotEqual : List Char → Option (List Char × List Char)
    | [] => none
    | '!' :: '=' :: cs => some ([], cs)
    | c :: cs => (cutNotEqual cs).map fun (a, b) => (c :: a, b)

/-- The special word positions, by the name in the braces of `\b{…}`. -/
def wordEdge? (name : List Char) : Option WordEdge :=
  match String.ofList name with
  | "start" => some .start
  | "end" => some .stop
  | "start-half" => some .startHalf
  | "end-half" => some .stopHalf
  | _ => none

/-- A character of the name of a special word position. -/
def isEdgeChar (c : Char) : Bool :=
  c.isAlpha || c == '-'

/-- Read what may follow `\b` in braces; a brace that opens a count is left alone. -/
def readWordEdge : Read WordEdge := do
  if (← peek) != some '\x7b' then return .boundary
  let before ← get
  dropSkip
  insist .badEscape
  if !(← peek).any isEdgeChar then
    set before
    return .boundary
  let name ← runAll isEdgeChar
  if (← peek) != some '\x7d' then throw .badEscape
  drop 1
  match wordEdge? name with
  | some e => return e
  | none => throw .badEscape

/-- The characters that have a meaning of their own and need an escape to stand for themselves. -/
def isMeta (c : Char) : Bool :=
  "\\.+*?()|[]\x7b\x7d^$#&-~".contains c

/-- The characters that an escape leaves as they are. -/
def isEscapable (c : Char) : Bool :=
  isMeta c || (c.toNat < 0x80 && !c.isAlphanum && c != '<' && c != '>')

/-- Control characters with a letter of their own. -/
def control? : Char → Option Char
  | 'a' => some '\x07'
  | 'f' => some '\x0c'
  | 't' => some '\t'
  | 'n' => some '\n'
  | 'r' => some '\r'
  | 'v' => some '\x0b'
  | _ => none

/-- Read an escape, which begins with a backslash. -/
def readEscape : Read Escape := do
  drop 1
  insist .badEscape
  let flags ← flags
  let ascii := !flags.unicode
  match (← ahead).headD ' ' with
  | 'x' => readHex 2
  | 'u' => readHex 4
  | 'U' => readHex 8
  | 'p' => readProperty false
  | 'P' => readProperty true
  | c =>
    drop 1
    if c.isDigit then throw .backReference
    else if isEscapable c then return .literal c false
    else if let some control := control? c then return .literal control false
    else
      match c with
      | 'd' | 's' | 'w' => return .set (letterClass ascii c)
      | 'D' | 'S' | 'W' => return .set (← settle flags true (letterClass ascii c.toLower))
      | 'A' => return .look .textStart
      | 'z' => return .look .textEnd
      | 'b' => return .look (.word (← readWordEdge) ascii)
      | 'B' => return .look (.word .noBoundary ascii)
      | '<' => return .look (.word .start ascii)
      | '>' => return .look (.word .stop ascii)
      | _ => throw .badEscape

/-! ## Counts -/

/-- Read a decimal number of up to 32 bits, with white space around it. -/
def readDecimal : Read (Option Nat) := do
  modify fun s => { s with rest := s.rest.dropWhile isBlank }
  let digits ← runAll Char.isDigit
  let _ ← runAll isBlank
  if digits.isEmpty then return none
  let n := decimalValue digits
  if 4294967296 ≤ n then throw .badCount
  return some n

/-- Read a count in braces: the least and the greatest number of repetitions. -/
def readCount : Read (Nat × Option Nat) := do
  dropSkip
  insist .badCount
  let some least ← readDecimal | throw .badCount
  let most ←
    if (← peek) == some ',' then do
      dropSkip
      insist .badCount
      if (← peek) == some '\x7d' then pure none
      else do
        let some most ← readDecimal | throw .badCount
        pure (some most)
    else pure (some least)
  if (← peek) != some '\x7d' then throw .badCount
  dropSkip
  if most.any (· < least) then throw .badCount
  return (least, most)

/-! ## Groups -/

/-- One flag, switched on or off. -/
def Flags.put (flags : Flags) (on : Bool) : Char → Option Flags
  | 'i' => some { flags with ignoreCase := on }
  | 'm' => some { flags with multiLine := on }
  | 's' => some { flags with dotAll := on }
  | 'R' => some { flags with crlf := on }
  | 'u' => some { flags with unicode := on }
  | 'x' => some { flags with verbose := on }
  | 'U' => some flags
  | _ => none

/-- Switch flags as a flag list says: on, and behind a dash off. Each letter and the dash come at
most once, and the dash does not come last. -/
def Flags.putAll (flags : Flags) (on : Bool) : List Char → Option Flags
  | [] => some flags
  | '-' :: cs =>
    if cs.isEmpty || cs.contains '-' then none else putAll flags false cs
  | c :: cs =>
    if cs.contains c then none
    else (flags.put on c).bind fun flags => putAll flags on cs

/-- How a group begins. -/
inductive GroupHead where
  /-- Flags for what follows in the enclosing group; not a group at all. -/
  | setting (flags : Flags)
  /-- A group, to be read under these flags. -/
  | body (flags : Flags)

def isNameChar (first : Bool) (c : Char) : Bool :=
  c == '_' || Unicode.alphabetic.contains c ||
    (!first && (c == '.' || c == '[' || c == ']' || Unicode.numbers.contains c))

/-- Read a group name up to its closing bracket. -/
def readGroupName : Read Unit := do
  let name := (← ahead).takeWhile (· != '>')
  drop (name.length + 1)
  match name with
  | [] => throw .badGroupName
  | c :: cs => if !(isNameChar true c && cs.all (isNameChar false)) then throw .badGroupName
  if (← get).names.contains name then throw .repeatedGroupName
  modify fun s => { s with names := name :: s.names }

/-- Read the beginning of a group, from its parenthesis on. -/
def readGroupHead : Read GroupHead := do
  dropSkip
  let flags ← flags
  match ← ahead with
  | '?' :: '=' :: _ | '?' :: '!' :: _ | '?' :: '<' :: '=' :: _ | '?' :: '<' :: '!' :: _ =>
    throw .lookAround
  | '?' :: 'P' :: '<' :: cs =>
    if !cs.contains '>' then throw .badGroupName
    drop 3
    readGroupName
    return .body flags
  | '?' :: '<' :: cs =>
    if !cs.contains '>' then throw .badGroupName
    drop 2
    readGroupName
    return .body flags
  | '?' :: cs =>
    let list := cs.takeWhile fun c => c != ':' && c != ')'
    let some flags' := flags.putAll true list | throw .badFlags
    drop (1 + list.length)
    match ← peek with
    | some ':' =>
      drop 1
      return .body flags'
    | some _ =>
      if list.isEmpty then throw .nothingToRepeat
      drop 1
      return .setting flags'
    | none => throw .unclosedGroup
  | _ => return .body flags

end ImageGate.Pattern
