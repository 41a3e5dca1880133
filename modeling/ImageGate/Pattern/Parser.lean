import ImageGate.Pattern.Scan

/-!
# Reading patterns

A pattern is alternatives of sequences of items, and an item is a character, a class in brackets, a
group, a position or a repetition. Classes are sets already when they are read, since the flags in
force are known by then. Every item knows how deeply it nests; a pattern may nest `depthMax` deep
and weigh `weightMax`.
-/

namespace ImageGate.Pattern

open Text Read

def depthMax : Nat := 250

/-! ## Classes -/

/-- The members of a class collected so far, how many items they came from and how deep those
nest. -/
structure Members where
  set : CharSet := .empty
  count : Nat := 0
  depth : Nat := 0

def Members.add (m : Members) (s : CharSet) (depth : Nat) : Members :=
  { set := m.set.union s, count := m.count + 1, depth := max m.depth depth }

/-- The nesting of the items taken together. -/
def Members.nesting (m : Members) : Nat :=
  if m.count ≤ 1 then m.depth else m.depth + 1

/-- An operation between the members on its two sides. -/
inductive ClassOp where
  | inter
  | diff
  | symmDiff

def ClassOp.apply : ClassOp → CharSet → CharSet → CharSet
  | .inter => .inter
  | .diff => .diff
  | .symmDiff => .symmDiff

/-- Everything to the left of the current members: an operation and its left operand. -/
abbrev LeftOperand := Option (ClassOp × CharSet × Nat)

/-- Apply a pending operation to the members on its right. -/
def combine (flags : Flags) (left : LeftOperand) (m : Members) : CharSet × Nat :=
  match left with
  | none => (m.set, m.nesting)
  | some (op, s, depth) =>
    (op.apply (foldCase flags s) (foldCase flags m.set), 1 + max depth m.nesting)

/-- Read a class like `[:alpha:]`; what does not look like one is left alone. -/
def readNamedClass : Read (Option CharSet) := do
  match ← ahead with
  | '[' :: ':' :: cs =>
    let (negated, cs) := match cs with
      | '^' :: cs => (true, cs)
      | cs => (false, cs)
    match cutFirst? ':' cs with
    | some (name, ']' :: rest) =>
      match asciiClass? name with
      | some s =>
        modify fun st => { st with rest }
        let flags ← flags
        return some (← settle flags negated (foldCase flags s))
      | none => return none
    | _ => return none
  | _ => return none

/-- An item of a class: a character or a set. -/
def readClassItem : Read Escape := do
  match ← peek with
  | some '\\' => readEscape
  | some c =>
    drop 1
    return .literal c false
  | none => throw .unclosedClass

/-- The character that a bound of a range stands for. -/
def classBound : Escape → Read Char
  | .literal c _ => return c
  | _ => throw .badClassRange

def classSet : Escape → Read CharSet
  | .literal c _ => return .singleton c
  | .set s => return s
  | .look _ => throw .badClassEscape

/-- Whether a dash at the front of the text opens a range: it does not before a closing bracket or
another dash. -/
def opensRange (flags : Flags) : List Char → Bool
  | '-' :: cs =>
    let next := (if flags.verbose then skipVerbose cs else cs).head?
    next != some ']' && next != some '-'
  | _ => false

/-- Without Unicode, a class has ASCII characters alone. -/
def checkAscii (s : CharSet) : Read Unit := do
  if !(← flags).unicode && !s.isAscii then throw .notUnicode

/-- Read a character, a set or a range in a class. -/
def readClassRange : Read CharSet := do
  let item ← readClassItem
  skip
  insist .unclosedClass
  if !opensRange (← flags) (← ahead) then
    let s ← classSet item
    checkAscii s
    return s
  dropSkip
  insist .unclosedClass
  let last ← readClassItem
  let lo ← classBound item
  let hi ← classBound last
  if hi < lo then throw .badClassRange
  checkAscii (.range lo hi)
  return .range lo hi

/-- Dashes at the beginning of a class stand for themselves. -/
def readDashes (m : Members) : Nat → Read Members
  | 0 => return m
  | n + 1 => do
    if (← peek) == some '-' then
      dropSkip
      insist .unclosedClass
      readDashes (m.add (.singleton '-') 0) n
    else return m

mutual

/-- Read a class in brackets, from its opening bracket on. -/
def readClass : Nat → Read (CharSet × Nat)
  | 0 => throw .tooDeep
  | fuel + 1 => do
    dropSkip
    insist .unclosedClass
    let negated := (← peek) == some '^'
    if negated then
      dropSkip
      insist .unclosedClass
    let dashes ← readDashes {} (← ahead).length
    let first ←
      if dashes.count == 0 && (← peek) == some ']' then do
        dropSkip
        insist .unclosedClass
        pure (dashes.add (.singleton ']') 0)
      else pure dashes
    let (s, depth) ← readMembers fuel none first
    let flags ← flags
    return (← settle flags negated (foldCase flags s), depth + 1)

/-- Read the members of a class and its closing bracket. -/
def readMembers : Nat → LeftOperand → Members → Read (CharSet × Nat)
  | 0, _, _ => throw .tooDeep
  | fuel + 1, left, m => do
    skip
    match ← ahead with
    | [] => throw .unclosedClass
    | ']' :: _ =>
      drop 1
      return combine (← flags) left m
    | '&' :: '&' :: _ => readOperation fuel .inter left m
    | '-' :: '-' :: _ => readOperation fuel .diff left m
    | '~' :: '~' :: _ => readOperation fuel .symmDiff left m
    | '[' :: _ =>
      match ← readNamedClass with
      | some s => readMembers fuel left (m.add s 0)
      | none =>
        let (s, depth) ← readClass fuel
        readMembers fuel left (m.add s depth)
    | _ =>
      let s ← readClassRange
      readMembers fuel left (m.add s 0)

/-- Read on behind an operation between members. -/
def readOperation : Nat → ClassOp → LeftOperand → Members → Read (CharSet × Nat)
  | 0, _, _, _ => throw .tooDeep
  | fuel + 1, op, left, m => do
    drop 2
    let (s, depth) := combine (← flags) left m
    readMembers fuel (some (op, s, depth)) {}

end

/-! ## Items -/

structure Item where
  pattern : Pattern
  depth : Nat := 0
  /-- Flag settings are items too, but cannot be repeated. -/
  repeatable : Bool := true

/-- A sequence of items, given in reverse. -/
def sequence (items : List Item) : Item :=
  match items with
  | [] => { pattern := .empty }
  | [item] => item
  | items =>
    { pattern := .concat (items.reverse.map Item.pattern)
      depth := 1 + (items.map Item.depth).foldl max 0 }

/-- Alternatives, given in reverse. -/
def alternatives (branches : List Item) : Item :=
  match branches with
  | [branch] => branch
  | branches =>
    { pattern := .choice (branches.reverse.map Item.pattern)
      depth := 1 + (branches.map Item.depth).foldl max 0 }

def literalPattern (c : Char) (byte : Bool) : Read Pattern := do
  let flags ← flags
  if !flags.unicode && byte && 0x80 ≤ c.toNat then throw .notUnicode
  return .chars (foldCase flags (.singleton c))

def dotPattern : Read Pattern := do
  let flags ← flags
  if !flags.unicode then throw .notUnicode
  let excluded : CharSet :=
    if flags.dotAll then .empty else if flags.crlf then .ofList ['\r', '\n'] else .singleton '\n'
  return .chars excluded.compl

def startPattern (flags : Flags) : Pattern :=
  .look (if !flags.multiLine then .textStart else if flags.crlf then .lineStartCrlf else .lineStart)

def endPattern (flags : Flags) : Pattern :=
  .look (if !flags.multiLine then .textEnd else if flags.crlf then .lineEndCrlf else .lineEnd)

/-- Read an item that is neither a group nor a class nor a repetition. -/
def readPrimitive (c : Char) : Read Pattern := do
  if c == '\\' then
    match ← readEscape with
    | .literal c byte => literalPattern c byte
    | .set s => return .chars s
    | .look condition => return .look condition
  else
    drop 1
    match c with
    | '.' => dotPattern
    | '^' => return startPattern (← flags)
    | '$' => return endPattern (← flags)
    | c => literalPattern c false

def readRepetition (c : Char) (items : List Item) : Read (List Item) := do
  match items with
  | [] => throw .nothingToRepeat
  | item :: items =>
    if !item.repeatable then throw .nothingToRepeat
    let (least, most) ←
      match c with
      | '*' => do drop 1; pure (0, none)
      | '+' => do drop 1; pure (1, none)
      | '?' => do drop 1; pure (0, some 1)
      | _ => readCount
    if (← peek) == some '?' then drop 1
    return { pattern := item.pattern.repeated least most, depth := item.depth + 1 } :: items

/-- Read alternatives up to the end of the enclosing group: `branches` are those read before and
`items` what has been read of the current one, both in reverse. -/
def readBranches : Nat → List Item → List Item → Read Item
  | 0, _, _ => throw .tooDeep
  | fuel + 1, branches, items => do
    skip
    match ← peek with
    | none | some ')' => return alternatives (sequence items :: branches)
    | some '|' =>
      drop 1
      readBranches fuel (sequence items :: branches) []
    | some '(' =>
      let outer ← flags
      match ← readGroupHead with
      | .setting flags =>
        modify fun s => { s with flags }
        readBranches fuel branches ({ pattern := .empty, repeatable := false } :: items)
      | .body flags =>
        modify fun s => { s with flags }
        let inner ← readBranches fuel [] []
        insist .unclosedGroup
        drop 1
        modify fun s => { s with flags := outer }
        readBranches fuel branches ({ pattern := inner.pattern, depth := inner.depth + 1 } :: items)
    | some '[' =>
      let (s, depth) ← readClass (2 * (← ahead).length + 2)
      readBranches fuel branches ({ pattern := .chars s, depth } :: items)
    | some c =>
      if c == '*' || c == '+' || c == '?' || c == '\x7b' then
        readBranches fuel branches (← readRepetition c items)
      else
        let p ← readPrimitive c
        readBranches fuel branches ({ pattern := p } :: items)

/-! ## Patterns -/

def readPattern : Read Pattern := do
  let item ← readBranches ((← ahead).length + 1) [] []
  if (← peek).isSome then throw .unopenedGroup
  if depthMax < item.depth then throw .tooDeep
  if weightMax < item.pattern.weight then throw .tooLarge
  return item.pattern

def parse (s : String) : Except Fault Pattern :=
  (StateT.run readPattern { rest := s.toList }).map (·.1)

end ImageGate.Pattern
