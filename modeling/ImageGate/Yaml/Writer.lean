import ImageGate.Yaml.Number
import ImageGate.Text.Quoted

/-!
# Writing YAML

Records and lists are written in block style: an entry a line, nested records two columns deeper,
and the items of a list under the key that they belong to. A text is written without quotes where it
can be, in single quotes where it would otherwise be read as something else, in double quotes where
characters need escapes, and line by line if it has several lines.
-/

namespace ImageGate.Yaml

open Text (hexDigits)

inductive Value where
  | flag (b : Bool)
  | text (s : String)
  | list (items : List Value)
  | record (fields : List (String × Value))
deriving Repr, Inhabited

/-! ## Styles of texts -/

/-- A character that can stand in a text as it is. -/
def isVisible (c : Char) : Bool :=
  let n := c.toNat
  n == 0x0A || (0x20 ≤ n && n ≤ 0x7E) || (0xA0 ≤ n && n != 0xFEFF && n != 0xFFFE && n != 0xFFFF)

/-- An indicator that no plain text begins with. -/
def isIndicator (c : Char) : Bool :=
  "#,[]\x7b\x7d&*!|>'\"%@`".toList.contains c

/-- Somewhere a character that satisfies `p` stands before one that satisfies `q`. -/
def hasPair (p q : Char → Bool) : List Char → Bool
  | c :: d :: cs => (p c && q d) || hasPair p q (d :: cs)
  | _ => false

/-- A colon stands before a blank or at the end. -/
def hasKeyColon : List Char → Bool
  | [] => false
  | c :: cs => (c == ':' && startsBlank cs) || hasKeyColon cs

/-- The text begins like a document mark. -/
def startsLikeMark : List Char → Bool
  | '-' :: '-' :: '-' :: _ => true
  | '.' :: '.' :: '.' :: _ => true
  | _ => false

/-- The text begins with something that has a meaning of its own. -/
def startsWithIndicator : List Char → Bool
  | [] => false
  | c :: cs => isIndicator c || ((c == '?' || c == '-') && startsBlank cs)

/-- Characters that need escapes, or a space that would be lost at the end of a line. -/
def needsEscapes (cs : List Char) : Bool :=
  !cs.all isVisible || hasPair (· == ' ') isBreak cs

def isPlain (cs : List Char) : Bool :=
  !(needsEscapes cs || cs.any isBreak || cs.head? == some ' ' || cs.getLast? == some ' ' ||
    startsLikeMark cs || startsWithIndicator cs || hasKeyColon cs ||
    hasPair (fun c => isSpace c || isBreak c) (· == '#') cs)

/-- The text can be written in single quotes: no line begins with a space that would be lost. -/
def isSingle (cs : List Char) : Bool :=
  !(needsEscapes cs || hasPair isBreak (· == ' ') cs)

def isLiteral (cs : List Char) : Bool :=
  !(needsEscapes cs || cs.getLast? == some ' ')

def styleOf (s : String) : Style :=
  let cs := s.toList
  if cs.contains '\n' then if isLiteral cs then .literal else .double
  else if !isLookAlike s && isPlain cs then .plain
  else if isSingle cs then .single
  else .double

/-! ## Texts -/

def spaces (n : Nat) : List Char :=
  List.replicate n ' '

/-- The lines of a text in single quotes: quotes are doubled, and what follows a line end is
indented. -/
def singleLines (indent : Nat) : Bool → List Char → List Char
  | _, [] => []
  | afterBreak, c :: cs =>
    if isBreak c then c :: singleLines indent true cs
    else
      (if afterBreak then spaces indent else []) ++ (if c == '\'' then [c, c] else [c]) ++
        singleLines indent false cs

def writeSingle (indent : Nat) (cs : List Char) : List Char :=
  let closing := if cs.getLast?.any isBreak then spaces indent else []
  '\'' :: singleLines indent false cs ++ closing ++ ['\'']

/-- Digits of a character code, in capitals and at least `width` of them. -/
def codeDigits (width n : Nat) : List Char :=
  let digits := (hexDigits n).map Char.toUpper
  List.replicate (width - digits.length) '0' ++ digits

/-- The letter of an escape without a code. -/
def escapeLetter? (c : Char) : Option Char :=
  match c.toNat with
  | 0x00 => some '0'
  | 0x07 => some 'a'
  | 0x08 => some 'b'
  | 0x09 => some 't'
  | 0x0A => some 'n'
  | 0x0B => some 'v'
  | 0x0C => some 'f'
  | 0x0D => some 'r'
  | 0x1B => some 'e'
  | 0x22 => some '"'
  | 0x5C => some '\\'
  | 0x85 => some 'N'
  | 0xA0 => some '_'
  | 0x2028 => some 'L'
  | 0x2029 => some 'P'
  | _ => none

def writeEscaped (c : Char) : List Char :=
  if isVisible c && !isBreak c && c != '"' && c != '\\' then [c]
  else
    match escapeLetter? c with
    | some letter => ['\\', letter]
    | none =>
      if c.toNat ≤ 0xFF then '\\' :: 'x' :: codeDigits 2 c.toNat
      else if c.toNat ≤ 0xFFFF then '\\' :: 'u' :: codeDigits 4 c.toNat
      else '\\' :: 'U' :: codeDigits 8 c.toNat

def writeDouble (cs : List Char) : List Char :=
  '"' :: cs.flatMap writeEscaped ++ ['"']

/-- What is said about the line ends at the end of a text. -/
def chomping (cs : List Char) : List Char :=
  match cs.reverse with
  | [] => ['-']
  | [c] => if isBreak c then ['+'] else ['-']
  | c :: d :: _ => if !isBreak c then ['-'] else if isBreak d then ['+'] else []

/-- The lines of a text, each indented unless it is empty. -/
def writeLines (indent : Nat) : Bool → List Char → List Char
  | _, [] => []
  | afterBreak, c :: cs =>
    if isBreak c then c :: writeLines indent true cs
    else (if afterBreak then spaces indent else []) ++ c :: writeLines indent false cs

/-- A text line by line, the last line end included. -/
def writeLiteral (indent : Nat) (cs : List Char) : List Char :=
  let hint := if cs.head?.any fun c => c == ' ' || isBreak c then ['2'] else []
  let lines := '|' :: hint ++ chomping cs ++ '\n' :: writeLines indent true cs
  if cs.getLast?.any isBreak then lines else lines ++ ['\n']

/-- A text with the line end behind it; further lines are indented by `indent`. -/
def writeText (indent : Nat) (s : String) : List Char :=
  match styleOf s with
  | .plain => s.toList ++ ['\n']
  | .single => writeSingle indent s.toList ++ ['\n']
  | .literal | .folded => writeLiteral indent s.toList
  | .double => writeDouble s.toList ++ ['\n']

/-! ## Values -/

mutual

/-- What stands behind a key in column `indent`. -/
def writeValue (indent : Nat) : Value → List Char
  | .flag b => ' ' :: (if b then "true" else "false").toList ++ ['\n']
  | .text s => ' ' :: writeText (indent + 2) s
  | .list [] => " []\n".toList
  | .list items => '\n' :: writeItems indent items
  | .record [] => " \x7b\x7d\n".toList
  | .record fields => '\n' :: writeFields (indent + 2) fields

/-- The items of a list whose dashes stand in column `indent`. -/
def writeItems (indent : Nat) : List Value → List Char
  | [] => []
  | .record (f :: fields) :: more =>
    spaces indent ++ '-' :: ' ' :: (writeFields (indent + 2) (f :: fields)).drop (indent + 2) ++
      writeItems indent more
  | item :: more => spaces indent ++ '-' :: writeValue indent item ++ writeItems indent more

/-- The fields of a record in column `indent`. -/
def writeFields (indent : Nat) : List (String × Value) → List Char
  | [] => []
  | (name, v) :: more =>
    spaces indent ++ name.toList ++ ':' :: writeValue indent v ++ writeFields indent more

end

def writeDocument (fields : List (String × Value)) : String :=
  String.ofList (writeFields 0 fields)

/-! ## What is read back -/

mutual

/-- The node that a written value stands for. -/
def Value.toNode : Value → Node
  | .flag b => .scalar none .plain (if b then "true" else "false")
  | .text s => .scalar none (styleOf s) s
  | .list items => .seq none (nodes items)
  | .record fields => .map none (entries fields)

/-- The nodes of the items of a list. -/
def Value.nodes : List Value → List Node
  | [] => []
  | v :: vs => v.toNode :: nodes vs

/-- The keys and nodes of the fields of a record. -/
def Value.entries : List (String × Value) → List (Node × Node)
  | [] => []
  | (name, v) :: more => (.scalar none .plain name, v.toNode) :: entries more

end

end ImageGate.Yaml
