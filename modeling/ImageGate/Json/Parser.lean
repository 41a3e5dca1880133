import ImageGate.Json.Basic
import ImageGate.Text.Digits

/-!
# Reading JSON

The grammar of JSON, without extensions: no comments, no trailing commas, no leading zeros, no
control characters in strings.
-/

namespace ImageGate.Json

/-- Why a text is not JSON. -/
inductive Fault where
  | ends
  | unexpected (c : Char)
  | badNumber
  | badEscape
  | trailing
deriving DecidableEq, Repr

def Fault.message : Fault → String
  | .ends => "unexpected end of input"
  | .unexpected c => "unexpected character '" ++ String.singleton c ++ "'"
  | .badNumber => "invalid number"
  | .badEscape => "invalid escape"
  | .trailing => "trailing characters"

def isBlank (c : Char) : Bool :=
  c == ' ' || c == '\n' || c == '\t' || c == '\r'

def skip (cs : List Char) : List Char :=
  cs.dropWhile isBlank

/-! ## Strings -/

/-- Read four hexadecimal digits. -/
def readUnit : List Char → Except Fault (Nat × List Char)
  | a :: b :: c :: d :: cs =>
    match Text.valueIn? 16 [a, b, c, d] with
    | some unit => .ok (unit, cs)
    | none => .error .badEscape
  | _ => .error .ends

/-- What an escape without a code stands for. -/
def simpleEscape? : Char → Option Char
  | '"' => some '"'
  | '\\' => some '\\'
  | '/' => some '/'
  | 'b' => some '\x08'
  | 'f' => some '\x0c'
  | 'n' => some '\n'
  | 'r' => some '\r'
  | 't' => some '\t'
  | _ => none

/-- Read an escape behind its backslash. Two units that make up one character are read together; a
unit that is half a character gives none. -/
def readEscape : List Char → Except Fault ((Option Char) × List Char)
  | 'u' :: cs => do
    let (n, cs) ← readUnit cs
    if n.isValidChar then return (some (Char.ofNat n), cs)
    match cs with
    | '\\' :: 'u' :: cs' =>
      let (m, rest) ← readUnit cs'
      if n < 0xDC00 && 0xDC00 ≤ m && m ≤ 0xDFFF then
        return (some (Char.ofNat (0x10000 + (n - 0xD800) * 0x400 + (m - 0xDC00))), rest)
      else return (none, cs)
    | _ => return (none, cs)
  | c :: cs =>
    match simpleEscape? c with
    | some d => .ok (some d, cs)
    | none => .error .badEscape
  | [] => .error .ends

/-- Read a string behind its opening quote; `none` if one of its escapes gives no character. -/
def readString : Nat → List Char → Except Fault ((Option (List Char)) × List Char)
  | 0, _ => .error .ends
  | fuel + 1, cs =>
    match cs with
    | [] => .error .ends
    | '"' :: cs => .ok (some [], cs)
    | '\\' :: cs => do
      let (c, cs) ← readEscape cs
      let (text, cs) ← readString fuel cs
      return (c.bind fun c => text.map (c :: ·), cs)
    | c :: cs =>
      if c.toNat < 0x20 then .error (.unexpected c)
      else do
        let (text, cs) ← readString fuel cs
        return (text.map (c :: ·), cs)

/-! ## Numbers -/

/-- Drop digits, of which there has to be one. -/
def dropDigits (cs : List Char) : Except Fault (List Char) :=
  if cs.head?.any Char.isDigit then .ok (cs.dropWhile Char.isDigit) else .error .badNumber

/-- Drop a fraction and an exponent; tells whether there was one. -/
def dropFraction (cs : List Char) : Except Fault (Bool × List Char) := do
  let (pointed, cs) ← match cs with
    | '.' :: cs => (dropDigits cs).map fun cs => (true, cs)
    | cs => .ok (false, cs)
  match cs with
  | 'e' :: s :: cs | 'E' :: s :: cs =>
    let cs := if s == '+' || s == '-' then cs else s :: cs
    return (true, ← dropDigits cs)
  | ['e'] | ['E'] => .error .badNumber
  | cs => return (pointed, cs)

/-- Read a number. Minus zero is a fraction, and so is an integer beyond 64 bits. -/
def readNumber (cs : List Char) : Except Fault (Json × List Char) := do
  let (negative, cs) := match cs with
    | '-' :: cs => (true, cs)
    | cs => (false, cs)
  let digits := cs.takeWhile Char.isDigit
  let rest := cs.dropWhile Char.isDigit
  match digits with
  | [] | '0' :: _ :: _ => .error .badNumber
  | digits =>
    let (pointed, rest) ← dropFraction rest
    let n := Text.decimalValue digits
    let fits := if negative then n != 0 && n ≤ signedMax + 1 else n ≤ wordMax
    return (if !pointed && fits then .int (if negative then -n else n) else .fraction, rest)

/-! ## Values -/

def readWord (word : String) (value : Json) (cs : List Char) : Except Fault (Json × List Char) :=
  if word.toList.isPrefixOf cs then .ok (value, cs.drop word.length) else .error .badEscape

mutual

def readValue : Nat → List Char → Except Fault (Json × List Char)
  | 0, _ => .error .ends
  | fuel + 1, cs =>
    match skip cs with
    | [] => .error .ends
    | '"' :: cs => do
      let (s, cs) ← readString (cs.length + 1) cs
      return (.string (s.map String.ofList), cs)
    | '[' :: cs =>
      match skip cs with
      | ']' :: cs => .ok (.array [], cs)
      | cs => do
        let (items, cs) ← readItems fuel cs
        return (.array items, cs)
    | '\x7b' :: cs =>
      match skip cs with
      | '\x7d' :: cs => .ok (.object [], cs)
      | cs => do
        let (entries, cs) ← readEntries fuel cs
        return (.object entries, cs)
    | 't' :: cs => readWord "true" (.bool true) ('t' :: cs)
    | 'f' :: cs => readWord "false" (.bool false) ('f' :: cs)
    | 'n' :: cs => readWord "null" .null ('n' :: cs)
    | c :: cs =>
      if c == '-' || c.isDigit then readNumber (c :: cs) else .error (.unexpected c)

/-- Read the items of an array and its closing bracket. -/
def readItems : Nat → List Char → Except Fault ((List Json) × List Char)
  | 0, _ => .error .ends
  | fuel + 1, cs => do
    let (item, cs) ← readValue fuel cs
    match skip cs with
    | ',' :: cs =>
      let (items, cs) ← readItems fuel cs
      return (item :: items, cs)
    | ']' :: cs => return ([item], cs)
    | c :: _ => throw (.unexpected c)
    | [] => throw .ends

/-- Read the entries of an object and its closing brace. -/
def readEntries : Nat → List Char → Except Fault ((List (Option String × Json)) × List Char)
  | 0, _ => .error .ends
  | fuel + 1, cs => do
    match skip cs with
    | '"' :: cs =>
      let (key, cs) ← readString (cs.length + 1) cs
      match skip cs with
      | ':' :: cs =>
        let (value, cs) ← readValue fuel cs
        let entry := (key.map String.ofList, value)
        match skip cs with
        | ',' :: cs =>
          let (entries, cs) ← readEntries fuel cs
          return (entry :: entries, cs)
        | '\x7d' :: cs => return ([entry], cs)
        | c :: _ => throw (.unexpected c)
        | [] => throw .ends
      | c :: _ => throw (.unexpected c)
      | [] => throw .ends
    | c :: _ => throw (.unexpected c)
    | [] => throw .ends

end

/-- Read a text that holds a single value. -/
def parse (s : String) : Except Fault Json := do
  let (value, rest) ← readValue (s.toList.length + 1) s.toList
  if (skip rest).isEmpty then return value else throw .trailing

end ImageGate.Json
