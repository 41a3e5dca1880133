import ImageGate.Json.Basic
import ImageGate.Yaml.Node

/-!
# Values as they are looked at

Rules, reports and settings are written in YAML or in JSON. A `Format` says which values of such a
format count as texts, numbers, lists and records; what a record means is said once, for both.

The two formats differ in strictness. In YAML any scalar will do as a text, and nothing at all as
an empty list or record. In JSON a value has the one type that it is written in, but a list may
stand for a record, field by field.
-/

namespace ImageGate

/-- How values of a data format are looked at. -/
structure Format (α : Type) where
  /-- As a text. -/
  text? : α → Option String
  /-- As a truth value. -/
  flag? : α → Option Bool
  /-- As a whole number. -/
  nat? : α → Option Nat
  /-- As a number that may be negative. -/
  int? : α → Option Int
  /-- As nothing, where a value is optional. -/
  isAbsent : α → Bool
  /-- As a list. -/
  items? : α → Option (List α)
  /-- As a record; a key may have no text. -/
  fields? : α → Option (List (Option String × α))
  /-- As a record without keys, in the order of its fields. -/
  row? : α → Option (List α)
  /-- As one of several names. -/
  name? : α → Option String

/-! ## JSON -/

namespace Json

/-- A name is a string, or an object with the name for its only key and nothing behind it. -/
def name? : Json → Option String
  | .string s => s
  | .object [(some name, .null)] => some name
  | _ => none

def format : Format Json where
  text? j := match j with | .string s => s | _ => none
  flag? j := match j with | .bool b => some b | _ => none
  nat? j := match j with | .int n => n.toNat? | _ => none
  int? j := match j with | .int n => some n | _ => none
  isAbsent j := match j with | .null => true | _ => false
  items? j := match j with | .array items => some items | _ => none
  fields? j := match j with | .object entries => some entries | _ => none
  row? j := match j with | .array items => some items | _ => none
  name? := name?

end Json

/-! ## YAML -/

namespace Yaml

/-- The tag of a core type. -/
def coreTag (type : String) : String :=
  "tag:yaml.org,2002:" ++ type

/-- Spellings of nothing. -/
def isNull (text : String) : Bool :=
  ["null", "Null", "NULL", "~"].contains text

/-- Spellings of a truth value. -/
def truth? (text : String) : Option Bool :=
  if ["true", "True", "TRUE"].contains text then some true
  else if ["false", "False", "FALSE"].contains text then some false
  else none

/-- The value of at least one digit to a base. -/
def digits? (base : Nat) (cs : List Char) : Option Nat :=
  if cs.isEmpty then none else Text.valueIn? base cs

/-- A number without a sign: hexadecimal, octal or binary behind a mark, else decimal, where no
zero stands in front. -/
def unsigned? : List Char → Option Nat
  | '0' :: 'x' :: cs => digits? 16 cs
  | '0' :: 'o' :: cs => digits? 8 cs
  | '0' :: 'b' :: cs => digits? 2 cs
  | '0' :: _ :: _ => none
  | cs => digits? 10 cs

/-- A number that may have a sign. -/
def signed? : List Char → Option Int
  | '-' :: cs => (unsigned? cs).map fun n => -(n : Int)
  | '+' :: cs => (unsigned? cs).map fun n => (n : Int)
  | cs => (unsigned? cs).map fun n => (n : Int)

/-- The text of a scalar that may be something else than a text: one without quotes, or one whose
tag says so. -/
def plainText? (type : String) : Node → Option String
  | .scalar _ .plain text => some text
  | .scalar (some tag) .literal text => if tag == coreTag type then some text else none
  | _ => none

/-- Whether nothing is written. -/
def isBare : Node → Bool
  | .scalar _ .plain "" => true
  | _ => false

/-- An optional value is absent when nothing or a spelling of nothing is written. -/
def isAbsent : Node → Bool
  | .scalar none .plain text => text.isEmpty || isNull text
  | .scalar (some tag) .plain text => tag == coreTag "null" && isNull text
  | _ => false

/-- A name is a scalar, or a local tag with nothing behind it. -/
def name? : Node → Option String
  | .scalar (some tag) style text =>
    match tag.toList with
    | '!' :: c :: cs =>
      if style == .plain && (text.isEmpty || isNull text) then some (String.ofList (c :: cs))
      else none
    | _ => some text
  | .scalar none _ text => some text
  | _ => none

def format : Format Node where
  text? n := match n with | .scalar _ _ text => some text | _ => none
  flag? n := (plainText? "bool" n).bind truth?
  nat? n := (plainText? "int" n).bind fun text =>
    match text.toList with
    | '-' :: _ => none
    | cs => (signed? cs).bind Int.toNat?
  int? n := (plainText? "int" n).bind fun text => signed? text.toList
  isAbsent := isAbsent
  items? n := match n with
    | .seq _ items => some items
    | n => if isBare n then some [] else none
  fields? n := match n with
    | .map _ entries => some (entries.map fun (k, v) =>
        (match k with | .scalar _ _ text => some text | _ => none, v))
    | n => if isBare n then some [] else none
  row? _ := none
  name? := name?

end Yaml

end ImageGate
