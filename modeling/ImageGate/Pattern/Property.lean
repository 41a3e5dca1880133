import ImageGate.Unicode.Age
import ImageGate.Unicode.Break
import ImageGate.Unicode.CaseFold
import ImageGate.Unicode.Script
import ImageGate.Unicode.Trait

/-!
# Named sets of characters

The sets that patterns can name: properties of characters, and the classic classes of ASCII. Names
of properties are compared without regard to case, blanks, dashes and underscores, and a leading
`is` does not count.
-/

namespace ImageGate.Pattern

open Unicode

/-! ## Properties -/

/-- Drop a leading `is`, in any case. -/
def dropIs : List Char → List Char
  | i :: s :: cs => if i.toLower == 'i' && s.toLower == 's' then cs else i :: s :: cs
  | cs => cs

/-- A name as it is compared. -/
def looseName (cs : List Char) : String :=
  let plain (cs : List Char) :=
    (cs.filter fun c => c != ' ' && c != '_' && c != '-' && c.toNat < 0x80).map Char.toLower
  let name := plain (dropIs cs)
  -- `isc` is a name of its own and not the class `c`.
  if name == ['c'] && dropIs cs != cs then "isc" else String.ofList name

/-- The set that a lone name stands for: a trait, a category or a script. Three short names are
shared by a trait and a category, and mean the category. -/
def propertyNamed? (cs : List Char) : Option CharSet :=
  let name := looseName cs
  let byTrait := if ["cf", "sc", "lc"].contains name then none else trait? name
  (byTrait.orElse fun _ => category? name).orElse fun _ => script? name

/-- The set that a name and a value stand for. -/
def propertyValued? (cs value : List Char) : Option CharSet :=
  match looseName cs with
  | "gc" | "generalcategory" => category? (looseName value)
  | "sc" | "script" => script? (looseName value)
  | "scx" | "scriptextensions" => scriptUse? (looseName value)
  | "age" => age? (looseName value)
  | "gcb" | "graphemeclusterbreak" => membersOf? clusterBreaks (looseName value)
  | "wb" | "wordbreak" => membersOf? wordBreaks (looseName value)
  | "sb" | "sentencebreak" => membersOf? sentenceBreaks (looseName value)
  | _ => none

/-! ## Classes -/

/-- The class behind the letter of `\d`, `\s` or `\w`, given in lower case. -/
def letterClass (ascii : Bool) (letter : Char) : CharSet :=
  match letter, ascii with
  | 'd', true => .range '0' '9'
  | 'd', false => decimalDigits
  | 's', true => .ofList ['\t', '\n', '\x0b', '\x0c', '\r', ' ']
  | 's', false => whiteSpace
  | _, true => .ofRanges [(0x30, 0x39), (0x41, 0x5A), (0x5F, 0x5F), (0x61, 0x7A)]
  | _, false => wordChars

def asciiClass? (name : List Char) : Option CharSet :=
  match String.ofList name with
  | "alnum" => some (.ofRanges [(0x30, 0x39), (0x41, 0x5A), (0x61, 0x7A)])
  | "alpha" => some (.ofRanges [(0x41, 0x5A), (0x61, 0x7A)])
  | "ascii" => some (.ofRanges [(0x00, 0x7F)])
  | "blank" => some (.ofList ['\t', ' '])
  | "cntrl" => some (.ofRanges [(0x00, 0x1F), (0x7F, 0x7F)])
  | "digit" => some (.range '0' '9')
  | "graph" => some (.range '!' '~')
  | "lower" => some (.range 'a' 'z')
  | "print" => some (.range ' ' '~')
  | "punct" => some (.ofRanges [(0x21, 0x2F), (0x3A, 0x40), (0x5B, 0x60), (0x7B, 0x7E)])
  | "space" => some (letterClass true 's')
  | "upper" => some (.range 'A' 'Z')
  | "word" => some (letterClass true 'w')
  | "xdigit" => some (.ofRanges [(0x30, 0x39), (0x41, 0x46), (0x61, 0x66)])
  | _ => none

end ImageGate.Pattern
