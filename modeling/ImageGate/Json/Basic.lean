/-!
# JSON

JSON values. Numbers are told apart by how they are written: integers within 64 bits are kept
exactly, and all others count as fractions, whose value is of no interest here. A string whose
escapes spell half a character is a string without a text. Objects keep their entries in order,
repeated keys included.
-/

namespace ImageGate

inductive Json where
  | null
  | bool (b : Bool)
  | int (n : Int)
  | fraction
  | string (text : Option String)
  | array (items : List Json)
  | object (entries : List (Option String × Json))
deriving Repr, Inhabited

namespace Json

def text (s : String) : Json :=
  .string (some s)

def record (entries : List (String × Json)) : Json :=
  .object (entries.map fun (k, v) => (some k, v))

/-- The value of the last entry with a key. -/
def get? (j : Json) (key : String) : Option Json :=
  match j with
  | .object entries => (entries.reverse.find? (·.1 == some key)).map (·.2)
  | _ => none

end Json

end ImageGate
