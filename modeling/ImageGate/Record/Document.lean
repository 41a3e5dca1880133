import ImageGate.Json.Parser
import ImageGate.Record.Field

/-!
# Reading whole texts

A YAML text is judged as far as it can be read: a fault in what stands before the place where the
text breaks off is reported rather than the break. An empty text is an empty record.
-/

namespace ImageGate

variable {β : Type}

def Yaml.decode (read : Yaml.Node → Except ShapeFault β) (text : String) : Except ShapeFault β := do
  let document := Yaml.read text.toList
  let b ← read (document.root.getD .nothing)
  if document.complete then return b else throw .malformed

def Json.decode (read : Json → Except ShapeFault β) (text : String) : Except ShapeFault β :=
  match Json.parse text with
  | .ok j => read j
  | .error _ => .error .malformed

def ShapeFault.message : ShapeFault → String
  | .wrongType => "a value of another type is expected"
  | .missing field => "missing field '" ++ field ++ "'"
  | .repeated field => "repeated field '" ++ field ++ "'"
  | .tooMany => "a list is longer than the record it stands for"
  | .unknownName => "unknown name"
  | .badDate raw => "invalid date '" ++ raw ++ "', expected RFC 3339 or YYYY-MM-DD"
  | .malformed => "malformed text"

end ImageGate
