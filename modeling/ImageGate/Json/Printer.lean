import ImageGate.Json.Basic
import ImageGate.Text.Quoted

/-!
# Writing JSON

Values on one line, or with an entry a line. Texts are written as they are, save quotes, backslashes
and control characters.
-/

namespace ImageGate.Json

open Text

/-- A character of a string. -/
def escape (c : Char) : List Char :=
  if c == '"' || c == '\\' then ['\\', c]
  else if c == '\n' then ['\\', 'n']
  else if c == '\r' then ['\\', 'r']
  else if c == '\t' then ['\\', 't']
  else if c == '\x08' then ['\\', 'b']
  else if c == '\x0c' then ['\\', 'f']
  else if c.toNat < 0x20 then
    let digits := hexDigits c.toNat
    '\\' :: 'u' :: List.replicate (4 - digits.length) '0' ++ digits
  else [c]

def renderString (s : String) : String :=
  String.ofList ('"' :: s.toList.flatMap escape ++ ['"'])

def braces : String × String := ("\x7b", "\x7d")

mutual

/-- The value on one line. -/
def render : Json → String
  | .null => "null"
  | .bool b => if b then "true" else "false"
  | .int n => toString n
  | .fraction => "0.0"
  | .string s => renderString (s.getD "")
  | .array items => "[" ++ renderItems items ++ "]"
  | .object entries => braces.1 ++ renderEntries entries ++ braces.2

/-- Items with commas between them. -/
def renderItems : List Json → String
  | [] => ""
  | [j] => j.render
  | j :: js => j.render ++ "," ++ renderItems js

/-- Entries with commas between them. -/
def renderEntries : List (Option String × Json) → String
  | [] => ""
  | [(k, v)] => renderString (k.getD "") ++ ":" ++ v.render
  | (k, v) :: more => renderString (k.getD "") ++ ":" ++ v.render ++ "," ++ renderEntries more

end

/-- The beginning of a line that is indented `depth` deep. -/
def newLine (depth : Nat) : String :=
  "\n" ++ String.ofList (List.replicate (2 * depth) ' ')

mutual

/-- The value with an item or an entry a line; its first line is already indented. -/
def renderLines (depth : Nat) : Json → String
  | .array [] => "[]"
  | .array items => "[" ++ renderItemLines (depth + 1) items ++ newLine depth ++ "]"
  | .object [] => braces.1 ++ braces.2
  | .object entries =>
    braces.1 ++ renderEntryLines (depth + 1) entries ++ newLine depth ++ braces.2
  | j => j.render

/-- Items, each on lines of its own. -/
def renderItemLines (depth : Nat) : List Json → String
  | [] => ""
  | [j] => newLine depth ++ renderLines depth j
  | j :: js => newLine depth ++ renderLines depth j ++ "," ++ renderItemLines depth js

/-- Entries, each on lines of its own. -/
def renderEntryLines (depth : Nat) : List (Option String × Json) → String
  | [] => ""
  | [(k, v)] => newLine depth ++ renderString (k.getD "") ++ ": " ++ renderLines depth v
  | (k, v) :: more =>
    newLine depth ++ renderString (k.getD "") ++ ": " ++ renderLines depth v ++ "," ++
      renderEntryLines depth more

end

/-- The value over several lines. -/
def pretty (j : Json) : String :=
  renderLines 0 j

end ImageGate.Json
