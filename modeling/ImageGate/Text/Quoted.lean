import ImageGate.Text.Digits
import ImageGate.Unicode.Trait

/-!
# Quoted text

Text shown between quotes in messages. What could not be seen there is written as an escape: line
ends and tabs by letter, the quote and the backslash behind a backslash, and every other character
without a visible form of its own by its code in braces.
-/

namespace ImageGate.Text

/-- A character between quotes of the kind `quote`. -/
def escape (quote c : Char) : List Char :=
  if c == '\x00' then ['\\', '0']
  else if c == '\t' then ['\\', 't']
  else if c == '\r' then ['\\', 'r']
  else if c == '\n' then ['\\', 'n']
  else if c == '\\' || c == quote then ['\\', c]
  else if Unicode.graphemeExtend.contains c || Unicode.unprintable.contains c then
    ['\\', 'u', '\x7b'] ++ hexDigits c.toNat ++ ['\x7d']
  else [c]

def quoted (s : String) : String :=
  String.ofList ('"' :: s.toList.flatMap (escape '"') ++ ['"'])

/-- A character between single quotes. -/
def quotedChar (c : Char) : String :=
  String.ofList ('\'' :: escape '\'' c ++ ['\''])

/-- A list of texts, each between double quotes, in brackets. -/
def quotedList (ss : List String) : String :=
  "[" ++ ", ".intercalate (ss.map quoted) ++ "]"

end ImageGate.Text
