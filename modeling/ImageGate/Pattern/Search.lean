import ImageGate.Pattern.Basic
import ImageGate.Unicode.Trait

/-!
# Searching for patterns

A pattern is searched for by following all ways through a text at once. The positions reached are
kept as a set; a pattern takes the set of positions where it may begin to the set of those where it
may end. Positions never go back, so a repetition that has run once more than there are characters
reaches nothing new.
-/

namespace ImageGate

/-- A set of positions: bit `i` stands for the position before the character number `i`. -/
abbrev Positions := Nat

namespace Look

def isWord (ascii : Bool) (c : Char) : Bool :=
  if ascii then c.isAlphanum || c == '_' else Unicode.wordChars.contains c

/-- Whether the condition holds between the characters `before` and `after`; `none` is an end of
the text. -/
def holds (look : Look) (before after : Option Char) : Bool :=
  match look with
  | .textStart => before.isNone
  | .textEnd => after.isNone
  | .lineStart => before.isNone || before == some '\n'
  | .lineEnd => after.isNone || after == some '\n'
  | .lineStartCrlf =>
    before.isNone || before == some '\n' || (before == some '\r' && after != some '\n')
  | .lineEndCrlf =>
    after.isNone || after == some '\r' || (after == some '\n' && before != some '\r')
  | .word edge ascii =>
    let b := before.any (isWord ascii)
    let a := after.any (isWord ascii)
    match edge with
    | .boundary => b != a
    | .noBoundary => b == a
    | .start => !b && a
    | .stop => b && !a
    | .startHalf => !b
    | .stopHalf => !a

/-- The positions of a text where the condition holds. -/
def positions (look : Look) (before : Option Char) : List Char → Positions
  | [] => if look.holds before none then 1 else 0
  | c :: cs =>
    2 * positions look (some c) cs + if look.holds before (some c) then 1 else 0

end Look

/-- The positions of a text that stand before a member of the set. -/
def CharSet.positions (set : CharSet) : List Char → Positions
  | [] => 0
  | c :: cs => 2 * set.positions cs + if set.contains c then 1 else 0

namespace Pattern

/-- Apply `f` up to `n` times, until nothing changes. -/
def iterate (f : Positions → Positions) : Nat → Positions → Positions
  | 0, here => here
  | n + 1, here => if f here = here then here else iterate f n (f here)

/-- The positions where the pattern may end when it begins at one of `here`. -/
def advance (text : List Char) (p : Pattern) (here : Positions) : Positions :=
  match p with
  | .empty => here
  | .chars set => 2 * (here &&& set.positions text)
  | .look condition => here &&& condition.positions none text
  | .seq a b => b.advance text (a.advance text here)
  | .alt a b => a.advance text here ||| b.advance text here
  | .rep a least most =>
    let rounds := text.length + 1
    let behind := iterate (a.advance text) (min least rounds) here
    let more := (most.map (· - least)).getD rounds
    iterate (fun s => s ||| a.advance text s) (min more rounds) behind

/-- Whether the pattern is found anywhere in the text. -/
def isFoundIn (p : Pattern) (text : String) : Bool :=
  p.advance text.toList (Nat.pow 2 (text.toList.length + 1) - 1) != 0

end Pattern

end ImageGate
