import ImageGate.Text.CharSet

/-!
# Patterns

A pattern describes a set of texts: characters from a set, positions with a given neighbourhood,
sequences, alternatives and repetitions. Groups only bind, so they leave no trace here.
-/

namespace ImageGate

/-- Where a position stands relative to words. -/
inductive WordEdge where
  /-- Between a word character and something else. -/
  | boundary
  | noBoundary
  | start
  | stop
  /-- Not behind a word character. -/
  | startHalf
  /-- Not before a word character. -/
  | stopHalf
deriving DecidableEq, Repr

/-- A condition on a position in a text. -/
inductive Look where
  | textStart
  | textEnd
  | lineStart
  | lineEnd
  /-- As `lineStart`, where a carriage return with a line feed ends one line, not two. -/
  | lineStartCrlf
  | lineEndCrlf
  /-- Relative to words, of ASCII characters alone if `ascii`. -/
  | word (edge : WordEdge) (ascii : Bool)
deriving DecidableEq, Repr

inductive Pattern where
  | empty
  | chars (set : CharSet)
  | look (condition : Look)
  | seq (first second : Pattern)
  | alt (first second : Pattern)
  /-- At least `least` times, and at most `most` times if that is given. -/
  | rep (body : Pattern) (least : Nat) (most : Option Nat)
deriving Repr, Inhabited

namespace Pattern

def concat : List Pattern → Pattern
  | [] => .empty
  | [p] => p
  | p :: ps => .seq p (concat ps)

/-- One or another; no choice at all is the empty pattern. -/
def choice : List Pattern → Pattern
  | [] => .empty
  | [p] => p
  | p :: ps => .alt p (choice ps)

/-- The pattern holds of no text but the empty one. -/
def isNullary : Pattern → Bool
  | .empty => true
  | .chars _ => false
  | .look _ => true
  | .seq a b => a.isNullary && b.isNullary
  | .alt a b => a.isNullary && b.isNullary
  | .rep a _ most => a.isNullary || most == some 0

/-- Repeat; of a pattern without extent, one repetition is as good as many. -/
def repeated (p : Pattern) (least : Nat) (most : Option Nat) : Pattern :=
  if p.isNullary then .rep p (min least 1) (some (min (most.getD 1) 1)) else .rep p least most

/-! ## Size -/

/-- Room in bytes that the pattern takes as an automaton over UTF-8 bytes: one state a character of
ASCII, several a range of others, and a copy of the body for each repetition that is counted. -/
def weight : Pattern → Nat
  | .empty => 32
  | .chars set =>
    if set.isAscii then 32 + 8 * (set.ranges.length - 1) else 32 + 60 * set.ranges.length
  | .look _ => 32
  | .seq a b => a.weight + b.weight
  | .alt a b => a.weight + b.weight + 40
  | .rep a least most =>
    match most with
    | none => max least 1 * a.weight + 40
    | some most => max least most * a.weight + (most - least) * 40

def weightMax : Nat := 10485760

end Pattern

end ImageGate
