import ImageGate.Record.Format

/-!
# Texts that look like something else

A text that YAML would read as a number, a truth value or nothing has to be written in quotes. The
numbers are the whole ones of up to 128 bits, in four notations, and decimal fractions that are
finite when rounded to 64 bits.
-/

namespace ImageGate.Yaml

open Text

/-! ## Decimal fractions -/

/-- A decimal fraction: its digits are worth `digits · 10 ^ exponent`. -/
structure Decimal where
  digits : Nat
  exponent : Int
deriving DecidableEq, Repr

namespace Decimal

/-- Read an exponent behind its mark: digits with an optional sign. -/
def readExponent (cs : List Char) : Option Int :=
  let (negative, digits) :=
    match cs with
    | '-' :: cs => (true, cs)
    | '+' :: cs => (false, cs)
    | cs => (false, cs)
  if digits.isEmpty || !digits.all Char.isDigit then none
  else some (if negative then -(decimalValue digits : Int) else decimalValue digits)

/-- Read a fraction without a sign: digits with a point among them, and an optional exponent. -/
def read (cs : List Char) : Option Decimal := do
  let whole := cs.takeWhile Char.isDigit
  let (part, rest) :=
    match cs.dropWhile Char.isDigit with
    | '.' :: cs => (cs.takeWhile Char.isDigit, cs.dropWhile Char.isDigit)
    | cs => ([], cs)
  guard (!(whole.isEmpty && part.isEmpty))
  let exponent ←
    match rest with
    | [] => some 0
    | c :: cs => if c == 'e' || c == 'E' then readExponent cs else none
  some ⟨decimalValue (whole ++ part), exponent - part.length⟩

/-- The smallest number that is rounded to infinity. -/
def infinite : Nat := Nat.pow 2 1024 - Nat.pow 2 970

/-- The fraction is not rounded to infinity. With an exponent beyond 309 only zero is not. -/
def isFinite (d : Decimal) : Bool :=
  if 0 ≤ d.exponent then
    d.digits == 0 || (d.exponent ≤ 309 && d.digits * Nat.pow 10 d.exponent.toNat < infinite)
  else
    let places := d.exponent.natAbs
    (Nat.toDigits 10 d.digits).length ≤ places || d.digits < infinite * Nat.pow 10 places

end Decimal

/-! ## Look-alikes -/

/-- Infinities and what is no number. -/
def isBeyond (text : String) : Bool :=
  [".inf", ".Inf", ".INF", "+.inf", "+.Inf", "+.INF", "-.inf", "-.Inf", "-.INF",
    ".nan", ".NaN", ".NAN"].contains text

/-- Decimal fractions, with an optional sign. -/
def isFraction (cs : List Char) : Bool :=
  let unsigned :=
    match cs with
    | '+' :: cs => cs
    | '-' :: cs => cs
    | cs => cs
  (Decimal.read unsigned).any (·.isFinite)

/-- Whole numbers of up to 128 bits, of which one is the sign of negative ones. -/
def isWhole (cs : List Char) : Bool :=
  (signed? cs).any fun n =>
    if n < 0 then n.natAbs ≤ Nat.pow 2 127 else n.natAbs < Nat.pow 2 128

/-- Digits behind a zero. -/
def isZeroLed (cs : List Char) : Bool :=
  let unsigned :=
    match cs with
    | '+' :: cs => cs
    | '-' :: cs => cs
    | cs => cs
  match unsigned with
  | '0' :: c :: cs => (c :: cs).all Char.isDigit
  | _ => false

/-- The text would be read as something else than a text. -/
def isLookAlike (text : String) : Bool :=
  text.isEmpty || isNull text || (truth? text).isSome || isWhole text.toList ||
    isZeroLed text.toList || isBeyond text || isFraction text.toList

end ImageGate.Yaml
