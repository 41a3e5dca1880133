import ImageGate.Unicode.Trait

/-!
# Width of text

How many columns a text takes up where all letters are equally wide. East Asian letters and most
pictographs take two columns, marks and invisible characters take none. A pictograph that is put
together from several characters takes two columns in all.
-/

namespace ImageGate.Unicode

/-- Characters of two columns. -/
def wide : CharSet :=
  table [
    "1100+5F 11BA+1 D+1 BE+3 3 2 209+1 15+1 32+B 2B 13 D 8+1 11+1 5+1 8 5 15 7+1 1 4 2 7 4+1 1C",
    "23 1 4+2 1 3D+2 18 E 35B+1 33 4 32A+19 1+58 C+D5 1A+B 4+3E 2+55 2+66 5+2A 1+5D 1+53 C+2E",
    "1+27 8+1B6F 40+568C 3+36 499+1C 283+2BA3 215C+1FF 310+9 16+22 1+12 1+3 95+5F 7F+6 6FF9+4 B+1",
    "E+17F7 8+4D5 2A+8 22E7+3 1+6 1+1 1+122 F 1D+2 2 E+3 8+18B 3D08 CA BE 2+9 65+2 D+2B 4+8 7+1",
    "E+5 9A+20 C+8 1+45 1+15 C+2A 4+4 C+10 3 3+46 1 1+BA 2+3E D+3 1+17 12 1A+1 D 56+54 30+45 6",
    "3+2 2+2 4+3 B+1 7+8 E3+B 4 11B+2E 1+9 1+B8 70+C 3+8 7+2D 1+6 8+D 4+8 7+8 507+FFFD 2+FFFD"]

/-- Vowels and finals that a Korean syllable is put together from. -/
def syllableParts : CharSet :=
  ⟨[(0x1160, 0x11FF), (0xD7B0, 0xD7C6), (0xD7CB, 0xD7FB)]⟩

/-- Characters of no column. -/
def narrowest : CharSet :=
  .ofRanges (graphemeExtend.ranges ++ (traitMembers "defaultignorablecodepoint").ranges ++
    syllableParts.ranges)

/-- Pictographs, and characters that can be shown as such. -/
def pictographs : CharSet :=
  traitMembers "emoji"

/-- Characters that give a pictograph its colour of skin. -/
def skinTones : CharSet :=
  traitMembers "emojimodifier"

/-- Pictographs that skin tones go with. -/
def toned : CharSet :=
  traitMembers "emojimodifierbase"

/-- The sign that joins pictographs. -/
def joiner : Char := '\u200D'

/-- The sign that asks for a pictograph rather than a letter. -/
def pictographSign : Char := '\uFE0F'

/-- Columns of a character by itself. -/
def charWidth (c : Char) : Nat :=
  if c.toNat < 0x7F then 1
  else if c.toNat = 0x115F then 2
  else if narrowest.contains c then 0
  else if wide.contains c then 2
  else 1

/-- Pass what belongs to the pictograph `c` that has just been read. Gives whether anything does,
and what follows. -/
def passPictograph (c : Char) : List Char → Bool × List Char
  | d :: cs =>
    if d == pictographSign || (toned.contains c && skinTones.contains d) then
      (true, (passPictograph d cs).2)
    else if d == joiner then
      match cs with
      | e :: more =>
        if pictographs.contains e then (true, (passPictograph e more).2) else (false, d :: cs)
      | [] => (false, [d])
    else (false, d :: cs)
  | [] => (false, [])

theorem length_passPictograph_le (c : Char) (cs : List Char) :
    (passPictograph c cs).2.length ≤ cs.length := by
  fun_induction passPictograph c cs <;> simp_all <;> omega

def displayWidth : List Char → Nat
  | [] => 0
  | '\r' :: '\n' :: cs => 1 + displayWidth cs
  | c :: cs =>
    if 0x7F ≤ c.toNat ∨ cs.head? = some pictographSign then
      if pictographs.contains c then
        let passed := passPictograph c cs
        (if passed.1 then 2 else charWidth c) + displayWidth passed.2
      else charWidth c + displayWidth cs
    else 1 + displayWidth cs
termination_by cs => cs.length
decreasing_by
  all_goals simp only [List.length_cons]
  · omega
  · have := length_passPictograph_le c cs
    omega
  all_goals omega

end ImageGate.Unicode
