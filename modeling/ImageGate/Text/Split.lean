/-!
# Cutting text into pieces

Text is cut at separators in three ways: at the first one, at the last one, and at all of them.
Each cut loses nothing but the separator, and `joinWith` puts the pieces back together. Lengths
that the formats of this library bound are lengths in UTF-8 bytes.
-/

namespace ImageGate.Text

/-! ## One cut -/

/-- Cut at the first `sep`, which belongs to neither part. -/
def cutFirst? (sep : Char) : List Char → Option (List Char × List Char)
  | [] => none
  | c :: cs =>
    if c = sep then some ([], cs)
    else (cutFirst? sep cs).map fun (a, b) => (c :: a, b)

/-- Cut at the last `sep`, which belongs to neither part. -/
def cutLast? (sep : Char) : List Char → Option (List Char × List Char)
  | [] => none
  | c :: cs =>
    match cutLast? sep cs with
    | some (a, b) => some (c :: a, b)
    | none => if c = sep then some ([], cs) else none

/-- What follows the last `sep`; the whole text if there is none. -/
def afterLast (sep : Char) (cs : List Char) : List Char :=
  match cutLast? sep cs with
  | some (_, b) => b
  | none => cs

theorem eq_of_cutFirst?_eq_some {sep : Char} {cs a b : List Char}
    (h : cutFirst? sep cs = some (a, b)) : cs = a ++ sep :: b ∧ sep ∉ a := by
  induction cs generalizing a with
  | nil => simp [cutFirst?] at h
  | cons c cs ih =>
    by_cases hc : c = sep
    · simp [cutFirst?, hc] at h
      simp [h, hc]
    · simp only [cutFirst?, hc, if_false, Option.map_eq_some_iff, Prod.mk.injEq] at h
      obtain ⟨⟨a', b'⟩, h', rfl, rfl⟩ := h
      obtain ⟨rfl, hn⟩ := ih h'
      simp [hn, Ne.symm hc]

theorem cutFirst?_eq_none_iff {sep : Char} {cs : List Char} :
    cutFirst? sep cs = none ↔ sep ∉ cs := by
  induction cs with
  | nil => simp [cutFirst?]
  | cons c cs ih =>
    by_cases hc : c = sep
    · simp [cutFirst?, hc]
    · simp [cutFirst?, hc, ih, Ne.symm hc]

theorem eq_of_cutLast?_eq_some {sep : Char} {cs a b : List Char}
    (h : cutLast? sep cs = some (a, b)) : cs = a ++ sep :: b ∧ sep ∉ b := by
  induction cs generalizing a with
  | nil => simp [cutLast?] at h
  | cons c cs ih =>
    simp only [cutLast?] at h
    split at h
    · rename_i a' b' h'
      simp only [Option.some.injEq, Prod.mk.injEq] at h
      obtain ⟨rfl, rfl⟩ := h
      obtain ⟨rfl, hn⟩ := ih h'
      simp [hn]
    · rename_i hnone
      split at h
      · rename_i hc
        simp only [Option.some.injEq, Prod.mk.injEq] at h
        obtain ⟨rfl, rfl⟩ := h
        refine ⟨by simp [hc], ?_⟩
        clear ih
        induction cs with
        | nil => simp
        | cons d ds ih =>
          simp only [cutLast?] at hnone
          split at hnone
          · simp at hnone
          · rename_i hn
            split at hnone
            · simp at hnone
            · rename_i hd
              simp [ih hn, Ne.symm hd]
      · simp at h

/-! ## All cuts -/

/-- The pieces between the separators, empty ones included: one more than there are separators. -/
def pieces (isSep : Char → Bool) : List Char → List (List Char)
  | [] => [[]]
  | c :: cs =>
    if isSep c then [] :: pieces isSep cs
    else
      match pieces isSep cs with
      | [] => [[c]]
      | w :: ws => (c :: w) :: ws

/-- The pieces between occurrences of `a` followed by `b`, read from left to right. -/
def piecesAt (a b : Char) : List Char → List (List Char)
  | [] => [[]]
  | [c] => [[c]]
  | c :: d :: cs =>
    if c = a ∧ d = b then [] :: piecesAt a b cs
    else
      match piecesAt a b (d :: cs) with
      | [] => [[c]]
      | w :: ws => (c :: w) :: ws

/-- Put pieces together with `sep` between them. -/
def joinWith (sep : List Char) : List (List Char) → List Char
  | [] => []
  | [w] => w
  | w :: ws => w ++ sep ++ joinWith sep ws

theorem pieces_ne_nil (isSep : Char → Bool) (cs : List Char) : pieces isSep cs ≠ [] := by
  cases cs with
  | nil => simp [pieces]
  | cons c cs =>
    simp only [pieces]
    split
    · simp
    · split <;> simp

/-- Cutting at one character and joining with it gives the text back. -/
theorem joinWith_pieces (sep : Char) (cs : List Char) :
    joinWith [sep] (pieces (· == sep) cs) = cs := by
  induction cs with
  | nil => simp [pieces, joinWith]
  | cons c cs ih =>
    simp only [pieces]
    split
    · rename_i hc
      have hc : c = sep := by simpa using hc
      match h : pieces (· == sep) cs with
      | [] => exact absurd h (pieces_ne_nil _ _)
      | w :: ws => rw [h] at ih; simp [joinWith, ih, hc]
    · match h : pieces (· == sep) cs with
      | [] => exact absurd h (pieces_ne_nil _ _)
      | [w] => rw [h] at ih; simpa [joinWith] using ih
      | w :: v :: ws => rw [h] at ih; simpa [joinWith] using ih

/-! ## Lengths -/

/-- Length in UTF-8 bytes. -/
def byteLength : List Char → Nat
  | [] => 0
  | c :: cs => c.utf8Size + byteLength cs

@[simp] theorem byteLength_append (a b : List Char) :
    byteLength (a ++ b) = byteLength a + byteLength b := by
  induction a with
  | nil => simp [byteLength]
  | cons c a ih => simp [byteLength, ih, Nat.add_assoc]

/-! ## Ends -/

/-- Drop the characters at both ends that satisfy `p`. -/
def trimBoth (p : Char → Bool) (cs : List Char) : List Char :=
  ((cs.dropWhile p).reverse.dropWhile p).reverse

end ImageGate.Text
