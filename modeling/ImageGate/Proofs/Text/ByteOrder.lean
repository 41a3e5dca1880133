import Mathlib.Data.List.Basic

/-!
# The order of texts

Texts are compared character by character, by code point. UTF-8 is made so that comparing the bytes
of the encoded texts gives the same answer: `utf8_lt_iff`.

The encodings of two characters differ in some byte, and the first such byte decides as the code
points do (`DiffersBelow`). What follows the two characters has then no say.
-/

namespace ImageGate.Text

def utf8 (s : String) : List UInt8 :=
  s.toUTF8.data.toList

theorem utf8_eq_flatMap (s : String) : utf8 s = s.toList.flatMap String.utf8EncodeChar := by
  have h : s.toUTF8 = s.toList.utf8Encode := String.utf8Encode_toList.symm
  rw [utf8, h, List.utf8Encode, List.toList_data_toByteArray]

/-! ## One character -/

/-- The first place where the two lists differ lies within both, and `a` has the smaller byte. -/
def DiffersBelow (a b : List UInt8) : Prop :=
  ∃ common x y as bs, a = common ++ x :: as ∧ b = common ++ y :: bs ∧ x < y

theorem DiffersBelow.append_lt_append {a b : List UInt8} (h : DiffersBelow a b)
    (as bs : List UInt8) : a ++ as < b ++ bs := by
  obtain ⟨common, x, y, s, t, rfl, rfl, hxy⟩ := h
  induction common with
  | nil => exact List.cons_lt_cons_iff.2 (.inl hxy)
  | cons c common ih => exact List.cons_lt_cons_iff.2 (.inr ⟨rfl, ih⟩)

theorem DiffersBelow.cons {a b : List UInt8} (c : UInt8) (h : DiffersBelow a b) :
    DiffersBelow (c :: a) (c :: b) := by
  obtain ⟨common, x, y, s, t, rfl, rfl, hxy⟩ := h
  exact ⟨c :: common, x, y, s, t, rfl, rfl, hxy⟩

theorem ofNat_lt_ofNat {m n : Nat} (hn : n < 256) (h : m < n) : UInt8.ofNat m < UInt8.ofNat n := by
  rw [UInt8.lt_iff_toNat_lt, UInt8.toNat_ofNat', UInt8.toNat_ofNat']
  omega

/-- The first bytes decide if they differ. -/
theorem DiffersBelow.of_lt {m n : Nat} {as bs : List UInt8} (hn : n < 256) (h : m < n) :
    DiffersBelow (UInt8.ofNat m :: as) (UInt8.ofNat n :: bs) :=
  ⟨[], _, _, as, bs, rfl, rfl, ofNat_lt_ofNat hn h⟩

/-- If the first bytes are in order, what follows them has to decide only when they are equal. -/
theorem DiffersBelow.of_le {m n : Nat} {as bs : List UInt8} (hn : n < 256) (h : m ≤ n)
    (hrest : m = n → DiffersBelow as bs) :
    DiffersBelow (UInt8.ofNat m :: as) (UInt8.ofNat n :: bs) := by
  rcases Nat.lt_or_eq_of_le h with hlt | rfl
  · exact .of_lt hn hlt
  · exact (hrest rfl).cons _

/-- **Encoded characters are in order by a byte that both have.** -/
theorem differsBelow_utf8EncodeChar {c d : Char} (h : c < d) :
    DiffersBelow (String.utf8EncodeChar c) (String.utf8EncodeChar d) := by
  have hlt : c.val.toNat < d.val.toNat := h
  have hmax : d.val.toNat < 0x110000 := by
    rcases d.valid with hd | hd
    · exact Nat.lt_trans hd (by decide)
    · exact hd.2
  simp only [String.utf8EncodeChar]
  generalize c.val.toNat = m at hlt
  generalize d.val.toNat = n at hlt hmax
  split_ifs
  all_goals try omega
  -- The shorter of two encodings has the smaller first byte.
  all_goals try exact .of_lt (by omega) (by omega)
  -- Encodings of one length are numerals of one length.
  · refine .of_le (by omega) (by omega) fun _ => ?_
    exact .of_lt (by omega) (by omega)
  · refine .of_le (by omega) (by omega) fun _ => ?_
    refine .of_le (by omega) (by omega) fun _ => ?_
    exact .of_lt (by omega) (by omega)
  · refine .of_le (by omega) (by omega) fun _ => ?_
    refine .of_le (by omega) (by omega) fun _ => ?_
    refine .of_le (by omega) (by omega) fun _ => ?_
    exact .of_lt (by omega) (by omega)

/-! ## Texts -/

theorem flatMap_utf8EncodeChar_lt {a b : List Char} (h : a < b) :
    a.flatMap String.utf8EncodeChar < b.flatMap String.utf8EncodeChar := by
  induction h with
  | @nil d ds =>
    obtain ⟨x, xs, hx⟩ := List.exists_cons_of_ne_nil (String.utf8EncodeChar_ne_nil (c := d))
    rw [List.flatMap_nil, List.flatMap_cons, hx]
    exact List.Lex.nil
  | rel h =>
    rw [List.flatMap_cons, List.flatMap_cons]
    exact (differsBelow_utf8EncodeChar h).append_lt_append _ _
  | cons _ ih =>
    rw [List.flatMap_cons, List.flatMap_cons]
    exact List.append_left_lt ih

/-- **The order of texts is the order of their bytes.** -/
theorem utf8_lt_iff {a b : String} : utf8 a < utf8 b ↔ a < b := by
  have lt_of_lt {a b : String} (h : a < b) : utf8 a < utf8 b := by
    rw [utf8_eq_flatMap, utf8_eq_flatMap]
    exact flatMap_utf8EncodeChar_lt h
  refine ⟨fun h => ?_, lt_of_lt⟩
  by_contra hab
  by_cases heq : a = b
  · exact List.lt_irrefl _ (heq ▸ h)
  · have hba : b < a := String.not_le.1 fun h' => heq (String.le_antisymm h' (String.not_lt.1 hab))
    exact List.lt_asymm h (lt_of_lt hba)

/-- Comparing texts is comparing their bytes. -/
theorem compare_eq_lt_iff {a b : String} : compare a b = .lt ↔ utf8 a < utf8 b :=
  compareOfLessAndEq_eq_lt.trans utf8_lt_iff.symm

end ImageGate.Text
