import Mathlib.Algebra.GroupWithZero.Nat
import ImageGate.Text.Digits
import ImageGate.Text.Blank
import ImageGate.Proofs.Text.Cut

/-!
# Digits and numbers

A number is read off its decimal digits, with any zeros in front of them. Digits are no white space,
and where a number ends there is no further digit.
-/

namespace ImageGate

open Text

variable {n : Nat} {c : Char}

def StartsNoDigit (rest : List Char) : Prop :=
  ∀ c ∈ rest.head?, c.isDigit = false

theorem toNat_of_isDigit (h : c.isDigit = true) : 48 ≤ c.toNat ∧ c.toNat ≤ 57 := by
  simpa [Char.isDigit, UInt32.le_iff_toNat_le] using h

theorem isBlank_of_isAlphanum (h : c.isAlphanum = true) : isBlank c = false := by
  have hrange : 48 ≤ c.toNat ∧ c.toNat ≤ 122 := by
    have h : (c.isUpper || c.isLower || c.isDigit) = true := h
    rw [Bool.or_eq_true, Bool.or_eq_true] at h
    rcases h with (h | h) | h
    · have hupper : 65 ≤ c.toNat ∧ c.toNat ≤ 90 := of_decide_eq_true h
      omega
    · have hlower : (decide (97 ≤ c.toNat) && decide (c.toNat ≤ 122)) = true := h
      simp only [Bool.and_eq_true, decide_eq_true_eq] at hlower
      omega
    · have hdigit := toNat_of_isDigit h
      omega
  simp only [isBlank, Bool.or_eq_false_iff, Bool.and_eq_false_iff, decide_eq_false_iff_not,
    beq_eq_false_iff_ne]
  omega

theorem isBlank_of_isDigit (h : c.isDigit = true) : isBlank c = false :=
  isBlank_of_isAlphanum (by simp [Char.isAlphanum, h])

theorem isDigit_of_mem_toDigits (h : c ∈ Nat.toDigits 10 n) : c.isDigit = true :=
  Nat.isDigit_of_mem_toDigits (by decide) (by decide) h

theorem decimalValue_toDigits (n : Nat) : decimalValue (Nat.toDigits 10 n) = n := by
  rw [decimalValue, ← Nat.ofDigitChars_eq_foldl, Nat.ofDigitChars_ten_toDigits]

theorem exists_toDigits_eq_cons (n : Nat) :
    ∃ d ds, Nat.toDigits 10 n = d :: ds ∧ d.isDigit = true := by
  obtain ⟨d, ds, hdigits⟩ := List.exists_cons_of_ne_nil (Nat.toDigits_ne_nil (n := n) (b := 10))
  have hmem : d ∈ Nat.toDigits 10 n := hdigits ▸ List.mem_cons_self
  exact ⟨d, ds, hdigits, isDigit_of_mem_toDigits hmem⟩

theorem decimalValue_append (a b : List Char) :
    decimalValue (a ++ b) = b.foldl (fun n c => 10 * n + (c.toNat - '0'.toNat)) (decimalValue a) :=
  List.foldl_append

theorem decimalValue_lt {cs : List Char} (h : ∀ c ∈ cs, c.isDigit = true) :
    decimalValue cs < 10 ^ cs.length := by
  induction cs using List.reverseRecOn with
  | nil => decide
  | append_singleton cs c ih =>
    have hc : c.toNat - '0'.toNat ≤ 9 := by
      have hrange := toNat_of_isDigit (h c (by simp))
      simp only [Char.reduceToNat]
      omega
    have ih := ih fun d hd => h d (by simp [hd])
    rw [decimalValue_append, List.length_append, Nat.pow_add]
    simp only [List.foldl_cons, List.foldl_nil, List.length_singleton, Nat.pow_one]
    omega

theorem digitChar_of_isDigit (h : c.isDigit = true) : (c.toNat - '0'.toNat).digitChar = c := by
  have hrange := toNat_of_isDigit h
  have hall : ∀ d < 10, d.digitChar.toNat = d + 48 := by decide
  refine Char.toNat_inj.1 ?_
  rw [hall _ (by simp only [Char.reduceToNat]; omega)]
  simp only [Char.reduceToNat]
  omega

/-- Digits are those of their value, unless there is a zero in front. -/
theorem toDigits_decimalValue {cs : List Char} (hne : cs ≠ [])
    (hdigit : ∀ c ∈ cs, c.isDigit = true) (hzero : cs.head? = some '0' → cs = ['0']) :
    Nat.toDigits 10 (decimalValue cs) = cs := by
  induction cs using List.reverseRecOn with
  | nil => exact absurd rfl hne
  | append_singleton cs c ih =>
    have hc : c.isDigit = true := hdigit c (by simp)
    have hlt : c.toNat - '0'.toNat < 10 := by
      have hrange := toNat_of_isDigit hc
      simp only [Char.reduceToNat]
      omega
    by_cases hcs : cs = []
    · subst hcs
      have hvalue : decimalValue [c] = c.toNat - '0'.toNat := by simp [decimalValue]
      rw [List.nil_append, hvalue, Nat.toDigits_of_lt_base hlt, digitChar_of_isDigit hc]
    · have hfront : cs.head? ≠ some '0' := by
        intro hhead
        have hone := hzero (by rw [List.head?_append_of_ne_nil _ hcs, hhead])
        have hlength := congrArg List.length hone
        have hpos := List.length_pos_of_ne_nil hcs
        simp only [List.length_append, List.length_singleton] at hlength
        omega
      have hvalue := ih hcs (fun d hd => hdigit d (by simp [hd])) fun h => absurd h hfront
      have hpos : 0 < decimalValue cs := by
        refine Nat.pos_of_ne_zero fun h => hfront ?_
        rw [← hvalue, h]
        rfl
      rw [decimalValue_append, List.foldl_cons, List.foldl_nil,
        ← Nat.toDigits_append_toDigits (by decide) hpos hlt, hvalue,
        Nat.toDigits_of_lt_base hlt, digitChar_of_isDigit hc]

/-! ## Zeros in front -/

theorem isDigit_of_mem_padded {width : Nat} (h : c ∈ padded width n) : c.isDigit = true := by
  simp only [padded, List.mem_append, List.mem_replicate] at h
  rcases h with ⟨-, rfl⟩ | h
  · rfl
  · exact isDigit_of_mem_toDigits h

theorem length_padded {width : Nat} (hwidth : 0 < width) (hn : n < 10 ^ width) :
    (padded width n).length = width := by
  have hle : (Nat.toDigits 10 n).length ≤ width :=
    (Nat.length_toDigits_le_iff (by decide) hwidth).2 hn
  rw [padded, List.length_append, List.length_replicate]
  exact Nat.sub_add_cancel hle

theorem decimalValue_zeros (count : Nat) (cs : List Char) :
    decimalValue (List.replicate count '0' ++ cs) = decimalValue cs := by
  induction count with
  | zero => rfl
  | succ count ih => exact ih

theorem decimalValue_padded (width n : Nat) : decimalValue (padded width n) = n := by
  rw [padded, decimalValue_zeros, decimalValue_toDigits]

end ImageGate
