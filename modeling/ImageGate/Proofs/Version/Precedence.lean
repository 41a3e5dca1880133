import ImageGate.Proofs.Version.Reading

/-!
# Precedence of pre-releases

Which of two pre-releases comes first is told by the first identifier in which they differ, or by
their lengths if one of them is the front of the other one. Numbers come before words and are told
apart by their values, and words by their characters. A release comes after all of its pre-releases.

The comparison decides this (`tells_comparePre`). It looks at the digits of numbers and not at their
values, which is enough because there are no leading zeros: of two numbers, the one with fewer
digits is the smaller one (`decimalValue_lt_of_length_lt`).
-/

namespace ImageGate

open Text

/-! ## What orderings tell -/

/-- Which of three things is the case is told by an ordering. -/
structure Tells (o : Ordering) (before same behind : Prop) : Prop where
  lt : o = .lt ↔ before
  eq : o = .eq ↔ same
  gt : o = .gt ↔ behind

namespace Tells

variable {o o' : Ordering} {p q r p' q' r' : Prop}

/-- The second ordering tells what the first one leaves open. -/
theorem next (h : Tells o p q r) (h' : Tells o' p' q' r') :
    Tells (o.then o') (p ∨ q ∧ p') (q ∧ q') (r ∨ q ∧ r') := by
  cases h with
  | mk hlt heq hgt =>
    cases h' with
    | mk hlt' heq' hgt' =>
      simp only [← hlt, ← heq, ← hgt, ← hlt', ← heq', ← hgt']
      constructor <;> cases o <;> simp [Ordering.then]

theorem congr (h : Tells o p q r) (hp : p ↔ p') (hq : q ↔ q') (hr : r ↔ r') : Tells o p' q' r' :=
  ⟨h.lt.trans hp, h.eq.trans hq, h.gt.trans hr⟩

theorem isGE_iff (h : Tells o p q r) : o.isGE = true ↔ ¬ p := by
  rw [← h.lt]
  cases o <;> simp

end Tells

theorem tells_compare (m n : Nat) : Tells (compare m n) (m < n) (m = n) (n < m) :=
  ⟨Nat.compare_eq_lt, Nat.compare_eq_eq, Nat.compare_eq_gt⟩

/-- What is compared position by position is ordered by the first position that differs. -/
theorem tells_compareLex {α : Type} {cmp : α → α → Ordering} {r : α → α → Prop} {as bs : List α}
    (h : ∀ a ∈ as, ∀ b ∈ bs, Tells (cmp a b) (r a b) (a = b) (r b a)) :
    Tells (List.compareLex cmp as bs) (List.Lex r as bs) (as = bs) (List.Lex r bs as) := by
  have hcons {a b : α} {as bs : List α} : List.Lex r (a :: as) (b :: bs) ↔
      r a b ∨ (a = b ∧ List.Lex r as bs) := by
    constructor
    · intro h
      cases h with
      | rel h => exact .inl h
      | cons h => exact .inr ⟨rfl, h⟩
    · intro h
      rcases h with h | ⟨rfl, h⟩
      · exact .rel h
      · exact .cons h
  induction as generalizing bs with
  | nil =>
    cases bs with
    | nil => exact ⟨iff_of_false nofun nofun, iff_of_true rfl rfl, iff_of_false nofun nofun⟩
    | cons b bs => exact ⟨iff_of_true rfl .nil, iff_of_false nofun nofun, iff_of_false nofun nofun⟩
  | cons a as ih =>
    cases bs with
    | nil => exact ⟨iff_of_false nofun nofun, iff_of_false nofun nofun, iff_of_true rfl .nil⟩
    | cons b bs =>
      have hfirst := h a List.mem_cons_self b List.mem_cons_self
      have hrest := ih fun x hx y hy =>
        h x (List.mem_cons_of_mem _ hx) y (List.mem_cons_of_mem _ hy)
      have hthen : List.compareLex cmp (a :: as) (b :: bs) =
          (cmp a b).then (List.compareLex cmp as bs) := by
        rw [List.compareLex]
        cases cmp a b <;> rfl
      rw [hthen]
      refine (hfirst.next hrest).congr hcons.symm (by simp) ?_
      rw [hcons, eq_comm (a := a)]

/-! ## Identifiers -/

namespace Identifier

def IsNumber (i : Identifier) : Prop :=
  ∀ c ∈ i, c.isDigit = true

instance : DecidablePred IsNumber :=
  fun i => List.decidableBAll _ i

/-- The first of two identifiers: numbers by value and before words, words by characters. -/
inductive Precedes : Identifier → Identifier → Prop
  | numbers {i j : Identifier} : IsNumber i → IsNumber j → decimalValue i < decimalValue j →
      Precedes i j
  | number {i j : Identifier} : IsNumber i → ¬ IsNumber j → Precedes i j
  | words {i j : Identifier} : ¬ IsNumber i → ¬ IsNumber j → i < j → Precedes i j

variable {i j : Identifier}

theorem isNumeric_iff : i.isNumeric = true ↔ i.IsNumber :=
  List.all_eq_true

theorem compareChars_eq_compareLex (cs ds : List Char) :
    compareChars cs ds = List.compareLex (fun c d => Ord.compare c.toNat d.toNat) cs ds := by
  induction cs generalizing ds with
  | nil => cases ds <;> rfl
  | cons c cs ih =>
    cases ds with
    | nil => rfl
    | cons d ds =>
      rw [compareChars, List.compareLex, ih]
      cases Ord.compare c.toNat d.toNat <;> rfl

/-- Words are ordered by their characters. -/
theorem tells_compareChars (cs ds : List Char) :
    Tells (compareChars cs ds) (cs < ds) (cs = ds) (ds < cs) := by
  rw [compareChars_eq_compareLex]
  refine tells_compareLex fun c _ d _ => ?_
  exact (tells_compare c.toNat d.toNat).congr Iff.rfl Char.toNat_inj Iff.rfl

/-- A further digit decides if what is in front of it does not. -/
theorem compare_digit {c d : Char} (hc : c.isDigit = true) (hd : d.isDigit = true) (m n : Nat) :
    Ord.compare (10 * m + (c.toNat - '0'.toNat)) (10 * n + (d.toNat - '0'.toNat)) =
      (Ord.compare m n).then (Ord.compare c.toNat d.toNat) := by
  obtain ⟨hc, hc'⟩ := toNat_of_isDigit hc
  obtain ⟨hd, hd'⟩ := toNat_of_isDigit hd
  simp only [Char.reduceToNat]
  generalize c.toNat = c at hc hc'
  generalize d.toNat = d at hd hd'
  rcases Nat.lt_trichotomy m n with h | rfl | h
  · rw [Nat.compare_eq_lt.2 h]
    exact Nat.compare_eq_lt.2 (by omega)
  · rw [Nat.compare_eq_eq.2 rfl, Ordering.eq_then]
    rcases Nat.lt_trichotomy c d with h | rfl | h
    · rw [Nat.compare_eq_lt.2 h, Nat.compare_eq_lt]
      omega
    · rw [Nat.compare_eq_eq.2 rfl, Nat.compare_eq_eq.2 rfl]
    · rw [Nat.compare_eq_gt.2 h, Nat.compare_eq_gt]
      omega
  · rw [Nat.compare_eq_gt.2 h]
    exact Nat.compare_eq_gt.2 (by omega)

/-- Of as many digits, the first one that differs decides. -/
theorem compareChars_of_length_eq {cs ds : List Char} (hcs : ∀ c ∈ cs, c.isDigit = true)
    (hds : ∀ d ∈ ds, d.isDigit = true) (hlength : cs.length = ds.length) :
    compareChars cs ds = Ord.compare (decimalValue cs) (decimalValue ds) := by
  -- The numbers that have been read before the digits make room for the induction.
  suffices h : ∀ m n, Ord.compare (cs.foldl (fun n c => 10 * n + (c.toNat - '0'.toNat)) m)
      (ds.foldl (fun n c => 10 * n + (c.toNat - '0'.toNat)) n) =
        (Ord.compare m n).then (compareChars cs ds) from (h 0 0).symm
  induction cs generalizing ds with
  | nil =>
    intro m n
    obtain rfl := List.length_eq_zero_iff.1 hlength.symm
    exact Ordering.then_eq.symm
  | cons c cs ih =>
    intro m n
    cases ds with
    | nil => cases hlength
    | cons d ds =>
      obtain ⟨hc, hcs⟩ := List.forall_mem_cons.1 hcs
      obtain ⟨hd, hds⟩ := List.forall_mem_cons.1 hds
      rw [List.foldl_cons, List.foldl_cons, ih hcs hds (Nat.succ.inj hlength), compareChars,
        compare_digit hc hd, Ordering.then_assoc]

/-- Where there is no zero in front, fewer digits make a smaller number. -/
theorem decimalValue_lt_of_length_lt (hi : i.IsValidIn .pre) (hj : j.IsValidIn .pre)
    (hnum : i.IsNumber) (hnum' : j.IsNumber) (h : i.length < j.length) :
    decimalValue i < decimalValue j := by
  have hpos : 0 < i.length := List.length_pos_of_ne_nil hi.ne_nil
  have hdigits : Nat.toDigits 10 (decimalValue j) = j :=
    toDigits_decimalValue hj.ne_nil hnum' (hj.no_leading_zero rfl hnum')
  have hlong : ¬ decimalValue j < 10 ^ i.length := by
    rw [← Nat.length_toDigits_le_iff (by decide) hpos, hdigits]
    omega
  have hshort : decimalValue i < 10 ^ i.length := decimalValue_lt hnum
  omega

/-- **Numbers are ordered by value.** -/
theorem compare_of_isNumber (hi : i.IsValidIn .pre) (hj : j.IsValidIn .pre)
    (hnum : i.IsNumber) (hnum' : j.IsNumber) :
    Identifier.compare i j = Ord.compare (decimalValue i) (decimalValue j) := by
  rw [Identifier.compare, isNumeric_iff.2 hnum, isNumeric_iff.2 hnum']
  dsimp only
  rcases Nat.lt_trichotomy i.length j.length with h | h | h
  · rw [Nat.compare_eq_lt.2 h,
      Nat.compare_eq_lt.2 (decimalValue_lt_of_length_lt hi hj hnum hnum' h)]
    rfl
  · rw [Nat.compare_eq_eq.2 h, compareChars_of_length_eq hnum hnum' h]
    rfl
  · rw [Nat.compare_eq_gt.2 h,
      Nat.compare_eq_gt.2 (decimalValue_lt_of_length_lt hj hi hnum' hnum h)]
    rfl

theorem precedes_iff : i.Precedes j ↔
    (i.IsNumber ∧ j.IsNumber ∧ decimalValue i < decimalValue j) ∨ (i.IsNumber ∧ ¬ j.IsNumber) ∨
      (¬ i.IsNumber ∧ ¬ j.IsNumber ∧ i < j) := by
  constructor
  · intro h
    cases h with
    | numbers hi hj h => exact .inl ⟨hi, hj, h⟩
    | number hi hj => exact .inr (.inl ⟨hi, hj⟩)
    | words hi hj h => exact .inr (.inr ⟨hi, hj, h⟩)
  · intro h
    rcases h with ⟨hi, hj, h⟩ | ⟨hi, hj⟩ | ⟨hi, hj, h⟩
    · exact .numbers hi hj h
    · exact .number hi hj
    · exact .words hi hj h

/-- Without a zero in front, a number is written in one way. -/
theorem decimalValue_inj (hi : i.IsValidIn .pre) (hj : j.IsValidIn .pre) (hnum : i.IsNumber)
    (hnum' : j.IsNumber) : decimalValue i = decimalValue j ↔ i = j := by
  constructor
  · intro h
    rw [← toDigits_decimalValue hi.ne_nil hnum (hi.no_leading_zero rfl hnum), h,
      toDigits_decimalValue hj.ne_nil hnum' (hj.no_leading_zero rfl hnum')]
  · intro h
    rw [h]

/-- **The comparison of identifiers tells which one comes first.** -/
theorem tells_compare_identifier (hi : i.IsValidIn .pre) (hj : j.IsValidIn .pre) :
    Tells (Identifier.compare i j) (i.Precedes j) (i = j) (j.Precedes i) := by
  simp only [precedes_iff]
  by_cases hnum : i.IsNumber <;> by_cases hnum' : j.IsNumber
  · rw [compare_of_isNumber hi hj hnum hnum']
    refine (tells_compare _ _).congr ?_ (decimalValue_inj hi hj hnum hnum') ?_
    · simp [hnum, hnum']
    · simp [hnum, hnum']
  · have hne : i ≠ j := by
      intro h
      exact hnum' (h ▸ hnum)
    have hcompare : Identifier.compare i j = .lt := by
      simp [Identifier.compare, isNumeric_iff.2 hnum, mt isNumeric_iff.1 hnum']
    constructor <;> simp [hcompare, hnum, hnum', hne]
  · have hne : i ≠ j := by
      intro h
      exact hnum (h ▸ hnum')
    have hcompare : Identifier.compare i j = .gt := by
      simp [Identifier.compare, isNumeric_iff.2 hnum', mt isNumeric_iff.1 hnum]
    constructor <;> simp [hcompare, hnum, hnum', hne]
  · have hcompare : Identifier.compare i j = compareChars i j := by
      simp [Identifier.compare, mt isNumeric_iff.1 hnum, mt isNumeric_iff.1 hnum']
    rw [hcompare]
    refine (tells_compareChars i j).congr ?_ Iff.rfl ?_
    · simp [hnum, hnum']
    · simp [hnum, hnum']

end Identifier

/-! ## Pre-releases -/

namespace Version

/-- The first of two pre-releases of a version; a release counts as the empty one. -/
inductive PrePrecedes : List Identifier → List Identifier → Prop
  | release {a : List Identifier} : a ≠ [] → PrePrecedes a []
  | identifiers {a b : List Identifier} : a ≠ [] → List.Lex Identifier.Precedes a b →
      PrePrecedes a b

theorem not_prePrecedes_nil {b : List Identifier} : ¬ PrePrecedes [] b := by
  intro h
  cases h <;> contradiction

theorem prePrecedes_cons_iff {i j : Identifier} {a b : List Identifier} :
    PrePrecedes (i :: a) (j :: b) ↔ List.Lex Identifier.Precedes (i :: a) (j :: b) := by
  constructor
  · intro h
    cases h with
    | identifiers _ h => exact h
  · exact .identifiers (List.cons_ne_nil i a)

theorem comparePreParts_eq_compareLex (a b : List Identifier) :
    comparePreParts a b = List.compareLex Identifier.compare a b := by
  induction a generalizing b with
  | nil => cases b <;> rfl
  | cons i a ih =>
    cases b with
    | nil => rfl
    | cons j b =>
      rw [comparePreParts, List.compareLex, ih]
      cases Identifier.compare i j <;> rfl

/-- **The comparison of pre-releases tells which one comes first.** -/
theorem tells_comparePre {a b : List Identifier} (ha : ∀ i ∈ a, i.IsValidIn .pre)
    (hb : ∀ i ∈ b, i.IsValidIn .pre) :
    Tells (comparePre a b) (PrePrecedes a b) (a = b) (PrePrecedes b a) := by
  cases a with
  | nil =>
    cases b with
    | nil => constructor <;> simp [comparePre, not_prePrecedes_nil]
    | cons j b =>
      have h : PrePrecedes (j :: b) [] := .release (List.cons_ne_nil j b)
      constructor <;> simp [comparePre, not_prePrecedes_nil, h]
  | cons i a =>
    cases b with
    | nil =>
      have h : PrePrecedes (i :: a) [] := .release (List.cons_ne_nil i a)
      constructor <;> simp [comparePre, not_prePrecedes_nil, h]
    | cons j b =>
      have htells := tells_compareLex fun x hx y hy =>
        Identifier.tells_compare_identifier (ha x hx) (hb y hy)
      rw [← comparePreParts_eq_compareLex] at htells
      exact htells.congr prePrecedes_cons_iff.symm Iff.rfl prePrecedes_cons_iff.symm

end Version

end ImageGate
