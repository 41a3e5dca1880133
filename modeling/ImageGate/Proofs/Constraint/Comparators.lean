import ImageGate.Proofs.Constraint.Recognition
import ImageGate.Proofs.Version.Precedence

/-!
# What comparators say of versions with pre-releases

A comparator gives the first one, two or three numbers of a version, and behind three of them it may
give a pre-release (`IsProper`). What it says of a version is told by the first number in which the
two differ, and by their pre-releases if all three numbers are given and none differs (`Above`,
`Below`). A tilde or a caret asks for some leading numbers besides. A comparator with fewer numbers
gives no pre-release, so it agrees with releases only.

The test of a comparator decides this for every version (`holds_iff_allows`), and not only for
releases.
-/

namespace ImageGate

open Text Version

namespace Comparator

def given (c : Comparator) : List Nat :=
  c.major :: (c.minor.toList ++ c.patch.toList)

/-- Numbers are given from the front, and a pre-release only behind all three of them. -/
structure IsProper (c : Comparator) : Prop where
  patch : c.minor = none → c.patch = none
  pre : c.patch = none → c.pre = []
  valid : ∀ i ∈ c.pre, i.IsValidIn .pre

section Meaning

variable (c : Comparator) (v : Version)

/-- The version has the numbers that are given, and the same pre-release. -/
def Agrees : Prop :=
  c.given <+: v.parts ∧ v.pre = c.pre

/-- The version comes later, in the first number that differs or with its pre-release. -/
def Above : Prop :=
  Differ (· > ·) v.parts c.given ∨ (v.parts = c.given ∧ PrePrecedes c.pre v.pre)

/-- The version comes earlier, in the first number that differs or with its pre-release. -/
def Below : Prop :=
  Differ (· < ·) v.parts c.given ∨ (v.parts = c.given ∧ PrePrecedes v.pre c.pre)

/-- The first two numbers are those that are given, and the version does not come earlier. -/
def AllowsTilde : Prop :=
  c.given.take 2 <+: v.parts ∧ (Differ (· > ·) v.parts c.given ∨
    (c.given <+: v.parts ∧ ¬ PrePrecedes v.pre c.pre))

/-- The numbers up to the leftmost one that is not zero are those that are given, and the version
does not come earlier. Its pre-release has no say unless all three numbers are given. -/
def AllowsCaret : Prop :=
  throughNonzero c.given <+: v.parts ∧ (Differ (· > ·) v.parts c.given ∨
    (c.given <+: v.parts ∧ (c.given.length = 3 → ¬ PrePrecedes v.pre c.pre)))

def Allows : Prop :=
  match c.comparison with
  | .exact => c.Agrees v
  | .greater => c.Above v
  | .greaterEq => c.Agrees v ∨ c.Above v
  | .less => c.Below v
  | .lessEq => c.Agrees v ∨ c.Below v
  | .tilde => c.AllowsTilde v
  | .caret => c.AllowsCaret v

/-- The comparator gives the numbers of the version, all three, and a pre-release. -/
def Names : Prop :=
  v.parts = c.given ∧ c.pre ≠ []

/-- The comparator gives the numbers of the version, all three, and its pre-release. -/
def IsExactly : Prop :=
  v.parts = c.given ∧ v.pre = c.pre

end Meaning

variable {c : Comparator} {v : Version}

theorem IsProper.cases (hc : c.IsProper) :
    (c.minor = none ∧ c.patch = none ∧ c.pre = []) ∨
      (∃ b, c.minor = some b ∧ c.patch = none ∧ c.pre = []) ∨
        ∃ b d, c.minor = some b ∧ c.patch = some d := by
  cases hminor : c.minor with
  | none =>
    have hpatch := hc.patch hminor
    exact .inl ⟨rfl, hpatch, hc.pre hpatch⟩
  | some b =>
    cases hpatch : c.patch with
    | none => exact .inr (.inl ⟨b, rfl, rfl, hc.pre hpatch⟩)
    | some d => exact .inr (.inr ⟨b, d, rfl, rfl⟩)

theorem agrees_iff (hc : c.IsProper) : c.agrees v = true ↔ c.Agrees v := by
  rcases hc.cases with ⟨hb, hd, -⟩ | ⟨b, hb, hd, -⟩ | ⟨b, d, hb, hd⟩ <;>
    simp only [Comparator.agrees, Agrees, given, Version.parts, hb, hd] <;>
    simp only [List.cons_append, List.nil_append, Option.toList, Option.all, List.append_nil,
      List.cons_prefix_cons, List.nil_prefix, and_true, Bool.and_eq_true, beq_iff_eq] <;>
    grind

/-- A version lies on one side of the comparator if the first number that differs does, or the
pre-release if none differs. -/
theorem beyond_iff (hc : c.IsProper) {side : Ordering} {r : Nat → Nat → Prop}
    (hside : ∀ a b : Nat, compare a b = side ↔ r a b) (hr : ∀ a, ¬ r a a) :
    c.beyond side v = true ↔ Differ r v.parts c.given ∨
      (v.parts = c.given ∧ comparePre v.pre c.pre = side) := by
  rcases hc.cases with ⟨hb, hd, -⟩ | ⟨b, hb, hd, -⟩ | ⟨b, d, hb, hd⟩ <;>
    simp only [Comparator.beyond, given, Version.parts, hb, hd]
  · by_cases hmajor : v.major = c.major <;> simp [hmajor, hside, hr]
  · by_cases hmajor : v.major = c.major <;> by_cases hminor : v.minor = b <;>
      simp [hmajor, hminor, hside, hr]
  · by_cases hmajor : v.major = c.major <;> by_cases hminor : v.minor = b <;>
      by_cases hpatch : v.patch = d <;>
        simp [hmajor, hminor, hpatch, hside, hr]

theorem above_iff (hc : c.IsProper) (hv : v.IsValid) :
    c.beyond .gt v = true ↔ c.Above v := by
  rw [beyond_iff hc (fun _ _ => Nat.compare_eq_gt) Nat.lt_irrefl,
    (tells_comparePre hv.pre hc.valid).gt]
  rfl

theorem below_iff (hc : c.IsProper) (hv : v.IsValid) :
    c.beyond .lt v = true ↔ c.Below v := by
  rw [beyond_iff hc (fun _ _ => Nat.compare_eq_lt) Nat.lt_irrefl,
    (tells_comparePre hv.pre hc.valid).lt]
  rfl

theorem holdsTilde_iff_allows (hc : c.IsProper) (hv : v.IsValid) :
    c.holdsTilde v = true ↔ c.AllowsTilde v := by
  unfold AllowsTilde
  rw [← (tells_comparePre hv.pre hc.valid).isGE_iff]
  rcases hc.cases with ⟨hb, hd, -⟩ | ⟨b, hb, hd, -⟩ | ⟨b, d, hb, hd⟩ <;>
    simp only [holdsTilde, given, Version.parts, hb, hd] <;>
    generalize (comparePre v.pre c.pre).isGE = pre
  · cases pre <;> simp <;> omega
  · cases pre <;> simp <;> omega
  · by_cases hpatch : v.patch = d <;> cases pre <;> simp [hpatch] <;> omega

theorem holdsCaret_iff_allows (hc : c.IsProper) (hv : v.IsValid) :
    c.holdsCaret v = true ↔ c.AllowsCaret v := by
  unfold AllowsCaret
  rw [← (tells_comparePre hv.pre hc.valid).isGE_iff]
  rcases hc.cases with ⟨hb, hd, -⟩ | ⟨b, hb, hd, -⟩ | ⟨b, d, hb, hd⟩ <;>
    simp only [holdsCaret, given, Version.parts, hb, hd, throughNonzero] <;>
    generalize (comparePre v.pre c.pre).isGE = pre
  -- Which numbers have to agree depends on which ones are zero.
  · by_cases hmajor : c.major = 0 <;> simp [hmajor, throughNonzero] <;> omega
  · by_cases hmajor : c.major = 0 <;> by_cases hb : b = 0 <;>
      simp [hmajor, hb, throughNonzero, Nat.pos_iff_ne_zero] <;> omega
  · by_cases hmajor : c.major = 0 <;> by_cases hb : b = 0 <;>
      by_cases hminor : v.minor = b <;> by_cases hpatch : v.patch = d <;> cases pre <;>
        simp [hmajor, hb, hminor, hpatch, throughNonzero, Nat.pos_iff_ne_zero] <;> omega

/-- **A comparator holds of the versions that it allows.** -/
theorem holds_iff_allows (hc : c.IsProper) (hv : v.IsValid) : c.holds v = true ↔ c.Allows v := by
  have hagrees := agrees_iff (v := v) hc
  unfold holds Allows
  cases c.comparison with
  | exact => exact hagrees
  | greater => exact above_iff hc hv
  | greaterEq => exact Bool.or_eq_true_iff.trans (or_congr hagrees (above_iff hc hv))
  | less => exact below_iff hc hv
  | lessEq => exact Bool.or_eq_true_iff.trans (or_congr hagrees (below_iff hc hv))
  | tilde => exact holdsTilde_iff_allows hc hv
  | caret => exact holdsCaret_iff_allows hc hv

theorem namesPreOf_iff (hc : c.IsProper) : c.namesPreOf v = true ↔ c.Names v := by
  rcases hc.cases with ⟨hb, hd, -⟩ | ⟨b, hb, hd, -⟩ | ⟨b, d, hb, hd⟩ <;>
    simp only [namesPreOf, Names, given, Version.parts, hb, hd] <;>
    simp [eq_comm (a := v.major), eq_comm (a := v.minor), eq_comm (a := v.patch), and_assoc]

end Comparator

end ImageGate
