import ImageGate.Constraint.Basic
import Mathlib.Data.List.Basic

/-!
# What constraints say of releases

A constraint is written as alternatives, and an alternative as conditions: comparisons with a
version of which trailing parts may be absent, ranges between two such versions, and exclusions.
What a condition says of a release is told by the parts that are given (`Condition.Holds`). A version
agrees with them if they are its first parts; it lies above or below them if it does so in the first
part in which it differs; and a tilde or a caret asks it to share some leading parts besides.

The comparators that conditions stand for hold of exactly the releases that they are meant to hold
of: `Constraint.admits_ofConditions_iff`.
-/

namespace ImageGate

def Version.parts (v : Version) : List Nat :=
  [v.major, v.minor, v.patch]

/-- A version of which the last or the last two parts may be absent. -/
structure PartialVersion where
  major : Nat
  /-- The parts behind the first one. -/
  more : List Nat
  length_le : more.length ≤ 2
  le_wordMax : ∀ n ∈ major :: more, n ≤ wordMax

/-- In the first part in which the numbers differ from the given parts, they stand in the relation
`r` to them. -/
inductive Differ (r : Nat → Nat → Prop) : List Nat → List Nat → Prop
  | here {n p : Nat} {ns ps : List Nat} : r n p → Differ r (n :: ns) (p :: ps)
  | later {n : Nat} {ns ps : List Nat} : Differ r ns ps → Differ r (n :: ns) (n :: ps)

@[simp] theorem differ_cons_iff {r : Nat → Nat → Prop} {n p : Nat} {ns ps : List Nat} :
    Differ r (n :: ns) (p :: ps) ↔ r n p ∨ (n = p ∧ Differ r ns ps) := by
  constructor
  · intro h
    cases h with
    | here h => exact .inl h
    | later h => exact .inr ⟨rfl, h⟩
  · rintro (h | ⟨rfl, h⟩)
    · exact .here h
    · exact .later h

@[simp] theorem not_differ_nil {r : Nat → Nat → Prop} {ns : List Nat} : ¬ Differ r ns [] :=
  nofun

instance Differ.decidable (r : Nat → Nat → Prop) [DecidableRel r] :
    ∀ ns ps, Decidable (Differ r ns ps)
  | _, [] => .isFalse not_differ_nil
  | [], _ :: _ => .isFalse nofun
  | _ :: ns, _ :: ps =>
    have := Differ.decidable r ns ps
    decidable_of_iff _ differ_cons_iff.symm

/-- The parts up to the leftmost one that is not zero, all parts if there is none. -/
def throughNonzero : List Nat → List Nat
  | [] => []
  | n :: ns => if n = 0 then n :: throughNonzero ns else [n]

namespace PartialVersion

variable (p : PartialVersion) (v : Version)

def parts : List Nat :=
  p.major :: p.more

/-- The version agrees with every part that is given. -/
def Agrees : Prop :=
  p.parts <+: v.parts

/-- The version is greater in the first given part in which it differs. -/
def Above : Prop :=
  Differ (· > ·) v.parts p.parts

/-- The version is smaller in the first given part in which it differs. -/
def Below : Prop :=
  Differ (· < ·) v.parts p.parts

/-- What a comparison with the given parts says of a version. -/
def Satisfies : Comparison → Prop
  | .exact => p.Agrees v
  | .greater => p.Above v
  | .greaterEq => p.Agrees v ∨ p.Above v
  | .less => p.Below v
  | .lessEq => p.Agrees v ∨ p.Below v
  | .tilde => p.parts.take 2 <+: v.parts ∧ (p.Agrees v ∨ p.Above v)
  | .caret => throughNonzero p.parts <+: v.parts ∧ (p.Agrees v ∨ p.Above v)

instance : Decidable (p.Agrees v) :=
  inferInstanceAs (Decidable (_ <+: _))

instance : Decidable (p.Above v) :=
  inferInstanceAs (Decidable (Differ _ _ _))

instance : Decidable (p.Below v) :=
  inferInstanceAs (Decidable (Differ _ _ _))

instance : ∀ k, Decidable (p.Satisfies v k)
  | .exact => inferInstanceAs (Decidable (p.Agrees v))
  | .greater => inferInstanceAs (Decidable (p.Above v))
  | .greaterEq => inferInstanceAs (Decidable (p.Agrees v ∨ p.Above v))
  | .less => inferInstanceAs (Decidable (p.Below v))
  | .lessEq => inferInstanceAs (Decidable (p.Agrees v ∨ p.Below v))
  | .tilde => inferInstanceAs (Decidable (_ ∧ (p.Agrees v ∨ p.Above v)))
  | .caret => inferInstanceAs (Decidable (_ ∧ (p.Agrees v ∨ p.Above v)))

end PartialVersion

/-- A condition of an alternative. -/
inductive Condition where
  /-- The version satisfies a comparison. -/
  | require (k : Comparison) (p : PartialVersion)
  /-- The version does not agree. -/
  | exclude (p : PartialVersion)
  /-- The version lies between two versions, or agrees with one of them. -/
  | range (lower upper : PartialVersion)

def Condition.Holds (v : Version) : Condition → Prop
  | .require k p => p.Satisfies v k
  | .exclude p => ¬ p.Agrees v
  | .range lower upper => (lower.Agrees v ∨ lower.Above v) ∧ (upper.Agrees v ∨ upper.Below v)

instance (v : Version) : DecidablePred (Condition.Holds v)
  | .require k p => inferInstanceAs (Decidable (p.Satisfies v k))
  | .exclude p => inferInstanceAs (Decidable (¬ p.Agrees v))
  | .range lower upper => inferInstanceAs
      (Decidable ((lower.Agrees v ∨ lower.Above v) ∧ (upper.Agrees v ∨ upper.Below v)))

/-- How many comparators a condition requires. -/
def Condition.weight : Condition → Nat
  | .require _ _ => 1
  | .exclude _ => 0
  | .range _ _ => 2

/-! ## Comparators -/

namespace PartialVersion

def comparator (p : PartialVersion) (k : Comparison) : Comparator :=
  { comparison := k, major := p.major, minor := p.more[0]?, patch := p.more[1]?, pre := [] }

theorem more_cases (p : PartialVersion) :
    p.more = [] ∨ (∃ b, p.more = [b]) ∨ ∃ b c, p.more = [b, c] := by
  match p.more, p.length_le with
  | [], _ => exact .inl rfl
  | [b], _ => exact .inr (.inl ⟨b, rfl⟩)
  | [b, c], _ => exact .inr (.inr ⟨b, c, rfl⟩)

variable {p : PartialVersion} {v : Version} {k : Comparison}

theorem agrees_comparator_iff (hv : v.pre = []) :
    (p.comparator k).agrees v = true ↔ p.Agrees v := by
  rcases p.more_cases with h | ⟨b, h⟩ | ⟨b, c, h⟩ <;>
    simp only [comparator, Comparator.agrees, Agrees, parts, Version.parts, h, hv] <;>
    simp <;> omega

/-- A version lies on one side of the comparator if the first part that differs does. -/
theorem beyond_comparator_iff (hv : v.pre = []) {side : Ordering} {r : Nat → Nat → Prop}
    (hside : ∀ a b : Nat, compare a b = side ↔ r a b) (hr : ∀ a, ¬ r a a) :
    (p.comparator k).beyond side v = true ↔ Differ r v.parts p.parts := by
  have hpre : Version.comparePre v.pre [] ≠ side := by
    have hself : compare 0 0 ≠ side := fun h => hr 0 ((hside 0 0).1 h)
    rw [hv]
    exact hself
  rcases p.more_cases with h | ⟨b, h⟩ | ⟨b, c, h⟩ <;>
    simp only [comparator, Comparator.beyond, parts, Version.parts, h]
  · by_cases hmajor : v.major = p.major <;> simp [hmajor, hside, hr]
  · by_cases hmajor : v.major = p.major <;> by_cases hminor : v.minor = b <;>
      simp [hmajor, hminor, hside, hr]
  · by_cases hmajor : v.major = p.major <;> by_cases hminor : v.minor = b <;>
      by_cases hpatch : v.patch = c <;> simp [hmajor, hminor, hpatch, hside, hr, hpre]

theorem above_iff (hv : v.pre = []) : (p.comparator k).beyond .gt v = true ↔ p.Above v :=
  beyond_comparator_iff hv (fun _ _ => Nat.compare_eq_gt) Nat.lt_irrefl

theorem below_iff (hv : v.pre = []) : (p.comparator k).beyond .lt v = true ↔ p.Below v :=
  beyond_comparator_iff hv (fun _ _ => Nat.compare_eq_lt) Nat.lt_irrefl

theorem holdsTilde_iff (hv : v.pre = []) :
    (p.comparator k).holdsTilde v = true ↔ p.Satisfies v .tilde := by
  rcases p.more_cases with h | ⟨b, h⟩ | ⟨b, c, h⟩ <;>
    simp only [comparator, Comparator.holdsTilde, Satisfies, Agrees, Above, parts, Version.parts,
      h, hv, Version.comparePre] <;>
    simp <;> omega

theorem holdsCaret_iff (hv : v.pre = []) :
    (p.comparator k).holdsCaret v = true ↔ p.Satisfies v .caret := by
  rcases p.more_cases with h | ⟨b, h⟩ | ⟨b, c, h⟩ <;>
    simp only [comparator, Comparator.holdsCaret, Satisfies, Agrees, Above, parts, Version.parts,
      h, hv, Version.comparePre, throughNonzero]
  -- Which parts have to agree depends on which ones are zero.
  · by_cases hmajor : p.major = 0 <;> simp [hmajor] <;> omega
  · by_cases hmajor : p.major = 0 <;> by_cases hb : b = 0 <;>
      simp [hmajor, hb, Nat.pos_iff_ne_zero] <;> omega
  · by_cases hmajor : p.major = 0 <;> by_cases hb : b = 0 <;>
      by_cases hminor : v.minor = b <;> by_cases hpatch : v.patch = c <;>
        simp [hmajor, hb, hminor, hpatch, Nat.pos_iff_ne_zero] <;> omega

/-- **A comparator holds of the releases that satisfy its comparison.** -/
theorem holds_comparator_iff (hv : v.pre = []) :
    (p.comparator k).holds v = true ↔ p.Satisfies v k := by
  cases k with
  | exact => exact agrees_comparator_iff hv
  | greater => exact above_iff hv
  | greaterEq => exact Bool.or_eq_true_iff.trans (or_congr (agrees_comparator_iff hv) (above_iff hv))
  | less => exact below_iff hv
  | lessEq => exact Bool.or_eq_true_iff.trans (or_congr (agrees_comparator_iff hv) (below_iff hv))
  | tilde => exact holdsTilde_iff hv
  | caret => exact holdsCaret_iff hv

end PartialVersion

/-! ## Constraints -/

theorem Requirement.admits_iff {r : Requirement} {v : Version} (hv : v.pre = []) :
    r.admits v = true ↔ ∀ c ∈ r.comparators, c.holds v = true := by
  simp [admits, hv]

namespace Condition

def required : Condition → List Comparator
  | .require k p => [p.comparator k]
  | .exclude _ => []
  | .range lower upper => [lower.comparator .greaterEq, upper.comparator .lessEq]

def excluded : Condition → List Requirement
  | .exclude p => [⟨[p.comparator .exact]⟩]
  | _ => []

theorem length_required (c : Condition) : c.required.length = c.weight := by
  cases c <;> rfl

def alternative (conditions : List Condition) : Alternative :=
  { required := ⟨conditions.flatMap required⟩, excluded := conditions.flatMap excluded }

variable {v : Version} {conditions : List Condition}

theorem holds_iff (hv : v.pre = []) {c : Condition} : c.Holds v ↔
    (∀ k ∈ c.required, k.holds v = true) ∧ ∀ r ∈ c.excluded, ¬ r.admits v = true := by
  cases c with
  | require k p => simp [Holds, required, excluded, PartialVersion.holds_comparator_iff hv]
  | exclude p =>
    simp only [Holds, required, excluded, List.forall_mem_singleton, Requirement.admits_iff hv,
      PartialVersion.holds_comparator_iff hv]
    exact (and_iff_right nofun).symm
  | range lower upper =>
    simp [Holds, required, excluded, PartialVersion.holds_comparator_iff hv,
      PartialVersion.Satisfies]

theorem admits_alternative_iff (hv : v.pre = []) :
    (alternative conditions).admits v = true ↔ ∀ c ∈ conditions, c.Holds v := by
  simp only [alternative, Alternative.admits, Bool.and_eq_true, Requirement.admits_iff hv,
    Bool.not_eq_true', List.any_eq_false, List.forall_mem_flatMap, holds_iff hv]
  exact forall₂_and.symm

end Condition

def Constraint.ofConditions (alternatives : List (List Condition)) : Constraint :=
  ⟨alternatives.map Condition.alternative⟩

/-- **A constraint admits the releases of which all conditions of some alternative hold.** -/
theorem Constraint.admits_ofConditions_iff {alternatives : List (List Condition)} {v : Version}
    (hv : v.pre = []) : (ofConditions alternatives).admits v = true ↔
      ∃ conditions ∈ alternatives, ∀ c ∈ conditions, c.Holds v := by
  simp [ofConditions, admits, Condition.admits_alternative_iff hv]

end ImageGate
