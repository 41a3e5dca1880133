import ImageGate.Display.Amount
import ImageGate.Proofs.Time.Instant
import ImageGate.Proofs.Time.Stamp

/-!
# Ages tell the truth

An age is shown as a count of one unit (`Shown`), and its text tells the count and the unit
(`Shown.render_injective`), so what is shown can be held against the seconds it stands for (`Shows`).

**Rounding.** The count is the age divided by the unit and rounded down, for all ages.

**Hand-over.** A unit should take over at the age that is one of it. All do but the year: twelve
months are 360 days, and a year is 365. In between (`InGap`) an age is too old for months and too
young for years, and is shown as no years at all: as less than most ages before it.

Main result: `age_truthful`.
-/

namespace ImageGate

open Text

/-- The order in time. Where the seconds agree the fraction decides, also in a leap second. -/
def Instant.IsUpTo (t now : Instant) : Prop :=
  t.second < now.second ∨ t.second = now.second ∧ t.nano ≤ now.nano

namespace Display

/-! ## Seconds between instants -/

section Between

variable {now t : Instant}

/-- Outside leap seconds the time between two instants is their difference. -/
theorem nanosBetween_eq (ht : t.nano < 1000000000) (hnow : now.nano < 1000000000) :
    nanosBetween t now = now.nanos - t.nanos := by
  have hleap : leapBetween t now = 0 := by
    simp only [leapBetween, Nat.not_le.2 ht, Nat.not_le.2 hnow, and_false, if_false]
  unfold nanosBetween Instant.nanos
  rw [hleap]
  omega

/-- An instant within a leap second may lie less than a second behind a later one. -/
theorem nanosBetween_gt (ht : t.IsProper) (hnow : now.IsProper) (h : t.IsUpTo now) :
    -1000000000 < nanosBetween t now := by
  have hnano := ht.nano_lt
  have hleap := hnow.leap
  unfold Instant.IsUpTo at h
  unfold nanosBetween leapBetween
  dsimp only
  split
  · omega
  · -- A leap second is taken off only across midnight, and it ends a minute of the later day.
    split <;> omega

theorem secondsBetween_nonneg (ht : t.IsProper) (hnow : now.IsProper) (h : t.IsUpTo now) :
    0 ≤ secondsBetween t now := by
  have hgt := nanosBetween_gt ht hnow h
  unfold secondsBetween
  by_cases hnonneg : 0 ≤ nanosBetween t now
  · exact Int.tdiv_nonneg hnonneg (by decide)
  · have hzero : Int.tdiv (-nanosBetween t now) 1000000000 = 0 :=
      Int.tdiv_eq_zero_of_lt (by omega) (by omega)
    rw [Int.neg_tdiv] at hzero
    omega

/-- Outside leap seconds the seconds are those of the difference, rounded down. -/
theorem secondsBetween_bounds (ht : t.nano < 1000000000) (hnow : now.nano < 1000000000)
    (h : t.IsUpTo now) :
    secondsBetween t now * 1000000000 ≤ now.nanos - t.nanos ∧
      now.nanos - t.nanos < (secondsBetween t now + 1) * 1000000000 := by
  have hnonneg : 0 ≤ now.nanos - t.nanos := by
    unfold Instant.nanos
    rcases h with h | ⟨hsecond, hnano⟩ <;> omega
  have hdiv : secondsBetween t now = (now.nanos - t.nanos) / 1000000000 := by
    rw [secondsBetween, nanosBetween_eq ht hnow, Int.tdiv_eq_ediv_of_nonneg hnonneg]
  rw [hdiv]
  omega

end Between

/-! ## Units -/

/-- The units in which ages are shown. -/
inductive AgeUnit
  | second | minute | hour | day | month | year
deriving DecidableEq, Repr

namespace AgeUnit

/-- The length of a unit. Months have thirty days and years 365. -/
def seconds : AgeUnit → Nat
  | second => 1
  | minute => 60
  | hour => 3600
  | day => 86400
  | month => 30 * 86400
  | year => 365 * 86400

/-- The youngest age that is shown in a unit. Years follow on twelve months. -/
def first : AgeUnit → Nat
  | second => 0
  | minute => 60
  | hour => 3600
  | day => 86400
  | month => 30 * 86400
  | year => 12 * 30 * 86400

def name : AgeUnit → String
  | second => "seconds"
  | minute => "minutes"
  | hour => "hours"
  | day => "days"
  | month => "months"
  | year => "years"

def of (a : Nat) : AgeUnit :=
  if a < minute.first then second
  else if a < hour.first then minute
  else if a < day.first then hour
  else if a < month.first then day
  else if a < year.first then month
  else year

theorem seconds_pos (u : AgeUnit) : 0 < u.seconds := by
  cases u <;> decide

theorem first_le_seconds (u : AgeUnit) : u.first ≤ u.seconds := by
  cases u <;> decide

theorem name_injective {u v : AgeUnit} (h : u.name = v.name) : u = v := by
  cases u <;> cases v <;> first | rfl | exact absurd h (by decide)

theorem first_injective {u v : AgeUnit} (h : u.first = v.first) : u = v := by
  cases u <;> cases v <;> first | rfl | exact absurd h (by decide)

theorem first_of_le (a : Nat) : (of a).first ≤ a := by
  unfold of
  repeat' split
  all_goals simp only [first] at *; omega

theorem first_le_of {u : AgeUnit} {a : Nat} (h : u.first ≤ a) : u.first ≤ (of a).first := by
  unfold of
  repeat' split
  all_goals cases u <;> simp only [first] at * <;> omega

theorem of_eq_of_le {a b : Nat} (hfirst : (of b).first ≤ a) (hle : a ≤ b) : of a = of b := by
  apply first_injective
  apply Nat.le_antisymm
  · exact first_le_of (Nat.le_trans (first_of_le a) hle)
  · exact first_le_of hfirst

end AgeUnit

/-! ## What is shown -/

structure Shown where
  count : Nat
  unit : AgeUnit
deriving DecidableEq, Repr

namespace Shown

def seconds (s : Shown) : Nat :=
  s.count * s.unit.seconds

def render (s : Shown) : String :=
  s!"{s.count} {s.unit.name} ago"

/-- An age in seconds as it is shown: in whole units. -/
def ofSeconds (a : Nat) : Shown :=
  ⟨a / (AgeUnit.of a).seconds, AgeUnit.of a⟩

theorem render_mk (n : Nat) (u : AgeUnit) :
    (Shown.mk n u).render = toString n ++ (" " ++ u.name ++ " ago") := by
  simp only [render, String.append_assoc]
  rfl

theorem toList_render (s : Shown) :
    s.render.toList = Nat.toDigits 10 s.count ++ ' ' :: (s.unit.name.toList ++ " ago".toList) := by
  rw [render_mk, String.toList_append, String.toList_append, String.toList_append,
    Nat.toString_eq_repr, Nat.toList_repr]
  rfl

/-- **A text tells the count and the unit.** -/
theorem render_injective {s r : Shown} (h : s.render = r.render) : s = r := by
  have hblank (n : Nat) : ' ' ∉ Nat.toDigits 10 n := fun hmem =>
    absurd (isDigit_of_mem_toDigits hmem) (by decide)
  have hcut := congrArg (cutFirst? ' ' ·.toList) h
  simp only [toList_render, cutFirst?_append (hblank _), Option.some.injEq, Prod.mk.injEq,
    List.append_left_inj] at hcut
  obtain ⟨hdigits, hname⟩ := hcut
  have hcount : s.count = r.count := by
    rw [← decimalValue_toDigits s.count, hdigits, decimalValue_toDigits]
  have hunit : s.unit = r.unit := AgeUnit.name_injective (String.toList_injective hname)
  cases s
  cases r
  congr

end Shown

theorem ageOfSeconds_eq (a : Nat) : ageOfSeconds a = (Shown.ofSeconds a).render := by
  have hminute : a < 60 ↔ a < AgeUnit.minute.first := Iff.rfl
  have hhour : a / 60 < 60 ↔ a < AgeUnit.hour.first := Nat.div_lt_iff_lt_mul (by decide)
  have hday : a / 3600 < 24 ↔ a < AgeUnit.day.first := Nat.div_lt_iff_lt_mul (by decide)
  have hmonth : a / 86400 < 30 ↔ a < AgeUnit.month.first := Nat.div_lt_iff_lt_mul (by decide)
  have hyear : a / 86400 / 30 < 12 ↔ a < AgeUnit.year.first := by
    rw [Nat.div_lt_iff_lt_mul (by decide), Nat.div_lt_iff_lt_mul (by decide)]
    exact Iff.rfl
  unfold ageOfSeconds Shown.ofSeconds AgeUnit.of
  simp only [hminute, hhour, hday, hmonth, hyear]
  -- Both sides go through the units in the same order.
  repeat' split
  all_goals
    simp only [Shown.render_mk, AgeUnit.name, AgeUnit.seconds, String.reduceAppend,
      Nat.div_div_eq_div_mul, Nat.div_one]
    rfl

/-! ## Rounding and hand-over -/

/-- Twelve months or more, and less than a year. -/
def InGap (a : Nat) : Prop :=
  AgeUnit.year.first ≤ a ∧ a < AgeUnit.year.seconds

instance (a : Nat) : Decidable (InGap a) :=
  inferInstanceAs (Decidable (_ ∧ _))

/-- Any other age from a second on is at least one of its unit. -/
theorem AgeUnit.seconds_of_le_iff {a : Nat} : (of a).seconds ≤ a ↔ a ≠ 0 ∧ ¬ InGap a := by
  have hfirst := first_of_le a
  have hyear : year.first ≤ a → year.first ≤ (of a).first := first_le_of
  unfold InGap
  cases hunit : of a
  all_goals
    rw [hunit] at hfirst hyear
    simp only [first, seconds] at *
    omega

namespace Shown

theorem seconds_le (a : Nat) : (ofSeconds a).seconds ≤ a :=
  Nat.div_mul_le_self a (AgeUnit.of a).seconds

theorem lt_count_add_one (a : Nat) :
    a < ((ofSeconds a).count + 1) * (ofSeconds a).unit.seconds :=
  (Nat.div_lt_iff_lt_mul (AgeUnit.seconds_pos _)).1 (Nat.lt_succ_self _)

theorem one_le_count_iff {a : Nat} : 1 ≤ (ofSeconds a).count ↔ a ≠ 0 ∧ ¬ InGap a := by
  rw [ofSeconds, Nat.le_div_iff_mul_le (AgeUnit.seconds_pos _), Nat.one_mul,
    AgeUnit.seconds_of_le_iff]

theorem seconds_of_inGap {a : Nat} (h : InGap a) : (ofSeconds a).seconds = 0 := by
  have hcount : ¬ 1 ≤ (ofSeconds a).count := fun hpos => (one_le_count_iff.1 hpos).2 h
  rw [seconds, Nat.lt_one_iff.1 (Nat.not_le.1 hcount), Nat.zero_mul]

theorem seconds_mono {a b : Nat} (hle : a ≤ b) (hb : ¬ InGap b) :
    (ofSeconds a).seconds ≤ (ofSeconds b).seconds := by
  by_cases hunit : AgeUnit.of a = AgeUnit.of b
  · unfold seconds ofSeconds
    rw [hunit]
    exact Nat.mul_le_mul_right _ (Nat.div_le_div_right hle)
  · -- The older one is in a later unit, and at least one of it.
    have hlt : a < (AgeUnit.of b).first :=
      Nat.lt_of_not_le fun hfirst => hunit (AgeUnit.of_eq_of_le hfirst hle)
    have hpos : b ≠ 0 := by
      have hfirst := AgeUnit.first_of_le b
      omega
    calc (ofSeconds a).seconds
      _ ≤ a := seconds_le a
      _ ≤ (AgeUnit.of b).first := Nat.le_of_lt hlt
      _ ≤ (AgeUnit.of b).seconds := AgeUnit.first_le_seconds _
      _ ≤ (ofSeconds b).seconds := Nat.le_mul_of_pos_left _ (one_le_count_iff.2 ⟨hpos, hb⟩)

theorem seconds_le_seconds_iff {a b : Nat} (hle : a ≤ b) :
    (ofSeconds a).seconds ≤ (ofSeconds b).seconds ↔ ¬ InGap b ∨ (ofSeconds a).seconds = 0 := by
  by_cases hb : InGap b
  · rw [seconds_of_inGap hb, Nat.le_zero]
    simp only [hb, not_true_eq_false, false_or]
  · simp only [hb, not_false_eq_true, true_or, iff_true]
    exact seconds_mono hle hb

end Shown

/-! ## Ages of instants -/

/-- An instant that lies `a` seconds back is shown as `s`. -/
structure Shows (now t : Instant) (a : Nat) (s : Shown) : Prop where
  between : secondsBetween t now = a
  text : age now t = s.render

section Ages

variable {now t : Instant} {a : Nat} {s : Shown}

theorem shows_iff : Shows now t a s ↔ secondsBetween t now = a ∧ s = Shown.ofSeconds a := by
  have hage (h : secondsBetween t now = a) : age now t = (Shown.ofSeconds a).render := by
    rw [age, h, ← ageOfSeconds_eq]
  constructor
  · intro h
    refine ⟨h.between, Shown.render_injective ?_⟩
    rw [← h.text, hage h.between]
  · rintro ⟨h, rfl⟩
    exact ⟨h, hage h⟩

/-- **Ages tell the truth, but for the gap between months and years.** An instant that is not in the
future is shown as whole units that have passed. There is at least one of them, unless the instant
is less than a second old or in the gap; and it is shown as no more than an older one is, unless
that one is in the gap. -/
theorem age_truthful (ht : t.IsProper) (hnow : now.IsProper) (h : t.IsUpTo now) :
    ∃ a s, Shows now t a s ∧
      (t.nano < 1000000000 → now.nano < 1000000000 →
        a * 1000000000 ≤ now.nanos - t.nanos ∧ now.nanos - t.nanos < (a + 1) * 1000000000) ∧
      s.count * s.unit.seconds ≤ a ∧ a < (s.count + 1) * s.unit.seconds ∧
      (s.unit ≠ .second → (1 ≤ s.count ↔ ¬ InGap a)) ∧
      ∀ now' t' b r, Shows now' t' b r → a ≤ b →
        (s.seconds ≤ r.seconds ↔ ¬ InGap b ∨ s.seconds = 0) := by
  obtain ⟨a, ha⟩ := Int.eq_ofNat_of_zero_le (secondsBetween_nonneg ht hnow h)
  refine ⟨a, Shown.ofSeconds a, shows_iff.2 ⟨ha, rfl⟩, ?_, Shown.seconds_le a,
    Shown.lt_count_add_one a, ?_, ?_⟩
  · intro ht hnow
    rw [← ha]
    exact secondsBetween_bounds ht hnow h
  · intro hunit
    have hpos : a ≠ 0 := fun hzero => hunit (by rw [hzero]; rfl)
    rw [Shown.one_le_count_iff, and_iff_right hpos]
  · intro now' t' b r hshows hle
    obtain ⟨-, rfl⟩ := shows_iff.1 hshows
    exact Shown.seconds_le_seconds_iff hle

end Ages

/-- Four and a half seconds after the middle of a leap second. -/
theorem age_truthful_of_leap_second :
    ∃ s, Shows ⟨1483228805, 0⟩ ⟨1483228799, 1500000000⟩ 4 s ∧
      s.count * s.unit.seconds ≤ 4 ∧ 4 < (s.count + 1) * s.unit.seconds ∧
      (s.unit ≠ .second → (1 ≤ s.count ↔ ¬ InGap 4)) ∧
      ∀ now' t' b r, Shows now' t' b r → 4 ≤ b →
        (s.seconds ≤ r.seconds ↔ ¬ InGap b ∨ s.seconds = 0) := by
  obtain ⟨a, s, hshows, -, h⟩ := @age_truthful ⟨1483228805, 0⟩ ⟨1483228799, 1500000000⟩
    ⟨by decide, by decide⟩ ⟨by decide, by decide⟩ (.inl (by decide))
  have ha : (4 : Int) = a := hshows.between
  obtain rfl : a = 4 := by omega
  exact ⟨s, hshows, h⟩

/-- An instant of 360 days ago is no years old, and one of 359 days ago eleven months. -/
theorem age_of_360_days :
    age ⟨31104000, 0⟩ ⟨0, 0⟩ = "0 years ago" ∧ age ⟨31104000, 0⟩ ⟨86400, 0⟩ = "11 months ago" ∧
      ∃ older younger : Shown,
        Shows ⟨31104000, 0⟩ ⟨0, 0⟩ 31104000 older ∧ Shows ⟨31104000, 0⟩ ⟨86400, 0⟩ 31017600 younger ∧
        older.unit ≠ .second ∧ older.count < 1 ∧ older.seconds < younger.seconds := by
  refine ⟨by decide, by decide, ⟨0, .year⟩, ⟨11, .month⟩, ?_, ?_, by decide, by decide, by decide⟩
  · exact shows_iff.2 ⟨by decide, by decide⟩
  · exact shows_iff.2 ⟨by decide, by decide⟩

end Display

end ImageGate
