import ImageGate.Time.Rfc3339
import ImageGate.Proofs.Text.Digits
import ImageGate.Proofs.Time.Calendar

/-!
# Time stamps read back

An instant is written with the date of its day and the time of day behind it. Each number has as
many digits as are read (`readExactly_padded`), and what is left out of the fraction are zeros
(`readFraction_renderFraction`), so a time stamp with a year of four digits is read as the instant
it was written for (`ofStamp_renderStamp`). Any other year has a sign, which no time stamp begins
with; nor is the text a date, for there is a time of day behind it (`Date.ofText_eq_none_of_mem`).

All of this is about instants that a text can stand for (`IsProper`).
-/

namespace ImageGate

open Text Digits

variable {rest : List Char}

/-! ## Numbers -/

namespace Digits

theorem readExactly_padded {width n : Nat} (hwidth : 0 < width) (hn : n < 10 ^ width)
    (rest : List Char) : readExactly width (padded width n ++ rest) = some (n, rest) := by
  have hlength : (padded width n).length = width := length_padded hwidth hn
  have hdigits : (padded width n).takeWhile Char.isDigit = padded width n :=
    List.takeWhile_eq_self_iff.2 fun c => isDigit_of_mem_padded
  have htake : (padded width n ++ rest).take width = padded width n := by
    rw [List.take_left' hlength]
  have hdrop : (padded width n ++ rest).drop width = rest := by
    rw [List.drop_left' hlength]
  rw [readExactly, htake, hdigits, if_pos hlength, decimalValue_padded, hdrop]

theorem readExactly_of_head {count : Nat} {c : Char} (hcount : 0 < count)
    (hc : c.isDigit = false) (rest : List Char) : readExactly count (c :: rest) = none := by
  obtain ⟨count, rfl⟩ := Nat.exists_eq_succ_of_ne_zero (Nat.pos_iff_ne_zero.1 hcount)
  rw [readExactly, List.take_succ_cons, List.takeWhile_cons_of_neg (by simp [hc])]
  exact if_neg (by simp)

theorem mem_of_readUpTo {most n : Nat} {cs : List Char} {c : Char} (hc : c.isDigit = false)
    (h : readUpTo most cs = some (n, rest)) (hmem : c ∈ cs) : c ∈ rest := by
  have hprefix : (cs.take most).takeWhile Char.isDigit <+: cs :=
    (List.takeWhile_prefix _).trans (List.take_prefix most cs)
  rw [readUpTo, Option.ite_none_left_eq_some] at h
  obtain ⟨-, hsome⟩ := h
  cases hsome
  rw [← List.take_append_drop ((cs.take most).takeWhile Char.isDigit).length cs,
    ← List.prefix_iff_eq_take.1 hprefix, List.mem_append] at hmem
  rcases hmem with hmem | hmem
  · rw [List.mem_takeWhile_imp hmem] at hc
    exact absurd hc (by decide)
  · exact hmem

end Digits

theorem expect_cons (c : Char) (cs : List Char) : expect c (c :: cs) = some cs :=
  if_pos rfl

theorem mem_of_expect {sep c : Char} {cs : List Char} (hne : c ≠ sep)
    (h : expect sep cs = some rest) (hmem : c ∈ cs) : c ∈ rest := by
  cases cs with
  | nil => exact absurd hmem List.not_mem_nil
  | cons d cs =>
    rw [expect, Option.ite_none_right_eq_some] at h
    obtain ⟨rfl, hsome⟩ := h
    cases hsome
    exact (List.mem_cons.1 hmem).resolve_left hne

theorem mem_dropWhile_isBlank {cs : List Char} {c : Char} (hc : isBlank c = false) (hmem : c ∈ cs) :
    c ∈ cs.dropWhile isBlank := by
  rw [← List.takeWhile_append_dropWhile (p := isBlank) (l := cs), List.mem_append] at hmem
  rcases hmem with hmem | hmem
  · rw [List.mem_takeWhile_imp hmem] at hc
    exact absurd hc (by decide)
  · exact hmem

namespace Instant

/-! ## Instants that a text can stand for -/

/-- The nanoseconds go beyond a second only where a leap second follows: at the end of a minute. -/
structure IsProper (t : Instant) : Prop where
  nano_lt : t.nano < 2000000000
  leap : 1000000000 ≤ t.nano → t.second % 60 = 59

/-- The instant lies in a year from 0 to 9999. -/
def HasFourDigitYear (t : Instant) : Prop :=
  (Date.mk 0 1 1).toDays * 86400 ≤ t.second ∧ t.second < (Date.mk 10000 1 1).toDays * 86400

instance (t : Instant) : Decidable t.HasFourDigitYear :=
  inferInstanceAs (Decidable (_ ∧ _))

theorem hasFourDigitYear_iff {t : Instant} : t.HasFourDigitYear ↔
    0 ≤ (Date.ofDays (t.second / 86400)).year ∧ (Date.ofDays (t.second / 86400)).year ≤ 9999 := by
  have hfirst := Date.le_year_ofDays_iff 0 (t.second / 86400)
  have hlast := Date.le_year_ofDays_iff 25 (t.second / 86400)
  simp only [Int.reduceMul] at hfirst hlast
  unfold HasFourDigitYear
  omega

/-! ## Fractions -/

theorem readFraction_padded {width n nano : Nat} (hwidth : 0 < width) (hle : width ≤ 9)
    (hn : n < 10 ^ width) (hnano : n * 10 ^ (9 - width) = nano) (hrest : StartsNoDigit rest) :
    readFraction ('.' :: (padded width n ++ rest)) = some (nano, rest) := by
  have hlength : (padded width n).length = width := length_padded hwidth hn
  have htake : (padded width n ++ rest).take 9 = padded width n ++ rest.take (9 - width) := by
    rw [List.take_append, hlength, List.take_of_length_le (by omega)]
  have hdigits : ((padded width n ++ rest).take 9).takeWhile Char.isDigit = padded width n := by
    rw [htake]
    refine takeWhile_append_of_head? (fun c => isDigit_of_mem_padded) fun c hc => hrest c ?_
    rw [List.head?_take] at hc
    split at hc
    · cases hc
    · exact hc
  have hmore : rest.dropWhile Char.isDigit = rest :=
    @dropWhile_append_of_head? rest Char.isDigit [] (by simp) hrest
  have hne : (padded width n).isEmpty = false := by
    rw [List.isEmpty_eq_false_iff]
    exact List.ne_nil_of_length_pos (by omega)
  simp only [readFraction, hdigits, hne, Bool.false_eq_true, if_false, hlength,
    decimalValue_padded, List.drop_left' hlength, hmore, ite_self]
  rw [← hnano]
  rfl

theorem readFraction_of_head (hrest : rest.head? ≠ some '.') : readFraction rest = some (0, rest) := by
  unfold readFraction
  split
  · simp at hrest
  · rfl

/-- **A fraction is read as it was written.** -/
theorem readFraction_renderFraction {nano : Nat} (hnano : nano < 1000000000)
    (hrest : StartsNoDigit rest) (hdot : rest.head? ≠ some '.') :
    readFraction (renderFraction nano ++ rest) = some (nano, rest) := by
  unfold renderFraction
  by_cases hzero : nano = 0
  · rw [if_pos hzero, List.nil_append, readFraction_of_head hdot, hzero]
  by_cases hmilli : nano % 1000000 = 0
  · rw [if_neg hzero, if_pos hmilli, List.cons_append]
    exact readFraction_padded (by decide) (by decide) (by omega) (by omega) hrest
  by_cases hmicro : nano % 1000 = 0
  · rw [if_neg hzero, if_neg hmilli, if_pos hmicro, List.cons_append]
    exact readFraction_padded (by decide) (by decide) (by omega) (by omega) hrest
  · rw [if_neg hzero, if_neg hmilli, if_neg hmicro, List.cons_append]
    exact readFraction_padded (by decide) (by decide) (by omega) (by omega) hrest

theorem readFraction_lt {nano : Nat} {cs : List Char} (h : readFraction cs = some (nano, rest)) :
    nano < 1000000000 := by
  unfold readFraction at h
  split at h
  case h_1 cs =>
    rw [Option.ite_none_left_eq_some] at h
    obtain ⟨-, hsome⟩ := h
    cases hsome
    have hlength : ((cs.take 9).takeWhile Char.isDigit).length ≤ 9 :=
      (List.takeWhile_prefix _).length_le.trans (List.length_take_le 9 cs)
    have hlt : decimalValue ((cs.take 9).takeWhile Char.isDigit) <
        10 ^ ((cs.take 9).takeWhile Char.isDigit).length :=
      decimalValue_lt fun c => List.mem_takeWhile_imp
    calc decimalValue ((cs.take 9).takeWhile Char.isDigit) *
          10 ^ (9 - ((cs.take 9).takeWhile Char.isDigit).length)
        < 10 ^ ((cs.take 9).takeWhile Char.isDigit).length *
          10 ^ (9 - ((cs.take 9).takeWhile Char.isDigit).length) :=
        Nat.mul_lt_mul_of_pos_right hlt (Nat.pow_pos (by decide))
      _ = 10 ^ 9 := by rw [← Nat.pow_add, Nat.add_sub_cancel' hlength]
  case h_2 =>
    cases h
    decide

/-! ## Time stamps -/

theorem readOffset_zero : readOffset "+00:00".toList = some (0, []) := by
  decide

theorem readOffset_mod {offset : Int} {cs : List Char} (h : readOffset cs = some (offset, rest)) :
    offset % 60 = 0 := by
  unfold readOffset at h
  split at h
  case h_1 | h_2 =>
    cases h
    rfl
  case h_3 =>
    simp only [Option.bind_eq_bind] at h
    split at h
    · simp only [Option.bind_eq_some_iff, Option.some.injEq, Prod.mk.injEq] at h
      obtain ⟨-, rfl, ⟨hours, -⟩, -, -, -, ⟨minutes, -⟩, -, -, -, rfl, -⟩ := h
      split <;> omega
    · split at h
      · simp only [Option.bind_eq_some_iff, Option.some.injEq, Prod.mk.injEq] at h
        obtain ⟨-, rfl, ⟨hours, -⟩, -, -, -, ⟨minutes, -⟩, -, -, -, rfl, -⟩ := h
        split <;> omega
      · cases h
  case h_4 => cases h

/-- What a time stamp says: the date, the time of day, the fraction. -/
theorem ofStamp_fields {year month day hour minute second nano : Nat}
    (hyear : year ≤ 9999) (hdate : (Date.mk year month day).isValid = true) (hhour : hour ≤ 23)
    (hminute : minute ≤ 59) (hsecond : second ≤ 60) (hnano : nano < 1000000000) :
    ofStamp (padded 4 year ++ '-' :: padded 2 month ++ '-' :: padded 2 day ++
        'T' :: padded 2 hour ++ ':' :: padded 2 minute ++ ':' :: padded 2 second ++
        renderFraction nano ++ "+00:00".toList) =
      some ⟨(Date.mk year month day).toDays * 86400 +
          (hour * 3600 + minute * 60 + if second = 60 then 59 else second : Nat),
        if second = 60 then nano + 1000000000 else nano⟩ := by
  have hmonth : month < 10 ^ 2 ∧ day < 10 ^ 2 := by
    have hlength := Date.monthLength_le year month
    simp only [Date.isValid, Bool.and_eq_true, decide_eq_true_eq] at hdate
    omega
  have hzero : StartsNoDigit "+00:00".toList := by
    intro c hc
    cases hc
    rfl
  have hfraction := readFraction_renderFraction hnano hzero (by decide)
  have hfour : ∀ rest, readExactly 4 (padded 4 year ++ rest) = some (year, rest) :=
    readExactly_padded (by decide) (by omega)
  have htwo : ∀ n < 10 ^ 2, ∀ rest, readExactly 2 (padded 2 n ++ rest) = some (n, rest) :=
    fun n => readExactly_padded (by decide)
  have hinside : guard (((Date.mk year month day).isValid && decide (hour ≤ 23) &&
      decide (minute ≤ 59) && decide (second ≤ 60)) = true) = some () :=
    if_pos (by simp [hdate, hhour, hminute, hsecond])
  have hmark : guard (('T' == 'T' || 'T' == 't' || 'T' == ' ') = true) = some () := rfl
  have hend : guard (([] : List Char).isEmpty = true) = some () := rfl
  -- Part by part, with the rest of the text behind each.
  simp only [List.append_assoc, List.cons_append]
  unfold ofStamp
  refine Option.bind_eq_some_iff.2 ⟨_, hfour _, ?_⟩
  refine Option.bind_eq_some_iff.2 ⟨_, expect_cons _ _, ?_⟩
  refine Option.bind_eq_some_iff.2 ⟨_, htwo month hmonth.1 _, ?_⟩
  refine Option.bind_eq_some_iff.2 ⟨_, expect_cons _ _, ?_⟩
  refine Option.bind_eq_some_iff.2 ⟨_, htwo day hmonth.2 _, ?_⟩
  refine Option.bind_eq_some_iff.2 ⟨_, hmark, ?_⟩
  refine Option.bind_eq_some_iff.2 ⟨_, htwo hour (by omega) _, ?_⟩
  refine Option.bind_eq_some_iff.2 ⟨_, expect_cons _ _, ?_⟩
  refine Option.bind_eq_some_iff.2 ⟨_, htwo minute (by omega) _, ?_⟩
  refine Option.bind_eq_some_iff.2 ⟨_, expect_cons _ _, ?_⟩
  refine Option.bind_eq_some_iff.2 ⟨_, htwo second (by omega) _, ?_⟩
  refine Option.bind_eq_some_iff.2 ⟨_, hfraction, ?_⟩
  refine Option.bind_eq_some_iff.2 ⟨_, readOffset_zero, ?_⟩
  refine Option.bind_eq_some_iff.2 ⟨_, hend, ?_⟩
  refine Option.bind_eq_some_iff.2 ⟨_, hinside, ?_⟩
  simp only [beq_iff_eq, Int.sub_zero]

/-- **An instant of a year with four digits is read as it was written.** -/
theorem ofStamp_renderStamp {t : Instant} (h : t.IsProper) (hyear : t.HasFourDigitYear) :
    ofStamp (t.renderStamp ++ "+00:00".toList) = some t := by
  obtain ⟨second, nano⟩ := t
  obtain ⟨hnano, hleap⟩ := h
  obtain ⟨hfirst, hlast⟩ := hasFourDigitYear_iff.1 hyear
  dsimp only at hnano hleap hfirst hlast
  have hdate : (Date.mk ((Date.ofDays (second / 86400)).year.toNat : Nat)
      (Date.ofDays (second / 86400)).month (Date.ofDays (second / 86400)).day) =
      Date.ofDays (second / 86400) := by
    rw [Int.toNat_of_nonneg hfirst]
  have hvalid : (Date.ofDays (second / 86400)).isValid = true :=
    Date.isValid_ofDays (by unfold Date.yearMin; omega) (by unfold Date.yearMax; omega)
  have hdays : (Date.ofDays (second / 86400)).toDays = second / 86400 := Date.toDays_ofDays _
  simp only [renderStamp, renderYear, if_pos (And.intro hfirst hlast)]
  rw [ofStamp_fields (by omega) (by rw [hdate, hvalid]) (by omega) (by omega) (by omega)
    (by omega), hdate, hdays]
  simp only [Option.some.injEq, mk.injEq]
  constructor
  · split <;> omega
  · split <;> omega

/-- What is read is an instant that a text can stand for. -/
theorem isProper_of_ofStamp {t : Instant} {cs : List Char} (h : ofStamp cs = some t) :
    t.IsProper := by
  unfold ofStamp at h
  obtain ⟨⟨year, _⟩, -, h⟩ := Option.bind_eq_some_iff.1 h
  obtain ⟨_, -, h⟩ := Option.bind_eq_some_iff.1 h
  obtain ⟨⟨month, _⟩, -, h⟩ := Option.bind_eq_some_iff.1 h
  obtain ⟨_, -, h⟩ := Option.bind_eq_some_iff.1 h
  obtain ⟨⟨day, cs'⟩, -, h⟩ := Option.bind_eq_some_iff.1 h
  dsimp only at h
  cases cs' with
  | nil => cases h
  | cons mark cs' =>
    obtain ⟨_, -, h⟩ := Option.bind_eq_some_iff.1 h
    obtain ⟨⟨hour, _⟩, -, h⟩ := Option.bind_eq_some_iff.1 h
    obtain ⟨_, -, h⟩ := Option.bind_eq_some_iff.1 h
    obtain ⟨⟨minute, _⟩, -, h⟩ := Option.bind_eq_some_iff.1 h
    obtain ⟨_, -, h⟩ := Option.bind_eq_some_iff.1 h
    obtain ⟨⟨second, _⟩, -, h⟩ := Option.bind_eq_some_iff.1 h
    obtain ⟨⟨nano, _⟩, hfraction, h⟩ := Option.bind_eq_some_iff.1 h
    obtain ⟨⟨offset, _⟩, hsign, h⟩ := Option.bind_eq_some_iff.1 h
    obtain ⟨_, -, h⟩ := Option.bind_eq_some_iff.1 h
    obtain ⟨_, -, hsome⟩ := Option.bind_eq_some_iff.1 h
    -- A second numbered 60 stays at the end of its minute, as offsets are whole minutes.
    have hnano : nano < 1000000000 := readFraction_lt hfraction
    have hoffset : offset % 60 = 0 := readOffset_mod hsign
    cases hsome
    simp only [beq_iff_eq]
    constructor
    · dsimp only
      split <;> omega
    · dsimp only
      intro hleap
      split at hleap
      · rw [if_pos ‹second = 60›]
        omega
      · omega

theorem isProper_ofDate (d : Date) : (ofDate d).IsProper := by
  have hnano : (ofDate d).nano = 0 := rfl
  constructor <;> omega

theorem isProper_of_ofText {t : Instant} {s : String} (h : ofText s = some t) : t.IsProper := by
  simp only [ofText] at h
  cases hstamp : ofStamp (trimBoth isBlank s.toList) with
  | some t' =>
    rw [hstamp] at h
    cases h
    exact isProper_of_ofStamp hstamp
  | none =>
    rw [hstamp] at h
    obtain ⟨d, -, rfl⟩ := Option.map_eq_some_iff.1 h
    exact isProper_ofDate d

end Instant

/-! ## Dates -/

/-- A date consists of digits and signs, with white space in front of the numbers. -/
theorem Date.ofText_eq_none_of_mem {cs : List Char} {c : Char} (hdigit : c.isDigit = false)
    (hblank : isBlank c = false) (hplus : c ≠ '+') (hminus : c ≠ '-') (hmem : c ∈ cs) :
    Date.ofText cs = none := by
  have hshort : ∀ {cs rest : List Char} {n : Nat}, Date.readShort cs = some (n, rest) →
      c ∈ cs → c ∈ rest :=
    fun h hmem => mem_of_readUpTo hdigit h (mem_dropWhile_isBlank hblank hmem)
  have hyear : ∀ {cs rest : List Char} {year : Int}, Date.readYear cs = some (year, rest) →
      c ∈ cs → c ∈ rest := by
    intro cs rest year h hmem
    unfold Date.readYear at h
    split at h
    all_goals
      obtain ⟨⟨n, rest'⟩, hread, hpair⟩ := Option.map_eq_some_iff.1 h
      cases hpair
    · exact mem_of_readUpTo hdigit hread ((List.mem_cons.1 hmem).resolve_left hminus)
    · exact mem_of_readUpTo hdigit hread ((List.mem_cons.1 hmem).resolve_left hplus)
    · exact mem_of_readUpTo hdigit hread hmem
  by_contra hne
  obtain ⟨d, hd⟩ := Option.ne_none_iff_exists'.1 hne
  simp only [Date.ofText, Option.bind_eq_bind, Option.bind_eq_some_iff] at hd
  obtain ⟨⟨year, rest₁⟩, h₁, rest₂, h₂, ⟨month, rest₃⟩, h₃, rest₄, h₄, ⟨day, rest₅⟩, h₅, _, hend,
    -⟩ := hd
  have hmem₁ : c ∈ rest₁ := hyear h₁ (mem_dropWhile_isBlank hblank hmem)
  have hmem₃ : c ∈ rest₃ := hshort h₃ (mem_of_expect hminus h₂ hmem₁)
  have hmem₅ : c ∈ rest₅ := hshort h₅ (mem_of_expect hminus h₄ hmem₃)
  have hnil : rest₅ = [] := by
    simpa [guard] using hend
  rw [hnil] at hmem₅
  exact absurd hmem₅ List.not_mem_nil

/-! ## Texts -/

namespace Instant

variable {t : Instant}

theorem ofStamp_of_head {c : Char} (hc : c.isDigit = false) (cs : List Char) :
    ofStamp (c :: cs) = none := by
  rw [ofStamp, readExactly_of_head (by decide) hc]
  rfl

theorem exists_renderYear_eq_cons (year : Int) : ∃ c cs, renderYear year = c :: cs ∧
    isBlank c = false ∧ (¬ (0 ≤ year ∧ year ≤ 9999) → c.isDigit = false) := by
  unfold renderYear
  by_cases hyear : 0 ≤ year ∧ year ≤ 9999
  · have hpos : 0 < (padded 4 year.toNat).length := by
      rw [length_padded (by decide) (by omega)]
      decide
    obtain ⟨c, cs, hcons⟩ := List.exists_cons_of_ne_nil (List.ne_nil_of_length_pos hpos)
    have hdigit : c.isDigit = true := isDigit_of_mem_padded (hcons ▸ List.mem_cons_self)
    exact ⟨c, cs, by rw [if_pos hyear, hcons], isBlank_of_isDigit hdigit, absurd hyear⟩
  · refine ⟨_, _, if_neg hyear, ?_, fun _ => ?_⟩
    · split <;> decide
    · split <;> decide

/-- A time stamp begins with the year and has a mark before the time of day. -/
theorem renderStamp_eq (t : Instant) : ∃ c cs, t.renderStamp = c :: cs ∧ 'T' ∈ cs ∧
    isBlank c = false ∧ (¬ t.HasFourDigitYear → c.isDigit = false) := by
  obtain ⟨c, cs, hyear, hblank, hdigit⟩ :=
    exists_renderYear_eq_cons (Date.ofDays (t.second / 86400)).year
  obtain ⟨rest, hstamp, hmark⟩ : ∃ rest, t.renderStamp = c :: rest ∧ 'T' ∈ rest := by
    simp only [renderStamp, hyear, List.append_assoc, List.cons_append]
    exact ⟨_, rfl, by simp⟩
  exact ⟨c, rest, hstamp, hmark, hblank, fun hfar =>
    hdigit fun hbounds => hfar (hasFourDigitYear_iff.2 hbounds)⟩

/-- There is no white space around a time stamp. -/
theorem trimBoth_renderWithOffset (t : Instant) :
    trimBoth isBlank t.renderWithOffset.toList = t.renderStamp ++ "+00:00".toList := by
  obtain ⟨c, cs, hstamp, -, hblank, -⟩ := renderStamp_eq t
  rw [renderWithOffset, String.toList_ofList]
  refine (isTrimmed_iff.1 ⟨fun d hd => ?_, fun d hd => ?_, [], [], by simp, by simp, by simp⟩).symm
  · rw [hstamp] at hd
    cases hd
    exact hblank
  · rw [List.getLast?_append] at hd
    cases hd
    decide

/-- **The time stamp of an instant is read as this instant if its year has four digits, and not
at all otherwise.** -/
theorem ofText_renderWithOffset (h : t.IsProper) :
    ofText t.renderWithOffset = if t.HasFourDigitYear then some t else none := by
  rw [ofText, trimBoth_renderWithOffset]
  by_cases hyear : t.HasFourDigitYear
  · rw [ofStamp_renderStamp h hyear, if_pos hyear]
    rfl
  · obtain ⟨c, cs, hcons, hmark, -, hdigit⟩ := renderStamp_eq t
    have hmark : 'T' ∈ t.renderStamp ++ "+00:00".toList := by
      rw [hcons]
      exact List.mem_append_left _ (List.mem_cons_of_mem c hmark)
    have hstamp : ofStamp (t.renderStamp ++ "+00:00".toList) = none := by
      rw [hcons]
      exact ofStamp_of_head (hdigit hyear) _
    rw [hstamp, if_neg hyear,
      Date.ofText_eq_none_of_mem (by decide) (by decide) (by decide) (by decide) hmark]
    rfl

end Instant

end ImageGate
