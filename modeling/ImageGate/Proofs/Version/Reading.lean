import ImageGate.Proofs.Text.Digits
import ImageGate.Proofs.Text.Reading
import ImageGate.Version.Parser

/-!
# Reading the parts of versions

The parts of a version are read off the front of a text, and each reader leaves what is behind the
part. The readers are exact: a number is read where its decimal digits stand and no digit follows
(`readNumber_eq_ok_iff`), identifiers are read where they stand behind their mark and nothing that
belongs to an identifier follows (`readMarked_eq_ok_iff`). So reading gives back what has been
written, and what is read has been written.
-/

namespace ImageGate

open Text

/-- Letters, digits and dashes, at least one. In a pre-release, a number has no leading zero. -/
structure Identifier.IsValidIn (place : Version.Place) (i : Identifier) : Prop where
  ne_nil : i ≠ []
  chars : ∀ c ∈ i, c.isAlphanum = true ∨ c = '-'
  no_leading_zero : place = .pre → (∀ c ∈ i, c.isDigit = true) → i.head? = some '0' → i = ['0']

instance (place : Version.Place) (i : Identifier) : Decidable (i.IsValidIn place) :=
  decidable_of_iff (i ≠ [] ∧ i.all (fun c => c.isAlphanum || c == '-') = true ∧
    (place = .pre → i.all Char.isDigit = true → i.head? = some '0' → i = ['0']))
    ⟨fun ⟨hne, hchars, hzero⟩ => ⟨hne, by simpa using hchars, by simpa using hzero⟩,
      fun ⟨hne, hchars, hzero⟩ => ⟨hne, by simpa using hchars, by simpa using hzero⟩⟩

namespace Version

/-- Numbers of 64 bits, and identifiers that may stand where they do. -/
structure IsValid (v : Version) : Prop where
  major_le : v.major ≤ wordMax
  minor_le : v.minor ≤ wordMax
  patch_le : v.patch ≤ wordMax
  pre : ∀ i ∈ v.pre, i.IsValidIn .pre
  build : ∀ i ∈ v.build, i.IsValidIn .build

instance (v : Version) : Decidable v.IsValid :=
  decidable_of_iff ((v.major ≤ wordMax ∧ v.minor ≤ wordMax ∧ v.patch ≤ wordMax) ∧
    (∀ i ∈ v.pre, i.IsValidIn .pre) ∧ ∀ i ∈ v.build, i.IsValidIn .build)
    ⟨fun ⟨⟨hmajor, hminor, hpatch⟩, hpre, hbuild⟩ => ⟨hmajor, hminor, hpatch, hpre, hbuild⟩,
      fun ⟨hmajor, hminor, hpatch, hpre, hbuild⟩ => ⟨⟨hmajor, hminor, hpatch⟩, hpre, hbuild⟩⟩

/-! ## Numbers -/

section Numbers

variable {n : Nat} {cs rest : List Char} {place : Place}

/-- Only the number zero is written with a leading zero. -/
theorem head?_toDigits_ne (h : 0 < n) : (Nat.toDigits 10 n).head? ≠ some '0' := by
  induction n using Nat.strongRecOn with
  | ind n ih =>
    rw [Nat.toDigits_eq_if (by decide)]
    by_cases hlt : n < 10
    · have hdigit : ∀ d < 10, 0 < d → [d.digitChar].head? ≠ some '0' := by decide
      rw [if_pos hlt]
      exact hdigit n hlt h
    · rw [if_neg hlt, List.head?_append_of_ne_nil _ Nat.toDigits_ne_nil]
      exact ih (n / 10) (by omega) (by omega)

theorem readNumber_toDigits (hn : n ≤ wordMax) (hrest : StartsNoDigit rest) :
    readNumber place (Nat.toDigits 10 n ++ rest) = .ok (n, rest) := by
  have htake : (Nat.toDigits 10 n ++ rest).takeWhile Char.isDigit = Nat.toDigits 10 n :=
    takeWhile_append_of_head? (fun c => isDigit_of_mem_toDigits) hrest
  have hdrop : (Nat.toDigits 10 n ++ rest).dropWhile Char.isDigit = rest :=
    dropWhile_append_of_head? (fun c => isDigit_of_mem_toDigits) hrest
  unfold readNumber
  rw [htake, hdrop]
  dsimp only
  split
  case h_1 hnil => exact absurd hnil Nat.toDigits_ne_nil
  case h_2 hnil => exact absurd hnil Nat.toDigits_ne_nil
  case h_3 hzero =>
    cases n with
    | zero => cases hzero
    | succ n => exact absurd (congrArg List.head? hzero) (head?_toDigits_ne (Nat.succ_pos n))
  case h_4 => rw [decimalValue_toDigits, if_neg (Nat.not_lt.2 hn)]

/-- **A number is read where its digits stand**, all of them. -/
theorem readNumber_eq_ok_iff : readNumber place cs = .ok (n, rest) ↔
    n ≤ wordMax ∧ cs = Nat.toDigits 10 n ++ rest ∧ StartsNoDigit rest := by
  constructor
  · intro h
    have hsplit : cs.takeWhile Char.isDigit ++ cs.dropWhile Char.isDigit = cs :=
      List.takeWhile_append_dropWhile
    have hdigit : ∀ c ∈ cs.takeWhile Char.isDigit, c.isDigit = true :=
      fun c hc => List.mem_takeWhile_imp hc
    have hrest : StartsNoDigit (cs.dropWhile Char.isDigit) := fun c => of_mem_head?_dropWhile
    unfold readNumber at h
    dsimp only at h
    split at h
    case h_1 => cases h
    case h_2 => cases h
    case h_3 => cases h
    case h_4 hzero hnil hnil' =>
      split at h
      · cases h
      · rename_i hle
        cases h
        refine ⟨Nat.not_lt.1 hle, ?_, hrest⟩
        rw [toDigits_decimalValue ?_ hdigit ?_, hsplit]
        · intro hempty
          cases hbehind : cs.dropWhile Char.isDigit with
          | nil => exact hnil hempty hbehind
          | cons c more => exact hnil' c more hempty hbehind
        · intro hhead
          match hdigits : cs.takeWhile Char.isDigit with
          | [] => simp [hdigits] at hhead
          | [c] =>
            rw [hdigits] at hhead
            simpa using hhead
          | c :: d :: more =>
            rw [hdigits] at hhead
            obtain rfl : c = '0' := by simpa using hhead
            exact absurd hdigits (hzero d more)
  · rintro ⟨hn, rfl, hrest⟩
    exact readNumber_toDigits hn hrest

end Numbers

/-! ## Identifiers -/

/-- The identifiers end here: no dot and nothing that belongs to an identifier follows. -/
def EndsIdentifiers (rest : List Char) : Prop :=
  ∀ c ∈ rest.head?, c.isAlphanum = false ∧ c ≠ '-' ∧ c ≠ '.'

/-- Identifiers behind their mark; nothing is written of none. -/
def marked (mark : Char) (ids : List Identifier) : List Char :=
  if ids = [] then [] else mark :: renderIdentifiers ids

section Identifiers

variable {mark : Char} {cs rest : List Char} {place : Place} {i : Identifier}
  {ids : List Identifier}

theorem renderIdentifiers_eq_joinWith (ids : List Identifier) :
    renderIdentifiers ids = joinWith ['.'] ids := by
  induction ids with
  | nil => rfl
  | cons i ids ih =>
    cases ids with
    | nil => rfl
    | cons j ids => simp [renderIdentifiers, joinWith, ih]

theorem isIdentifierChar_iff {c : Char} :
    isIdentifierChar c = true ↔ c.isAlphanum = true ∨ c = '-' := by
  simp [isIdentifierChar]

theorem checkIdentifier_eq_ok_iff : checkIdentifier place i = .ok () ↔
    i ≠ [] ∧ (place = .pre → (∀ c ∈ i, c.isDigit = true) → i.head? = some '0' → i = ['0']) := by
  unfold checkIdentifier
  split
  case h_1 => simp
  case h_2 c cs =>
    by_cases hpre : place = .pre <;> by_cases hdigit : Identifier.isNumeric ('0' :: c :: cs) = true
    all_goals simp_all [Identifier.isNumeric]
  case h_3 hnil hzero =>
    refine iff_of_true rfl ⟨hnil, fun _ _ hhead => ?_⟩
    match i with
    | [] => exact absurd rfl hnil
    | [c] => simpa using hhead
    | c :: d :: more =>
      obtain rfl : c = '0' := by simpa using hhead
      exact absurd rfl (hzero d more)

theorem chars_renderIdentifiers (h : ∀ i ∈ ids, ∀ c ∈ i, c.isAlphanum = true ∨ c = '-') :
    ∀ c ∈ renderIdentifiers ids, c.isAlphanum = true ∨ c = '-' ∨ c = '.' := by
  induction ids with
  | nil => nofun
  | cons i ids ih =>
    obtain ⟨hi, hids⟩ := List.forall_mem_cons.1 h
    cases ids with
    | nil => exact fun c hc => (hi c hc).imp_right .inl
    | cons j ids =>
      intro c hc
      simp only [renderIdentifiers, List.mem_append, List.mem_cons] at hc
      rcases hc with hc | rfl | hc
      · exact (hi c hc).imp_right .inl
      · exact .inr (.inr rfl)
      · exact ih hids c hc

theorem chars_marked (h : ∀ i ∈ ids, i.IsValidIn place) :
    ∀ c ∈ marked mark ids, c.isAlphanum = true ∨ c = '-' ∨ c = '.' ∨ c = mark := by
  intro c hc
  unfold marked at hc
  split at hc
  · cases hc
  · rcases List.mem_cons.1 hc with rfl | hc
    · simp
    · rcases chars_renderIdentifiers (fun i hi => (h i hi).chars) c hc with h | h | h <;> simp [h]

theorem readIdentifiers_eq_ok_iff : readIdentifiers place cs = .ok (ids, rest) ↔
    ids ≠ [] ∧ (∀ i ∈ ids, i.IsValidIn place) ∧ cs = renderIdentifiers ids ++ rest ∧
      EndsIdentifiers rest := by
  have hchar (c : Char) : (isIdentifierChar c || c == '.') = true ↔
      c.isAlphanum = true ∨ c = '-' ∨ c = '.' := by
    rw [Bool.or_eq_true, isIdentifierChar_iff, beq_iff_eq, or_assoc]
  unfold readIdentifiers
  dsimp only
  constructor
  · intro h
    split at h
    case h_1 => cases h
    case h_2 hcheck =>
      cases h
      have hcheck := forM_eq_ok_iff.1 hcheck
      refine ⟨pieces_ne_nil _ _, fun i hi => ?_, ?_, fun c hc => ?_⟩
      · obtain ⟨hne, hzero⟩ := checkIdentifier_eq_ok_iff.1 (hcheck i hi)
        refine ⟨hne, fun c hc => ?_, hzero⟩
        obtain ⟨hdot, a, b, hbody, -⟩ := mem_pieces_iff.1 hi
        have hmem : c ∈ cs.takeWhile fun c => isIdentifierChar c || c == '.' := by
          rw [hbody]
          simp [hc]
        have hpasses : (isIdentifierChar c || c == '.') = true :=
          List.all_eq_true.1 List.all_takeWhile c hmem
        have hcases := (hchar c).1 hpasses
        have hne : c ≠ '.' := by simpa using hdot c hc
        simpa [hne] using hcases
      · rw [renderIdentifiers_eq_joinWith, joinWith_pieces, List.takeWhile_append_dropWhile]
      · have hnot := mt (hchar c).2 (Bool.eq_false_iff.1 (of_mem_head?_dropWhile hc))
        simpa [not_or] using hnot
  · rintro ⟨hne, hvalid, rfl, hends⟩
    have hbody : ∀ c ∈ renderIdentifiers ids, (isIdentifierChar c || c == '.') = true :=
      fun c hc => (hchar c).2 (chars_renderIdentifiers (fun i hi => (hvalid i hi).chars) c hc)
    have hhead : ∀ c ∈ rest.head?, (isIdentifierChar c || c == '.') = false := by
      intro c hc
      obtain ⟨halphanum, hdash, hdot⟩ := hends c hc
      simp [isIdentifierChar, halphanum, hdash, hdot]
    have hdots : ∀ i ∈ ids, ∀ c ∈ i, c ≠ '.' := by
      rintro i hi c hc rfl
      exact absurd ((hvalid i hi).chars _ hc) (by decide)
    have hcheck : ids.forM (checkIdentifier place) = .ok () :=
      forM_eq_ok_iff.2 fun i hi =>
        checkIdentifier_eq_ok_iff.2 ⟨(hvalid i hi).ne_nil, (hvalid i hi).no_leading_zero⟩
    rw [takeWhile_append_of_head? hbody hhead, dropWhile_append_of_head? hbody hhead,
      renderIdentifiers_eq_joinWith, pieces_joinWith hne hdots, hcheck]

/-- **Identifiers are read where they stand behind their mark**, all of them. -/
theorem readMarked_eq_ok_iff : readMarked mark place cs = .ok (ids, rest) ↔
    (∀ i ∈ ids, i.IsValidIn place) ∧ cs = marked mark ids ++ rest ∧
      if ids = [] then rest.head? ≠ some mark else EndsIdentifiers rest := by
  by_cases hids : ids = []
  · subst hids
    simp only [marked, if_true, List.nil_append]
    constructor
    · intro h
      refine ⟨nofun, ?_⟩
      cases cs with
      | nil =>
        cases h
        exact ⟨rfl, nofun⟩
      | cons c cs =>
        rw [readMarked] at h
        split at h
        case isTrue => exact absurd rfl (readIdentifiers_eq_ok_iff.1 h).1
        case isFalse hc =>
          cases h
          exact ⟨rfl, by simpa using hc⟩
    · rintro ⟨-, rfl, hhead⟩
      cases cs with
      | nil => rfl
      | cons c cs => rw [readMarked, if_neg (by simpa using hhead)]
  · rw [marked, if_neg hids, if_neg hids]
    cases cs with
    | nil => simp [readMarked, Ne.symm hids]
    | cons c cs =>
      by_cases hc : c = mark
      · simp [readMarked, hc, readIdentifiers_eq_ok_iff, hids]
      · simp [readMarked, hc, Ne.symm hids]

end Identifiers

/-! ## Written versions -/

def text (v : Version) : List Char :=
  Nat.toDigits 10 v.major ++ '.' :: (Nat.toDigits 10 v.minor ++ '.' ::
    (Nat.toDigits 10 v.patch ++ (marked '-' v.pre ++ marked '+' v.build)))

theorem toList_render (v : Version) : v.render.toList = v.text := by
  cases hpre : v.pre <;> cases hbuild : v.build <;> simp [render, text, marked, hpre, hbuild]

end Version

end ImageGate
