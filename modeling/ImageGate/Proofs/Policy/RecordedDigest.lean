import ImageGate.Proofs.Policy.Rolling

/-!
# A recorded digest that is served

When a registry serves a digest that reports have recorded, the tag has not moved. The check finds
that out by comparing texts, and it does not bring both sides into the same form: an answer loses
the blanks at its ends and gets a kind if it has none, a recorded digest is left as it is. So a
recorded digest is known again if it gives its kind and has no blanks at its ends
(`Digest.IsPlain`), whatever name is in front of it and whatever else has been recorded. Any other
one is taken for a new digest, unless the form that the answer is brought into has been recorded as
well (`Rolling.check_of_recorded`).
-/

namespace ImageGate

open Text

namespace Digest

/-- A digest that gives its kind and has no blanks at its ends. Blanks in front of a name are
dropped with the name. -/
def IsPlain (digest : String) : Prop :=
  ∃ bare, IsBehindLast '@' digest.toList bare ∧ ':' ∈ bare ∧
    (∀ c ∈ bare.getLast?, isBlank c = false) ∧
    (digest.toList = bare → ∀ c ∈ bare.head?, isBlank c = false)

variable {digest : String} {cs name bare : List Char}

/-! ## What trimming leaves behind the name -/

theorem isBlank_at : isBlank '@' = false := by decide

theorem isBlank_colon : isBlank ':' = false := by decide

theorem mem_trimBoth_iff {p : Char → Bool} {c : Char} (hc : p c = false) :
    c ∈ trimBoth p cs ↔ c ∈ cs := by
  obtain ⟨-, -, front, back, hcs, hfront, hback⟩ := isTrimmed_trimBoth p cs
  have hends : c ∉ front ∧ c ∉ back :=
    ⟨fun h => by simp [hfront c h] at hc, fun h => by simp [hback c h] at hc⟩
  conv_rhs => rw [hcs]
  simp [hends]

theorem mem_rdropWhile_iff {p : Char → Bool} {c : Char} (hc : p c = false) :
    c ∈ cs.rdropWhile p ↔ c ∈ cs := by
  have hback : c ∉ cs.rtakeWhile p := fun h => by simp [List.mem_rtakeWhile_imp h] at hc
  conv_rhs => rw [← List.rdropWhile_append_rtakeWhile (p := p) (l := cs), List.mem_append]
  exact (or_iff_left hback).symm

/-- A text is left as it is if there is nothing to trim at either end. -/
theorem trimBoth_eq_self_iff {p : Char → Bool} : trimBoth p cs = cs ↔
    (∀ c ∈ cs.head?, p c = false) ∧ ∀ c ∈ cs.getLast?, p c = false := by
  rw [eq_comm, ← isTrimmed_iff]
  constructor
  · intro h
    exact ⟨h.1, h.2.1⟩
  · intro h
    exact ⟨h.1, h.2, [], [], by simp, List.forall_mem_nil _, List.forall_mem_nil _⟩

theorem rdropWhile_eq_self_iff {p : Char → Bool} :
    cs.rdropWhile p = cs ↔ ∀ c ∈ cs.getLast?, p c = false := by
  rw [List.rdropWhile_eq_self_iff]
  cases cs using List.reverseRecOn <;> simp

/-- Blanks are dropped in front of the name and behind the digest. -/
theorem trimBoth_append_at (name bare : List Char) : trimBoth isBlank (name ++ '@' :: bare) =
    name.dropWhile isBlank ++ '@' :: bare.rdropWhile isBlank := by
  refine (isTrimmed_iff.1 ⟨fun c hc => ?_, fun c hc => ?_, name.takeWhile isBlank,
    bare.rtakeWhile isBlank, ?_, fun c => List.mem_takeWhile_imp,
    fun c => List.mem_rtakeWhile_imp⟩).symm
  · cases hname : name.dropWhile isBlank with
    | nil =>
      obtain rfl : '@' = c := by simpa [hname] using hc
      exact isBlank_at
    | cons d ds =>
      obtain rfl : d = c := by simpa [hname] using hc
      have hmem : d ∈ (name.dropWhile isBlank).head? := by rw [hname, List.head?_cons]; rfl
      exact of_mem_head?_dropWhile hmem
  · rw [List.getLast?_append_cons] at hc
    cases hbare : bare.rdropWhile isBlank with
    | nil =>
      obtain rfl : '@' = c := by simpa [hbare] using hc
      exact isBlank_at
    | cons d ds =>
      have hne : bare.rdropWhile isBlank ≠ [] := by simp [hbare]
      have hlast := List.rdropWhile_last_not isBlank bare hne
      rw [List.getLast?_cons_of_ne_nil hne, List.getLast?_eq_getLast_of_ne_nil hne] at hc
      obtain rfl := Option.some_inj.1 hc
      simpa using hlast
  · simp only [List.append_assoc, List.cons_append, List.rdropWhile_append_rtakeWhile]
    rw [← List.append_assoc, List.takeWhile_append_dropWhile]

theorem bare_append_at (h : '@' ∉ bare) : Digest.bare (name ++ '@' :: bare) = bare :=
  (isBehindLast_iff.1 ⟨h, .inr ⟨name, rfl⟩⟩).symm

theorem bare_of_not_mem (h : '@' ∉ cs) : Digest.bare cs = cs :=
  (isBehindLast_iff.1 ⟨h, .inl rfl⟩).symm

/-- A text is left as it is only if it gives a kind. -/
theorem withKind_eq_iff {trimmed : List Char} (hcolon : ':' ∈ trimmed ↔ ':' ∈ bare) :
    (if trimmed.contains ':' then trimmed else defaultKind ++ trimmed) = bare ↔
      ':' ∈ bare ∧ trimmed = bare := by
  by_cases hmem : ':' ∈ bare
  · simp [hcolon, hmem]
  · have hkind : ':' ∈ defaultKind := by decide
    simp only [List.contains_iff_mem, hcolon, hmem, if_false, false_and, iff_false]
    rintro rfl
    exact hmem (List.mem_append_left _ hkind)

/-- **A recorded digest has the form of an answer** exactly if it is plain. -/
theorem isNormal_bare_iff (hbare : IsBehindLast '@' digest.toList bare) :
    IsNormal digest bare ↔ IsPlain digest := by
  have hplain : IsPlain digest ↔ ':' ∈ bare ∧ (∀ c ∈ bare.getLast?, isBlank c = false) ∧
      (digest.toList = bare → ∀ c ∈ bare.head?, isBlank c = false) := by
    refine ⟨?_, fun h => ⟨bare, hbare, h⟩⟩
    rintro ⟨b, hb, h⟩
    rwa [(isBehindLast_iff.1 hbare).trans (isBehindLast_iff.1 hb).symm]
  rw [isNormal_iff, hplain, eq_comm (a := bare), live]
  obtain ⟨hat, hself | ⟨name, hname⟩⟩ := hbare
  · have hnot : '@' ∉ trimBoth isBlank bare := (mem_trimBoth_iff isBlank_at).not.2 hat
    rw [hself, bare_of_not_mem hnot, withKind_eq_iff (mem_trimBoth_iff isBlank_colon),
      trimBoth_eq_self_iff]
    simp only [forall_const]
    rw [and_comm (a := ∀ c ∈ bare.head?, _)]
  · have hnot : '@' ∉ bare.rdropWhile isBlank := (mem_rdropWhile_iff isBlank_at).not.2 hat
    have hne : digest.toList ≠ bare := by
      intro h
      rw [← h, hname] at hat
      simp at hat
    rw [hname, trimBoth_append_at, bare_append_at hnot,
      withKind_eq_iff (mem_rdropWhile_iff isBlank_colon), rdropWhile_eq_self_iff, ← hname]
    simp [hne]

theorem live_ne_nil (answer : String) : live answer ≠ [] := by
  unfold live
  extract_lets bare
  split
  case isTrue hcolon => exact List.ne_nil_of_mem (List.contains_iff_mem.1 hcolon)
  case isFalse => exact List.append_ne_nil_of_left_ne_nil (by decide) _

end Digest

/-! ## Main statement -/

namespace Rolling

variable {a : Archive} {after : Instant} {name tag digest : String}

/-- Of a tag that names one image, the answer of the registry alone tells whether it has moved. -/
theorem check_of_answered (ha : a.Answers (key name tag) after)
    (hone : (a.history.idsAfter (key name tag) after).length = 1)
    {ask : Inspector} (hask : ask (key name tag) = .answered digest) :
    (check a (some ask) after name tag).1 = false ↔
      ∃ other ∈ a.history.digestsAfter (key name tag) after, ∃ normal,
        Digest.IsNormal digest normal ∧ IsBehindLast '@' other.toList normal := by
  rw [← Bool.not_eq_true, check_iff_of_answers ha, hone]
  have hmem : Digest.live digest ∈ Digest.recorded (a.history.digestsAfter (key name tag) after) ↔
      ∃ other ∈ a.history.digestsAfter (key name tag) after, ∃ normal,
        Digest.IsNormal digest normal ∧ IsBehindLast '@' other.toList normal := by
    simp only [Digest.mem_recorded, Digest.isNormal_iff, exists_eq_left, ne_eq,
      Digest.live_ne_nil, not_false_eq_true, true_and]
  rw [← hmem]
  simp [hask]

/-- **A recorded digest that is served** counts as known if it is plain, whatever else has been
recorded. If it is not, it counts as new, unless another recorded digest is the form that the answer
is brought into. -/
theorem check_of_recorded (ha : a.Answers (key name tag) after)
    (hone : (a.history.idsAfter (key name tag) after).length = 1)
    (hrecorded : digest ∈ a.history.digestsAfter (key name tag) after) {ask : Inspector}
    (hask : ask (key name tag) = .answered digest) :
    (Digest.IsPlain digest → (check a (some ask) after name tag).1 = false) ∧
      (¬ Digest.IsPlain digest → ((check a (some ask) after name tag).1 = false ↔
        ∃ other ∈ a.history.digestsAfter (key name tag) after, other ≠ digest ∧ ∃ normal,
          Digest.IsNormal digest normal ∧ IsBehindLast '@' other.toList normal)) := by
  rw [check_of_answered ha hone hask]
  constructor
  · rintro ⟨bare, hbare, hplain⟩
    exact ⟨digest, hrecorded, bare, (Digest.isNormal_bare_iff hbare).2 ⟨bare, hbare, hplain⟩, hbare⟩
  · intro hnot
    refine exists_congr fun other => and_congr_right fun _ => (and_iff_right_of_imp ?_).symm
    rintro ⟨normal, hnormal, hbehind⟩ rfl
    exact hnot ((Digest.isNormal_bare_iff hbehind).1 hnormal)

/-- A digest of another kind is known again behind a name with a port and beside a digest that is
not plain. -/
theorem check_of_recorded_of_named :
    let served := "host:5000/app@sha512:d"
    let i : Image := { id := "a", repoTags := ["app:1"], repoDigests := ["e", served] }
    let h := (({} : History).store History.admitAll ⟨100, 0⟩ { images := [i] }).2
    let ask : Inspector := fun _ => .answered served
    (check h (some ask) ⟨50, 0⟩ "app" "1").1 = false := by
  intro served i h ask
  have behind : IsBehindLast '@' served.toList "sha512:d".toList := isBehindLast_iff.2 (by decide)
  have plain : Digest.IsPlain served := by
    refine ⟨_, behind, by decide, fun c hc => ?_, fun h => absurd h (by decide)⟩
    obtain rfl : 'd' = c := Option.some_inj.1 hc
    decide
  have one : (h.idsAfter (key "app" "1") ⟨50, 0⟩).length = 1 := by decide
  have answers : ask (key "app" "1") = .answered served := rfl
  exact (check_of_recorded (Archive.answers_coe ..) one (by decide) answers).1 plain

/-- A digest that does not give its kind has been recorded, and the registry answers with the same
text: the tag counts as rolling. -/
theorem exists_check_of_recorded_eq_true : ∃ (h : History) (ask : Inspector) (digest : String),
    (h.idsAfter (key "app" "1") ⟨50, 0⟩).length = 1 ∧
      h.digestsAfter (key "app" "1") ⟨50, 0⟩ = [digest] ∧
      Digest.bare digest.toList ≠ [] ∧ ask (key "app" "1") = .answered digest ∧
      (check h (some ask) ⟨50, 0⟩ "app" "1").1 = true := by
  let i : Image := { id := "a", repoTags := ["app:1"], repoDigests := ["0123456789abcdef"] }
  let h := (({} : History).store History.admitAll ⟨100, 0⟩ { images := [i] }).2
  let ask : Inspector := fun _ => .answered "0123456789abcdef"
  exact ⟨h, ask, _, by decide, by decide, by decide, rfl, by decide⟩

end Rolling

end ImageGate
