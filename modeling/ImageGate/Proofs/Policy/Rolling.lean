import ImageGate.Policy.Decision
import ImageGate.Proofs.History.Evidence
import ImageGate.Proofs.Text.Cut
import ImageGate.Reference.Parser
import Mathlib.Data.Set.Card

/-!
# When a tag is rolling

What a rule about rolling tags finds out is told by the reports alone (`fits_rolling_iff`): how many
images reports have listed under the tag since the rule looks, and, if it is one, whether a report
has listed the digest that the registry answers with.

The history answers with lists, in which nothing is repeated, so that their lengths count images;
that the lists are complete is `Run.mem_idsAfter` and `Run.mem_digestsAfter`.
-/

namespace ImageGate

open Text

namespace Deed

/-- The images that reports stored after an instant have listed under a tag. -/
def namedIds (past : List Deed) (tag : String) (after : Instant) : Set String :=
  {id | ∃ i, Lists past tag after i ∧ i.id = id}

/-- The digests that these images have been listed with. -/
def namedDigests (past : List Deed) (tag : String) (after : Instant) : Set String :=
  {digest | ∃ i, Lists past tag after i ∧ digest ∈ i.repoDigests}

end Deed

/-! ## Digests -/

namespace Digest

/-- An answer without blanks at its ends and without the name in front, of the kind `sha256` unless
it gives its kind. -/
def IsNormal (answer : String) (digest : List Char) : Prop :=
  ∃ trimmed bare, IsTrimmed isBlank answer.toList trimmed ∧ IsBehindLast '@' trimmed bare ∧
    ((':' ∈ bare ∧ digest = bare) ∨ (':' ∉ bare ∧ digest = "sha256:".toList ++ bare))

/-- The digests without the names in front, as far as anything is left of them. -/
def bares (digests : Set String) : Set (List Char) :=
  {bare | bare ≠ [] ∧ ∃ digest ∈ digests, IsBehindLast '@' digest.toList bare}

theorem isNormal_iff {answer : String} {digest : List Char} :
    IsNormal answer digest ↔ digest = live answer := by
  simp only [IsNormal, isTrimmed_iff, isBehindLast_iff, live, List.contains_iff_mem]
  constructor
  · rintro ⟨_, _, rfl, rfl, ⟨hcolon, rfl⟩ | ⟨hcolon, rfl⟩⟩
    · exact (if_pos hcolon).symm
    · exact (if_neg hcolon).symm
  · rintro rfl
    refine ⟨_, _, rfl, rfl, ?_⟩
    by_cases hcolon : ':' ∈ bare (trimBoth isBlank answer.toList)
    · exact .inl ⟨hcolon, if_pos hcolon⟩
    · exact .inr ⟨hcolon, if_neg hcolon⟩

theorem mem_recorded {digests : List String} {b : List Char} : b ∈ recorded digests ↔
    b ≠ [] ∧ ∃ digest ∈ digests, IsBehindLast '@' digest.toList b := by
  simp only [recorded, List.mem_filter, List.mem_map, isBehindLast_iff]
  constructor
  · rintro ⟨⟨digest, hdigest, rfl⟩, hne⟩
    exact ⟨by simpa using hne, digest, hdigest, rfl⟩
  · rintro ⟨hne, digest, hdigest, rfl⟩
    exact ⟨⟨digest, hdigest, rfl⟩, by simpa [bare] using hne⟩

end Digest

/-! ## The check -/

namespace Rolling

variable {a : Archive} {inspector : Option Inspector} {after : Instant} {name tag : String}

theorem check_iff : (check a inspector after name tag).1 = true ↔
    (a.answers (.ids (key name tag) after) = true ∧
      2 ≤ (a.history.idsAfter (key name tag) after).length) ∨
    (a.Answers (key name tag) after ∧ (a.history.idsAfter (key name tag) after).length = 1 ∧
      ∃ ask answer, inspector = some ask ∧ ask (key name tag) = .answered answer ∧
        Digest.live answer ∉ Digest.recorded (a.history.digestsAfter (key name tag) after)) := by
  by_cases htwo : a.answers (.ids (key name tag) after) = true ∧
      2 ≤ (a.history.idsAfter (key name tag) after).length
  · rw [check_of_two_le htwo.1 htwo.2]
    simp [htwo]
  by_cases hone : inspector.isSome = true ∧ a.Answers (key name tag) after ∧
      (a.history.idsAfter (key name tag) after).length = 1
  · obtain ⟨hinspector, hanswers, hone⟩ := hone
    obtain ⟨ask, rfl⟩ := Option.isSome_iff_exists.1 hinspector
    rw [check_of_one hanswers hone ask]
    cases hask : ask (key name tag) <;> simp [hanswers, hone, hask]
  · rw [check_of_neither htwo hone]
    refine iff_of_false Bool.false_ne_true ?_
    rintro (h | ⟨hanswers, hlength, ask, _, hinspector, -⟩)
    · exact htwo h
    · exact hone ⟨by rw [hinspector]; rfl, hanswers, hlength⟩

theorem check_iff_of_answers (ha : a.Answers (key name tag) after) :
    (check a inspector after name tag).1 = true ↔
      2 ≤ (a.history.idsAfter (key name tag) after).length ∨
        ((a.history.idsAfter (key name tag) after).length = 1 ∧ ∃ ask answer,
          inspector = some ask ∧ ask (key name tag) = .answered answer ∧
          Digest.live answer ∉ Digest.recorded (a.history.digestsAfter (key name tag) after)) := by
  rw [check_iff]
  simp only [ha, ha.ids, true_and]

end Rolling

namespace History

variable {retention : Span} {past : List Deed} {h : History}

/-- The list of images under a tag counts the images that have been listed. -/
theorem Run.encard_namedIds (run : Run retention past h) (htimely : Deed.Timely past)
    {after : Instant} (hspares : ∀ d ∈ past, d.Spares retention after) (tag : String) :
    (Deed.namedIds past tag after).encard = (h.idsAfter tag after).length := by
  have heq : Deed.namedIds past tag after = ((h.idsAfter tag after).toFinset : Set String) := by
    ext id
    rw [List.coe_toFinset, Set.mem_ofPred_eq, run.mem_idsAfter htimely hspares]
    exact Iff.rfl
  have hnodup : (h.idsAfter tag after).Nodup := nodup_distinctTexts _
  rw [heq, Set.encard_coe_eq_coe_finsetCard, List.toFinset_card_of_nodup hnodup]

/-- The recorded digests are those that images have been listed with. -/
theorem Run.mem_recorded_digestsAfter (run : Run retention past h) (htimely : Deed.Timely past)
    {after : Instant} (hspares : ∀ d ∈ past, d.Spares retention after) {tag : String}
    {bare : List Char} : bare ∈ Digest.recorded (h.digestsAfter tag after) ↔
      bare ∈ Digest.bares (Deed.namedDigests past tag after) := by
  rw [Digest.mem_recorded]
  show _ ↔ bare ≠ [] ∧ ∃ digest ∈ Deed.namedDigests past tag after, _
  refine and_congr_right fun hne => ?_
  constructor
  · rintro ⟨digest, hdigest, hbehind⟩
    obtain ⟨i, hlists, hhas⟩ := (run.mem_digestsAfter htimely hspares).1 hdigest
    rcases hhas with hmem | ⟨-, rfl⟩
    · exact ⟨digest, ⟨i, hlists, hmem⟩, hbehind⟩
    · -- Nothing is left of the digest that stands for none.
      exact absurd (isBehindLast_iff.1 hbehind) hne
  · rintro ⟨digest, ⟨i, hlists, hmem⟩, hbehind⟩
    exact ⟨digest, (run.mem_digestsAfter htimely hspares).2 ⟨i, hlists, .inl hmem⟩, hbehind⟩

end History

/-! ## Main statement -/

theorem Validation.tag_eq_rolling {rule : String} {r : ValidationRule} {v : Validation}
    (hv : Validation.ofRule rule r = .ok v) (hkind : r.kind = .rollingTag) :
    v.tag = .rolling (r.after.getD .epoch) := by
  unfold ofRule TagTest.ofRule at hv
  rw [hkind] at hv
  dsimp only at hv
  split at hv
  · cases hv
    rfl
  · cases hread : Rule.readPattern rule r.imageName with
    | error failure =>
      rw [hread] at hv
      cases hv
    | ok pattern =>
      rw [hread] at hv
      cases hv
      rfl

/-- **A rule about rolling tags fits by what reports have listed.** It fits an image whose name it
covers exactly if, since the instant from which it looks, reports have listed two images under the
tag, or one, and the registry answers with a digest that no report has listed with it. The history
is taken to answer what it is asked. Sweeps in between make no difference as long as they do not
reach behind that instant; where there are none, nothing is asked of it
(`Deed.spares_of_not_swept`). -/
theorem History.Run.fits_rolling_iff {retention : Span} {past : List Deed} {h : History}
    (run : Run retention past h) (htimely : Deed.Timely past) {rule : String} {r : ValidationRule}
    {v : Validation} (hkind : r.kind = .rollingTag) (hv : Validation.ofRule rule r = .ok v)
    (hspares : ∀ d ∈ past, d.Spares retention (r.after.getD .epoch)) {image : String}
    {ref : Reference} (himage : Reference.parse image = .ok ref)
    (hname : v.coversName ref.name = true) {archive : Archive} (hhistory : archive.history = h)
    (hanswers : archive.Answers (ref.name ++ ":" ++ ref.ruleTag) (r.after.getD .epoch))
    (inspector : Option Inspector) :
    let after := r.after.getD .epoch
    let key := ref.name ++ ":" ++ ref.ruleTag
    let named := Reference.nameAndTag image
    (v.fits { history := some archive, inspector } named.1 named.2).1 = true ↔
      2 ≤ (Deed.namedIds past key after).encard ∨
        ((Deed.namedIds past key after).encard = 1 ∧ ∃ ask answer digest,
          inspector = some ask ∧ ask key = .answered answer ∧ Digest.IsNormal answer digest ∧
          digest ∉ Digest.bares (Deed.namedDigests past key after)) := by
  intro after key named
  subst hhistory
  have hnamed : named = (ref.name, ref.ruleTag) := by
    simp only [named, Reference.nameAndTag, himage]
  have hfits : v.fits { history := some archive, inspector } named.1 named.2 =
      Rolling.check archive inspector after ref.name ref.ruleTag := by
    rw [hnamed, Validation.fits, if_pos hname, Validation.tag_eq_rolling hv hkind]
    rfl
  rw [hfits, Rolling.check_iff_of_answers hanswers, run.encard_namedIds htimely hspares]
  refine or_congr Nat.ofNat_le_cast.symm (and_congr Nat.cast_eq_one.symm ?_)
  refine exists_congr fun ask => exists_congr fun answer => ?_
  constructor
  · rintro ⟨hsome, hask, hnot⟩
    refine ⟨_, hsome, hask, Digest.isNormal_iff.2 rfl, fun hmem => hnot ?_⟩
    exact (run.mem_recorded_digestsAfter htimely hspares).2 hmem
  · rintro ⟨digest, hsome, hask, hnormal, hnot⟩
    obtain rfl := Digest.isNormal_iff.1 hnormal
    exact ⟨hsome, hask, fun hmem =>
      hnot ((run.mem_recorded_digestsAfter htimely hspares).1 hmem)⟩

/-- One image is known, and the registry has moved on to a digest that no report has listed. -/
theorem History.Run.fits_rolling_iff_of_moved :
    ∃ past h v, Run 0 past h ∧
      Validation.ofRule "rule" { kind := .rollingTag, after := some ⟨50, 0⟩ } = .ok v ∧
      (v.fits { history := some (h : History), inspector := some fun _ => .answered " app@sha256:new\n" }
        "app" "1").1 = true := by
  let r : ValidationRule := { kind := .rollingTag, after := some ⟨50, 0⟩ }
  let v : Validation := { name := none, tag := .rolling ⟨50, 0⟩, allow := false }
  let i : Image := { id := "a", repoTags := ["app:1"], repoDigests := ["app@sha256:old"] }
  let past : List Deed := [.stored 1 ⟨100, 0⟩ { images := [i] }]
  let h : History := (({} : History).store admitAll ⟨100, 0⟩ { images := [i] }).2
  have run : Run 0 past h := Run.start.store admitAll ⟨100, 0⟩ _ rfl
  have timely : Deed.Timely past := ⟨by decide, by decide⟩
  have spares : ∀ d ∈ past, d.Spares 0 ⟨50, 0⟩ := Deed.spares_of_not_swept (by simp [past])
  have made : Validation.ofRule "rule" r = .ok v := rfl
  have read : Reference.parse "app:1" = .ok ⟨"", "app", some "1", none⟩ := by decide
  have one : (Deed.namedIds past "app:1" ⟨50, 0⟩).encard = 1 := by
    have length : (h.idsAfter "app:1" ⟨50, 0⟩).length = 1 := by decide
    rw [run.encard_namedIds timely spares, length, Nat.cast_one]
  have normal : Digest.IsNormal " app@sha256:new\n" "sha256:new".toList :=
    Digest.isNormal_iff.2 (by decide)
  have unknown : "sha256:new".toList ∉ Digest.bares (Deed.namedDigests past "app:1" ⟨50, 0⟩) :=
    fun hmem => absurd ((run.mem_recorded_digestsAfter timely spares).2 hmem) (by decide)
  refine ⟨past, h, v, run, made, ?_⟩
  exact (run.fits_rolling_iff timely rfl made spares read rfl rfl (Archive.answers_coe ..) _).2
    (.inr ⟨one, _, _, _, rfl, rfl, normal, unknown⟩)

end ImageGate
