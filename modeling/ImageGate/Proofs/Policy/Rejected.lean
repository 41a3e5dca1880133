import ImageGate.Proofs.Policy.FirstFit
import ImageGate.Proofs.Policy.Rolling
import ImageGate.Proofs.Reference.RoundTrip
import ImageGate.Proofs.Version.Reading

/-!
# Texts that are no references, and digests in place of tags

Rules are asked about every text. A text that is no reference goes under an empty name and an empty
tag, and so all of them get one answer, from a rule that is about the empty tag (`CatchesRejected`)
or from none. No reference goes under either, and where a reference has a digest and no tag, the
digest passes neither for `latest` nor for a version: `validate_rejected`.

That a digest is no version is read off the characters: there is a colon in every digest, and no
reader of versions gets past a colon.
-/

namespace ImageGate

open Text

/-! ## Colons in versions -/

namespace Version

variable {mark : Char} {place : Place} {n : Nat} {ids : List Identifier} {cs rest : List Char}

theorem colon_mem_of_readNumber (h : readNumber place cs = .ok (n, rest)) (hc : ':' ∈ cs) :
    ':' ∈ rest := by
  obtain ⟨-, rfl, -⟩ := readNumber_eq_ok_iff.1 h
  refine (List.mem_append.1 hc).resolve_left fun hdigits => ?_
  exact absurd (isDigit_of_mem_toDigits hdigits) (by decide)

theorem colon_mem_of_readDotNumber {o : Option Nat} (h : readDotNumber place cs = .ok (o, rest))
    (hc : ':' ∈ cs) : ':' ∈ rest := by
  unfold readDotNumber at h
  split at h
  · obtain ⟨⟨n, more⟩, hread, heq⟩ := map_eq_ok_iff.1 h
    cases heq
    exact colon_mem_of_readNumber hread (by simpa using hc)
  · cases h
    exact hc

theorem colon_mem_of_readMarked (h : readMarked mark place cs = .ok (ids, rest))
    (hmark : mark ≠ ':') (hc : ':' ∈ cs) : ':' ∈ rest := by
  obtain ⟨hvalid, rfl, -⟩ := readMarked_eq_ok_iff.1 h
  refine (List.mem_append.1 hc).resolve_left fun hmarked => ?_
  rcases chars_marked hvalid ':' hmarked with h | h | h | h
  · exact absurd h (by decide)
  · exact absurd h (by decide)
  · exact absurd h (by decide)
  · exact hmark h.symm

theorem colon_mem_of_readNumbers {major minor patch : Nat}
    (h : readNumbers cs = .ok (major, minor, patch, rest)) (hc : ':' ∈ cs) : ':' ∈ rest := by
  unfold readNumbers at h
  obtain ⟨⟨a, behindMajor⟩, hmajor, h⟩ := bind_eq_ok_iff.1 h
  obtain ⟨⟨b, behindMinor⟩, hminor, h⟩ := bind_eq_ok_iff.1 h
  have hc : ':' ∈ behindMajor := colon_mem_of_readNumber hmajor hc
  have hc : ':' ∈ behindMinor := colon_mem_of_readDotNumber hminor hc
  dsimp only at h
  split at h
  · cases h
    exact hc
  · obtain ⟨⟨c, behindPatch⟩, hpatch, h⟩ := bind_eq_ok_iff.1 h
    cases h
    exact colon_mem_of_readDotNumber hpatch hc

/-- **No text with a colon is a version.** -/
theorem ofTag_eq_none {tag : String} (hc : ':' ∈ tag.toList) : ofTag tag = none := by
  have hdrop : ':' ∈ dropV tag.toList := by
    unfold dropV
    split
    · simp_all
    · exact hc
  cases htag : ofTag tag with
  | none => rfl
  | some v =>
    simp only [ofTag, ofTagChars, Option.bind_eq_bind, Option.bind_eq_some_iff,
      toOption_eq_some_iff] at htag
    obtain ⟨⟨major, minor, patch, cs⟩, hnumbers, ⟨pre, behindPre⟩, hpre, ⟨build, rest⟩, hbuild,
      hend⟩ := htag
    have hc := colon_mem_of_readNumbers hnumbers hdrop
    have hc := colon_mem_of_readMarked hpre (by decide) hc
    have hc : ':' ∈ rest := colon_mem_of_readMarked hbuild (by decide) hc
    obtain ⟨c, more, rfl⟩ := List.exists_cons_of_ne_nil (List.ne_nil_of_mem hc)
    cases hend

end Version

/-! ## References -/

namespace Reference

variable {s : String} {r : Reference}

def IsRejected (s : String) : Prop :=
  ∃ fault, parse s = .error fault

theorem nameAndTag_of_rejected (h : IsRejected s) : nameAndTag s = ("", "") := by
  obtain ⟨fault, h⟩ := h
  rw [nameAndTag, h]

theorem nameAndTag_of_parse (h : parse s = .ok r) : nameAndTag s = (r.name, r.ruleTag) := by
  rw [nameAndTag, h]

theorem name_ne_empty (h : parse s = .ok r) : r.name ≠ "" := by
  obtain ⟨_, _, -, -, -, -, -, hpath, -⟩ := ofChars_eq_ok_iff.1 h
  intro hempty
  have hnil : r.name.toList = [] := by rw [hempty]; rfl
  by_cases hdomain : r.domain = ""
  · rw [toList_name_of_eq hdomain] at hnil
    exact hpath.ne_nil hnil
  · rw [toList_name_of_ne hdomain] at hnil
    simp at hnil

theorem IsDigest.colon_mem {cs : List Char} (h : IsDigest cs) : ':' ∈ cs := by
  cases h with
  | mk => simp

theorem ruleTag_ne_empty (h : parse s = .ok r) : r.ruleTag ≠ "" := by
  obtain ⟨_, _, -, -, -, -, -, -, htag, hdigest⟩ := ofChars_eq_ok_iff.1 h
  unfold ruleTag
  cases ht : r.tag with
  | some t =>
    rintro rfl
    have hlength : 1 ≤ "".toList.length := (htag "" (ht ▸ rfl)).nonempty
    exact absurd hlength (by decide)
  | none =>
    cases hd : r.digest with
    | some d =>
      rintro rfl
      have hcolon : ':' ∈ "".toList := (hdigest "" (hd ▸ rfl)).colon_mem
      exact absurd hcolon (by decide)
    | none => decide

/-- Without a tag, rules look at the digest, and there is a colon in it. -/
theorem colon_mem_ruleTag (h : parse s = .ok r) (htag : r.tag = none) (hdigest : r.digest ≠ none) :
    ':' ∈ r.ruleTag.toList := by
  obtain ⟨_, _, -, -, -, -, -, -, -, hall⟩ := ofChars_eq_ok_iff.1 h
  obtain ⟨d, hd⟩ := Option.ne_none_iff_exists'.1 hdigest
  rw [ruleTag, htag, hd]
  exact (hall d (hd ▸ rfl)).colon_mem

end Reference

/-! ## Rules about rejected texts -/

namespace ValidationRule

variable {r : ValidationRule} {sources : Sources}

/-- The rule is about texts that are no references: it covers the empty name, and it wants an empty
tag or is about rolling tags and finds rows under a colon alone. -/
def CatchesRejected (r : ValidationRule) (sources : Sources) : Prop :=
  r.Covers "" ∧ ((r.kind = .lock ∧ r.imageTag = "") ∨
    (r.kind = .rollingTag ∧
      ∃ a id, sources.history = some a ∧ a.history.Records ":" r.lookback id))

theorem catchesRejected_of_fits (h : r.Fits sources "" "") : r.CatchesRejected sources := by
  obtain ⟨hcovers, haccepts⟩ := h
  refine ⟨hcovers, ?_⟩
  unfold Accepts at haccepts
  split at haccepts
  case h_1 => exact absurd haccepts (by decide)
  case h_2 hkind => exact .inl ⟨hkind, haccepts.symm⟩
  case h_3 =>
    obtain ⟨c, v, -, hversion, -⟩ := haccepts
    cases hversion
  case h_4 hkind =>
    obtain ⟨a, hsource, hcheck⟩ := haccepts
    have hpos : 0 < (a.history.idsAfter ":" r.lookback).length := by
      rcases Rolling.check_iff.1 hcheck with ⟨-, htwo⟩ | ⟨-, hone, -⟩
      · exact Nat.lt_of_lt_of_le Nat.two_pos htwo
      · exact Nat.lt_of_lt_of_eq Nat.one_pos hone.symm
    obtain ⟨id, hid⟩ := List.exists_mem_of_length_pos hpos
    exact .inr ⟨hkind, a, id, hsource, History.mem_idsAfter_iff.1 hid⟩

/-- A digest passes neither for `latest` nor for a version. -/
theorem not_fits_of_colon {name tag : String} (hc : ':' ∈ tag.toList)
    (hkind : r.kind = .latest ∨ r.kind = .semVer) : ¬ r.Fits sources name tag := by
  rintro ⟨-, haccepts⟩
  unfold Accepts at haccepts
  rcases hkind with hkind | hkind
  · rw [hkind] at haccepts
    obtain rfl : tag = "latest" := haccepts
    exact absurd hc (by decide)
  · rw [hkind] at haccepts
    obtain ⟨c, v, -, hversion, -⟩ := haccepts
    rw [Version.ofTag_eq_none hc] at hversion
    cases hversion

end ValidationRule

namespace Policy

/-! ## Main statement -/

/-- **Texts that are no references get one answer**, and only a rule that is about them can give it;
without such a rule they are denied. References go under a name and a tag that are not empty, and
where a reference has a digest and no tag, no rule about `latest` or about versions fits it. -/
theorem validate_rejected {rules : List Rule} {p : Policy} (hp : ofRules rules = .ok p)
    (sources : Sources) :
    (∀ s t, Reference.IsRejected s → Reference.IsRejected t →
      p.validate sources s = p.validate sources t) ∧
    (∀ s, Reference.IsRejected s →
      ((p.validate sources s).1 = ⟨false, "<No Rules>"⟩ ∨
        ∃ before rule r after, Rule.validations rules = before ++ (rule, r) :: after ∧
          (∀ q ∈ before, ¬ q.2.Fits sources "" "") ∧ r.CatchesRejected sources ∧
          (p.validate sources s).1 = ⟨r.allow, rule⟩) ∧
      ((∀ q ∈ Rule.validations rules, ¬ q.2.CatchesRejected sources) →
        (p.validate sources s).1 = ⟨false, "<No Rules>"⟩)) ∧
    ∀ s r, Reference.parse s = .ok r →
      (Reference.nameAndTag s).1 ≠ "" ∧ (Reference.nameAndTag s).2 ≠ "" ∧
      (r.tag = none → r.digest ≠ none → ∀ rule (q : ValidationRule) v,
        Validation.ofRule rule q = .ok v → q.kind = .latest ∨ q.kind = .semVer →
          (v.fits sources (Reference.nameAndTag s).1 (Reference.nameAndTag s).2).1 = false) := by
  obtain ⟨clauses, hclauses, rfl⟩ := map_eq_ok_iff.1 hp
  have hrejected (s : String) (hs : Reference.IsRejected s) :
      validate ⟨clauses⟩ sources s = firstFit sources "" "" clauses := by
    rw [validate, Reference.nameAndTag_of_rejected hs]
  refine ⟨fun s t hs ht => ?_, fun s hs => ?_, fun s r hr => ?_⟩
  · rw [hrejected s hs, hrejected t ht]
  · rw [hrejected s hs]
    have hanswers : Answers sources "" "" (Rule.validations rules) _ :=
      answers_firstFit (mapM_eq_ok_iff.1 hclauses)
    generalize firstFit sources "" "" clauses = answer at hanswers
    generalize hvalidations : Rule.validations rules = validations at hanswers
    cases hanswers with
    | @first before after rule r hbefore hfits =>
      have hcatches := ValidationRule.catchesRejected_of_fits hfits
      refine ⟨.inr ⟨before, rule, r, after, rfl, hbefore, hcatches, rfl⟩, fun hnone => ?_⟩
      exact absurd hcatches (hnone (rule, r) (by simp))
    | none => exact ⟨.inl rfl, fun _ => rfl⟩
  · rw [Reference.nameAndTag_of_parse hr]
    refine ⟨Reference.name_ne_empty hr, Reference.ruleTag_ne_empty hr, ?_⟩
    intro htag hdigest rule q v hv hkind
    have hcolon := Reference.colon_mem_ruleTag hr htag hdigest
    rw [← Bool.not_eq_true, Validation.fits_iff hv]
    exact ValidationRule.not_fits_of_colon hcolon hkind

/-- The rule about the empty tag decides about every text that is no reference, and without it these
texts are denied. -/
theorem validate_rejected_of_empty_lock :
    let latest : ValidationRule := { kind := .latest, allow := true }
    let rules := [Rule.mk "latest" (.validate latest),
      ⟨"empty", .validate { kind := .lock, allow := true }⟩]
    let digest := "sha256:0123456789abcdef0123456789abcdef"
    ∃ p q, ofRules rules = .ok p ∧ ofRules (rules.take 1) = .ok q ∧
      p.validate {} "App" = p.validate {} "app:" ∧ (p.validate {} "App").1 = ⟨true, "empty"⟩ ∧
      (q.validate {} "App").1 = ⟨false, "<No Rules>"⟩ ∧
      (Reference.nameAndTag ("app@" ++ digest)).2 = digest ∧
      (Validation.fits ⟨none, .latest, true⟩ {} "app" digest).1 = false := by
  intro latest rules digest
  have hp : ofRules rules = .ok _ := rfl
  have hq : ofRules (rules.take 1) = .ok _ := rfl
  have hupper : Reference.IsRejected "App" := ⟨.upperCase, by decide⟩
  have htagless : Reference.IsRejected "app:" := ⟨.tag, by decide⟩
  have hparse : Reference.parse ("app@" ++ digest) = .ok ⟨"", "app", none, some digest⟩ := by decide
  have hnamed : Reference.nameAndTag ("app@" ++ digest) = ("app", digest) := by decide
  obtain ⟨hsame, -, hreferences⟩ := validate_rejected hp {}
  obtain ⟨-, hdecided, -⟩ := validate_rejected hq {}
  have hnone : ∀ r ∈ Rule.validations (rules.take 1), ¬ r.2.CatchesRejected {} := by
    intro r hr
    obtain rfl : r = ("latest", latest) := List.mem_singleton.1 hr
    rintro ⟨-, ⟨hkind, -⟩ | ⟨hkind, -⟩⟩ <;> cases hkind
  refine ⟨_, _, hp, hq, hsame _ _ hupper htagless, by decide, (hdecided _ hupper).2 hnone,
    by decide, ?_⟩
  have hlatest := (hreferences _ _ hparse).2.2 rfl nofun "latest" latest _ rfl (.inl rfl)
  rwa [hnamed] at hlatest

end Policy

end ImageGate
