import ImageGate.History.Transaction
import ImageGate.Policy.Decision
import ImageGate.Proofs.History.Table
import ImageGate.Proofs.Text.Reading
import ImageGate.Reference.Parser

/-!
# The first rule that fits decides

What a policy answers is told by the declared rules: the first validation rule that fits an image
decides, and the inspector is asked once for each rule up to that one which cannot tell without it
(`validate_first_fit`). Mutation rules have no say in it.

Rules are made ready before they are applied, so each test of a rule made ready is tied to the rule
that it was made from (`fits_iff`, `asked_by_fits`). The rest follows the list of rules: a rule that
does not fit adds its questions and leaves the decision to the rules behind it (`Answers.cons`).
-/

namespace ImageGate

open Text

def Rule.validations (rules : List Rule) : List (String × ValidationRule) :=
  rules.filterMap fun r =>
    match r.body with
    | .validate v => some (r.name, v)
    | .mutate _ => none

/-- A row under the tag, reported after the instant, is about the image. -/
def History.Records (h : History) (tag : String) (after : Instant) (id : String) : Prop :=
  ∃ row ∈ h.images, row.entry.repoTag = tag ∧ after.toMicros < row.reportedAt ∧ row.entry.id = id

namespace ValidationRule

/-- The pattern of the rule is empty or found in the name. -/
def Covers (r : ValidationRule) (name : String) : Prop :=
  r.imageName = "" ∨ ∃ p, Pattern.parse r.imageName = .ok p ∧ p.isFoundIn name = true

/-- The instant from which a rule about rolling tags looks. -/
def lookback (r : ValidationRule) : Instant :=
  r.after.getD .epoch

/-- The tag is of the kind that the rule is about. -/
def Accepts (r : ValidationRule) (sources : Sources) (name tag : String) : Prop :=
  match r.kind with
  | .latest => tag = "latest"
  | .lock => tag = r.imageTag
  | .semVer =>
    ∃ c v, Constraint.parse r.imageTag = .ok c ∧ Version.ofTag tag = some v ∧ c.admits v = true
  | .rollingTag =>
    ∃ a, sources.history = some a ∧ (Rolling.check a sources.inspector r.lookback name tag).1 = true

def Fits (r : ValidationRule) (sources : Sources) (name tag : String) : Prop :=
  r.Covers name ∧ r.Accepts sources name tag

/-- The rule is about rolling tags, and what is known of the image is that it has been one under
this tag. Nothing is known where the history does not answer. -/
def Asks (r : ValidationRule) (sources : Sources) (name tag : String) : Prop :=
  r.kind = .rollingTag ∧ r.Covers name ∧ sources.inspector.isSome = true ∧
    ∃ a, sources.history = some a ∧ a.Answers (name ++ ":" ++ tag) r.lookback ∧
      ∃! id, a.history.Records (name ++ ":" ++ tag) r.lookback id

end ValidationRule

/-! ## One rule -/

section Rule

variable {rule : String} {r : ValidationRule} {v : Validation} {t : TagTest} {sources : Sources}
  {name tag : String}

theorem History.mem_idsAfter_iff {h : History} {after : Instant} {id : String} :
    id ∈ h.idsAfter tag after ↔ h.Records tag after id := by
  simp only [idsAfter, mem_distinctTexts, evidence, List.mem_map, List.mem_filter,
    Bool.and_eq_true, beq_iff_eq, decide_eq_true_eq, Records, and_assoc]

/-- Exactly one image is recorded if the list of images has one member. -/
theorem History.existsUnique_records_iff {h : History} {after : Instant} :
    (∃! id, h.Records tag after id) ↔ (h.idsAfter tag after).length = 1 := by
  simp only [← mem_idsAfter_iff]
  have hnodup : (h.idsAfter tag after).Nodup := nodup_distinctTexts _
  constructor
  · rintro ⟨id, hid, hunique⟩
    have hall : h.idsAfter tag after = List.replicate (h.idsAfter tag after).length id :=
      List.eq_replicate_of_mem hunique
    have hle : (h.idsAfter tag after).length ≤ 1 := by
      rw [hall] at hnodup
      exact List.nodup_replicate.1 hnodup
    have hpos : 0 < (h.idsAfter tag after).length := List.length_pos_of_mem hid
    omega
  · intro hone
    obtain ⟨id, hid⟩ := List.length_eq_one_iff.1 hone
    exact ⟨id, by simp [hid], by simp [hid]⟩

theorem Rolling.asked_by_check (a : Archive) (inspector : Option Inspector) (after : Instant)
    (name tag : String) : (Rolling.check a inspector after name tag).2 =
      if inspector.isSome = true ∧ a.Answers (key name tag) after ∧
        (a.history.idsAfter (key name tag) after).length = 1 then [key name tag]
      else [] := by
  by_cases hone : inspector.isSome = true ∧ a.Answers (key name tag) after ∧
      (a.history.idsAfter (key name tag) after).length = 1
  · rw [if_pos hone]
    obtain ⟨hinspector, hanswers, hone⟩ := hone
    obtain ⟨ask, rfl⟩ := Option.isSome_iff_exists.1 hinspector
    rw [check_of_one hanswers hone ask]
    cases ask (key name tag) <;> rfl
  · rw [if_neg hone]
    by_cases htwo : a.answers (.ids (key name tag) after) = true ∧
        2 ≤ (a.history.idsAfter (key name tag) after).length
    · rw [check_of_two_le htwo.1 htwo.2]
    · rw [check_of_neither htwo hone]

/-- What a rule made ready has kept of the rule. -/
theorem Validation.ofRule_eq_ok (hv : Validation.ofRule rule r = .ok v) :
    ((r.imageName = "" ∧ v.name = none) ∨
      (r.imageName ≠ "" ∧ ∃ p, Pattern.parse r.imageName = .ok p ∧ v.name = some p)) ∧
      TagTest.ofRule rule r = .ok v.tag ∧ v.allow = r.allow := by
  unfold ofRule at hv
  dsimp only at hv
  by_cases hempty : r.imageName = ""
  · rw [if_pos (by simp [hempty]), pure_bind] at hv
    obtain ⟨t, ht, hv⟩ := bind_eq_ok_iff.1 hv
    cases hv
    exact ⟨.inl ⟨hempty, rfl⟩, ht, rfl⟩
  · rw [if_neg (by simpa using hempty)] at hv
    obtain ⟨pattern, hpattern, hv⟩ := bind_eq_ok_iff.1 hv
    obtain ⟨p, hp, rfl⟩ := map_eq_ok_iff.1 hpattern
    obtain ⟨t, ht, hv⟩ := bind_eq_ok_iff.1 hv
    cases hv
    exact ⟨.inr ⟨hempty, p, mapError_eq_ok_iff.1 hp, rfl⟩, ht, rfl⟩

theorem Validation.coversName_iff (hv : Validation.ofRule rule r = .ok v) :
    v.coversName name = true ↔ r.Covers name := by
  unfold coversName ValidationRule.Covers
  rcases (ofRule_eq_ok hv).1 with ⟨hempty, hname⟩ | ⟨hne, p, hp, hname⟩
  · simp [hempty, hname]
  · simp [hne, hp, hname]

theorem TagTest.passes_iff (ht : TagTest.ofRule rule r = .ok t) :
    (t.passes sources name tag).1 = true ↔ r.Accepts sources name tag := by
  unfold ofRule at ht
  unfold ValidationRule.Accepts
  cases hkind : r.kind <;> rw [hkind] at ht <;> dsimp only at ht ⊢
  case latest =>
    cases ht
    simp [passes, Reference.defaultTag]
  case lock =>
    cases ht
    simp [passes]
  case semVer =>
    obtain ⟨c, hc, rfl⟩ := map_eq_ok_iff.1 ht
    have hc : Constraint.parse r.imageTag = .ok c := mapError_eq_ok_iff.1 hc
    simp [passes, hc, Option.any_eq_true]
  case rollingTag =>
    cases ht
    cases hsource : sources.history <;> simp [passes, hsource, ValidationRule.lookback]

theorem TagTest.asked_by_passes (ht : TagTest.ofRule rule r = .ok t) :
    (t.passes sources name tag).2 =
      match r.kind, sources.history with
      | .rollingTag, some a => (Rolling.check a sources.inspector r.lookback name tag).2
      | _, _ => [] := by
  unfold ofRule at ht
  cases hkind : r.kind <;> rw [hkind] at ht <;> dsimp only at ht ⊢
  case latest | lock =>
    cases ht
    rfl
  case semVer =>
    obtain ⟨c, -, rfl⟩ := map_eq_ok_iff.1 ht
    rfl
  case rollingTag =>
    cases ht
    cases hsource : sources.history <;> simp [passes, hsource, ValidationRule.lookback]

/-- A rule made ready fits exactly the images that the rule is about. -/
theorem Validation.fits_iff (hv : Validation.ofRule rule r = .ok v) :
    (v.fits sources name tag).1 = true ↔ r.Fits sources name tag := by
  rw [ValidationRule.Fits, ← coversName_iff hv, ← TagTest.passes_iff (ofRule_eq_ok hv).2.1, fits]
  cases v.coversName name <;> simp

end Rule

/-! ## Decidable rules -/

instance (r : ValidationRule) (name : String) : Decidable (r.Covers name) :=
  decidable_of_iff
    (r.imageName = "" ∨ (Pattern.parse r.imageName).toOption.any (·.isFoundIn name) = true) <| by
    unfold ValidationRule.Covers
    cases Pattern.parse r.imageName <;> simp [Except.toOption]

instance (r : ValidationRule) (sources : Sources) (name tag : String) :
    Decidable (r.Asks sources name tag) :=
  decidable_of_iff
    (r.kind = .rollingTag ∧ r.Covers name ∧ sources.inspector.isSome = true ∧
      sources.history.any (fun a => a.Answers (name ++ ":" ++ tag) r.lookback ∧
        (a.history.idsAfter (name ++ ":" ++ tag) r.lookback).length = 1) = true) <| by
    simp only [ValidationRule.Asks, History.existsUnique_records_iff, Option.any_eq_true,
      decide_eq_true_eq]

namespace Policy

/-- What rules want to know of the inspector: one question for each of them that asks. -/
def questions (sources : Sources) (name tag : String) (rules : List (String × ValidationRule)) :
    List String :=
  (rules.filter fun r => r.2.Asks sources name tag).map fun _ => name ++ ":" ++ tag

/-- The first rule that fits gives the decision, and the rules up to it have asked. -/
inductive Answers (sources : Sources) (name tag : String) :
    List (String × ValidationRule) → Decision × List String → Prop
  | first {before after : List (String × ValidationRule)} {rule : String} {r : ValidationRule} :
      (∀ q ∈ before, ¬ q.2.Fits sources name tag) → r.Fits sources name tag →
      Answers sources name tag (before ++ (rule, r) :: after)
        (⟨r.allow, rule⟩, questions sources name tag (before ++ [(rule, r)]))
  | none {rules : List (String × ValidationRule)} :
      (∀ q ∈ rules, ¬ q.2.Fits sources name tag) →
      Answers sources name tag rules (⟨false, "<No Rules>"⟩, questions sources name tag rules)

variable {sources : Sources} {name tag : String}

theorem questions_append (rules others : List (String × ValidationRule)) :
    questions sources name tag (rules ++ others) =
      questions sources name tag rules ++ questions sources name tag others := by
  simp [questions]

/-- A rule that does not fit leaves the decision to the rules behind it. -/
theorem Answers.cons {rules : List (String × ValidationRule)} {answer : Decision × List String}
    (h : Answers sources name tag rules answer) {rule : String × ValidationRule}
    (hrule : ¬ rule.2.Fits sources name tag) :
    Answers sources name tag (rule :: rules)
      (answer.1, questions sources name tag [rule] ++ answer.2) := by
  cases h with
  | first hbefore hfits =>
    rw [← questions_append]
    exact .first (List.forall_mem_cons.2 ⟨hrule, hbefore⟩) hfits
  | none hnone =>
    rw [← questions_append]
    exact .none (List.forall_mem_cons.2 ⟨hrule, hnone⟩)

theorem Answers.unique {rules : List (String × ValidationRule)} {a b : Decision × List String}
    (ha : Answers sources name tag rules a) (hb : Answers sources name tag rules b) : a = b := by
  cases ha with
  | none hnone =>
    cases hb with
    | none => rfl
    | @first before after rule r _ hfits => exact absurd hfits (hnone (rule, r) (by simp))
  | @first before after rule r hbefore hfits =>
    generalize hrules : before ++ (rule, r) :: after = rules at hb
    cases hb with
    | none hnone => exact absurd hfits (hnone (rule, r) (by simp [← hrules]))
    | @first front back label q hfront hq =>
      -- Of two lists of rules that do not fit, neither reaches up to a rule that does.
      rcases List.append_eq_append_iff.1 hrules with ⟨more, rfl, hmore⟩ | ⟨more, rfl, hmore⟩
      · cases more with
        | nil =>
          cases hmore
          simp
        | cons s more =>
          cases hmore
          exact absurd hfits (hfront (rule, r) (by simp))
      · cases more with
        | nil =>
          cases hmore
          simp
        | cons s more =>
          cases hmore
          exact absurd hq (hbefore (label, q) (by simp))

theorem asked_by_fits {rule : String} {r : ValidationRule} {v : Validation}
    (hv : Validation.ofRule rule r = .ok v) :
    (v.fits sources name tag).2 = questions sources name tag [(rule, r)] := by
  have hcovers : v.coversName name = true ↔ r.Covers name := Validation.coversName_iff hv
  have hpasses : (v.tag.passes sources name tag).2 = _ :=
    TagTest.asked_by_passes (Validation.ofRule_eq_ok hv).2.1
  unfold Validation.fits
  by_cases hasks : r.Asks sources name tag
  · have hquestions : questions sources name tag [(rule, r)] = [name ++ ":" ++ tag] := by
      simp [questions, hasks]
    obtain ⟨hkind, hname, hinspector, a, hsource, hanswers, hone⟩ := hasks
    rw [if_pos (hcovers.2 hname), hpasses, hkind, hsource, hquestions]
    exact (Rolling.asked_by_check ..).trans
      (if_pos ⟨hinspector, hanswers, History.existsUnique_records_iff.1 hone⟩)
  · have hquestions : questions sources name tag [(rule, r)] = [] := by
      simp [questions, hasks]
    rw [hquestions]
    by_cases hname : r.Covers name
    · rw [if_pos (hcovers.2 hname), hpasses]
      split
      case h_1 a hkind hsource =>
        refine (Rolling.asked_by_check ..).trans (if_neg ?_)
        rintro ⟨hinspector, hanswers, hone⟩
        exact hasks ⟨hkind, hname, hinspector, a, hsource, hanswers,
          History.existsUnique_records_iff.2 hone⟩
      case h_2 => rfl
    · rw [if_neg (mt hcovers.1 hname)]

theorem answers_firstFit {rules : List Rule} {clauses : List Clause}
    (h : List.Forall₂ (fun r c => Clause.ofRule r = .ok c) rules clauses) :
    Answers sources name tag (Rule.validations rules) (firstFit sources name tag clauses) := by
  induction h with
  | nil => exact .none nofun
  | @cons rule clause rules clauses hclause _ ih =>
    obtain ⟨label, body⟩ := rule
    cases body with
    | mutate m =>
      obtain ⟨m', -, rfl⟩ := map_eq_ok_iff.1 hclause
      exact ih
    | validate r =>
      obtain ⟨v, hv, rfl⟩ := map_eq_ok_iff.1 hclause
      have hfits : (v.fits sources name tag).1 = true ↔ r.Fits sources name tag :=
        Validation.fits_iff hv
      have hasked : (v.fits sources name tag).2 = _ := asked_by_fits hv
      show Answers sources name tag ((label, r) :: Rule.validations rules) _
      rw [firstFit]
      split
      case h_1 asked heq =>
        rw [heq] at hfits hasked
        have hanswers : Answers sources name tag ([] ++ (label, r) :: Rule.validations rules)
            (⟨r.allow, label⟩, questions sources name tag ([] ++ [(label, r)])) :=
          .first nofun (hfits.1 rfl)
        rwa [(Validation.ofRule_eq_ok hv).2.2, show asked = _ from hasked]
      case h_2 asked heq =>
        rw [heq] at hfits hasked
        rw [show asked = _ from hasked]
        exact ih.cons fun hfit => absurd (hfits.2 hfit) Bool.false_ne_true

/-- **The first validation rule that fits decides.** A policy answers with the first declared
validation rule that fits, and denies the image if there is none. Up to that rule, each rule about
rolling tags that covers the name and knows of one image under the tag has the inspector asked, once,
and nothing else has. Lists with the same validation rules give the same answers, whatever mutation
rules stand among these. -/
theorem validate_first_fit {rules : List Rule} {p : Policy} (hp : ofRules rules = .ok p)
    (sources : Sources) (image : String) :
    Answers sources (Reference.nameAndTag image).1 (Reference.nameAndTag image).2
      (Rule.validations rules) (p.validate sources image) ∧
    ∀ others q, ofRules others = .ok q → Rule.validations others = Rule.validations rules →
      q.validate sources image = p.validate sources image := by
  have answers {rules : List Rule} {p : Policy} (hp : ofRules rules = .ok p) :
      Answers sources (Reference.nameAndTag image).1 (Reference.nameAndTag image).2
        (Rule.validations rules) (p.validate sources image) := by
    obtain ⟨clauses, hclauses, rfl⟩ := map_eq_ok_iff.1 hp
    exact answers_firstFit (mapM_eq_ok_iff.1 hclauses)
  refine ⟨answers hp, fun others q hq heq => ?_⟩
  exact (heq ▸ answers hq).unique (answers hp)

/-- The registry keeps silent for the first rule and is not asked for the last one. -/
theorem validate_first_fit_of_silent :
    let rolling : ValidationRule := { kind := .rollingTag }
    let latest : ValidationRule := { kind := .latest, allow := true }
    let rules := [Rule.mk "hub" (.mutate { kind := .defaultRegistry, registry := "docker.io" }),
      ⟨"rolling", .validate rolling⟩, ⟨"latest", .validate latest⟩, ⟨"again", .validate rolling⟩]
    let report : Report := { images := [{ id := "a", repoTags := ["app:latest"] }] }
    let sources : Sources :=
      { history := some (({} : History).store History.admitAll ⟨100, 0⟩ report).2
        inspector := some fun _ => .silent }
    ∃ p q, ofRules rules = .ok p ∧ ofRules (rules.drop 1) = .ok q ∧
      Answers sources "app" "latest" (Rule.validations rules) (p.validate sources "app") ∧
      q.validate sources "app" = p.validate sources "app" ∧
      p.validate sources "app" = (⟨true, "latest"⟩, ["app:latest"]) := by
  intro rolling latest rules report sources
  have hnamed : Reference.nameAndTag "app" = ("app", "latest") := by decide
  have hp : ofRules rules = .ok _ := rfl
  have hq : ofRules (rules.drop 1) = .ok _ := rfl
  obtain ⟨hanswers, hsame⟩ := validate_first_fit hp sources "app"
  rw [hnamed] at hanswers
  exact ⟨_, _, hp, hq, hanswers, hsame _ _ hq rfl, by decide⟩

end Policy

end ImageGate
