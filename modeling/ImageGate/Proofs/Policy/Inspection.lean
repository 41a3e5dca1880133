import ImageGate.Proofs.Policy.FirstFit
import ImageGate.Proofs.Policy.Rolling

/-!
# What an inspector can change

An inspector is asked only where a rule about rolling tags knows of one image, and all that its
answer can do is to make that rule fit (`ValidationRule.fits_iff`). So a rule that fits without an
inspector fits with every inspector, and no rule fits because an inspector has failed.

`Decides` tells the place of the first rule of a list that fits. Where one notion of fitting admits
all that another one does, its first rule stands no later, and where it stands earlier, that rule is
one that only it admits (`Decides.compare`). The statement about inspectors is the case of fitting
with one of them and fitting without any.
-/

namespace ImageGate

open Text

def Inspector.NeverAnswers (ask : Inspector) : Prop :=
  ∀ image, ask image = .failed ∨ ask image = .silent

namespace History

/-- A row under the tag, reported after the instant, has the digest. -/
def RecordsDigest (h : History) (tag : String) (after : Instant) (digest : String) : Prop :=
  ∃ row ∈ h.images, row.entry.repoTag = tag ∧ after.toMicros < row.reportedAt ∧
    row.entry.repoDigest = digest

variable {h : History} {tag : String} {after : Instant}

theorem mem_digestsAfter_iff {digest : String} :
    digest ∈ h.digestsAfter tag after ↔ h.RecordsDigest tag after digest := by
  simp only [digestsAfter, mem_distinctTexts, evidence, List.mem_map, List.mem_filter,
    Bool.and_eq_true, beq_iff_eq, decide_eq_true_eq, RecordsDigest, and_assoc]

theorem mem_recorded_digestsAfter_iff {bare : List Char} :
    bare ∈ Digest.recorded (h.digestsAfter tag after) ↔
      bare ∈ Digest.bares {digest | h.RecordsDigest tag after digest} := by
  simp only [Digest.mem_recorded, mem_digestsAfter_iff]
  exact Iff.rfl

/-- Two images are recorded if the list of images has two members. -/
theorem exists_records_ne_iff : (∃ a b, a ≠ b ∧ h.Records tag after a ∧ h.Records tag after b) ↔
    2 ≤ (h.idsAfter tag after).length := by
  simp only [← mem_idsAfter_iff]
  have hnodup : (h.idsAfter tag after).Nodup := nodup_distinctTexts _
  constructor
  · rintro ⟨a, b, hne, ha, hb⟩
    refine Nat.lt_of_not_le fun hle => ?_
    obtain ⟨i, hi, rfl⟩ := List.getElem_of_mem ha
    obtain ⟨j, hj, rfl⟩ := List.getElem_of_mem hb
    obtain rfl : i = j := by omega
    exact hne rfl
  · intro hle
    refine ⟨_, _, ?_, List.getElem_mem (n := 0) (by omega), List.getElem_mem (n := 1) (by omega)⟩
    exact fun heq => absurd ((hnodup.getElem_inj_iff).1 heq) Nat.zero_ne_one

end History

/-! ## One rule -/

namespace ValidationRule

/-- The tag is of the kind that the rule is about, as far as can be told without asking an inspector:
a tag is rolling if the history answers and two images are recorded under it. -/
def AcceptsUnasked (r : ValidationRule) (known : Option Archive) (name tag : String) : Prop :=
  match r.kind with
  | .rollingTag =>
    let key := name ++ ":" ++ tag
    ∃ archive, known = some archive ∧ archive.answers (.ids key r.lookback) = true ∧
      ∃ a b, a ≠ b ∧ archive.history.Records key r.lookback a ∧
        archive.history.Records key r.lookback b
  | _ => r.Accepts { history := known } name tag

/-- The rule is about the image, as far as can be told without asking an inspector. -/
def FitsUnasked (r : ValidationRule) (known : Option Archive) (name tag : String) : Prop :=
  r.Covers name ∧ r.AcceptsUnasked known name tag

/-- The rule is about rolling tags, the history answers, one image is recorded under the tag, and the
inspector answers with a digest that is not recorded. -/
def MovedOn (r : ValidationRule) (known : Option Archive) (ask : Inspector) (name tag : String) :
    Prop :=
  let key := name ++ ":" ++ tag
  r.kind = .rollingTag ∧ ∃ archive, known = some archive ∧ archive.Answers key r.lookback ∧
    (∃! id, archive.history.Records key r.lookback id) ∧
    ∃ answer digest, ask key = .answered answer ∧ Digest.IsNormal answer digest ∧
      digest ∉ Digest.bares {d | archive.history.RecordsDigest key r.lookback d}

variable {r : ValidationRule} {known : Option Archive} {inspector : Option Inspector}
  {ask : Inspector} {name tag : String}

/-- The inspector has no say in the other kinds of rules. -/
theorem accepts_iff_of_ne (hkind : r.kind ≠ .rollingTag) :
    r.Accepts { history := known, inspector } name tag ↔ r.AcceptsUnasked known name tag := by
  unfold AcceptsUnasked Accepts
  cases hk : r.kind with
  | rollingTag => exact absurd hk hkind
  | latest | semVer | lock => exact Iff.rfl

theorem accepts_iff : r.Accepts { history := known, inspector } name tag ↔
    r.AcceptsUnasked known name tag ∨
      ∃ ask, inspector = some ask ∧ r.MovedOn known ask name tag := by
  by_cases hkind : r.kind = .rollingTag
  · simp only [Accepts, AcceptsUnasked, MovedOn, hkind, Rolling.check_iff, true_and,
      History.exists_records_ne_iff, History.existsUnique_records_iff, Rolling.key]
    constructor
    · rintro ⟨a, hknown, htwo | ⟨hanswers, hone, ask, answer, hask, hanswer, hnot⟩⟩
      · exact .inl ⟨a, hknown, htwo⟩
      · refine .inr ⟨ask, hask, a, hknown, hanswers, hone, answer, _, hanswer,
          Digest.isNormal_iff.2 rfl, ?_⟩
        rwa [← History.mem_recorded_digestsAfter_iff]
    · rintro (⟨a, hknown, htwo⟩ |
        ⟨ask, hask, a, hknown, hanswers, hone, answer, d, hanswer, hnormal, hnot⟩)
      · exact ⟨a, hknown, .inl htwo⟩
      · obtain rfl := Digest.isNormal_iff.1 hnormal
        rw [← History.mem_recorded_digestsAfter_iff] at hnot
        exact ⟨a, hknown, .inr ⟨hanswers, hone, ask, answer, hask, hanswer, hnot⟩⟩
  · rw [accepts_iff_of_ne hkind]
    constructor
    · exact .inl
    · rintro (h | ⟨ask, -, hmoved⟩)
      · exact h
      · exact absurd hmoved.1 hkind

/-- **An answer can only make a rule fit.** -/
theorem fits_iff : r.Fits { history := known, inspector } name tag ↔
    r.FitsUnasked known name tag ∨
      (r.Covers name ∧ ∃ ask, inspector = some ask ∧ r.MovedOn known ask name tag) := by
  rw [Fits, FitsUnasked, accepts_iff, and_or_left]

theorem fits_none_iff : r.Fits { history := known } name tag ↔ r.FitsUnasked known name tag := by
  rw [fits_iff]
  exact ⟨fun h => h.resolve_right fun ⟨_, _, hask, _⟩ => Option.some_ne_none _ hask.symm, .inl⟩

/-- An inspector that does not answer is as good as none. -/
theorem fits_iff_of_neverAnswers (hask : ask.NeverAnswers) :
    r.Fits { history := known, inspector := some ask } name tag ↔
      r.FitsUnasked known name tag := by
  rw [fits_iff]
  refine ⟨fun h => h.resolve_right ?_, .inl⟩
  rintro ⟨-, _, heq, -, _, -, -, -, answer, -, hanswer, -⟩
  obtain rfl := Option.some.inj heq
  rcases hask (name ++ ":" ++ tag) with hnone | hnone <;> rw [hnone] at hanswer <;> cases hanswer

end ValidationRule

/-! ## The first rule that fits -/

namespace Policy

/-- The rule at this place is the first one that fits and gives the decision; the place behind the
last rule is that of the decision about images that no rule fits. -/
inductive Decides (Fits : ValidationRule → Prop) :
    List (String × ValidationRule) → Nat → Decision → Prop
  | here {rule : String} {r : ValidationRule} {more : List (String × ValidationRule)} :
      Fits r → Decides Fits ((rule, r) :: more) 0 ⟨r.allow, rule⟩
  | later {rule : String} {r : ValidationRule} {more : List (String × ValidationRule)} {i : Nat}
      {d : Decision} : ¬ Fits r → Decides Fits more i d → Decides Fits ((rule, r) :: more) (i + 1) d
  | nowhere : Decides Fits [] 0 ⟨false, "<No Rules>"⟩

variable {Fits Fits' : ValidationRule → Prop} {rules : List (String × ValidationRule)} {i j : Nat}
  {d e : Decision}

/-- Where more rules fit, the first one that does stands at the same place or earlier, and if it
stands earlier it is one of the rules that fit in addition. -/
theorem Decides.compare (himp : ∀ r, Fits r → Fits' r) (h : Decides Fits rules j d)
    (h' : Decides Fits' rules i e) : (i = j ∧ e = d) ∨
      (i < j ∧ ∃ rule, rules[i]? = some rule ∧ Fits' rule.2 ∧ ¬ Fits rule.2) := by
  induction h generalizing i with
  | here hfits =>
    cases h' with
    | here => exact .inl ⟨rfl, rfl⟩
    | later hnot => exact absurd (himp _ hfits) hnot
  | later hnot _ ih =>
    cases h' with
    | here hfits => exact .inr ⟨Nat.succ_pos _, _, rfl, hfits, hnot⟩
    | later _ h' =>
      rcases ih h' with ⟨rfl, rfl⟩ | ⟨hlt, hrule⟩
      · exact .inl ⟨rfl, rfl⟩
      · exact .inr ⟨Nat.succ_lt_succ hlt, hrule⟩
  | nowhere =>
    cases h'
    exact .inl ⟨rfl, rfl⟩

theorem Decides.congr (hiff : ∀ r, Fits r ↔ Fits' r) (h : Decides Fits rules j d) :
    Decides Fits' rules j d := by
  obtain rfl : Fits = Fits' := funext fun r => propext (hiff r)
  exact h

/-- The answer to an image is the decision of the first rule that fits. -/
theorem Answers.exists_decides {sources : Sources} {name tag : String}
    {answer : Decision × List String} (h : Answers sources name tag rules answer) :
    ∃ i, Decides (·.Fits sources name tag) rules i answer.1 := by
  cases h with
  | none hnone =>
    induction rules with
    | nil => exact ⟨0, .nowhere⟩
    | cons rule rules ih =>
      obtain ⟨hrule, hrules⟩ := List.forall_mem_cons.1 hnone
      obtain ⟨i, hi⟩ := ih hrules
      exact ⟨i + 1, .later hrule hi⟩
  | @first before after rule r hbefore hfits =>
    dsimp only
    induction before with
    | nil => exact ⟨0, .here hfits⟩
    | cons q before ih =>
      obtain ⟨hq, hbefore⟩ := List.forall_mem_cons.1 hbefore
      obtain ⟨i, hi⟩ := ih hbefore
      exact ⟨i + 1, .later hq hi⟩

theorem exists_decides {declared : List Rule} {p : Policy} (hp : ofRules declared = .ok p)
    (sources : Sources) (image : String) :
    ∃ i, Decides (·.Fits sources (Reference.nameAndTag image).1 (Reference.nameAndTag image).2)
      (Rule.validations declared) i (p.validate sources image).1 := by
  obtain ⟨clauses, hclauses, rfl⟩ := map_eq_ok_iff.1 hp
  exact (answers_firstFit (mapM_eq_ok_iff.1 hclauses)).exists_decides

/-! ## Main statement -/

/-- **An inspector in trouble changes nothing, and one that answers can only bring a rule forward.**
Without an inspector, and with one that never answers, the decision is that of the first rule that
fits by what is recorded, where a tag is rolling if two images are recorded under it and the history
tells them. With any other
inspector it is that of a rule at the same place or at an earlier one; a rule at an earlier place is
about rolling tags, with one image recorded and an answer in time that names a digest that is not.
Whether a rule of another kind fits does not depend on the inspector. -/
theorem validate_inspectors {declared : List Rule} {p : Policy} (hp : ofRules declared = .ok p)
    (known : Option Archive) (image : String) (any mute : Inspector) (hmute : mute.NeverAnswers) :
    let name := (Reference.nameAndTag image).1
    let tag := (Reference.nameAndTag image).2
    let rules := Rule.validations declared
    let alone := (p.validate { history := known } image).1
    let aided := (p.validate { history := known, inspector := some any } image).1
    ∃ i j, Decides (·.FitsUnasked known name tag) rules j alone ∧
      Decides (·.Fits { history := known, inspector := some mute } name tag) rules j alone ∧
      (p.validate { history := known, inspector := some mute } image).1 = alone ∧
      Decides (·.Fits { history := known, inspector := some any } name tag) rules i aided ∧
      ((i = j ∧ aided = alone) ∨
        (i < j ∧ ∃ rule, rules[i]? = some rule ∧ rule.2.MovedOn known any name tag)) ∧
      ∀ rule ∈ rules, rule.2.kind ≠ .rollingTag →
        (rule.2.Fits { history := known, inspector := some any } name tag ↔
          rule.2.Fits { history := known } name tag) := by
  intro name tag rules alone aided
  obtain ⟨j, hj⟩ := exists_decides hp { history := known } image
  obtain ⟨i, hi⟩ := exists_decides hp { history := known, inspector := some any } image
  obtain ⟨k, hk⟩ := exists_decides hp { history := known, inspector := some mute } image
  have hj : Decides (·.FitsUnasked known name tag) rules j alone :=
    hj.congr fun _ => ValidationRule.fits_none_iff
  have hk : Decides (·.FitsUnasked known name tag) rules k _ :=
    hk.congr fun _ => ValidationRule.fits_iff_of_neverAnswers hmute
  refine ⟨i, j, hj, hj.congr fun _ => (ValidationRule.fits_iff_of_neverAnswers hmute).symm, ?_, hi,
    ?_, fun rule _ hkind => ?_⟩
  · rcases hj.compare (fun _ => id) hk with ⟨-, heq⟩ | ⟨-, _, -, hfits, hnot⟩
    · exact heq
    · exact absurd hfits hnot
  · rcases hj.compare (fun _ hfits => ValidationRule.fits_iff.2 (.inl hfits)) hi with
      hsame | ⟨hlt, rule, hrule, hfits, hnot⟩
    · exact .inl hsame
    · obtain ⟨-, ask, hask, hmoved⟩ := (ValidationRule.fits_iff.1 hfits).resolve_left hnot
      obtain rfl := Option.some.inj hask
      exact .inr ⟨hlt, rule, hrule, hmoved⟩
  · unfold ValidationRule.Fits
    rw [ValidationRule.accepts_iff_of_ne hkind, ValidationRule.accepts_iff_of_ne hkind]

/-- The registry has a new digest for the only image recorded: the rule about rolling tags denies the
image, which without an answer another rule allows. -/
theorem validate_inspectors_of_moved :
    let declared := [Rule.mk "rolling" (.validate { kind := .rollingTag }),
      ⟨"latest", .validate { kind := .latest, allow := true }⟩]
    let images : List Image :=
      [{ id := "a", repoTags := ["app:latest"], repoDigests := ["app@sha256:old"] }]
    let known : Option Archive := some (({} : History).store History.admitAll ⟨100, 0⟩ { images }).2
    let moved : Inspector := fun _ => .answered "sha256:new"
    let silent : Inspector := fun _ => .silent
    ∃ p, ofRules declared = .ok p ∧ silent.NeverAnswers ∧
      (p.validate { history := known, inspector := some silent } "app").1 = ⟨true, "latest"⟩ ∧
      (p.validate { history := known, inspector := some moved } "app").1 = ⟨false, "rolling"⟩ ∧
      ∃ rule ∈ Rule.validations declared, rule.2.MovedOn known moved "app" "latest" := by
  intro declared images known moved silent
  have hp : ofRules declared = .ok _ := rfl
  have hsilent : silent.NeverAnswers := fun _ => .inr rfl
  obtain ⟨i, j, -, -, hmute, -, hplace, -⟩ :=
    validate_inspectors hp known "app" moved silent hsilent
  refine ⟨_, hp, hsilent, hmute.trans (by decide), by decide, ?_⟩
  obtain ⟨-, rule, hrule, hmoved⟩ := hplace.resolve_left fun ⟨_, heq⟩ => absurd heq (by decide)
  rw [show Reference.nameAndTag "app" = ("app", "latest") by decide] at hmoved
  exact ⟨rule, List.mem_of_getElem? hrule, hmoved⟩

end Policy

end ImageGate
