import ImageGate.Rule.Export
import ImageGate.Proofs.Rule.Reading

/-!
# Rules written and read again

Rules that were read from a rule file are written as a rule file. If YAML keeps what it is given,
each rule is read again as it was, field by field, save for one thing: the instant of a rule whose
year does not have four digits is written as a text that is no instant (`ValidationRule.far?`). The
first such rule is what the new file is refused for, and without one it holds the same rules
(`listOfYaml_listToYaml`).

Such instants do come from rule files, which may give a date with any year; so there are rule files
that are read, but not what is written for them (`exists_listOfYaml_listToYaml_error`).
-/

namespace ImageGate

open Text
open Yaml (Value Node)

/-! ## Instants that are not read again -/

/-- The instant of a rule, where it lies outside the years from 0 to 9999. -/
def ValidationRule.far? (rule : ValidationRule) : Option Instant :=
  rule.after.filter fun t => !decide t.HasFourDigitYear

/-- The instant of a rule, where it has one and this lies outside the years from 0 to 9999. -/
def Rule.far? (r : Rule) : Option Instant :=
  match r.body with
  | .validate rule => rule.far?
  | .mutate _ => none

/-- Something is read unless an instant is in the way. -/
def unlessFar {β : Type} (far : Option Instant) (b : β) : Except ShapeFault β :=
  match far with
  | none => .ok b
  | some t => .error (.badDate t.renderWithOffset)

section Far

variable {β γ : Type}

/-- Members of a list are read up to the first that is in the way. -/
theorem mapM_unlessFar {f : β → Except ShapeFault γ} {far : β → Option Instant} {g : β → γ}
    {bs : List β} (h : ∀ b ∈ bs, f b = unlessFar (far b) (g b)) :
    bs.mapM f = unlessFar (bs.findSome? far) (bs.map g) := by
  induction bs with
  | nil => rfl
  | cons b bs ih =>
    rw [List.forall_mem_cons] at h
    rw [List.mapM_cons, h.1, ih h.2, List.findSome?_cons]
    cases far b with
    | some t => rfl
    | none => cases bs.findSome? far <;> rfl

end Far

/-! ## Written records -/

def writtenEntries (fields : List (String × Value)) : List (Option String × Node) :=
  fields.map fun f => (some f.1, f.2.toNode)

section Records

variable {ρ : Type} {fields : List (Field Node ρ)} {written more : List (String × Value)}
  {default r : ρ} {seen : List String}

theorem record_toNode {result : Except ShapeFault ρ}
    (h : Format.ReadsAs fields (writtenEntries written) default result) :
    Yaml.format.record fields default (Value.record written).toNode = result :=
  Format.record_eq rfl (Yaml.fields_toNode written) h

theorem entries_written {key : String} {v : Value} {f : Field Node ρ} (r' : ρ)
    (hfind : fields.find? (·.hasKey key) = some f) (hseen : f.name ∉ seen)
    (hread : f.read v.toNode r = .ok r') :
    Format.entries fields (writtenEntries ((key, v) :: more)) seen r =
      Format.entries fields (writtenEntries more) (f.name :: seen) r' := by
  show Format.entries fields ((some key, v.toNode) :: writtenEntries more) seen r = _
  rw [Format.entries_cons hfind hseen, hread]
  rfl

theorem entries_last {key : String} {v : Value} {f : Field Node ρ} {result : Except ShapeFault ρ}
    (hfind : fields.find? (·.hasKey key) = some f) (hseen : f.name ∉ seen)
    (hread : f.read v.toNode r = result) :
    Format.entries fields (writtenEntries [(key, v)]) seen r =
      result.map fun r => (f.name :: seen, r) := by
  show Format.entries fields [(some key, v.toNode)] seen r = _
  rw [Format.entries_cons hfind hseen, hread]
  cases result <;> rfl

/-- A text that is left out stands for the empty one. -/
theorem entries_textField {key : String} {f : Field Node ρ} (s : String) (seen : List String)
    (r r' : ρ) (hfind : fields.find? (·.hasKey key) = some f) (hseen : f.name ∉ seen)
    (hread : f.read (Value.text s).toNode r = .ok r') (hempty : s = "" → r = r') :
    ∃ seen', (∀ name, name ∈ seen' → name = f.name ∨ name ∈ seen) ∧ seen ⊆ seen' ∧
      ∀ more, Format.entries fields (writtenEntries (textField key s ++ more)) seen r =
        Format.entries fields (writtenEntries more) seen' r' := by
  unfold textField
  by_cases hs : s = ""
  · refine ⟨seen, fun name => .inr, fun name => id, fun more => ?_⟩
    rw [if_pos (by rw [hs]; rfl), hempty hs, List.nil_append]
  · refine ⟨f.name :: seen, fun name => List.mem_cons.1, List.subset_cons_self _ _, fun more => ?_⟩
    rw [if_neg (by simpa [String.isEmpty_iff] using hs)]
    exact entries_written r' hfind hseen hread

end Records

/-! ## Blocks -/

theorem plus_mem_renderWithOffset (t : Instant) : '+' ∈ t.renderWithOffset.toList := by
  rw [Instant.renderWithOffset, String.toList_ofList, List.mem_append]
  exact .inr (by decide)

namespace ValidationRule

theorem readAfter_toNode {t : Instant} (h : t.IsProper) :
    readAfter Yaml.format (Value.text t.renderWithOffset).toNode =
      if t.HasFourDigitYear then .ok (some t) else .error (.badDate t.renderWithOffset) := by
  have hplus := plus_mem_renderWithOffset t
  have hne : t.renderWithOffset.isEmpty = false := by
    refine Bool.eq_false_iff.2 fun hempty => ?_
    rw [String.isEmpty_iff.1 hempty] at hplus
    exact absurd hplus (by decide)
  have hnull : Yaml.isNull t.renderWithOffset = false := by
    refine Bool.eq_false_iff.2 fun hnull => ?_
    simp only [Yaml.isNull, List.contains_iff_mem, List.mem_cons, List.not_mem_nil,
      or_false] at hnull
    rcases hnull with hnull | hnull | hnull | hnull <;>
    · rw [hnull] at hplus
      exact absurd hplus (by decide)
  have hread : Yaml.format.optional Yaml.format.text (Value.text t.renderWithOffset).toNode =
      .ok (some t.renderWithOffset) := by
    rw [Yaml.optional_toNode_text hne hnull, Yaml.text_toNode]
    rfl
  unfold readAfter
  rw [hread]
  simp only [bind, Except.bind, Instant.ofText_renderWithOffset h]
  by_cases hyear : t.HasFourDigitYear
  · rw [if_pos hyear, if_pos hyear]
    rfl
  · rw [if_neg hyear, if_neg hyear]
    rfl

/-- What is read behind the other fields. -/
theorem entries_after {rule : ValidationRule} (h : rule.IsProper)
    {seen : List String} (hseen : "after" ∉ seen) :
    ∃ seen', seen ⊆ seen' ∧ Format.entries (fields Yaml.format) (writtenEntries
        (rule.after.map fun t => ("after", Value.text t.renderWithOffset)).toList) seen
        { rule with after := none } =
      (unlessFar rule.far? rule).map fun r => (seen', r) := by
  have hafter : (fields Yaml.format).find? (·.hasKey "after") = some _ := rfl
  cases hsome : rule.after with
  | none =>
    have hrule : { rule with after := none } = rule := by rw [← hsome]
    refine ⟨seen, fun name => id, ?_⟩
    rw [hrule, far?, hsome]
    rfl
  | some t =>
    have hrule : { rule with after := some t } = rule := by rw [← hsome]
    refine ⟨"after" :: seen, List.subset_cons_self _ _, entries_last hafter hseen ?_⟩
    dsimp only
    rw [readAfter_toNode (h t hsome), far?, hsome, Option.filter_some]
    by_cases hyear : t.HasFourDigitYear
    · rw [if_pos hyear, if_neg (by simpa using hyear)]
      exact congrArg Except.ok hrule
    · rw [if_neg hyear, if_pos (by simpa using hyear)]
      rfl

/-- A `validate` block is read as it was, unless its instant is in the way. -/
theorem read_toValue {rule : ValidationRule} (h : rule.IsProper) :
    ValidationRule.read Yaml.format rule.toValue.toNode = unlessFar rule.far? rule := by
  have hkind : (fields Yaml.format).find? (·.hasKey "type") = some _ := rfl
  have himageName : (fields Yaml.format).find? (·.hasKey "imageName") = some _ := rfl
  have himageTag : (fields Yaml.format).find? (·.hasKey "imageTag") = some _ := rfl
  have hallow : (fields Yaml.format).find? (·.hasKey "allow") = some _ := rfl
  obtain ⟨seen₁, hmem₁, hsub₁, hname⟩ := entries_textField rule.imageName ["type"]
    { kind := rule.kind } { kind := rule.kind, imageName := rule.imageName }
    himageName (by decide) (by rfl) (fun hempty => by rw [hempty])
  obtain ⟨seen₂, hmem₂, hsub₂, htag⟩ := entries_textField rule.imageTag seen₁
    { kind := rule.kind, imageName := rule.imageName }
    { kind := rule.kind, imageName := rule.imageName, imageTag := rule.imageTag }
    himageTag (fun hmem => by simpa using hmem₁ _ hmem) (by rfl) (fun hempty => by rw [hempty])
  have hnew : ∀ name ∉ ["type", "imageName", "imageTag"], name ∉ seen₂ := by
    intro name hname hmem
    rcases hmem₂ name hmem with rfl | hmem
    · exact hname (by simp)
    · rcases hmem₁ name hmem with rfl | hmem
      · exact hname (by simp)
      · exact hname (by simp [List.mem_singleton.1 hmem])
  have hnewAfter : "after" ∉ "allow" :: seen₂ := by
    simpa using hnew "after" (by decide)
  obtain ⟨seen₃, hsub₃, hafter⟩ := entries_after h hnewAfter
  refine record_toNode ⟨seen₃, ?_, ?_⟩
  · simp [fields, hsub₃ (List.mem_cons_of_mem _ (hsub₂ (hsub₁ List.mem_cons_self)))]
  · rw [List.append_assoc, List.append_assoc, List.append_assoc, List.singleton_append,
      List.singleton_append,
      entries_written { kind := rule.kind } hkind (by decide) ?hread, hname, htag,
      entries_written { rule with after := none } hallow (hnew "allow" (by decide)) ?hflag,
      hafter]
    case hread =>
      dsimp only
      rw [Yaml.oneOf_toNode rule.kind.lookup_name]
      rfl
    case hflag =>
      dsimp only
      rw [Yaml.flag_toNode]
      rfl

end ValidationRule

theorem MutationRule.read_toValue (rule : MutationRule) :
    MutationRule.read Yaml.format rule.toValue.toNode = .ok rule := by
  have hkind : (fields Yaml.format).find? (·.hasKey "type") = some _ := rfl
  have hregistry : (fields Yaml.format).find? (·.hasKey "registry") = some _ := rfl
  have hnewRegistry : (fields Yaml.format).find? (·.hasKey "newRegistry") = some _ := rfl
  obtain ⟨seen₁, hmem₁, hsub₁, hold⟩ := entries_textField rule.registry ["type"]
    { kind := rule.kind } { kind := rule.kind, registry := rule.registry }
    hregistry (by decide) (by rfl) (fun hempty => by rw [hempty])
  obtain ⟨seen₂, -, hsub₂, hnew⟩ := entries_textField rule.newRegistry seen₁
    { kind := rule.kind, registry := rule.registry } rule
    hnewRegistry (fun hmem => by simpa using hmem₁ _ hmem) (by rfl)
    (fun hempty => by rw [← hempty])
  refine record_toNode ⟨seen₂, ?_, ?_⟩
  · simp [fields, hsub₂ (hsub₁ List.mem_cons_self)]
  · rw [List.append_assoc, List.singleton_append,
      entries_written { kind := rule.kind } hkind (by decide) ?hread, hold,
      ← List.append_nil (textField "newRegistry" _), hnew]
    · rfl
    case hread =>
      dsimp only
      rw [Yaml.oneOf_toNode rule.kind.lookup_name]
      rfl

/-! ## Rule files -/

def Rule.declared (r : Rule) : DeclaredRule :=
  match r.body with
  | .validate rule => { name := r.name, validate := some rule }
  | .mutate rule => { name := r.name, mutate := some rule }

theorem Rule.toRule_declared (r : Rule) : r.declared.toRule = .ok r := by
  obtain ⟨name, _ | _⟩ := r <;> rfl

namespace DeclaredRule

/-- A rule is read as it was, unless its instant is in the way. -/
theorem read_toValue {r : Rule} (h : r.IsProper) :
    DeclaredRule.read Yaml.format r.toValue.toNode = unlessFar r.far? r.declared := by
  have hname : (fields Yaml.format).find? (·.hasKey "name") = some _ := rfl
  have hvalidate : (fields Yaml.format).find? (·.hasKey "validate") = some _ := rfl
  have hmutate : (fields Yaml.format).find? (·.hasKey "mutate") = some _ := rfl
  obtain ⟨name, rule | rule⟩ := r
  · refine record_toNode ⟨["validate", "name"], by simp [fields], ?_⟩
    rw [entries_written { name := name } hname (by decide) (by rfl)]
    refine entries_last hvalidate (by decide) ?_
    dsimp only
    rw [ValidationRule.toValue, Yaml.optional_toNode_record, ← ValidationRule.toValue,
      ValidationRule.read_toValue (h rule rfl)]
    have hfar : Rule.far? ⟨name, .validate rule⟩ = rule.far? := rfl
    rw [hfar]
    cases rule.far? <;> rfl
  · refine record_toNode ⟨["mutate", "name"], by simp [fields], ?_⟩
    rw [entries_written { name := name } hname (by decide) (by rfl)]
    refine entries_last hmutate (by decide) ?_
    dsimp only
    rw [MutationRule.toValue, Yaml.optional_toNode_record, ← MutationRule.toValue,
      MutationRule.read_toValue]
    rfl

theorem readFile_fileRecord {rules : List Rule} (h : ∀ r ∈ rules, r.IsProper) :
    readFile Yaml.format (Value.record (Rule.fileRecord rules)).toNode =
      unlessFar (rules.findSome? Rule.far?) (rules.map Rule.declared) := by
  have hrules : (fileFields Yaml.format).find? (·.hasKey "rules") = some _ := rfl
  refine record_toNode ⟨["rules"], by simp [fileFields], ?_⟩
  refine entries_last hrules (by decide) ?_
  dsimp only
  rw [Yaml.list_toNode, List.mapM_map]
  exact mapM_unlessFar fun r hr => read_toValue (h r hr)

end DeclaredRule

namespace Rule

theorem listOfYaml_listToYaml_of_isProper {rules : List Rule} (hproper : ∀ r ∈ rules, r.IsProper)
    (hyaml : Yaml.ReadsBack (fileRecord rules)) :
    listOfYaml (listToYaml rules) =
      match rules.findSome? far? with
      | none => .ok rules
      | some t => .error (.shape (.badDate t.renderWithOffset)) := by
  have hdeclared : (rules.map declared).mapM DeclaredRule.toRule = .ok rules := by
    rw [mapM_eq_ok_iff, List.forall₂_map_left_iff, List.forall₂_same]
    exact fun r _ => r.toRule_declared
  rw [listOfYaml, listToYaml, Yaml.decode_writeDocument hyaml,
    DeclaredRule.readFile_fileRecord hproper]
  cases rules.findSome? far? with
  | none => exact hdeclared
  | some t => rfl

/-- **Rules that were read from a file and are written to a new one are read from it again, all of
them and each as it was; or the new file is refused for the first of their instants that lies outside
the years from 0 to 9999.** -/
theorem listOfYaml_listToYaml {text : String} {rules : List Rule} (h : listOfYaml text = .ok rules)
    (hyaml : Yaml.ReadsBack (fileRecord rules)) :
    listOfYaml (listToYaml rules) =
      match rules.findSome? far? with
      | none => .ok rules
      | some t => .error (.shape (.badDate t.renderWithOffset)) :=
  listOfYaml_listToYaml_of_isProper (isProper_of_listOfYaml h) hyaml

theorem listOfYaml_listToYaml_of_leap_second :
    ∃ rules, listOfYaml
        "rules: [\x7bname: a, validate: \x7btype: Lock, after: 2021-12-31T23:59:60.5+01:00\x7d\x7d]" =
          .ok rules ∧
      Yaml.ReadsBack (fileRecord rules) ∧ listOfYaml (listToYaml rules) = .ok rules := by
  have h : listOfYaml
      "rules: [\x7bname: a, validate: \x7btype: Lock, after: 2021-12-31T23:59:60.5+01:00\x7d\x7d]" =
        .ok [⟨"a", .validate { kind := .lock, after := some ⟨1640991599, 1500000000⟩ }⟩] := by
    decide +kernel
  have hyaml : Yaml.ReadsBack (fileRecord
      [⟨"a", .validate { kind := .lock, after := some ⟨1640991599, 1500000000⟩ }⟩]) := by
    decide +kernel
  exact ⟨_, h, hyaml, listOfYaml_listToYaml h hyaml⟩

/-- A rule file may give a date of any year, and then the file that is written for it is refused. -/
theorem exists_listOfYaml_listToYaml_error :
    ∃ rules, listOfYaml
        "rules: [\x7bname: far, validate: \x7btype: RollingTag, after: +10000-01-01\x7d\x7d]" =
          .ok rules ∧
      Yaml.ReadsBack (fileRecord rules) ∧ listOfYaml (listToYaml rules) =
        .error (.shape (.badDate "+10000-01-01T00:00:00+00:00")) := by
  have h : listOfYaml
      "rules: [\x7bname: far, validate: \x7btype: RollingTag, after: +10000-01-01\x7d\x7d]" =
        .ok [⟨"far", .validate { kind := .rollingTag, after := some ⟨253402300800, 0⟩ }⟩] := by
    decide +kernel
  have hyaml : Yaml.ReadsBack (fileRecord
      [⟨"far", .validate { kind := .rollingTag, after := some ⟨253402300800, 0⟩ }⟩]) := by
    decide +kernel
  have hfar : (Instant.mk 253402300800 0).renderWithOffset = "+10000-01-01T00:00:00+00:00" := by
    decide +kernel
  refine ⟨_, h, hyaml, ?_⟩
  rw [listOfYaml_listToYaml_of_isProper (isProper_of_listOfYaml h) hyaml, ← hfar]
  rfl

end Rule

end ImageGate
