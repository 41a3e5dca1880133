import ImageGate.Rule.Reader
import ImageGate.Proofs.Record.Reading
import ImageGate.Proofs.Time.Stamp
import ImageGate.Proofs.Yaml.ReadBack

/-!
# Rules that were read

Every instant in a rule that was read comes from a text, so it is one that a text can stand for
(`Rule.isProper_of_listOfYaml`).
-/

namespace ImageGate

open Text

variable {α : Type} {fmt : Format α} {v : α}

/-- The instant of a rule is one that a text can stand for. -/
def ValidationRule.IsProper (rule : ValidationRule) : Prop :=
  ∀ t ∈ rule.after, t.IsProper

/-- The instant of a rule, if it has one, is one that a text can stand for. -/
def Rule.IsProper (r : Rule) : Prop :=
  ∀ rule, r.body = .validate rule → rule.IsProper

theorem ValidationRule.isProper_of_readAfter {after : Option Instant}
    (h : readAfter fmt v = .ok after) : ∀ t ∈ after, t.IsProper := by
  obtain ⟨_ | raw, -, hend⟩ := bind_eq_ok_iff.1 h
  · cases hend
    nofun
  · dsimp only at hend
    split at hend
    case h_1 t htext =>
      cases hend
      rintro t ⟨⟩
      exact Instant.isProper_of_ofText htext
    case h_2 => cases hend

theorem ValidationRule.isProper_of_read {rule : ValidationRule}
    (h : ValidationRule.read fmt v = .ok rule) : rule.IsProper := by
  refine Format.holds_of_record ValidationRule.IsProper
    (fun f hf v r r' hr hread => ?_) (by rintro t ⟨⟩) h
  simp only [fields, List.mem_cons, List.not_mem_nil, or_false] at hf
  rcases hf with rfl | rfl | rfl | rfl | rfl
  case inr.inr.inr.inr =>
    obtain ⟨after, hafter, hend⟩ := bind_eq_ok_iff.1 hread
    cases hend
    exact isProper_of_readAfter hafter
  all_goals
    obtain ⟨_, -, hend⟩ := bind_eq_ok_iff.1 hread
    cases hend
    exact hr

namespace DeclaredRule

theorem isProper_of_read {d : DeclaredRule} (h : DeclaredRule.read fmt v = .ok d) :
    ∀ rule ∈ d.validate, rule.IsProper := by
  refine Format.holds_of_record (fun d => ∀ rule ∈ d.validate, rule.IsProper)
    (fun f hf v r r' hr hread => ?_) nofun h
  simp only [fields, List.mem_cons, List.not_mem_nil, or_false] at hf
  rcases hf with rfl | rfl | rfl
  case inr.inl =>
    obtain ⟨block, hblock, hend⟩ := bind_eq_ok_iff.1 hread
    cases hend
    unfold Format.optional at hblock
    split at hblock
    · cases hblock
      nofun
    · obtain ⟨rule, hrule, hsome⟩ := map_eq_ok_iff.1 hblock
      cases hsome
      rintro rule' ⟨⟩
      exact ValidationRule.isProper_of_read hrule
  all_goals
    obtain ⟨_, -, hend⟩ := bind_eq_ok_iff.1 hread
    cases hend
    exact hr

theorem isProper_of_readFile {ds : List DeclaredRule} (h : readFile fmt v = .ok ds) :
    ∀ d ∈ ds, ∀ rule ∈ d.validate, rule.IsProper := by
  refine Format.holds_of_record (fun ds => ∀ d ∈ ds, ∀ rule ∈ d.validate, rule.IsProper)
    (fun f hf v r r' hr hread => ?_) nofun h
  rw [List.mem_singleton.1 hf] at hread
  obtain ⟨items, -, hitems⟩ := bind_eq_ok_iff.1 hread
  intro d hd
  obtain ⟨v, -, hv⟩ := exists_of_mapM_eq_ok hitems hd
  exact isProper_of_read hv

theorem isProper_of_toRule {d : DeclaredRule} {r : Rule} (hd : ∀ rule ∈ d.validate, rule.IsProper)
    (h : d.toRule = .ok r) : r.IsProper := by
  unfold toRule at h
  split at h
  case h_1 rule hvalidate _ =>
    cases h
    rintro rule' ⟨⟩
    exact hd rule hvalidate
  case h_2 =>
    cases h
    nofun
  case h_3 => cases h

end DeclaredRule

/-- **Every instant in the rules of a file is one that a text can stand for.** -/
theorem Rule.isProper_of_listOfYaml {text : String} {rules : List Rule}
    (h : listOfYaml text = .ok rules) : ∀ r ∈ rules, r.IsProper := by
  obtain ⟨declared, hdecode, hrules⟩ := bind_eq_ok_iff.1 h
  obtain ⟨n, hread⟩ := Yaml.exists_of_decode_eq_ok (mapError_eq_ok_iff.1 hdecode)
  have hproper := DeclaredRule.isProper_of_readFile hread
  intro r hr
  obtain ⟨d, hd, hrule⟩ := exists_of_mapM_eq_ok hrules hr
  exact DeclaredRule.isProper_of_toRule (hproper d hd) hrule

end ImageGate
