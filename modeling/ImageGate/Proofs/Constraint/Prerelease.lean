import ImageGate.Proofs.Constraint.Demands

/-!
# Which pre-releases are admitted

A version with a pre-release is admitted if, in one alternative, all required comparators allow it,
no excluded one is that version, and one of the required comparators names its release and gives a
pre-release (`parse_prerelease`). What is excluded, and what another alternative requires, does not
count as naming it.
-/

namespace ImageGate.Constraint

open Text Version Comparator

/-! ## What alternatives admit -/

section Admits

variable {v : Version} {required excluded : List Comparator} {c : Comparator}

/-- What is excluded is the one version that an exact match names. -/
theorem admits_exclusion_iff (hc : c.IsProper) (hexact : c.comparison = .exact) (hv : v.IsValid)
    (hpre : v.pre ≠ []) : (⟨[c]⟩ : Requirement).admits v = true ↔ c.IsExactly v := by
  have hallows : c.Allows v ↔ c.given <+: v.parts ∧ v.pre = c.pre := by
    unfold Allows
    rw [hexact]
    exact Iff.rfl
  simp only [Requirement.admits, List.all_cons, List.all_nil, List.any_cons, List.any_nil,
    Bool.and_true, Bool.or_false, Bool.and_eq_true, Bool.or_eq_true, List.isEmpty_iff,
    holds_iff_allows hc hv, namesPreOf_iff hc, hallows, hpre, false_or]
  unfold Names IsExactly
  constructor
  · intro h
    exact ⟨h.2.1, h.1.2⟩
  · intro h
    exact ⟨⟨h.1 ▸ List.prefix_rfl, h.2⟩, h.1, h.2 ▸ hpre⟩

theorem admits_demands_iff (hrequired : ∀ c ∈ required, c.IsProper)
    (hexcluded : ∀ c ∈ excluded, c.IsProper ∧ c.comparison = .exact) (hv : v.IsValid)
    (hpre : v.pre ≠ []) :
    (⟨⟨required⟩, excluded.map fun c => ⟨[c]⟩⟩ : Alternative).admits v = true ↔
      (∀ c ∈ required, c.Allows v) ∧ (∀ c ∈ excluded, ¬ c.IsExactly v) ∧
        ∃ c ∈ required, c.Names v := by
  have hallows : (∀ c ∈ required, c.holds v = true) ↔ ∀ c ∈ required, c.Allows v :=
    forall₂_congr fun c hc => holds_iff_allows (hrequired c hc) hv
  have hnames : (∃ c ∈ required, c.namesPreOf v = true) ↔ ∃ c ∈ required, c.Names v :=
    exists_congr fun c => and_congr_right fun hc => namesPreOf_iff (hrequired c hc)
  have hexactly : (∀ c ∈ excluded, ¬ (⟨[c]⟩ : Requirement).admits v = true) ↔
      ∀ c ∈ excluded, ¬ c.IsExactly v :=
    forall₂_congr fun c hc =>
      (admits_exclusion_iff (hexcluded c hc).1 (hexcluded c hc).2 hv hpre).not
  rw [← hallows, ← hnames, ← hexactly]
  simp [Alternative.admits, Requirement.admits, hpre]
  tauto

end Admits

/-- What one alternative admits of versions with a pre-release. -/
def AdmitsPrerelease (a : List Char) (v : Version) : Prop :=
  ∃ ts required excluded, Tokenized ts a ∧ DemandsAll ts required excluded ∧
    (∀ c ∈ required, c.Allows v) ∧ (∀ c ∈ excluded, ¬ c.IsExactly v) ∧ ∃ c ∈ required, c.Names v

theorem admits_iff_of_readAlternative {a : List Char} {alternative : Alternative} {v : Version}
    (hread : readAlternative a = .ok alternative) (hv : v.IsValid) (hpre : v.pre ≠ []) :
    alternative.admits v = true ↔ AdmitsPrerelease a v := by
  constructor
  · intro h
    obtain ⟨ts, htokens, halternative⟩ := exists_readAlternative_iff.1 ⟨alternative, hread⟩
    obtain ⟨required, excluded, hdemands⟩ := exists_demandsAll_of_isAlternative halternative
    obtain ⟨hrequired, hexcluded⟩ := hdemands.isProper
    rw [hdemands.eq_of_readAlternative htokens hread,
      admits_demands_iff hrequired hexcluded hv hpre] at h
    exact ⟨ts, required, excluded, htokens, hdemands, h⟩
  · intro h
    obtain ⟨ts, required, excluded, htokens, hdemands, h⟩ := h
    obtain ⟨hrequired, hexcluded⟩ := hdemands.isProper
    rw [hdemands.eq_of_readAlternative htokens hread]
    exact (admits_demands_iff hrequired hexcluded hv hpre).2 h

/-- Alternatives are read one by one, and any of them may admit the version. -/
theorem any_admits_iff {texts : List (List Char)} {alternatives : List Alternative} {v : Version}
    (h : List.Forall₂ (fun a alternative => readAlternative a = .ok alternative) texts alternatives)
    (hv : v.IsValid) (hpre : v.pre ≠ []) :
    alternatives.any (·.admits v) = true ↔ ∃ a ∈ texts, AdmitsPrerelease a v := by
  induction h with
  | nil => simp
  | cons hread _ ih =>
    simp only [List.any_cons, Bool.or_eq_true, List.exists_mem_cons_iff, ih,
      admits_iff_of_readAlternative hread hv hpre]

/-! ## Main statement -/

/-- **Which pre-releases a constraint admits.** In one alternative, all required comparators have to
allow the version, no excluded one may be the version itself, and a required one has to name its
release and give a pre-release. So an alternative that requires no comparator with a pre-release
admits no version with one, whatever it excludes and whatever the other alternatives require. -/
theorem parse_prerelease {s : String} {c : Constraint} {v : Version} (hparse : parse s = .ok c)
    (hv : v.IsValid) (hpre : v.pre ≠ []) :
    (c.admits v = true ↔ ∃ a ∈ piecesAt '|' '|' s.toList, AdmitsPrerelease a v) ∧
      ∀ a ∈ piecesAt '|' '|' s.toList, ∀ ts required excluded, Tokenized ts a →
        DemandsAll ts required excluded → (∀ k ∈ required, k.pre = []) →
          ¬ AdmitsPrerelease a v := by
  obtain ⟨alternatives, hread, rfl⟩ := map_eq_ok_iff.1 hparse
  refine ⟨any_admits_iff (mapM_eq_ok_iff.1 hread) hv hpre, ?_⟩
  intro a ha ts required excluded htokens hdemands hnone
  obtain ⟨alternative, halternative⟩ := exists_mapM_eq_ok_iff.1 ⟨alternatives, hread⟩ a ha
  obtain ⟨hrequired, hexcluded⟩ := hdemands.isProper
  rw [← admits_iff_of_readAlternative halternative hv hpre,
    hdemands.eq_of_readAlternative htokens halternative,
    admits_demands_iff hrequired hexcluded hv hpre]
  intro h
  obtain ⟨-, -, k, hk, -, hgiven⟩ := h
  exact hgiven (hnone k hk)

/-- The tenth pre-release comes after the second one, and it is not the excluded one. -/
theorem parse_prerelease_of_tenth : ∃ c, parse ">=v1.25.0-a.2 !=v1.25.0-a.9" = .ok c ∧
    c.admits ⟨1, 25, 0, [['a'], ['1', '0']], []⟩ = true := by
  let lower : Version := ⟨1, 25, 0, [['a'], ['2']], []⟩
  let other : Version := ⟨1, 25, 0, [['a'], ['9']], []⟩
  let v : Version := ⟨1, 25, 0, [['a'], ['1', '0']], []⟩
  let first : Token := ['>', '='] ++ 'v' :: lower.text
  let second : Token := ['!', '='] ++ 'v' :: other.text
  have lowerValid : lower.IsValid := by decide
  have otherValid : other.IsValid := by decide
  have htokens : tokens ">=v1.25.0-a.2 !=v1.25.0-a.9".toList = [first, second] := by decide
  have tokenized := htokens ▸ tokenized_tokens ">=v1.25.0-a.2 !=v1.25.0-a.9".toList
  have letter : 'v' ∈ first ∧ 'v' ∈ second :=
    ⟨List.mem_append_right _ List.mem_cons_self, List.mem_append_right _ List.mem_cons_self⟩
  have glued : Glued [first] first ∧ Glued [second] second :=
    ⟨.one ⟨'v', letter.1, by decide⟩, .one ⟨'v', letter.2, by decide⟩⟩
  have spelled : ['>', '='] ∈ Comparison.greaterEq.spellings := by decide
  have required : IsItem Misread 1 [first] :=
    .require spelled (.prefixed (.full lowerValid)) glued.1
  have excluded : IsItem Misread 0 [second] := .exclude (.prefixed (.full otherValid)) glued.2
  have accepted : IsAlternative Misread [first, second] :=
    .items (.cons required (.cons excluded .nil)) (List.cons_ne_nil _ _) (by decide)
  obtain ⟨c, hparse⟩ := exists_ofChars_iff.2 (.one ⟨[first, second], tokenized, accepted⟩)
  have requires : Demands [first] [ofVersion .greaterEq lower] [] :=
    .require (.operator spelled (List.cons_ne_nil _ _) (.full lowerValid)) glued.1
  have excludes : Demands [second] [] [ofVersion .exact other] :=
    .exclude (.full otherValid) glued.2
  have greater : Identifier.Precedes ['2'] ['1', '0'] :=
    .numbers (by decide) (by decide) (by decide)
  have later : PrePrecedes lower.pre v.pre :=
    .identifiers (List.cons_ne_nil _ _) (.cons (.rel greater))
  refine ⟨c, hparse, (parse_prerelease hparse (by decide) (by decide)).1.2
    ⟨_, by decide, _, _, _, tokenized, .cons requires (.cons excludes .nil), ?_, ?_, ?_⟩⟩
  · exact List.forall_mem_singleton.2 (.inr (.inr ⟨rfl, later⟩))
  · exact List.forall_mem_singleton.2 fun h => absurd h.2 (by decide)
  · exact ⟨_, List.mem_singleton_self _, rfl, by decide⟩

end ImageGate.Constraint
