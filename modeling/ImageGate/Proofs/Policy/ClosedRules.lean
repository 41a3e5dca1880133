import ImageGate.Proofs.Policy.Mutation

/-!
# Closed lists of mutation rules

Mutation rules see what the rules in front of them have put in place, so a list of them may move an
image again and again. It does not if no rule is about a registry that a rule puts in place
(`Rule.Closed`): once a rule has applied, all rules behind it pass (`Moves.cases_of_closed`), and
when the result is changed once more, all rules pass (`Policy.mutate_mutate`).

For that the result has to be read back with the registry that has been put in place, which is where
registries have to look like registries and names must not be too long.
-/

namespace ImageGate

open Text

instance (domain : String) : Decidable (Reference.IsRegistry domain) :=
  decidable_of_iff (Reference.isDomain domain.toList = true ∧
      ('.' ∈ domain.toList ∨ ':' ∈ domain.toList ∨ domain = "localhost"))
    (and_congr_left fun _ => Reference.isDomain_iff)

/-- No mutation rule of a list is about a registry that one of them puts in place, and these
registries are taken for registries where a reference begins with them. -/
structure Rule.Closed (rules : List (String × MutationRule)) : Prop where
  isRegistry : ∀ m ∈ rules, Reference.IsRegistry m.2.target
  not_replaced : ∀ m ∈ rules, ∀ k ∈ rules, k.2.kind = .rewriteRegistry →
    ¬ k.2.AppliesTo m.2.target

/-- A registry is given only where there is none. -/
theorem MutationRule.not_appliesTo_of_ne_empty {m : MutationRule} {domain : String}
    (hkind : m.kind = .defaultRegistry) (hdomain : domain ≠ "") : ¬ m.AppliesTo domain := by
  simpa [AppliesTo, hkind] using hdomain

/-- No rule of a closed list is about a registry that one of them puts in place. -/
theorem Rule.Closed.not_appliesTo {rules : List (String × MutationRule)} (h : Rule.Closed rules)
    {m k : String × MutationRule} (hm : m ∈ rules) (hk : k ∈ rules) :
    ¬ k.2.AppliesTo m.2.target := by
  cases hkind : k.2.kind with
  | defaultRegistry =>
    exact MutationRule.not_appliesTo_of_ne_empty hkind (h.isRegistry m hm).ne_empty
  | rewriteRegistry => exact h.not_replaced m hm k hk hkind

/-! ## Running through closed rules -/

namespace Moves

variable {domain last : String} {rules : List (String × MutationRule)} {names : List String}

theorem of_forall_not (h : ∀ m ∈ rules, ¬ m.2.AppliesTo domain) : Moves domain rules domain [] := by
  induction rules with
  | nil => exact .done
  | cons m rules ih =>
    obtain ⟨hm, hrules⟩ := List.forall_mem_cons.1 h
    exact .passed hm (ih hrules)

/-- **Of closed rules at most one applies**, and what it puts in place stays. -/
theorem cases_of_closed (h : Moves domain rules last names)
    (hclosed : ∀ m ∈ rules, ∀ k ∈ rules, ¬ k.2.AppliesTo m.2.target) :
    (names = [] ∧ last = domain) ∨ ∃ m ∈ rules, names = [m.1] ∧ last = m.2.target := by
  induction h with
  | done => exact .inl ⟨rfl, rfl⟩
  | @applied _ rule _ m more _ _ hmore _ =>
    have hpass : Moves m.target more m.target [] := .of_forall_not fun k hk =>
      hclosed (rule, m) List.mem_cons_self k (List.mem_cons_of_mem _ hk)
    obtain ⟨rfl, rfl⟩ := hmore.unique hpass
    exact .inr ⟨(rule, m), List.mem_cons_self, rfl, rfl⟩
  | passed _ _ ih =>
    rcases ih fun m hm k hk => hclosed m (List.mem_cons_of_mem _ hm) k (List.mem_cons_of_mem _ hk)
      with hnone | ⟨m, hm, hone⟩
    · exact .inl hnone
    · exact .inr ⟨m, List.mem_cons_of_mem _ hm, hone⟩

end Moves

/-! ## Main statement -/

namespace Policy

variable {declared : List Rule} {p : Policy} {image tag domain last : String} {r : Reference}

/-- The declared rules tell what the rules made ready make of a registry. -/
theorem moves_of_ofRules (hp : ofRules declared = .ok p) (domain : String) :
    Moves domain (Rule.mutations declared) (moveDomain domain p.clauses).1
      (moveDomain domain p.clauses).2 := by
  obtain ⟨clauses, hclauses, rfl⟩ := map_eq_ok_iff.1 hp
  exact moves_moveDomain (mapM_eq_ok_iff.1 hclauses) domain

/-- **Closed rules change an image once.** At most one of them applies to an image with a tag, and if
the name of the result has at most 255 bytes, changing the result once more leaves it as it is, and
no rule applies. -/
theorem mutate_mutate (hp : ofRules declared = .ok p)
    (hclosed : Rule.Closed (Rule.mutations declared)) (hread : Reference.parse image = .ok r)
    (htag : r.tag = some tag) :
    ∃ last, Moves r.domain (Rule.mutations declared) last (p.mutate image).rules ∧
      (p.mutate image).rules.length ≤ 1 ∧
      ((r.withDomain last).name.utf8ByteSize ≤ 255 →
        p.mutate (p.mutate image).image = ⟨(p.mutate image).image, []⟩) := by
  have hmoves := moves_of_ofRules hp r.domain
  refine ⟨(moveDomain r.domain p.clauses).1, ?_⟩
  rcases hmoves.cases_of_closed fun m hm k hk => hclosed.not_appliesTo hm hk with
    ⟨hnone, -⟩ | ⟨m, hm, hone, hlast⟩
  · have hsame : p.mutate image = ⟨image, []⟩ := mutate_of_nil hread htag hnone
    rw [hnone] at hmoves
    rw [hsame]
    exact ⟨hmoves, Nat.zero_le 1, fun _ => hsame⟩
  · have hmoved := mutate_of_ne hread htag (hone ▸ List.cons_ne_nil m.1 [])
    have hregistry : Reference.IsRegistry m.2.target := hclosed.isRegistry m hm
    have hname : (r.withDomain m.2.target).name = m.2.target ++ "/" ++ r.path := by
      simp [Reference.name, Reference.withDomain, hregistry.ne_empty]
    rw [hone, hlast] at hmoves
    rw [hone, hlast, hname] at hmoved
    rw [hmoved, hlast, hname]
    refine ⟨hmoves, Nat.le_refl 1, fun hlength => ?_⟩
    obtain ⟨-, hwell⟩ := Reference.eq_render_and_wellFormed_of_parse hread
    have hagain := (Reference.parse_moved_iff hregistry hwell.path (hwell.tag tag htag)).2
      ⟨hlength, rfl⟩
    -- The second time the image starts from the registry that has been put in place.
    have hpass := (moves_of_ofRules hp m.2.target).unique
      (.of_forall_not fun k hk => hclosed.not_appliesTo hm hk)
    exact mutate_of_nil hagain rfl hpass.2

/-- Of three rules the one for the image's registry applies, and none of them is about the registry
that it puts in place. -/
theorem mutate_mutate_of_mirror :
    let declared := [Rule.mk "default" (.mutate { kind := .defaultRegistry, registry := "docker.io" }),
      ⟨"mirror", .mutate { kind := .rewriteRegistry, registry := "^gcr"
                           newRegistry := "mirror.local:5000" }⟩,
      ⟨"old", .mutate { kind := .rewriteRegistry, registry := "old", newRegistry := "localhost" }⟩]
    ∃ p, ofRules declared = .ok p ∧
      p.mutate "gcr.io/org/app:1.0" = ⟨"mirror.local:5000/org/app:1.0", ["mirror"]⟩ ∧
      p.mutate "mirror.local:5000/org/app:1.0" = ⟨"mirror.local:5000/org/app:1.0", []⟩ := by
  intro declared
  have hmade : (ofRules declared).toOption.map (·.mutate "gcr.io/org/app:1.0") =
      some ⟨"mirror.local:5000/org/app:1.0", ["mirror"]⟩ := by decide +kernel
  obtain ⟨p, hp, hfirst⟩ := Option.map_eq_some_iff.1 hmade
  have hp : ofRules declared = .ok p := toOption_eq_some_iff.1 hp
  have hclosed : Rule.Closed (Rule.mutations declared) := ⟨by decide +kernel, by decide +kernel⟩
  have hread : Reference.parse "gcr.io/org/app:1.0" = .ok ⟨"gcr.io", "org/app", some "1.0", none⟩ := by
    decide
  have hpath : Moves "gcr.io" (Rule.mutations declared) "mirror.local:5000" ["mirror"] :=
    .passed (by decide) (.applied (by decide +kernel) (.passed (by decide +kernel) .done))
  obtain ⟨last, hmoves, -, hagain⟩ := mutate_mutate hp hclosed hread rfl
  obtain ⟨rfl, -⟩ := hpath.unique hmoves
  have hsecond := hagain (by decide)
  rw [hfirst] at hsecond
  exact ⟨p, hp, hfirst, hsecond⟩

end Policy

end ImageGate
