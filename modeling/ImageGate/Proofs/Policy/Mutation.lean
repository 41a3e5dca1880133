import ImageGate.Policy.Mutation
import ImageGate.Proofs.Reference.RoundTrip
import ImageGate.Proofs.Text.Reading

/-!
# Moving images to other registries

What becomes of an image is told by the declared mutation rules: `Moves` runs through them from the
registry of the image and says which of them apply. The rules made ready do the same
(`moves_moveDomain`), and validation rules have no say in it (`Moves.unique`).

An image under its new registry is printed and can be read again. Nothing in it can be mistaken: the
new registry has no slash, and neither the name nor the tag has an `@`. So the only thing that can be
wrong with it is its length, which has been checked under the old registry only
(`Reference.parse_moved_iff`).
-/

namespace ImageGate

open Text

def Rule.mutations (rules : List Rule) : List (String × MutationRule) :=
  rules.filterMap fun r =>
    match r.body with
    | .mutate m => some (r.name, m)
    | .validate _ => none

namespace MutationRule

/-- The rule is about images of this registry: one that gives a registry is about images without
one, and one that replaces registries is about those in which its pattern is found. -/
def AppliesTo (m : MutationRule) (domain : String) : Prop :=
  match m.kind with
  | .defaultRegistry => domain = ""
  | .rewriteRegistry => ∃ p, Pattern.parse m.registry = .ok p ∧ p.isFoundIn domain = true

def target (m : MutationRule) : String :=
  match m.kind with
  | .defaultRegistry => m.registry
  | .rewriteRegistry => m.newRegistry

instance (m : MutationRule) (domain : String) : Decidable (m.AppliesTo domain) :=
  decidable_of_iff
    ((m.kind = .defaultRegistry ∧ domain = "") ∨ (m.kind = .rewriteRegistry ∧
      (Pattern.parse m.registry).toOption.any (·.isFoundIn domain) = true)) <| by
    unfold AppliesTo
    cases m.kind <;> cases Pattern.parse m.registry <;> simp [Except.toOption]

end MutationRule

/-- Running through the rules from a registry leads to the last registry, and the rules with these
names have applied. -/
inductive Moves : String → List (String × MutationRule) → String → List String → Prop
  | done {domain : String} : Moves domain [] domain []
  | applied {domain rule last : String} {m : MutationRule} {more : List (String × MutationRule)}
      {names : List String} : m.AppliesTo domain → Moves m.target more last names →
      Moves domain ((rule, m) :: more) last (rule :: names)
  | passed {domain rule last : String} {m : MutationRule} {more : List (String × MutationRule)}
      {names : List String} : ¬ m.AppliesTo domain → Moves domain more last names →
      Moves domain ((rule, m) :: more) last names

/-! ## Running through the rules -/

theorem Moves.unique {domain last last' : String} {rules : List (String × MutationRule)}
    {names names' : List String} (h : Moves domain rules last names)
    (h' : Moves domain rules last' names') : last = last' ∧ names = names' := by
  induction h generalizing names' with
  | done =>
    cases h'
    exact ⟨rfl, rfl⟩
  | applied happlies _ ih =>
    cases h' with
    | applied _ h' =>
      obtain ⟨rfl, rfl⟩ := ih h'
      exact ⟨rfl, rfl⟩
    | passed hnot => exact absurd happlies hnot
  | passed hnot _ ih =>
    cases h' with
    | applied happlies => exact absurd happlies hnot
    | passed _ h' => exact ih h'

/-- A rule made ready puts its registry in place where the rule applies, and else does nothing. -/
theorem Mutation.moved?_eq {rule : String} {m : MutationRule} {ready : Mutation}
    (hready : Mutation.ofRule rule m = .ok ready) (domain : String) :
    (m.AppliesTo domain → ready.moved? domain = some m.target) ∧
      (¬ m.AppliesTo domain → ready.moved? domain = none) := by
  unfold ofRule at hready
  unfold MutationRule.AppliesTo MutationRule.target
  cases hkind : m.kind <;> rw [hkind] at hready <;> dsimp only at hready ⊢
  case defaultRegistry =>
    cases hready
    simp [moved?]
  case rewriteRegistry =>
    obtain ⟨p, hp, rfl⟩ := map_eq_ok_iff.1 hready
    have hp : Pattern.parse m.registry = .ok p := mapError_eq_ok_iff.1 hp
    simp [moved?, hp]

namespace Policy

/-- The clauses made from rules move a registry as the rules do. -/
theorem moves_moveDomain {rules : List Rule} {clauses : List Clause}
    (h : List.Forall₂ (fun r c => Clause.ofRule r = .ok c) rules clauses) (domain : String) :
    Moves domain (Rule.mutations rules) (moveDomain domain clauses).1
      (moveDomain domain clauses).2 := by
  induction h generalizing domain with
  | nil => exact .done
  | @cons rule clause rules clauses hclause _ ih =>
    obtain ⟨label, body⟩ := rule
    cases body with
    | validate r =>
      obtain ⟨v, -, rfl⟩ := map_eq_ok_iff.1 hclause
      exact ih domain
    | mutate m =>
      obtain ⟨ready, hready, rfl⟩ := map_eq_ok_iff.1 hclause
      obtain ⟨happlies, hnot⟩ := Mutation.moved?_eq hready domain
      show Moves domain ((label, m) :: Rule.mutations rules) _ _
      by_cases hm : m.AppliesTo domain
      · rw [moveDomain, happlies hm]
        exact .applied hm (ih m.target)
      · rw [moveDomain, hnot hm]
        exact .passed hm (ih domain)

end Policy

/-! ## Reading the result -/

namespace Reference

/-- A domain that is taken for one where a reference begins with it. -/
def IsRegistry (domain : String) : Prop :=
  IsDomain domain.toList ∧ ('.' ∈ domain.toList ∨ ':' ∈ domain.toList ∨ domain = "localhost")

theorem IsRegistry.ne_empty {domain : String} (h : IsRegistry domain) : domain ≠ "" := by
  rintro rfl
  exact absurd h.2 (by decide)

/-- **An image under another registry is read again exactly if its name is not too long.** -/
theorem parse_moved_iff {domain path tag : String} {again : Reference}
    (hdomain : IsRegistry domain) (hpath : IsPath path.toList) (htag : IsTag tag.toList) :
    parse (domain ++ "/" ++ path ++ ":" ++ tag) = .ok again ↔
      (domain ++ "/" ++ path).utf8ByteSize ≤ 255 ∧ again = ⟨domain, path, some tag, none⟩ := by
  have hname : (Reference.mk domain path (some tag) none).name = domain ++ "/" ++ path := by
    simp [name, hdomain.ne_empty]
  have hrender : domain ++ "/" ++ path ++ ":" ++ tag =
      (Reference.mk domain path (some tag) none).render := by
    simp [render, hname, String.append_assoc]
  have hread (hlength : (domain ++ "/" ++ path).utf8ByteSize ≤ 255) :
      parse (domain ++ "/" ++ path ++ ":" ++ tag) = .ok ⟨domain, path, some tag, none⟩ := by
    rw [hrender]
    refine WellFormed.parse_render
      ⟨.inr hdomain, hpath, fun hempty => absurd hempty hdomain.ne_empty, hname ▸ hlength, ?_, ?_⟩
    · intro t ht
      obtain rfl := Option.some.inj ht
      exact htag
    · intro d hd
      cases hd
  constructor
  · intro h
    obtain ⟨rest, name, hdigest, htagged, -, hlength, -⟩ := ofChars_eq_ok_iff.1 h
    -- The cuts of the reader are where the printer has put the parts together.
    have hchars : (domain ++ "/" ++ path ++ ":" ++ tag).toList =
        (domain ++ "/" ++ path).toList ++ ':' :: tag.toList := by simp
    have hat : '@' ∉ (domain ++ "/" ++ path ++ ":" ++ tag).toList := by
      have hd : '@' ∉ domain.toList := not_mem_of_forall hdomain.1.chars (by decide)
      have hp : '@' ∉ path.toList := not_mem_of_forall hpath.chars (by decide)
      have ht : '@' ∉ tag.toList := not_mem_of_forall htag.chars (by decide)
      simp [hd, hp, ht]
    have hrest : cutDigest (domain ++ "/" ++ path ++ ":" ++ tag).toList =
        ((domain ++ "/" ++ path ++ ":" ++ tag).toList, none) :=
      cutDigest_eq_iff.2 ⟨(List.append_nil _).symm, hat⟩
    obtain rfl : _ = rest := congrArg Prod.fst (hrest.symm.trans hdigest)
    have hcut : cutTag (domain ++ "/" ++ path ++ ":" ++ tag).toList =
        ((domain ++ "/" ++ path).toList, some tag.toList) :=
      cutTag_eq_some_iff.2 ⟨hchars, not_mem_of_forall htag.chars (by decide),
        not_mem_of_forall htag.chars (by decide)⟩
    obtain rfl : _ = name := congrArg Prod.fst (hcut.symm.trans htagged)
    rw [byteLength_toList] at hlength
    exact ⟨hlength, (Except.ok.inj ((hread hlength).symm.trans h)).symm⟩
  · rintro ⟨hlength, rfl⟩
    exact hread hlength

end Reference

/-! ## Main statement -/

theorem Failure.message_badReference (reference : String) (fault : Reference.Fault) :
    (Failure.badReference reference fault).message =
      "Bad image reference: '" ++ reference ++ "': " ++ fault.message :=
  String.append_empty

theorem Failure.message_untagged (reference : String) : (Failure.untagged reference).message =
    "Bad image reference: '" ++ reference ++ "': reference has no tag" :=
  String.append_empty

namespace Policy

variable {p : Policy} {image tag : String} {r : Reference}

theorem mutate_of_error {fault : Reference.Fault} (hread : Reference.parse image = .error fault) :
    p.mutate image = ⟨image, ["Bad image reference: '" ++ image ++ "': " ++ fault.message]⟩ := by
  unfold mutate
  rw [hread, ← Failure.message_badReference]

theorem mutate_of_untagged (hread : Reference.parse image = .ok r) (htag : r.tag = none) :
    p.mutate image = ⟨image, ["Bad image reference: '" ++ image ++ "': reference has no tag"]⟩ := by
  unfold mutate
  rw [hread, ← Failure.message_untagged]
  dsimp only
  rw [htag]

theorem mutate_of_nil (hread : Reference.parse image = .ok r) (htag : r.tag = some tag)
    (hnil : (moveDomain r.domain p.clauses).2 = []) : p.mutate image = ⟨image, []⟩ := by
  unfold mutate
  rw [hread]
  dsimp only
  rw [htag]
  dsimp only
  split
  case h_1 => rfl
  case h_2 hne heq =>
    rw [heq] at hnil
    exact absurd hnil hne

theorem mutate_of_ne (hread : Reference.parse image = .ok r) (htag : r.tag = some tag)
    (hne : (moveDomain r.domain p.clauses).2 ≠ []) :
    p.mutate image = ⟨(r.withDomain (moveDomain r.domain p.clauses).1).name ++ ":" ++ tag,
      (moveDomain r.domain p.clauses).2⟩ := by
  unfold mutate
  rw [hread]
  dsimp only
  rw [htag]
  dsimp only
  split
  case h_1 heq =>
    rw [heq] at hne
    exact absurd rfl hne
  case h_2 heq => rw [heq]

/-- **What becomes of an image.** A text that is no reference or has no tag stays as it is, with the
reason for its only entry. Else the rules that apply on the way from the registry of the image are
told; if there are none the image stays as it is, and if there are some it is put together again from
the last registry, the path and the tag. If that is a registry by its looks, the result is a
reference exactly if its name has at most 255 bytes, and then the one with these three parts.
Validation rules make no difference. -/
theorem mutate_moves {declared : List Rule} {p : Policy} (hp : ofRules declared = .ok p)
    (image : String) :
    (∀ fault, Reference.parse image = .error fault → p.mutate image =
        ⟨image, ["Bad image reference: '" ++ image ++ "': " ++ fault.message]⟩) ∧
      (∀ r, Reference.parse image = .ok r → r.tag = none → p.mutate image =
        ⟨image, ["Bad image reference: '" ++ image ++ "': reference has no tag"]⟩) ∧
      (∀ r tag, Reference.parse image = .ok r → r.tag = some tag →
        ∃ last, Moves r.domain (Rule.mutations declared) last (p.mutate image).rules ∧
          ((p.mutate image).rules = [] → (p.mutate image).image = image) ∧
          ((p.mutate image).rules ≠ [] →
            (p.mutate image).image =
              (if last = "" then r.path else last ++ "/" ++ r.path) ++ ":" ++ tag ∧
            (Reference.IsRegistry last → ∀ again, Reference.parse (p.mutate image).image = .ok again ↔
              (last ++ "/" ++ r.path).utf8ByteSize ≤ 255 ∧
                again = ⟨last, r.path, some tag, none⟩))) ∧
      ∀ others q, ofRules others = .ok q → Rule.mutations others = Rule.mutations declared →
        q.mutate image = p.mutate image := by
  obtain ⟨clauses, hclauses, rfl⟩ := map_eq_ok_iff.1 hp
  have hmoves (domain : String) : Moves domain (Rule.mutations declared) _ _ :=
    moves_moveDomain (mapM_eq_ok_iff.1 hclauses) domain
  refine ⟨fun fault => mutate_of_error, fun r => mutate_of_untagged, fun r tag hread htag => ?_,
    fun others q hq heq => ?_⟩
  · obtain ⟨-, hwell⟩ := Reference.eq_render_and_wellFormed_of_parse hread
    refine ⟨(moveDomain r.domain clauses).1, ?_⟩
    have hmoves := hmoves r.domain
    by_cases hnil : (moveDomain r.domain clauses).2 = []
    · rw [mutate_of_nil hread htag hnil]
      rw [hnil] at hmoves
      exact ⟨hmoves, fun _ => rfl, fun hne => absurd rfl hne⟩
    · rw [mutate_of_ne hread htag hnil]
      refine ⟨hmoves, fun h => absurd h hnil, fun _ => ⟨?_, fun hlast again => ?_⟩⟩
      · simp [Reference.name, Reference.withDomain]
      · have hname : (r.withDomain (moveDomain r.domain clauses).1).name =
            (moveDomain r.domain clauses).1 ++ "/" ++ r.path := by
          simp [Reference.name, Reference.withDomain, hlast.ne_empty]
        rw [hname]
        exact Reference.parse_moved_iff hlast hwell.path (hwell.tag tag htag)
  · obtain ⟨clauses', hclauses', rfl⟩ := map_eq_ok_iff.1 hq
    have hsame (domain : String) : moveDomain domain clauses' = moveDomain domain clauses := by
      have hmoves' := moves_moveDomain (mapM_eq_ok_iff.1 hclauses') domain
      rw [heq] at hmoves'
      obtain ⟨hlast, hnames⟩ := hmoves'.unique (hmoves domain)
      exact Prod.ext hlast hnames
    unfold mutate
    simp only [hsame]

/-- An image without a registry is given one, which the next rule replaces by one with a port. -/
theorem mutate_moves_of_port :
    let declared := [Rule.mk "default" (.mutate { kind := .defaultRegistry, registry := "docker.com" }),
      ⟨"latest", .validate { kind := .latest }⟩,
      ⟨"mirror", .mutate { kind := .rewriteRegistry, registry := "docker"
                           newRegistry := "mirror.local:5000" }⟩]
    ∃ p, ofRules declared = .ok p ∧
      p.mutate "org/app:1.0" = ⟨"mirror.local:5000/org/app:1.0", ["default", "mirror"]⟩ ∧
      Reference.parse "mirror.local:5000/org/app:1.0" =
        .ok ⟨"mirror.local:5000", "org/app", some "1.0", none⟩ := by
  intro declared
  obtain ⟨p, hp⟩ : ∃ p, ofRules declared = .ok p := by
    have hsome : (ofRules declared).toOption.isSome = true := by decide +kernel
    cases hmade : ofRules declared with
    | ok p => exact ⟨p, rfl⟩
    | error fault => simp [hmade, Except.toOption] at hsome
  have hread : Reference.parse "org/app:1.0" = .ok ⟨"", "org/app", some "1.0", none⟩ := by decide
  have hregistry : Reference.IsRegistry "mirror.local:5000" :=
    ⟨Reference.isDomain_iff.1 (by decide), by decide⟩
  have hpath : Moves "" (Rule.mutations declared) "mirror.local:5000" ["default", "mirror"] :=
    .applied rfl (.applied (by decide +kernel) .done)
  obtain ⟨-, -, hmoved, -⟩ := mutate_moves hp "org/app:1.0"
  obtain ⟨last, hmoves, -, himage⟩ := hmoved _ _ hread rfl
  obtain ⟨rfl, hnames⟩ := hpath.unique hmoves
  obtain ⟨hprinted, hagain⟩ := himage (by rw [← hnames]; exact List.cons_ne_nil _ _)
  rw [if_neg hregistry.ne_empty] at hprinted
  refine ⟨_, hp, ?_, ?_⟩
  · exact congrArg₂ Mutated.mk hprinted hnames.symm
  · have hread := (hagain hregistry _).2 ⟨by decide, rfl⟩
    rwa [hprinted] at hread

end Policy

end ImageGate
