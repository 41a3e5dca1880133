import ImageGate.Policy.Basic

/-!
# Changing the registry of images

All mutation rules are applied in order to the registry of an image. The result names the image
under the last registry and its tag; a digest is dropped.
-/

namespace ImageGate

/-- What has become of an image. -/
structure Mutated where
  image : String
  /-- The rules that have been applied, or why the image cannot be changed. -/
  rules : List String
deriving DecidableEq, Repr, Inhabited

namespace Mutation

/-- The registry in place of `domain`, if the rule applies to that. -/
def moved? (m : Mutation) (domain : String) : Option String :=
  match m with
  | .give registry => if domain.isEmpty then some registry else none
  | .replace pattern registry => if pattern.isFoundIn domain then some registry else none

end Mutation

namespace Policy

/-- The registry in place of `domain` after all clauses, and the names of the rules applied. -/
def moveDomain (domain : String) : List Clause → String × List String
  | [] => (domain, [])
  | ⟨_, .validate _⟩ :: more => moveDomain domain more
  | ⟨rule, .mutate m⟩ :: more =>
    match m.moved? domain with
    | none => moveDomain domain more
    | some next =>
      let (last, rules) := moveDomain next more
      (last, rule :: rules)

/-- Change the registry of an image. An image that is no reference or has no tag stays as it is. -/
def mutate (p : Policy) (image : String) : Mutated :=
  match Reference.parse image with
  | .error fault => ⟨image, [(Failure.badReference image fault).message]⟩
  | .ok r =>
    match r.tag with
    | none => ⟨image, [(Failure.untagged image).message]⟩
    | some tag =>
      match moveDomain r.domain p.clauses with
      | (_, []) => ⟨image, []⟩
      | (domain, rules) => ⟨(r.withDomain domain).name ++ ":" ++ tag, rules⟩

end Policy

end ImageGate
