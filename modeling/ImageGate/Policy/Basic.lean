import ImageGate.Constraint.Parser
import ImageGate.Failure
import ImageGate.Pattern.Parser
import ImageGate.Pattern.Search
import ImageGate.Rule.Basic

/-!
# Policies

A policy is a list of rules made ready: patterns and version constraints are read once. A rule whose
pattern or constraint cannot be read makes no policy.
-/

namespace ImageGate

/-- What a validation rule asks of a tag. -/
inductive TagTest where
  | latest
  | lock (tag : String)
  | within (constraint : Constraint)
  /-- The tag has named different images after an instant. -/
  | rolling (after : Instant)
deriving Repr

/-- A validation rule made ready. -/
structure Validation where
  /-- To be found in the image name; `none` fits every name. -/
  name : Option Pattern
  tag : TagTest
  allow : Bool
deriving Repr

/-- A mutation rule made ready. -/
inductive Mutation where
  /-- Give a registry to images that name none. -/
  | give (registry : String)
  /-- Replace the registries in which the pattern is found. -/
  | replace (pattern : Pattern) (registry : String)
deriving Repr

/-- What a rule made ready does. -/
inductive Action where
  | validate (v : Validation)
  | mutate (m : Mutation)
deriving Repr

/-- A rule made ready. -/
structure Clause where
  rule : String
  action : Action
deriving Repr

/-- Rules made ready, in order. -/
structure Policy where
  clauses : List Clause
deriving Repr

/-! ## Making rules ready -/

def Rule.readPattern (rule pattern : String) : Except Failure Pattern :=
  (Pattern.parse pattern).mapError (.badPattern rule pattern)

def Rule.readConstraint (rule constraint : String) : Except Failure Constraint :=
  (Constraint.parse constraint).mapError (.badConstraint rule constraint)

def TagTest.ofRule (rule : String) (r : ValidationRule) : Except Failure TagTest :=
  match r.kind with
  | .latest => .ok .latest
  | .lock => .ok (.lock r.imageTag)
  | .semVer => (Rule.readConstraint rule r.imageTag).map .within
  | .rollingTag => .ok (.rolling (r.after.getD .epoch))

/-- Make a validation rule ready. The pattern is read before the constraint. -/
def Validation.ofRule (rule : String) (r : ValidationRule) : Except Failure Validation := do
  let name ← if r.imageName.isEmpty then pure none else some <$> Rule.readPattern rule r.imageName
  let tag ← TagTest.ofRule rule r
  return { name, tag, allow := r.allow }

def Mutation.ofRule (rule : String) (r : MutationRule) : Except Failure Mutation :=
  match r.kind with
  | .defaultRegistry => .ok (.give r.registry)
  | .rewriteRegistry => (Rule.readPattern rule r.registry).map (.replace · r.newRegistry)

def Clause.ofRule (r : Rule) : Except Failure Clause :=
  match r.body with
  | .validate v => (Validation.ofRule r.name v).map fun v => ⟨r.name, .validate v⟩
  | .mutate m => (Mutation.ofRule r.name m).map fun m => ⟨r.name, .mutate m⟩

/-- Make rules ready; the first one that cannot be read is reported. -/
def Policy.ofRules (rules : List Rule) : Except Failure Policy :=
  (rules.mapM Clause.ofRule).map (⟨·⟩)

end ImageGate
