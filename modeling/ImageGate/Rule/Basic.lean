import ImageGate.Time.Instant

/-!
# Rules

A rule either validates or mutates. A validation rule allows or denies the images whose name fits a
pattern and whose tag is of a kind; a mutation rule changes the registry that an image is taken
from. Rules are kept as they are declared: patterns and version constraints are texts here.
-/

namespace ImageGate

/-- Which tags a validation rule is about. -/
inductive TagKind where
  | latest
  /-- Tags that are versions within a constraint. -/
  | semVer
  | lock
  /-- Tags that have named different images in the course of time. -/
  | rollingTag
deriving DecidableEq, Repr, Inhabited

/-- A rule that allows or denies images. -/
structure ValidationRule where
  kind : TagKind
  /-- Pattern to be found in the image name; the empty one is found in every name. -/
  imageName : String := ""
  /-- The tag of a lock, or a version constraint. -/
  imageTag : String := ""
  allow : Bool := false
  /-- Reports up to this instant are no evidence of a rolling tag. -/
  after : Option Instant := none
deriving DecidableEq, Repr, Inhabited

/-- How a mutation rule changes a registry. -/
inductive MutationKind where
  /-- Give a registry to images that name none. -/
  | defaultRegistry
  /-- Replace the registries that fit a pattern. -/
  | rewriteRegistry
deriving DecidableEq, Repr, Inhabited

/-- A rule that changes the registry of images. -/
structure MutationRule where
  kind : MutationKind
  /-- The registry that is given, or the pattern of those that are replaced. -/
  registry : String := ""
  /-- The registry that replaces others. -/
  newRegistry : String := ""
deriving DecidableEq, Repr, Inhabited

inductive RuleBody where
  | validate (rule : ValidationRule)
  | mutate (rule : MutationRule)
deriving DecidableEq, Repr, Inhabited

structure Rule where
  name : String
  body : RuleBody
deriving DecidableEq, Repr, Inhabited

/-! ## Names of kinds -/

def TagKind.named : List (String × TagKind) :=
  [("Latest", .latest), ("SemVer", .semVer), ("Lock", .lock), ("RollingTag", .rollingTag)]

def TagKind.name : TagKind → String
  | .latest => "Latest"
  | .semVer => "SemVer"
  | .lock => "Lock"
  | .rollingTag => "RollingTag"

theorem TagKind.lookup_name (k : TagKind) : named.lookup k.name = some k := by
  cases k <;> rfl

def MutationKind.named : List (String × MutationKind) :=
  [("DefaultRegistry", .defaultRegistry), ("RewriteRegistry", .rewriteRegistry)]

def MutationKind.name : MutationKind → String
  | .defaultRegistry => "DefaultRegistry"
  | .rewriteRegistry => "RewriteRegistry"

theorem MutationKind.lookup_name (k : MutationKind) : named.lookup k.name = some k := by
  cases k <;> rfl

end ImageGate
