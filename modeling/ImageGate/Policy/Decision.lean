import ImageGate.Policy.Basic
import ImageGate.Policy.Rolling
import ImageGate.Version.Parser

/-!
# Deciding about images

The first validation rule that fits an image decides about it; an image that no rule fits is denied.
Rules behind the deciding one are not looked at, so no registry is asked on their behalf.
-/

namespace ImageGate

/-- Whether an image is allowed, and by which rule. -/
structure Decision where
  allowed : Bool
  rule : String
deriving DecidableEq, Repr, Inhabited

def Decision.noRule : Decision :=
  ⟨false, "<No Rules>"⟩

/-- The tag passes the test; also what the inspector has been asked for. -/
def TagTest.passes (t : TagTest) (sources : Sources) (name tag : String) : Bool × List String :=
  match t with
  | .latest => (tag == Reference.defaultTag, [])
  | .lock locked => (tag == locked, [])
  | .within constraint => ((Version.ofTag tag).any constraint.admits, [])
  | .rolling after =>
    match sources.history with
    | none => (false, [])
    | some archive => Rolling.check archive sources.inspector after name tag

namespace Validation

/-- The rule is about images of this name. -/
def coversName (v : Validation) (name : String) : Bool :=
  v.name.all (·.isFoundIn name)

/-- The rule fits the image; also what the inspector has been asked for. The tag is tested only if
the name fits. -/
def fits (v : Validation) (sources : Sources) (name tag : String) : Bool × List String :=
  if v.coversName name then v.tag.passes sources name tag else (false, [])

end Validation

namespace Policy

/-- The decision of the first clause that fits, and what the inspector has been asked for. -/
def firstFit (sources : Sources) (name tag : String) : List Clause → Decision × List String
  | [] => (.noRule, [])
  | ⟨rule, .validate v⟩ :: more =>
    match v.fits sources name tag with
    | (true, asked) => (⟨v.allow, rule⟩, asked)
    | (false, asked) =>
      let (decision, later) := firstFit sources name tag more
      (decision, asked ++ later)
  | ⟨_, .mutate _⟩ :: more => firstFit sources name tag more

/-- The decision about an image, and what the inspector has been asked for. -/
def validate (p : Policy) (sources : Sources) (image : String) : Decision × List String :=
  let (name, tag) := Reference.nameAndTag image
  firstFit sources name tag p.clauses

end Policy

end ImageGate
