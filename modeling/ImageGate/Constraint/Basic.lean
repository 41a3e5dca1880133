import ImageGate.Constraint.Comparator

/-!
# Version constraints

A constraint is a list of alternatives, one of which has to admit a version. An alternative admits
what its requirement admits, less what it excludes.
-/

namespace ImageGate

structure Alternative where
  required : Requirement
  excluded : List Requirement
deriving DecidableEq, Repr

/-- What the alternative requires and none of what it excludes. -/
def Alternative.admits (a : Alternative) (v : Version) : Bool :=
  a.required.admits v && !a.excluded.any (·.admits v)

/-- A version range. -/
structure Constraint where
  alternatives : List Alternative
deriving DecidableEq, Repr

def Constraint.admits (c : Constraint) (v : Version) : Bool :=
  c.alternatives.any (·.admits v)

end ImageGate
