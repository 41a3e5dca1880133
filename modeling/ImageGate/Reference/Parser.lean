import ImageGate.Reference.Basic
import ImageGate.Reference.Grammar

/-!
# Reading image references

A reference is cut four times: at the first `@` (the digest follows), at the last colon behind the
last slash (the tag follows), and at the first slash if what stands before it looks like a domain.
Each part is then held against its grammar. When several parts are at fault, the digest is
reported before the tag, the tag before the length of the name, and the domain before the path.
-/

namespace ImageGate.Reference

open Text

/-- Why a text is not an image reference. -/
inductive Fault where
  | empty
  | digest
  | tag
  | tooLong
  | domain
  | upperCase
  | path
deriving DecidableEq, Repr

def Fault.message : Fault → String
  | .empty => "repository name must have at least one component"
  | .digest => "invalid digest format, expected algorithm:hex"
  | .tag => "invalid tag format"
  | .tooLong => "repository name must not be more than 255 characters"
  | .domain => "invalid registry domain"
  | .upperCase => "repository name must be lowercase"
  | .path => "invalid repository name"

/-! ## The cuts -/

/-- Name with tag, and digest. -/
def cutDigest (cs : List Char) : List Char × Option (List Char) :=
  match cutFirst? '@' cs with
  | some (rest, digest) => (rest, some digest)
  | none => (cs, none)

/-- Name and tag: the tag stands behind the last colon, unless a slash follows that colon. -/
def cutTag (cs : List Char) : List Char × Option (List Char) :=
  match cutLast? ':' cs with
  | some (name, tag) => if tag.contains '/' then (cs, none) else (name, some tag)
  | none => (cs, none)

/-- Domain and path: the domain is empty unless the part before the first slash looks like one. -/
def cutDomain (cs : List Char) : List Char × List Char :=
  match cutFirst? '/' cs with
  | some (first, rest) => if looksLikeDomain first then (first, rest) else ([], cs)
  | none => ([], cs)

/-! ## Reading -/

def ofChars (cs : List Char) : Except Fault Reference :=
  let (nameAndTag, digest) := cutDigest cs
  let (name, tag) := cutTag nameAndTag
  let (domain, path) := cutDomain name
  if cs.isEmpty then .error .empty
  else if !digest.all isDigest then .error .digest
  else if !tag.all isTag then .error .tag
  else if nameMax < byteLength name then .error .tooLong
  else if !(domain.isEmpty || isDomain domain) then .error .domain
  else if path.any Char.isUpper then .error .upperCase
  else if !isPath path then .error .path
  else .ok
    { domain := String.ofList domain, path := String.ofList path
      tag := tag.map String.ofList, digest := digest.map String.ofList }

def parse (s : String) : Except Fault Reference :=
  ofChars s.toList

/-- The name and tag that rules look at. A text that is no reference has neither: both are empty,
so that rules can still be asked about it. -/
def nameAndTag (s : String) : String × String :=
  match parse s with
  | .ok r => (r.name, r.ruleTag)
  | .error _ => ("", "")

end ImageGate.Reference
