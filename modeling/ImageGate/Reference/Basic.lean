/-!
# Image references

A reference names a container image: a registry domain (possibly none), a repository path, and
optionally a tag and a digest. Nothing is filled in: a reference without a domain stays without
one, and one without a tag has no tag.
-/

namespace ImageGate

/-- A reference to a container image, split into its four parts. -/
structure Reference where
  /-- Registry host with an optional port; empty when the reference names no registry. -/
  domain : String
  /-- Repository path: components joined by `/`. -/
  path : String
  /-- The tag, if the reference gives one. -/
  tag : Option String
  /-- The digest `algorithm:hex`, if the reference gives one. -/
  digest : Option String
deriving DecidableEq, Repr, Inhabited

namespace Reference

/-- The repository name as written: the path, behind the domain when there is one. -/
def name (r : Reference) : String :=
  if r.domain.isEmpty then r.path else r.domain ++ "/" ++ r.path

/-- The reference as text: name, `:tag`, `@digest`. -/
def render (r : Reference) : String :=
  r.name ++ (r.tag.elim "" (":" ++ ·)) ++ (r.digest.elim "" ("@" ++ ·))

/-- The same reference under another registry domain. -/
def withDomain (r : Reference) (domain : String) : Reference :=
  { r with domain }

/-- The tag that a reference stands for when it gives neither a tag nor a digest. -/
def defaultTag : String := "latest"

/-- The tag that rules look at: the tag, else the digest, else `defaultTag`. -/
def ruleTag (r : Reference) : String :=
  (r.tag.or r.digest).getD defaultTag

@[simp] theorem withDomain_path (r : Reference) (d : String) : (r.withDomain d).path = r.path := rfl
@[simp] theorem withDomain_tag (r : Reference) (d : String) : (r.withDomain d).tag = r.tag := rfl

end Reference

end ImageGate
