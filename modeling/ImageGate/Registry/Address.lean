import ImageGate.Reference.Parser
import ImageGate.Unicode.Trait

/-!
# Addresses at registries

What a registry can be asked for. The form is that of image references, with three differences: what
stands before the first slash may be a registry even if it looks like a path, a tag may hold letters
of any alphabet, and of the digests only those of the SHA-2 family in their full length are known.
-/

namespace ImageGate.Registry

open Text

/-- Why a registry cannot be asked for an image. -/
inductive Fault where
  | empty
  | form
  | tooLong
  | digestLength
  | digestKind
deriving DecidableEq, Repr

def Fault.message : Fault → String
  | .empty => "repository name must have at least one component"
  | .form => "invalid reference format"
  | .tooLong => "repository name must not be more than 255 characters"
  | .digestLength => "digest is invalid length"
  | .digestKind => "unsupported digest algorithm"

/-- A path, or a host before a path. -/
def isName (cs : List Char) : Bool :=
  Reference.isPath cs ||
    match cutFirst? '/' cs with
    | some (host, path) => Reference.isDomain host && Reference.isPath path
    | none => false

/-- A character of a word in any alphabet. -/
def isWordChar (c : Char) : Bool :=
  Unicode.wordChars.contains c

/-- A tag: up to 128 word characters, dots and dashes, of which the first is a word character. -/
def isTag : List Char → Bool
  | [] => false
  | c :: cs =>
    isWordChar c && cs.length < 128 && cs.all fun c => isWordChar c || c == '.' || c == '-'

/-- The registry that is asked if none is named. -/
def defaultHost : List Char := "docker.io".toList

/-- The path at the registry. Names without a directory of the default registry lie in `library`. -/
def pathOf (name : List Char) : List Char :=
  let (host, path) :=
    match cutFirst? '/' name with
    | some (host, path) =>
      if host.contains '.' || host.contains ':' || host == "localhost".toList then (host, path)
      else (defaultHost, name)
    | none => (defaultHost, name)
  if (host == defaultHost || host == "index.docker.io".toList) && !path.contains '/' then
    "library/".toList ++ path
  else path

/-- The number of digits of a digest by its kind. -/
def digestLengths : List (List Char × Nat) :=
  [("sha256".toList, 64), ("sha384".toList, 96), ("sha512".toList, 128)]

/-- Why a digest is not known. -/
def digestFault? (digest : List Char) : Option Fault :=
  match cutFirst? ':' digest with
  | none => some .form
  | some (kind, digits) =>
    match digestLengths.lookup kind with
    | none => some .digestKind
    | some n => if digits.length = n then none else some .digestLength

/-- Why an address is refused; `none` if a registry can be asked. -/
def fault? (address : String) : Option Fault :=
  let cs := address.toList
  let (nameAndTag, digest) := Reference.cutDigest cs
  let (name, tag) := Reference.cutTag nameAndTag
  if cs.isEmpty then some .empty
  else if !(digest.all Reference.isDigest && tag.all isTag && isName name) then some .form
  else if Reference.nameMax < (pathOf name).length then some .tooLong
  else digest.bind digestFault?

/-! ## Credentials -/

/-- What a registry is told about who asks. -/
inductive Login where
  | anonymous
  | basic (user password : String)
deriving DecidableEq, Repr

/-- Credentials count only if both parts are given. -/
def Login.ofParts : Option String → Option String → Login
  | some user, some password => .basic user password
  | _, _ => .anonymous

end ImageGate.Registry
