import ImageGate.Time.Instant

/-!
# Reports

Every node of a cluster reports which images its container runtime holds and how full the file
systems for images are. A report names the reporting agent, the node and the runtime in seven texts;
together they are the identity of the node.

A report is spread out into rows: one for each file system, and one for each pair of a tag and a
digest of an image. An image without digests has one row per tag, and one without tags has none.
-/

namespace ImageGate

/-- Who reports: agent, node and runtime. -/
structure NodeIdentity where
  podname : String := ""
  nodename : String := ""
  agentVersion : String := ""
  kubeApiVersion : String := ""
  runtimeName : String := ""
  runtimeVersion : String := ""
  runtimeApiVersion : String := ""
deriving DecidableEq, Repr, Inhabited

/-- How full a file system is. -/
structure FilesystemUsage where
  /-- Nanoseconds since 1970 began. -/
  timestampNanos : Int := 0
  mountpoint : String := ""
  usedBytes : Nat := 0
  inodesUsed : Nat := 0
deriving DecidableEq, Repr, Inhabited

/-- How an image was asked for. -/
structure ImageSpec where
  image : String := ""
  userSpecifiedImage : String := ""
deriving DecidableEq, Repr, Inhabited

/-- An image that a runtime holds. -/
structure Image where
  id : String := ""
  repoTags : List String := []
  repoDigests : List String := []
  size : Nat := 0
  username : String := ""
  pinned : Bool := false
  uid : Int := 0
  spec : Option ImageSpec := none
deriving DecidableEq, Repr, Inhabited

structure Report where
  runtime : NodeIdentity := {}
  filesystems : List FilesystemUsage := []
  images : List Image := []
deriving DecidableEq, Repr, Inhabited

/-! ## Rows -/

/-- What a row says about a file system. -/
structure FilesystemEntry where
  timestamp : Instant
  mountpoint : String
  usedBytes : Nat
  inodesUsed : Nat
deriving DecidableEq, Repr, Inhabited

/-- What a row says about an image under one tag and one digest. -/
structure ImageEntry where
  id : String
  repoTag : String
  /-- Empty if the image has no digests. -/
  repoDigest : String
  size : Nat
  username : String
  image : String
  userSpecifiedImage : String
  pinned : Bool
  uid : Int
deriving DecidableEq, Repr, Inhabited

def FilesystemUsage.entry (u : FilesystemUsage) : FilesystemEntry :=
  { timestamp := .ofNanos u.timestampNanos, mountpoint := u.mountpoint
    usedBytes := u.usedBytes, inodesUsed := u.inodesUsed }

namespace Image

/-- The digests that an image has rows for. -/
def rowDigests (i : Image) : List String :=
  if i.repoDigests.isEmpty then [""] else i.repoDigests

/-- The row of an image under a tag and a digest. -/
def entry (i : Image) (tag digest : String) : ImageEntry :=
  let spec := i.spec.getD {}
  { id := i.id, repoTag := tag, repoDigest := digest, size := i.size, username := i.username
    image := spec.image, userSpecifiedImage := spec.userSpecifiedImage
    pinned := i.pinned, uid := i.uid }

/-- The rows of an image, tag by tag. -/
def entries (i : Image) : List ImageEntry :=
  i.repoTags.flatMap fun tag => i.rowDigests.map (i.entry tag)

end Image

namespace Report

def filesystemEntries (r : Report) : List FilesystemEntry :=
  r.filesystems.map FilesystemUsage.entry

def imageEntries (r : Report) : List ImageEntry :=
  r.images.flatMap Image.entries

/-- An image has a row for exactly the pairs of one of its tags and one of its digests. -/
theorem mem_imageEntries {r : Report} {e : ImageEntry} :
    e ∈ r.imageEntries ↔
      ∃ i ∈ r.images, ∃ tag ∈ i.repoTags, ∃ digest ∈ i.rowDigests, i.entry tag digest = e := by
  simp [imageEntries, Image.entries]

end Report

end ImageGate
