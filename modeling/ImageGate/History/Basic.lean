import ImageGate.History.Table
import ImageGate.Report.Basic
import ImageGate.Text.Digits

/-!
# The history of reports

A history keeps a row for every node that reports, a row for every image under a tag and a digest
that a node has ever reported, and a row for every file system. A report marks the rows that it
confirms and takes the mark from the other rows of its node: the marked rows of a node are its last
report. Rows outlive their node.

Nodes are numbered. Numbers are not used twice, and every report that is stored takes one, whether
it makes a new node or not.

Instants are kept in whole microseconds since 1970 began, and counts up to `signedMax`.
-/

namespace ImageGate

/-! ## Rows -/

/-- A node that has reported. -/
structure NodeRow where
  id : Nat
  identity : NodeIdentity
  /-- Instant of the last report. -/
  lastSeen : Int
deriving DecidableEq, Repr, Inhabited

/-- What a row about an image is known by. -/
structure ImageKey where
  node : Nat
  id : String
  repoTag : String
  repoDigest : String
deriving DecidableEq, Repr, Inhabited

/-- By node, then image, tag and digest. -/
def ImageKey.order : ImageKey → ImageKey → Ordering :=
  compareLex (compareOn node) <| compareLex (compareOn id) <|
    compareLex (compareOn repoTag) (compareOn repoDigest)

/-- An image that a node has reported. -/
structure ImageRow where
  node : Nat
  entry : ImageEntry
  /-- Instant of the last report that lists the image. -/
  reportedAt : Int
  /-- The last report of the node lists the image. -/
  inLastReport : Bool
deriving DecidableEq, Repr, Inhabited

def ImageRow.key (r : ImageRow) : ImageKey :=
  { node := r.node, id := r.entry.id, repoTag := r.entry.repoTag
    repoDigest := r.entry.repoDigest }

/-- What a row about a file system is known by. -/
structure FilesystemKey where
  node : Nat
  mountpoint : String
deriving DecidableEq, Repr, Inhabited

/-- By node, then mount point. -/
def FilesystemKey.order : FilesystemKey → FilesystemKey → Ordering :=
  compareLex (compareOn node) (compareOn mountpoint)

/-- A file system that a node has reported. -/
structure FilesystemRow where
  node : Nat
  mountpoint : String
  /-- Instant of the sample. -/
  timestamp : Int
  usedBytes : Nat
  inodesUsed : Nat
  /-- Instant of the last report that lists the file system. -/
  reportedAt : Int
  /-- The last report of the node lists the file system. -/
  inLastReport : Bool
deriving DecidableEq, Repr, Inhabited

def FilesystemRow.key (r : FilesystemRow) : FilesystemKey :=
  { node := r.node, mountpoint := r.mountpoint }

/-- The row of an image that a node reports at an instant. -/
def ImageRow.ofEntry (node : Nat) (now : Int) (e : ImageEntry) : ImageRow :=
  { node, entry := { e with size := min e.size signedMax }, reportedAt := now
    inLastReport := true }

/-- The row of a file system that a node reports at an instant. -/
def FilesystemRow.ofEntry (node : Nat) (now : Int) (e : FilesystemEntry) : FilesystemRow :=
  { node, mountpoint := e.mountpoint, timestamp := e.timestamp.toMicros
    usedBytes := min e.usedBytes signedMax, inodesUsed := min e.inodesUsed signedMax
    reportedAt := now, inLastReport := true }

/-! ## Histories -/

structure History where
  /-- In the order of their numbers. -/
  nodes : List NodeRow := []
  /-- In the order of their keys. -/
  images : List ImageRow := []
  /-- In the order of their keys. -/
  filesystems : List FilesystemRow := []
  /-- The last number that a report has taken. -/
  issued : Nat := 0
deriving DecidableEq, Repr, Inhabited

namespace History

def node? (h : History) (identity : NodeIdentity) : Option NodeRow :=
  h.nodes.find? (·.identity == identity)

/-- Note that a node reports at an instant: it gets a number unless it has one. -/
def enrol (h : History) (now : Int) (identity : NodeIdentity) : Nat × History :=
  let issued := h.issued + 1
  match h.node? identity with
  | some n =>
    let renew (m : NodeRow) := if m.identity == identity then { m with lastSeen := now } else m
    (n.id, { h with nodes := h.nodes.map renew, issued })
  | none =>
    (issued, { h with nodes := h.nodes ++ [{ id := issued, identity, lastSeen := now }], issued })

/-- Take the mark from the rows of a node's file systems. -/
def unmarkFilesystems (h : History) (node : Nat) : History :=
  { h with filesystems := h.filesystems.map fun r =>
      if r.node == node then { r with inLastReport := false } else r }

/-- Take the mark from the rows of a node's images. -/
def unmarkImages (h : History) (node : Nat) : History :=
  { h with images := h.images.map fun r =>
      if r.node == node then { r with inLastReport := false } else r }

def putFilesystem (h : History) (r : FilesystemRow) : History :=
  { h with filesystems := Table.put FilesystemKey.order FilesystemRow.key r h.filesystems }

def putImage (h : History) (r : ImageRow) : History :=
  { h with images := Table.put ImageKey.order ImageRow.key r h.images }

/-- Delete the nodes last seen at or before an instant. -/
def dropNodes (h : History) (upTo : Int) : History :=
  { h with nodes := h.nodes.filter fun n => upTo < n.lastSeen }

/-- Delete the rows of images last confirmed at or before an instant. -/
def dropImages (h : History) (upTo : Int) : History :=
  { h with images := h.images.filter fun r => upTo < r.reportedAt }

/-- Delete the rows of file systems last confirmed at or before an instant. -/
def dropFilesystems (h : History) (upTo : Int) : History :=
  { h with filesystems := h.filesystems.filter fun r => upTo < r.reportedAt }

end History

end ImageGate
