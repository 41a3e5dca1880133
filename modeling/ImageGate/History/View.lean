import ImageGate.History.Basic

/-!
# Questions to a history

Which nodes are live and what their last report was, and which images a tag has named since an
instant.
-/

namespace ImageGate

structure NodeView where
  node : NodeRow
  images : List ImageRow
  filesystems : List FilesystemRow
deriving DecidableEq, Repr, Inhabited

namespace History

/-- A node with its marked rows, or with all of its rows. -/
def view (h : History) (all : Bool) (n : NodeRow) : NodeView :=
  { node := n
    images := h.images.filter fun r => r.node == n.id && (all || r.inLastReport)
    filesystems := h.filesystems.filter fun r => r.node == n.id && (all || r.inLastReport) }

/-- The nodes with a name, all nodes for the empty name, each with its rows. Unless `all` are asked
for, only nodes seen within `freshness` before `now` and only their last reports count. -/
def report (h : History) (freshness : Span) (now : Instant) (nodename : String) (all : Bool) :
    List NodeView :=
  let liveSince := (now.before freshness).toMicros
  (h.nodes.filter fun n =>
    (nodename.isEmpty || n.identity.nodename == nodename) &&
      (all || liveSince ≤ n.lastSeen)).map (h.view all)

/-- The rows under a tag that were reported after an instant. -/
def evidence (h : History) (tag : String) (after : Instant) : List ImageRow :=
  h.images.filter fun r => r.entry.repoTag == tag && after.toMicros < r.reportedAt

/-- The images that a tag has named after an instant. -/
def idsAfter (h : History) (tag : String) (after : Instant) : List String :=
  distinctTexts ((h.evidence tag after).map (·.entry.id))

/-- The digests that a tag has named after an instant. -/
def digestsAfter (h : History) (tag : String) (after : Instant) : List String :=
  distinctTexts ((h.evidence tag after).map (·.entry.repoDigest))

end History

end ImageGate
