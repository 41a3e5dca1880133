import ImageGate.History.View
import ImageGate.Json.Printer
import ImageGate.Time.Rfc3339

/-!
# Histories as JSON

Nodes with their rows, as they are shown to other programs.
-/

namespace ImageGate

namespace NodeIdentity

def jsonEntries (n : NodeIdentity) : List (String × Json) :=
  [("podname", .text n.podname), ("nodename", .text n.nodename),
    ("agent_version", .text n.agentVersion), ("kube_api_version", .text n.kubeApiVersion),
    ("runtime_name", .text n.runtimeName), ("runtime_version", .text n.runtimeVersion),
    ("runtime_api_version", .text n.runtimeApiVersion)]

end NodeIdentity

def ImageEntry.jsonEntries (e : ImageEntry) : List (String × Json) :=
  [("id", .text e.id), ("repo_tag", .text e.repoTag), ("repo_digest", .text e.repoDigest),
    ("size", .int e.size), ("username", .text e.username), ("image", .text e.image),
    ("user_specified_image", .text e.userSpecifiedImage), ("pinned", .bool e.pinned),
    ("uid", .int e.uid)]

/-- An instant in microseconds as a time stamp. -/
def Json.stamp (micros : Int) : Json :=
  .text (Instant.ofMicros micros).render

def ImageRow.toJson (r : ImageRow) : Json :=
  .record <|
    [("node_id", .int r.node)] ++ r.entry.jsonEntries ++
      [("reported_at", .stamp r.reportedAt), ("seen_in_last_report", .bool r.inLastReport)]

def FilesystemRow.toJson (r : FilesystemRow) : Json :=
  .record
    [("node_id", .int r.node), ("timestamp", .stamp r.timestamp),
      ("mountpoint", .text r.mountpoint), ("used_bytes", .int r.usedBytes),
      ("inodes_used", .int r.inodesUsed), ("reported_at", .stamp r.reportedAt),
      ("seen_in_last_report", .bool r.inLastReport)]

def NodeView.toJson (v : NodeView) : Json :=
  .record <|
    [("id", .int v.node.id)] ++ v.node.identity.jsonEntries ++
      [("last_seen", .stamp v.node.lastSeen), ("images", .array (v.images.map ImageRow.toJson)),
        ("image_filesystems", .array (v.filesystems.map FilesystemRow.toJson))]

end ImageGate
