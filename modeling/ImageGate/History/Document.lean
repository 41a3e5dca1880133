import ImageGate.History.Fault
import ImageGate.History.Json
import ImageGate.Record.Document
import ImageGate.Report.Reader

/-!
# The file of a history

A history is kept as a JSON document with its three tables and the last number taken. The document
is recognised by that number, without which it is something else.
-/

namespace ImageGate

/-! ## Writing -/

def NodeRow.toDocument (n : NodeRow) : Json :=
  .record
    [("id", .int n.id),
      ("runtime", .record
        [("podname", .text n.identity.podname), ("nodename", .text n.identity.nodename),
          ("agentVersion", .text n.identity.agentVersion),
          ("kubeApiVersion", .text n.identity.kubeApiVersion),
          ("runtimeName", .text n.identity.runtimeName),
          ("runtimeVersion", .text n.identity.runtimeVersion),
          ("runtimeApiVersion", .text n.identity.runtimeApiVersion)]),
      ("lastSeen", .int n.lastSeen)]

def ImageRow.toDocument (r : ImageRow) : Json :=
  .record
    [("node", .int r.node), ("entry", .record r.entry.jsonEntries),
      ("reportedAt", .int r.reportedAt), ("inLastReport", .bool r.inLastReport)]

def FilesystemRow.toDocument (r : FilesystemRow) : Json :=
  .record
    [("node", .int r.node), ("mountpoint", .text r.mountpoint), ("timestamp", .int r.timestamp),
      ("usedBytes", .int r.usedBytes), ("inodesUsed", .int r.inodesUsed),
      ("reportedAt", .int r.reportedAt), ("inLastReport", .bool r.inLastReport)]

def History.toDocument (h : History) : Json :=
  .record
    [("issued", .int h.issued), ("nodes", .array (h.nodes.map NodeRow.toDocument)),
      ("images", .array (h.images.map ImageRow.toDocument)),
      ("filesystems", .array (h.filesystems.map FilesystemRow.toDocument))]

/-! ## Reading -/

variable {α : Type} (fmt : Format α)

def NodeRow.fields : List (Field α NodeRow) :=
  [{ name := "id", required := true, read := fun v r => do return { r with id := ← fmt.nat v } },
    { name := "runtime"
      read := fun v r => do
        return { r with identity := ← fmt.record (NodeIdentity.fields fmt) {} v } },
    { name := "lastSeen", read := fun v r => do return { r with lastSeen := ← fmt.int v } }]

def ImageEntry.fields : List (Field α ImageEntry) :=
  [{ name := "id", read := fun v r => do return { r with id := ← fmt.text v } },
    { name := "repo_tag", read := fun v r => do return { r with repoTag := ← fmt.text v } },
    { name := "repo_digest", read := fun v r => do return { r with repoDigest := ← fmt.text v } },
    { name := "size", read := fun v r => do return { r with size := ← fmt.nat v } },
    { name := "username", read := fun v r => do return { r with username := ← fmt.text v } },
    { name := "image", read := fun v r => do return { r with image := ← fmt.text v } },
    { name := "user_specified_image"
      read := fun v r => do return { r with userSpecifiedImage := ← fmt.text v } },
    { name := "pinned", read := fun v r => do return { r with pinned := ← fmt.flag v } },
    { name := "uid", read := fun v r => do return { r with uid := ← fmt.int v } }]

def ImageRow.fields : List (Field α ImageRow) :=
  [{ name := "node", required := true
     read := fun v r => do return { r with node := ← fmt.nat v } },
    { name := "entry"
      read := fun v r => do
        return { r with entry := ← fmt.record (ImageEntry.fields fmt) default v } },
    { name := "reportedAt", read := fun v r => do return { r with reportedAt := ← fmt.int v } },
    { name := "inLastReport"
      read := fun v r => do return { r with inLastReport := ← fmt.flag v } }]

def FilesystemRow.fields : List (Field α FilesystemRow) :=
  [{ name := "node", required := true
     read := fun v r => do return { r with node := ← fmt.nat v } },
    { name := "mountpoint", read := fun v r => do return { r with mountpoint := ← fmt.text v } },
    { name := "timestamp", read := fun v r => do return { r with timestamp := ← fmt.int v } },
    { name := "usedBytes", read := fun v r => do return { r with usedBytes := ← fmt.nat v } },
    { name := "inodesUsed", read := fun v r => do return { r with inodesUsed := ← fmt.nat v } },
    { name := "reportedAt", read := fun v r => do return { r with reportedAt := ← fmt.int v } },
    { name := "inLastReport"
      read := fun v r => do return { r with inLastReport := ← fmt.flag v } }]

namespace History

def fields : List (Field α History) :=
  [{ name := "issued", required := true
     read := fun v h => do return { h with issued := ← fmt.nat v } },
    { name := "nodes"
      read := fun v h => do
        return { h with nodes := ← fmt.list (fmt.record (NodeRow.fields fmt) default) v } },
    { name := "images"
      read := fun v h => do
        return { h with images := ← fmt.list (fmt.record (ImageRow.fields fmt) default) v } },
    { name := "filesystems"
      read := fun v h => do
        return { h with
          filesystems := ← fmt.list (fmt.record (FilesystemRow.fields fmt) default) v } }]

def toText (h : History) : String :=
  h.toDocument.render

/-- Read the file of a history; an empty file is a new history. -/
def ofText (text : String) : Except Fault History :=
  if text.isEmpty then .ok {}
  else (Json.decode (Json.format.record (fields Json.format) {}) text).mapError fun _ => .notHistory

end History

end ImageGate
