import ImageGate.Record.Document
import ImageGate.Report.Basic

/-!
# Reading reports

Reports are JSON records in which every field may be left out.
-/

namespace ImageGate

variable {α : Type} (fmt : Format α)

def NodeIdentity.fields : List (Field α NodeIdentity) :=
  [{ name := "podname", read := fun v r => do return { r with podname := ← fmt.text v } },
    { name := "nodename", read := fun v r => do return { r with nodename := ← fmt.text v } },
    { name := "agentVersion"
      read := fun v r => do return { r with agentVersion := ← fmt.text v } },
    { name := "kubeApiVersion"
      read := fun v r => do return { r with kubeApiVersion := ← fmt.text v } },
    { name := "runtimeName", read := fun v r => do return { r with runtimeName := ← fmt.text v } },
    { name := "runtimeVersion"
      read := fun v r => do return { r with runtimeVersion := ← fmt.text v } },
    { name := "runtimeApiVersion"
      read := fun v r => do return { r with runtimeApiVersion := ← fmt.text v } }]

def FilesystemUsage.fields : List (Field α FilesystemUsage) :=
  [{ name := "timestampNanos"
     read := fun v r => do return { r with timestampNanos := ← fmt.int v } },
    { name := "mountpoint", read := fun v r => do return { r with mountpoint := ← fmt.text v } },
    { name := "usedBytes", read := fun v r => do return { r with usedBytes := ← fmt.nat v } },
    { name := "inodesUsed", read := fun v r => do return { r with inodesUsed := ← fmt.nat v } }]

def ImageSpec.fields : List (Field α ImageSpec) :=
  [{ name := "image", read := fun v r => do return { r with image := ← fmt.text v } },
    { name := "userSpecifiedImage"
      read := fun v r => do return { r with userSpecifiedImage := ← fmt.text v } }]

def ImageSpec.read (v : α) : Except ShapeFault ImageSpec :=
  fmt.record (fields fmt) {} v

def Image.fields : List (Field α Image) :=
  [{ name := "id", read := fun v r => do return { r with id := ← fmt.text v } },
    { name := "repoTags"
      read := fun v r => do return { r with repoTags := ← fmt.list fmt.text v } },
    { name := "repoDigests"
      read := fun v r => do return { r with repoDigests := ← fmt.list fmt.text v } },
    { name := "size", read := fun v r => do return { r with size := ← fmt.nat v } },
    { name := "username", read := fun v r => do return { r with username := ← fmt.text v } },
    { name := "pinned", read := fun v r => do return { r with pinned := ← fmt.flag v } },
    { name := "uid", read := fun v r => do return { r with uid := ← fmt.int v } },
    { name := "spec"
      read := fun v r => do return { r with spec := ← fmt.optional (ImageSpec.read fmt) v } }]

namespace Report

def fields : List (Field α Report) :=
  [{ name := "runtime"
     read := fun v r => do
       return { r with runtime := ← fmt.record (NodeIdentity.fields fmt) {} v } },
    { name := "filesystems"
      read := fun v r => do
        return { r with
          filesystems := ← fmt.list (fmt.record (FilesystemUsage.fields fmt) {}) v } },
    { name := "images"
      read := fun v r => do
        return { r with images := ← fmt.list (fmt.record (Image.fields fmt) {}) v } }]

def read (v : α) : Except ShapeFault Report :=
  fmt.record (fields fmt) {} v

def ofJson (text : String) : Except ShapeFault Report :=
  Json.decode (read Json.format) text

end Report

end ImageGate
