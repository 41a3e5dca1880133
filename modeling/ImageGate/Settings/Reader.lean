import ImageGate.Failure

/-!
# Reading settings

A settings file is a YAML record in which every field may be left out.
-/

namespace ImageGate.Settings

variable {α : Type} (fmt : Format α)

def fields : List (Field α Settings) :=
  [{ name := "storeFile", read := fun v s => do return { s with storeFile := ← fmt.text v } },
    { name := "rulesFile", read := fun v s => do return { s with rulesFile := ← fmt.text v } },
    { name := "reportIntervalSecs"
      read := fun v s => do return { s with reportInterval := ← fmt.nat v } },
    { name := "retentionDays"
      read := fun v s => do return { s with retentionDays := ← fmt.nat v } },
    { name := "nodeRetentionHours"
      read := fun v s => do return { s with nodeRetentionHours := ← fmt.nat v } },
    { name := "cleanerIntervalSecs"
      read := fun v s => do return { s with cleanerInterval := ← fmt.nat v } },
    { name := "inspectTimeoutSecs"
      read := fun v s => do return { s with inspectTimeout := ← fmt.nat v } },
    { name := "shutdownTimeoutSecs"
      read := fun v s => do return { s with shutdownTimeout := ← fmt.nat v } },
    { name := "logLevel"
      read := fun v s => do return { s with logLevel := ← fmt.oneOf LogLevel.named v } }]

def read (v : α) : Except ShapeFault Settings :=
  fmt.record (fields fmt) {} v

/-- Read the text of a settings file, and check the bounds. -/
def load (text : String) : Except Failure Settings := do
  let s ← (Yaml.decode (read Yaml.format) text).mapError .shape
  match s.fault? with
  | some fault => throw (.settings fault)
  | none => return s

end ImageGate.Settings
