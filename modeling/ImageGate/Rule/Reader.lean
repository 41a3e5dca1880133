import ImageGate.Failure
import ImageGate.Rule.Basic
import ImageGate.Time.Rfc3339

/-!
# Reading rules

A rule file is a record with the list of rules. Each of them is a record with a name and one of two
blocks, `validate` or `mutate`. All rules are read before any is asked whether it has exactly one
block.
-/

namespace ImageGate

variable {α : Type} (fmt : Format α)

/-! ## Blocks -/

/-- Read the instant behind which reports count. -/
def ValidationRule.readAfter (v : α) : Except ShapeFault (Option Instant) := do
  match ← fmt.optional fmt.text v with
  | none => return none
  | some raw =>
    match Instant.ofText raw with
    | some t => return some t
    | none => throw (.badDate raw)

def ValidationRule.fields : List (Field α ValidationRule) :=
  [{ name := "type", required := true
     read := fun v r => do return { r with kind := ← fmt.oneOf TagKind.named v } },
    { name := "imageName", read := fun v r => do return { r with imageName := ← fmt.text v } },
    { name := "imageTag", read := fun v r => do return { r with imageTag := ← fmt.text v } },
    { name := "allow", read := fun v r => do return { r with allow := ← fmt.flag v } },
    { name := "after", read := fun v r => do return { r with after := ← readAfter fmt v } }]

def ValidationRule.read (v : α) : Except ShapeFault ValidationRule :=
  fmt.record (fields fmt) { kind := .latest } v

/-- The fields of a `mutate` block. Old rule files spell the last one without its second `r`. -/
def MutationRule.fields : List (Field α MutationRule) :=
  [{ name := "type", required := true
     read := fun v r => do return { r with kind := ← fmt.oneOf MutationKind.named v } },
    { name := "registry", read := fun v r => do return { r with registry := ← fmt.text v } },
    { name := "newRegistry", alias? := some "newRegisty"
      read := fun v r => do return { r with newRegistry := ← fmt.text v } }]

def MutationRule.read (v : α) : Except ShapeFault MutationRule :=
  fmt.record (fields fmt) { kind := .defaultRegistry } v

/-! ## Rule files -/

/-- A rule as it is declared, with either block or none. -/
structure DeclaredRule where
  name : String := ""
  validate : Option ValidationRule := none
  mutate : Option MutationRule := none

namespace DeclaredRule

def fields : List (Field α DeclaredRule) :=
  [{ name := "name", required := true
     read := fun v r => do return { r with name := ← fmt.text v } },
    { name := "validate"
      read := fun v r => do
        return { r with validate := ← fmt.optional (ValidationRule.read fmt) v } },
    { name := "mutate"
      read := fun v r => do
        return { r with mutate := ← fmt.optional (MutationRule.read fmt) v } }]

def read (v : α) : Except ShapeFault DeclaredRule :=
  fmt.record (fields fmt) {} v

def fileFields : List (Field α (List DeclaredRule)) :=
  [{ name := "rules", read := fun v _ => fmt.list (read fmt) v }]

def readFile (v : α) : Except ShapeFault (List DeclaredRule) :=
  fmt.record (fileFields fmt) [] v

/-- A rule has exactly one block. -/
def toRule (d : DeclaredRule) : Except Failure Rule :=
  match d.validate, d.mutate with
  | some rule, none => .ok ⟨d.name, .validate rule⟩
  | none, some rule => .ok ⟨d.name, .mutate rule⟩
  | _, _ => .error (.conflictingRule d.name)

end DeclaredRule

namespace Rule

def listOfYaml (text : String) : Except Failure (List Rule) := do
  let declared ← (Yaml.decode (DeclaredRule.readFile Yaml.format) text).mapError .shape
  declared.mapM DeclaredRule.toRule

end Rule

end ImageGate
