import ImageGate.Rule.Basic
import ImageGate.Time.Rfc3339
import ImageGate.Yaml.Writer

/-!
# Writing rules

Rules are written as a rule file. Empty texts and absent instants are left out; an instant is
written as a time stamp in universal time, with a sign before any year that does not have four
digits.
-/

namespace ImageGate

open Yaml (Value)

/-- A field whose text is left out if it is empty. -/
def textField (name text : String) : List (String × Value) :=
  if text.isEmpty then [] else [(name, .text text)]

def ValidationRule.toValue (r : ValidationRule) : Value :=
  .record <|
    [("type", .text r.kind.name)] ++ textField "imageName" r.imageName ++
      textField "imageTag" r.imageTag ++ [("allow", .flag r.allow)] ++
      (r.after.map fun t => ("after", Value.text t.renderWithOffset)).toList

def MutationRule.toValue (r : MutationRule) : Value :=
  .record <|
    [("type", .text r.kind.name)] ++ textField "registry" r.registry ++
      textField "newRegistry" r.newRegistry

namespace Rule

def toValue (r : Rule) : Value :=
  .record
    [("name", .text r.name),
      match r.body with
      | .validate rule => ("validate", rule.toValue)
      | .mutate rule => ("mutate", rule.toValue)]

def fileRecord (rules : List Rule) : List (String × Value) :=
  [("rules", .list (rules.map toValue))]

def listToYaml (rules : List Rule) : String :=
  Yaml.writeDocument (fileRecord rules)

end Rule

end ImageGate
