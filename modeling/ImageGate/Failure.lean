import ImageGate.Constraint.Message
import ImageGate.History.Fault
import ImageGate.Pattern.Scan
import ImageGate.Record.Document
import ImageGate.Registry.Address
import ImageGate.Settings.Basic

/-!
# Failures

Whatever can go wrong, each with its cause. The text of a failure has two parts: a lead that names
what is at fault, and for some failures a detail that explains the fault inside a pattern or a
document.
-/

namespace ImageGate

inductive FileFault where
  | missing
  | directory
  | notText
deriving DecidableEq, Repr

def FileFault.message : FileFault → String
  | .missing => "No such file or directory (os error 2)"
  | .directory => "Is a directory (os error 21)"
  | .notText => "stream did not contain valid UTF-8"

inductive Failure where
  /-- A declared rule has not exactly one body. -/
  | conflictingRule (rule : String)
  | badPattern (rule pattern : String) (fault : Pattern.Fault)
  | badConstraint (rule constraint : String) (fault : Constraint.Fault)
  | badReference (reference : String) (fault : Reference.Fault)
  /-- The reference has no tag where one is needed. -/
  | untagged (reference : String)
  | store (fault : History.Fault)
  /-- The registry cannot be asked for this image. -/
  | address (image : String) (fault : Registry.Fault)
  | settings (fault : Settings.Fault)
  /-- The file of what is named cannot be read. -/
  | unreadable (what path : String) (fault : FileFault)
  | shape (fault : ShapeFault)
deriving DecidableEq, Repr

namespace Failure

/-- What is said before the detail; all of it if there is none. -/
def lead : Failure → String
  | .conflictingRule rule =>
    "Wrong rule type: rule '" ++ rule ++ "' should be either Validation or Mutation"
  | .badPattern rule pattern _ => "Invalid pattern in rule '" ++ rule ++ "': " ++ pattern ++ " - "
  | .badConstraint rule constraint fault =>
    "Invalid constraint in rule '" ++ rule ++ "': " ++ constraint ++ " - " ++ fault.message
  | .badReference reference fault =>
    "Bad image reference: '" ++ reference ++ "': " ++ fault.message
  | .untagged reference => "Bad image reference: '" ++ reference ++ "': reference has no tag"
  | .store fault => "Store error: " ++ fault.message
  | .address image fault =>
    "Inspect error: " ++ image ++ " - Invalid OCI reference: " ++ fault.message
  | .settings fault => "Configuration error: " ++ fault.message
  | .unreadable what path fault =>
    "Configuration error: Failed to read " ++ what ++ path ++ ": " ++ fault.message
  | .shape (.badDate raw) => "Serialization error: " ++ (ShapeFault.badDate raw).message
  | .shape _ => "Serialization error: "

/-- The fault inside a pattern or a document. -/
def detail? : Failure → Option String
  | .badPattern _ _ fault => some fault.message
  | .shape (.badDate _) => none
  | .shape fault => some fault.message
  | _ => none

def message (f : Failure) : String :=
  f.lead ++ f.detail?.getD ""

end Failure

end ImageGate
