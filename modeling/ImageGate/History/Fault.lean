/-!
# Faults of a history
-/

namespace ImageGate.History

/-- Why a history cannot be used. -/
inductive Fault where
  /-- The database refuses a change, for a reason of its own. -/
  | refused (reason : String)
  /-- The file can be neither opened nor created. -/
  | cannotOpen (path : String)
  /-- The file holds something else. -/
  | notHistory
deriving DecidableEq, Repr

def Fault.message : Fault → String
  | .refused reason => reason
  | .cannotOpen path =>
    "Failed to open " ++ path ++ ": unable to open database file: " ++ path
  | .notHistory => "file is not a database"

end ImageGate.History
