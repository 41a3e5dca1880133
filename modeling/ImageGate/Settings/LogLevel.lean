/-!
# Log levels
-/

namespace ImageGate

/-- How much is logged: a level covers those behind it. -/
inductive LogLevel where
  | debug
  | info
  | warn
  | error
deriving DecidableEq, Repr, Inhabited

namespace LogLevel

def named : List (String × LogLevel) :=
  [("debug", .debug), ("info", .info), ("warn", .warn), ("error", .error)]

def name : LogLevel → String
  | .debug => "debug"
  | .info => "info"
  | .warn => "warn"
  | .error => "error"

/-- The name of a level in capitals, as log lines show it. -/
def label (l : LogLevel) : String :=
  l.name.map Char.toUpper

/-- The level of a name in any mix of cases. -/
def ofName? (s : String) : Option LogLevel :=
  named.lookup (s.map Char.toLower)

/-- What is said about a name that no level has. -/
def unknownMessage (s : String) : String :=
  "unknown log level: '" ++ s ++ "' (supported: " ++ ", ".intercalate (named.map (·.1)) ++ ")"

theorem ofName?_name (l : LogLevel) : named.lookup l.name = some l := by
  cases l <;> rfl

end LogLevel

end ImageGate
