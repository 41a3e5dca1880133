import ImageGate.Settings.LogLevel
import ImageGate.Time.Span

/-!
# Settings

What an operator can set, and the bounds within which the settings make sense. All times are whole
seconds, save the two retentions, which are given in days and hours. Seconds are kept in 64 bits: a
product that does not fit stops at the largest number.
-/

namespace ImageGate

structure Settings where
  /-- File that holds the history of reports. -/
  storeFile : String := "store.db"
  /-- File that holds the rules in order. -/
  rulesFile : String := "config/rules.yaml"
  /-- Seconds between two reports of a node. -/
  reportInterval : Nat := 60
  /-- Days that report rows are kept; zero keeps them for ever. -/
  retentionDays : Nat := 30
  /-- Hours that a silent node is kept. -/
  nodeRetentionHours : Nat := 24
  /-- Seconds between two sweeps of the history. -/
  cleanerInterval : Nat := 60
  /-- Seconds that a registry has to answer. -/
  inspectTimeout : Nat := 10
  /-- Seconds that a shutdown may take. -/
  shutdownTimeout : Nat := 5
  logLevel : LogLevel := .info
deriving DecidableEq, Repr, Inhabited

namespace Settings

/-! ## Derived times -/

/-- How long report rows are kept; zero keeps them for ever. -/
def retention (s : Settings) : Span :=
  .ofSeconds (min (s.retentionDays * 86400) wordMax)

def nodeRetention (s : Settings) : Span :=
  .ofSeconds (min (s.nodeRetentionHours * 3600) wordMax)

/-- How long a node counts as live after its last report: three reports may go missing. -/
def freshness (s : Settings) : Span :=
  .times 3 (.ofSeconds s.reportInterval)

/-! ## Bounds -/

/-- Longest retention in days: a hundred years. -/
def retentionDaysMax : Nat := 36500

/-- Longest interval in seconds: a week. -/
def intervalMax : Nat := 604800

/-- Why settings make no sense. -/
inductive Fault where
  | noReportInterval
  | noCleanerInterval
  | noInspectTimeout
  | longRetention (days : Nat)
  | longNodeRetention (hours : Nat)
  | longInterval
deriving DecidableEq, Repr

def Fault.message : Fault → String
  | .noReportInterval => "report interval must be greater than 0"
  | .noCleanerInterval => "cleaner interval must be greater than 0"
  | .noInspectTimeout => "inspect timeout must be greater than 0"
  | .longRetention days =>
    s!"retention must be at most {retentionDaysMax} days, got {days}"
  | .longNodeRetention hours =>
    s!"node retention must be at most {retentionDaysMax * 24} hours, got {hours}"
  | .longInterval => s!"intervals must be at most {intervalMax} seconds"

def fault? (s : Settings) : Option Fault :=
  if s.reportInterval = 0 then some .noReportInterval
  else if s.cleanerInterval = 0 then some .noCleanerInterval
  else if s.inspectTimeout = 0 then some .noInspectTimeout
  else if retentionDaysMax < s.retentionDays then some (.longRetention s.retentionDays)
  else if retentionDaysMax * 24 < s.nodeRetentionHours then
    some (.longNodeRetention s.nodeRetentionHours)
  else if intervalMax < s.reportInterval ∨ intervalMax < s.cleanerInterval then some .longInterval
  else none

end Settings

end ImageGate
