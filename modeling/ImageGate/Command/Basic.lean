import ImageGate.Settings.Basic

/-!
# Commands

What can be asked for on the command line: a command, and options that override settings.
-/

namespace ImageGate

inductive LogFormat where
  | text
  | json
deriving DecidableEq, Repr, Inhabited

def LogFormat.named : List (String × LogFormat) :=
  [("text", .text), ("json", .json)]

def LogFormat.name : LogFormat → String
  | .text => "text"
  | .json => "json"

inductive Command where
  /-- Keep the history clean until told to stop. -/
  | serve
  | ingest (file : String)
  | validate (image : String)
  | mutate (image : String)
  | rules
  | images (node : Option String) (all filesystems json : Bool)
deriving DecidableEq, Repr, Inhabited

/-- Options that go with every command. -/
structure Options where
  /-- The settings file. -/
  config : Option String := none
  storeFile : Option String := none
  rulesFile : Option String := none
  reportInterval : Option Nat := none
  retentionDays : Option Nat := none
  logLevel : Option LogLevel := none
  logFormat : Option LogFormat := none
deriving DecidableEq, Repr, Inhabited

/-- Options, and where they are silent, other options. -/
def Options.orElse (o other : Options) : Options :=
  { config := o.config.or other.config
    storeFile := o.storeFile.or other.storeFile
    rulesFile := o.rulesFile.or other.rulesFile
    reportInterval := o.reportInterval.or other.reportInterval
    retentionDays := o.retentionDays.or other.retentionDays
    logLevel := o.logLevel.or other.logLevel
    logFormat := o.logFormat.or other.logFormat }

structure Invocation where
  options : Options
  command : Command
deriving DecidableEq, Repr, Inhabited

end ImageGate
