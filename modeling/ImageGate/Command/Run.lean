import ImageGate.Command.Basic
import ImageGate.Command.World
import ImageGate.Display.Amount
import ImageGate.Display.Table
import ImageGate.History.Json
import ImageGate.History.Sweep
import ImageGate.Policy.Decision
import ImageGate.Policy.Mutation
import ImageGate.Report.Reader
import ImageGate.Rule.Export
import ImageGate.Rule.Reader
import ImageGate.Text.Quoted

/-!
# Running commands

Every command opens the history first. Commands that need the rules then read them, so of two faults
that of the history is told. Storing a report and showing images do without the rules.
-/

namespace ImageGate

variable {m : Type → Type} [Monad m]

/-! ## Opening -/

/-- A history with the rules that are applied to images. -/
structure Gate where
  history : History
  rules : List Rule
  policy : Policy

/-- What becomes of a command. -/
abbrev Run (m : Type → Type) := ExceptT Trouble m

/-- Go on unless something has failed. -/
def orTrouble {α : Type} (e : Except Failure α) : Run m α :=
  ExceptT.mk (pure (e.mapError .ofFailure))

def openHistory (w : World m) (s : Settings) : Run m History := do
  orTrouble ((← w.openHistory s.storeFile).mapError .store)

/-- Open the history for a command that needs nothing else. -/
def openHistoryAlone (w : World m) (s : Settings) : Run m History :=
  ExceptT.adapt
    (fun t => { t with contexts := ("Failed to open store " ++ s.storeFile) :: t.contexts })
    (openHistory w s)

def openGate (w : World m) (s : Settings) : Run m Gate := do
  let history ← openHistory w s
  let text ← orTrouble ((← w.readText s.rulesFile).mapError (.unreadable "rules " s.rulesFile))
  let rules ← orTrouble (Rule.listOfYaml text)
  let policy ← orTrouble (Policy.ofRules rules)
  return { history, rules, policy }

/-! ## Tables -/

/-- The table of images; with `all`, it tells which ones the last report lists. -/
def imagesTable (now : Instant) (all : Bool) (nodes : List NodeView) : String :=
  let headers := ["NODE", "IMAGE ID", "TAG", "DIGEST", "SIZE", "REPORTED"] ++
    if all then ["LAST REPORT"] else []
  Display.table headers <| nodes.flatMap fun v => v.images.map fun r =>
    [v.node.identity.nodename, Display.shortDigest r.entry.id, r.entry.repoTag,
      Display.shortDigest r.entry.repoDigest, Display.size r.entry.size,
      Display.age now (.ofMicros r.reportedAt)] ++
      if all then [if r.inLastReport then "yes" else "no"] else []

def filesystemsTable (now : Instant) (nodes : List NodeView) : String :=
  Display.table ["NODE", "MOUNTPOINT", "USED", "INODES", "SAMPLED"] <|
    nodes.flatMap fun v => v.filesystems.map fun r =>
      [v.node.identity.nodename, r.mountpoint, Display.size r.usedBytes, toString r.inodesUsed,
        Display.age now (.ofMicros r.timestamp)]

/-! ## Commands -/

def sweepNow (w : World m) (s : Settings) : m Unit := do
  match ← w.openHistory s.storeFile with
  | .error _ => return
  | .ok h =>
    let (_, kept) := h.sweep s.retention s.nodeRetention (← w.now)
    w.saveHistory s.storeFile kept

/-- Keep the history clean until told to stop. A sweep that does not end in time is left to itself. -/
def serve (w : World m) (s : Settings) : Run m String := do
  discard (openGate w s)
  let work : m Unit := if History.isSwept s.retention then sweepNow w s else pure ()
  discard (w.untilStopped (.ofSeconds s.cleanerInterval) (.ofSeconds s.shutdownTimeout) work)
  return ""

def ingest (w : World m) (s : Settings) (file : String) : Run m String := do
  let text ← match ← w.readText file with
    | .ok text => pure text
    | .error f => throw { contexts := ["Failed to read " ++ file], cause := .file f }
  let report ← match Report.ofJson text with
    | .ok report => pure report
    | .error f => throw { contexts := ["Invalid report " ++ file], cause := .shape f }
  let history ← openHistoryAlone w s
  let (answer, history) := history.store History.admitAll (← w.now) report
  let id ← orTrouble (answer.mapError .store)
  w.saveHistory s.storeFile history
  return s!"Stored report for node '{report.runtime.nodename}' (id {id}): " ++
    s!"{report.images.length} images, {report.filesystems.length} filesystems\n"

def validate (w : World m) (s : Settings) (image : String) : Run m String := do
  let gate ← openGate w s
  let sources : Sources := { history := some gate.history, inspector := w.inspector }
  let decision := (gate.policy.validate sources image).1
  return if decision.allowed then s!"'{image}' is valid (rule '{decision.rule}')\n"
    else s!"'{image}' rejected by rule '{decision.rule}'\n"

def mutate (w : World m) (s : Settings) (image : String) : Run m String := do
  let gate ← openGate w s
  let mutated := gate.policy.mutate image
  return if mutated.rules.isEmpty then s!"'{image}' unchanged\n"
    else s!"'{image}' mutated to '{mutated.image}' by rules {Text.quotedList mutated.rules}\n"

def showRules (w : World m) (s : Settings) : Run m String := do
  return Rule.listToYaml (← openGate w s).rules

def showImages (w : World m) (s : Settings) (node : String) (all filesystems json : Bool) :
    Run m String := do
  let history ← openHistoryAlone w s
  let now ← w.now
  let nodes := history.report s.freshness now node all
  if json then return (Json.array (nodes.map NodeView.toJson)).pretty ++ "\n"
  else
    return imagesTable now all nodes ++ "\n" ++
      if filesystems then "\n" ++ filesystemsTable now nodes ++ "\n" else ""

/-- Run a command; the answer is what it prints. -/
def Command.run (w : World m) (s : Settings) : Command → m (Except Trouble String)
  | .serve => ExceptT.run (ImageGate.serve w s)
  | .ingest file => ExceptT.run (ImageGate.ingest w s file)
  | .validate image => ExceptT.run (ImageGate.validate w s image)
  | .mutate image => ExceptT.run (ImageGate.mutate w s image)
  | .rules => ExceptT.run (showRules w s)
  | .images node all filesystems json =>
    ExceptT.run (showImages w s (node.getD "") all filesystems json)

end ImageGate
