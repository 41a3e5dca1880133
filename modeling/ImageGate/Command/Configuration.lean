import ImageGate.Command.Basic
import ImageGate.Command.World
import ImageGate.Settings.Reader
import ImageGate.Text.Split

/-!
# The settings of an invocation

Settings come from a settings file if one is named, else they are the defaults; options override
them. Paths that begin with `~/` lie in the home directory. Settings from a file have to be sound by
themselves, before options override them.
-/

namespace ImageGate

/-! ## Paths -/

namespace Path

/-- Drop separators and `.` directories from the beginning of a path. -/
def trimStart : List Char → List Char
  | '/' :: cs => trimStart cs
  | ['.'] => []
  | '.' :: '/' :: cs => trimStart cs
  | cs => cs

/-- Drop separators and `.` directories from the end of a path, which is given from its end. -/
def trimReversed : List Char → List Char
  | '/' :: cs => trimReversed cs
  | ['.'] => []
  | '.' :: '/' :: cs => trimReversed cs
  | cs => cs

/-- The path with the home directory in place of a leading `~`. -/
def expandHome (home path : String) : String :=
  let below (cs : List Char) : String :=
    home ++ "/" ++ String.ofList (trimReversed (trimStart cs).reverse).reverse
  match path.toList with
  | ['~'] => below []
  | '~' :: '/' :: cs => below cs
  | _ => path

end Path

/-! ## Settings -/

namespace Options

/-- Settings with options in place of what they override. -/
def override (o : Options) (s : Settings) : Settings :=
  { s with
    storeFile := o.storeFile.getD s.storeFile
    rulesFile := o.rulesFile.getD s.rulesFile
    reportInterval := o.reportInterval.getD s.reportInterval
    retentionDays := o.retentionDays.getD s.retentionDays
    logLevel := o.logLevel.getD s.logLevel }

/-- Settings of an invocation, from those of the settings file. -/
def complete (o : Options) (home : String) (s : Settings) : Except Failure Settings :=
  let s := o.override s
  let s :=
    { s with
      storeFile := Path.expandHome home s.storeFile
      rulesFile := Path.expandHome home s.rulesFile }
  match s.fault? with
  | some fault => .error (.settings fault)
  | none => .ok s

variable {m : Type → Type} [Monad m]

/-- The settings of the settings file; the defaults if there is none. -/
def loadFile (w : World m) (o : Options) : m (Except Trouble Settings) := do
  match o.config with
  | none => return .ok {}
  | some path =>
    let text ← w.readText path
    let loaded := (text.mapError (.unreadable "" path)).bind Settings.load
    return loaded.mapError fun f =>
      { contexts := ["Failed to load config " ++ path], cause := .failure f }

def settings (w : World m) (o : Options) : m (Except Trouble Settings) := do
  match ← o.loadFile w with
  | .error t => return .error t
  | .ok s => return (o.complete w.home s).mapError .ofFailure

end Options

end ImageGate
