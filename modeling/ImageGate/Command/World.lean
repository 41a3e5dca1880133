import ImageGate.Failure
import ImageGate.Policy.Rolling
import ImageGate.Time.Span

/-!
# The world around commands

What commands need of the machine that they run on, and how what goes wrong is told.
-/

namespace ImageGate

/-- The machine that commands run on. -/
structure World (m : Type → Type) where
  /-- The home directory of the user. -/
  home : String
  readText : String → m (Except FileFault String)
  /-- Open the file of a history; a file that does not exist or is empty is a new history. -/
  openHistory : String → m (Except History.Fault History)
  saveHistory : String → History → m Unit
  now : m Instant
  /-- Who can be asked for digests. -/
  inspector : Option Inspector
  /-- Do something at an interval until a signal to stop arrives. What is under way then may take so
  long; the answer is whether it has come to its end. -/
  untilStopped : (interval limit : Span) → m Unit → m Bool

/-- What has taken so long has come to its end within a limit. The last moment counts. -/
def endsWithin (limit spent : Span) : Bool :=
  spent ≤ limit

/-! ## Trouble -/

/-- Why a command ends early. -/
inductive Cause where
  | failure (f : Failure)
  | file (f : FileFault)
  | shape (f : ShapeFault)
deriving DecidableEq, Repr

/-- What is said before the detail; all of it if there is none. -/
def Cause.lead : Cause → String
  | .failure f => f.lead
  | .file f => f.message
  | .shape _ => ""

/-- The fault inside a pattern or a document. -/
def Cause.detail? : Cause → Option String
  | .failure f => f.detail?
  | .file _ => none
  | .shape f => some f.message

/-- Why a command ends early, and what it was about to do, the whole before its parts. -/
structure Trouble where
  contexts : List String := []
  cause : Cause
deriving DecidableEq, Repr

namespace Trouble

def ofFailure (f : Failure) : Trouble :=
  { cause := .failure f }

def lead (t : Trouble) : String :=
  String.join (t.contexts.map (· ++ ": ")) ++ t.cause.lead

def message (t : Trouble) : String :=
  t.lead ++ t.cause.detail?.getD ""

end Trouble

end ImageGate
