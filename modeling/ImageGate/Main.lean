import ImageGate.Command.Configuration
import ImageGate.Command.Line
import ImageGate.Command.Run
import ImageGate.History.Document
import Std.Async.Signal
import Std.Time.DateTime.Timestamp

/-!
# The program

The command line on a real machine: files, the clock and the environment. No registry is asked here,
so every question to one fails.
-/

namespace ImageGate.Program

open Std.Async

def version : String := "image-warden 0.4.0"

def usage : String :=
  "usage: image-warden [options] serve | ingest <file> | validate <image> | mutate <image> |\n" ++
  "       rules | images [--node <name>] [--all] [--filesystems] [--json]\n" ++
  "options: --config <file>, --store-file <file>, --rules-file <file>,\n" ++
  "         --agent-report-interval <seconds>, --retention <days>,\n" ++
  "         --log-level <level>, --log-format <text|json>"

/-- Why a file could not be read. -/
def faultOf : IO.Error → FileFault
  | .inappropriateType .. => .directory
  | _ => .missing

def readText (path : String) : IO (Except FileFault String) := do
  try
    match String.fromUTF8? (← IO.FS.readBinFile path) with
    | some text => return .ok text
    | none => return .error .notText
  catch e => return .error (faultOf e)

/-- Open the file of a history, or create it. -/
def openHistory (path : String) : IO (Except History.Fault History) := do
  match ← readText path with
  | .ok text => return History.ofText text
  | .error .notText => return .error .notHistory
  | .error .directory => return .error (.cannotOpen path)
  | .error .missing =>
    try
      IO.FS.writeFile path ""
      return .ok {}
    catch _ => return .error (.cannotOpen path)

def now : IO Instant := do
  let t ← Std.Time.Timestamp.now
  return .ofNanos t.toNanosecondsSinceUnixEpoch.toInt

/-- Look again and again whether something is so, until it is or the time is up. -/
partial def waitFor (limit : Span) (isSo : IO Bool) : IO Bool := do
  let started ← IO.monoNanosNow
  let rec look : IO Bool := do
    if ← isSo then return true
    if !endsWithin limit ⟨(← IO.monoNanosNow) - started⟩ then return false
    IO.sleep 20
    look
  look

/-- Do something at an interval until told to stop. A failure is left to the next time. -/
partial def repeatUntil (isStopped : IO Bool) (interval : Span) (work : IO Unit) : IO Unit := do
  if ← waitFor interval isStopped then return
  try work catch _ => pure ()
  repeatUntil isStopped interval work

/-- Do something at an interval until the program is interrupted or told to terminate. -/
def untilStopped (interval limit : Span) (work : IO Unit) : IO Bool := do
  let signals ← [Signal.sigint, Signal.sigterm].mapM fun signal => do
    (← Signal.Waiter.mk signal false).wait
  let isStopped : IO Bool := signals.anyM (IO.hasFinished ·)
  let worker ← IO.asTask (repeatUntil isStopped interval work)
  discard (waitFor .longest isStopped)
  waitFor limit (IO.hasFinished worker)

def world (home : String) : World IO where
  home := home
  readText := readText
  openHistory := openHistory
  saveHistory path h := IO.FS.writeFile path h.toText
  now := now
  inspector := some fun _ => .failed
  untilStopped := untilStopped

def environment : IO CommandLine.Environment := do
  return { config := ← IO.getEnv "IMAGE_WARDEN_CONFIG"
           storeFile := ← IO.getEnv "IMAGE_WARDEN_STORE_FILE"
           rulesFile := ← IO.getEnv "IMAGE_WARDEN_RULES_FILE" }

def run (i : Invocation) : IO (Except Trouble String) := do
  let w := world ((← IO.getEnv "HOME").getD ".")
  match ← i.options.settings w with
  | .error t => return .error t
  | .ok s => i.command.run w s

end ImageGate.Program

open ImageGate Program in
/-- Answers with 0 if all went well, 1 on trouble, and 2 if the command line is wrong. -/
def main (args : List String) : IO UInt32 := do
  match CommandLine.parse (← environment) args with
  | .error .usage => IO.eprintln usage; return 2
  | .error .help => IO.println usage; return 0
  | .error .version => IO.println version; return 0
  | .ok i =>
    match ← run i with
    | .ok out => IO.print out; return 0
    | .error t => IO.eprintln ("Error: " ++ t.message); return 1
