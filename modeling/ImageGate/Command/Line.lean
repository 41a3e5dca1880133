import ImageGate.Command.Basic
import ImageGate.Text.Digits
import ImageGate.Text.Split

/-!
# Reading command lines

A command line is read from left to right, and the first argument that is wrong or asks for help
ends it. The options for all commands may stand before or behind the name of the command; those
behind it win over those before it, and both win over the environment. On either side an option may
be given once.
-/

namespace ImageGate.CommandLine

open Text

/-- Why there is nothing to do. -/
inductive Stop where
  /-- The command line is wrong. -/
  | usage
  | help
  | version
deriving DecidableEq, Repr

/-! ## Options -/

inductive Opt where
  | config
  | storeFile
  | rulesFile
  | reportInterval
  | retention
  | logLevel
  | logFormat
  | node
  | all
  | filesystems
  | json
  | help
  | version
deriving DecidableEq, Repr

def Opt.longName : Opt → String
  | .config => "config"
  | .storeFile => "store-file"
  | .rulesFile => "rules-file"
  | .reportInterval => "agent-report-interval"
  | .retention => "retention"
  | .logLevel => "log-level"
  | .logFormat => "log-format"
  | .node => "node"
  | .all => "all"
  | .filesystems => "filesystems"
  | .json => "json"
  | .help => "help"
  | .version => "version"

/-- The letter of an option that has one. -/
def Opt.letter? : Opt → Option Char
  | .config => some 'c'
  | .all => some 'a'
  | .help => some 'h'
  | .version => some 'V'
  | _ => none

def Opt.takesValue : Opt → Bool
  | .all | .filesystems | .json | .help | .version => false
  | _ => true

/-- The name of a command, or what stands before it. -/
inductive Place where
  | start
  | serve
  | ingest
  | validate
  | mutate
  | rules
  | images
deriving DecidableEq, Repr

def Place.commands : List (String × Place) :=
  [("serve", .serve), ("ingest", .ingest), ("validate", .validate), ("mutate", .mutate),
    ("rules", .rules), ("images", .images)]

def Place.takesWord : Place → Bool
  | .ingest | .validate | .mutate => true
  | _ => false

/-- The options that may stand here. -/
def Place.options (p : Place) : List Opt :=
  [.config, .storeFile, .rulesFile, .reportInterval, .retention, .logLevel, .logFormat, .help] ++
    match p with
    | .start => [.version]
    | .images => [.node, .all, .filesystems, .json]
    | _ => []

/-! ## What has been read -/

/-- What has been read on one side of the name of the command. -/
structure Side where
  options : Options := {}
  node : Option String := none
  all : Bool := false
  filesystems : Bool := false
  json : Bool := false

/-- A path is not empty. -/
def path (value : String) : Except Stop String :=
  if value.isEmpty then .error .usage else .ok value

/-- A whole number up to `wordMax`; a plus sign and leading zeros are allowed. -/
def number (value : String) : Except Stop Nat :=
  let digits :=
    match value.toList with
    | '+' :: cs => cs
    | cs => cs
  let n := decimalValue digits
  if digits.isEmpty || !digits.all Char.isDigit || wordMax < n then .error .usage else .ok n

def known {α : Type} : Option α → Except Stop α
  | some a => .ok a
  | none => .error .usage

/-- Note an option with its value. An option that has been given before is refused. -/
def Side.give (s : Side) (o : Opt) (value : String) : Except Stop Side := do
  let once (taken : Bool) : Except Stop Unit := if taken then .error .usage else .ok ()
  let opts := s.options
  match o with
  | .config =>
    once opts.config.isSome
    return { s with options := { opts with config := some (← path value) } }
  | .storeFile =>
    once opts.storeFile.isSome
    return { s with options := { opts with storeFile := some (← path value) } }
  | .rulesFile =>
    once opts.rulesFile.isSome
    return { s with options := { opts with rulesFile := some (← path value) } }
  | .reportInterval =>
    once opts.reportInterval.isSome
    return { s with options := { opts with reportInterval := some (← number value) } }
  | .retention =>
    once opts.retentionDays.isSome
    return { s with options := { opts with retentionDays := some (← number value) } }
  | .logLevel =>
    once opts.logLevel.isSome
    return { s with options := { opts with logLevel := some (← known (LogLevel.ofName? value)) } }
  | .logFormat =>
    once opts.logFormat.isSome
    let format ← known (LogFormat.named.lookup value)
    return { s with options := { opts with logFormat := some format } }
  | .node =>
    once s.node.isSome
    return { s with node := some value }
  | .all =>
    once s.all
    return { s with all := true }
  | .filesystems =>
    once s.filesystems
    return { s with filesystems := true }
  | .json =>
    once s.json
    return { s with json := true }
  | .help => throw .help
  | .version => throw .version

structure Progress where
  place : Place := .start
  before : Side := {}
  behind : Side := {}
  word : Option String := none
  /-- Only words follow. -/
  literal : Bool := false

namespace Progress

def give (p : Progress) (o : Opt) (value : String) : Except Stop Progress := do
  if p.place = .start then return { p with before := ← p.before.give o value }
  else return { p with behind := ← p.behind.give o value }

/-- Note a word: the name of the command, or what the command is about. -/
def takeWord (p : Progress) (word : String) : Except Stop Progress :=
  if p.place = .start then
    match Place.commands.lookup word with
    | some place => if p.literal then .error .usage else .ok { p with place }
    | none => .error .usage
  else if !p.place.takesWord || p.word.isSome then .error .usage
  else do
    if p.place = .ingest then discard (path word)
    return { p with word := some word }

end Progress

/-! ## Arguments -/

/-- An argument that can only be an option. -/
def isOption (arg : String) : Bool :=
  match arg.toList with
  | '-' :: _ :: _ => true
  | _ => false

/-- What an argument says. -/
inductive Meaning where
  /-- The options are complete. -/
  | given (p : Progress)
  /-- The value of an option is still to come. -/
  | wanting (p : Progress) (o : Opt)

/-- Read letters behind a dash: options without values, or one option and its value. -/
def readLetters (p : Progress) : List Char → Except Stop Meaning
  | [] => .ok (.given p)
  | c :: cs =>
    match p.place.options.find? (·.letter? == some c) with
    | none => .error .usage
    | some o =>
      if !o.takesValue then do readLetters (← p.give o "") cs
      else
        match cs with
        | [] => .ok (.wanting p o)
        | '=' :: value => (p.give o (String.ofList value)).map .given
        | value => (p.give o (String.ofList value)).map .given

/-- Read a long name behind two dashes, with a value behind an equals sign if there is one. -/
def readLong (p : Progress) (cs : List Char) : Except Stop Meaning :=
  let (name, value) :=
    match cutFirst? '=' cs with
    | some (name, value) => (name, some (String.ofList value))
    | none => (cs, none)
  match p.place.options.find? (·.longName == String.ofList name), value with
  | none, _ => .error .usage
  | some o, some value =>
    if o.takesValue then (p.give o value).map .given else .error .usage
  | some o, none =>
    if o.takesValue then .ok (.wanting p o) else (p.give o "").map .given

def readArgument (p : Progress) (arg : String) : Except Stop Meaning :=
  if p.literal then (p.takeWord arg).map .given
  else
    match arg.toList with
    | ['-', '-'] => .ok (.given { p with literal := true })
    | '-' :: '-' :: cs => readLong p cs
    | '-' :: c :: cs => readLetters p (c :: cs)
    | _ => (p.takeWord arg).map .given

/-- Ask for help by a word: alone, or about a command. -/
def asksHelp (p : Progress) (arg : String) : Bool :=
  p.place = .start && !p.literal && arg == "help"

def readAll (p : Progress) : List String → Except Stop Progress
  | [] => .ok p
  | arg :: args =>
    if asksHelp p arg then
      match args with
      | [] => .error .help
      | [topic] =>
        .error (if topic == "help" || (Place.commands.lookup topic).isSome then .help else .usage)
      | _ => .error .usage
    else
      match readArgument p arg with
      | .error stop => .error stop
      | .ok (.given p) => readAll p args
      | .ok (.wanting p o) =>
        match args with
        | [] => .error .usage
        | value :: args =>
          if isOption value then .error .usage
          else
            match p.give o value with
            | .error stop => .error stop
            | .ok p => readAll p args

/-! ## Commands -/

def Progress.command (p : Progress) : Except Stop Command :=
  match p.place, p.word with
  | .start, _ => .error .usage
  | .serve, _ => .ok .serve
  | .rules, _ => .ok .rules
  | .images, _ =>
    .ok (.images p.behind.node p.behind.all p.behind.filesystems p.behind.json)
  | .ingest, some file => .ok (.ingest file)
  | .validate, some image => .ok (.validate image)
  | .mutate, some image => .ok (.mutate image)
  | _, none => .error .usage

/-- The options that the environment sets: three paths, none of them empty. -/
structure Environment where
  config : Option String := none
  storeFile : Option String := none
  rulesFile : Option String := none

def Environment.options (e : Environment) : Options :=
  { config := e.config, storeFile := e.storeFile, rulesFile := e.rulesFile }

/-- Refuse an empty path of the environment, unless the option is given on both sides. -/
def checkEnvironment (e : Environment) (p : Progress) : Except Stop Unit :=
  let bad (value : Option String) (pick : Options → Option String) : Bool :=
    value == some "" && !((pick p.before.options).isSome && (pick p.behind.options).isSome)
  if bad e.config (·.config) || bad e.storeFile (·.storeFile) || bad e.rulesFile (·.rulesFile)
  then .error .usage
  else .ok ()

/-- Read a command line without the name of the program. -/
def parse (e : Environment) (args : List String) : Except Stop Invocation := do
  let p ← readAll {} args
  checkEnvironment e p
  let command ← p.command
  return { options := p.behind.options.orElse (p.before.options.orElse e.options), command }

end ImageGate.CommandLine
