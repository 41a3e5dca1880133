import ImageGate.Record.Format

/-!
# Reading records

A record type is described by the list of its fields. A record is read entry by entry into a value
that starts out with the defaults, so the first fault in the order of the entries is the one that is
reported; only after the last entry is it asked whether a required field is missing. Entries with
unknown keys are passed over.
-/

namespace ImageGate

/-- Why a value does not have the shape that is asked for. -/
inductive ShapeFault where
  | wrongType
  | missing (field : String)
  | repeated (field : String)
  | tooMany
  | unknownName
  | badDate (raw : String)
  /-- The text breaks the rules of its format. -/
  | malformed
deriving DecidableEq, Repr

/-- A field of records of type `ρ`, read from values of type `α`. -/
structure Field (α ρ : Type) where
  name : String
  /-- Another spelling of the name. -/
  alias? : Option String := none
  required : Bool := false
  /-- Read a value into the record. -/
  read : α → ρ → Except ShapeFault ρ

namespace Field

variable {α ρ : Type}

/-- The key is one of the spellings of the field's name. -/
def hasKey (f : Field α ρ) (key : String) : Bool :=
  f.name == key || f.alias? == some key

end Field

namespace Format

variable {α ρ β : Type} (fmt : Format α)

/-! ## Values -/

/-- Insist that a value looks as asked for. -/
def insist (looked : Option β) : Except ShapeFault β :=
  match looked with
  | some b => .ok b
  | none => .error .wrongType

def text (v : α) : Except ShapeFault String :=
  insist (fmt.text? v)

def flag (v : α) : Except ShapeFault Bool :=
  insist (fmt.flag? v)

/-- Read a whole number up to `wordMax`. -/
def nat (v : α) : Except ShapeFault Nat :=
  insist ((fmt.nat? v).filter (· ≤ wordMax))

/-- Read a number from `-signedMax - 1` to `signedMax`. -/
def int (v : α) : Except ShapeFault Int :=
  insist ((fmt.int? v).filter fun n => -(signedMax : Int) - 1 ≤ n && n ≤ signedMax)

/-- Read one of several names. -/
def oneOf (names : List (String × β)) (v : α) : Except ShapeFault β := do
  let name ← insist (fmt.name? v)
  match names.lookup name with
  | some b => .ok b
  | none => .error .unknownName

/-- Read a value that may be absent. -/
def optional (read : α → Except ShapeFault β) (v : α) : Except ShapeFault (Option β) :=
  if fmt.isAbsent v then .ok none else some <$> read v

def list (read : α → Except ShapeFault β) (v : α) : Except ShapeFault (List β) := do
  (← insist (fmt.items? v)).mapM read

/-! ## Records -/

/-- Read entries in order; `seen` are the names of the fields read so far. -/
def entries (fields : List (Field α ρ)) :
    List (Option String × α) → List String → ρ → Except ShapeFault (List String × ρ)
  | [], seen, r => .ok (seen, r)
  | (none, _) :: _, _, _ => .error .wrongType
  | (some key, v) :: more, seen, r =>
    match fields.find? (·.hasKey key) with
    | none => entries fields more seen r
    | some f =>
      if seen.contains f.name then .error (.repeated f.name)
      else do entries fields more (f.name :: seen) (← f.read v r)

/-- Read values in the order of the fields. -/
def row : List (Field α ρ) → List α → List String → ρ → Except ShapeFault (List String × ρ)
  | _, [], seen, r => .ok (seen, r)
  | [], _ :: _, _, _ => .error .tooMany
  | f :: fields, v :: more, seen, r => do row fields more (f.name :: seen) (← f.read v r)

/-- Read a record whose fields are `default` unless they are given. -/
def record (fields : List (Field α ρ)) (default : ρ) (v : α) : Except ShapeFault ρ := do
  let (seen, r) ←
    match fmt.row? v with
    | some items => row fields items [] default
    | none => do entries fields (← insist (fmt.fields? v)) [] default
  match fields.find? fun f => f.required && !seen.contains f.name with
  | some f => .error (.missing f.name)
  | none => .ok r

end Format

end ImageGate
