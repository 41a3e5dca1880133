import ImageGate.History.Change
import ImageGate.History.Fault

/-!
# Transactions

A history lives in a database, which is changed in place. Reports and sweeps make their changes
within a transaction: if the database refuses one of them, what has been changed by then is rolled
back. The database is a parameter here. `Snapshot` is one that keeps beside its tables what they were
when the transaction under way began.
-/

namespace ImageGate

namespace History

/-- A database: its tables can be read, and changed within transactions. -/
structure Database (σ : Type) where
  tables : σ → History
  begin : σ → σ
  execute : Change → σ → σ
  commit : σ → σ
  rollback : σ → σ

/-- Why a database refuses changes, by their places in a transaction. -/
abbrev Refusals := Nat → Change → Option String

def admitAll : Refusals := fun _ _ => none

/-- Refuse some changes for one reason, wherever they stand. -/
def refuseAll (p : Change → Bool) (reason : String) : Refusals :=
  fun _ c => if p c then some reason else none

namespace Database

variable {σ : Type} (db : Database σ)

/-- Make changes one after the other, the first of which has this place in the transaction. The first
one that is refused ends it; what has been done by then stays done. -/
def makeAll (refused : Refusals) : Nat → List Change → σ → Option String × σ
  | _, [], s => (none, s)
  | place, c :: more, s =>
    match refused place c with
    | some reason => (some reason, s)
    | none => makeAll refused (place + 1) more (db.execute c s)

/-- Make changes within a transaction, and answer with the reason if one of them is refused. -/
def transact (refused : Refusals) (changes : List Change) (s : σ) : Option String × σ :=
  match db.makeAll refused 0 changes (db.begin s) with
  | (none, t) => (none, db.commit t)
  | (some reason, t) => (some reason, db.rollback t)

/-- Store a report of an instant, and answer with the number of its node. -/
def store (refused : Refusals) (s : σ) (now : Instant) (r : Report) : Except Fault Nat × σ :=
  let node := ((db.tables s).enrol now.toMicros r.runtime).1
  match db.transact refused (r.changes node now.toMicros) s with
  | (none, t) => (.ok node, t)
  | (some reason, t) => (.error (.refused reason), t)

end Database

/-! ## Databases in memory -/

/-- Tables, and what they were when the transaction under way began. -/
structure Snapshot where
  current : History
  saved : Option History := none
deriving DecidableEq, Repr

def Snapshot.database : Database Snapshot where
  tables s := s.current
  begin s := { s with saved := some s.current }
  execute c s := { s with current := s.current.apply c }
  commit s := { s with saved := none }
  rollback s := { current := s.saved.getD s.current }

/-- Store a report in a history that is held in memory. -/
def store (refused : Refusals) (h : History) (now : Instant) (r : Report) :
    Except Fault Nat × History :=
  let (answer, s) := Snapshot.database.store refused { current := h } now r
  (answer, s.current)

end History

end ImageGate
