import ImageGate.History.Transaction

/-!
# Sweeping a history

Nodes that have been silent for too long are deleted, and so are rows that no report has confirmed
for too long. Rows are kept for ever if no time is set for them.
-/

namespace ImageGate

/-- How many rows a sweep has deleted. -/
structure Swept where
  nodes : Nat := 0
  images : Nat := 0
  filesystems : Nat := 0
deriving DecidableEq, Repr, Inhabited

def Swept.isEmpty (s : Swept) : Bool :=
  s.nodes == 0 && s.images == 0 && s.filesystems == 0

namespace History

/-- How many rows of each table one history has beyond another. -/
def lost (h next : History) : Swept where
  nodes := h.nodes.length - next.nodes.length
  images := h.images.length - next.images.length
  filesystems := h.filesystems.length - next.filesystems.length

/-- Sweep a database, and answer with what has been deleted. -/
def Database.sweep {σ : Type} (db : Database σ) (refused : Refusals) (s : σ)
    (retention nodeRetention : Span) (now : Instant) : Except Fault Swept × σ :=
  match db.transact refused (sweepChanges retention nodeRetention now) s with
  | (none, t) => (.ok ((db.tables s).lost (db.tables t)), t)
  | (some reason, t) => (.error (.refused reason), t)

/-- Sweep a history that is held in memory. -/
def sweep (h : History) (retention nodeRetention : Span) (now : Instant) : Swept × History :=
  let changes := sweepChanges retention nodeRetention now
  let kept := (Snapshot.database.transact admitAll changes { current := h }).2.current
  (h.lost kept, kept)

def sweeps (h : History) (retention nodeRetention : Span) : List Instant → History
  | [] => h
  | now :: later => ((h.sweep retention nodeRetention now).2).sweeps retention nodeRetention later

/-- The history is swept by itself from time to time, unless rows are kept for ever. -/
def isSwept (retention : Span) : Bool :=
  retention != 0

end History

end ImageGate
