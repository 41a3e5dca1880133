import ImageGate.History.Basic

/-!
# Changes to a history

A history is changed by one statement after the other. A report is a list of changes: its node is
noted, the marks of the node's rows are taken away, and then the rows are put, those of file systems
first. A sweep is a list of changes too.
-/

namespace ImageGate

namespace History

/-- A change that one statement makes to the tables. -/
inductive Change where
  | enrol (now : Int) (identity : NodeIdentity)
  | unmarkFilesystems (node : Nat)
  | unmarkImages (node : Nat)
  | putFilesystem (row : FilesystemRow)
  | putImage (row : ImageRow)
  | dropNodes (upTo : Int)
  | dropImages (upTo : Int)
  | dropFilesystems (upTo : Int)
deriving DecidableEq, Repr

def apply (h : History) : Change → History
  | .enrol now identity => (h.enrol now identity).2
  | .unmarkFilesystems node => h.unmarkFilesystems node
  | .unmarkImages node => h.unmarkImages node
  | .putFilesystem row => h.putFilesystem row
  | .putImage row => h.putImage row
  | .dropNodes upTo => h.dropNodes upTo
  | .dropImages upTo => h.dropImages upTo
  | .dropFilesystems upTo => h.dropFilesystems upTo

def applyAll (h : History) (changes : List Change) : History :=
  changes.foldl apply h

/-- The changes of a sweep that deletes nodes silent for `nodeRetention` and, unless `retention` is
zero, rows not confirmed for `retention`. -/
def sweepChanges (retention nodeRetention : Span) (now : Instant) : List Change :=
  .dropNodes (now.before nodeRetention).toMicros ::
    if retention = 0 then []
    else
      let upTo := (now.before retention).toMicros
      [.dropImages upTo, .dropFilesystems upTo]

end History

namespace Report

def imageRows (r : Report) (node : Nat) (now : Int) : List ImageRow :=
  r.imageEntries.map (.ofEntry node now)

def filesystemRows (r : Report) (node : Nat) (now : Int) : List FilesystemRow :=
  r.filesystemEntries.map (.ofEntry node now)

/-- The changes that a report makes, under the number of its node. -/
def changes (r : Report) (node : Nat) (now : Int) : List History.Change :=
  [.enrol now r.runtime, .unmarkFilesystems node, .unmarkImages node] ++
    (r.filesystemRows node now).map .putFilesystem ++ (r.imageRows node now).map .putImage

end Report

end ImageGate
