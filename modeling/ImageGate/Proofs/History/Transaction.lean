import ImageGate.History.Sweep

/-!
# What a transaction leaves behind

Of a database, four laws are relied on (`Database.Lawful`): beginning and committing leave the tables
as they are, a statement makes its change, and rolling back gives the tables that were there when the
transaction began, whatever statements have been executed since. They are what is documented of
transactions, and say nothing of reports. `Snapshot.database` has them.

So a transaction that is refused a change is undone, although what it had changed by then was in the
tables (`Database.tables_transact`), and databases with the same tables answer alike, whatever else
they keep (`Database.store_congr`, `Database.sweep_congr`).
-/

namespace ImageGate.History

/-- The reason for the first refusal among changes, the first of which has this place. -/
def firstRefusal (refused : Refusals) : Nat → List Change → Option String
  | _, [] => none
  | place, c :: more => (refused place c).or (firstRefusal refused (place + 1) more)

theorem firstRefusal_admitAll (place : Nat) (changes : List Change) :
    firstRefusal admitAll place changes = none := by
  induction changes generalizing place with
  | nil => rfl
  | cons c more ih => exact ih (place + 1)

theorem firstRefusal_eq_none_iff {refused : Refusals} {place : Nat} {changes : List Change} :
    firstRefusal refused place changes = none ↔
      ∀ i c, changes[i]? = some c → refused (place + i) c = none := by
  induction changes generalizing place with
  | nil => simp [firstRefusal]
  | cons c more ih =>
    have hplace (i : Nat) : place + 1 + i = place + (i + 1) := by omega
    rw [firstRefusal, Option.or_eq_none_iff, ih]
    simp only [hplace]
    constructor
    · intro ⟨hc, hmore⟩ i d hd
      cases i with
      | zero =>
        obtain rfl : c = d := Option.some.inj hd
        exact hc
      | succ i => exact hmore i d hd
    · intro h
      exact ⟨h 0 c rfl, fun i d hd => h (i + 1) d hd⟩

namespace Database

variable {σ τ : Type} {db : Database σ} {refused : Refusals}

def executeAll (db : Database σ) (changes : List Change) (s : σ) : σ :=
  changes.foldl (fun s c => db.execute c s) s

/-- What is relied on of a database. -/
structure Lawful (db : Database σ) : Prop where
  tables_begin (s : σ) : db.tables (db.begin s) = db.tables s
  tables_execute (c : Change) (s : σ) : db.tables (db.execute c s) = (db.tables s).apply c
  tables_commit (s : σ) : db.tables (db.commit s) = db.tables s
  tables_rollback (s : σ) (changes : List Change) :
    db.tables (db.rollback (db.executeAll changes (db.begin s))) = db.tables s

theorem Lawful.tables_executeAll (hdb : db.Lawful) (changes : List Change) (s : σ) :
    db.tables (db.executeAll changes s) = (db.tables s).applyAll changes := by
  induction changes generalizing s with
  | nil => rfl
  | cons c more ih =>
    show db.tables (db.executeAll more (db.execute c s)) = ((db.tables s).apply c).applyAll more
    rw [ih, hdb.tables_execute]

/-! ## Changes in place -/

theorem makeAll_of_none {place : Nat} {changes : List Change} (s : σ)
    (h : firstRefusal refused place changes = none) :
    db.makeAll refused place changes s = (none, db.executeAll changes s) := by
  induction changes generalizing place s with
  | nil => rfl
  | cons c more ih =>
    obtain ⟨hc, hmore⟩ := Option.or_eq_none_iff.1 h
    rw [makeAll, hc]
    exact ih (db.execute c s) hmore

/-- Of changes with a refused one, those in front of it are made. -/
theorem makeAll_of_refused {place : Nat} {made more : List Change} {c : Change} {reason : String}
    (s : σ) (hmade : firstRefusal refused place made = none)
    (hc : refused (place + made.length) c = some reason) :
    db.makeAll refused place (made ++ c :: more) s = (some reason, db.executeAll made s) := by
  induction made generalizing place s with
  | nil =>
    rw [List.nil_append, makeAll, show refused place c = some reason from hc]
    rfl
  | cons d made ih =>
    obtain ⟨hd, hmade⟩ := Option.or_eq_none_iff.1 hmade
    rw [List.cons_append, makeAll, hd]
    refine ih (db.execute d s) hmade ?_
    rw [← hc, List.length_cons, Nat.add_assoc, Nat.add_comm 1]

/-- What has been done at the end, of a transaction that goes through or not, are some statements. -/
theorem exists_makeAll (db : Database σ) (refused : Refusals) (place : Nat) (changes : List Change)
    (s : σ) : ∃ made, db.makeAll refused place changes s =
      (firstRefusal refused place changes, db.executeAll made s) := by
  induction changes generalizing place s with
  | nil => exact ⟨[], rfl⟩
  | cons c more ih =>
    rw [makeAll, firstRefusal]
    cases refused place c with
    | some reason => exact ⟨[], rfl⟩
    | none =>
      obtain ⟨made, hmade⟩ := ih (place + 1) (db.execute c s)
      exact ⟨c :: made, hmade⟩

/-! ## Transactions -/

theorem transact_fst (db : Database σ) (refused : Refusals) (changes : List Change) (s : σ) :
    (db.transact refused changes s).1 = firstRefusal refused 0 changes := by
  obtain ⟨made, hmade⟩ := exists_makeAll db refused 0 changes (db.begin s)
  rw [transact, hmade]
  cases firstRefusal refused 0 changes with
  | none => rfl
  | some reason => rfl

/-- **A transaction makes all of its changes or none.** -/
theorem Lawful.tables_transact (hdb : db.Lawful) (refused : Refusals) (changes : List Change)
    (s : σ) : db.tables (db.transact refused changes s).2 =
      match firstRefusal refused 0 changes with
      | none => (db.tables s).applyAll changes
      | some _ => db.tables s := by
  cases hfirst : firstRefusal refused 0 changes with
  | none =>
    rw [transact, makeAll_of_none _ hfirst]
    show db.tables (db.commit (db.executeAll changes (db.begin s))) = _
    rw [hdb.tables_commit, hdb.tables_executeAll, hdb.tables_begin]
  | some reason =>
    obtain ⟨made, hmade⟩ := exists_makeAll db refused 0 changes (db.begin s)
    rw [transact, hmade, hfirst]
    exact hdb.tables_rollback s made

/-! ## Reports and sweeps -/

theorem store_eq (db : Database σ) (refused : Refusals) (s : σ) (now : Instant) (r : Report) :
    let node := ((db.tables s).enrol now.toMicros r.runtime).1
    db.store refused s now r =
      (match firstRefusal refused 0 (r.changes node now.toMicros) with
        | none => .ok node
        | some reason => .error (.refused reason),
      (db.transact refused (r.changes node now.toMicros) s).2) := by
  intro node
  rw [store, ← transact_fst db refused _ s]
  cases db.transact refused (r.changes node now.toMicros) s with
  | mk refusal t =>
    cases refusal with
    | none => rfl
    | some reason => rfl

theorem sweep_eq (db : Database σ) (refused : Refusals) (s : σ) (retention nodeRetention : Span)
    (now : Instant) :
    let changes := sweepChanges retention nodeRetention now
    db.sweep refused s retention nodeRetention now =
      (match firstRefusal refused 0 changes with
        | none => .ok ((db.tables s).lost (db.tables (db.transact refused changes s).2))
        | some reason => .error (.refused reason),
      (db.transact refused changes s).2) := by
  intro changes
  rw [sweep, ← transact_fst db refused _ s]
  cases db.transact refused changes s with
  | mk refusal t =>
    cases refusal with
    | none => rfl
    | some reason => rfl

variable {other : Database τ} {s : σ} {t : τ}

/-- Databases with the same tables answer a report alike, and have the same tables afterwards. -/
theorem Lawful.store_congr (hdb : db.Lawful) (hother : other.Lawful)
    (h : db.tables s = other.tables t) (refused : Refusals) (now : Instant) (r : Report) :
    (db.store refused s now r).1 = (other.store refused t now r).1 ∧
      db.tables (db.store refused s now r).2 = other.tables (other.store refused t now r).2 := by
  rw [store_eq, store_eq, h]
  refine ⟨rfl, ?_⟩
  rw [hdb.tables_transact, hother.tables_transact, h]

theorem Lawful.sweep_congr (hdb : db.Lawful) (hother : other.Lawful)
    (h : db.tables s = other.tables t) (refused : Refusals) (retention nodeRetention : Span)
    (now : Instant) : (db.sweep refused s retention nodeRetention now).1 =
        (other.sweep refused t retention nodeRetention now).1 ∧
      db.tables (db.sweep refused s retention nodeRetention now).2 =
        other.tables (other.sweep refused t retention nodeRetention now).2 := by
  have htables (changes : List Change) : db.tables (db.transact refused changes s).2 =
      other.tables (other.transact refused changes t).2 := by
    rw [hdb.tables_transact, hother.tables_transact, h]
  rw [sweep_eq, sweep_eq, h]
  refine ⟨?_, htables _⟩
  rw [htables]

end Database

/-! ## Databases in memory -/

theorem Snapshot.saved_executeAll (changes : List Change) (s : Snapshot) :
    (Snapshot.database.executeAll changes s).saved = s.saved := by
  induction changes generalizing s with
  | nil => rfl
  | cons c more ih => exact ih (Snapshot.database.execute c s)

theorem Snapshot.lawful : Snapshot.database.Lawful where
  tables_begin _ := rfl
  tables_execute _ _ := rfl
  tables_commit _ := rfl
  tables_rollback s changes := by
    show (Snapshot.database.executeAll changes (Snapshot.database.begin s)).saved.getD _ = s.current
    rw [Snapshot.saved_executeAll]
    rfl

end ImageGate.History
