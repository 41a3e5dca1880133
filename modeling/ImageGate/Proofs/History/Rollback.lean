import ImageGate.Failure
import ImageGate.Policy.Decision
import ImageGate.Proofs.History.Run
import ImageGate.Proofs.History.Transaction

/-!
# Reports that fail half-way

Storing a report changes all tables before it can fail: the node has its number and its instant, the
marks are gone, the file systems are there, and so are the images in front of the one that is
refused (`exists_midway`).

None of this can be seen from outside. A session is a list of requests to a database, each of which
finds what those before it have left behind. What is answered depends on the tables alone
(`Lawful.answers_congr`), and rolling back restores them, though not necessarily everything else that
the database keeps. So a report that fails is answered with its fault, and all requests behind it are
answered as if it had not been sent (`answers_refused`).
-/

namespace ImageGate

/-- The place of the row of an image among the changes of a report, behind the row of the node, the
two changes that take marks away and the rows of file systems. -/
def Report.imagePlace (r : Report) (k : Nat) : Nat :=
  3 + r.filesystemEntries.length + k

namespace History

/-- What storing a report has made of a history in front of the `k`-th row of an image: the node is
noted, the file systems are confirmed, and so are the images up to there. -/
def halfWay (h : History) (now : Instant) (r : Report) (node k : Nat) : History :=
  { nodes := (h.enrol now.toMicros r.runtime).2.nodes
    images := Row.confirm node h.images ((r.imageRows node now.toMicros).take k)
    filesystems := Row.confirm node h.filesystems (r.filesystemRows node now.toMicros)
    issued := h.issued + 1 }

/-! ## Sessions -/

/-- What a database can be told and asked. -/
inductive Request where
  | store (refused : Refusals) (now : Instant) (report : Report)
  | sweep (refused : Refusals) (retention nodeRetention : Span) (now : Instant)
  | nodes (freshness : Span) (now : Instant) (nodename : String) (all : Bool)
  | ids (tag : String) (after : Instant)
  | digests (tag : String) (after : Instant)
  /-- Decide about an image, where some questions to the history are not answered. -/
  | validate (policy : Policy) (inspector : Option Inspector) (answers : Question → Bool)
      (image : String)

inductive Answer where
  | failed (failure : Failure)
  | number (node : Nat)
  | swept (counts : Swept)
  | nodes (views : List NodeView)
  | texts (texts : List String)
  | decided (decision : Decision) (asked : List String)

/-- The answer to what the database can refuse. -/
def Answer.ofOutcome {α : Type} (found : α → Answer) : Except Fault α → Answer
  | .ok a => found a
  | .error fault => .failed (.store fault)

namespace Database

variable {σ τ : Type}

/-- The answer to a request, and what has become of the database. -/
def answer (db : Database σ) (s : σ) : Request → Answer × σ
  | .store refused now report =>
    let (outcome, t) := db.store refused s now report
    (.ofOutcome .number outcome, t)
  | .sweep refused retention nodeRetention now =>
    let (outcome, t) := db.sweep refused s retention nodeRetention now
    (.ofOutcome .swept outcome, t)
  | .nodes freshness now nodename all =>
    (.nodes ((db.tables s).report freshness now nodename all), s)
  | .ids tag after => (.texts ((db.tables s).idsAfter tag after), s)
  | .digests tag after => (.texts ((db.tables s).digestsAfter tag after), s)
  | .validate policy inspector answers image =>
    let archive : Archive := { history := db.tables s, answers }
    let (decision, asked) := policy.validate { history := some archive, inspector } image
    (.decided decision asked, s)

def answers (db : Database σ) : List Request → σ → List Answer
  | [], _ => []
  | q :: more, s => (db.answer s q).1 :: db.answers more (db.answer s q).2

variable {db : Database σ} {other : Database τ} {s : σ} {t : τ}

/-- Databases with the same tables answer a request alike, and have the same tables afterwards. -/
theorem Lawful.answer_congr (hdb : db.Lawful) (hother : other.Lawful)
    (h : db.tables s = other.tables t) (q : Request) :
    (db.answer s q).1 = (other.answer t q).1 ∧
      db.tables (db.answer s q).2 = other.tables (other.answer t q).2 := by
  cases q with
  | store refused now report =>
    obtain ⟨houtcome, htables⟩ := hdb.store_congr hother h refused now report
    exact ⟨congrArg (Answer.ofOutcome .number) houtcome, htables⟩
  | sweep refused retention nodeRetention now =>
    obtain ⟨houtcome, htables⟩ := hdb.sweep_congr hother h refused retention nodeRetention now
    exact ⟨congrArg (Answer.ofOutcome .swept) houtcome, htables⟩
  | nodes | ids | digests | validate =>
    simp only [answer, h]
    exact ⟨trivial, trivial⟩

/-- **What a session is answered depends on the tables alone.** -/
theorem Lawful.answers_congr (hdb : db.Lawful) (hother : other.Lawful)
    (h : db.tables s = other.tables t) (requests : List Request) :
    db.answers requests s = other.answers requests t := by
  induction requests generalizing s t with
  | nil => rfl
  | cons q requests ih =>
    obtain ⟨hanswer, htables⟩ := hdb.answer_congr hother h q
    rw [answers, answers, hanswer, ih htables]

/-! ## Half-way -/

variable {refused : Refusals} {now : Instant} {report : Report} {k : Nat} {row : ImageRow}
  {reason : String}

/-- When the row of an image is refused, everything in front of it has been done. -/
theorem exists_midway (hdb : db.Lawful) (s : σ) {node : Nat}
    (hrow : (report.imageRows node now.toMicros)[k]? = some row)
    (hrefused : refused (report.imagePlace k) (.putImage row) = some reason)
    (hbefore : ∀ place < report.imagePlace k, ∀ c,
      (report.changes node now.toMicros)[place]? = some c → refused place c = none) :
    ∃ midway, db.makeAll refused 0 (report.changes node now.toMicros) (db.begin s) =
        (some reason, midway) ∧
      db.tables midway = (db.tables s).halfWay now report node k := by
  let made : List Change :=
    [.enrol now.toMicros report.runtime, .unmarkFilesystems node, .unmarkImages node] ++
      (report.filesystemRows node now.toMicros).map .putFilesystem ++
      ((report.imageRows node now.toMicros).take k).map .putImage
  obtain ⟨hk, rfl⟩ := List.getElem?_eq_some_iff.1 hrow
  have hchanges : report.changes node now.toMicros = made ++
      .putImage (report.imageRows node now.toMicros)[k] ::
        ((report.imageRows node now.toMicros).drop (k + 1)).map .putImage := by
    simp only [made, Report.changes, List.append_assoc]
    rw [← List.map_cons, ← List.map_append, List.getElem_cons_drop, List.take_append_drop]
  have hlength : made.length = report.imagePlace k := by
    simp only [made, Report.imagePlace, Report.filesystemRows, List.length_append, List.length_map,
      List.length_take, List.length_cons, List.length_nil, Nat.min_eq_left (Nat.le_of_lt hk)]
  have hmade : firstRefusal refused 0 made = none := by
    rw [firstRefusal_eq_none_iff]
    intro place c hc
    have hplace : place < made.length := (List.getElem?_eq_some_iff.1 hc).1
    rw [Nat.zero_add]
    apply hbefore place (hlength ▸ hplace) c
    rw [hchanges, List.getElem?_append_left hplace, hc]
  have hend : refused (0 + made.length) _ = some reason :=
    (Nat.zero_add _).trans hlength ▸ hrefused
  refine ⟨db.executeAll made (db.begin s), ?_, ?_⟩
  · rw [hchanges]
    exact makeAll_of_refused _ hmade hend
  · rw [hdb.tables_executeAll, hdb.tables_begin]
    exact applyAll_changes ..

/-! ## Main statement -/

/-- **A report that fails leaves no trace.** When the row of an image is refused, whichever of the
report's it is, the report has taken a number and changed all tables up to that row; it is answered
with a fault of the store, and whatever is asked or told afterwards, reports with their numbers,
sweeps, questions and decisions, is answered as if the report had not been sent. Nothing else is
relied on than what every database does with a transaction. -/
theorem answers_refused (hdb : db.Lawful) {node : Nat}
    (hnode : ((db.tables s).enrol now.toMicros report.runtime).1 = node)
    (hrow : (report.imageRows node now.toMicros)[k]? = some row)
    (hrefused : refused (report.imagePlace k) (.putImage row) = some reason)
    (hbefore : ∀ place < report.imagePlace k, ∀ c,
      (report.changes node now.toMicros)[place]? = some c → refused place c = none) :
    (∃ midway, db.makeAll refused 0 (report.changes node now.toMicros) (db.begin s) =
        (some reason, midway) ∧
      db.tables midway = (db.tables s).halfWay now report node k) ∧
      (db.store refused s now report).1 = .error (.refused reason) ∧
      ∀ requests, db.answers (.store refused now report :: requests) s =
        .failed (.store (.refused reason)) :: db.answers requests s := by
  obtain ⟨midway, hmidway, htables⟩ := exists_midway hdb s hrow hrefused hbefore
  have hfirst : firstRefusal refused 0 (report.changes node now.toMicros) = some reason := by
    obtain ⟨made, hmade⟩ := exists_makeAll db refused 0 (report.changes node now.toMicros)
      (db.begin s)
    exact (congrArg Prod.fst hmade).symm.trans (congrArg Prod.fst hmidway)
  have hstore : db.store refused s now report = (.error (.refused reason),
      (db.transact refused (report.changes node now.toMicros) s).2) := by
    rw [store_eq, hnode, hfirst]
  have hrestored :
      db.tables (db.transact refused (report.changes node now.toMicros) s).2 = db.tables s := by
    rw [hdb.tables_transact, hfirst]
  refine ⟨⟨midway, hmidway, htables⟩, congrArg Prod.fst hstore, fun requests => ?_⟩
  rw [answers, answer, hstore]
  exact congrArg (List.cons _) (hdb.answers_congr hdb hrestored requests)

/-- The last of three rows is refused, though the same row has been put twice by then. The next node
gets the number that the report had taken. -/
theorem answers_refused_of_equal_rows :
    let images : List Image := [{ id := "a", repoTags := ["app:1", "app:1", "app:1"] }]
    let refused : Refusals := fun place _ => if place = 5 then some "disk is full" else none
    let s : Snapshot := { current := (({} : History).store admitAll ⟨100, 0⟩ {}).2 }
    (∀ requests, Snapshot.database.answers (.store refused ⟨200, 0⟩ { images } :: requests) s =
      .failed (.store (.refused "disk is full")) :: Snapshot.database.answers requests s) ∧
    Snapshot.database.answers [.store refused ⟨200, 0⟩ { images }, .ids "app:1" .epoch,
        .store admitAll ⟨300, 0⟩ { runtime := { nodename := "other" } }] s =
      [.failed (.store (.refused "disk is full")), .texts [], .number 2] := by
  intro images refused s
  have hadmitted (place : Nat) (hplace : place < 5) (c : Change) : refused place c = none :=
    if_neg (Nat.ne_of_lt hplace)
  obtain ⟨-, -, hall⟩ :=
    @answers_refused _ Snapshot.database s refused ⟨200, 0⟩ { images } 2 _ _ Snapshot.lawful _ rfl
      rfl rfl fun place hplace c _ => hadmitted place hplace c
  refine ⟨hall, ?_⟩
  rw [hall]
  rfl

end Database

end History

end ImageGate
