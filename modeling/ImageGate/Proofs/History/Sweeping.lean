import ImageGate.Proofs.History.LiveView

/-!
# What sweeps delete

A sweep deletes the nodes and the rows that have come of age, and counts them; everything else stays
as it is. Age is measured exactly (`IsStale`), although a history keeps whole microseconds only: an
instant in whole microseconds lies at or before a cutoff if it lies at or before the cutoff rounded
down.

A cutoff never moves back while the clock goes on. So an earlier sweep deletes nothing that a later
one would have kept (`purge_purge`), and sweeps at one instant after the other come to the last of
them (`sweeps_append`). What they delete in all is what the last one would have deleted alone: all
counts are differences of lengths, and these add up.
-/

namespace ImageGate

/-! ## Counts -/

namespace Swept

instance : Add Swept :=
  ⟨fun a b => ⟨a.nodes + b.nodes, a.images + b.images, a.filesystems + b.filesystems⟩⟩

theorem add_mk (a b c a' b' c' : Nat) :
    (⟨a, b, c⟩ + ⟨a', b', c'⟩ : Swept) = ⟨a + a', b + b', c + c'⟩ :=
  rfl

theorem eq_of_add_eq {a b : Swept} (h : a + b = a) : b = {} := by
  obtain ⟨an, ai, af⟩ := a
  obtain ⟨bn, bi, bf⟩ := b
  rw [add_mk] at h
  simp only [mk.injEq] at h ⊢
  omega

end Swept

namespace History

variable {retention nodeRetention : Span} {h : History}

theorem swept_sweep (h : History) (retention nodeRetention : Span) (now : Instant) :
    (h.sweep retention nodeRetention now).1 = h.lost (h.sweep retention nodeRetention now).2 :=
  rfl

/-- What sweeps at each of the given instants delete in all. -/
def sweptBy (h : History) (retention nodeRetention : Span) : List Instant → Swept
  | [] => {}
  | now :: later => (h.sweep retention nodeRetention now).1 +
      ((h.sweep retention nodeRetention now).2).sweptBy retention nodeRetention later

/-! ## What is stale -/

/-- An instant in microseconds lies `span` before `now`, or earlier. -/
def IsStale (now : Instant) (span : Span) (micros : Int) : Prop :=
  micros * 1000 ≤ now.nanos - span.nanos

instance (now : Instant) (span : Span) (micros : Int) : Decidable (IsStale now span micros) :=
  inferInstanceAs (Decidable (_ ≤ _))

/-- A row is stale, unless rows are kept for ever. -/
def IsExpired (retention : Span) (now : Instant) (reportedAt : Int) : Prop :=
  retention ≠ 0 ∧ IsStale now retention reportedAt

instance (retention : Span) (now : Instant) (reportedAt : Int) :
    Decidable (IsExpired retention now reportedAt) :=
  inferInstanceAs (Decidable (_ ∧ _))

/-- The cutoff tells what is stale. -/
theorem toMicros_before_lt_iff {now : Instant} {span : Span} (hnow : now.IsSinceEpoch)
    (hspan : span ≤ .ofSeconds (Settings.retentionDaysMax * 86400)) (micros : Int) :
    (now.before span).toMicros < micros ↔ ¬ IsStale now span micros := by
  rw [toMicros_before_of_le hnow hspan, IsStale]
  omega

/-- From a table, the rows with a property are deleted and counted, and the others are left. -/
structure Deletes {α : Type} (P : α → Prop) [DecidablePred P] (rows : List α) (count : Nat)
    (left : List α) : Prop where
  left_eq : left = rows.filter fun r => ¬ P r
  count_eq : count = rows.countP fun r => P r

/-- A sweep deletes what is stale from each of the tables, and nothing else changes. -/
structure DeletesStale (h : History) (retention nodeRetention : Span) (now : Instant)
    (counts : Swept) (next : History) : Prop where
  nodes : Deletes (fun n => IsStale now nodeRetention n.lastSeen) h.nodes counts.nodes next.nodes
  images : Deletes (fun r => IsExpired retention now r.reportedAt) h.images
    counts.images next.images
  filesystems : Deletes (fun r => IsExpired retention now r.reportedAt) h.filesystems
    counts.filesystems next.filesystems
  issued : next.issued = h.issued

theorem deletes_filter {α : Type} {P : α → Prop} [DecidablePred P] {p : α → Bool}
    (hp : ∀ r, p r = true ↔ ¬ P r) (rows : List α) :
    Deletes P rows (rows.length - (rows.filter p).length) (rows.filter p) := by
  have hp : p = fun r => decide ¬ P r := by
    funext r
    rw [Bool.eq_iff_iff, hp, decide_eq_true_iff]
  refine ⟨by rw [hp], ?_⟩
  have hsplit := rows.length_eq_countP_add_countP fun r => decide (P r)
  simp only [hp, ← List.countP_eq_length_filter]
  simp only [decide_eq_true_eq] at hsplit
  omega

theorem deletes_self {α : Type} {P : α → Prop} [DecidablePred P] (hP : ∀ r, ¬ P r)
    (rows : List α) : Deletes P rows (rows.length - rows.length) rows := by
  have hall := deletes_filter (P := P) (p := fun _ => true) (fun r => by simp [hP r]) rows
  rwa [List.filter_true] at hall

theorem deletesStale_sweep {now : Instant} (hnow : now.IsSinceEpoch)
    (hretention : retention ≤ .ofSeconds (Settings.retentionDaysMax * 86400))
    (hnodes : nodeRetention ≤ .ofSeconds (Settings.retentionDaysMax * 86400)) :
    DeletesStale h retention nodeRetention now (h.sweep retention nodeRetention now).1
      (h.sweep retention nodeRetention now).2 := by
  have hstale (n : NodeRow) := toMicros_before_lt_iff hnow hnodes n.lastSeen
  by_cases hzero : retention = 0
  · have hnone (reportedAt : Int) : ¬ IsExpired retention now reportedAt := fun hr => hr.1 hzero
    rw [swept_sweep, sweep_eq_purge, if_pos hzero]
    exact ⟨deletes_filter (fun n => by simpa using hstale n) h.nodes,
      deletes_self (fun _ => hnone _) _, deletes_self (fun _ => hnone _) _, rfl⟩
  · have hexpired (reportedAt : Int) : (now.before retention).toMicros < reportedAt ↔
        ¬ IsExpired retention now reportedAt := by
      rw [toMicros_before_lt_iff hnow hretention, IsExpired, and_iff_right hzero]
    rw [swept_sweep, sweep_eq_purge, if_neg hzero]
    exact ⟨deletes_filter (fun n => by simpa using hstale n) h.nodes,
      deletes_filter (fun r => by simpa using hexpired r.reportedAt) h.images,
      deletes_filter (fun r => by simpa using hexpired r.reportedAt) h.filesystems, rfl⟩

/-! ## Sweeps one after the other -/

section Purge

variable {a b : Int} {r s : Option Int}

/-- **What an earlier cutoff has deleted, a later one deletes too.** -/
theorem purge_purge (h : History) (hnodes : a ≤ b) (hrows : Option.Rel (· ≤ ·) r s) :
    (h.purge a r).purge b s = h.purge b s := by
  have hfilter {α : Type} (time : α → Int) {a b : Int} (hab : a ≤ b) (rows : List α) :
      (rows.filter fun x => decide (a < time x)).filter (fun x => decide (b < time x)) =
        rows.filter fun x => decide (b < time x) :=
    filter_filter_of_imp fun x _ hx => by
      rw [decide_eq_true_iff] at hx ⊢
      omega
  cases hrows with
  | none => simp only [purge, dropNodes, hfilter _ hnodes]
  | some hle =>
    simp only [purge, dropNodes, dropRows, dropImages, dropFilesystems, hfilter _ hnodes,
      hfilter _ hle]

theorem length_purge_le (h : History) (a : Int) (r : Option Int) :
    (h.purge a r).nodes.length ≤ h.nodes.length ∧ (h.purge a r).images.length ≤ h.images.length ∧
      (h.purge a r).filesystems.length ≤ h.filesystems.length := by
  cases r with
  | none => exact ⟨List.length_filter_le _ _, Nat.le_refl _, Nat.le_refl _⟩
  | some => exact ⟨List.length_filter_le _ _, List.length_filter_le _ _, List.length_filter_le _ _⟩

theorem lost_purge_add (h : History) :
    h.lost (h.purge a r) + (h.purge a r).lost ((h.purge a r).purge b s) =
      h.lost ((h.purge a r).purge b s) := by
  obtain ⟨hnodes, himages, hfilesystems⟩ := length_purge_le h a r
  obtain ⟨hnodes', himages', hfilesystems'⟩ := length_purge_le (h.purge a r) b s
  rw [lost, lost, lost, Swept.add_mk]
  simp only [Swept.mk.injEq]
  omega

end Purge

structure CutsBefore (retention nodeRetention : Span) (t last : Instant) : Prop where
  nodes : (t.before nodeRetention).toMicros ≤ (last.before nodeRetention).toMicros
  rows : (t.before retention).toMicros ≤ (last.before retention).toMicros

theorem cutsBefore_of_le {t last : Instant} (ht : t.IsSinceEpoch) (hlast : last.IsSinceEpoch)
    (hretention : retention ≤ .ofSeconds (Settings.retentionDaysMax * 86400))
    (hnodes : nodeRetention ≤ .ofSeconds (Settings.retentionDaysMax * 86400)) (hle : t.nanos ≤ last.nanos) :
    CutsBefore retention nodeRetention t last := by
  have hcutoff (span : Span) (hspan : span ≤ .ofSeconds (Settings.retentionDaysMax * 86400)) :
      (t.before span).toMicros ≤ (last.before span).toMicros := by
    rw [toMicros_before_of_le ht hspan, toMicros_before_of_le hlast hspan]
    omega
  exact ⟨hcutoff _ hnodes, hcutoff _ hretention⟩

variable {t last : Instant}

/-- Two sweeps come to the later one, in what they leave and in what they count. -/
theorem sweep_sweep (h : History) (hcut : CutsBefore retention nodeRetention t last) :
    ((h.sweep retention nodeRetention t).2.sweep retention nodeRetention last).2 =
        (h.sweep retention nodeRetention last).2 ∧
      (h.sweep retention nodeRetention t).1 +
          ((h.sweep retention nodeRetention t).2.sweep retention nodeRetention last).1 =
        (h.sweep retention nodeRetention last).1 := by
  have hrows : Option.Rel (· ≤ ·)
      (if retention = 0 then none else some (t.before retention).toMicros)
      (if retention = 0 then none else some (last.before retention).toMicros) := by
    split
    · exact .none
    · exact .some hcut.rows
  have hpurge := purge_purge h hcut.nodes hrows
  simp only [swept_sweep, sweep_eq_purge]
  exact ⟨hpurge, by rw [lost_purge_add, hpurge]⟩

/-- **Sweeps come to the last of them.** -/
theorem sweeps_append (h : History) {earlier : List Instant}
    (hcut : ∀ t ∈ earlier, CutsBefore retention nodeRetention t last) :
    h.sweeps retention nodeRetention (earlier ++ [last]) =
        (h.sweep retention nodeRetention last).2 ∧
      h.sweptBy retention nodeRetention (earlier ++ [last]) =
        (h.sweep retention nodeRetention last).1 := by
  induction earlier generalizing h with
  | nil => exact ⟨rfl, rfl⟩
  | cons t earlier ih =>
    obtain ⟨ht, hearlier⟩ := List.forall_mem_cons.1 hcut
    obtain ⟨hleft, hcounts⟩ := ih (h.sweep retention nodeRetention t).2 hearlier
    obtain ⟨hleft', hcounts'⟩ := sweep_sweep h ht
    rw [List.cons_append, sweeps, sweptBy, hleft, hcounts]
    exact ⟨hleft', hcounts'⟩

/-- A sweep leaves nothing to a second one at the same instant. -/
theorem sweep_sweep_self (h : History) (retention nodeRetention : Span) (now : Instant) :
    (h.sweep retention nodeRetention now).2.sweep retention nodeRetention now =
      ({}, (h.sweep retention nodeRetention now).2) := by
  obtain ⟨hleft, hcounts⟩ := sweep_sweep (t := now) h ⟨Int.le_refl _, Int.le_refl _⟩
  exact Prod.ext (Swept.eq_of_add_eq hcounts) hleft

/-! ## Main statement -/

/-- **A sweep deletes exactly what is stale, and sweeps compose.** Since 1970 began and with times
within the bounds of settings, a sweep deletes the nodes that have been silent for as long as they
are kept and, unless they are kept for ever, the rows that have not been confirmed for as long as
they are kept, whether marked or not and whether their node is there or not. Sweeps of which none
comes after the last one leave what that one alone would have left, delete as much in all, and
leave nothing to a further one. -/
theorem sweep_exact (hretention : retention ≤ .ofSeconds (Settings.retentionDaysMax * 86400))
    (hnodes : nodeRetention ≤ .ofSeconds (Settings.retentionDaysMax * 86400)) (h : History) :
    (∀ now : Instant, now.IsSinceEpoch →
      DeletesStale h retention nodeRetention now (h.sweep retention nodeRetention now).1
        (h.sweep retention nodeRetention now).2) ∧
    ∀ (earlier : List Instant) (last : Instant),
      (∀ t ∈ earlier, t.IsSinceEpoch ∧ t.nanos ≤ last.nanos) → last.IsSinceEpoch →
      let left := h.sweeps retention nodeRetention (earlier ++ [last])
      left = (h.sweep retention nodeRetention last).2 ∧
        h.sweptBy retention nodeRetention (earlier ++ [last]) =
          (h.sweep retention nodeRetention last).1 ∧
        left.sweep retention nodeRetention last = ({}, left) := by
  refine ⟨fun now hnow => deletesStale_sweep hnow hretention hnodes, ?_⟩
  intro earlier last hearlier hlast left
  have hcut : ∀ t ∈ earlier, CutsBefore retention nodeRetention t last := fun t ht =>
    cutsBefore_of_le (hearlier t ht).1 hlast hretention hnodes (hearlier t ht).2
  obtain ⟨hleft, hcounts⟩ := sweeps_append h hcut
  exact ⟨hleft, hcounts, by rw [show left = _ from hleft, sweep_sweep_self]⟩

/-- Of two rows without a node, one is a microsecond too young for the first sweep and goes with the
second one, while the silent node goes with the first one. -/
theorem sweep_exact_of_two_ticks :
    let day : Span := .ofSeconds 86400
    let hour : Span := .ofSeconds 3600
    let old : ImageRow := ⟨7, default, 3600000001, true⟩
    let new : ImageRow := ⟨7, default, 9000000000, false⟩
    let h : History := { nodes := [⟨1, default, 1000000⟩], images := [old, new] }
    (h.sweep day hour ⟨90000, 0⟩).1 = { nodes := 1 } ∧
      h.sweeps day hour [⟨90000, 0⟩, ⟨90001, 500⟩] = { images := [new] } ∧
      h.sweptBy day hour [⟨90000, 0⟩, ⟨90001, 500⟩] = { nodes := 1, images := 1 } := by
  intro day hour old new h
  have hearlier : ∀ t ∈ [(⟨90000, 0⟩ : Instant)],
      t.IsSinceEpoch ∧ t.nanos ≤ Instant.nanos ⟨90001, 500⟩ :=
    List.forall_mem_singleton.2 ⟨⟨by decide, by decide⟩, by decide⟩
  obtain ⟨-, hsweeps⟩ := @sweep_exact day hour (by decide) (by decide) h
  obtain ⟨hleft, hcounts, -⟩ := hsweeps _ _ hearlier ⟨by decide, by decide⟩
  exact ⟨by decide, hleft.trans (by decide), hcounts.trans (by decide)⟩

end History

end ImageGate
