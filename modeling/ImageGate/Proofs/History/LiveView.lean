import ImageGate.History.View
import ImageGate.Proofs.History.LastReport
import ImageGate.Settings.Basic

/-!
# Sweeps leave the live view alone

A sweep goes by two cutoffs and the live view by a third one, and they look at different instants: a
node is silent since it was last seen, a row is old since it was last confirmed. None of this gets in
the way of the live view as long as its window is the shortest (`Run.report_sweep`). The reason is
that the marked rows of a node tell the instant at which the node was last seen, in every run
(`Run.reportedAt_eq_lastSeen`), so the rows of a live node are as young as the node.
-/

namespace ImageGate

namespace History

/-! ## Views and sweeps by their cutoffs -/

/-- The nodes seen since an instant with their last reports. -/
def viewsSince (h : History) (since : Int) (nodename : String) : List NodeView :=
  (h.nodes.filter fun n =>
    (nodename.isEmpty || n.identity.nodename == nodename) && since ≤ n.lastSeen).map (h.view false)

/-- Delete the rows last confirmed at or before an instant. -/
def dropRows (h : History) (upTo : Int) : History :=
  (h.dropImages upTo).dropFilesystems upTo

/-- What is left when old nodes and, if there is a cutoff for them, old rows have been deleted. -/
def purge (h : History) (nodesUpTo : Int) : Option Int → History
  | none => h.dropNodes nodesUpTo
  | some rowsUpTo => (h.dropNodes nodesUpTo).dropRows rowsUpTo

variable {retention : Span} {past : List Deed} {h : History}

theorem report_eq_viewsSince (h : History) (freshness : Span) (now : Instant) (nodename : String) :
    h.report freshness now nodename false =
      h.viewsSince (now.before freshness).toMicros nodename := by
  simp [report, viewsSince]

theorem sweep_eq_purge (h : History) (retention nodeRetention : Span) (now : Instant) :
    (h.sweep retention nodeRetention now).2 = h.purge (now.before nodeRetention).toMicros
      (if retention = 0 then none else some (now.before retention).toMicros) := by
  rw [sweep_snd, sweepChanges]
  split <;> rfl

/-! ## Marked rows -/

/-- **Marked rows are as old as their node**: they tell the instant at which it was last seen. -/
theorem Run.reportedAt_eq_lastSeen (run : Run retention past h) {n : NodeRow} (hn : n ∈ h.nodes) :
    (∀ r ∈ h.images, r.node = n.id → r.inLastReport = true → r.reportedAt = n.lastSeen) ∧
      ∀ r ∈ h.filesystems, r.node = n.id → r.inLastReport = true → r.reportedAt = n.lastSeen := by
  obtain ⟨now, report, later, hlast, himages, hfilesystems⟩ := run.follows n hn
  constructor
  · intro r hr hnode hmark
    have hnew := ((himages r).1 ⟨hr, hnode, hmark⟩).1.mem
    rw [hlast.lastSeen, (Report.of_mem_imageRows hnew).2.2]
  · intro r hr hnode hmark
    have hnew := ((hfilesystems r).1 ⟨hr, hnode, hmark⟩).1.mem
    rw [hlast.lastSeen, (Report.of_mem_filesystemRows hnew).2.2]

/-! ## What a sweep leaves of the live view -/

section Purge

variable {nodesUpTo rowsUpTo since : Int} {nodename : String}

/-- Filtering twice is filtering once where the second test implies the first one. -/
theorem filter_filter_of_imp {α : Type} {p q : α → Bool} {as : List α}
    (himp : ∀ a ∈ as, q a = true → p a = true) : (as.filter p).filter q = as.filter q := by
  rw [List.filter_filter]
  refine List.filter_congr fun a ha => ?_
  cases hq : q a with
  | false => rfl
  | true => simp [himp a ha hq]

theorem viewsSince_dropNodes (h : History) (hnodes : nodesUpTo < since) :
    (h.dropNodes nodesUpTo).viewsSince since nodename = h.viewsSince since nodename := by
  unfold viewsSince dropNodes
  dsimp only
  rw [filter_filter_of_imp]
  · rfl
  · intro n _ hlive
    simp only [Bool.and_eq_true, decide_eq_true_eq] at hlive ⊢
    omega

/-- The last report of a node is younger than a cutoff for rows that lies before it. -/
theorem Run.view_dropRows (run : Run retention past h) {n : NodeRow} (hn : n ∈ h.nodes)
    (hseen : rowsUpTo < n.lastSeen) : (h.dropRows rowsUpTo).view false n = h.view false n := by
  obtain ⟨himages, hfilesystems⟩ := run.reportedAt_eq_lastSeen hn
  unfold view dropRows dropImages dropFilesystems
  dsimp only
  rw [filter_filter_of_imp, filter_filter_of_imp]
  · intro r hr hmine
    simp only [Bool.false_or, Bool.and_eq_true, beq_iff_eq] at hmine
    rw [hfilesystems r hr hmine.1 hmine.2]
    exact decide_eq_true hseen
  · intro r hr hmine
    simp only [Bool.false_or, Bool.and_eq_true, beq_iff_eq] at hmine
    rw [himages r hr hmine.1 hmine.2]
    exact decide_eq_true hseen

theorem Run.viewsSince_dropRows (run : Run retention past h) (hrows : rowsUpTo < since) :
    (h.dropRows rowsUpTo).viewsSince since nodename = h.viewsSince since nodename := by
  refine List.map_congr_left fun n hn => ?_
  obtain ⟨hmem, hlive⟩ := List.mem_filter.1 hn
  simp only [Bool.and_eq_true, decide_eq_true_eq] at hlive
  exact run.view_dropRows hmem (by omega)

/-- **A sweep leaves the live view alone** if both of its cutoffs lie before that of the view. -/
theorem Run.viewsSince_purge (run : Run retention past h) (hnodes : nodesUpTo < since)
    {rowsUpTo : Option Int} (hrows : ∀ cutoff ∈ rowsUpTo, cutoff < since) :
    (h.purge nodesUpTo rowsUpTo).viewsSince since nodename = h.viewsSince since nodename := by
  cases rowsUpTo with
  | none => exact viewsSince_dropNodes h hnodes
  | some cutoff =>
    -- Rows are kept apart from nodes, so they can just as well be deleted first.
    have hswap : (h.dropNodes nodesUpTo).dropRows cutoff = (h.dropRows cutoff).dropNodes nodesUpTo :=
      rfl
    rw [purge, hswap, viewsSince_dropNodes _ hnodes, run.viewsSince_dropRows (hrows cutoff rfl)]

end Purge

/-! ## Cutoffs -/

/-- Since 1970 began, every time within the bounds of settings can be taken from an instant. -/
theorem reaches_of_le {now : Instant} {span : Span} (hnow : now.IsSinceEpoch)
    (hspan : span ≤ .ofSeconds (Settings.retentionDaysMax * 86400)) : now.Reaches span := by
  have hlong : Span.ofSeconds (Settings.retentionDaysMax * 86400) ≤ Instant.spanMax := by decide
  have hfirst : Instant.secondMin ≤ -(Settings.retentionDaysMax * 86400 : Nat) - 1 := by decide
  have hback : _ ≤ (now.back span).second := now.le_second_back span
  have hepoch : 0 ≤ now.second := hnow.since_epoch
  have hwhole : span.nanos / 1000000000 ≤ Settings.retentionDaysMax * 86400 := by
    rw [Span.le_def, Span.nanos_ofSeconds] at hspan
    omega
  refine ⟨Nat.le_trans hspan hlong, Instant.isInCalendar_iff.2 ⟨?_, ?_⟩⟩
  · generalize Instant.secondMin = first at hfirst ⊢
    omega
  · exact (now.second_back_le span).trans hnow.in_calendar

theorem toMicros_before_of_le {now : Instant} {span : Span} (hnow : now.IsSinceEpoch)
    (hspan : span ≤ .ofSeconds (Settings.retentionDaysMax * 86400)) :
    (now.before span).toMicros = (now.nanos - span.nanos) / 1000 :=
  Instant.toMicros_before (reaches_of_le hnow hspan)

/-! ## Main statement -/

/-- A node counts as live for less time than nodes and rows are kept, at an instant of the calendar
since 1970 began. The times are in whole microseconds, as instants are kept, and within the bounds of
settings. The time for which nodes are kept may go beyond the bounds, but where it goes beyond the
calendar too, its cutoff is the start of 1970, and that must not lie in the live window. -/
structure LiveWindowIsShortest (now : Instant) (freshness retention nodeRetention : Span) : Prop where
  since_epoch : now.IsSinceEpoch
  freshness_isWhole : freshness.IsWhole
  retention_isWhole : retention.IsWhole
  nodeRetention_isWhole : nodeRetention.IsWhole
  freshness_le : freshness ≤ .ofSeconds (3 * Settings.intervalMax)
  retention_le : retention ≤ .ofSeconds (Settings.retentionDaysMax * 86400)
  nodes : freshness < nodeRetention
  rows : retention = 0 ∨ freshness < retention
  nodeRetention_le : nodeRetention ≤ .ofSeconds (Settings.retentionDaysMax * 86400) ∨
    freshness.nanos + 1000 ≤ now.nanos

section Shortest

variable {now : Instant} {freshness nodeRetention : Span}

/-- The cutoff of the live window is exact. -/
theorem LiveWindowIsShortest.toMicros_before_freshness
    (hw : LiveWindowIsShortest now freshness retention nodeRetention) :
    (now.before freshness).toMicros = (now.nanos - freshness.nanos) / 1000 := by
  have hshort : Span.ofSeconds (3 * Settings.intervalMax) ≤
      .ofSeconds (Settings.retentionDaysMax * 86400) := by decide
  exact toMicros_before_of_le hw.since_epoch (Nat.le_trans hw.freshness_le hshort)

/-- The cutoff for nodes lies before the live window. -/
theorem LiveWindowIsShortest.nodes_lt
    (hw : LiveWindowIsShortest now freshness retention nodeRetention) :
    (now.before nodeRetention).toMicros < (now.before freshness).toMicros := by
  have hfreshness : freshness.nanos % 1000 = 0 := hw.freshness_isWhole
  have hwhole : nodeRetention.nanos % 1000 = 0 := hw.nodeRetention_isWhole
  have hlonger : freshness.nanos < nodeRetention.nanos := hw.nodes
  rw [hw.toMicros_before_freshness]
  by_cases hreach : now.Reaches nodeRetention
  · rw [Instant.toMicros_before hreach]
    omega
  · have hlate : freshness.nanos + 1000 ≤ now.nanos :=
      hw.nodeRetention_le.resolve_left fun hle => hreach (reaches_of_le hw.since_epoch hle)
    rw [Instant.toMicros_before_of_not_reaches hreach]
    omega

/-- So does the cutoff for rows. -/
theorem LiveWindowIsShortest.rows_lt
    (hw : LiveWindowIsShortest now freshness retention nodeRetention) (hne : retention ≠ 0) :
    (now.before retention).toMicros < (now.before freshness).toMicros := by
  have hfreshness : freshness.nanos % 1000 = 0 := hw.freshness_isWhole
  have hwhole : retention.nanos % 1000 = 0 := hw.retention_isWhole
  have hlonger : freshness.nanos < retention.nanos := hw.rows.resolve_left hne
  rw [hw.toMicros_before_freshness, toMicros_before_of_le hw.since_epoch hw.retention_le]
  omega

end Shortest

/-- **A sweep never changes the live view**, in any history that reports, failures and sweeps have
led to, if nodes and rows are kept for longer than a node counts as live. -/
theorem Run.report_sweep (run : Run retention past h) {now : Instant} {freshness nodeRetention : Span}
    (hw : LiveWindowIsShortest now freshness retention nodeRetention) (nodename : String) :
    (h.sweep retention nodeRetention now).2.report freshness now nodename false =
      h.report freshness now nodename false := by
  rw [report_eq_viewsSince, report_eq_viewsSince, sweep_eq_purge]
  apply run.viewsSince_purge hw.nodes_lt
  intro cutoff hcutoff
  by_cases hzero : retention = 0
  · rw [if_pos hzero] at hcutoff
    cases hcutoff
  · rw [if_neg hzero] at hcutoff
    cases hcutoff
    exact hw.rows_lt hzero

/-- Windows of a few milliseconds: a node that has reported twice is shown with its last report,
whether its old row has been swept or not. -/
theorem Run.report_sweep_of_two_reports :
    let now : Instant := ⟨100, 6500000⟩
    let freshness : Span := .times 3 (.ofMillis 1)
    let retention : Span := .ofMillis 4
    ∃ past h, Run retention past h ∧ (h.report freshness now "" false).length = 1 ∧
      (h.sweep retention retention now).1.images = 1 ∧
      (h.sweep retention retention now).2.report freshness now "" false =
        h.report freshness now "" false := by
  intro now freshness retention
  let old : Report := { images := [{ id := "a", repoTags := ["app:1"] }] }
  let new : Report := { images := [{ id := "b", repoTags := ["app:1"] }] }
  have run : Run retention [.stored 1 ⟨100, 4000000⟩ new, .stored 1 ⟨100, 1000000⟩ old] _ :=
    (Run.start.store admitAll ⟨100, 1000000⟩ old rfl).store admitAll ⟨100, 4000000⟩ new rfl
  have shortest : LiveWindowIsShortest now freshness retention retention :=
    ⟨⟨by decide, by decide⟩, by decide, by decide, by decide, by decide, by decide, by decide,
      by decide, by decide⟩
  exact ⟨_, _, run, by decide +kernel, by decide +kernel, run.report_sweep shortest ""⟩

end History

end ImageGate
