import ImageGate.Proofs.History.LiveView
import Mathlib.Data.Set.Basic

/-!
# Longer windows never keep less

Three windows look back from the clock: the times for which nodes and rows are kept, and the time for
which a node counts as live. A window that is too long to be taken from the clock is cut off at the
start of 1970 (`Instant.Reaches`), which may lie behind cutoffs that shorter windows have: windows of
a hundred thousand years are exact and have cutoffs long before 1970.

So cutoffs do not simply move back when windows grow. What does hold is that the cutoff of a longer
window lies further back or is the start of 1970 (`Instant.toMicros_before_longer`). For instants
after 1970 began the two are alike, and `sweep_longer` follows: a longer window deletes no more and
shows no less.
-/

namespace ImageGate

/-- **The cutoff of a longer window lies further back, or is the start of 1970.** -/
theorem Instant.toMicros_before_longer {now : Instant} {shorter longer : Span}
    (hmax : now.second ≤ secondMax) (hle : shorter ≤ longer) :
    (now.before longer).toMicros ≤ (now.before shorter).toMicros ∨
      (now.before longer).toMicros = 0 := by
  by_cases hreach : now.Reaches longer
  · rw [toMicros_before hreach, toMicros_before (hreach.mono hmax hle)]
    rw [Span.le_def] at hle
    exact .inl (by omega)
  · exact .inr (toMicros_before_of_not_reaches hreach)

namespace History

/-! ## Tables with two cutoffs -/

/-- The rows of a table that are not left. -/
def gone {α : Type} (rows left : List α) : Set α :=
  {r | r ∈ rows ∧ r ∉ left}

section Table

variable {α : Type} {rows left more : List α} {time : α → Int} {cutoff further : Int}

theorem gone_mono (h : left.Sublist more) : gone rows more ⊆ gone rows left :=
  fun _ hr => ⟨hr.1, fun hleft => hr.2 (h.subset hleft)⟩

theorem filter_sublist_of_imp {p q : α → Bool} (himp : ∀ r ∈ rows, q r = true → p r = true) :
    (rows.filter q).Sublist (rows.filter p) := by
  rw [← filter_filter_of_imp himp]
  exact List.filter_sublist

/-- Rows that are younger than 1970 and than a cutoff are younger than one that lies further back or
at the start of 1970. -/
theorem sublist_filter_further (htime : ∀ r ∈ rows, 0 < time r)
    (hcutoff : further ≤ cutoff ∨ further = 0) :
    (rows.filter fun r => decide (cutoff < time r)).Sublist
      (rows.filter fun r => decide (further < time r)) := by
  refine filter_sublist_of_imp fun r hr hyoung => ?_
  have hpositive : 0 < time r := htime r hr
  rw [decide_eq_true_iff] at hyoung ⊢
  omega

/-- A cutoff at the start of 1970 leaves all rows that are younger. -/
theorem filter_of_cutoff_zero (htime : ∀ r ∈ rows, 0 < time r) (hcutoff : cutoff = 0) :
    (rows.filter fun r => decide (cutoff < time r)) = rows := by
  refine List.filter_eq_self.2 fun r hr => ?_
  rw [hcutoff]
  exact decide_eq_true (htime r hr)

end Table

/-! ## Sweeps and live views with two windows -/

/-- Nodes have been seen and rows confirmed after 1970 began. -/
structure IsAfterEpoch (h : History) : Prop where
  nodes : ∀ n ∈ h.nodes, 0 < n.lastSeen
  images : ∀ r ∈ h.images, 0 < r.reportedAt
  filesystems : ∀ r ∈ h.filesystems, 0 < r.reportedAt

variable {h : History} {now : Instant}

/-- A sweep that deletes rows goes by its cutoff for rows. -/
theorem rows_sweep (h : History) {retention : Span} (hne : retention ≠ 0) (nodeRetention : Span)
    (now : Instant) :
    (h.sweep retention nodeRetention now).2.images =
        (h.images.filter fun r => decide ((now.before retention).toMicros < r.reportedAt)) ∧
      (h.sweep retention nodeRetention now).2.filesystems =
        h.filesystems.filter fun r => decide ((now.before retention).toMicros < r.reportedAt) := by
  rw [sweep_eq_purge, if_neg hne]
  exact ⟨rfl, rfl⟩

/-- Live views with a cutoff that lies further back, or at the start of 1970, show all that is shown
with the other one. -/
theorem viewsSince_sublist {since earlier : Int} (hlate : IsAfterEpoch h)
    (hcutoff : earlier ≤ since ∨ earlier = 0) (nodename : String) :
    (h.viewsSince since nodename).Sublist (h.viewsSince earlier nodename) := by
  refine (filter_sublist_of_imp fun n hn hlive => ?_).map _
  have hpositive : 0 < n.lastSeen := hlate.nodes n hn
  rw [Bool.and_eq_true, decide_eq_true_iff] at hlive ⊢
  exact ⟨hlive.1, by omega⟩

theorem view_mem_viewsSince_zero (hlate : IsAfterEpoch h) {n : NodeRow} (hn : n ∈ h.nodes)
    {nodename : String} (hname : nodename = "" ∨ n.identity.nodename = nodename) :
    h.view false n ∈ h.viewsSince 0 nodename := by
  refine List.mem_map_of_mem (List.mem_filter.2 ⟨hn, ?_⟩)
  have hpositive : 0 ≤ n.lastSeen := Int.le_of_lt (hlate.nodes n hn)
  rcases hname with rfl | rfl
  · simpa using hpositive
  · simpa using hpositive

/-! ## Main statement -/

/-- **Longer windows never keep less.** At every instant of the calendar, and in every history of
instants after 1970 began, a sweep with a longer time for nodes deletes no other nodes than one with
a shorter time, one with a longer time for rows deletes no other rows (rows that are kept for no time
are kept for ever), and a longer live window shows all nodes that a shorter one shows. The windows
are any spans. One that cannot be taken from the instant deletes nothing and hides no node. -/
theorem sweep_longer (hnow : now.isInCalendar = true) (hlate : IsAfterEpoch h) :
    (∀ shorter longer, shorter ≤ longer →
      (∀ retention retention', gone h.nodes (h.sweep retention longer now).2.nodes ⊆
        gone h.nodes (h.sweep retention' shorter now).2.nodes) ∧
      (shorter ≠ 0 → ∀ nodeRetention nodeRetention',
        gone h.images (h.sweep longer nodeRetention now).2.images ⊆
            gone h.images (h.sweep shorter nodeRetention' now).2.images ∧
          gone h.filesystems (h.sweep longer nodeRetention now).2.filesystems ⊆
            gone h.filesystems (h.sweep shorter nodeRetention' now).2.filesystems) ∧
      ∀ nodename, (h.report shorter now nodename false).Sublist
        (h.report longer now nodename false)) ∧
    ∀ window, ¬ now.Reaches window →
      (∀ retention, (h.sweep retention window now).2.nodes = h.nodes) ∧
      (∀ nodeRetention, (h.sweep window nodeRetention now).2.images = h.images ∧
        (h.sweep window nodeRetention now).2.filesystems = h.filesystems) ∧
      ∀ nodename, ∀ n ∈ h.nodes, nodename = "" ∨ n.identity.nodename = nodename →
        h.view false n ∈ h.report window now nodename false := by
  simp only [Instant.isInCalendar, Bool.and_eq_true, decide_eq_true_eq] at hnow
  constructor
  · intro shorter longer hle
    have hcutoff := Instant.toMicros_before_longer hnow.2 hle
    refine ⟨fun retention retention' => ?_, fun hne nodeRetention nodeRetention' => ?_,
      fun nodename => ?_⟩
    · rw [nodes_sweep, nodes_sweep]
      exact gone_mono (sublist_filter_further hlate.nodes hcutoff)
    · have hne' : longer ≠ 0 := fun hzero => hne (Span.eq_zero_of_le hle hzero)
      obtain ⟨himages, hfilesystems⟩ := rows_sweep h hne nodeRetention' now
      obtain ⟨himages', hfilesystems'⟩ := rows_sweep h hne' nodeRetention now
      rw [himages, himages', hfilesystems, hfilesystems']
      exact ⟨gone_mono (sublist_filter_further hlate.images hcutoff),
        gone_mono (sublist_filter_further hlate.filesystems hcutoff)⟩
    · rw [report_eq_viewsSince, report_eq_viewsSince]
      exact viewsSince_sublist hlate hcutoff nodename
  · intro window hfar
    have hcutoff := Instant.toMicros_before_of_not_reaches hfar
    refine ⟨fun retention => ?_, fun nodeRetention => ?_, fun nodename n hn hname => ?_⟩
    · rw [nodes_sweep]
      exact filter_of_cutoff_zero hlate.nodes hcutoff
    · by_cases hzero : window = 0
      · rw [sweep_eq_purge, if_pos hzero]
        exact ⟨rfl, rfl⟩
      · obtain ⟨himages, hfilesystems⟩ := rows_sweep h hzero nodeRetention now
        rw [himages, hfilesystems]
        exact ⟨filter_of_cutoff_zero hlate.images hcutoff,
          filter_of_cutoff_zero hlate.filesystems hcutoff⟩
    · rw [report_eq_viewsSince, hcutoff]
      exact view_mem_viewsSince_zero hlate hn hname

/-- A minute is shorter than the age of a row and longer than that of its node, and 49 seconds are
shorter than both. The cutoff of a hundred thousand years lies before 1970, and the longest window is
cut off. -/
theorem sweep_longer_of_saturated :
    let node : NodeRow := ⟨1, default, 50000000⟩
    let row : ImageRow := ⟨1, default, 30000000, false⟩
    let h : History := { nodes := [node], images := [row] }
    let now : Instant := ⟨100, 0⟩
    let short : Span := .ofSeconds 49
    let minute : Span := .ofSeconds 60
    let far : Span := .ofSeconds (100000 * 31536000)
    now.Reaches far ∧ ¬ now.Reaches .longest ∧
      (h.sweep minute short now).2 = {} ∧ (h.sweep minute minute now).2.nodes = [node] ∧
      gone h.nodes (h.sweep minute far now).2.nodes ⊆
        gone h.nodes (h.sweep minute minute now).2.nodes ∧
      gone h.images (h.sweep far minute now).2.images ⊆
        gone h.images (h.sweep minute minute now).2.images ∧
      (h.sweep .longest minute now).2.images = [row] ∧
      h.report short now "" false = [] ∧ h.view false node ∈ h.report .longest now "" false := by
  intro node row h now short minute far
  have hlate : IsAfterEpoch h := ⟨by decide, by decide, by decide⟩
  have hfar : ¬ now.Reaches .longest := by decide
  have hnow : now.isInCalendar = true := by decide
  obtain ⟨hlonger, hbeyond⟩ := sweep_longer hnow hlate
  obtain ⟨hnodes, himages, -⟩ := hlonger minute far (by decide)
  obtain ⟨-, hrows, hviews⟩ := hbeyond .longest hfar
  exact ⟨by decide, hfar, by decide, by decide, hnodes minute minute,
    (himages (by decide) minute minute).1, (hrows minute).1, by decide,
    hviews "" node List.mem_cons_self (.inl rfl)⟩

end History

end ImageGate
