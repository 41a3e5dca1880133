import ImageGate.Proofs.History.Sweeping

/-!
# Views of one history

A history can be shown for one node or for all of them, and with everything it holds or with last
reports only. All of this comes from one list, that of all nodes with all of their rows: a name picks
nodes from it (`report_of_name`), and the live view is what is left of it when silent nodes and
unmarked rows are struck out (`report_live`).

That list holds every row of the nodes that are there, and none twice, because in every run nodes
stand in the order of their numbers and rows in the order of their keys (`Run.coherent`). Among the
rows of one node the number has no say in that order, so it is the order of the texts they are known
by, byte by byte (`ImageRow.bytes_lt_of_order`, `FilesystemRow.bytes_lt_of_order`).
-/

namespace ImageGate

/-! ## The order of a node's rows -/

/-- The bytes of the texts that the row of an image is known by within its node. -/
def ImageRow.bytes (r : ImageRow) : List (List UInt8) :=
  [Text.utf8 r.entry.id, Text.utf8 r.entry.repoTag, Text.utf8 r.entry.repoDigest]

def FilesystemRow.bytes (r : FilesystemRow) : List UInt8 :=
  Text.utf8 r.mountpoint

/-- Of rows of one node, the one that comes first is the first by image, tag and digest, each in the
order of bytes. -/
theorem ImageRow.bytes_lt_of_order {a b : ImageRow} (hnode : a.node = b.node)
    (h : ImageKey.order a.key b.key = .lt) : a.bytes < b.bytes := by
  simp only [ImageKey.order, compareLex, compareOn, ImageRow.key, hnode, Ordering.then_eq_lt,
    Std.LawfulEqCmp.compare_eq_iff_eq, Std.ReflCmp.compare_self, reduceCtorEq, false_or, true_and] at h
  rw [bytes, bytes, List.cons_lt_cons_iff, List.cons_lt_cons_iff, List.cons_lt_cons_iff]
  rcases h with hid | ⟨hid, htag | ⟨htag, hdigest⟩⟩
  · exact .inl (Text.compare_eq_lt_iff.1 hid)
  · exact .inr ⟨by rw [hid], .inl (Text.compare_eq_lt_iff.1 htag)⟩
  · exact .inr ⟨by rw [hid], .inr ⟨by rw [htag], .inl (Text.compare_eq_lt_iff.1 hdigest)⟩⟩

/-- Of rows of one node, the one that comes first has the first mount point in the order of bytes. -/
theorem FilesystemRow.bytes_lt_of_order {a b : FilesystemRow} (hnode : a.node = b.node)
    (h : FilesystemKey.order a.key b.key = .lt) : a.bytes < b.bytes := by
  simp only [FilesystemKey.order, compareLex, compareOn, FilesystemRow.key, hnode,
    Ordering.then_eq_lt, Std.ReflCmp.compare_self, reduceCtorEq, false_or, true_and] at h
  exact Text.compare_eq_lt_iff.1 h

/-- What is struck out of a view when only the last report counts. -/
def NodeView.lastReport (v : NodeView) : NodeView :=
  { v with images := v.images.filter (·.inLastReport)
           filesystems := v.filesystems.filter (·.inLastReport) }

namespace History

variable {retention : Span} {past : List Deed} {h : History}

/-! ## One list for all views -/

/-- The whole history is the list of all nodes with all of their rows, whatever the clock says. -/
theorem report_all (h : History) (freshness : Span) (now : Instant) :
    h.report freshness now "" true = h.nodes.map (h.view true) := by
  simp [report, show "".isEmpty = true from rfl]

theorem lastReport_view (h : History) (n : NodeRow) :
    (h.view true n).lastReport = h.view false n := by
  simp [NodeView.lastReport, view, List.filter_filter, Bool.and_comm]

/-- A name picks nodes from the view of all nodes. -/
theorem report_of_name (h : History) (freshness : Span) (now : Instant) (all : Bool)
    {nodename : String} (hname : nodename ≠ "") : h.report freshness now nodename all =
      (h.report freshness now "" all).filter fun v => v.node.identity.nodename = nodename := by
  have hempty : nodename.isEmpty = false := by simpa using hname
  unfold report
  dsimp only
  rw [List.filter_map, List.filter_filter]
  refine congrArg (List.map (h.view all)) (List.filter_congr fun n _ => ?_)
  simp [view, hempty, beq_eq_decide, show "".isEmpty = true from rfl]

/-- The live view is the last reports of the nodes that have been seen since. -/
theorem report_live (h : History) (freshness : Span) (now : Instant) :
    h.report freshness now "" false = ((h.report freshness now "" true).filter fun v =>
      (now.before freshness).toMicros ≤ v.node.lastSeen).map NodeView.lastReport := by
  rw [report_all, List.filter_map, List.map_map, report_eq_viewsSince, viewsSince]
  have hview : NodeView.lastReport ∘ h.view true = h.view false := funext (lastReport_view h)
  rw [hview]
  refine congrArg (List.map (h.view false)) (List.filter_congr fun n _ => ?_)
  simp [view]

/-! ## Order and completeness -/

/-- The view shows stored rows of its node, images in the strictly ascending order of their texts and
file systems in that of their mount points. -/
structure ShowsInOrder (h : History) (v : NodeView) : Prop where
  node : v.node ∈ h.nodes
  image_of_node : ∀ r ∈ v.images, r ∈ h.images ∧ r.node = v.node.id
  filesystem_of_node : ∀ r ∈ v.filesystems, r ∈ h.filesystems ∧ r.node = v.node.id
  images : v.images.Pairwise fun a b => a.bytes < b.bytes
  filesystems : v.filesystems.Pairwise fun a b => a.bytes < b.bytes

theorem mem_images_view {all : Bool} {n : NodeRow} {r : ImageRow} :
    r ∈ (h.view all n).images ↔
      r ∈ h.images ∧ r.node = n.id ∧ (all = true ∨ r.inLastReport = true) := by
  simp [view]

theorem mem_filesystems_view {all : Bool} {n : NodeRow} {r : FilesystemRow} :
    r ∈ (h.view all n).filesystems ↔
      r ∈ h.filesystems ∧ r.node = n.id ∧ (all = true ∨ r.inLastReport = true) := by
  simp [view]

theorem Coherent.showsInOrder_view (hc : Coherent h) (all : Bool) {n : NodeRow} (hn : n ∈ h.nodes) :
    h.ShowsInOrder (h.view all n) := by
  have himage {r : ImageRow} (hr : r ∈ (h.view all n).images) : r ∈ h.images ∧ r.node = n.id :=
    ⟨(mem_images_view.1 hr).1, (mem_images_view.1 hr).2.1⟩
  have hfilesystem {r : FilesystemRow} (hr : r ∈ (h.view all n).filesystems) :
      r ∈ h.filesystems ∧ r.node = n.id :=
    ⟨(mem_filesystems_view.1 hr).1, (mem_filesystems_view.1 hr).2.1⟩
  refine ⟨hn, fun r => himage, fun r => hfilesystem, ?_, ?_⟩
  · refine List.Pairwise.imp_of_mem (fun {a b} ha hb hab => ?_) (hc.images.filter _)
    exact ImageRow.bytes_lt_of_order ((himage ha).2.trans (himage hb).2.symm) hab
  · refine List.Pairwise.imp_of_mem (fun {a b} ha hb hab => ?_) (hc.filesystems.filter _)
    exact FilesystemRow.bytes_lt_of_order ((hfilesystem ha).2.trans (hfilesystem hb).2.symm) hab

theorem Coherent.pairwise_report (hc : Coherent h) (freshness : Span) (now : Instant)
    (nodename : String) (all : Bool) : (h.report freshness now nodename all).Pairwise
      fun v w => v.node.id < w.node.id := by
  refine List.pairwise_map.2 (hc.numbered.pairwise.sublist List.filter_sublist |>.imp ?_)
  exact fun hab => hab.1

/-! ## Main statement -/

/-- **The views of a history agree.** In every history that reports, failures and sweeps have led to,
a name picks from the view of all nodes those of that name. The live view is the view of everything
without the nodes that have been silent for longer than the live window, and without unmarked rows.
Nodes are shown in the strictly ascending order of their numbers and each with stored rows of its own
in strictly ascending order, so that nothing is shown twice; and where everything is asked for, no
node of the name is left out and no row of a node. -/
theorem Run.report_views (run : Run retention past h) :
    (∀ freshness now all nodename, nodename ≠ "" → h.report freshness now nodename all =
      (h.report freshness now "" all).filter fun v => v.node.identity.nodename = nodename) ∧
    (∀ freshness now, freshness ≤ .ofSeconds (3 * Settings.intervalMax) → now.IsSinceEpoch →
      h.report freshness now "" false = ((h.report freshness now "" true).filter fun v =>
        (now.nanos - freshness.nanos) / 1000 ≤ v.node.lastSeen).map NodeView.lastReport) ∧
    (∀ freshness now nodename all,
      ((h.report freshness now nodename all).Pairwise fun v w => v.node.id < w.node.id) ∧
        ∀ v ∈ h.report freshness now nodename all, h.ShowsInOrder v) ∧
    ∀ freshness now nodename, ∀ n ∈ h.nodes, nodename = "" ∨ n.identity.nodename = nodename →
      ∃ v ∈ h.report freshness now nodename true, v.node = n ∧
        (∀ r ∈ h.images, r.node = n.id → r ∈ v.images) ∧
        ∀ r ∈ h.filesystems, r.node = n.id → r ∈ v.filesystems := by
  have hc : Coherent h := run.coherent
  refine ⟨fun freshness now all nodename => report_of_name h freshness now all, ?_,
    fun freshness now nodename all => ⟨hc.pairwise_report freshness now nodename all, ?_⟩, ?_⟩
  · intro freshness now hfreshness hnow
    have hshort : Span.ofSeconds (3 * Settings.intervalMax) ≤
        .ofSeconds (Settings.retentionDaysMax * 86400) := by decide
    rw [report_live, toMicros_before_of_le hnow (Nat.le_trans hfreshness hshort)]
  · intro v hv
    obtain ⟨n, hn, rfl⟩ := List.mem_map.1 hv
    exact hc.showsInOrder_view all (List.mem_filter.1 hn).1
  · intro freshness now nodename n hn hname
    have hshown : n ∈ h.nodes.filter fun n =>
        (nodename.isEmpty || n.identity.nodename == nodename) &&
          (true || decide ((now.before freshness).toMicros ≤ n.lastSeen)) :=
      List.mem_filter.2 ⟨hn, by simpa using hname⟩
    exact ⟨h.view true n, List.mem_map_of_mem hshown, rfl,
      fun r hr hnode => mem_images_view.2 ⟨hr, hnode, .inl rfl⟩,
      fun r hr hnode => mem_filesystems_view.2 ⟨hr, hnode, .inl rfl⟩⟩

/-- One of two nodes has been silent for too long, and has an image that its last report does not
list any more. -/
theorem Run.report_views_of_silent_node :
    let now : Instant := ⟨310, 500⟩
    let minute : Span := .ofSeconds 60
    ∃ past h, Run (.ofSeconds 1000) past h ∧
      (h.report minute now "" true).map (·.images.map (·.entry.id)) = [["a", "b"], ["a"]] ∧
      (h.report minute now "" false).map (·.node.identity.nodename) = ["y"] ∧
      h.report minute now "x" true =
        (h.report minute now "" true).filter (fun v => v.node.identity.nodename = "x") ∧
      h.report minute now "" false = ((h.report minute now "" true).filter fun v =>
        (now.nanos - minute.nanos) / 1000 ≤ v.node.lastSeen).map NodeView.lastReport ∧
      ∃ v ∈ h.report minute now "x" true, v.node.id = 1 ∧ h.ShowsInOrder v ∧
        ∀ r ∈ h.images, r.node = 1 → r ∈ v.images := by
  intro now minute
  let x : NodeIdentity := { nodename := "x" }
  let a : Image := { id := "a", repoTags := ["app:1"] }
  let b : Image := { id := "b", repoTags := ["app:1"] }
  have run : Run (.ofSeconds 1000) [.stored 3 ⟨300, 0⟩ { runtime := { nodename := "y" }, images := [a] },
      .stored 1 ⟨200, 0⟩ { runtime := x, images := [b] },
      .stored 1 ⟨100, 0⟩ { runtime := x, images := [a, b] }] _ :=
    ((Run.start.store admitAll ⟨100, 0⟩ { runtime := x, images := [a, b] } rfl).store admitAll
      ⟨200, 0⟩ { runtime := x, images := [b] } rfl).store admitAll
      ⟨300, 0⟩ { runtime := { nodename := "y" }, images := [a] } rfl
  obtain ⟨hname, hlive, horder, hall⟩ := run.report_views
  obtain ⟨v, hv, hnode, himages, -⟩ := hall minute now "x" ⟨1, x, 200000000⟩ (by decide +kernel)
    (.inr rfl)
  exact ⟨_, _, run, by decide +kernel, by decide +kernel, hname minute now true "x" (by decide),
    hlive minute now (by decide) ⟨by decide, by decide⟩, v, hv, by rw [hnode],
    (horder minute now "x" true).2 v hv, himages⟩

end History

end ImageGate
