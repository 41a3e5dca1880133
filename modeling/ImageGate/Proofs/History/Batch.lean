import ImageGate.Proofs.History.Interleaving
import ImageGate.Proofs.History.LastReport
import Mathlib.Data.List.Nodup
import Mathlib.Data.List.Perm.Basic

/-!
# Reports as batches of rows

A report is written row by row, but what it leaves behind is that of a batch. Its rows do not care
whether they have been written before: a second time they find each other, and only the instant is
new (`Row.confirm_confirm`). Nor do they care about the order in which they are written, as long as
no two of them have one key (`Table.putAll_perm`).

So a report that is stored again only renews what it has left behind (`IsRenewed`), and reports that
tell the same in another order (`Report.Reordered`) cannot be told apart (`Run.store_batch`).
-/

namespace ImageGate

/-! ## Rows with keys of their own -/

/-- Where keys are not shared, every member is the last one with its key. -/
theorem isLast_key_iff {κ α : Type} {key : α → κ} {xs : List α} (hkeys : (xs.map key).Nodup) {x : α} :
    IsLast (key · = key x) xs x ↔ x ∈ xs := by
  refine ⟨IsLast.mem, fun hx => ?_⟩
  obtain ⟨y, hy⟩ := IsLast.exists_of_exists (p := (key · = key x)) ⟨x, hx, rfl⟩
  obtain rfl : y = x := List.inj_on_of_nodup_map hkeys hy.mem hx hy.holds
  exact hy

/-- **The order in which rows are put does not matter** if they have keys of their own. -/
theorem Table.putAll_perm {κ α : Type} {order : κ → κ → Ordering} {key : α → κ}
    [Std.TransCmp order] [Std.LawfulEqCmp order] {table new others : List α}
    (h : Ascending order key table) (hperm : new.Perm others) (hkeys : (new.map key).Nodup) :
    putAll order key table new = putAll order key table others := by
  refine (h.putAll new).ext (h.putAll others) fun r => ?_
  have hkeys' : (others.map key).Nodup := (hperm.map key).nodup_iff.1 hkeys
  rw [mem_putAll h, mem_putAll h, isLast_key_iff hkeys, isLast_key_iff hkeys', hperm.mem_iff]
  simp only [hperm.mem_iff]

/-! ## Rows that are put again -/

namespace Row

variable {α : Type} [Row α] {n : Nat} {rows new : List α}

/-- The order in which a report puts its rows does not matter if they have keys of their own. -/
theorem confirm_perm (h : Ordered rows) {others : List α} (hperm : new.Perm others)
    (hkeys : (new.map key).Nodup) : confirm n rows new = confirm n rows others :=
  Table.putAll_perm h.release hperm hkeys

theorem release_release (n : Nat) (r : α) : release n (release n r) = release n r := by
  by_cases hr : node r = n
  · rw [release_of_eq hr, release_of_eq (by rw [node_unmark, hr]), unmark_unmark]
  · rw [release_of_ne hr, release_of_ne hr]

/-- **A report that is stored again finds its own rows**, and changes them as its rows have changed
since. The other rows stay as they are: those of its node have lost their marks already. -/
theorem confirm_confirm (h : Ordered rows) (change : α → α) (hchange : ∀ r, key (change r) = key r)
    {own : α → Prop} [DecidablePred own] (hown : ∀ r, own r ↔ ∃ s ∈ new, key s = key r) :
    confirm n (confirm n rows new) (new.map change) =
      (confirm n rows new).map fun r => if own r then change r else r := by
  have hkey (r : α) : key (if own r then change r else r) = key r := by
    split
    · exact hchange r
    · rfl
  have hnone (r : α) : (∀ s ∈ new.map change, key s ≠ key r) ↔ ¬ own r := by
    simp [hown, hchange]
  refine h.confirm.confirm.ext (h.confirm.map hkey) fun r => ?_
  rw [mem_confirm h.confirm, List.mem_map, hnone]
  constructor
  · rintro (hlast | ⟨⟨old, hold, rfl⟩, hother⟩)
    · obtain ⟨s, hs, rfl⟩ := IsLast.map_iff.1 hlast
      simp only [hchange] at hs
      exact ⟨s, (mem_confirm h).2 (.inl hs), if_pos ((hown s).2 ⟨s, hs.mem, rfl⟩)⟩
    · -- The row has lost its mark the first time.
      have hother' : ¬ own old := by simpa [hown] using hother
      rcases (mem_confirm h).1 hold with hlast | ⟨⟨older, -, rfl⟩, -⟩
      · exact absurd ((hown old).2 ⟨old, hlast.mem, rfl⟩) hother'
      · exact ⟨_, hold, by rw [if_neg hother', release_release]⟩
  · rintro ⟨old, hold, rfl⟩
    by_cases hmine : own old
    · rw [if_pos hmine]
      rcases (mem_confirm h).1 hold with hlast | ⟨-, hnew⟩
      · exact .inl (IsLast.map_iff.2 ⟨old, by simpa only [hchange] using hlast, rfl⟩)
      · obtain ⟨s, hs, heq⟩ := (hown old).1 hmine
        exact absurd heq (hnew s hs)
    · rw [if_neg hmine]
      rcases (mem_confirm h).1 hold with hlast | ⟨⟨older, -, rfl⟩, -⟩
      · exact absurd ((hown old).2 ⟨old, hlast.mem, rfl⟩) hmine
      · exact .inr ⟨⟨_, hold, release_release n older⟩, hmine⟩

theorem confirm_self (h : Ordered rows) :
    confirm n (confirm n rows new) new = confirm n rows new := by
  classical
  have hsame : confirm n (confirm n rows new) (new.map id) =
      (confirm n rows new).map fun r => if ∃ s ∈ new, key s = key r then id r else r :=
    confirm_confirm h id (fun _ => rfl) fun _ => Iff.rfl
  simpa using hsame

end Row

/-! ## Storing a report -/

namespace History

variable {h next : History} {refused : Refusals} {now : Instant} {report : Report}
  {node : Nat}

theorem firstRefusal_of_store (hs : h.store refused now report = (.ok node, next)) :
    firstRefusal refused 0 (report.changes node now.toMicros) = none := by
  obtain ⟨hnode, -⟩ := store_eq_ok hs
  rw [store_eq refused hnode.symm] at hs
  split at hs
  case h_1 => cases hs
  case h_2 hnone => exact hnone

/-- After a report its node is known, and when it was seen. -/
theorem node?_store (hn : Numbered h) (hs : h.store refused now report = (.ok node, next)) :
    next.node? report.runtime = some ⟨node, report.runtime, now.toMicros⟩ := by
  obtain ⟨hnode, hnodes, -⟩ := store_eq_ok hs
  rw [node?, hnodes, hnode]
  exact node?_enrol hn

end History

/-! ## The same report again -/

namespace Report

/-- The row is one of the node's, and the report lists its image under its tag and digest. -/
def ListsImage (report : Report) (node : Nat) (row : ImageRow) : Prop :=
  row.node = node ∧
    ∃ i ∈ report.images, i.Gives row.entry.id row.entry.repoTag row.entry.repoDigest

/-- The row is one of the node's, and the report has a sample of its file system. -/
def ListsFilesystem (report : Report) (node : Nat) (row : FilesystemRow) : Prop :=
  row.node = node ∧ ∃ u ∈ report.filesystems, u.mountpoint = row.mountpoint

instance (i : Image) (id tag digest : String) : Decidable (i.Gives id tag digest) :=
  inferInstanceAs (Decidable (_ ∧ _ ∧ (_ ∨ _ ∧ _)))

instance (report : Report) (node : Nat) (row : ImageRow) : Decidable (report.ListsImage node row) :=
  inferInstanceAs (Decidable (_ ∧ _))

instance (report : Report) (node : Nat) (row : FilesystemRow) :
    Decidable (report.ListsFilesystem node row) :=
  inferInstanceAs (Decidable (_ ∧ _))

variable {report : Report} {node : Nat} {now : Int}

theorem listsImage_iff {row : ImageRow} : report.ListsImage node row ↔
    ∃ s ∈ report.imageRows node now, Row.key s = Row.key row := by
  constructor
  · rintro ⟨hnode, hgives⟩
    exact (exists_imageRows_iff hnode).2 hgives
  · rintro ⟨s, hs, hkey⟩
    have hnode : row.node = node := (Row.node_eq hkey).symm.trans (of_mem_imageRows hs).1
    exact ⟨hnode, (exists_imageRows_iff hnode).1 ⟨s, hs, hkey⟩⟩

theorem listsFilesystem_iff {row : FilesystemRow} : report.ListsFilesystem node row ↔
    ∃ s ∈ report.filesystemRows node now, Row.key s = Row.key row := by
  constructor
  · rintro ⟨hnode, hgives⟩
    exact (exists_filesystemRows_iff hnode).2 hgives
  · rintro ⟨s, hs, hkey⟩
    have hnode : row.node = node := (Row.node_eq hkey).symm.trans (of_mem_filesystemRows hs).1
    exact ⟨hnode, (exists_filesystemRows_iff hnode).1 ⟨s, hs, hkey⟩⟩

/-- A report puts the same rows at every instant, but for the instant. -/
theorem imageRows_later (report : Report) (node : Nat) (now later : Int) :
    report.imageRows node later =
      (report.imageRows node now).map fun r => { r with reportedAt := later } := by
  rw [imageRows, imageRows, List.map_map]
  rfl

theorem filesystemRows_later (report : Report) (node : Nat) (now later : Int) :
    report.filesystemRows node later =
      (report.filesystemRows node now).map fun r => { r with reportedAt := later } := by
  rw [filesystemRows, filesystemRows, List.map_map]
  rfl

end Report

namespace History

variable {h next : History} {refused : Refusals} {now later : Instant} {report : Report}
  {node : Nat}

/-- Of the tables, only the instant at which the node was last seen has changed, and the instants of
the rows that the report lists. -/
structure IsRenewed (h next : History) (report : Report) (node : Nat) (now : Int) : Prop where
  nodes : next.nodes = h.nodes.map fun n =>
    if n.identity = report.runtime then { n with lastSeen := now } else n
  images : next.images = h.images.map fun r =>
    if report.ListsImage node r then { r with reportedAt := now } else r
  filesystems : next.filesystems = h.filesystems.map fun r =>
    if report.ListsFilesystem node r then { r with reportedAt := now } else r

structure SameTables (h next : History) : Prop where
  nodes : next.nodes = h.nodes
  images : next.images = h.images
  filesystems : next.filesystems = h.filesystems

theorem store_again (hn : Numbered h) (hs : h.store refused now report = (.ok node, next))
    {refused' : Refusals}
    (hnone : firstRefusal refused' 0 (report.changes node later.toMicros) = none) :
    next.store refused' later report = (.ok node,
      { nodes := next.nodes.map fun n =>
          if n.identity = report.runtime then { n with lastSeen := later.toMicros } else n
        images := Row.confirm node next.images (report.imageRows node later.toMicros)
        filesystems := Row.confirm node next.filesystems
          (report.filesystemRows node later.toMicros)
        issued := next.issued + 1 }) := by
  obtain ⟨hid, hnodes⟩ := enrol_of_known later.toMicros (node?_store hn hs)
  rw [store_of_admitted hid hnone, hnodes]
  simp only [beq_iff_eq]

/-- **A report that is stored again later renews what it has left behind.** -/
theorem isRenewed_store (hc : Coherent h) (hs : h.store refused now report = (.ok node, next))
    {refused' : Refusals}
    (hnone : firstRefusal refused' 0 (report.changes node later.toMicros) = none) :
    ∃ again, next.store refused' later report = (.ok node, again) ∧
      IsRenewed next again report node later.toMicros := by
  obtain ⟨-, -, -, himages, hfilesystems⟩ := store_eq_ok hs
  refine ⟨_, store_again hc.numbered hs hnone, rfl, ?_, ?_⟩
  · rw [himages, Report.imageRows_later report node now.toMicros later.toMicros]
    exact Row.confirm_confirm hc.images (fun r : ImageRow => { r with reportedAt := later.toMicros })
      (fun _ => rfl) fun _ => Report.listsImage_iff
  · rw [hfilesystems, Report.filesystemRows_later report node now.toMicros later.toMicros]
    exact Row.confirm_confirm hc.filesystems
      (fun r : FilesystemRow => { r with reportedAt := later.toMicros }) (fun _ => rfl)
      fun _ => Report.listsFilesystem_iff

/-- **A report that is stored again at its instant changes nothing.** -/
theorem sameTables_store (hc : Coherent h) (hs : h.store refused now report = (.ok node, next)) :
    ∃ again, next.store refused now report = (.ok node, again) ∧ SameTables next again := by
  obtain ⟨-, -, -, himages, hfilesystems⟩ := store_eq_ok hs
  have hnext : Numbered next := (hc.store hs).numbered
  refine ⟨_, store_again hc.numbered hs (firstRefusal_of_store hs), ?_, ?_, ?_⟩
  · -- The node has been seen at this instant already.
    have hsame : ∀ n ∈ next.nodes, (if n.identity = report.runtime then
        { n with lastSeen := now.toMicros } else n) = n := by
      intro n hn
      split
      case isFalse => rfl
      case isTrue hidentity =>
        have hfound := hnext.node?_eq_some_iff.2 ⟨hn, hidentity⟩
        rw [node?_store hc.numbered hs] at hfound
        obtain rfl := Option.some.inj hfound
        rfl
    exact (List.map_congr_left hsame).trans (List.map_id' _)
  · rw [himages]
    exact Row.confirm_self hc.images
  · rw [hfilesystems]
    exact Row.confirm_self hc.filesystems

end History

/-! ## The same report in another order -/

/-- The images differ in the order of their tags and in that of their digests only. -/
structure Image.Reordered (i j : Image) : Prop where
  repoTags : i.repoTags.Perm j.repoTags
  repoDigests : i.repoDigests.Perm j.repoDigests
  rest : j = { i with repoTags := j.repoTags, repoDigests := j.repoDigests }

namespace Report

/-- The reports are of one node and differ in the order of file systems and images, and of tags and
digests within images, only. -/
structure Reordered (a b : Report) : Prop where
  runtime : a.runtime = b.runtime
  filesystems : a.filesystems.Perm b.filesystems
  images : ∃ images, a.images.Perm images ∧ List.Forall₂ Image.Reordered images b.images

/-- No two entries of the report are known by the same. -/
structure HasOwnKeys (r : Report) : Prop where
  images : (r.imageEntries.map fun e => (e.id, e.repoTag, e.repoDigest)).Nodup
  filesystems : (r.filesystemEntries.map (·.mountpoint)).Nodup

end Report

theorem Image.Reordered.entries_perm {i j : Image} (h : i.Reordered j) :
    i.entries.Perm j.entries := by
  obtain ⟨htags, hdigests, hrest⟩ := h
  have hentry (tag : String) : i.entry tag = j.entry tag := by
    rw [hrest]
    rfl
  have hrow : i.rowDigests.Perm j.rowDigests := by
    unfold rowDigests
    rw [hdigests.isEmpty_eq]
    split
    · exact .refl _
    · exact hdigests
  refine htags.flatMap fun tag _ => ?_
  rw [hentry]
  exact hrow.map _

/-- Images that differ in the order of tags and digests have the same entries, up to their order. -/
theorem Image.entries_perm {is js : List Image} (h : List.Forall₂ Image.Reordered is js) :
    (is.flatMap Image.entries).Perm (js.flatMap Image.entries) := by
  induction h with
  | nil => exact .refl _
  | cons hij _ ih =>
    rw [List.flatMap_cons, List.flatMap_cons]
    exact hij.entries_perm.append ih

namespace Report

variable {a b : Report} {node : Nat} {now : Int}

theorem Reordered.imageRows_perm (h : a.Reordered b) :
    (a.imageRows node now).Perm (b.imageRows node now) := by
  obtain ⟨images, hperm, heach⟩ := h.images
  exact ((hperm.flatMap_right Image.entries).trans (Image.entries_perm heach)).map _

theorem Reordered.filesystemRows_perm (h : a.Reordered b) :
    (a.filesystemRows node now).Perm (b.filesystemRows node now) :=
  (h.filesystems.map _).map _

theorem HasOwnKeys.nodup_imageRows (h : a.HasOwnKeys) :
    ((a.imageRows node now).map Row.key).Nodup := by
  have hkeys : (a.imageRows node now).map Row.key =
      (a.imageEntries.map fun e => (e.id, e.repoTag, e.repoDigest)).map
        fun k => (⟨node, k.1, k.2.1, k.2.2⟩ : ImageKey) := by
    rw [imageRows, List.map_map, List.map_map]
    rfl
  rw [hkeys]
  refine h.images.map ?_
  rintro ⟨id, tag, digest⟩ ⟨id', tag', digest'⟩ heq
  cases heq
  rfl

theorem HasOwnKeys.nodup_filesystemRows (h : a.HasOwnKeys) :
    ((a.filesystemRows node now).map Row.key).Nodup := by
  have hkeys : (a.filesystemRows node now).map Row.key =
      (a.filesystemEntries.map (·.mountpoint)).map fun m => (⟨node, m⟩ : FilesystemKey) := by
    rw [filesystemRows, List.map_map, List.map_map]
    rfl
  rw [hkeys]
  exact h.filesystems.map fun _ _ heq => congrArg FilesystemKey.mountpoint heq

end Report

namespace History

variable {retention : Span} {past : List Deed} {h : History}

/-- Where one reason is given wherever a change stands, only which changes there are matters. -/
theorem firstRefusal_refuseAll (p : Change → Bool) (reason : String) (place : Nat)
    (changes : List Change) : firstRefusal (refuseAll p reason) place changes =
      if changes.any p then some reason else none := by
  induction changes generalizing place with
  | nil => rfl
  | cons c more ih =>
    rw [firstRefusal, ih, refuseAll, List.any_cons]
    cases p c with
    | true => rfl
    | false => rfl

theorem changes_perm {a b : Report} (hab : a.Reordered b) (node : Nat) (now : Int) :
    (a.changes node now).Perm (b.changes node now) := by
  rw [Report.changes, Report.changes, hab.runtime]
  refine .append (.append_left _ ?_) ?_
  · exact hab.filesystemRows_perm.map _
  · exact hab.imageRows_perm.map _

/-- **The order in which a report tells things does not matter**, not even for its refusal. -/
theorem store_reordered (hc : Coherent h) {a b : Report} (hab : a.Reordered b) (hkeys : a.HasOwnKeys)
    (p : Change → Bool) (reason : String) (now : Instant) :
    h.store (refuseAll p reason) now a = h.store (refuseAll p reason) now b := by
  have hnode : (h.enrol now.toMicros b.runtime).1 = (h.enrol now.toMicros a.runtime).1 := by
    rw [hab.runtime]
  rw [store_eq _ rfl, store_eq _ hnode, firstRefusal_refuseAll, firstRefusal_refuseAll,
    (changes_perm hab _ _).any_eq, hab.runtime,
    Row.confirm_perm hc.images hab.imageRows_perm hkeys.nodup_imageRows,
    Row.confirm_perm hc.filesystems hab.filesystemRows_perm hkeys.nodup_filesystemRows]

/-! ## Main statement -/

/-- **Storing is idempotent and does not care about order.** In every history that reports, failures
and sweeps have led to, every report is stored where nothing is refused. Stored once more at the same
instant, it is answered with the same number and leaves all tables as they are. Stored once more at
another instant, it is answered with the same number and renews the instant at which its node was
last seen and those of the rows that it lists, and nothing else. A report that tells the same in
another order, with keys of its own for all entries, is answered in the same way and leaves the same
history, also where some changes are refused. -/
theorem Run.store_batch (run : Run retention past h) (report : Report) :
    (∀ now, ∃ node next, h.store admitAll now report = (.ok node, next)) ∧
    (∀ refused now node next, h.store refused now report = (.ok node, next) →
      (∃ again, next.store refused now report = (.ok node, again) ∧ SameTables next again) ∧
      ∀ refused' later, (∀ i c, (report.changes node later.toMicros)[i]? = some c →
          refused' i c = none) →
        ∃ again, next.store refused' later report = (.ok node, again) ∧
          IsRenewed next again report node later.toMicros) ∧
    ∀ other, report.Reordered other → report.HasOwnKeys →
      (∀ now, h.store admitAll now report = h.store admitAll now other) ∧
      ∀ p reason now, h.store (refuseAll p reason) now report =
        h.store (refuseAll p reason) now other := by
  have hc : Coherent h := run.coherent
  refine ⟨fun now => ?_, fun refused now node next hs => ⟨sameTables_store hc hs, ?_⟩, ?_⟩
  · obtain ⟨node, hnode⟩ := exists_store_admitAll h now report
    exact ⟨node, _, Prod.ext hnode rfl⟩
  · intro refused' later hnone
    refine isRenewed_store hc hs (firstRefusal_eq_none_iff.2 fun i c hc => ?_)
    rw [Nat.zero_add]
    exact hnone i c hc
  · intro other hother hkeys
    exact ⟨store_reordered hc hother hkeys (fun _ => false) "", store_reordered hc hother hkeys⟩

/-- After an older report, one with two images, two tags and two digests is stored, and once more a
hundred seconds later. Told from back to front it leaves the same. -/
theorem Run.store_batch_of_two_tags :
    let i : Image := { id := "a", repoTags := ["app:1", "app:2"], repoDigests := ["d", "e"] }
    let j : Image := { id := "a", repoTags := ["app:2", "app:1"], repoDigests := ["e", "d"] }
    let dangling : Image := { id := "b", repoTags := ["app:1"] }
    let report : Report :=
      { images := [i, dangling], filesystems := [{ mountpoint := "/a" }, { mountpoint := "/b" }] }
    let other : Report :=
      { images := [dangling, j], filesystems := [{ mountpoint := "/b" }, { mountpoint := "/a" }] }
    ∃ past h next again, Run (.ofSeconds 1000) past h ∧
      h.store admitAll ⟨200, 0⟩ report = (.ok 1, next) ∧
      next.images.map (·.inLastReport) = [true, true, true, true, true, false] ∧
      next.store admitAll ⟨300, 0⟩ report = (.ok 1, again) ∧
      IsRenewed next again report 1 300000000 ∧
      h.store admitAll ⟨200, 0⟩ other = (.ok 1, next) := by
  intro i j dangling report other
  let old : Report := { images := [{ id := "old", repoTags := ["app:1"] }] }
  let h : History := (({} : History).store admitAll ⟨100, 0⟩ old).2
  have run : Run (.ofSeconds 1000) [.stored 1 ⟨100, 0⟩ old] h :=
    Run.start.store admitAll ⟨100, 0⟩ old rfl
  have hreordered : report.Reordered other := by
    refine ⟨rfl, .swap _ _ _, [dangling, i], .swap _ _ _, .cons ?_ (.cons ?_ .nil)⟩
    · exact ⟨.refl _, .refl _, rfl⟩
    · exact ⟨.swap _ _ _, .swap _ _ _, rfl⟩
  have hkeys : report.HasOwnKeys := ⟨by decide, by decide⟩
  obtain ⟨-, hagain, horder⟩ := run.store_batch report
  have hs : h.store admitAll ⟨200, 0⟩ report = (.ok 1, (h.store admitAll ⟨200, 0⟩ report).2) := rfl
  obtain ⟨-, hlater⟩ := hagain admitAll ⟨200, 0⟩ 1 _ hs
  obtain ⟨again, hstore, hrenewed⟩ := hlater admitAll ⟨300, 0⟩ fun _ _ _ => rfl
  exact ⟨_, _, _, again, run, hs, by decide +kernel, hstore, hrenewed,
    ((horder other hreordered hkeys).1 ⟨200, 0⟩).symm.trans hs⟩

end History

end ImageGate
