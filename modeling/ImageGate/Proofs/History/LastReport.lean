import ImageGate.Proofs.History.Evidence

/-!
# The marked rows are the last report

A node's marked rows are what its last report says, less what sweeps have deleted since
(`marked_iff_last`). Of several entries of a report with one key, the last one is told.

The proof follows the row of a node through a run. A report of the node itself starts afresh;
reports of other nodes touch neither its row nor the rows of its number, because numbers are not
shared; and a sweep that reaches up to the report deletes all its rows at once, since they tell one
instant (`Row.Shows`).
-/

namespace ImageGate

/-! ## What a report tells -/

/-- An image has a row under this id, tag and digest. -/
def Image.Gives (i : Image) (id tag digest : String) : Prop :=
  i.id = id ∧ tag ∈ i.repoTags ∧ i.HasDigest digest

namespace Report

/-- The row says what the last image says that the report gives for its key, a size of 2^63 or more
as 2^63 - 1. -/
def TellsImage (report : Report) (node : Nat) (now : Int) (row : ImageRow) : Prop :=
  ∃ i, IsLast (·.Gives row.entry.id row.entry.repoTag row.entry.repoDigest) report.images i ∧
    row = { node, reportedAt := now, inLastReport := true
            entry :=
              { id := i.id, repoTag := row.entry.repoTag, repoDigest := row.entry.repoDigest
                size := min i.size 9223372036854775807, username := i.username
                image := (i.spec.getD {}).image
                userSpecifiedImage := (i.spec.getD {}).userSpecifiedImage
                pinned := i.pinned, uid := i.uid } }

/-- The row says what the last sample says that the report gives for its mount point, a count of
2^63 or more as 2^63 - 1, and the instant in whole microseconds. -/
def TellsFilesystem (report : Report) (node : Nat) (now : Int) (row : FilesystemRow) : Prop :=
  ∃ u, IsLast (·.mountpoint = row.mountpoint) report.filesystems u ∧
    row = { node, mountpoint := u.mountpoint, timestamp := u.timestampNanos / 1000
            usedBytes := min u.usedBytes 9223372036854775807
            inodesUsed := min u.inodesUsed 9223372036854775807
            reportedAt := now, inLastReport := true }

variable {report : Report} {node : Nat} {now : Int}

theorem mem_entries {i : Image} {e : ImageEntry} :
    e ∈ i.entries ↔ i.Gives e.id e.repoTag e.repoDigest ∧ e = i.entry e.repoTag e.repoDigest := by
  simp only [Image.entries, List.mem_flatMap, List.mem_map, Image.mem_rowDigests]
  constructor
  · rintro ⟨tag, htag, digest, hdigest, rfl⟩
    exact ⟨⟨rfl, htag, hdigest⟩, rfl⟩
  · rintro ⟨⟨-, htag, hdigest⟩, he⟩
    exact ⟨e.repoTag, htag, e.repoDigest, hdigest, he.symm⟩

/-- An image has an entry with the key of a row exactly if it gives the key. -/
theorem exists_mem_entries (now : Int) {i : Image} {row : ImageRow} (hnode : row.node = node) :
    (∃ e ∈ i.entries, (ImageRow.ofEntry node now e).key = row.key) ↔
      i.Gives row.entry.id row.entry.repoTag row.entry.repoDigest := by
  simp only [mem_entries, ImageRow.key, ImageRow.ofEntry, ImageKey.mk.injEq]
  constructor
  · rintro ⟨e, ⟨hgives, -⟩, -, hid, htag, hdigest⟩
    rwa [hid, htag, hdigest] at hgives
  · intro hgives
    exact ⟨i.entry row.entry.repoTag row.entry.repoDigest,
      ⟨⟨rfl, hgives.2⟩, rfl⟩, hnode.symm, hgives.1, rfl, rfl⟩

/-- A report puts a row with the key of a given one exactly if it gives the key. -/
theorem exists_imageRows_iff {row : ImageRow} (hnode : row.node = node) :
    (∃ s ∈ report.imageRows node now, Row.key s = Row.key row) ↔
      ∃ i ∈ report.images, i.Gives row.entry.id row.entry.repoTag row.entry.repoDigest := by
  simp only [← exists_mem_entries now hnode, imageRows, imageEntries, List.mem_map,
    List.mem_flatMap]
  constructor
  · rintro ⟨s, ⟨e, ⟨i, hi, he⟩, rfl⟩, hkey⟩
    exact ⟨i, hi, e, he, hkey⟩
  · rintro ⟨i, hi, e, he, hkey⟩
    exact ⟨_, ⟨e, ⟨i, hi, he⟩, rfl⟩, hkey⟩

theorem exists_filesystemRows_iff {row : FilesystemRow} (hnode : row.node = node) :
    (∃ s ∈ report.filesystemRows node now, Row.key s = Row.key row) ↔
      ∃ u ∈ report.filesystems, u.mountpoint = row.mountpoint := by
  simp only [filesystemRows, filesystemEntries, List.mem_map]
  constructor
  · rintro ⟨s, ⟨e, ⟨u, hu, rfl⟩, rfl⟩, hkey⟩
    exact ⟨u, hu, congrArg FilesystemKey.mountpoint hkey⟩
  · rintro ⟨u, hu, hmount⟩
    refine ⟨_, ⟨u.entry, ⟨u, hu, rfl⟩, rfl⟩, ?_⟩
    exact FilesystemKey.mk.injEq .. ▸ ⟨hnode.symm, hmount⟩

theorem isLast_imageRows {row : ImageRow} :
    IsLast (Row.key · = Row.key row) (report.imageRows node now) row ↔
      report.TellsImage node now row := by
  rw [imageRows, imageEntries, IsLast.map_iff]
  constructor
  · rintro ⟨e, he, rfl⟩
    obtain ⟨i, hi, hlast⟩ := IsLast.flatMap_iff.1 he
    refine ⟨i, hi.congr fun _ _ => exists_mem_entries now rfl, ?_⟩
    obtain ⟨-, he⟩ := mem_entries.1 hlast.mem
    rw [he]
    rfl
  · rintro ⟨i, hi, hrow⟩
    have hnode : row.node = node := congrArg ImageRow.node hrow
    refine ⟨i.entry row.entry.repoTag row.entry.repoDigest, IsLast.flatMap_iff.2 ⟨i, ?_, ?_⟩, ?_⟩
    · exact hi.congr fun _ _ => (exists_mem_entries now hnode).symm
    · obtain ⟨e, he⟩ := IsLast.exists_of_exists ((exists_mem_entries now hnode).2 hi.holds)
      -- An image has one entry for a tag and a digest.
      have hkey : (ImageRow.ofEntry node now e).key = row.key := he.holds
      have heq := (mem_entries.1 he.mem).2
      rw [show e.repoTag = row.entry.repoTag from congrArg ImageKey.repoTag hkey,
        show e.repoDigest = row.entry.repoDigest from congrArg ImageKey.repoDigest hkey] at heq
      exact heq ▸ he
    · rw [hrow]
      rfl

theorem isLast_filesystemRows {row : FilesystemRow} :
    IsLast (Row.key · = Row.key row) (report.filesystemRows node now) row ↔
      report.TellsFilesystem node now row := by
  have hkey {u : FilesystemUsage} (hnode : row.node = node) :
      (FilesystemRow.ofEntry node now u.entry).key = row.key ↔ u.mountpoint = row.mountpoint := by
    simp [FilesystemRow.key, FilesystemRow.ofEntry, FilesystemUsage.entry, hnode]
  -- The row of a sample, its instant in microseconds.
  have hrow (u : FilesystemUsage) : FilesystemRow.ofEntry node now u.entry =
      { node, mountpoint := u.mountpoint, timestamp := u.timestampNanos / 1000
        usedBytes := min u.usedBytes 9223372036854775807
        inodesUsed := min u.inodesUsed 9223372036854775807
        reportedAt := now, inLastReport := true } := by
    simp only [FilesystemRow.ofEntry, FilesystemUsage.entry, Instant.toMicros_ofNanos]
    rfl
  rw [filesystemRows, filesystemEntries, List.map_map, IsLast.map_iff]
  constructor
  · rintro ⟨u, hu, rfl⟩
    exact ⟨u, hu.congr fun _ _ => hkey rfl, hrow u⟩
  · rintro ⟨u, hu, heq⟩
    have hnode : row.node = node := congrArg FilesystemRow.node heq
    exact ⟨u, hu.congr fun _ _ => (hkey hnode).symm, (hrow u).trans heq.symm⟩

end Report

/-! ## The marked rows of a number -/

namespace Row

variable {α : Type} [Row α] {n : Nat} {rows new : List α} {present : Prop}

/-- The marked rows of a number are the new ones, the last for each key, or there are none. -/
def Shows (n : Nat) (rows new : List α) (present : Prop) : Prop :=
  ∀ r, (r ∈ rows ∧ node r = n ∧ inLastReport r = true) ↔ IsLast (key · = key r) new r ∧ present

theorem Shows.confirm_self (h : Ordered rows)
    (hnew : ∀ s ∈ new, node s = n ∧ inLastReport s = true) :
    Shows n (Row.confirm n rows new) new True := by
  intro r
  rw [marked_confirm h hnew, and_true]

theorem Shows.confirm_other {m : Nat} {others : List α} (hs : Shows n rows new present)
    (h : Ordered rows) (hothers : ∀ s ∈ others, node s = m) (hne : n ≠ m) :
    Shows n (Row.confirm m rows others) new present := by
  intro r
  rw [← hs r]
  constructor
  · rintro ⟨hr, rfl, hmark⟩
    exact ⟨(others_confirm h hothers hne).1 hr, rfl, hmark⟩
  · rintro ⟨hr, rfl, hmark⟩
    exact ⟨(others_confirm h hothers hne).2 hr, rfl, hmark⟩

/-- New rows tell one instant, so they all go or all stay. -/
theorem Shows.filter {left : List α} {now : Int} {keeps : Int → Prop}
    (hs : Shows n rows new present) (hnew : ∀ s ∈ new, reportedAt s = now)
    (hleft : ∀ r, r ∈ left ↔ r ∈ rows ∧ keeps (reportedAt r)) :
    Shows n left new (present ∧ keeps now) := by
  intro r
  rw [hleft]
  constructor
  · rintro ⟨⟨hr, hkeeps⟩, hnode, hmark⟩
    obtain ⟨hlast, hpresent⟩ := (hs r).1 ⟨hr, hnode, hmark⟩
    exact ⟨hlast, hpresent, hnew r hlast.mem ▸ hkeeps⟩
  · rintro ⟨hlast, hpresent, hkeeps⟩
    obtain ⟨hr, hnode, hmark⟩ := (hs r).2 ⟨hlast, hpresent⟩
    exact ⟨⟨hr, (hnew r hlast.mem).symm ▸ hkeeps⟩, hnode, hmark⟩

end Row

namespace History

variable {retention : Span} {past : List Deed} {h : History}

/-- The last report of a node among deeds, and what has been done since. -/
structure IsLastReport (past : List Deed) (n : NodeRow) (now : Instant) (report : Report)
    (later : List Deed) : Prop where
  split : ∃ earlier, past = later ++ .stored n.id now report :: earlier
  runtime : report.runtime = n.identity
  none_later : ∀ m t r, .stored m t r ∈ later → r.runtime ≠ n.identity
  lastSeen : n.lastSeen = now.toMicros

/-- No sweep has reached up to rows of an instant. -/
def Spared (retention : Span) (now : Instant) (deeds : List Deed) : Prop :=
  ∀ nodeRetention t, .swept nodeRetention t ∈ deeds → Survives retention t now.toMicros

/-- The marked rows of a node are those of its last report, as long as no sweep has reached it. -/
def Follows (retention : Span) (past : List Deed) (h : History) (n : NodeRow) : Prop :=
  ∃ now report later, IsLastReport past n now report later ∧
    Row.Shows n.id h.images (report.imageRows n.id now.toMicros) (Spared retention now later) ∧
    Row.Shows n.id h.filesystems (report.filesystemRows n.id now.toMicros)
      (Spared retention now later)

theorem spared_nil {now : Instant} : Spared retention now [] ↔ True :=
  ⟨fun _ => trivial, fun _ => nofun⟩

theorem spared_stored {now : Instant} {m : Nat} {t : Instant} {r : Report} {later : List Deed} :
    Spared retention now (.stored m t r :: later) ↔ Spared retention now later := by
  simp [Spared]

theorem spared_swept {now : Instant} {nodeRetention : Span} {t : Instant} {later : List Deed} :
    Spared retention now (.swept nodeRetention t :: later) ↔
      Spared retention now later ∧ Survives retention t now.toMicros := by
  unfold Spared
  constructor
  · intro hs
    exact ⟨fun k u hmem => hs k u (List.mem_cons_of_mem _ hmem), hs _ _ List.mem_cons_self⟩
  · rintro ⟨hlater, ht⟩ k u hmem
    rcases List.mem_cons.1 hmem with heq | hmem
    · cases heq
      exact ht
    · exact hlater k u hmem

/-- The last report of a node stays the last one when something else happens. -/
theorem IsLastReport.cons {n : NodeRow} {now : Instant} {report : Report} {later : List Deed}
    (hl : IsLastReport past n now report later) (d : Deed)
    (hd : ∀ m t r, d = .stored m t r → r.runtime ≠ n.identity) :
    IsLastReport (d :: past) n now report (d :: later) := by
  obtain ⟨earlier, hpast⟩ := hl.split
  refine ⟨⟨earlier, by rw [hpast, List.cons_append]⟩, hl.runtime, fun m t r hmem => ?_, hl.lastSeen⟩
  rcases List.mem_cons.1 hmem with heq | hmem
  · exact hd m t r heq.symm
  · exact hl.none_later m t r hmem

theorem follows_store {refused : Refusals} {next : History} {now : Instant}
    {report : Report} {node : Nat} (hc : Coherent h)
    (ih : ∀ n ∈ h.nodes, Follows retention past h n)
    (hs : h.store refused now report = (.ok node, next)) :
    ∀ n ∈ next.nodes, Follows retention (.stored node now report :: past) next n := by
  obtain ⟨hnode, hnodes, -, himages, hfilesystems⟩ := store_eq_ok hs
  intro n hn
  rw [hnodes, mem_nodes_enrol hc.numbered, ← hnode] at hn
  rcases hn with rfl | ⟨hn, hne⟩
  · -- The node itself starts afresh.
    refine ⟨now, report, [], ⟨⟨past, rfl⟩, rfl, nofun, rfl⟩, ?_, ?_⟩
    · rw [himages, spared_nil]
      refine Row.Shows.confirm_self hc.images fun s hs => ?_
      obtain ⟨hs, hmark, -⟩ := Report.of_mem_imageRows hs
      exact ⟨hs, hmark⟩
    · rw [hfilesystems, spared_nil]
      refine Row.Shows.confirm_self hc.filesystems fun s hs => ?_
      obtain ⟨hs, hmark, -⟩ := Report.of_mem_filesystemRows hs
      exact ⟨hs, hmark⟩
  · -- The rows of other nodes have other numbers.
    have hid : n.id ≠ node := hnode ▸ id_enrol_ne hc.numbered hn hne
    obtain ⟨t, r, later, hlast, hi, hf⟩ := ih n hn
    refine ⟨t, r, .stored node now report :: later, hlast.cons _ ?_, ?_, ?_⟩
    · rintro m u s heq
      cases heq
      exact hne.symm
    · rw [himages, spared_stored]
      exact hi.confirm_other hc.images (fun s hs => (Report.of_mem_imageRows hs).1) hid
    · rw [hfilesystems, spared_stored]
      exact hf.confirm_other hc.filesystems (fun s hs => (Report.of_mem_filesystemRows hs).1) hid

theorem follows_sweep {nodeRetention : Span} {t : Instant}
    (ih : ∀ n ∈ h.nodes, Follows retention past h n) :
    ∀ n ∈ (h.sweep retention nodeRetention t).2.nodes,
      Follows retention (.swept nodeRetention t :: past)
        (h.sweep retention nodeRetention t).2 n := by
  intro n hn
  rw [nodes_sweep] at hn
  obtain ⟨now, r, later, hlast, hi, hf⟩ := ih n (List.mem_filter.1 hn).1
  refine ⟨now, r, .swept nodeRetention t :: later, hlast.cons _ nofun, ?_, ?_⟩
  · rw [spared_swept]
    exact hi.filter (fun s hs => (Report.of_mem_imageRows hs).2.2) fun _ => mem_images_sweep
  · rw [spared_swept]
    exact hf.filter (fun s hs => (Report.of_mem_filesystemRows hs).2.2) fun _ =>
      mem_filesystems_sweep

theorem Run.follows (run : Run retention past h) : ∀ n ∈ h.nodes, Follows retention past h n := by
  induction run with
  | start => exact nofun
  | stored run hs ih => exact follows_store run.coherent ih hs
  | failed _ hs ih => exact store_eq_error hs ▸ ih
  | swept _ ih => exact follows_sweep ih

/-! ## Main statement -/

/-- What a report leaves behind in the rows of its node. -/
structure IsConfirmed (h next : History) (node : Nat) (now : Instant) (report : Report) :
    Prop where
  images : ∀ row, (row ∈ next.images ∧ row.node = node ∧ row.inLastReport = true) ↔
    report.TellsImage node now.toMicros row
  /-- One marked row for each image, tag and digest that the report gives. -/
  image_unique : ∀ id tag digest, (∃ i ∈ report.images, i.Gives id tag digest) →
    ∃! row, row ∈ next.images ∧ row.inLastReport = true ∧ row.key = ⟨node, id, tag, digest⟩
  /-- The other rows were there before, and have lost nothing but their marks. -/
  other_images : ∀ row, (row ∈ next.images ∧ row.node = node ∧ row.inLastReport = false) ↔
    ∃ old ∈ h.images, old.node = node ∧ row = { old with inLastReport := false } ∧
      ¬ ∃ i ∈ report.images, i.Gives old.entry.id old.entry.repoTag old.entry.repoDigest
  filesystems : ∀ row, (row ∈ next.filesystems ∧ row.node = node ∧ row.inLastReport = true) ↔
    report.TellsFilesystem node now.toMicros row
  /-- One marked row for each mount point. -/
  filesystem_unique : ∀ mountpoint, (∃ u ∈ report.filesystems, u.mountpoint = mountpoint) →
    ∃! row, row ∈ next.filesystems ∧ row.inLastReport = true ∧ row.key = ⟨node, mountpoint⟩
  other_filesystems : ∀ row,
    (row ∈ next.filesystems ∧ row.node = node ∧ row.inLastReport = false) ↔
      ∃ old ∈ h.filesystems, old.node = node ∧ row = { old with inLastReport := false } ∧
        ¬ ∃ u ∈ report.filesystems, u.mountpoint = old.mountpoint

theorem isConfirmed_store {refused : Refusals} {next : History} {now : Instant}
    {report : Report} {node : Nat} (hc : Coherent h)
    (hs : h.store refused now report = (.ok node, next)) :
    IsConfirmed h next node now report := by
  obtain ⟨-, -, -, himages, hfilesystems⟩ := store_eq_ok hs
  have hi : ∀ s ∈ report.imageRows node now.toMicros, Row.node s = node ∧
      Row.inLastReport s = true := fun s hs =>
    ⟨(Report.of_mem_imageRows hs).1, (Report.of_mem_imageRows hs).2.1⟩
  have hf : ∀ s ∈ report.filesystemRows node now.toMicros, Row.node s = node ∧
      Row.inLastReport s = true := fun s hs =>
    ⟨(Report.of_mem_filesystemRows hs).1, (Report.of_mem_filesystemRows hs).2.1⟩
  constructor
  case images =>
    intro row
    rw [himages, ← Report.isLast_imageRows]
    exact Row.marked_confirm hc.images hi
  case image_unique =>
    rintro id tag digest ⟨i, hmem, rfl, htag, hdigest⟩
    obtain ⟨s, hs, hkey⟩ := Report.exists_mem_imageRows hmem htag hdigest node now.toMicros
    rw [himages, ← hkey]
    exact Row.existsUnique_confirm hc.images hi hs
  case other_images =>
    intro row
    rw [himages]
    refine (Row.unmarked_confirm hc.images hi).trans (exists_congr fun old => ?_)
    refine and_congr_right fun _ => and_congr_right fun hnode => and_congr_right fun _ => ?_
    exact not_congr (Report.exists_imageRows_iff hnode)
  case filesystems =>
    intro row
    rw [hfilesystems, ← Report.isLast_filesystemRows]
    exact Row.marked_confirm hc.filesystems hf
  case filesystem_unique =>
    rintro mountpoint ⟨u, hu, rfl⟩
    rw [hfilesystems]
    exact Row.existsUnique_confirm hc.filesystems hf
      (List.mem_map_of_mem (List.mem_map_of_mem hu))
  case other_filesystems =>
    intro row
    rw [hfilesystems]
    refine (Row.unmarked_confirm hc.filesystems hf).trans (exists_congr fun old => ?_)
    refine and_congr_right fun _ => and_congr_right fun hnode => and_congr_right fun _ => ?_
    exact not_congr (Report.exists_filesystemRows_iff hnode)

/-- **The marked rows of a node are its last report.** In every history that reports, failures and
sweeps have led to, by any clock, the marked rows of a node that is there are what its last report
tells, unless a sweep has reached them since, and they tell the instant at which the node was last
seen. Right after a report there is one marked row for each of its keys, and all other rows of the
node have lost their marks and nothing else. -/
theorem Run.marked_iff_last (run : Run retention past h) :
    (∀ n ∈ h.nodes, ∃ now report later, IsLastReport past n now report later ∧
      (∀ row, (row ∈ h.images ∧ row.node = n.id ∧ row.inLastReport = true) ↔
        report.TellsImage n.id n.lastSeen row ∧ Spared retention now later) ∧
      ∀ row, (row ∈ h.filesystems ∧ row.node = n.id ∧ row.inLastReport = true) ↔
        report.TellsFilesystem n.id n.lastSeen row ∧ Spared retention now later) ∧
    ∀ refused now report node next, h.store refused now report = (.ok node, next) →
      IsConfirmed h next node now report := by
  refine ⟨fun n hn => ?_, fun refused now report node next hs => isConfirmed_store run.coherent hs⟩
  obtain ⟨now, report, later, hlast, hi, hf⟩ := run.follows n hn
  refine ⟨now, report, later, hlast, fun row => ?_, fun row => ?_⟩
  · rw [hlast.lastSeen, ← Report.isLast_imageRows]
    exact hi row
  · rw [hlast.lastSeen, ← Report.isLast_filesystemRows]
    exact hf row

/-- Of two entries with one key, the last one is told, its size cut to 63 bits. -/
theorem Run.marked_iff_last_of_repeated :
    ∃ past h next, Run (.ofSeconds 100) past h ∧
      h.store admitAll ⟨120, 0⟩ { images := [{ id := "a", repoTags := ["app:1"], size := 5 },
        { id := "a", repoTags := ["app:1"], size := 18446744073709551615 }] } = (.ok 1, next) ∧
      ∃ row ∈ next.images, row.inLastReport = true ∧ row.entry.size = 9223372036854775807 := by
  let i : Image := { id := "a", repoTags := ["app:1"], size := 18446744073709551615 }
  let report : Report := { images := [{ id := "a", repoTags := ["app:1"], size := 5 }, i] }
  let row : ImageRow := .ofEntry 1 120000000 (i.entry "app:1" "")
  have run : Run (.ofSeconds 100) [.stored 1 ⟨100, 0⟩ {}] _ := Run.start.store admitAll ⟨100, 0⟩ _ rfl
  have gives : i.Gives "a" "app:1" "" := ⟨rfl, by simp [i], .inr ⟨rfl, rfl⟩⟩
  have tells : report.TellsImage 1 120000000 row := ⟨i, .later (.here gives nofun), rfl⟩
  have confirmed := run.marked_iff_last.2 admitAll ⟨120, 0⟩ report 1 _ rfl
  obtain ⟨hrow, -, hmark⟩ := (confirmed.images row).2 tells
  exact ⟨_, _, _, run, rfl, row, hrow, hmark, rfl⟩

end History

end ImageGate
