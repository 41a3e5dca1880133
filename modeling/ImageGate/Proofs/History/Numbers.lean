import ImageGate.History.View
import ImageGate.Proofs.History.LastReport

/-!
# Numbers are not used twice

Deleting a node leaves its rows behind, under a number that no node has any more. They never come
back as the rows of another node, nor of the same node when it returns: a number belongs to one
identity for ever, and a node that has been deleted returns under a number that is greater than all
numbers before (`numbers_last`).

Which nodes there are is told by what has happened (`Stands`). A report of an identity that stands
is answered with the number it stands under, and any other report with the number that is issued;
since all numbers so far have been issued, both keep the numbers of different identities apart. Rows
are written under the number that a report is answered with, so the rows of a node come from reports
since the one that made it (`Since`): no earlier report has been answered with its number.
-/

namespace ImageGate

open History (Run)

namespace Deed

/-- The row of a node after its last report, as long as no sweep has deleted it. -/
inductive Stands : List Deed → NodeRow → Prop
  | reported {past : List Deed} {node : Nat} {now : Instant} {report : Report} :
      Stands (.stored node now report :: past) ⟨node, report.runtime, now.toMicros⟩
  | stored {past : List Deed} {n : NodeRow} {node : Nat} {now : Instant} {report : Report} :
      Stands past n → n.identity ≠ report.runtime → Stands (.stored node now report :: past) n
  | swept {past : List Deed} {n : NodeRow} {nodeRetention : Span} {now : Instant} :
      Stands past n → (now.before nodeRetention).toMicros < n.lastSeen →
      Stands (.swept nodeRetention now :: past) n

theorem Stands.exists_stored {past : List Deed} {n : NodeRow} (hn : Stands past n) :
    ∃ t r, .stored n.id t r ∈ past ∧ r.runtime = n.identity := by
  induction hn with
  | reported => exact ⟨_, _, List.mem_cons_self, rfl⟩
  | stored _ _ ih =>
    obtain ⟨t, r, hmem, hr⟩ := ih
    exact ⟨t, r, List.mem_cons_of_mem _ hmem, hr⟩
  | swept _ _ ih =>
    obtain ⟨t, r, hmem, hr⟩ := ih
    exact ⟨t, r, List.mem_cons_of_mem _ hmem, hr⟩

/-- The deeds since a node with this number and identity was made, while it has been there. -/
inductive Since (node : Nat) (identity : NodeIdentity) : List Deed → List Deed → Prop
  | made {past : List Deed} {now : Instant} {report : Report} : report.runtime = identity →
      (∀ n, Stands past n → n.identity ≠ identity) →
      Since node identity (.stored node now report :: past) [.stored node now report]
  | kept {past since : List Deed} {d : Deed} {lastSeen : Int} : Since node identity past since →
      Stands (d :: past) ⟨node, identity, lastSeen⟩ → Since node identity (d :: past) (d :: since)

/-- Reports of a node that stands are answered with its number, and reports of others with a number
that is greater than all before. -/
structure Numbering (past : List Deed) : Prop where
  one_identity : ∀ n t r u s, .stored n t r ∈ past → .stored n u s ∈ past → r.runtime = s.runtime
  kept : ∀ later n t r earlier, past = later ++ .stored n t r :: earlier →
    ∀ m, Stands earlier m → m.identity = r.runtime → n = m.id
  fresh : ∀ later n t r earlier, past = later ++ .stored n t r :: earlier →
    (∀ m, Stands earlier m → m.identity ≠ r.runtime) →
      ∀ k u s, .stored k u s ∈ earlier → k < n

end Deed

/-! ## Where rows come from -/

namespace Row

variable {α : Type} [Row α] {past : List Deed} {rows : List α} {put : Report → Nat → Int → List α}

/-- Up to their marks, rows are what reports have put last under their numbers. -/
def Backed (put : Report → Nat → Int → List α) (past : List Deed) (rows : List α) : Prop :=
  ∀ r ∈ rows, ∃ now report s, .stored (node r) now report ∈ past ∧
    IsLast (key · = key s) (put report (node r) now.toMicros) s ∧ unmark r = unmark s

theorem Backed.mono {more : List Deed} {left : List α} (hb : Backed put past rows)
    (hleft : ∀ r ∈ left, r ∈ rows) (hpast : ∀ d ∈ past, d ∈ more) : Backed put more left := by
  intro r hr
  obtain ⟨now, report, s, hmem, hs⟩ := hb r (hleft r hr)
  exact ⟨now, report, s, hpast _ hmem, hs⟩

theorem Backed.confirm {n : Nat} {now : Instant} {report : Report} (hb : Backed put past rows)
    (ho : Ordered rows) (hput : ∀ s ∈ put report n now.toMicros, node s = n) :
    Backed put (.stored n now report :: past)
      (Row.confirm n rows (put report n now.toMicros)) := by
  intro r hr
  rcases (mem_confirm ho).1 hr with hlast | ⟨⟨old, hold, rfl⟩, -⟩
  · have hnode : node r = n := hput r hlast.mem
    exact ⟨now, report, r, hnode ▸ List.mem_cons_self, hnode.symm ▸ hlast, rfl⟩
  · obtain ⟨t, s, w, hmem, hlast, heq⟩ := hb old hold
    rw [node_release]
    exact ⟨t, s, w, List.mem_cons_of_mem _ hmem, hlast, (unmark_release n old).trans heq⟩

end Row

namespace History

variable {retention : Span} {past : List Deed} {h : History}

/-! ## Which nodes there are -/

/-- **The nodes are those that stand.** -/
theorem Run.mem_nodes_iff (run : Run retention past h) {n : NodeRow} :
    n ∈ h.nodes ↔ Deed.Stands past n := by
  induction run with
  | start => exact ⟨nofun, nofun⟩
  | failed _ hs ih => exact store_eq_error hs ▸ ih
  | @stored past h next refused now report node run hs ih =>
    obtain ⟨hnode, hnodes, -⟩ := store_eq_ok hs
    rw [hnodes, mem_nodes_enrol run.coherent.numbered, ← hnode, ih]
    constructor
    · rintro (rfl | ⟨hn, hne⟩)
      · exact .reported
      · exact .stored hn hne
    · rintro (_ | ⟨hn, hne⟩)
      · exact .inl rfl
      · exact .inr ⟨hn, hne⟩
  | swept _ ih =>
    rw [nodes_sweep, List.mem_filter, ih, decide_eq_true_eq]
    constructor
    · rintro ⟨hn, hlt⟩
      exact .swept hn hlt
    · rintro (_ | _ | ⟨hn, hlt⟩)
      exact ⟨hn, hlt⟩

/-! ## How reports are answered -/

section Answer

variable {refused : Refusals} {next : History} {now : Instant} {report : Report} {node : Nat}

theorem Run.eq_id_of_stands (run : Run retention past h)
    (hs : h.store refused now report = (.ok node, next)) {m : NodeRow} (hm : Deed.Stands past m)
    (hidentity : m.identity = report.runtime) : node = m.id := by
  have hmem : m ∈ h.nodes := run.mem_nodes_iff.2 hm
  have hfound : h.node? report.runtime = some m :=
    run.coherent.numbered.node?_eq_some_iff.2 ⟨hmem, hidentity⟩
  rw [(store_eq_ok hs).1, (enrol_of_known _ hfound).1]

/-- A node that does not stand takes the number that is issued. -/
theorem Run.eq_issued_of_not_stands (run : Run retention past h)
    (hs : h.store refused now report = (.ok node, next))
    (hnone : ∀ m, Deed.Stands past m → m.identity ≠ report.runtime) : node = h.issued + 1 := by
  cases hfound : h.node? report.runtime with
  | none => rw [(store_eq_ok hs).1, (enrol_of_unknown _ hfound).1]
  | some k =>
    obtain ⟨hk, hidentity⟩ := node?_eq_some hfound
    exact absurd hidentity (hnone k (run.mem_nodes_iff.1 hk))

/-- A report is answered with the number under which its node stands, or else with a new one. -/
theorem Run.answer_cases (run : Run retention past h)
    (hs : h.store refused now report = (.ok node, next)) :
    (∃ m, Deed.Stands past m ∧ m.identity = report.runtime ∧ node = m.id) ∨
      ((∀ m, Deed.Stands past m → m.identity ≠ report.runtime) ∧ node = h.issued + 1) := by
  by_cases hstands : ∃ m, Deed.Stands past m ∧ m.identity = report.runtime
  · obtain ⟨m, hm, hidentity⟩ := hstands
    exact .inl ⟨m, hm, hidentity, run.eq_id_of_stands hs hm hidentity⟩
  · have hnone : ∀ m, Deed.Stands past m → m.identity ≠ report.runtime :=
      fun m hm hidentity => hstands ⟨m, hm, hidentity⟩
    exact .inr ⟨hnone, run.eq_issued_of_not_stands hs hnone⟩

end Answer

theorem Run.le_issued (run : Run retention past h) {k : Nat} {t : Instant} {r : Report}
    (hk : .stored k t r ∈ past) : k ≤ h.issued := by
  induction run with
  | start => cases hk
  | failed _ hs ih => exact store_eq_error hs ▸ ih hk
  | swept _ ih =>
    rw [issued_sweep]
    exact ih (by simpa using hk)
  | @stored past h next refused now report node run hs ih =>
    have hnode : node ≤ h.issued + 1 := by
      rcases run.answer_cases hs with ⟨m, hm, -, rfl⟩ | ⟨-, rfl⟩
      · have hle : m.id ≤ h.issued := run.coherent.numbered.id_le m (run.mem_nodes_iff.2 hm)
        omega
      · exact Nat.le_refl _
    rw [(store_eq_ok hs).2.2.1]
    rcases List.mem_cons.1 hk with heq | hk
    · cases heq
      exact hnode
    · have hle : k ≤ h.issued := ih hk
      omega

theorem Run.runtime_eq_of_number_eq (run : Run retention past h) {n : Nat} {t u : Instant}
    {r s : Report} (hr : .stored n t r ∈ past) (hs : .stored n u s ∈ past) :
    r.runtime = s.runtime := by
  induction run generalizing n t u r s with
  | start => cases hr
  | failed _ _ ih => exact ih hr hs
  | swept _ ih => exact ih (by simpa using hr) (by simpa using hs)
  | @stored past h next refused now report node run hstore ih =>
    -- An earlier report under the same number is of the same identity.
    have hold {t : Instant} {r : Report} (hr : .stored node t r ∈ past) :
        r.runtime = report.runtime := by
      rcases run.answer_cases hstore with ⟨m, hm, hidentity, rfl⟩ | ⟨-, hnew⟩
      · obtain ⟨u, s, hs, hsidentity⟩ := hm.exists_stored
        rw [← hidentity, ← hsidentity]
        exact ih hr hs
      · have hle : node ≤ h.issued := run.le_issued hr
        omega
    rcases List.mem_cons.1 hr with hnew | hr' <;> rcases List.mem_cons.1 hs with hnew' | hs'
    · cases hnew
      cases hnew'
      rfl
    · cases hnew
      exact (hold hs').symm
    · cases hnew'
      exact hold hr'
    · exact ih hr' hs'

/-- A report that is among the deeds has been stored after the deeds before it. -/
theorem Run.exists_store (run : Run retention past h) {later earlier : List Deed} {node : Nat}
    {now : Instant} {report : Report} (hpast : past = later ++ .stored node now report :: earlier) :
    ∃ before refused next, Run retention earlier before ∧
      before.store refused now report = (.ok node, next) := by
  induction run generalizing later with
  | start => simp at hpast
  | failed _ _ ih => exact ih hpast
  | stored run hs ih =>
    cases later with
    | nil =>
      cases hpast
      exact ⟨_, _, _, run, hs⟩
    | cons d later =>
      cases hpast
      exact ih rfl
  | swept _ ih =>
    cases later with
    | nil => cases hpast
    | cons d later =>
      cases hpast
      exact ih rfl

theorem Run.numbering (run : Run retention past h) : Deed.Numbering past := by
  refine ⟨fun n t r u s hr hs => run.runtime_eq_of_number_eq hr hs, ?_, ?_⟩
  · intro later n t r earlier hpast m hm hidentity
    obtain ⟨before, refused, next, run, hs⟩ := run.exists_store hpast
    exact run.eq_id_of_stands hs hm hidentity
  · intro later n t r earlier hpast hnone k u s hk
    obtain ⟨before, refused, next, run, hs⟩ := run.exists_store hpast
    have hle : k ≤ before.issued := run.le_issued hk
    have hnew : n = before.issued + 1 := run.eq_issued_of_not_stands hs hnone
    omega

/-! ## The rows of a node -/

/-- **No report before the one that made a node has been answered with its number.** -/
theorem Run.exists_since (run : Run retention past h) {n : NodeRow} (hn : n ∈ h.nodes) :
    ∃ since, Deed.Since n.id n.identity past since ∧
      ∀ t r, .stored n.id t r ∈ past → .stored n.id t r ∈ since := by
  induction run generalizing n with
  | start => cases hn
  | failed _ hs ih => exact ih (store_eq_error hs ▸ hn)
  | swept run ih =>
    have hstands := run.swept.mem_nodes_iff.1 hn
    rw [nodes_sweep, List.mem_filter] at hn
    obtain ⟨since, hsince, hmem⟩ := ih hn.1
    refine ⟨_, hsince.kept hstands, fun t r hr => ?_⟩
    exact List.mem_cons_of_mem _ (hmem t r (by simpa using hr))
  | @stored past h next refused now report node run hs ih =>
    have hstands := (run.stored hs).mem_nodes_iff.1 hn
    -- If the node has been there before, the deeds since it was made go on.
    have keep {m : NodeRow} (hm : m ∈ h.nodes) (hid : m.id = n.id)
        (hidentity : m.identity = n.identity) :
        ∃ since, Deed.Since n.id n.identity (.stored node now report :: past) since ∧
          ∀ t r, .stored n.id t r ∈ .stored node now report :: past →
            .stored n.id t r ∈ since := by
      obtain ⟨since, hsince, hmem⟩ := ih hm
      rw [hid, hidentity] at hsince
      rw [hid] at hmem
      refine ⟨_, hsince.kept hstands, fun t r hr => ?_⟩
      rcases List.mem_cons.1 hr with heq | hr
      · exact heq ▸ List.mem_cons_self
      · exact List.mem_cons_of_mem _ (hmem t r hr)
    obtain ⟨hnode, hnodes, -⟩ := store_eq_ok hs
    rw [hnodes, mem_nodes_enrol run.coherent.numbered, ← hnode] at hn
    rcases hn with rfl | ⟨hn, -⟩
    · rcases run.answer_cases hs with ⟨m, hm, hidentity, hid⟩ | ⟨hnone, hnew⟩
      · exact keep (run.mem_nodes_iff.2 hm) hid.symm hidentity
      · refine ⟨_, .made rfl hnone, fun t r hr => ?_⟩
        rcases List.mem_cons.1 hr with heq | hr
        · exact heq ▸ List.mem_cons_self
        · have hle : node ≤ h.issued := run.le_issued hr
          omega
    · exact keep hn rfl rfl

theorem Run.backed (run : Run retention past h) :
    Row.Backed Report.imageRows past h.images ∧
      Row.Backed Report.filesystemRows past h.filesystems := by
  induction run with
  | start => exact ⟨nofun, nofun⟩
  | failed _ hs ih => exact store_eq_error hs ▸ ih
  | stored run hs ih =>
    obtain ⟨-, -, -, himages, hfilesystems⟩ := store_eq_ok hs
    rw [himages, hfilesystems]
    exact ⟨ih.1.confirm run.coherent.images fun s hs => (Report.of_mem_imageRows hs).1,
      ih.2.confirm run.coherent.filesystems fun s hs => (Report.of_mem_filesystemRows hs).1⟩
  | swept _ ih =>
    exact ⟨ih.1.mono (fun r hr => (mem_images_sweep.1 hr).1) fun _ => List.mem_cons_of_mem _,
      ih.2.mono (fun r hr => (mem_filesystems_sweep.1 hr).1) fun _ => List.mem_cons_of_mem _⟩

/-! ## Main statement -/

/-- A row, with its mark, is what a report put for it. -/
theorem imageRow_eq_of_unmark_eq {row s : ImageRow} (h : Row.unmark row = Row.unmark s)
    (hmark : s.inLastReport = true) : { row with inLastReport := true } = s := by
  cases row
  cases s
  cases hmark
  simpa [Row.unmark] using h

theorem filesystemRow_eq_of_unmark_eq {row s : FilesystemRow} (h : Row.unmark row = Row.unmark s)
    (hmark : s.inLastReport = true) : { row with inLastReport := true } = s := by
  cases row
  cases s
  cases hmark
  simpa [Row.unmark] using h

theorem Run.exists_tellsImage (run : Run retention past h) {row : ImageRow}
    (hrow : row ∈ h.images) : ∃ now report, .stored row.node now report ∈ past ∧
      report.TellsImage row.node now.toMicros { row with inLastReport := true } := by
  obtain ⟨now, report, s, hstored, hlast, hunmark⟩ := run.backed.1 row hrow
  refine ⟨now, report, hstored, ?_⟩
  rw [imageRow_eq_of_unmark_eq hunmark (Report.of_mem_imageRows hlast.mem).2.1]
  exact Report.isLast_imageRows.1 hlast

theorem Run.exists_tellsFilesystem (run : Run retention past h) {row : FilesystemRow}
    (hrow : row ∈ h.filesystems) : ∃ now report, .stored row.node now report ∈ past ∧
      report.TellsFilesystem row.node now.toMicros { row with inLastReport := true } := by
  obtain ⟨now, report, s, hstored, hlast, hunmark⟩ := run.backed.2 row hrow
  refine ⟨now, report, hstored, ?_⟩
  rw [filesystemRow_eq_of_unmark_eq hunmark (Report.of_mem_filesystemRows hlast.mem).2.1]
  exact Report.isLast_filesystemRows.1 hlast

/-- What a view shows, the node itself has said in one of the deeds. -/
structure IsOwn (since : List Deed) (view : NodeView) : Prop where
  images : ∀ row ∈ view.images, ∃ now report, .stored view.node.id now report ∈ since ∧
    report.runtime = view.node.identity ∧
    report.TellsImage view.node.id now.toMicros { row with inLastReport := true }
  filesystems : ∀ row ∈ view.filesystems, ∃ now report, .stored view.node.id now report ∈ since ∧
    report.runtime = view.node.identity ∧
    report.TellsFilesystem view.node.id now.toMicros { row with inLastReport := true }

theorem Run.isOwn_view (run : Run retention past h) (all : Bool) {n : NodeRow} (hn : n ∈ h.nodes) :
    ∃ since, Deed.Since n.id n.identity past since ∧ IsOwn since (h.view all n) := by
  obtain ⟨since, hsince, hmem⟩ := run.exists_since hn
  -- All reports under the number are of the node's identity.
  have hruntime {t : Instant} {r : Report} (hr : .stored n.id t r ∈ past) :
      r.runtime = n.identity := by
    obtain ⟨u, s, hs, hidentity⟩ := (run.mem_nodes_iff.1 hn).exists_stored
    exact (run.runtime_eq_of_number_eq hr hs).trans hidentity
  refine ⟨since, hsince, fun row hrow => ?_, fun row hrow => ?_⟩
  · simp only [view, List.mem_filter, Bool.and_eq_true, beq_iff_eq] at hrow
    obtain ⟨hrow, hnode, -⟩ := hrow
    obtain ⟨now, report, hstored, htells⟩ := run.exists_tellsImage hrow
    rw [hnode] at hstored
    refine ⟨now, report, hmem now report hstored, hruntime hstored, ?_⟩
    show report.TellsImage n.id _ _
    rwa [← hnode]
  · simp only [view, List.mem_filter, Bool.and_eq_true, beq_iff_eq] at hrow
    obtain ⟨hrow, hnode, -⟩ := hrow
    obtain ⟨now, report, hstored, htells⟩ := run.exists_tellsFilesystem hrow
    rw [hnode] at hstored
    refine ⟨now, report, hmem now report hstored, hruntime hstored, ?_⟩
    show report.TellsFilesystem n.id _ _
    rwa [← hnode]

/-- **Numbers are not used twice, and rows without a node stay out of sight.** In every history that
reports, failures and sweeps have led to, by any clock, a number has been given to one identity only;
an identity is answered with its number as long as its node stands, and afterwards with a number
greater than all before. The nodes are those that stand; there is one row for each identity, one for
each image, tag and digest of a number, and one for each mount point. Whatever is shown of a node, all
or its last report, the node itself has said in a report since the one that made it. -/
theorem Run.numbers_last (run : Run retention past h) :
    Deed.Numbering past ∧ (∀ n, n ∈ h.nodes ↔ Deed.Stands past n) ∧
      (h.nodes.map (·.identity)).Nodup ∧ (h.images.map (·.key)).Nodup ∧
      (h.filesystems.map (·.key)).Nodup ∧
      ∀ freshness now nodename all, ∀ view ∈ h.report freshness now nodename all,
        ∃ since, Deed.Since view.node.id view.node.identity past since ∧ IsOwn since view := by
  have hc : Coherent h := run.coherent
  refine ⟨run.numbering, fun n => run.mem_nodes_iff, ?_, hc.images.nodup_map,
    hc.filesystems.nodup_map, fun freshness now nodename all view hview => ?_⟩
  · exact List.pairwise_map.2 (hc.numbered.pairwise.imp And.right)
  · obtain ⟨n, hn, rfl⟩ := List.mem_map.1 hview
    exact run.isOwn_view all (List.mem_filter.1 hn).1

/-- A node is deleted and returns: its old row stays under the old number, and only what it has
reported since is shown. -/
theorem Run.numbers_last_of_returned :
    ∃ past h, Run (.ofSeconds 1000) past h ∧ h.images.map (·.node) = [1, 2] ∧ Deed.Numbering past ∧
      (h.nodes.map (·.identity)).Nodup ∧
      ∃ view ∈ h.report (.ofSeconds 180) ⟨210, 0⟩ "" true, view.images.map (·.entry.id) = ["b"] ∧
        ∃ since, Deed.Since 2 {} past since ∧ IsOwn since view := by
  let old : Report := { images := [{ id := "a", repoTags := ["app:1"] }] }
  let new : Report := { images := [{ id := "b", repoTags := ["app:1"] }] }
  let past : List Deed :=
    [.stored 2 ⟨210, 0⟩ new, .swept (.ofSeconds 10) ⟨200, 0⟩, .stored 1 ⟨100, 0⟩ old]
  have run : Run (.ofSeconds 1000) past _ :=
    ((Run.start.store admitAll ⟨100, 0⟩ old rfl).swept).store admitAll ⟨210, 0⟩ new rfl
  obtain ⟨hnumbering, -, hnodup, -, -, hviews⟩ := run.numbers_last
  exact ⟨past, _, run, rfl, hnumbering, hnodup, _, List.mem_singleton.2 rfl, rfl,
    hviews (.ofSeconds 180) ⟨210, 0⟩ "" true _ (List.mem_singleton.2 rfl)⟩

end History

end ImageGate
