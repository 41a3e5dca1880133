import ImageGate.Proofs.History.Row
import ImageGate.Proofs.History.Transaction
import ImageGate.Proofs.Time.Instant

/-!
# Runs of a history

A history comes about by reports that nodes store, reports that fail, and sweeps, in any order and
by any clock (`History.Run`). What has happened is kept beside it as a list of deeds, the latest
first; a report that fails is no deed.

`store_eq` says all that storing a report does, in terms of `Row.confirm`. The rest are laws of
every run: a report that fails changes nothing (`store_eq_error`), and the tables are in order
(`Run.coherent`): rows by keys of their own, nodes by numbers and identities of their own.
-/

namespace ImageGate

/-- What has happened to a history. -/
inductive Deed where
  /-- A report has been stored under the number of its node. -/
  | stored (node : Nat) (now : Instant) (report : Report)
  /-- Nodes that were silent for so long, and old rows, have been deleted. -/
  | swept (nodeRetention : Span) (now : Instant)
deriving Repr

def Deed.now : Deed → Instant
  | .stored _ now _ => now
  | .swept _ now => now

namespace Report

variable {r : Report} {node : Nat} {now : Int}

/-- A report puts marked rows of its node and its instant. -/
theorem of_mem_imageRows {row : ImageRow} (h : row ∈ r.imageRows node now) :
    row.node = node ∧ row.inLastReport = true ∧ row.reportedAt = now := by
  obtain ⟨e, -, rfl⟩ := List.mem_map.1 h
  exact ⟨rfl, rfl, rfl⟩

theorem of_mem_filesystemRows {row : FilesystemRow} (h : row ∈ r.filesystemRows node now) :
    row.node = node ∧ row.inLastReport = true ∧ row.reportedAt = now := by
  obtain ⟨e, -, rfl⟩ := List.mem_map.1 h
  exact ⟨rfl, rfl, rfl⟩

end Report

namespace History

/-- The history has come about by these deeds, the latest first, with rows kept for `retention`. -/
inductive Run (retention : Span) : List Deed → History → Prop
  | start : Run retention [] {}
  | stored {past : List Deed} {h next : History} {refused : Refusals} {now : Instant}
      {report : Report} {node : Nat} : Run retention past h →
      h.store refused now report = (.ok node, next) →
      Run retention (.stored node now report :: past) next
  | failed {past : List Deed} {h next : History} {refused : Refusals} {now : Instant}
      {report : Report} {fault : Fault} : Run retention past h →
      h.store refused now report = (.error fault, next) → Run retention past next
  | swept {past : List Deed} {h : History} {nodeRetention : Span} {now : Instant} :
      Run retention past h →
      Run retention (.swept nodeRetention now :: past) (h.sweep retention nodeRetention now).2

theorem Run.store {retention : Span} {past : List Deed} {h : History} (run : Run retention past h)
    (refused : Refusals) (now : Instant) (report : Report) {node : Nat}
    (hs : (h.store refused now report).1 = .ok node) :
    Run retention (.stored node now report :: past) (h.store refused now report).2 :=
  run.stored (Prod.ext hs rfl)

/-! ## Storing a report -/

theorem applyAll_putFilesystems (rows : List FilesystemRow) (h : History) :
    h.applyAll (rows.map .putFilesystem) = { h with
      filesystems := Table.putAll FilesystemKey.order FilesystemRow.key h.filesystems rows } := by
  induction rows generalizing h with
  | nil => rfl
  | cons row rows ih => exact ih (h.putFilesystem row)

theorem applyAll_putImages (rows : List ImageRow) (h : History) :
    h.applyAll (rows.map .putImage) = { h with
      images := Table.putAll ImageKey.order ImageRow.key h.images rows } := by
  induction rows generalizing h with
  | nil => rfl
  | cons row rows ih => exact ih (h.putImage row)

theorem applyAll_append (changes more : List Change) (h : History) :
    h.applyAll (changes ++ more) = (h.applyAll changes).applyAll more :=
  List.foldl_append

theorem enrol_rows (h : History) (now : Int) (identity : NodeIdentity) :
    (h.enrol now identity).2.images = h.images ∧
      (h.enrol now identity).2.filesystems = h.filesystems ∧
      (h.enrol now identity).2.issued = h.issued + 1 := by
  unfold enrol
  dsimp only
  split <;> exact ⟨rfl, rfl, rfl⟩

/-- **All that the changes of a report do**, or those in front of some row of an image: its node is
noted, and the rows it puts are confirmed. -/
theorem applyAll_changes (h : History) (now : Int) (report : Report) (node : Nat)
    (images : List ImageRow) :
    h.applyAll ([.enrol now report.runtime, .unmarkFilesystems node, .unmarkImages node] ++
        (report.filesystemRows node now).map .putFilesystem ++ images.map .putImage) =
      { nodes := (h.enrol now report.runtime).2.nodes
        images := Row.confirm node h.images images
        filesystems := Row.confirm node h.filesystems (report.filesystemRows node now)
        issued := h.issued + 1 } := by
  obtain ⟨himages, hfilesystems, hissued⟩ := enrol_rows h now report.runtime
  rw [applyAll_append, applyAll_append, applyAll_putImages, applyAll_putFilesystems]
  simp only [applyAll, List.foldl_cons, List.foldl_nil, apply, unmarkFilesystems, unmarkImages,
    himages, hfilesystems, hissued]
  rfl

/-- **All that storing a report does**, and when it does nothing: the changes of the report are made,
unless one of them is refused. -/
theorem store_eq {h : History} {now : Instant} {report : Report} {node : Nat} (refused : Refusals)
    (hnode : (h.enrol now.toMicros report.runtime).1 = node) :
    h.store refused now report =
      match firstRefusal refused 0 (report.changes node now.toMicros) with
      | some reason => (.error (.refused reason), h)
      | none => (.ok node,
        { nodes := (h.enrol now.toMicros report.runtime).2.nodes
          images := Row.confirm node h.images (report.imageRows node now.toMicros)
          filesystems := Row.confirm node h.filesystems (report.filesystemRows node now.toMicros)
          issued := h.issued + 1 }) := by
  have htables := Snapshot.lawful.tables_transact refused (report.changes node now.toMicros)
    { current := h }
  have hstore := Snapshot.database.store_eq refused { current := h } now report
  rw [show ((Snapshot.database.tables { current := h }).enrol now.toMicros report.runtime).1 = node
    from hnode] at hstore
  rw [store, hstore]
  cases hfirst : firstRefusal refused 0 (report.changes node now.toMicros) with
  | some reason =>
    rw [hfirst] at htables
    exact congrArg (Prod.mk _) htables
  | none =>
    rw [hfirst] at htables
    exact congrArg (Prod.mk _) (htables.trans (applyAll_changes h now.toMicros report node _))

theorem store_of_admitted {refused : Refusals} {h : History} {now : Instant} {report : Report}
    {node : Nat} (hnode : (h.enrol now.toMicros report.runtime).1 = node)
    (hnone : firstRefusal refused 0 (report.changes node now.toMicros) = none) :
    h.store refused now report = (.ok node,
      { nodes := (h.enrol now.toMicros report.runtime).2.nodes
        images := Row.confirm node h.images (report.imageRows node now.toMicros)
        filesystems := Row.confirm node h.filesystems (report.filesystemRows node now.toMicros)
        issued := h.issued + 1 }) := by
  rw [store_eq refused hnode, hnone]

theorem store_eq_ok {refused : Refusals} {h next : History} {now : Instant}
    {report : Report} {node : Nat} (hs : h.store refused now report = (.ok node, next)) :
    node = (h.enrol now.toMicros report.runtime).1 ∧
      next.nodes = (h.enrol now.toMicros report.runtime).2.nodes ∧
      next.issued = h.issued + 1 ∧
      next.images = Row.confirm node h.images (report.imageRows node now.toMicros) ∧
      next.filesystems =
        Row.confirm node h.filesystems (report.filesystemRows node now.toMicros) := by
  rw [store_eq refused rfl] at hs
  split at hs
  case h_1 => cases hs
  case h_2 =>
    cases hs
    exact ⟨rfl, rfl, rfl, rfl, rfl⟩

theorem store_eq_error {refused : Refusals} {h next : History} {now : Instant}
    {report : Report} {fault : Fault} (hs : h.store refused now report = (.error fault, next)) :
    next = h := by
  rw [store_eq refused rfl] at hs
  split at hs
  case h_1 =>
    cases hs
    rfl
  case h_2 => cases hs

/-! ## Nodes and their numbers -/

/-- Nodes stand in the order of their numbers, have identities of their own, and have taken no
number that has not been issued. -/
structure Numbered (h : History) : Prop where
  pairwise : h.nodes.Pairwise fun a b => a.id < b.id ∧ a.identity ≠ b.identity
  id_le : ∀ n ∈ h.nodes, n.id ≤ h.issued

variable {h : History} {now : Int} {identity : NodeIdentity}

/-- Two nodes differ in both their numbers and their identities. -/
theorem Numbered.eq_or_ne (hn : Numbered h) {a b : NodeRow} (ha : a ∈ h.nodes)
    (hb : b ∈ h.nodes) : a = b ∨ (a.id ≠ b.id ∧ a.identity ≠ b.identity) := by
  refine List.Pairwise.forall_of_forall_of_flip
    (R := fun a b : NodeRow => a = b ∨ (a.id ≠ b.id ∧ a.identity ≠ b.identity))
    (fun _ _ => .inl rfl) ?_ ?_ ha hb
  · exact hn.pairwise.imp fun hab => .inr ⟨Nat.ne_of_lt hab.1, hab.2⟩
  · exact hn.pairwise.imp fun hab => .inr ⟨Nat.ne_of_gt hab.1, hab.2.symm⟩

theorem Numbered.eq_of_id_eq (hn : Numbered h) {a b : NodeRow} (ha : a ∈ h.nodes)
    (hb : b ∈ h.nodes) (hid : a.id = b.id) : a = b :=
  (hn.eq_or_ne ha hb).resolve_right fun hne => hne.1 hid

theorem Numbered.eq_of_identity_eq (hn : Numbered h) {a b : NodeRow} (ha : a ∈ h.nodes)
    (hb : b ∈ h.nodes) (hidentity : a.identity = b.identity) : a = b :=
  (hn.eq_or_ne ha hb).resolve_right fun hne => hne.2 hidentity

/-- A node that is known keeps its number, and its row tells the new instant. -/
theorem enrol_of_known (now : Int) {m : NodeRow} (hm : h.node? identity = some m) :
    (h.enrol now identity).1 = m.id ∧
      (h.enrol now identity).2.nodes = h.nodes.map fun n =>
        if n.identity == identity then { n with lastSeen := now } else n := by
  simp [enrol, hm]

/-- A node that is not known takes the number that is issued, and its row is the last one. -/
theorem enrol_of_unknown (now : Int) (hm : h.node? identity = none) :
    (h.enrol now identity).1 = h.issued + 1 ∧
      (h.enrol now identity).2.nodes = h.nodes ++ [⟨h.issued + 1, identity, now⟩] := by
  simp [enrol, hm]

theorem node?_eq_some {m : NodeRow} (hm : h.node? identity = some m) :
    m ∈ h.nodes ∧ m.identity = identity := by
  refine ⟨List.mem_of_find?_eq_some hm, ?_⟩
  simpa using List.find?_some hm

theorem node?_eq_none (hm : h.node? identity = none) : ∀ n ∈ h.nodes, n.identity ≠ identity := by
  simpa [node?] using hm

theorem Numbered.node?_eq_some_iff (hn : Numbered h) {n : NodeRow} :
    h.node? identity = some n ↔ n ∈ h.nodes ∧ n.identity = identity := by
  constructor
  · exact node?_eq_some
  · rintro ⟨hmem, rfl⟩
    cases hm : h.node? n.identity with
    | none => exact absurd rfl (node?_eq_none hm n hmem)
    | some m =>
      obtain ⟨hmem', hidentity⟩ := node?_eq_some hm
      rw [hn.eq_of_identity_eq hmem' hmem hidentity]

/-- **The node that reports is the only one whose row changes.** -/
theorem mem_nodes_enrol (hn : Numbered h) {n : NodeRow} :
    n ∈ (h.enrol now identity).2.nodes ↔
      n = ⟨(h.enrol now identity).1, identity, now⟩ ∨ (n ∈ h.nodes ∧ n.identity ≠ identity) := by
  cases hm : h.node? identity with
  | none =>
    have hne := node?_eq_none hm
    obtain ⟨hid, hnodes⟩ := enrol_of_unknown now hm
    rw [hid, hnodes, List.mem_append, List.mem_singleton, or_comm]
    exact or_congr_right ⟨fun hmem => ⟨hmem, hne n hmem⟩, And.left⟩
  | some m =>
    obtain ⟨hmem, hidentity⟩ := node?_eq_some hm
    obtain ⟨hid, hnodes⟩ := enrol_of_known now hm
    rw [hid, hnodes, List.mem_map]
    constructor
    · rintro ⟨k, hk, rfl⟩
      split
      case isTrue heq =>
        -- The only row with this identity is that of `m`.
        have heq : k.identity = identity := by simpa using heq
        obtain rfl : k = m := hn.eq_of_identity_eq hk hmem (heq.trans hidentity.symm)
        exact .inl (by rw [← heq])
      case isFalse hne => exact .inr ⟨hk, by simpa using hne⟩
    · rintro (rfl | ⟨hk, hne⟩)
      · exact ⟨m, hmem, by simp [hidentity]⟩
      · exact ⟨n, hk, by simp [hne]⟩

theorem id_enrol_ne (hn : Numbered h) {n : NodeRow} (hmem : n ∈ h.nodes)
    (hne : n.identity ≠ identity) : n.id ≠ (h.enrol now identity).1 := by
  cases hm : h.node? identity with
  | none =>
    rw [(enrol_of_unknown now hm).1]
    have hle := hn.id_le n hmem
    omega
  | some m =>
    obtain ⟨hm', hidentity⟩ := node?_eq_some hm
    rw [(enrol_of_known now hm).1]
    exact fun hid => hne (hn.eq_of_id_eq hmem hm' hid ▸ hidentity)

theorem numbered_enrol (hn : Numbered h) : Numbered (h.enrol now identity).2 := by
  have hissued : (h.enrol now identity).2.issued = h.issued + 1 := (enrol_rows h now identity).2.2
  cases hm : h.node? identity with
  | none =>
    have hnodes := (enrol_of_unknown now hm).2
    refine ⟨?_, fun n hmem => ?_⟩
    · rw [hnodes, List.pairwise_append]
      refine ⟨hn.pairwise, List.pairwise_singleton _ _, fun a ha b hb => ?_⟩
      obtain rfl := List.mem_singleton.1 hb
      exact ⟨Nat.lt_succ_of_le (hn.id_le a ha), node?_eq_none hm a ha⟩
    · rw [hnodes, List.mem_append, List.mem_singleton] at hmem
      rw [hissued]
      rcases hmem with hmem | rfl
      · exact Nat.le_succ_of_le (hn.id_le n hmem)
      · exact Nat.le_refl _
  | some m =>
    have hnodes := (enrol_of_known now hm).2
    -- Renewing a row changes neither its number nor its identity.
    have hrenew (n : NodeRow) :
        (if n.identity == identity then { n with lastSeen := now } else n).id = n.id ∧
        (if n.identity == identity then { n with lastSeen := now } else n).identity =
          n.identity := by
      split <;> exact ⟨rfl, rfl⟩
    refine ⟨?_, fun n hmem => ?_⟩
    · rw [hnodes, List.pairwise_map]
      refine hn.pairwise.imp fun hab => ?_
      rwa [(hrenew _).1, (hrenew _).1, (hrenew _).2, (hrenew _).2]
    · rw [hnodes, List.mem_map] at hmem
      obtain ⟨k, hk, rfl⟩ := hmem
      rw [(hrenew k).1, hissued]
      exact Nat.le_succ_of_le (hn.id_le k hk)

theorem Numbered.congr (hn : Numbered h) {next : History} (hnodes : next.nodes = h.nodes)
    (hissued : next.issued = h.issued) : Numbered next :=
  ⟨hnodes ▸ hn.pairwise, hnodes ▸ hissued ▸ hn.id_le⟩

/-! ## Sweeps -/

variable {retention nodeRetention : Span} {t : Instant}

/-- A sweep makes its changes, for nothing is refused. -/
theorem sweep_snd (h : History) (retention nodeRetention : Span) (t : Instant) :
    (h.sweep retention nodeRetention t).2 =
      h.applyAll (sweepChanges retention nodeRetention t) := by
  have htables := Snapshot.lawful.tables_transact admitAll (sweepChanges retention nodeRetention t)
    { current := h }
  rw [firstRefusal_admitAll] at htables
  exact htables

/-- A row survives a sweep if rows are kept for ever or it is younger than the cutoff. -/
def Survives (retention : Span) (t : Instant) (reportedAt : Int) : Prop :=
  retention = 0 ∨ (t.before retention).toMicros < reportedAt

instance (retention : Span) (t : Instant) (reportedAt : Int) :
    Decidable (Survives retention t reportedAt) :=
  inferInstanceAs (Decidable (_ ∨ _))

/-- **All that a sweep does.** The nodes that are left have been seen since its cutoff for nodes, and
the rows that are left survive it. -/
theorem sweep_snd_eq (h : History) (retention nodeRetention : Span) (t : Instant) :
    (h.sweep retention nodeRetention t).2 =
      { h with
        nodes := h.nodes.filter fun n => (t.before nodeRetention).toMicros < n.lastSeen
        images := h.images.filter fun r => Survives retention t r.reportedAt
        filesystems := h.filesystems.filter fun r => Survives retention t r.reportedAt } := by
  rw [sweep_snd, sweepChanges]
  by_cases hzero : retention = 0
  · simp [hzero, applyAll, apply, dropNodes, Survives]
  · simp [hzero, applyAll, apply, dropNodes, dropImages, dropFilesystems, Survives]

theorem nodes_sweep : (h.sweep retention nodeRetention t).2.nodes =
    h.nodes.filter fun n => (t.before nodeRetention).toMicros < n.lastSeen := by
  rw [sweep_snd_eq]

theorem issued_sweep : (h.sweep retention nodeRetention t).2.issued = h.issued := by
  rw [sweep_snd_eq]

theorem mem_images_sweep {r : ImageRow} : r ∈ (h.sweep retention nodeRetention t).2.images ↔
    r ∈ h.images ∧ Survives retention t r.reportedAt := by
  simp [sweep_snd_eq]

theorem mem_filesystems_sweep {r : FilesystemRow} :
    r ∈ (h.sweep retention nodeRetention t).2.filesystems ↔
      r ∈ h.filesystems ∧ Survives retention t r.reportedAt := by
  simp [sweep_snd_eq]

/-! ## Laws of every run -/

structure Coherent (h : History) : Prop where
  numbered : Numbered h
  images : Row.Ordered h.images
  filesystems : Row.Ordered h.filesystems

theorem Coherent.store {refused : Refusals} {next : History} {report : Report}
    {node : Nat} (hc : Coherent h) (hs : h.store refused t report = (.ok node, next)) :
    Coherent next := by
  obtain ⟨-, hnodes, hissued, himages, hfilesystems⟩ := store_eq_ok hs
  refine ⟨?_, himages ▸ hc.images.confirm, hfilesystems ▸ hc.filesystems.confirm⟩
  refine (numbered_enrol hc.numbered).congr hnodes ?_
  rw [hissued, (enrol_rows h t.toMicros report.runtime).2.2]

theorem Coherent.sweep (hc : Coherent h) : Coherent (h.sweep retention nodeRetention t).2 := by
  refine ⟨⟨?_, fun n hn => ?_⟩, ?_, ?_⟩
  · rw [nodes_sweep]
    exact hc.numbered.pairwise.sublist List.filter_sublist
  · rw [nodes_sweep] at hn
    rw [issued_sweep]
    exact hc.numbered.id_le n (List.mem_filter.1 hn).1
  · rw [sweep_snd_eq]
    exact hc.images.filter _
  · rw [sweep_snd_eq]
    exact hc.filesystems.filter _

theorem Run.coherent {past : List Deed} (run : Run retention past h) : Coherent h := by
  induction run with
  | start => exact ⟨⟨.nil, nofun⟩, .nil, .nil⟩
  | stored _ hs ih => exact ih.store hs
  | failed _ hs ih => exact store_eq_error hs ▸ ih
  | swept _ ih => exact ih.sweep

end History

end ImageGate
