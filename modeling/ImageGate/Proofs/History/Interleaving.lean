import ImageGate.History.View
import ImageGate.Proofs.History.Run
import Mathlib.Data.List.Induction

/-!
# Nodes do not interfere

All nodes share the tables and the counter for numbers, and reports of different nodes arrive in any
order. What a history shows of a node depends on the reports of that node alone, and so do the
answers about a tag: two interleavings of the same reports lead to the same history, up to the
numbers under which nodes are kept (`receive_interleaved`).

The rows of a number are the only ones that a report under it touches (`Row.own_confirm_of_ne`), and
what it makes of them depends on nothing else (`Row.own_confirm`). So the rows of a node are what
its own reports leave when they are put into an empty table (`Row.left`), whatever has arrived in
between (`Row.Separate`). The order of a node's rows has nothing to do with its number, so they can
be renumbered before or after rows are put (`Row.map_confirm`).
-/

namespace ImageGate

/-! ## Arrivals -/

/-- A report that arrives at an instant. -/
structure Arrival where
  now : Instant
  report : Report
deriving DecidableEq, Repr, Inhabited

namespace Arrival

variable {identity : NodeIdentity} {past : List Arrival} {a : Arrival}

def sentBy (identity : NodeIdentity) (arrivals : List Arrival) : List Arrival :=
  arrivals.filter (·.report.runtime == identity)

@[simp] theorem sentBy_nil : sentBy identity [] = [] :=
  rfl

theorem sentBy_append_of_eq (h : a.report.runtime = identity) :
    sentBy identity (past ++ [a]) = sentBy identity past ++ [a] := by
  simp [sentBy, h]

theorem sentBy_append_of_ne (h : a.report.runtime ≠ identity) :
    sentBy identity (past ++ [a]) = sentBy identity past := by
  simp [sentBy, h]

/-- The arrivals interleave what each node sends, and keep each node's order. -/
def Interleaves (sent : NodeIdentity → List Arrival) (arrivals : List Arrival) : Prop :=
  ∀ identity, sentBy identity arrivals = sent identity

end Arrival

/-! ## Renumbering -/

def NodeRow.renumber (rename : Nat → Nat) (n : NodeRow) : NodeRow :=
  { n with id := rename n.id }

def ImageRow.renumber (rename : Nat → Nat) (r : ImageRow) : ImageRow :=
  { r with node := rename r.node }

def FilesystemRow.renumber (rename : Nat → Nat) (r : FilesystemRow) : FilesystemRow :=
  { r with node := rename r.node }

def NodeView.renumber (rename : Nat → Nat) (v : NodeView) : NodeView :=
  { node := v.node.renumber rename
    images := v.images.map (.renumber rename)
    filesystems := v.filesystems.map (.renumber rename) }

/-- Rows whose order within a node has nothing to do with its number. -/
class RenumberedRow (α : Type) extends Row α where
  renumber : (Nat → Nat) → α → α
  node_renumber (rename : Nat → Nat) (r : α) : node (renumber rename r) = rename (node r)
  inLastReport_renumber (rename : Nat → Nat) (r : α) :
    inLastReport (renumber rename r) = inLastReport r
  unmark_renumber (rename : Nat → Nat) (r : α) :
    unmark (renumber rename r) = renumber rename (unmark r)
  order_renumber {rename : Nat → Nat} {a b : α} : node a = node b →
    order (key (renumber rename a)) (key (renumber rename b)) = order (key a) (key b)

instance : RenumberedRow ImageRow where
  renumber := ImageRow.renumber
  node_renumber _ _ := rfl
  inLastReport_renumber _ _ := rfl
  unmark_renumber _ _ := rfl
  order_renumber {rename a b} (h : a.node = b.node) := by
    simp [Row.order, Row.key, ImageKey.order, ImageRow.key, ImageRow.renumber, compareLex,
      compareOn, h]

instance : RenumberedRow FilesystemRow where
  renumber := FilesystemRow.renumber
  node_renumber _ _ := rfl
  inLastReport_renumber _ _ := rfl
  unmark_renumber _ _ := rfl
  order_renumber {rename a b} (h : a.node = b.node) := by
    simp [Row.order, Row.key, FilesystemKey.order, FilesystemRow.key, FilesystemRow.renumber,
      compareLex, compareOn, h]

/-! ## The rows of a number -/

namespace Row

section Own

variable {α : Type} [Row α] {m n : Nat} {rows new : List α}

def own (n : Nat) (rows : List α) : List α :=
  rows.filter (node · == n)

theorem mem_own {r : α} : r ∈ own n rows ↔ r ∈ rows ∧ node r = n := by
  simp [own]

theorem Ordered.own (h : Ordered rows) : Ordered (Row.own n rows) :=
  h.filter _

/-- What a report makes of the rows of its number depends on these rows only. -/
theorem own_confirm (h : Ordered rows) (hnew : ∀ s ∈ new, node s = n) :
    own n (confirm n rows new) = confirm n (own n rows) new := by
  refine h.confirm.own.ext h.own.confirm fun r => ?_
  rw [mem_own, mem_confirm h, mem_confirm h.own]
  constructor
  · rintro ⟨hlast | ⟨⟨old, hold, rfl⟩, hkey⟩, hnode⟩
    · exact .inl hlast
    · rw [node_release] at hnode
      exact .inr ⟨⟨old, mem_own.2 ⟨hold, hnode⟩, rfl⟩, hkey⟩
  · rintro (hlast | ⟨⟨old, hold, rfl⟩, hkey⟩)
    · exact ⟨.inl hlast, hnew r hlast.mem⟩
    · obtain ⟨hold, hnode⟩ := mem_own.1 hold
      exact ⟨.inr ⟨⟨old, hold, rfl⟩, hkey⟩, by rwa [node_release]⟩

/-- A report does not touch the rows of other numbers. -/
theorem own_confirm_of_ne (h : Ordered rows) (hnew : ∀ s ∈ new, node s = n) (hne : m ≠ n) :
    own m (confirm n rows new) = own m rows := by
  refine h.confirm.own.ext h.own fun r => ?_
  rw [mem_own, mem_own]
  refine and_congr_left fun hnode => others_confirm h hnew ?_
  rwa [hnode]

end Own

section Left

open RenumberedRow

variable {α : Type} [RenumberedRow α] {rename : Nat → Nat} {n : Nat} {rows new : List α}

theorem release_renumber {r : α} (h : node r = n) :
    release (rename n) (renumber rename r) = renumber rename (release n r) := by
  have hnode : node (renumber rename r) = rename n := by rw [node_renumber, h]
  rw [release_of_eq hnode, release_of_eq h, unmark_renumber]

/-- The rows of a number can be renumbered before or after a report. -/
theorem map_confirm (hrows : ∀ r ∈ rows, node r = n) (hnew : ∀ s ∈ new, node s = n) :
    confirm (rename n) (rows.map (renumber rename)) (new.map (renumber rename)) =
      (confirm n rows new).map (renumber rename) := by
  have hrelease : (rows.map (renumber rename)).map (release (rename n)) =
      (rows.map (release n)).map (renumber rename) := by
    rw [List.map_map, List.map_map]
    exact List.map_congr_left fun r hr => release_renumber (hrows r hr)
  rw [confirm, confirm, hrelease]
  refine Table.putAll_map fun s hs r hr => order_renumber ?_
  rw [hnew s hs]
  rcases hr with hr | hr
  · obtain ⟨old, hold, rfl⟩ := List.mem_map.1 hr
    rw [node_release, hrows old hold]
  · rw [hnew r hr]

/-- Rows of one kind that reports put: they are rows of the number they are put under, and say the
same under any number. -/
structure Putting (put : Report → Nat → Int → List α) : Prop where
  node_eq {report : Report} {n : Nat} {now : Int} {s : α} : s ∈ put report n now → node s = n
  renumber (rename : Nat → Nat) (report : Report) (n : Nat) (now : Int) :
    put report (rename n) now = (put report n now).map (renumber rename)

variable {put : Report → Nat → Int → List α} {arrivals : List Arrival}

/-- What reports leave under a number if no others arrive. -/
def left (put : Report → Nat → Int → List α) (n : Nat) (arrivals : List Arrival) : List α :=
  arrivals.foldl (fun rows a => confirm n rows (put a.report n a.now.toMicros)) []

@[simp] theorem left_nil : left put n [] = [] :=
  rfl

@[simp] theorem left_append (a : Arrival) : left put n (arrivals ++ [a]) =
    confirm n (left put n arrivals) (put a.report n a.now.toMicros) := by
  simp [left]

theorem ordered_left : Ordered (left put n arrivals) := by
  induction arrivals using List.reverseRecOn with
  | nil => exact .nil
  | append_singleton arrivals a ih =>
    rw [left_append]
    exact ih.confirm

theorem node_of_mem_left (hput : Putting put) {r : α} (hr : r ∈ left put n arrivals) :
    node r = n := by
  induction arrivals using List.reverseRecOn generalizing r with
  | nil => cases hr
  | append_singleton arrivals a ih =>
    rw [left_append, mem_confirm ordered_left] at hr
    rcases hr with hlast | ⟨⟨old, hold, rfl⟩, -⟩
    · exact hput.node_eq hlast.mem
    · rw [node_release, ih hold]

theorem left_renumber (hput : Putting put) (rename : Nat → Nat) (n : Nat)
    (arrivals : List Arrival) : left put (rename n) arrivals =
      (left put n arrivals).map (renumber rename) := by
  induction arrivals using List.reverseRecOn with
  | nil => rfl
  | append_singleton arrivals a ih =>
    rw [left_append, left_append, ih, hput.renumber,
      map_confirm (fun r => node_of_mem_left hput) fun s => hput.node_eq]

end Left

end Row

namespace History

variable {h : History} {now : Int} {identity : NodeIdentity} {arrivals : List Arrival}

/-! ## Finding a node -/

theorem node?_enrol (hn : Numbered h) : (h.enrol now identity).2.node? identity =
    some ⟨(h.enrol now identity).1, identity, now⟩ :=
  (numbered_enrol hn).node?_eq_some_iff.2 ⟨(mem_nodes_enrol hn).2 (.inl rfl), rfl⟩

theorem node?_enrol_of_ne (hn : Numbered h) {other : NodeIdentity} (hne : other ≠ identity) :
    (h.enrol now identity).2.node? other = h.node? other := by
  refine Option.ext fun n => ?_
  rw [(numbered_enrol hn).node?_eq_some_iff, hn.node?_eq_some_iff, mem_nodes_enrol hn]
  constructor
  · rintro ⟨rfl | ⟨hmem, -⟩, hidentity⟩
    · exact absurd hidentity.symm hne
    · exact ⟨hmem, hidentity⟩
  · rintro ⟨hmem, rfl⟩
    exact ⟨.inr ⟨hmem, hne⟩, rfl⟩

theorem exists_id_eq_enrol (hn : Numbered h) {n : NodeRow} (hmem : n ∈ h.nodes) :
    ∃ m ∈ (h.enrol now identity).2.nodes, m.id = n.id := by
  by_cases hidentity : n.identity = identity
  · have hm : h.node? identity = some n := hn.node?_eq_some_iff.2 ⟨hmem, hidentity⟩
    exact ⟨_, (mem_nodes_enrol hn).2 (.inl rfl), (enrol_of_known now hm).1⟩
  · exact ⟨n, (mem_nodes_enrol hn).2 (.inr ⟨hmem, hidentity⟩), rfl⟩

/-! ## Receiving reports -/

/-- The history after these reports have arrived. -/
def receive (arrivals : List Arrival) : History :=
  arrivals.foldl (fun h a => (h.store admitAll a.now a.report).2) {}

@[simp] theorem receive_nil : receive [] = {} :=
  rfl

@[simp] theorem receive_append (a : Arrival) :
    receive (arrivals ++ [a]) = ((receive arrivals).store admitAll a.now a.report).2 := by
  simp [receive]

theorem exists_store_admitAll (h : History) (now : Instant) (report : Report) :
    ∃ node, (h.store admitAll now report).1 = .ok node :=
  ⟨_, congrArg Prod.fst (store_of_admitted rfl (firstRefusal_admitAll 0 _))⟩

theorem exists_run_receive (retention : Span) (arrivals : List Arrival) :
    ∃ past, Run retention past (receive arrivals) := by
  induction arrivals using List.reverseRecOn with
  | nil => exact ⟨[], .start⟩
  | append_singleton arrivals a ih =>
    obtain ⟨past, run⟩ := ih
    obtain ⟨node, hnode⟩ := exists_store_admitAll (receive arrivals) a.now a.report
    rw [receive_append]
    exact ⟨_, run.store admitAll a.now a.report hnode⟩

theorem store_receive (arrivals : List Arrival) (a : Arrival) :
    ∃ node, node = ((receive arrivals).enrol a.now.toMicros a.report.runtime).1 ∧
      (receive (arrivals ++ [a])).nodes =
        ((receive arrivals).enrol a.now.toMicros a.report.runtime).2.nodes ∧
      (receive (arrivals ++ [a])).images = Row.confirm node (receive arrivals).images
        (a.report.imageRows node a.now.toMicros) ∧
      (receive (arrivals ++ [a])).filesystems = Row.confirm node (receive arrivals).filesystems
        (a.report.filesystemRows node a.now.toMicros) := by
  obtain ⟨node, hs⟩ := exists_store_admitAll (receive arrivals) a.now a.report
  obtain ⟨hnode, hnodes, -, himages, hfilesystems⟩ := store_eq_ok (Prod.ext hs rfl)
  rw [receive_append]
  exact ⟨node, hnode, hnodes, himages, hfilesystems⟩

theorem coherent_receive (arrivals : List Arrival) : Coherent (receive arrivals) := by
  obtain ⟨past, run⟩ := exists_run_receive 0 arrivals
  exact run.coherent

/-- When a node was last seen is told by the last of its own reports. -/
theorem map_lastSeen_node? (arrivals : List Arrival) (identity : NodeIdentity) :
    ((receive arrivals).node? identity).map (·.lastSeen) =
      (Arrival.sentBy identity arrivals).getLast?.map (·.now.toMicros) := by
  induction arrivals using List.reverseRecOn with
  | nil => rfl
  | append_singleton arrivals a ih =>
    have hn : Numbered (receive arrivals) := (coherent_receive arrivals).numbered
    obtain ⟨-, -, hnodes, -⟩ := store_receive arrivals a
    have hfind : (receive (arrivals ++ [a])).node? identity =
        ((receive arrivals).enrol a.now.toMicros a.report.runtime).2.node? identity := by
      rw [node?, hnodes, node?]
    rw [hfind]
    by_cases hidentity : a.report.runtime = identity
    · subst hidentity
      rw [node?_enrol hn, Arrival.sentBy_append_of_eq rfl]
      simp
    · rw [node?_enrol_of_ne hn (Ne.symm hidentity), ih, Arrival.sentBy_append_of_ne hidentity]

/-- A node is there if and only if it has sent something. -/
theorem node?_receive_eq_none_iff :
    (receive arrivals).node? identity = none ↔ Arrival.sentBy identity arrivals = [] := by
  rw [← Option.map_eq_none_iff, map_lastSeen_node?, Option.map_eq_none_iff,
    List.getLast?_eq_none_iff]

end History

/-! ## Separate nodes -/

namespace Row

open RenumberedRow

variable {α : Type} [RenumberedRow α] {put : Report → Nat → Int → List α} {rows : List α}

/-- All rows are rows of nodes, and those of a node are what its own reports leave. -/
structure Separate (put : Report → Nat → Int → List α) (arrivals : List Arrival)
    (nodes : List NodeRow) (rows : List α) : Prop where
  owned : ∀ r ∈ rows, ∃ n ∈ nodes, n.id = node r
  own_eq : ∀ n ∈ nodes, own n.id rows = left put n.id (Arrival.sentBy n.identity arrivals)

/-- The rows of the number that a report takes are what its node has left before. -/
theorem Separate.own_enrol {arrivals : List Arrival} {h : History} {a : Arrival}
    (hs : Separate put arrivals h.nodes rows) (hn : h.Numbered)
    (hnone : h.node? a.report.runtime = none → Arrival.sentBy a.report.runtime arrivals = []) :
    own (h.enrol a.now.toMicros a.report.runtime).1 rows =
      left put (h.enrol a.now.toMicros a.report.runtime).1
        (Arrival.sentBy a.report.runtime arrivals) := by
  cases hm : h.node? a.report.runtime with
  | some m =>
    obtain ⟨hmem, hidentity⟩ := History.node?_eq_some hm
    rw [(History.enrol_of_known _ hm).1, hs.own_eq m hmem, hidentity]
  | none =>
    -- The number is new, so no row has it.
    rw [(History.enrol_of_unknown _ hm).1, hnone hm, left_nil, own, List.filter_eq_nil_iff]
    intro r hr
    obtain ⟨n, hmem, hid⟩ := hs.owned r hr
    have hle : n.id ≤ h.issued := hn.id_le n hmem
    simp only [beq_iff_eq]
    omega

/-- **A report keeps nodes separate.** -/
theorem Separate.confirm {arrivals : List Arrival} {h : History} {a : Arrival}
    (hs : Separate put arrivals h.nodes rows) (hput : Putting put) (hn : h.Numbered)
    (ho : Ordered rows)
    (hnone : h.node? a.report.runtime = none → Arrival.sentBy a.report.runtime arrivals = [])
    {node : Nat} (hnode : node = (h.enrol a.now.toMicros a.report.runtime).1) :
    Separate put (arrivals ++ [a]) (h.enrol a.now.toMicros a.report.runtime).2.nodes
      (Row.confirm node rows (put a.report node a.now.toMicros)) := by
  have hnew : ∀ s ∈ put a.report node a.now.toMicros, Row.node s = node := fun s => hput.node_eq
  refine ⟨fun r hr => ?_, fun n hmem => ?_⟩
  · rw [mem_confirm ho] at hr
    rcases hr with hlast | ⟨⟨old, hold, rfl⟩, -⟩
    · refine ⟨_, (History.mem_nodes_enrol hn).2 (.inl rfl), ?_⟩
      rw [hnew r hlast.mem, hnode]
    · obtain ⟨n, hmem, hid⟩ := hs.owned old hold
      rw [node_release, ← hid]
      exact History.exists_id_eq_enrol hn hmem
  · rcases (History.mem_nodes_enrol hn).1 hmem with rfl | ⟨hmem, hne⟩
    · rw [← hnode, own_confirm ho hnew, Arrival.sentBy_append_of_eq rfl, left_append, hnode,
        hs.own_enrol hn hnone]
    · have hid : n.id ≠ node := hnode ▸ History.id_enrol_ne hn hmem hne
      rw [own_confirm_of_ne ho hnew hid, hs.own_eq n hmem, Arrival.sentBy_append_of_ne hne.symm]

variable {arrivals others : List Arrival} {nodes nodes' : List NodeRow} {rows' : List α}
  {rename : Nat → Nat}

/-- Where a node has sent the same, it has the same rows, up to its number. -/
theorem Separate.own_renumber (hs : Separate put arrivals nodes rows)
    (hs' : Separate put others nodes' rows') (hput : Putting put) {n : NodeRow} (hn : n ∈ nodes)
    (hn' : n.renumber rename ∈ nodes')
    (hsent : Arrival.sentBy n.identity others = Arrival.sentBy n.identity arrivals) :
    own (rename n.id) rows' = (own n.id rows).map (renumber rename) := by
  have hown : own (rename n.id) rows' =
      left put (rename n.id) (Arrival.sentBy n.identity others) := hs'.own_eq _ hn'
  rw [hown, hsent, left_renumber hput, hs.own_eq n hn]

/-- Where all nodes have sent the same, there are the same rows, up to their numbers. -/
theorem Separate.mem_renumber (hs : Separate put arrivals nodes rows)
    (hs' : Separate put others nodes' rows') (hput : Putting put)
    (hnodes : ∀ m, m ∈ nodes' ↔ ∃ n ∈ nodes, n.renumber rename = m)
    (hsent : ∀ identity, Arrival.sentBy identity others = Arrival.sentBy identity arrivals)
    {r : α} : r ∈ rows' ↔ ∃ s ∈ rows, renumber rename s = r := by
  have hown {n : NodeRow} (hn : n ∈ nodes) :
      own (rename n.id) rows' = (own n.id rows).map (renumber rename) :=
    hs.own_renumber hs' hput hn ((hnodes _).2 ⟨n, hn, rfl⟩) (hsent n.identity)
  constructor
  · intro hr
    obtain ⟨m, hm, hid⟩ := hs'.owned r hr
    obtain ⟨n, hn, rfl⟩ := (hnodes m).1 hm
    have hmem : r ∈ own (rename n.id) rows' := mem_own.2 ⟨hr, hid.symm⟩
    rw [hown hn] at hmem
    obtain ⟨s, hs, hrs⟩ := List.mem_map.1 hmem
    exact ⟨s, (mem_own.1 hs).1, hrs⟩
  · rintro ⟨s, hmem, rfl⟩
    obtain ⟨n, hn, hid⟩ := hs.owned s hmem
    have hmem' : renumber rename s ∈ own (rename n.id) rows' := by
      rw [hown hn]
      exact List.mem_map_of_mem (mem_own.2 ⟨hmem, hid.symm⟩)
    exact (mem_own.1 hmem').1

theorem filter_renumber {n : Nat}
    (hown : own (rename n) rows' = (own n rows).map (renumber rename)) (all : Bool) :
    (rows'.filter fun r => node r == rename n && (all || inLastReport r)) =
      (rows.filter fun r => node r == n && (all || inLastReport r)).map (renumber rename) := by
  have hfilter (n : Nat) (rows : List α) :
      (rows.filter fun r => node r == n && (all || inLastReport r)) =
        (own n rows).filter fun r => all || inLastReport r := by
    simp only [own, List.filter_filter, Bool.and_comm]
  rw [hfilter, hfilter, hown, List.filter_map]
  congr 1
  refine List.filter_congr fun r _ => ?_
  simp [inLastReport_renumber]

end Row

namespace History

theorem putting_imageRows : Row.Putting Report.imageRows where
  node_eq hs := (Report.of_mem_imageRows hs).1
  renumber rename report n now := by
    simp only [Report.imageRows, List.map_map]
    rfl

theorem putting_filesystemRows : Row.Putting Report.filesystemRows where
  node_eq hs := (Report.of_mem_filesystemRows hs).1
  renumber rename report n now := by
    simp only [Report.filesystemRows, List.map_map]
    rfl

theorem separate_receive (arrivals : List Arrival) :
    Row.Separate Report.imageRows arrivals (receive arrivals).nodes (receive arrivals).images ∧
      Row.Separate Report.filesystemRows arrivals (receive arrivals).nodes
        (receive arrivals).filesystems := by
  induction arrivals using List.reverseRecOn with
  | nil => exact ⟨⟨nofun, nofun⟩, ⟨nofun, nofun⟩⟩
  | append_singleton arrivals a ih =>
    obtain ⟨hn, himages, hfilesystems⟩ := coherent_receive arrivals
    obtain ⟨node, hnode, hnodes, himages', hfilesystems'⟩ := store_receive arrivals a
    rw [hnodes, himages', hfilesystems']
    exact ⟨ih.1.confirm putting_imageRows hn himages node?_receive_eq_none_iff.1 hnode,
      ih.2.confirm putting_filesystemRows hn hfilesystems node?_receive_eq_none_iff.1 hnode⟩

/-! ## Main statement -/

/-- Two histories differ in the numbers of nodes only: each node of one has the row of a node of the
other, and the same rows of images and file systems, marks and instants included, and a tag has
named the same images and digests in both. -/
structure AlikeUpTo (rename : Nat → Nat) (a b : History) : Prop where
  injective : ∀ m ∈ a.nodes, ∀ n ∈ a.nodes, rename m.id = rename n.id → m = n
  node? : ∀ identity, b.node? identity = (a.node? identity).map (.renumber rename)
  view : ∀ n ∈ a.nodes, ∀ all, b.view all (n.renumber rename) = (a.view all n).renumber rename
  idsAfter : ∀ tag after, b.idsAfter tag after = a.idsAfter tag after
  digestsAfter : ∀ tag after, b.digestsAfter tag after = a.digestsAfter tag after

/-- The number in one history of the node that has a number in another. -/
def renumbering (a b : History) (k : Nat) : Nat :=
  ((a.nodes.find? (·.id == k)).bind fun n => (b.node? n.identity).map (·.id)).getD 0

theorem renumbering_eq {a b : History} (hn : Numbered a) {n m : NodeRow} (hmem : n ∈ a.nodes)
    (hm : b.node? n.identity = some m) : renumbering a b n.id = m.id := by
  have hfind : a.nodes.find? (·.id == n.id) = some n := by
    cases hk : a.nodes.find? (·.id == n.id) with
    | none => simpa using List.find?_eq_none.1 hk n hmem
    | some k =>
      have hid : k.id = n.id := by simpa using List.find?_some hk
      rw [hn.eq_of_id_eq (List.mem_of_find?_eq_some hk) hmem hid]
  rw [renumbering, hfind, Option.bind_some, hm]
  rfl

variable {a b : List Arrival}

theorem node?_receive_renumber
    (h : ∀ identity, Arrival.sentBy identity b = Arrival.sentBy identity a)
    (identity : NodeIdentity) : (receive b).node? identity =
      ((receive a).node? identity).map (.renumber (renumbering (receive a) (receive b))) := by
  have hseen : ((receive b).node? identity).map (·.lastSeen) =
      ((receive a).node? identity).map (·.lastSeen) := by
    rw [map_lastSeen_node?, map_lastSeen_node?, h]
  cases hn : (receive a).node? identity with
  | none => simpa [hn] using hseen
  | some n =>
    obtain ⟨m, hm, hlast⟩ : ∃ m, (receive b).node? identity = some m ∧ m.lastSeen = n.lastSeen := by
      simpa [hn] using hseen
    obtain ⟨hmem, rfl⟩ := node?_eq_some hn
    obtain ⟨-, hidentity⟩ := node?_eq_some hm
    have hid : renumbering (receive a) (receive b) n.id = m.id :=
      renumbering_eq (coherent_receive a).numbered hmem hm
    rw [hm, Option.map_some, NodeRow.renumber, hid, ← hlast, ← hidentity]

theorem mem_nodes_renumber
    (h : ∀ identity, Arrival.sentBy identity b = Arrival.sentBy identity a) {m : NodeRow} :
    m ∈ (receive b).nodes ↔
      ∃ n ∈ (receive a).nodes, n.renumber (renumbering (receive a) (receive b)) = m := by
  have hna : Numbered (receive a) := (coherent_receive a).numbered
  have hnb : Numbered (receive b) := (coherent_receive b).numbered
  constructor
  · intro hm
    have hfind : (receive b).node? m.identity = some m := hnb.node?_eq_some_iff.2 ⟨hm, rfl⟩
    rw [node?_receive_renumber h, Option.map_eq_some_iff] at hfind
    obtain ⟨n, hn, hnm⟩ := hfind
    exact ⟨n, (node?_eq_some hn).1, hnm⟩
  · rintro ⟨n, hn, rfl⟩
    have hfind : (receive a).node? n.identity = some n := hna.node?_eq_some_iff.2 ⟨hn, rfl⟩
    have hfind' := node?_receive_renumber h n.identity
    rw [hfind, Option.map_some] at hfind'
    exact (node?_eq_some hfind').1

theorem map_evidence_renumber {rename : Nat → Nat} {g h : History} (f : ImageRow → String)
    (hf : ∀ r, f (r.renumber rename) = f r)
    (himages : ∀ r, r ∈ h.images ↔ ∃ s ∈ g.images, s.renumber rename = r) (tag : String)
    (after : Instant) (text : String) :
    text ∈ (h.evidence tag after).map f ↔ text ∈ (g.evidence tag after).map f := by
  simp only [evidence, List.mem_map, List.mem_filter, himages]
  constructor
  · rintro ⟨_, ⟨⟨s, hs, rfl⟩, hevidence⟩, rfl⟩
    exact ⟨s, ⟨hs, hevidence⟩, (hf s).symm⟩
  · rintro ⟨s, ⟨hs, hevidence⟩, rfl⟩
    exact ⟨s.renumber rename, ⟨⟨s, hs, rfl⟩, hevidence⟩, hf s⟩

theorem alikeUpTo_renumbering
    (h : ∀ identity, Arrival.sentBy identity b = Arrival.sentBy identity a) :
    AlikeUpTo (renumbering (receive a) (receive b)) (receive a) (receive b) := by
  have hna : Numbered (receive a) := (coherent_receive a).numbered
  have hnb : Numbered (receive b) := (coherent_receive b).numbered
  have hnodes (m : NodeRow) : m ∈ (receive b).nodes ↔ ∃ n ∈ (receive a).nodes,
      n.renumber (renumbering (receive a) (receive b)) = m := mem_nodes_renumber h
  obtain ⟨himages, hfilesystems⟩ := separate_receive a
  obtain ⟨himages', hfilesystems'⟩ := separate_receive b
  have hrows (r : ImageRow) : r ∈ (receive b).images ↔
      ∃ s ∈ (receive a).images, s.renumber (renumbering (receive a) (receive b)) = r :=
    himages.mem_renumber himages' putting_imageRows hnodes h
  refine ⟨fun m hm n hn hid => ?_, node?_receive_renumber h, fun n hn all => ?_,
    fun tag after => ?_, fun tag after => ?_⟩
  · have hrow : m.renumber (renumbering (receive a) (receive b)) =
        n.renumber (renumbering (receive a) (receive b)) :=
      hnb.eq_of_id_eq ((hnodes _).2 ⟨m, hm, rfl⟩) ((hnodes _).2 ⟨n, hn, rfl⟩) hid
    exact hna.eq_of_identity_eq hm hn (congrArg NodeRow.identity hrow :)
  · have hn' := (hnodes _).2 ⟨n, hn, rfl⟩
    have hi := himages.own_renumber himages' putting_imageRows hn hn' (h n.identity)
    have hf := hfilesystems.own_renumber hfilesystems' putting_filesystemRows hn hn' (h n.identity)
    exact congrArg₂ (NodeView.mk _) (Row.filter_renumber hi all) (Row.filter_renumber hf all)
  · exact distinctTexts_congr (map_evidence_renumber _ (fun _ => rfl) hrows tag after)
  · exact distinctTexts_congr (map_evidence_renumber _ (fun _ => rfl) hrows tag after)

/-- **Reports of different nodes never interfere.** Whatever nodes send and at whatever instants it
is stored, all interleavings that keep each node's own order lead from the empty history to the same
one, up to the numbers of nodes. -/
theorem receive_interleaved {sent : NodeIdentity → List Arrival} (ha : Arrival.Interleaves sent a)
    (hb : Arrival.Interleaves sent b) : ∃ rename, AlikeUpTo rename (receive a) (receive b) := by
  have hsent (identity : NodeIdentity) :
      Arrival.sentBy identity b = Arrival.sentBy identity a := by
    rw [hb identity, ha identity]
  exact ⟨_, alikeUpTo_renumbering hsent⟩

/-- Two nodes report by clocks that disagree, and each of them is the first one to report. -/
theorem receive_interleaved_two_nodes :
    ∃ (sent : NodeIdentity → List Arrival) (a b : List Arrival),
      Arrival.Interleaves sent a ∧ Arrival.Interleaves sent b ∧
      (receive a).nodes.map (fun n => (n.id, n.identity.nodename)) = [(1, "x"), (2, "y")] ∧
      (receive b).nodes.map (fun n => (n.id, n.identity.nodename)) = [(1, "y"), (2, "x")] ∧
      ∃ rename, AlikeUpTo rename (receive a) (receive b) := by
  let x : NodeIdentity := { nodename := "x" }
  let y : NodeIdentity := { nodename := "y" }
  let first : Arrival := ⟨⟨200, 0⟩, { runtime := x, images := [{ id := "i", repoTags := ["t"] }] }⟩
  let second : Arrival := ⟨⟨300, 0⟩, { runtime := x }⟩
  let other : Arrival := ⟨⟨100, 0⟩, { runtime := y, images := [{ id := "i", repoTags := ["t"] }] }⟩
  let sent (identity : NodeIdentity) : List Arrival :=
    if identity = x then [first, second] else if identity = y then [other] else []
  have interleaves {arrivals : List Arrival} (hx : Arrival.sentBy x arrivals = [first, second])
      (hy : Arrival.sentBy y arrivals = [other])
      (hall : ∀ a ∈ arrivals, a.report.runtime = x ∨ a.report.runtime = y) :
      Arrival.Interleaves sent arrivals := by
    intro identity
    by_cases hidx : identity = x
    · simp [sent, hidx, hx]
    by_cases hidy : identity = y
    · simp [sent, hidy, hy, show y ≠ x by decide]
    have hnone : Arrival.sentBy identity arrivals = [] := by
      simp only [Arrival.sentBy, List.filter_eq_nil_iff, beq_iff_eq]
      intro a ha heq
      rcases hall a ha with h | h
      · exact hidx (heq.symm.trans h)
      · exact hidy (heq.symm.trans h)
    simp [sent, hidx, hidy, hnone]
  have ha : Arrival.Interleaves sent [first, other, second] := interleaves rfl rfl (by decide)
  have hb : Arrival.Interleaves sent [other, first, second] := interleaves rfl rfl (by decide)
  exact ⟨sent, _, _, ha, hb, rfl, rfl, receive_interleaved ha hb⟩

end History

end ImageGate
