import ImageGate.Proofs.History.Table

/-!
# Rows with a mark

The rows of images and those of file systems live alike: a report of a node takes the mark from the
rows of that node and puts marked rows (`Row.confirm`). `Row` says what the two kinds have in
common, and the lemmas say what a report leaves behind in either table: the marked rows of its node
are the last ones put for their keys (`marked_confirm`), the unmarked ones were there before
(`unmarked_confirm`), and the rows of other nodes stay as they are (`others_confirm`).
-/

namespace ImageGate

/-- Rows that belong to a node and are marked if its last report confirms them. -/
class Row (α : Type) where
  Key : Type
  order : Key → Key → Ordering
  key : α → Key
  node : α → Nat
  reportedAt : α → Int
  inLastReport : α → Bool
  unmark : α → α
  transCmp : Std.TransCmp order
  lawfulEqCmp : Std.LawfulEqCmp order
  node_eq {a b : α} : key a = key b → node a = node b
  key_unmark (r : α) : key (unmark r) = key r
  reportedAt_unmark (r : α) : reportedAt (unmark r) = reportedAt r
  inLastReport_unmark (r : α) : inLastReport (unmark r) = false
  unmark_unmark (r : α) : unmark (unmark r) = unmark r

instance : Std.LawfulEqCmp ImageKey.order where
  compare_self := by simp [ImageKey.order, compareLex_eq_eq, compareOn]
  eq_of_compare {a b} h := by
    simp only [ImageKey.order, compareLex_eq_eq, compareOn, Std.LawfulEqCmp.compare_eq_iff_eq] at h
    obtain ⟨hnode, hid, htag, hdigest⟩ := h
    cases a
    cases b
    simp_all

instance : Std.TransCmp ImageKey.order :=
  inferInstanceAs (Std.TransCmp (compareLex _ _))

instance : Std.LawfulEqCmp FilesystemKey.order where
  compare_self := by simp [FilesystemKey.order, compareLex_eq_eq, compareOn]
  eq_of_compare {a b} h := by
    simp only [FilesystemKey.order, compareLex_eq_eq, compareOn,
      Std.LawfulEqCmp.compare_eq_iff_eq] at h
    obtain ⟨hnode, hmountpoint⟩ := h
    cases a
    cases b
    simp_all

instance : Std.TransCmp FilesystemKey.order :=
  inferInstanceAs (Std.TransCmp (compareLex _ _))

instance : Row ImageRow where
  Key := ImageKey
  order := ImageKey.order
  key := ImageRow.key
  node := ImageRow.node
  reportedAt := ImageRow.reportedAt
  inLastReport := ImageRow.inLastReport
  unmark r := { r with inLastReport := false }
  transCmp := inferInstance
  lawfulEqCmp := inferInstance
  node_eq h := congrArg ImageKey.node h
  key_unmark _ := rfl
  reportedAt_unmark _ := rfl
  inLastReport_unmark _ := rfl
  unmark_unmark _ := rfl

instance : Row FilesystemRow where
  Key := FilesystemKey
  order := FilesystemKey.order
  key := FilesystemRow.key
  node := FilesystemRow.node
  reportedAt := FilesystemRow.reportedAt
  inLastReport := FilesystemRow.inLastReport
  unmark r := { r with inLastReport := false }
  transCmp := inferInstance
  lawfulEqCmp := inferInstance
  node_eq h := congrArg FilesystemKey.node h
  key_unmark _ := rfl
  reportedAt_unmark _ := rfl
  inLastReport_unmark _ := rfl
  unmark_unmark _ := rfl

namespace Row

attribute [instance] transCmp lawfulEqCmp
attribute [simp] key_unmark reportedAt_unmark inLastReport_unmark unmark_unmark

variable {α : Type} [Row α]

@[simp] theorem node_unmark (r : α) : node (unmark r) = node r :=
  node_eq (key_unmark r)

abbrev Ordered (rows : List α) : Prop :=
  Table.Ascending order key rows

/-- Take the mark from a row of a node. -/
def release (n : Nat) (r : α) : α :=
  if node r == n then unmark r else r

/-- Take the marks from the rows of a node, and put new rows. -/
def confirm (n : Nat) (rows new : List α) : List α :=
  Table.putAll order key (rows.map (release n)) new

@[simp] theorem key_release (n : Nat) (r : α) : key (release n r) = key r := by
  unfold release
  split <;> simp

@[simp] theorem node_release (n : Nat) (r : α) : node (release n r) = node r :=
  node_eq (key_release n r)

@[simp] theorem reportedAt_release (n : Nat) (r : α) : reportedAt (release n r) = reportedAt r := by
  unfold release
  split <;> simp

theorem release_of_eq {n : Nat} {r : α} (h : node r = n) : release n r = unmark r := by
  simp [release, h]

theorem release_of_ne {n : Nat} {r : α} (h : node r ≠ n) : release n r = r := by
  simp [release, h]

@[simp] theorem unmark_release (n : Nat) (r : α) : unmark (release n r) = unmark r := by
  unfold release
  split <;> simp

variable {n : Nat} {rows new : List α}

theorem Ordered.release (h : Ordered rows) : Ordered (rows.map (Row.release n)) :=
  h.map (key_release n)

theorem Ordered.confirm (h : Ordered rows) : Ordered (Row.confirm n rows new) :=
  (h.release).putAll new

theorem mem_confirm (h : Ordered rows) {r : α} :
    r ∈ confirm n rows new ↔ IsLast (key · = key r) new r ∨
      ((∃ old ∈ rows, release n old = r) ∧ ∀ s ∈ new, key s ≠ key r) := by
  rw [confirm, Table.mem_putAll h.release, List.mem_map]

/-- The marked rows of the node are the last ones put for their keys. -/
theorem marked_confirm (h : Ordered rows)
    (hnew : ∀ s ∈ new, node s = n ∧ inLastReport s = true) {r : α} :
    (r ∈ confirm n rows new ∧ node r = n ∧ inLastReport r = true) ↔
      IsLast (key · = key r) new r := by
  rw [mem_confirm h]
  constructor
  · rintro ⟨hr | ⟨⟨old, -, rfl⟩, -⟩, hnode, hmark⟩
    · exact hr
    · -- The mark has been taken from the old rows of the node.
      rw [node_release] at hnode
      simp [release_of_eq hnode] at hmark
  · intro hr
    exact ⟨.inl hr, hnew r hr.mem⟩

theorem others_confirm (h : Ordered rows) (hnew : ∀ s ∈ new, node s = n) {r : α}
    (hr : node r ≠ n) : r ∈ confirm n rows new ↔ r ∈ rows := by
  have hkey : ∀ s ∈ new, key s ≠ key r := fun s hs heq =>
    hr ((node_eq heq).symm.trans (hnew s hs))
  rw [mem_confirm h]
  constructor
  · rintro (hlast | ⟨⟨old, hold, rfl⟩, -⟩)
    · exact absurd rfl (hkey r hlast.mem)
    · rw [node_release] at hr
      rwa [release_of_ne hr]
  · intro hmem
    exact .inr ⟨⟨r, hmem, release_of_ne hr⟩, hkey⟩

/-- The unmarked rows of the node were there before, and none has been put in their place. -/
theorem unmarked_confirm (h : Ordered rows)
    (hnew : ∀ s ∈ new, node s = n ∧ inLastReport s = true) {r : α} :
    (r ∈ confirm n rows new ∧ node r = n ∧ inLastReport r = false) ↔
      ∃ old ∈ rows, node old = n ∧ r = unmark old ∧ ¬ ∃ s ∈ new, key s = key old := by
  rw [mem_confirm h]
  constructor
  · rintro ⟨hlast | ⟨⟨old, hold, rfl⟩, hkey⟩, hnode, hmark⟩
    · rw [(hnew r hlast.mem).2] at hmark
      cases hmark
    · rw [node_release] at hnode
      exact ⟨old, hold, hnode, release_of_eq hnode, by simpa using hkey⟩
  · rintro ⟨old, hold, hnode, rfl, hkey⟩
    refine ⟨.inr ⟨⟨old, hold, release_of_eq hnode⟩, by simpa using hkey⟩, ?_, ?_⟩
    · rw [node_unmark, hnode]
    · exact inLastReport_unmark old

/-- A row that is put, or another one put for its key, is there. -/
theorem exists_confirm_of_new (n : Nat) (h : Ordered rows) {s : α} (hs : s ∈ new) :
    ∃ r ∈ confirm n rows new, r ∈ new ∧ key r = key s := by
  obtain ⟨r, hr⟩ := IsLast.exists_of_exists (p := (key · = key s)) ⟨s, hs, rfl⟩
  have hkey : key r = key s := hr.holds
  exact ⟨r, (mem_confirm h).2 (.inl (hkey ▸ hr)), hr.mem, hkey⟩

/-- One marked row is there for the key of a row that is put. -/
theorem existsUnique_confirm (h : Ordered rows)
    (hnew : ∀ s ∈ new, node s = n ∧ inLastReport s = true) {s : α} (hs : s ∈ new) :
    ∃! r, r ∈ confirm n rows new ∧ inLastReport r = true ∧ key r = key s := by
  obtain ⟨r, hr, hmem, hkey⟩ := exists_confirm_of_new n h hs
  refine ⟨r, ⟨hr, (hnew r hmem).2, hkey⟩, ?_⟩
  rintro t ⟨ht, -, hts⟩
  exact h.confirm.eq_of_key_eq ht hr (hts.trans hkey.symm)

/-- No key is lost: a row that was there, or one put in its place, is there. -/
theorem exists_confirm_of_old (n : Nat) (new : List α) (h : Ordered rows) {old : α}
    (hold : old ∈ rows) :
    ∃ r ∈ confirm n rows new, key r = key old ∧ (r ∈ new ∨ r = release n old) := by
  by_cases hkey : ∃ s ∈ new, key s = key old
  · obtain ⟨s, hs, heq⟩ := hkey
    obtain ⟨r, hr, hmem, hrs⟩ := exists_confirm_of_new n h hs
    exact ⟨r, hr, hrs.trans heq, .inl hmem⟩
  · refine ⟨release n old, (mem_confirm h).2 (.inr ⟨⟨old, hold, rfl⟩, ?_⟩), key_release n old,
      .inr rfl⟩
    intro s hs heq
    exact hkey ⟨s, hs, heq.trans (key_release n old)⟩

end Row

end ImageGate
