import ImageGate.History.Basic
import ImageGate.Proofs.Text.ByteOrder

/-!
# Tables in order

What putting rows into a table does, for tables in the ascending order of their keys (`Ascending`):
a row that is put replaces the one with its key and leaves the others alone (`mem_put`), and the
table stays in order (`Ascending.put`). Of several rows with one key that are put one after the
other, the last one is there in the end (`mem_putAll`). Tables with the same rows are equal
(`Ascending.ext`), and rows can be changed before or after they are put if the change leaves their
places as they are (`putAll_map`).

Distinct texts are the case in which rows are their own keys: `pairwise_distinctTexts` and
`mem_distinctTexts`.
-/

namespace ImageGate

/-! ## The last one -/

/-- `x` is the last member of the list that satisfies `p`. -/
inductive IsLast {α : Type} (p : α → Prop) : List α → α → Prop
  | here {x : α} {xs : List α} : p x → (∀ y ∈ xs, ¬ p y) → IsLast p (x :: xs) x
  | later {x y : α} {xs : List α} : IsLast p xs x → IsLast p (y :: xs) x

namespace IsLast

variable {α β : Type} {p q : α → Prop} {xs ys : List α} {x y : α}

theorem mem (h : IsLast p xs x) : x ∈ xs := by
  induction h with
  | here => exact List.mem_cons_self
  | later _ ih => exact List.mem_cons_of_mem _ ih

theorem holds (h : IsLast p xs x) : p x := by
  induction h with
  | here hp => exact hp
  | later _ ih => exact ih

theorem nil_iff : IsLast p [] x ↔ False :=
  ⟨(nomatch ·), False.elim⟩

theorem cons_iff : IsLast p (y :: xs) x ↔ IsLast p xs x ∨ (x = y ∧ p y ∧ ∀ z ∈ xs, ¬ p z) := by
  constructor
  · intro h
    cases h with
    | here hp hnone => exact .inr ⟨rfl, hp, hnone⟩
    | later h => exact .inl h
  · rintro (h | ⟨rfl, hp, hnone⟩)
    · exact .later h
    · exact .here hp hnone

theorem exists_of_exists (h : ∃ x ∈ xs, p x) : ∃ x, IsLast p xs x := by
  induction xs with
  | nil => simp at h
  | cons z zs ih =>
    by_cases hzs : ∃ x ∈ zs, p x
    · obtain ⟨x, hx⟩ := ih hzs
      exact ⟨x, .later hx⟩
    · obtain ⟨x, hx, hp⟩ := h
      rcases List.mem_cons.1 hx with rfl | hx
      · exact ⟨x, .here hp fun y hy hpy => hzs ⟨y, hy, hpy⟩⟩
      · exact absurd ⟨x, hx, hp⟩ hzs

theorem congr (h : IsLast p xs x) (hpq : ∀ y ∈ xs, p y ↔ q y) : IsLast q xs x := by
  induction h with
  | here hp hnone =>
    refine .here ((hpq _ List.mem_cons_self).1 hp) fun y hy hq => ?_
    exact hnone y hy ((hpq y (List.mem_cons_of_mem _ hy)).2 hq)
  | later _ ih => exact .later (ih fun y hy => hpq y (List.mem_cons_of_mem _ hy))

theorem append_iff : IsLast p (xs ++ ys) x ↔
    IsLast p ys x ∨ (IsLast p xs x ∧ ∀ y ∈ ys, ¬ p y) := by
  induction xs with
  | nil => exact ⟨.inl, fun h => h.elim id fun h => nomatch h.1⟩
  | cons z zs ih =>
    constructor
    · intro h
      cases h with
      | here hp hnone =>
        refine .inr ⟨.here hp fun y hy => hnone y (List.mem_append_left _ hy), fun y hy => ?_⟩
        exact hnone y (List.mem_append_right _ hy)
      | later h =>
        rcases ih.1 h with h | ⟨h, hnone⟩
        · exact .inl h
        · exact .inr ⟨.later h, hnone⟩
    · rintro (h | ⟨h, hnone⟩)
      · exact .later (ih.2 (.inl h))
      · cases h with
        | here hp hzs =>
          refine .here hp fun y hy => ?_
          exact (List.mem_append.1 hy).elim (hzs y) (hnone y)
        | later h => exact .later (ih.2 (.inr ⟨h, hnone⟩))

theorem map_iff {f : β → α} {ts : List β} :
    IsLast p (ts.map f) x ↔ ∃ t, IsLast (fun t => p (f t)) ts t ∧ f t = x := by
  induction ts with
  | nil => exact ⟨(nomatch ·), fun ⟨_, h, _⟩ => nomatch h⟩
  | cons t ts ih =>
    constructor
    · intro h
      cases h with
      | here hp hnone =>
        exact ⟨t, .here hp fun s hs => hnone (f s) (List.mem_map_of_mem hs), rfl⟩
      | later h =>
        obtain ⟨s, hs, rfl⟩ := ih.1 h
        exact ⟨s, .later hs, rfl⟩
    · rintro ⟨s, hs, rfl⟩
      cases hs with
      | here hp hnone =>
        refine .here hp fun y hy => ?_
        obtain ⟨s, hs, rfl⟩ := List.mem_map.1 hy
        exact hnone s hs
      | later hs => exact .later (ih.2 ⟨s, hs, rfl⟩)

/-- The last one of all lists is the last one of the last list that has one. -/
theorem flatMap_iff {f : β → List α} {ts : List β} :
    IsLast p (ts.flatMap f) x ↔
      ∃ t, IsLast (fun t => ∃ y ∈ f t, p y) ts t ∧ IsLast p (f t) x := by
  induction ts with
  | nil => exact ⟨(nomatch ·), fun ⟨_, h, _⟩ => nomatch h⟩
  | cons t ts ih =>
    rw [List.flatMap_cons, append_iff, ih]
    constructor
    · rintro (⟨s, hs, hx⟩ | ⟨hx, hnone⟩)
      · exact ⟨s, .later hs, hx⟩
      · refine ⟨t, .here ⟨x, hx.mem, hx.holds⟩ fun s hs => ?_, hx⟩
        rintro ⟨y, hy, hp⟩
        exact hnone y (List.mem_flatMap.2 ⟨s, hs, hy⟩) hp
    · rintro ⟨s, hs, hx⟩
      cases hs with
      | here _ hnone =>
        refine .inr ⟨hx, fun y hy hp => ?_⟩
        obtain ⟨s, hs, hy⟩ := List.mem_flatMap.1 hy
        exact hnone s hs ⟨y, hy, hp⟩
      | later hs => exact .inl ⟨s, hs, hx⟩

end IsLast

namespace Table

variable {κ α : Type} {order : κ → κ → Ordering} {key : α → κ}

/-- The rows stand in the strictly ascending order of their keys. -/
def Ascending (order : κ → κ → Ordering) (key : α → κ) (rows : List α) : Prop :=
  rows.Pairwise fun a b => order (key a) (key b) = .lt

def putAll (order : κ → κ → Ordering) (key : α → κ) (table rows : List α) : List α :=
  rows.foldl (fun table row => put order key row table) table

theorem Ascending.filter {rows : List α} (h : Ascending order key rows) (p : α → Bool) :
    Ascending order key (rows.filter p) :=
  h.sublist List.filter_sublist

/-- A change that leaves the keys as they are leaves the order as it is. -/
theorem Ascending.map {rows : List α} (h : Ascending order key rows) {f : α → α}
    (hf : ∀ r, key (f r) = key r) : Ascending order key (rows.map f) := by
  refine List.pairwise_map.2 (h.imp fun hab => ?_)
  rwa [hf, hf]

theorem compare_ne_lt_of_eq [Std.LawfulEqCmp order] {a b : α} (h : key a = key b) :
    order (key a) (key b) ≠ .lt := by
  have heq : order (key a) (key b) = .eq := Std.LawfulEqCmp.compare_eq_iff_eq.2 h
  simp [heq]

theorem Ascending.nodup_map [Std.LawfulEqCmp order] {rows : List α}
    (h : Ascending order key rows) : (rows.map key).Nodup :=
  List.pairwise_map.2 (h.imp fun hab heq => compare_ne_lt_of_eq heq hab)

theorem Ascending.nodup [Std.LawfulEqCmp order] {rows : List α} (h : Ascending order key rows) :
    rows.Nodup :=
  h.imp fun hab heq => compare_ne_lt_of_eq (congrArg key heq) hab

theorem Ascending.eq_of_key_eq [Std.LawfulEqCmp order] {rows : List α}
    (h : Ascending order key rows) {a b : α} (ha : a ∈ rows) (hb : b ∈ rows) (hab : key a = key b) : a = b := by
  induction rows with
  | nil => cases ha
  | cons r rs ih =>
    obtain ⟨hr, hrs⟩ := List.pairwise_cons.1 h
    rcases List.mem_cons.1 ha with rfl | ha' <;> rcases List.mem_cons.1 hb with rfl | hb'
    · rfl
    · exact absurd (hr b hb') (compare_ne_lt_of_eq hab)
    · exact absurd (hr a ha') (compare_ne_lt_of_eq hab.symm)
    · exact ih hrs ha' hb'

section Lawful

variable [Std.TransCmp order]

theorem Ascending.put {rows : List α} (h : Ascending order key rows) (row : α) :
    Ascending order key (Table.put order key row rows) := by
  induction rows with
  | nil => exact List.pairwise_singleton _ _
  | cons r rs ih =>
    obtain ⟨hr, hrs⟩ := List.pairwise_cons.1 h
    simp only [Table.put]
    split
    case h_1 hlt =>
      refine List.pairwise_cons.2 ⟨fun s hs => ?_, h⟩
      rcases List.mem_cons.1 hs with rfl | hs
      · exact hlt
      · exact Std.TransCmp.lt_trans hlt (hr s hs)
    case h_2 heq =>
      exact List.pairwise_cons.2 ⟨fun s hs => Std.TransCmp.lt_of_eq_of_lt heq (hr s hs), hrs⟩
    case h_3 hgt =>
      refine List.pairwise_cons.2 ⟨fun s hs => ?_, ih hrs⟩
      rcases eq_or_mem_of_mem_put order key hs with rfl | hs
      · exact Std.OrientedCmp.lt_of_gt hgt
      · exact hr s hs

theorem Ascending.putAll {table : List α} (h : Ascending order key table) (rows : List α) :
    Ascending order key (Table.putAll order key table rows) := by
  induction rows generalizing table with
  | nil => exact h
  | cons row rows ih => exact ih (h.put row)

variable [Std.LawfulEqCmp order]

/-- **Putting a row** replaces the row with its key and leaves the others alone. -/
theorem mem_put {rows : List α} (h : Ascending order key rows) {row r : α} :
    r ∈ put order key row rows ↔ r = row ∨ (r ∈ rows ∧ key r ≠ key row) := by
  induction rows with
  | nil => simp [put]
  | cons s rs ih =>
    obtain ⟨hs, hrs⟩ := List.pairwise_cons.1 h
    simp only [put]
    split
    case h_1 hlt =>
      -- Every row stands behind the new one, so none has its key.
      have hne : ∀ t ∈ s :: rs, key t ≠ key row := by
        intro t ht heq
        rcases List.mem_cons.1 ht with rfl | ht
        · exact compare_ne_lt_of_eq heq.symm hlt
        · exact compare_ne_lt_of_eq heq.symm (Std.TransCmp.lt_trans hlt (hs t ht))
      rw [List.mem_cons]
      exact or_congr_right ⟨fun hr => ⟨hr, hne r hr⟩, And.left⟩
    case h_2 heq =>
      have hkey : key row = key s := Std.LawfulEqCmp.compare_eq_iff_eq.1 heq
      have hne : ∀ t ∈ rs, key t ≠ key row := fun t ht heq =>
        compare_ne_lt_of_eq (hkey.symm.trans heq.symm) (hs t ht)
      rw [List.mem_cons, List.mem_cons]
      refine or_congr_right ⟨fun hr => ⟨.inr hr, hne r hr⟩, ?_⟩
      rintro ⟨rfl | hr, hrow⟩
      · exact absurd hkey.symm hrow
      · exact hr
    case h_3 hgt =>
      have hne : key s ≠ key row := fun heq =>
        compare_ne_lt_of_eq heq (Std.OrientedCmp.lt_of_gt hgt)
      rw [List.mem_cons, ih hrs, List.mem_cons]
      constructor
      · rintro (rfl | rfl | ⟨hr, hrow⟩)
        · exact .inr ⟨.inl rfl, hne⟩
        · exact .inl rfl
        · exact .inr ⟨.inr hr, hrow⟩
      · rintro (rfl | ⟨rfl | hr, hrow⟩)
        · exact .inr (.inl rfl)
        · exact .inl rfl
        · exact .inr (.inr ⟨hr, hrow⟩)

/-- **Putting rows one after the other** replaces the rows with their keys; of several rows with one
key, the last one is there in the end. -/
theorem mem_putAll {table rows : List α} (h : Ascending order key table) {r : α} :
    r ∈ putAll order key table rows ↔
      IsLast (key · = key r) rows r ∨ (r ∈ table ∧ ∀ s ∈ rows, key s ≠ key r) := by
  induction rows generalizing table with
  | nil => simp [putAll, IsLast.nil_iff]
  | cons row rows ih =>
    have step : putAll order key table (row :: rows) =
        putAll order key (put order key row table) rows := rfl
    rw [step, ih (h.put row), mem_put h, IsLast.cons_iff, List.forall_mem_cons]
    constructor
    · rintro (hr | ⟨rfl | ⟨hr, hrow⟩, hrows⟩)
      · exact .inl (.inl hr)
      · exact .inl (.inr ⟨rfl, rfl, hrows⟩)
      · exact .inr ⟨hr, hrow.symm, hrows⟩
    · rintro ((hr | ⟨rfl, -, hrows⟩) | ⟨hr, hrow, hrows⟩)
      · exact .inl hr
      · exact .inr ⟨.inl rfl, hrows⟩
      · exact .inr ⟨.inr ⟨hr, hrow.symm⟩, hrows⟩

theorem Ascending.ext {rows others : List α} (h : Ascending order key rows)
    (h' : Ascending order key others) (hmem : ∀ r, r ∈ rows ↔ r ∈ others) : rows = others := by
  have hperm : rows.Perm others := (List.perm_ext_iff_of_nodup h.nodup h'.nodup).2 hmem
  refine hperm.eq_of_pairwise (fun a b _ _ hab hba => ?_) h h'
  exact absurd (Std.TransCmp.lt_trans hab hba) (compare_ne_lt_of_eq rfl)

end Lawful

/-- A change that leaves the places of the rows as they are can be made before rows are put. -/
theorem put_map {f : α → α} {row : α} {rows : List α}
    (hf : ∀ r ∈ rows, order (key (f row)) (key (f r)) = order (key row) (key r)) :
    put order key (f row) (rows.map f) = (put order key row rows).map f := by
  induction rows with
  | nil => rfl
  | cons r rs ih =>
    obtain ⟨hr, hrs⟩ := List.forall_mem_cons.1 hf
    simp only [List.map_cons, put, hr]
    split
    case h_1 => rfl
    case h_2 => rfl
    case h_3 => rw [ih hrs, List.map_cons]

theorem putAll_map {f : α → α} {table rows : List α}
    (hf : ∀ row ∈ rows, ∀ r, r ∈ table ∨ r ∈ rows →
      order (key (f row)) (key (f r)) = order (key row) (key r)) :
    putAll order key (table.map f) (rows.map f) = (putAll order key table rows).map f := by
  induction rows generalizing table with
  | nil => rfl
  | cons row rows ih =>
    have hput : put order key (f row) (table.map f) = (put order key row table).map f :=
      put_map fun r hr => hf row List.mem_cons_self r (.inl hr)
    have hrows : ∀ s ∈ rows, ∀ r, r ∈ put order key row table ∨ r ∈ rows →
        order (key (f s)) (key (f r)) = order (key s) (key r) := by
      intro s hs r hr
      refine hf s (List.mem_cons_of_mem _ hs) r ?_
      rcases hr with hr | hr
      · rcases eq_or_mem_of_mem_put order key hr with rfl | hr
        · exact .inr List.mem_cons_self
        · exact .inl hr
      · exact .inr (List.mem_cons_of_mem _ hr)
    calc putAll order key (table.map f) ((row :: rows).map f)
        = putAll order key (put order key (f row) (table.map f)) (rows.map f) := rfl
      _ = (putAll order key (put order key row table) rows).map f := by rw [hput, ih hrows]

end Table

/-! ## Distinct texts -/

theorem ascending_distinctTexts (texts : List String) :
    Table.Ascending compare id (distinctTexts texts) :=
  Table.Ascending.putAll .nil texts

theorem nodup_distinctTexts (texts : List String) : (distinctTexts texts).Nodup :=
  (ascending_distinctTexts texts).nodup

theorem pairwise_distinctTexts (texts : List String) :
    (distinctTexts texts).Pairwise fun a b => Text.utf8 a < Text.utf8 b :=
  (ascending_distinctTexts texts).imp Text.compare_eq_lt_iff.1

theorem mem_distinctTexts {texts : List String} {s : String} :
    s ∈ distinctTexts texts ↔ s ∈ texts := by
  have h : s ∈ distinctTexts texts ↔ IsLast (· = s) texts s ∨ (s ∈ [] ∧ _) :=
    Table.mem_putAll .nil
  rw [h]
  constructor
  · rintro (h | ⟨h, -⟩)
    · exact h.mem
    · cases h
  · intro hs
    obtain ⟨t, ht⟩ := IsLast.exists_of_exists (p := (· = s)) ⟨s, hs, rfl⟩
    obtain rfl : t = s := ht.holds
    exact .inl ht

/-- The same texts, in whatever order and however often, are the same distinct texts. -/
theorem distinctTexts_congr {texts others : List String}
    (h : ∀ s, s ∈ texts ↔ s ∈ others) : distinctTexts texts = distinctTexts others := by
  refine (ascending_distinctTexts texts).ext (ascending_distinctTexts others) fun s => ?_
  rw [mem_distinctTexts, mem_distinctTexts, h]

end ImageGate
