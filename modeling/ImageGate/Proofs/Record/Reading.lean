import ImageGate.Record.Field
import ImageGate.Proofs.Text.Reading

/-!
# Records field by field

A record is read entry by entry, and each entry is the business of one field. So what holds of the
defaults, and is kept by every field, holds of each record that is read (`holds_of_record`). In the
other direction, a record is what its entries are read as if each key belongs to a field that has
not been read yet (`entries_cons`) and no required field is missing (`record_eq`).
-/

namespace ImageGate.Format

open Text

variable {α ρ : Type} {fmt : Format α} {fields : List (Field α ρ)} {items : List (Option String × α)}
  {seen seen' : List String} {default r r' : ρ} {v : α}

/-! ## What the fields keep -/

/-- Whatever is read into a record, this still holds of it. -/
def Kept (Holds : ρ → Prop) (fields : List (Field α ρ)) : Prop :=
  ∀ f ∈ fields, ∀ v r r', Holds r → f.read v r = .ok r' → Holds r'

theorem holds_of_entries {Holds : ρ → Prop} (hkept : Kept Holds fields)
    (h : entries fields items seen r = .ok (seen', r')) (hr : Holds r) : Holds r' := by
  induction items generalizing seen r with
  | nil =>
    cases h
    exact hr
  | cons item items ih =>
    obtain ⟨_ | key, v⟩ := item
    · cases h
    · simp only [entries] at h
      split at h
      case h_1 => exact ih h hr
      case h_2 f hfind =>
        split at h
        · cases h
        · obtain ⟨r₁, hread, hmore⟩ := bind_eq_ok_iff.1 h
          exact ih hmore (hkept f (List.mem_of_find?_eq_some hfind) v r r₁ hr hread)

theorem holds_of_row {Holds : ρ → Prop} {values : List α} (hkept : Kept Holds fields)
    (h : row fields values seen r = .ok (seen', r')) (hr : Holds r) : Holds r' := by
  induction values generalizing fields seen r with
  | nil =>
    cases fields <;>
    · cases h
      exact hr
  | cons v values ih =>
    cases fields with
    | nil => cases h
    | cons f fields =>
      obtain ⟨r₁, hread, hmore⟩ := bind_eq_ok_iff.1 h
      have hmore_kept : Kept Holds fields := fun g hg => hkept g (List.mem_cons_of_mem _ hg)
      exact ih hmore_kept hmore (hkept f List.mem_cons_self v r r₁ hr hread)

/-- **What holds of the defaults and is kept by the fields holds of the record.** -/
theorem holds_of_record (Holds : ρ → Prop) (hkept : Kept Holds fields) (hdefault : Holds default)
    (h : fmt.record fields default v = .ok r) : Holds r := by
  unfold record at h
  split at h
  case h_1 values hrow =>
    obtain ⟨⟨seen, r₁⟩, hread, hend⟩ := bind_eq_ok_iff.1 h
    have hr₁ : Holds r₁ := holds_of_row hkept hread hdefault
    dsimp only at hend
    split at hend
    · cases hend
    · cases hend
      exact hr₁
  case h_2 hrow =>
    obtain ⟨items, -, hitems⟩ := bind_eq_ok_iff.1 h
    obtain ⟨⟨seen, r₁⟩, hread, hend⟩ := bind_eq_ok_iff.1 hitems
    have hr₁ : Holds r₁ := holds_of_entries hkept hread hdefault
    dsimp only at hend
    split at hend
    · cases hend
    · cases hend
      exact hr₁

/-! ## What the entries are read as -/

theorem entries_cons {key : String} {f : Field α ρ}
    (hfind : fields.find? (·.hasKey key) = some f) (hseen : f.name ∉ seen) (v : α) (r : ρ) :
    entries fields ((some key, v) :: items) seen r =
      f.read v r >>= entries fields items (f.name :: seen) := by
  have hnew : ¬ seen.contains f.name = true := by
    rwa [List.contains_iff_mem]
  simp only [entries, hfind, if_neg hnew]

/-- The entries are read with this result, and no required field is missing. -/
def ReadsAs (fields : List (Field α ρ)) (items : List (Option String × α)) (default : ρ)
    (result : Except ShapeFault ρ) : Prop :=
  ∃ seen, (∀ f ∈ fields, f.required = true → f.name ∈ seen) ∧
    entries fields items [] default = result.map fun r => (seen, r)

theorem record_eq {result : Except ShapeFault ρ} (hrow : fmt.row? v = none)
    (hfields : fmt.fields? v = some items) (h : ReadsAs fields items default result) :
    fmt.record fields default v = result := by
  obtain ⟨seen, hrequired, hentries⟩ := h
  have hmissing : fields.find? (fun f => f.required && !seen.contains f.name) = none := by
    rw [List.find?_eq_none]
    intro f hf hmiss
    rw [Bool.and_eq_true, Bool.not_eq_true', ← Bool.not_eq_true, List.contains_iff_mem] at hmiss
    exact hmiss.2 (hrequired f hf hmiss.1)
  simp only [record, hrow, hfields, insist, bind, Except.bind, hentries]
  cases result with
  | error e => rfl
  | ok r => simp only [Except.map, hmissing]

end ImageGate.Format
