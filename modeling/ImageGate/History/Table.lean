/-!
# Tables

A table is a list of rows in the strictly ascending order of their keys, so that no two rows have
the same key and equal tables are equal lists. Putting a row into a table replaces the row with the
same key, or finds the place for a new one.
-/

namespace ImageGate.Table

variable {κ α : Type} (order : κ → κ → Ordering) (key : α → κ)

def put (row : α) : List α → List α
  | [] => [row]
  | r :: rs =>
    match order (key row) (key r) with
    | .lt => row :: r :: rs
    | .eq => row :: rs
    | .gt => r :: put row rs

/-- The table of the given rows; of those with the same key, the last one counts. -/
def ofRows (rows : List α) : List α :=
  rows.foldl (fun table row => put order key row table) []

theorem mem_put_self (row : α) (rows : List α) : row ∈ put order key row rows := by
  induction rows with
  | nil => simp [put]
  | cons r rs ih => simp only [put]; split <;> simp [ih]

/-- A row that is there has been put or was there before. -/
theorem eq_or_mem_of_mem_put {row r : α} {rows : List α} (h : r ∈ put order key row rows) :
    r = row ∨ r ∈ rows := by
  induction rows with
  | nil => simpa [put] using h
  | cons s rs ih =>
    simp only [put] at h
    split at h <;> simp only [List.mem_cons] at h ⊢ <;> grind

end ImageGate.Table

namespace ImageGate

/-- Texts without repetitions, in the order of their characters' codes. -/
def distinctTexts (texts : List String) : List String :=
  Table.ofRows compare id texts

end ImageGate
