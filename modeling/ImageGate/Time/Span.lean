import ImageGate.Text.Digits

/-!
# Time spans

Lengths of time in whole nanoseconds. A span has no sign, and its seconds fit into a word: a product
that goes beyond the longest span stops there.
-/

namespace ImageGate

structure Span where
  nanos : Nat
deriving DecidableEq, Repr, Inhabited

namespace Span

instance : Zero Span := ⟨⟨0⟩⟩

instance : LE Span := ⟨fun a b => a.nanos ≤ b.nanos⟩

instance : LT Span := ⟨fun a b => a.nanos < b.nanos⟩

instance (a b : Span) : Decidable (a ≤ b) :=
  inferInstanceAs (Decidable (a.nanos ≤ b.nanos))

instance (a b : Span) : Decidable (a < b) :=
  inferInstanceAs (Decidable (a.nanos < b.nanos))

def ofSeconds (n : Nat) : Span := ⟨n * 1000000000⟩

def ofMillis (n : Nat) : Span := ⟨n * 1000000⟩

/-- A nanosecond more would be one second too many. -/
def longest : Span := ⟨wordMax * 1000000000 + 999999999⟩

/-- The span `n` times over, or `longest`. -/
def times (n : Nat) (a : Span) : Span := ⟨min (n * a.nanos) longest.nanos⟩

@[simp] theorem nanos_ofSeconds (n : Nat) : (ofSeconds n).nanos = n * 1000000000 := rfl

theorem le_def {a b : Span} : a ≤ b ↔ a.nanos ≤ b.nanos := Iff.rfl

theorem eq_zero_of_le {a b : Span} (h : a ≤ b) (hb : b = 0) : a = 0 := by
  subst hb
  exact congrArg mk (Nat.le_zero.1 h)

end Span

end ImageGate
