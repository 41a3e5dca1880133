import ImageGate.Time.Instant

/-!
# Instants on one line

`Instant.nanos` puts instants on the line of nanoseconds since 1970 began. A leap second shares its
place with the second that follows it, as it does in all counts of seconds since 1970.

What a history keeps of an instant is the whole microseconds of that count (`toMicros_eq`), so that
instants in whole microseconds are told from all earlier instants (`toMicros_lt_iff`).

A window that looks back from an instant has an exact cutoff where it can be taken from the instant
(`Instant.Reaches`), and the start of 1970 for its cutoff where it cannot.
-/

namespace ImageGate

def Span.IsWhole (a : Span) : Prop :=
  a.nanos % 1000 = 0

instance (a : Span) : Decidable a.IsWhole :=
  inferInstanceAs (Decidable (a.nanos % 1000 = 0))

namespace Instant

def nanos (t : Instant) : Int :=
  t.second * 1000000000 + t.nano

def IsWhole (t : Instant) : Prop :=
  t.nano % 1000 = 0

instance (t : Instant) : Decidable t.IsWhole :=
  inferInstanceAs (Decidable (t.nano % 1000 = 0))

/-- An instant of the calendar since 1970 began. -/
structure IsSinceEpoch (now : Instant) : Prop where
  since_epoch : 0 ≤ now.second
  in_calendar : now.second ≤ secondMax

variable {a b : Instant}

theorem toMicros_eq (t : Instant) : t.toMicros = t.nanos / 1000 := by
  unfold toMicros nanos
  omega

theorem toMicros_mono (h : a.nanos ≤ b.nanos) : a.toMicros ≤ b.toMicros := by
  rw [toMicros_eq, toMicros_eq]
  omega

theorem toMicros_lt_iff (hb : b.IsWhole) : a.toMicros < b.toMicros ↔ a.nanos < b.nanos := by
  have hb : b.nanos % 1000 = 0 := by
    unfold IsWhole at hb
    unfold nanos
    omega
  rw [toMicros_eq, toMicros_eq]
  omega

theorem toMicros_ofNanos (n : Int) : (ofNanos n).toMicros = n / 1000 := by
  unfold toMicros ofNanos
  dsimp only
  omega

/-! ## Taking windows from instants -/

section Windows

variable {now : Instant} {window shorter longer : Span}

/-- The instant that lies a window back lies exactly as far back, leap second or not. -/
theorem nanos_back (now : Instant) (window : Span) :
    (now.back window).nanos = now.nanos - window.nanos := by
  unfold back nanos
  grind

theorem second_back_le (now : Instant) (window : Span) :
    (now.back window).second ≤ now.second := by
  unfold back
  grind

theorem le_second_back (now : Instant) (window : Span) :
    now.second - (window.nanos / 1000000000 : Nat) - 1 ≤ (now.back window).second := by
  unfold back
  grind

/-- A longer window leads to no later second. -/
theorem second_back_anti (hle : shorter ≤ longer) :
    (now.back longer).second ≤ (now.back shorter).second := by
  rw [Span.le_def] at hle
  unfold back
  grind

/-- The window can be taken from the instant: it is not too long, and it does not lead out of the
calendar. -/
structure Reaches (now : Instant) (window : Span) : Prop where
  window_le : window ≤ spanMax
  in_calendar : (now.back window).isInCalendar = true

instance (now : Instant) (window : Span) : Decidable (now.Reaches window) :=
  decidable_of_iff (window ≤ spanMax ∧ (now.back window).isInCalendar = true)
    ⟨fun h => ⟨h.1, h.2⟩, fun h => ⟨h.window_le, h.in_calendar⟩⟩

theorem isInCalendar_iff {t : Instant} :
    t.isInCalendar = true ↔ secondMin ≤ t.second ∧ t.second ≤ secondMax := by
  simp only [isInCalendar, Bool.and_eq_true, decide_eq_true_eq]

theorem Reaches.mono (hmax : now.second ≤ secondMax) (h : now.Reaches longer)
    (hle : shorter ≤ longer) : now.Reaches shorter := by
  obtain ⟨hspan, hcalendar⟩ := h
  have hfirst := (isInCalendar_iff.1 hcalendar).1
  have hearlier : (now.back longer).second ≤ (now.back shorter).second := second_back_anti hle
  have hlast := second_back_le now shorter
  exact ⟨Nat.le_trans hle hspan, isInCalendar_iff.2 ⟨by omega, by omega⟩⟩

theorem before_of_reaches (h : now.Reaches window) : now.before window = now.back window := by
  unfold before
  dsimp only
  rw [decide_eq_true h.window_le, h.in_calendar]
  rfl

/-- Any other window is cut off at the start of 1970. -/
theorem before_of_not_reaches (h : ¬ now.Reaches window) : now.before window = epoch := by
  unfold before
  refine if_neg fun hfar => h ?_
  rw [Bool.and_eq_true, decide_eq_true_iff] at hfar
  exact ⟨hfar.1, hfar.2⟩

/-- The cutoff of a window lies exactly as far back, also before 1970, or it is the start of 1970. -/
theorem nanos_before (now : Instant) (window : Span) : (now.before window).nanos =
    if now.Reaches window then now.nanos - window.nanos else 0 := by
  by_cases h : now.Reaches window
  · rw [if_pos h, before_of_reaches h, nanos_back]
  · rw [if_neg h, before_of_not_reaches h]
    rfl

theorem toMicros_before (h : now.Reaches window) :
    (now.before window).toMicros = (now.nanos - window.nanos) / 1000 := by
  rw [toMicros_eq, nanos_before, if_pos h]

theorem toMicros_before_of_not_reaches (h : ¬ now.Reaches window) :
    (now.before window).toMicros = 0 := by
  rw [before_of_not_reaches h]
  rfl

end Windows

end Instant

end ImageGate
