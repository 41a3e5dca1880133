import ImageGate.Time.Date
import ImageGate.Time.Span

/-!
# Instants

An instant is a second of universal time with a fraction in nanoseconds. During a leap second the
fraction runs on past one second. Histories keep instants as whole microseconds since 1970; the
start of 1970 stands in for instants that lie outside the calendar.
-/

namespace ImageGate

structure Instant where
  /-- Seconds since 1970-01-01T00:00:00Z, leap seconds not counted. -/
  second : Int
  /-- Nanoseconds within the second; a billion or more within a leap second that follows it. -/
  nano : Nat
deriving DecidableEq, Repr, Inhabited

namespace Instant

/-- 1970-01-01T00:00:00Z. -/
def epoch : Instant := ⟨0, 0⟩

/-- First second of the calendar. -/
def secondMin : Int := (Date.mk Date.yearMin 1 1).toDays * 86400

/-- Last second of the calendar. -/
def secondMax : Int := (Date.mk Date.yearMax 12 31).toDays * 86400 + 86399

/-- The instant lies within the calendar. -/
def isInCalendar (t : Instant) : Bool :=
  secondMin ≤ t.second && t.second ≤ secondMax

/-- The instant `n` nanoseconds after 1970 began. -/
def ofNanos (n : Int) : Instant :=
  ⟨n / 1000000000, (n % 1000000000).toNat⟩

/-- Whole microseconds since 1970 began, rounded down. -/
def toMicros (t : Instant) : Int :=
  t.second * 1000000 + (t.nano / 1000 : Nat)

/-- The instant `n` microseconds after 1970 began; `epoch` if the calendar does not reach it. -/
def ofMicros (n : Int) : Instant :=
  let t : Instant := ⟨n / 1000000, (n % 1000000).toNat * 1000⟩
  if t.isInCalendar then t else epoch

/-- Longest span that can be taken from an instant. -/
def spanMax : Span := .ofMillis signedMax

/-- The instant that lies `span` before `t`, whether the calendar has it or not. Spans have no leap
seconds: one that begins in a leap second and leads out of it takes it for the second that follows. -/
def back (t : Instant) (span : Span) : Instant :=
  let whole := span.nanos / 1000000000
  let part := span.nanos % 1000000000
  if t.nano < part then ⟨t.second - whole - 1, t.nano + 1000000000 - part⟩
  else if 0 < whole ∧ 1000000000 ≤ t.nano - part then
    ⟨t.second - whole + 1, t.nano - part - 1000000000⟩
  else ⟨t.second - whole, t.nano - part⟩

/-- The instant `span` before `t`; `epoch` if the span is too long or the calendar does not reach
it. -/
def before (t : Instant) (span : Span) : Instant :=
  let s := t.back span
  if span ≤ spanMax && s.isInCalendar then s else epoch

end Instant

end ImageGate
