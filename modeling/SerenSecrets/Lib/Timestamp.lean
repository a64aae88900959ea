import Mathlib.Algebra.Ring.Int.Defs
import Mathlib.Order.Basic

set_option autoImplicit false

/-! # Instants and durations

`Jiff.Timestamp` is an instant in nanoseconds since the epoch, within the range of the calendar;
`Jiff.SignedDuration` is a number of nanoseconds in either direction. Adding one to the other may
leave the range, and then there is no result (`Jiff.Timestamp.checkedAdd`). -/

namespace Jiff

/-- The first instant, `-009999-01-02T01:59:59Z`. -/
def minNanoseconds : ℤ := -377705023201 * 10 ^ 9

/-- The last instant, `9999-12-30T22:00:00.999999999Z`. -/
def maxNanoseconds : ℤ := 253402207200 * 10 ^ 9 + 999999999

structure Timestamp where
  nanoseconds : ℤ
  min_le : minNanoseconds ≤ nanoseconds
  le_max : nanoseconds ≤ maxNanoseconds
  deriving DecidableEq

/-- Seconds of 64 bits, and a fraction. -/
structure SignedDuration where
  nanoseconds : ℤ
  min_le : -(2 ^ 63 * 10 ^ 9 + 999999999) ≤ nanoseconds
  le_max : nanoseconds ≤ (2 ^ 63 - 1) * 10 ^ 9 + 999999999

def Timestamp.checkedAdd (t : Timestamp) (duration : SignedDuration) : Option Timestamp :=
  if h : minNanoseconds ≤ t.nanoseconds + duration.nanoseconds
      ∧ t.nanoseconds + duration.nanoseconds ≤ maxNanoseconds then
    some ⟨t.nanoseconds + duration.nanoseconds, h.1, h.2⟩
  else none

theorem Timestamp.checkedAdd_eq_some {t u : Timestamp} {duration : SignedDuration} :
    t.checkedAdd duration = some u ↔ u.nanoseconds = t.nanoseconds + duration.nanoseconds := by
  obtain ⟨u, hmin, hmax⟩ := u
  unfold checkedAdd
  split
  · simp only [Option.some.injEq, Timestamp.mk.injEq]
    exact eq_comm
  · rename_i hrange
    simp only [reduceCtorEq, false_iff]
    rintro rfl
    exact hrange ⟨hmin, hmax⟩

end Jiff
