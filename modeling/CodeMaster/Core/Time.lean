import Mathlib.Data.Int.Basic

/-!
# `CodeMaster.Core.Time`: `DateTime` and `TimeOnly`

A `DateTime` counts ticks of 100 ns from 0001-01-01T00:00 and carries its kind. Comparison
and equality of .NET's `DateTime` read the ticks only, so the model compares `ticks`.
0001-01-01 is a Monday.
-/

set_option autoImplicit false

namespace CodeMaster.Core

/-- A tick is 100 nanoseconds. -/
def ticksPerSecond : Nat := 10000000

/-- The ticks of a day. -/
def ticksPerDay : Nat := 864000000000

/-- The kind of an instant, which a comparison ignores. -/
inductive DateTimeKind where
  | unspecified
  | utc
  | localTime
  deriving DecidableEq, Repr

/-- An instant: its ticks and its kind. -/
structure DateTime where
  ticks : Int
  kind : DateTimeKind := .utc
  deriving DecidableEq, Repr

/-- The days of the week, in the order of .NET. -/
inductive DayOfWeek where
  | sunday
  | monday
  | tuesday
  | wednesday
  | thursday
  | friday
  | saturday
  deriving DecidableEq, Repr

/-- `DateTime.DayOfWeek`: day 0 is a Monday. -/
def DateTime.dayOfWeek (t : DateTime) : DayOfWeek :=
  match (t.ticks / ticksPerDay + 1) % 7 with
  | 0 => .sunday
  | 1 => .monday
  | 2 => .tuesday
  | 3 => .wednesday
  | 4 => .thursday
  | 5 => .friday
  | _ => .saturday

/-- A time of day, in ticks from midnight. -/
structure TimeOnly where
  ticks : Nat
  lt : ticks < ticksPerDay
  deriving DecidableEq, Repr

/-- `TimeOnly.FromDateTime`. -/
def TimeOnly.fromDateTime (t : DateTime) : TimeOnly where
  ticks := (t.ticks % ticksPerDay).toNat
  lt := by
    have h : (0 : Int) < ticksPerDay := by decide
    have h1 := Int.emod_nonneg t.ticks (Int.ne_of_gt h)
    have h2 := Int.emod_lt_of_pos t.ticks h
    omega

/-- `TimeOnly.ToString("HH:mm:ss")`, read back: the fraction of a second is gone. -/
def TimeOnly.toSeconds (t : TimeOnly) : TimeOnly where
  ticks := t.ticks - t.ticks % ticksPerSecond
  lt := Nat.lt_of_le_of_lt (Nat.sub_le _ _) t.lt

/-- The time of day is a whole number of seconds. -/
def TimeOnly.IsWholeSecond (t : TimeOnly) : Prop := t.ticks % ticksPerSecond = 0

/-- Whether a time is a whole second is decidable. -/
instance (t : TimeOnly) : Decidable t.IsWholeSecond :=
  inferInstanceAs (Decidable (t.ticks % ticksPerSecond = 0))

/-- Exactly the whole seconds survive the text `HH:mm:ss`. -/
theorem TimeOnly.toSeconds_eq_self_iff (t : TimeOnly) : t.toSeconds = t ↔ t.IsWholeSecond := by
  have hle := Nat.mod_le t.ticks ticksPerSecond
  rw [TimeOnly.mk.injEq]
  show t.ticks - t.ticks % ticksPerSecond = t.ticks ↔ t.ticks % ticksPerSecond = 0
  omega

end CodeMaster.Core
