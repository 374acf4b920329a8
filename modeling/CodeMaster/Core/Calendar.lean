import Mathlib.Data.String.Basic
import CodeMaster.Core.Host
import CodeMaster.Lib.FixedWidth

/-!
# `CodeMaster.Core.Calendar`: the date of a `DateTime`, and its text

`DateTime.ToString("O")` writes the calendar date and the time of day in fields of a fixed width,
and then the kind. The date comes from the number of days since 0001-01-01, which is cut into
periods of 400, 100 and 4 years and of one year.
-/

set_option autoImplicit false

namespace CodeMaster.Core

/-- `DateTime.MaxValue.Ticks`, the last tick of the year 9999. -/
def maxTicks : Nat := 3155378975999999999

/-- The instants that a `DateTime` can hold. -/
def DateTime.InRange (t : DateTime) : Prop := 0 ≤ t.ticks ∧ t.ticks ≤ maxTicks

/-- Whether an instant is one of .NET is decidable. -/
instance (t : DateTime) : Decidable t.InRange :=
  inferInstanceAs (Decidable (0 ≤ t.ticks ∧ t.ticks ≤ maxTicks))

/-! ### The date -/

/-- `DateTime.IsLeapYear`. -/
def isLeapYear (year : Nat) : Bool := year % 4 = 0 ∧ (year % 100 ≠ 0 ∨ year % 400 = 0)

/-- The days before each month of a common year. -/
def daysToMonth365 : List Nat := [0, 31, 59, 90, 120, 151, 181, 212, 243, 273, 304, 334, 365]

/-- The days before each month of a leap year. -/
def daysToMonth366 : List Nat := [0, 31, 60, 91, 121, 152, 182, 213, 244, 274, 305, 335, 366]

/-- The days of the year before each month, and after the last one. -/
def daysToMonth (leapYear : Bool) : List Nat := if leapYear then daysToMonth366 else daysToMonth365

/-- The days before the year. -/
def daysToYear (year : Nat) : Nat :=
  (year - 1) * 365 + (year - 1) / 4 - (year - 1) / 100 + (year - 1) / 400

/-- The year of the day `n`, counted from 0001-01-01. -/
def yearOfDay (n : Nat) : Nat :=
  let y400 := n / 146097
  let n := n % 146097
  -- The last day of the 400 years would begin a fifth century.
  let y100 := min (n / 36524) 3
  let n := n - y100 * 36524
  let y4 := n / 1461
  -- So would the last day of a leap year begin a fifth year.
  let y1 := min (n % 1461 / 365) 3
  y400 * 400 + y100 * 100 + y4 * 4 + y1 + 1

/-- The month of a day of the year, counted from 0: the number of months that have begun. -/
def monthOfDay (leapYear : Bool) (dayOfYear : Nat) : Nat :=
  (daysToMonth leapYear).countP (· ≤ dayOfYear)

/-- The day of the year, counted from 0. -/
def dayOfYear (n : Nat) : Nat := n - daysToYear (yearOfDay n)

/-- `DateTime.Year`, `DateTime.Month` and `DateTime.Day` of the day `n`. -/
def dateOfDay (n : Nat) : List Nat :=
  let year := yearOfDay n
  let month := monthOfDay (isLeapYear year) (dayOfYear n)
  [year, month, dayOfYear n - (daysToMonth (isLeapYear year)).getD (month - 1) 0 + 1]

/-- The years, the quarters of a century and so on that end before the day. -/
theorem daysToYear_of_periods {y400 y100 y4 y1 : Nat} (h100 : y100 ≤ 3) (h4 : y4 ≤ 24)
    (h1 : y1 ≤ 3) :
    daysToYear (y400 * 400 + y100 * 100 + y4 * 4 + y1 + 1)
      = y400 * 146097 + y100 * 36524 + y4 * 1461 + y1 * 365 := by
  unfold daysToYear
  rw [Nat.add_sub_cancel]
  have hfours : (y400 * 400 + y100 * 100 + y4 * 4 + y1) / 4 = y400 * 100 + y100 * 25 + y4 := by
    omega
  have hhundreds : (y400 * 400 + y100 * 100 + y4 * 4 + y1) / 100 = y400 * 4 + y100 := by omega
  have hfourHundreds : (y400 * 400 + y100 * 100 + y4 * 4 + y1) / 400 = y400 := by omega
  rw [hfours, hhundreds, hfourHundreds]
  omega

/-- The days before a year, by the length of the year before. -/
theorem daysToYear_succ (year : Nat) :
    daysToYear (year + 2) = daysToYear (year + 1) + 365 + (isLeapYear (year + 1)).toNat := by
  have hle : year / 100 ≤ year / 4 := Nat.div_le_div_left (by decide) (by decide)
  have hleap : (isLeapYear (year + 1)).toNat + (if 100 ∣ year + 1 then 1 else 0)
      = (if 4 ∣ year + 1 then 1 else 0) + if 400 ∣ year + 1 then 1 else 0 := by
    have hcentury : 100 ∣ year + 1 → 4 ∣ year + 1 := fun h => Nat.dvd_trans (by decide) h
    have hfour : 400 ∣ year + 1 → 100 ∣ year + 1 := fun h => Nat.dvd_trans (by decide) h
    unfold isLeapYear
    simp only [← Nat.dvd_iff_mod_eq_zero, ne_eq]
    by_cases h4 : 4 ∣ year + 1 <;> by_cases h100 : 100 ∣ year + 1 <;>
      by_cases h400 : 400 ∣ year + 1 <;> simp_all
  have hskipped : (if 100 ∣ year + 1 then 1 else 0) ≤ 1 := by
    split <;> omega
  show (year + 1) * 365 + (year + 1) / 4 - (year + 1) / 100 + (year + 1) / 400
    = year * 365 + year / 4 - year / 100 + year / 400 + 365 + (isLeapYear (year + 1)).toNat
  rw [Nat.succ_div, Nat.succ_div, Nat.succ_div]
  omega

/-- The day is in its year. -/
theorem yearOfDay_spec (n : Nat) :
    daysToYear (yearOfDay n) ≤ n ∧ n < daysToYear (yearOfDay n + 1) := by
  unfold yearOfDay
  dsimp only
  generalize hr : n % 146097 = r
  generalize h100 : min (r / 36524) 3 = y100
  generalize hs : r - y100 * 36524 = s
  generalize h4 : s / 1461 = y4
  generalize h1 : min (s % 1461 / 365) 3 = y1
  generalize h400 : n / 146097 = y400
  have hle100 : y100 ≤ 3 := by omega
  have hs' : s ≤ 36524 ∧ (y100 < 3 → s < 36524) := by omega
  have hle4 : y4 ≤ 24 := by omega
  have hle1 : y1 ≤ 3 := by omega
  constructor
  · rw [daysToYear_of_periods hle100 hle4 hle1]
    omega
  · -- The next year is the next of its period, or the first of the next period.
    by_cases h1' : y1 < 3
    · have hnext := @daysToYear_of_periods y400 y100 y4 (y1 + 1) hle100 hle4 h1'
      rw [show y400 * 400 + y100 * 100 + y4 * 4 + y1 + 1 + 1
        = y400 * 400 + y100 * 100 + y4 * 4 + (y1 + 1) + 1 by omega, hnext]
      omega
    by_cases h4' : y4 < 24
    · have hnext := @daysToYear_of_periods y400 y100 (y4 + 1) 0 hle100 h4' (by decide)
      rw [show y400 * 400 + y100 * 100 + y4 * 4 + y1 + 1 + 1
        = y400 * 400 + y100 * 100 + (y4 + 1) * 4 + 0 + 1 by omega, hnext]
      omega
    by_cases h100' : y100 < 3
    · have hnext := @daysToYear_of_periods y400 (y100 + 1) 0 0 h100' (by decide) (by decide)
      rw [show y400 * 400 + y100 * 100 + y4 * 4 + y1 + 1 + 1
        = y400 * 400 + (y100 + 1) * 100 + 0 * 4 + 0 + 1 by omega, hnext]
      omega
    · have hnext := @daysToYear_of_periods (y400 + 1) 0 0 0 (by decide) (by decide) (by decide)
      rw [show y400 * 400 + y100 * 100 + y4 * 4 + y1 + 1 + 1
        = (y400 + 1) * 400 + 0 * 100 + 0 * 4 + 0 + 1 by omega, hnext]
      omega

/-- A later year starts after all days of an earlier one. -/
theorem daysToYear_le_of_lt {year year' : Nat} (hlt : year < year') :
    daysToYear (year + 1) ≤ daysToYear year' := by
  induction year' with
  | zero => omega
  | succ year' ih =>
    rcases Nat.lt_succ_iff_lt_or_eq.mp hlt with hlt' | rfl
    · refine Nat.le_trans (ih hlt') ?_
      cases year' with
      | zero => omega
      | succ k =>
        rw [daysToYear_succ]
        omega
    · exact Nat.le_refl _

/-- The day of a year is one of its days. -/
theorem dayOfYear_lt (n : Nat) : dayOfYear n < 365 + (isLeapYear (yearOfDay n)).toNat := by
  obtain ⟨hle, hlt⟩ := yearOfDay_spec n
  have hsucc := daysToYear_succ (yearOfDay n - 1)
  have hpos : 1 ≤ yearOfDay n := Nat.succ_pos _
  rw [show yearOfDay n - 1 + 2 = yearOfDay n + 1 by omega,
    show yearOfDay n - 1 + 1 = yearOfDay n by omega] at hsucc
  unfold dayOfYear
  omega

/-- The day is in its month. -/
theorem monthOfDay_spec (leapYear : Bool) {day : Nat} (hday : day < 365 + leapYear.toNat) :
    1 ≤ monthOfDay leapYear day ∧ monthOfDay leapYear day ≤ 12
      ∧ (daysToMonth leapYear).getD (monthOfDay leapYear day - 1) 0 ≤ day
      ∧ day < (daysToMonth leapYear).getD (monthOfDay leapYear day) 0 := by
  have hall : ∀ leapYear : Bool, ∀ day : Fin (365 + leapYear.toNat),
      1 ≤ monthOfDay leapYear day ∧ monthOfDay leapYear day ≤ 12
        ∧ (daysToMonth leapYear).getD (monthOfDay leapYear day - 1) 0 ≤ day
        ∧ day < (daysToMonth leapYear).getD (monthOfDay leapYear day) 0 := by decide +kernel
  exact hall leapYear ⟨day, hday⟩

/-- A later month starts after the days of an earlier one. -/
theorem daysToMonth_le_of_lt (leapYear : Bool) {month month' : Nat} (hlt : month < month')
    (hle : month' ≤ 12) :
    (daysToMonth leapYear).getD month 0 ≤ (daysToMonth leapYear).getD (month' - 1) 0 := by
  have hall : ∀ leapYear : Bool, ∀ month' : Fin 13, ∀ month : Fin month',
      (daysToMonth leapYear).getD month 0 ≤ (daysToMonth leapYear).getD (month' - 1) 0 := by
    decide
  exact hall leapYear ⟨month', by omega⟩ ⟨month, hlt⟩

/-- The dates compare as the days do. -/
theorem dateOfDay_lt {n n' : Nat} (hlt : n < n') : dateOfDay n < dateOfDay n' := by
  obtain ⟨hle, hnext⟩ := yearOfDay_spec n
  obtain ⟨hle', hnext'⟩ := yearOfDay_spec n'
  unfold dateOfDay
  dsimp only
  rw [List.cons_lt_cons_iff]
  rcases Nat.lt_trichotomy (yearOfDay n) (yearOfDay n') with hyear | hyear | hyear
  · exact Or.inl hyear
  · right
    have hday : dayOfYear n < dayOfYear n' := by
      unfold dayOfYear
      rw [hyear] at hle ⊢
      omega
    have hlast := dayOfYear_lt n
    have hlast' := dayOfYear_lt n'
    rw [hyear] at hlast ⊢
    generalize isLeapYear (yearOfDay n') = leapYear at *
    obtain ⟨-, hm, hmle, hmlt⟩ := monthOfDay_spec leapYear hlast
    obtain ⟨-, hm', hmle', hmlt'⟩ := monthOfDay_spec leapYear hlast'
    refine ⟨rfl, List.cons_lt_cons_iff.mpr ?_⟩
    rcases Nat.lt_trichotomy (monthOfDay leapYear (dayOfYear n))
      (monthOfDay leapYear (dayOfYear n')) with hmonth | hmonth | hmonth
    · exact Or.inl hmonth
    · rw [hmonth] at hmle ⊢
      exact Or.inr ⟨rfl, List.cons_lt_cons_iff.mpr (Or.inl (by omega))⟩
    · have := daysToMonth_le_of_lt leapYear hmonth hm
      omega
  · have := daysToYear_le_of_lt hyear
    omega

/-- A date is a year, a month and a day. -/
theorem length_dateOfDay (n : Nat) : (dateOfDay n).length = 3 := rfl

/-- A month has days. -/
theorem daysToMonth_succ_le (leapYear : Bool) {month : Nat} (hpos : 1 ≤ month) (hle : month ≤ 12) :
    (daysToMonth leapYear).getD month 0 ≤ (daysToMonth leapYear).getD (month - 1) 0 + 31 := by
  have hall : ∀ leapYear : Bool, ∀ month : Fin 13, 1 ≤ month.val →
      (daysToMonth leapYear).getD month 0 ≤ (daysToMonth leapYear).getD (month - 1) 0 + 31 := by
    decide
  exact hall leapYear ⟨month, by omega⟩ hpos

/-- Up to the year 9999, the date fits four digits and twice two digits. -/
theorem dateOfDay_fits {n : Nat} (hn : n ≤ maxTicks / ticksPerDay) :
    ∃ year month day, dateOfDay n = [year, month, day]
      ∧ year < 10 ^ 4 ∧ month < 10 ^ 2 ∧ day < 10 ^ 2 := by
  obtain ⟨hpos, hmonth, hle, hlt⟩ := monthOfDay_spec _ (dayOfYear_lt n)
  have hdays := daysToMonth_succ_le (isLeapYear (yearOfDay n)) hpos hmonth
  refine ⟨_, _, _, rfl, ?_, by omega, by omega⟩
  by_contra hyear
  have hfirst : daysToYear (9999 + 1) ≤ daysToYear (yearOfDay n) := daysToYear_le_of_lt (by omega)
  have hlast : maxTicks / ticksPerDay < daysToYear (9999 + 1) := by decide
  have hin := (yearOfDay_spec n).1
  omega

/-! ### The text -/

open FixedWidth

/-- `yyyy-MM-ddTHH:mm:ss.fffffff`. -/
def roundTripLayout : List Piece :=
  [.number 4, .literal '-', .number 2, .literal '-', .number 2, .literal 'T', .number 2,
    .literal ':', .number 2, .literal ':', .number 2, .literal '.', .number 7]

/-- Hour, minute, second and fraction of a time of day. -/
def timeFields (ticks : Nat) : List Nat :=
  [ticks / (3600 * ticksPerSecond), ticks % (3600 * ticksPerSecond) / (60 * ticksPerSecond),
    ticks % (3600 * ticksPerSecond) % (60 * ticksPerSecond) / ticksPerSecond,
    ticks % (3600 * ticksPerSecond) % (60 * ticksPerSecond) % ticksPerSecond]

/-- The numbers of the round-trip format, from the year to the tick. -/
def roundTripFields (ticks : Nat) : List Nat :=
  dateOfDay (ticks / ticksPerDay) ++ timeFields (ticks % ticksPerDay)

/-- The time zone in the text: `Z`, the server's offset, or nothing. -/
def kindText [Host] : DateTimeKind → List Char
  | .utc => ['Z']
  | .localTime =>
    let minutes := Host.utcOffset.natAbs / (60 * ticksPerSecond)
    (if Host.utcOffset < 0 then '-' else '+')
      :: render [.number 2, .literal ':', .number 2] [minutes / 60, minutes % 60]
  | .unspecified => []

/-- `DateTime.ToString("O")`. -/
def DateTime.toRoundTrip [Host] (t : DateTime) : String :=
  String.ofList (render roundTripLayout (roundTripFields t.ticks.toNat) ++ kindText t.kind)

example : String.ofList (render roundTripLayout (roundTripFields 638447616000000001))
    = "2024-02-29T00:00:00.0000001" := by decide

/-- A later time of the day has later numbers. -/
theorem timeFields_lt {ticks ticks' : Nat} (hlt : ticks < ticks') :
    timeFields ticks < timeFields ticks' := by
  unfold timeFields
  rw [List.cons_lt_cons_iff, List.cons_lt_cons_iff, List.cons_lt_cons_iff, List.cons_lt_cons_iff]
  rcases lt_of_divMod (3600 * ticksPerSecond) hlt with hhour | ⟨hhour, hlt⟩
  · exact Or.inl hhour
  rcases lt_of_divMod (60 * ticksPerSecond) hlt with hminute | ⟨hminute, hlt⟩
  · exact Or.inr ⟨hhour, Or.inl hminute⟩
  rcases lt_of_divMod ticksPerSecond hlt with hsecond | ⟨hsecond, hlt⟩
  · exact Or.inr ⟨hhour, Or.inr ⟨hminute, Or.inl hsecond⟩⟩
  · exact Or.inr ⟨hhour, Or.inr ⟨hminute, Or.inr ⟨hsecond, Or.inl hlt⟩⟩⟩

/-- The fields compare as the ticks do. -/
theorem roundTripFields_lt {ticks ticks' : Nat} (hlt : ticks < ticks') :
    roundTripFields ticks < roundTripFields ticks' := by
  unfold roundTripFields
  rcases lt_of_divMod ticksPerDay hlt with hday | ⟨hday, htime⟩
  · refine append_lt_append _ _ ?_ (dateOfDay_lt hday)
    rw [length_dateOfDay, length_dateOfDay]
  · rw [hday]
    exact List.append_left_lt (timeFields_lt htime)

/-- The numbers of an instant fit into the round-trip format. -/
theorem roundTripFields_fits {ticks : Nat} (hle : ticks ≤ maxTicks) :
    Fits roundTripLayout (roundTripFields ticks) := by
  obtain ⟨year, month, day, hdate, hyear, hmonth, hday⟩ :=
    dateOfDay_fits (Nat.div_le_div_right (c := ticksPerDay) hle)
  have htime := Nat.mod_lt ticks (show ticksPerDay > 0 by decide)
  unfold roundTripFields
  rw [hdate]
  generalize ticks % ticksPerDay = time at *
  refine ⟨hyear, hmonth, hday, ?_, ?_, ?_, ?_, rfl⟩
  all_goals
    simp only [ticksPerDay, ticksPerSecond] at *
    omega

/-- The fields of a time that a `DateTime` can hold. -/
theorem DateTime.InRange.fits {t : DateTime} (h : t.InRange) :
    Fits roundTripLayout (roundTripFields t.ticks.toNat) := by
  have hmax := h.2
  exact roundTripFields_fits (by omega)

/-- The texts of two UTC times compare as the times do. -/
theorem DateTime.toRoundTrip_lt [Host] {t t' : DateTime} (hutc : t.kind = .utc)
    (hutc' : t'.kind = .utc) (hrange : t.InRange) (hrange' : t'.InRange)
    (hlt : t.ticks < t'.ticks) : t.toRoundTrip < t'.toRoundTrip := by
  have hfits := hrange.fits
  have hfits' := hrange'.fits
  rw [String.lt_iff_toList_lt]
  unfold toRoundTrip
  rw [String.toList_ofList, String.toList_ofList, hutc, hutc']
  refine append_lt_append _ _ ((length_render hfits).trans (length_render hfits').symm) ?_
  have := hrange.1
  exact render_lt hfits hfits' (roundTripFields_lt (by omega))

/-- An order embedding, over all the instants that a `DateTime` can hold. -/
theorem DateTime.toRoundTrip_le_iff [Host] {t t' : DateTime} (hutc : t.kind = .utc)
    (hutc' : t'.kind = .utc) (hrange : t.InRange) (hrange' : t'.InRange) :
    t.toRoundTrip ≤ t'.toRoundTrip ↔ t.ticks ≤ t'.ticks := by
  constructor
  · intro hle
    by_contra hlt
    exact absurd hle (not_le.mpr (toRoundTrip_lt hutc' hutc hrange' hrange (by omega)))
  · intro hle
    rcases Int.lt_or_eq_of_le hle with hlt | heq
    · exact le_of_lt (toRoundTrip_lt hutc hutc' hrange hrange' hlt)
    · unfold toRoundTrip
      rw [heq, hutc, hutc']

end CodeMaster.Core
