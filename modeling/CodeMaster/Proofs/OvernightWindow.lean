import CodeMaster.Core.Models
import Mathlib.Tactic.Common

/-!
# `CodeMaster.Proofs.OvernightWindow`: the weekday of a window that spans midnight

A weekly schedule from 22:00 to 06:00 has one window an evening, and the mask says on which
evenings. `mem_overnightWindow_iff` splits that window at midnight: the part before midnight
lies on the evening's own day, the part after it on the next. `isActiveAt_iff_of_overnight`
says what the code computes: both parts are held against the weekday of the instant itself.
So the two agree exactly where the instant is after the end of the window, or where the mask
treats its day as it treats the day before (`isActiveAt_iff_overnightWindow_iff`).

Two days matter for an instant: its own day, and the day before, whose window reaches into the
morning. The proof splits an instant into its day and its time of day, and the days into weekdays.
With this the two sides of the equivalence are conditions on two bits of the mask and on the place
of the time in the window.

The instant is inside of the validity of the policy, and the policy is enabled. Nothing else is
assumed.
-/

set_option autoImplicit false

namespace CodeMaster.Proofs.OvernightWindow

open CodeMaster.Core

/-- The calendar day of an instant; day 0 is 0001-01-01. -/
def calendarDay (t : DateTime) : Int := t.ticks / ticksPerDay

/-- The instant at a time of a calendar day. -/
def instantOn (d : Int) (time : TimeOnly) : DateTime where
  ticks := d * ticksPerDay + time.ticks

/-- The weekday of the calendar day is in the mask. -/
def DayIsSet (p : AccessPolicy) (d : Int) : Prop :=
  p.isDayOfWeekActive { ticks := d * ticksPerDay } = true

/-- Whether a day is set is decidable. -/
instance (p : AccessPolicy) (d : Int) : Decidable (DayIsSet p d) :=
  inferInstanceAs (Decidable (_ = _))

/-- The instant lies in the window that starts on the evening of day `d` and ends on the
morning after. -/
def InWindowOf (startTime endTime : TimeOnly) (d : Int) (t : DateTime) : Prop :=
  (instantOn d startTime).ticks ≤ t.ticks ∧ t.ticks ≤ (instantOn (d + 1) endTime).ticks

/-- The instant lies within the validity of the policy. -/
structure WithinValidity (p : AccessPolicy) (t : DateTime) : Prop where
  from_le : ∀ validFrom, p.validFrom = some validFrom → validFrom.ticks ≤ t.ticks
  le_until : ∀ validUntil, p.validUntil = some validUntil → t.ticks ≤ validUntil.ticks

/-! ### The calendar -/

/-- An instant is its day and its time. -/
theorem ticks_eq (t : DateTime) :
    t.ticks = calendarDay t * ticksPerDay + (TimeOnly.fromDateTime t).ticks := by
  have hpos : (0 : Int) < ticksPerDay := by decide
  have hmod : ((TimeOnly.fromDateTime t).ticks : Int) = t.ticks % ticksPerDay :=
    Int.toNat_of_nonneg (Int.emod_nonneg _ (Int.ne_of_gt hpos))
  rw [hmod, calendarDay]
  exact (Int.ediv_mul_add_emod _ _).symm

/-- The day of a midnight. -/
@[simp] theorem calendarDay_midnight (d : Int) : calendarDay { ticks := d * ticksPerDay } = d :=
  Int.mul_ediv_cancel d (by decide)

/-- Instants of one calendar day have one weekday. -/
theorem dayOfWeek_congr {s t : DateTime} (h : calendarDay s = calendarDay t) :
    s.dayOfWeek = t.dayOfWeek := by
  have hdiv : s.ticks / (ticksPerDay : Int) = t.ticks / (ticksPerDay : Int) := h
  unfold DateTime.dayOfWeek
  rw [hdiv]

/-- The mask is read on the calendar day of the instant. -/
theorem dayIsSet_calendarDay (p : AccessPolicy) (t : DateTime) :
    DayIsSet p (calendarDay t) ↔ p.isDayOfWeekActive t = true := by
  have hday := dayOfWeek_congr (calendarDay_midnight (calendarDay t))
  unfold DayIsSet AccessPolicy.isDayOfWeekActive
  rw [hday]

/-- An overnight window holds an instant of its own day from the start on, and an instant of
the next day up to the end. -/
theorem mem_overnightWindow_iff {startTime endTime : TimeOnly}
    (h : endTime.ticks < startTime.ticks) (d : Int) (t : DateTime) :
    InWindowOf startTime endTime d t ↔
      d = calendarDay t ∧ startTime.ticks ≤ (TimeOnly.fromDateTime t).ticks ∨
      d + 1 = calendarDay t ∧ (TimeOnly.fromDateTime t).ticks ≤ endTime.ticks := by
  -- The window is shorter than a day, so it meets at most the day of `t` and the one before.
  have ht := ticks_eq t
  have htime := (TimeOnly.fromDateTime t).lt
  have hstart := startTime.lt
  simp only [InWindowOf, instantOn, ticksPerDay] at *
  omega

/-- The instant lies in the window of some evening of the mask. -/
theorem exists_overnightWindow_iff {startTime endTime : TimeOnly}
    (h : endTime.ticks < startTime.ticks) (p : AccessPolicy) (t : DateTime) :
    (∃ d, DayIsSet p d ∧ InWindowOf startTime endTime d t) ↔
      DayIsSet p (calendarDay t) ∧ startTime.ticks ≤ (TimeOnly.fromDateTime t).ticks ∨
      DayIsSet p (calendarDay t - 1) ∧ (TimeOnly.fromDateTime t).ticks ≤ endTime.ticks := by
  constructor
  · intro ⟨d, hset, hin⟩
    cases (mem_overnightWindow_iff h d t).mp hin with
    | inl hevening => exact .inl ⟨hevening.1 ▸ hset, hevening.2⟩
    | inr hmorning =>
      have hd : d = calendarDay t - 1 := by omega
      exact .inr ⟨hd ▸ hset, hmorning.2⟩
  · intro hwindow
    cases hwindow with
    | inl hevening =>
      exact ⟨_, hevening.1, (mem_overnightWindow_iff h _ t).mpr (.inl ⟨rfl, hevening.2⟩)⟩
    | inr hmorning =>
      exact ⟨_, hmorning.1, (mem_overnightWindow_iff h _ t).mpr (.inr ⟨by omega, hmorning.2⟩)⟩

/-! ### The code -/

/-- The two tests of the validity fail. -/
theorem withinValidity_iff (p : AccessPolicy) (t : DateTime) :
    WithinValidity p t ↔
      p.validFrom.any (fun validFrom => t.ticks < validFrom.ticks) = false ∧
      p.validUntil.any (fun validUntil => validUntil.ticks < t.ticks) = false := by
  constructor
  · intro h
    constructor
    · cases hv : p.validFrom with
      | none => rfl
      | some validFrom => simpa using h.from_le validFrom hv
    · cases hv : p.validUntil with
      | none => rfl
      | some validUntil => simpa using h.le_until validUntil hv
  · intro ⟨hfrom, huntil⟩
    constructor
    · intro validFrom hv
      simpa [hv] using hfrom
    · intro validUntil hv
      simpa [hv] using huntil

/-- Within its validity, an enabled weekly policy is active by its day and its time. -/
theorem isActiveAt_iff_of_weekly {p : AccessPolicy} {t : DateTime} (henabled : p.isEnabled = true)
    (hweekly : p.scheduleType = .weeklyRecurring) (hvalid : WithinValidity p t) :
    p.isActiveAt t = true ↔ DayIsSet p (calendarDay t) ∧ p.isTimeWindowActive t = true := by
  obtain ⟨hfrom, huntil⟩ := (withinValidity_iff p t).mp hvalid
  rw [dayIsSet_calendarDay]
  simp [AccessPolicy.isActiveAt, henabled, hweekly, hfrom, huntil]

/-- The code holds both parts of the window against the weekday of the instant. -/
theorem isActiveAt_iff_of_overnight {p : AccessPolicy} {t : DateTime} {startTime endTime : TimeOnly}
    (henabled : p.isEnabled = true) (hweekly : p.scheduleType = .weeklyRecurring)
    (hstart : p.startTime = some startTime) (hend : p.endTime = some endTime)
    (h : endTime.ticks < startTime.ticks) (hvalid : WithinValidity p t) :
    p.isActiveAt t = true ↔ DayIsSet p (calendarDay t) ∧
      (startTime.ticks ≤ (TimeOnly.fromDateTime t).ticks ∨
        (TimeOnly.fromDateTime t).ticks ≤ endTime.ticks) := by
  have hspan : ¬ startTime.ticks ≤ endTime.ticks := by omega
  rw [isActiveAt_iff_of_weekly henabled hweekly hvalid]
  simp [AccessPolicy.isTimeWindowActive, hstart, hend, hspan]

/-- A policy with an overnight window is active exactly in the windows of its evenings if and
only if the instant is after the end of the window, or the mask treats the day of the instant
as it treats the day before. -/
theorem isActiveAt_iff_overnightWindow_iff (p : AccessPolicy) (t : DateTime)
    (startTime endTime : TimeOnly) (henabled : p.isEnabled = true)
    (hweekly : p.scheduleType = .weeklyRecurring) (hstart : p.startTime = some startTime)
    (hend : p.endTime = some endTime) (h : endTime.ticks < startTime.ticks)
    (hvalid : WithinValidity p t) :
    (p.isActiveAt t = true ↔ ∃ d, DayIsSet p d ∧ InWindowOf startTime endTime d t) ↔
      endTime.ticks < (TimeOnly.fromDateTime t).ticks ∨
      (DayIsSet p (calendarDay t) ↔ DayIsSet p (calendarDay t - 1)) := by
  rw [isActiveAt_iff_of_overnight henabled hweekly hstart hend h hvalid,
    exists_overnightWindow_iff h]
  by_cases hmorning : (TimeOnly.fromDateTime t).ticks ≤ endTime.ticks
  · -- After midnight only the day before can have opened the window.
    have hnot : ¬ startTime.ticks ≤ (TimeOnly.fromDateTime t).ticks := by omega
    have hend' : ¬ endTime.ticks < (TimeOnly.fromDateTime t).ticks := by omega
    simp [hmorning, hnot, hend']
  · -- Later in the day, the code and the windows ask for the same.
    have hend' : endTime.ticks < (TimeOnly.fromDateTime t).ticks := by omega
    simp [hmorning, hend']

/-! ### Monday evenings -/

/-- Ten in the evening. -/
def tenInTheEvening : TimeOnly := ⟨22 * 36000000000, by decide⟩

/-- Six in the morning. -/
def sixInTheMorning : TimeOnly := ⟨6 * 36000000000, by decide⟩

/-- Monday evenings from 22:00 to 06:00. -/
def mondayEvenings : AccessPolicy where
  id := "night"
  scheduleType := .weeklyRecurring
  daysOfWeek := 1
  startTime := some tenInTheEvening
  endTime := some sixInTheMorning

/-- Monday, 7 September 2026, at 04:00. -/
def mondayMorning : DateTime where
  ticks := 739865 * 864000000000 + 4 * 36000000000

/-- The next day at 04:00. -/
def tuesdayMorning : DateTime where
  ticks := 739866 * 864000000000 + 4 * 36000000000

/-- The sample policy has no bounds. -/
theorem withinValidity_mondayEvenings (t : DateTime) : WithinValidity mondayEvenings t where
  from_le := by simp [mondayEvenings]
  le_until := by simp [mondayEvenings]

/-- On Monday at 04:00 the rest of the Sunday night, which the mask leaves out, is active. -/
theorem isActiveAt_iff_overnightWindow_iff_mondayEvenings :
    (mondayEvenings.isActiveAt mondayMorning = true ↔
      ∃ d, DayIsSet mondayEvenings d ∧ InWindowOf tenInTheEvening sixInTheMorning d mondayMorning) ↔
    sixInTheMorning.ticks < (TimeOnly.fromDateTime mondayMorning).ticks ∨
      (DayIsSet mondayEvenings (calendarDay mondayMorning) ↔
        DayIsSet mondayEvenings (calendarDay mondayMorning - 1)) :=
  isActiveAt_iff_overnightWindow_iff mondayEvenings mondayMorning tenInTheEvening sixInTheMorning
    rfl rfl rfl rfl (by decide) (withinValidity_mondayEvenings _)

/-- The Monday policy opens on Monday at 04:00, outside the window of the evening, and not on
Tuesday at 04:00, inside it. -/
theorem mondayEvenings_open_on_monday_morning :
    mondayEvenings.isActiveAt mondayMorning = true ∧
    (¬ ∃ d, DayIsSet mondayEvenings d ∧
      InWindowOf tenInTheEvening sixInTheMorning d mondayMorning) ∧
    mondayEvenings.isActiveAt tuesdayMorning = false ∧
    ∃ d, DayIsSet mondayEvenings d ∧
      InWindowOf tenInTheEvening sixInTheMorning d tuesdayMorning := by
  have hspan : sixInTheMorning.ticks < tenInTheEvening.ticks := by decide
  rw [exists_overnightWindow_iff hspan, exists_overnightWindow_iff hspan]
  decide

end CodeMaster.Proofs.OvernightWindow
