import CodeMaster.Lib.Transition
import CodeMaster.Proofs.OvernightWindow
import CodeMaster.Ui.ScheduleEditor

/-!
# `CodeMaster.Proofs.ShownSchedule`: is the schedule on screen the schedule enforced?

`Shown` is the set of instants that the editor shows for a draft, and `Enforced` says that the
submitted draft is active exactly at these. `Faithful` is the condition on the draft: no field of
another type is left over that the server checks, a weekly draft has both its times set, and a
date range has no last date, whose last second the server cuts short.

An instant is a calendar day and a time of day. `isActiveAt_submit` gives the server's check in
these terms, and each direction of `enforced_iff_faithful` compares it with `Shown` for one type
at a time. The edits enter through `Edited`, which every action keeps.

The actions are those of the editor: a new type, the two times, the buttons of the days, the two
dates. They come in any order and number, and a field that belongs to another type keeps its value
when the type changes. That is how a draft comes to be unfaithful.

The page shows dates and times without a zone. An instant stands here for its day and its time in
UTC, which is what the server compares.
-/

set_option autoImplicit false

namespace CodeMaster.Proofs.ShownSchedule

open CodeMaster.Core CodeMaster.Ui Transition
open CodeMaster.Ui.ScheduleEditor
open OvernightWindow (calendarDay instantOn ticks_eq WithinValidity withinValidity_iff
  dayOfWeek_congr calendarDay_midnight)

/-! ### The statement -/

/-- The time is between the two, as `IsTimeWindowActive` compares them: a window whose end is
before its start spans midnight. -/
def InWindow (startTime endTime time : TimeOnly) : Prop :=
  if startTime.ticks ≤ endTime.ticks then
    startTime.ticks ≤ time.ticks ∧ time.ticks ≤ endTime.ticks
  else startTime.ticks ≤ time.ticks ∨ time.ticks ≤ endTime.ticks

/-- What the editor shows for the selected type holds at the instant. -/
def Shown (policy : PolicyDraft) (t : DateTime) : Prop :=
  match policy.scheduleType with
  | .always => True
  | .weeklyRecurring =>
    isHighlighted policy t.dayOfWeek = true
      ∧ InWindow (shownStart policy).toTimeOnly (shownEnd policy).toTimeOnly
        (TimeOnly.fromDateTime t)
  | .dateRange =>
    (∀ first, shownFrom policy = some first → (first : Int) ≤ calendarDay t)
      ∧ ∀ last, shownUntil policy = some last → calendarDay t ≤ (last : Int)
  | .oneTime => ∃ uses, policy.remainingUses = some uses ∧ 0 < uses

/-- The instant is between `DateTime.MinValue` and `DateTime.MaxValue`. -/
def InCalendar (t : DateTime) : Prop := 0 ≤ calendarDay t ∧ calendarDay t < calendarDays

/-- The submitted draft is active exactly when the editor shows it to be. -/
def Enforced (policy : PolicyDraft) (id : String) : Prop :=
  ∀ t, InCalendar t → ((policy.submit id).isActiveAt t = true ↔ Shown policy t)

/-- The day is highlighted. -/
def HighlightedOn (policy : PolicyDraft) (day : DateText) : Prop :=
  isHighlighted policy (DateTime.dayOfWeek { ticks := (day : Int) * ticksPerDay }) = true

/-- The editor shows every field that the server checks, and stores what it shows. -/
def Faithful (policy : PolicyDraft) : Prop :=
  match policy.scheduleType with
  | .always | .oneTime =>
    (∀ first, shownFrom policy = some first → (first : Nat) = 0) ∧ shownUntil policy = none
  | .weeklyRecurring =>
    ∀ day, HighlightedOn policy day →
      (∃ startTime endTime, policy.startTime = some startTime ∧ policy.endTime = some endTime
        ∧ ∀ last, shownUntil policy = some last →
          day < last ∨ day = last ∧ startTime.toTimeOnly.ticks ≤ endTime.toTimeOnly.ticks)
      ∧ ∀ first, shownFrom policy = some first → first ≤ day
  | .dateRange =>
    (∃ first last, shownFrom policy = some first ∧ shownUntil policy = some last ∧ last < first)
      ∨ shownUntil policy = none ∧ policy.endTime = none
        ∧ ∀ startTime, policy.startTime = some startTime → startTime.toTimeOnly.ticks = 0

/-! ### What every edit keeps -/

/-- The stored instants are those of the date fields, and a one-time pass has a use left. -/
structure Edited (policy : PolicyDraft) : Prop where
  validFrom : ∀ i, policy.validFrom = some i → i.time = startOfDay
  validUntil : ∀ i, policy.validUntil = some i → i.time = lastSecondOfDay
  remainingUses : policy.scheduleType = .oneTime →
    ∃ uses, policy.remainingUses = some uses ∧ 0 < uses

/-- A new draft can be edited into itself. -/
theorem edited_new : Edited {} where
  validFrom i h := by cases h
  validUntil i h := by cases h
  remainingUses h := by cases h

/-- A new type of schedule keeps the draft one that the form makes. -/
theorem edited_handleTypeChange {policy : PolicyDraft} (h : Edited policy) (type : ScheduleType) :
    Edited (handleTypeChange policy type) where
  validFrom := h.validFrom
  validUntil := h.validUntil
  remainingUses htype := by
    have hone : type = .oneTime := htype
    simp only [handleTypeChange, hone, if_true]
    cases policy.remainingUses with
    | none => exact ⟨1, rfl, Nat.one_pos⟩
    | some uses =>
      cases uses with
      | zero => exact ⟨1, rfl, Nat.one_pos⟩
      | succ uses => exact ⟨uses + 1, rfl, Nat.succ_pos uses⟩

/-- The step lemma. -/
theorem edited_step (policy : PolicyDraft) (action : Action) (h : Edited policy) :
    Edited (step policy action) := by
  unfold step
  split
  case isFalse => exact h
  case isTrue hshown =>
    cases action with
    | changeType type => exact edited_handleTypeChange h type
    | toggleDay day => exact ⟨h.validFrom, h.validUntil, h.remainingUses⟩
    | selectPreset preset => exact ⟨h.validFrom, h.validUntil, h.remainingUses⟩
    | setStartTime time => exact ⟨h.validFrom, h.validUntil, h.remainingUses⟩
    | setEndTime time => exact ⟨h.validFrom, h.validUntil, h.remainingUses⟩
    | setValidFrom date =>
      refine ⟨fun i hi => ?_, h.validUntil, h.remainingUses⟩
      cases hi
      rfl
    | setValidUntil date =>
      refine ⟨h.validFrom, fun i hi => ?_, h.remainingUses⟩
      cases hi
      rfl
    | chooseUses uses =>
      have hpositive : ∀ uses ∈ usesOptions, 0 < uses := by decide
      exact ⟨h.validFrom, h.validUntil,
        fun _ => ⟨uses, rfl, hpositive uses (of_decide_eq_true hshown).2⟩⟩
    | toggleEnabled => exact ⟨h.validFrom, h.validUntil, h.remainingUses⟩

/-- The run lemma. -/
theorem edited_run (actions : List Action) : Edited (actions.foldl step {}) :=
  foldl_invariant step Edited edited_step actions _ edited_new

/-! ### The server's check -/

/-- The time is in the window that the draft stores. -/
def InStoredWindow (policy : PolicyDraft) (time : TimeOnly) : Prop :=
  match policy.startTime, policy.endTime with
  | none, none => True
  | some startTime, some endTime => InWindow startTime.toTimeOnly endTime.toTimeOnly time
  | some startTime, none => startTime.toTimeOnly.ticks ≤ time.ticks
  | none, some endTime => time.ticks ≤ endTime.toTimeOnly.ticks

variable {policy : PolicyDraft} {id : String} {t : DateTime}

/-- The stored window accepts the times that the form shows. -/
theorem isTimeWindowActive_submit (policy : PolicyDraft) (id : String) (t : DateTime) :
    (policy.submit id).isTimeWindowActive t = true
      ↔ InStoredWindow policy (TimeOnly.fromDateTime t) := by
  unfold AccessPolicy.isTimeWindowActive InStoredWindow PolicyDraft.submit
  cases policy.startTime with
  | none =>
    cases policy.endTime with
    | none => simp
    | some endTime => simp
  | some startTime =>
    cases policy.endTime with
    | none => simp
    | some endTime =>
      simp only [Option.map_some, InWindow]
      split <;> simp

/-- The stored days are the highlighted ones. -/
theorem isDayOfWeekActive_submit (policy : PolicyDraft) (id : String) (t : DateTime) :
    (policy.submit id).isDayOfWeekActive t = isHighlighted policy t.dayOfWeek := by
  unfold AccessPolicy.isDayOfWeekActive isHighlighted dayBit PolicyDraft.submit
  cases t.dayOfWeek <;> rfl

/-- The first date holds from its midnight on. -/
theorem validFrom_le_iff {i : InstantText} (h : i.time = startOfDay) (t : DateTime) :
    i.toDateTime.ticks ≤ t.ticks ↔ (i.date : Int) ≤ calendarDay t := by
  have ht := ticks_eq t
  have htime := (TimeOnly.fromDateTime t).lt
  simp only [InstantText.toDateTime, h, startOfDay, ticksPerDay] at *
  omega

/-- The last date holds up to the start of its last second. -/
theorem le_validUntil_iff {i : InstantText} (h : i.time = lastSecondOfDay) (t : DateTime) :
    t.ticks ≤ i.toDateTime.ticks ↔ calendarDay t < i.date
      ∨ calendarDay t = i.date ∧ (TimeOnly.fromDateTime t).ticks ≤ lastSecondOfDay.ticks := by
  have ht := ticks_eq t
  have htime := (TimeOnly.fromDateTime t).lt
  simp only [InstantText.toDateTime, h, lastSecondOfDay, ticksPerDay, ticksPerSecond] at *
  omega

/-- The instant is within the dates that the draft stores. -/
structure WithinDates (policy : PolicyDraft) (t : DateTime) : Prop where
  first : ∀ first, shownFrom policy = some first → (first : Int) ≤ calendarDay t
  last : ∀ last, shownUntil policy = some last → calendarDay t < (last : Int)
    ∨ calendarDay t = last ∧ (TimeOnly.fromDateTime t).ticks ≤ lastSecondOfDay.ticks

/-- The stored bounds accept the instants of the shown dates. -/
theorem withinValidity_submit_iff (h : Edited policy) :
    WithinValidity (policy.submit id) t ↔ WithinDates policy t := by
  constructor
  · intro hvalid
    constructor
    · intro first hfirst
      obtain ⟨i, hi, rfl⟩ := Option.map_eq_some_iff.mp hfirst
      have hle := hvalid.from_le i.toDateTime (by simp [PolicyDraft.submit, hi])
      exact (validFrom_le_iff (h.validFrom i hi) t).mp hle
    · intro last hlast
      obtain ⟨i, hi, rfl⟩ := Option.map_eq_some_iff.mp hlast
      have hle := hvalid.le_until i.toDateTime (by simp [PolicyDraft.submit, hi])
      exact (le_validUntil_iff (h.validUntil i hi) t).mp hle
  · intro hdates
    constructor
    · intro validFrom hfrom
      obtain ⟨i, hi, rfl⟩ := Option.map_eq_some_iff.mp hfrom
      exact (validFrom_le_iff (h.validFrom i hi) t).mpr
        (hdates.first i.date (by simp [shownFrom, hi]))
    · intro validUntil huntil
      obtain ⟨i, hi, rfl⟩ := Option.map_eq_some_iff.mp huntil
      exact (le_validUntil_iff (h.validUntil i hi) t).mpr
        (hdates.last i.date (by simp [shownUntil, hi]))

/-- What the server checks of an enabled draft, by its type. -/
def Checked (policy : PolicyDraft) (t : DateTime) : Prop :=
  match policy.scheduleType with
  | .always => True
  | .weeklyRecurring =>
    isHighlighted policy t.dayOfWeek = true ∧ InStoredWindow policy (TimeOnly.fromDateTime t)
  | .dateRange => InStoredWindow policy (TimeOnly.fromDateTime t)
  | .oneTime => True

/-- The stored policy is active when the dates and the schedule of the form hold. -/
theorem isActiveAt_submit (h : Edited policy) (henabled : policy.isEnabled = true) (id : String)
    (t : DateTime) :
    (policy.submit id).isActiveAt t = true ↔ WithinDates policy t ∧ Checked policy t := by
  have hon : (policy.submit id).isEnabled = true := henabled
  have htype : (policy.submit id).scheduleType = policy.scheduleType := rfl
  have hvalidity : WithinValidity (policy.submit id) t ↔ WithinDates policy t :=
    withinValidity_submit_iff h
  rw [← hvalidity, withinValidity_iff]
  unfold AccessPolicy.isActiveAt Checked
  rw [hon, htype]
  cases (policy.submit id).validFrom.any fun validFrom => t.ticks < validFrom.ticks with
  | true => simp
  | false =>
    cases (policy.submit id).validUntil.any fun validUntil => validUntil.ticks < t.ticks with
    | true => simp
    | false =>
      cases hschedule : policy.scheduleType with
      | always => simp
      | weeklyRecurring =>
        simp [isDayOfWeekActive_submit, isTimeWindowActive_submit]
      | dateRange => simp [isTimeWindowActive_submit]
      | oneTime =>
        -- The uses of a one-time pass never run out in the editor.
        obtain ⟨uses, huses, hpositive⟩ := h.remainingUses hschedule
        simp [PolicyDraft.submit, huses, hpositive]

/-! ### Days and times -/

/-- The day of an instant that is put together from a day and a time. -/
theorem calendarDay_instantOn (d : Int) (time : TimeOnly) :
    calendarDay (instantOn d time) = d := by
  have htime := time.lt
  simp only [calendarDay, instantOn, ticksPerDay] at *
  omega

/-- The time of an instant that is put together from a day and a time. -/
theorem fromDateTime_instantOn (d : Int) (time : TimeOnly) :
    TimeOnly.fromDateTime (instantOn d time) = time := by
  have htime := time.lt
  have hticks : ((d * ticksPerDay + time.ticks : Int) % ticksPerDay).toNat = time.ticks := by
    simp only [ticksPerDay] at *
    omega
  cases time
  exact TimeOnly.mk.injEq _ _ _ _ ▸ hticks

/-- The dates of the draft allow the day, and its last day all but the last second. -/
structure DatesHold (policy : PolicyDraft) (day : DateText) (time : TimeOnly) : Prop where
  first : ∀ first, shownFrom policy = some first → first ≤ day
  last : ∀ last, shownUntil policy = some last →
    day < last ∨ day = last ∧ time.ticks ≤ lastSecondOfDay.ticks

/-- What the server checks beside the dates. -/
def ScheduleHolds (policy : PolicyDraft) (day : DateText) (time : TimeOnly) : Prop :=
  match policy.scheduleType with
  | .always | .oneTime => True
  | .weeklyRecurring => HighlightedOn policy day ∧ InStoredWindow policy time
  | .dateRange => InStoredWindow policy time

/-- What the editor shows. -/
def ShownOn (policy : PolicyDraft) (day : DateText) (time : TimeOnly) : Prop :=
  match policy.scheduleType with
  | .always | .oneTime => True
  | .weeklyRecurring =>
    HighlightedOn policy day
      ∧ InWindow (shownStart policy).toTimeOnly (shownEnd policy).toTimeOnly time
  | .dateRange =>
    (∀ first, shownFrom policy = some first → first ≤ day)
      ∧ ∀ last, shownUntil policy = some last → day ≤ last

section
variable {day : DateText}

/-- The dates of the form in terms of the day and the time of the instant. -/
theorem withinDates_iff (hday : calendarDay t = (day : Int)) :
    WithinDates policy t ↔ DatesHold policy day (TimeOnly.fromDateTime t) := by
  have hle : ∀ first : DateText, (first : Int) ≤ calendarDay t ↔ first ≤ day := by
    intro first
    rw [hday, Int.ofNat_le, Fin.le_def]
  have hlt : ∀ last : DateText, calendarDay t < (last : Int) ↔ day < last := by
    intro last
    rw [hday, Int.ofNat_lt, Fin.lt_def]
  have heq : ∀ last : DateText, calendarDay t = (last : Int) ↔ day = last := by
    intro last
    rw [hday, Int.natCast_inj, Fin.ext_iff]
  constructor
  · intro h
    exact ⟨fun first hfirst => (hle first).mp (h.first first hfirst), fun last hlast => by
      rw [← hlt, ← heq]; exact h.last last hlast⟩
  · intro h
    exact ⟨fun first hfirst => (hle first).mpr (h.first first hfirst), fun last hlast => by
      rw [hlt, heq]; exact h.last last hlast⟩

/-- The highlighted days in terms of the day of the instant. -/
theorem highlightedOn_iff (policy : PolicyDraft) (hday : calendarDay t = (day : Int)) :
    isHighlighted policy t.dayOfWeek = true ↔ HighlightedOn policy day := by
  have hweekday : t.dayOfWeek = DateTime.dayOfWeek { ticks := (day : Int) * ticksPerDay } :=
    dayOfWeek_congr (hday.trans (calendarDay_midnight _).symm)
  rw [HighlightedOn, hweekday]

/-- The schedule of the form in terms of the day and the time of the instant. -/
theorem checked_iff (policy : PolicyDraft) (hday : calendarDay t = (day : Int)) :
    Checked policy t ↔ ScheduleHolds policy day (TimeOnly.fromDateTime t) := by
  unfold Checked ScheduleHolds
  cases policy.scheduleType with
  | weeklyRecurring => exact and_congr_left' (highlightedOn_iff policy hday)
  | _ => rfl

/-- What the form shows in terms of the day and the time of the instant. -/
theorem shown_iff (h : Edited policy) (hday : calendarDay t = (day : Int)) :
    Shown policy t ↔ ShownOn policy day (TimeOnly.fromDateTime t) := by
  unfold Shown ShownOn
  cases htype : policy.scheduleType with
  | always => rfl
  | weeklyRecurring => exact and_congr_left' (highlightedOn_iff policy hday)
  | dateRange => simp only [hday, Int.ofNat_le, Fin.le_def]
  | oneTime => exact iff_true_intro (h.remainingUses htype)

end

/-- The same comparison, over all days and times. -/
theorem enforced_iff (h : Edited policy) (henabled : policy.isEnabled = true) (id : String) :
    Enforced policy id ↔ ∀ (day : DateText) (time : TimeOnly),
      (DatesHold policy day time ∧ ScheduleHolds policy day time ↔ ShownOn policy day time) := by
  constructor
  · -- Take the instant at that time of the day.
    intro henforced day time
    have hday := calendarDay_instantOn (day : Int) time
    have htime := fromDateTime_instantOn (day : Int) time
    have hcalendar : InCalendar (instantOn day time) := by
      rw [InCalendar, hday]
      exact ⟨Int.natCast_nonneg _, Int.ofNat_lt.mpr day.isLt⟩
    have hiff := henforced _ hcalendar
    rwa [isActiveAt_submit h henabled, withinDates_iff hday, checked_iff policy hday,
      shown_iff h hday, htime] at hiff
  · -- Every instant of the calendar has a day and a time.
    intro hall t hcalendar
    have hlt : (calendarDay t).toNat < calendarDays := by
      have hbounds := hcalendar
      unfold InCalendar at hbounds
      omega
    have hday : calendarDay t = ((⟨(calendarDay t).toNat, hlt⟩ : DateText) : Int) :=
      (Int.toNat_of_nonneg hcalendar.1).symm
    rw [isActiveAt_submit h henabled, withinDates_iff hday, checked_iff policy hday,
      shown_iff h hday]
    exact hall _ _

/-! ### Times of day -/

/-- The last tick of a day. -/
def lastTickOfDay : TimeOnly := ⟨ticksPerDay - 1, by decide⟩

/-- The last second of a day begins before its last tick. -/
theorem lastSecond_lt_lastTick : lastSecondOfDay.ticks < lastTickOfDay.ticks := by decide

/-- A text ends in whole minutes, so none is in the last minute of the day. -/
theorem toTimeOnly_le_lastSecond (time : TimeText) :
    time.toTimeOnly.ticks ≤ lastSecondOfDay.ticks := by
  have hhour := time.hour.isLt
  have hminute := time.minute.isLt
  simp only [TimeText.toTimeOnly, lastSecondOfDay, ticksPerMinute, ticksPerSecond]
  omega

/-- A window that does not cross midnight. -/
theorem inWindow_of_le {startTime endTime time : TimeOnly} (h : startTime.ticks ≤ endTime.ticks) :
    InWindow startTime endTime time
      ↔ startTime.ticks ≤ time.ticks ∧ time.ticks ≤ endTime.ticks := by
  rw [InWindow, if_pos h]

/-- A window that crosses midnight. -/
theorem inWindow_of_lt {startTime endTime time : TimeOnly} (h : endTime.ticks < startTime.ticks) :
    InWindow startTime endTime time
      ↔ startTime.ticks ≤ time.ticks ∨ time.ticks ≤ endTime.ticks := by
  rw [InWindow, if_neg (Nat.not_le.mpr h)]

/-- Every window has its start. -/
theorem inWindow_start (startTime endTime : TimeOnly) : InWindow startTime endTime startTime := by
  by_cases h : startTime.ticks ≤ endTime.ticks
  · exact (inWindow_of_le h).mpr ⟨Nat.le_refl _, h⟩
  · exact (inWindow_of_lt (Nat.lt_of_not_le h)).mpr (.inl (Nat.le_refl _))

/-! ### No dates -/

/-- The dates allow every day and time only if none is left. -/
theorem forall_datesHold_iff (policy : PolicyDraft) :
    (∀ day time, DatesHold policy day time)
      ↔ (∀ first, shownFrom policy = some first → (first : Nat) = 0)
        ∧ shownUntil policy = none := by
  constructor
  · intro hall
    constructor
    · intro first hfirst
      -- The first day of the calendar is not before the first date.
      have hle := (hall ⟨0, by decide⟩ startOfDay).first first hfirst
      exact Nat.le_zero.mp (Fin.le_def.mp hle)
    · -- The last tick of the calendar is after the last second of every date.
      cases huntil : shownUntil policy with
      | none => rfl
      | some last =>
        cases (hall last lastTickOfDay).last last huntil with
        | inl hlt => exact absurd hlt (Nat.lt_irrefl _)
        | inr heq => exact absurd heq.2 (Nat.not_le.mpr lastSecond_lt_lastTick)
  · intro ⟨hfirst, huntil⟩ day time
    constructor
    · intro first h
      exact Fin.le_def.mpr (hfirst first h ▸ Nat.zero_le _)
    · intro last h
      rw [huntil] at h
      cases h

/-! ### The weekly schedule -/

/-- On a day on which the server and the editor agree, both times are set: the stored window of a
draft without one of them is not the shown window. -/
theorem times_set_of_agree {day : DateText}
    (hdates : ∀ time : TimeOnly, time.ticks ≤ lastSecondOfDay.ticks → DatesHold policy day time)
    (hagree : ∀ time, DatesHold policy day time ∧ InStoredWindow policy time
      ↔ InWindow (shownStart policy).toTimeOnly (shownEnd policy).toTimeOnly time) :
    ∃ startTime endTime, policy.startTime = some startTime ∧ policy.endTime = some endTime := by
  have hmidnight : DatesHold policy day startOfDay := hdates _ (Nat.zero_le _)
  unfold InStoredWindow shownStart shownEnd at hagree
  cases hstart : policy.startTime with
  | none =>
    cases hend : policy.endTime with
    | none =>
      -- Midnight is active and not shown.
      simp only [hstart, hend, Option.getD_none] at hagree
      have hshown := (hagree startOfDay).mp ⟨hmidnight, trivial⟩
      rw [inWindow_of_le (by decide)] at hshown
      exact absurd hshown.1 (by decide)
    | some endTime =>
      simp only [hstart, hend, Option.getD_none, Option.getD_some] at hagree
      by_cases hspan : (⟨8, 0⟩ : TimeText).toTimeOnly.ticks ≤ endTime.toTimeOnly.ticks
      · -- Midnight is active, as the stored window has no start.
        have hshown := (hagree startOfDay).mp ⟨hmidnight, Nat.zero_le _⟩
        rw [inWindow_of_le hspan] at hshown
        exact absurd hshown.1 (by decide)
      · -- The shown window spans midnight, and eight o'clock is shown and not active.
        have hactive := (hagree _).mpr (inWindow_start _ _)
        exact absurd hactive.2 hspan
  | some startTime =>
    cases hend : policy.endTime with
    | none =>
      simp only [hstart, hend, Option.getD_none, Option.getD_some] at hagree
      by_cases hspan : startTime.toTimeOnly.ticks ≤ (⟨18, 0⟩ : TimeText).toTimeOnly.ticks
      · -- The last second is active, as the stored window has no end.
        have hshown := (hagree lastSecondOfDay).mp
          ⟨hdates _ (Nat.le_refl _), toTimeOnly_le_lastSecond startTime⟩
        rw [inWindow_of_le hspan] at hshown
        exact absurd hshown.2 (by decide)
      · -- Midnight is shown and not active.
        have hlt := Nat.lt_of_not_le hspan
        have hactive := (hagree startOfDay).mpr ((inWindow_of_lt hlt).mpr (.inr (Nat.zero_le _)))
        have hstored : startTime.toTimeOnly.ticks ≤ 0 := hactive.2
        omega
    | some endTime => exact ⟨startTime, endTime, rfl, rfl⟩

/-- With both times set, the fields show what is stored. -/
theorem inStoredWindow_of_set {startTime endTime : TimeText}
    (hstart : policy.startTime = some startTime) (hend : policy.endTime = some endTime)
    (time : TimeOnly) :
    (InStoredWindow policy time ↔ InWindow startTime.toTimeOnly endTime.toTimeOnly time)
      ∧ (InWindow (shownStart policy).toTimeOnly (shownEnd policy).toTimeOnly time
        ↔ InWindow startTime.toTimeOnly endTime.toTimeOnly time) := by
  unfold InStoredWindow shownStart shownEnd
  rw [hstart, hend]
  exact ⟨Iff.rfl, Iff.rfl⟩

/-- A highlighted day on which the server and the editor agree. -/
theorem faithful_day {day : DateText}
    (hagree : ∀ time, DatesHold policy day time ∧ InStoredWindow policy time
      ↔ InWindow (shownStart policy).toTimeOnly (shownEnd policy).toTimeOnly time) :
    (∃ startTime endTime, policy.startTime = some startTime ∧ policy.endTime = some endTime
      ∧ ∀ last, shownUntil policy = some last →
        day < last ∨ day = last ∧ startTime.toTimeOnly.ticks ≤ endTime.toTimeOnly.ticks)
    ∧ ∀ first, shownFrom policy = some first → first ≤ day := by
  -- The start of the window is shown, so the dates allow the day.
  have hfirst := ((hagree _).mpr (inWindow_start _ _)).1
  have hdates : ∀ time : TimeOnly, time.ticks ≤ lastSecondOfDay.ticks →
      DatesHold policy day time := by
    intro time htime
    refine ⟨hfirst.first, fun last hlast => ?_⟩
    exact (hfirst.last last hlast).imp_right fun h => ⟨h.1, htime⟩
  obtain ⟨startTime, endTime, hstart, hend⟩ := times_set_of_agree hdates hagree
  refine ⟨⟨startTime, endTime, hstart, hend, fun last hlast => ?_⟩, hfirst.first⟩
  refine (hfirst.last last hlast).imp_right fun h => ⟨h.1, ?_⟩
  by_contra hspan
  -- A window that spans midnight shows the last tick of the last day.
  have hwindow : InWindow startTime.toTimeOnly endTime.toTimeOnly lastTickOfDay :=
    (inWindow_of_lt (Nat.lt_of_not_le hspan)).mpr (.inl (Nat.le_of_lt
      (Nat.lt_of_le_of_lt (toTimeOnly_le_lastSecond startTime) lastSecond_lt_lastTick)))
  have hshown := (inStoredWindow_of_set hstart hend lastTickOfDay).2.mpr hwindow
  cases ((hagree _).mpr hshown).1.last last hlast with
  | inl hlt => exact absurd hlt (h.1 ▸ Nat.lt_irrefl _)
  | inr heq => exact absurd heq.2 (Nat.not_le.mpr lastSecond_lt_lastTick)

/-- The shown window of such a day lies within the dates of the draft. -/
theorem datesHold_of_inWindow {day : DateText} {startTime endTime : TimeText} {time : TimeOnly}
    (hlast : ∀ last, shownUntil policy = some last →
      day < last ∨ day = last ∧ startTime.toTimeOnly.ticks ≤ endTime.toTimeOnly.ticks)
    (hfirst : ∀ first, shownFrom policy = some first → first ≤ day)
    (hwindow : InWindow startTime.toTimeOnly endTime.toTimeOnly time) :
    DatesHold policy day time where
  first := hfirst
  last last h := by
    refine (hlast last h).imp_right fun hday => ⟨hday.1, ?_⟩
    exact Nat.le_trans ((inWindow_of_le hday.2).mp hwindow).2 (toTimeOnly_le_lastSecond endTime)

/-- A weekly schedule is enforced as it is shown exactly when the draft is faithful. -/
theorem weekly_iff (hweekly : policy.scheduleType = .weeklyRecurring) :
    (∀ (day : DateText) (time : TimeOnly),
      (DatesHold policy day time ∧ ScheduleHolds policy day time ↔ ShownOn policy day time))
      ↔ Faithful policy := by
  unfold Faithful
  simp only [ScheduleHolds, ShownOn, hweekly]
  constructor
  · intro hall day hday
    refine faithful_day fun time => ?_
    simpa [hday] using hall day time
  · intro hset day time
    by_cases hday : HighlightedOn policy day
    · obtain ⟨⟨startTime, endTime, hstart, hend, hlast⟩, hfirst⟩ := hset day hday
      have hwindow := inStoredWindow_of_set hstart hend time
      simp only [hday, true_and]
      rw [hwindow.1, hwindow.2]
      exact ⟨fun h => h.2, fun h => ⟨datesHold_of_inWindow hlast hfirst h, h⟩⟩
    · simp [hday]

/-! ### The date range -/

/-- Two texts that differ are a minute apart. -/
theorem minute_le_of_lt {startTime endTime : TimeText}
    (h : endTime.toTimeOnly.ticks < startTime.toTimeOnly.ticks) :
    endTime.toTimeOnly.ticks + ticksPerMinute ≤ startTime.toTimeOnly.ticks := by
  simp only [TimeText.toTimeOnly, ticksPerMinute] at *
  omega

/-- A window with an end closes: in the last second of the day, or right after an end that is
before the start. -/
theorem exists_not_inStoredWindow {endTime : TimeText} (hend : policy.endTime = some endTime) :
    ∃ time, ¬ InStoredWindow policy time := by
  have hclosed : ¬ lastTickOfDay.ticks ≤ endTime.toTimeOnly.ticks :=
    Nat.not_le.mpr (Nat.lt_of_le_of_lt (toTimeOnly_le_lastSecond endTime) lastSecond_lt_lastTick)
  unfold InStoredWindow
  rw [hend]
  cases policy.startTime with
  | none => exact ⟨lastTickOfDay, hclosed⟩
  | some startTime =>
    by_cases hspan : startTime.toTimeOnly.ticks ≤ endTime.toTimeOnly.ticks
    · exact ⟨lastTickOfDay, fun h => hclosed ((inWindow_of_le hspan).mp h).2⟩
    · -- The tick after the end: there is a minute until the start.
      have hlt := Nat.lt_of_not_le hspan
      have hminute := minute_le_of_lt hlt
      have hday := startTime.toTimeOnly.lt
      have hticks : endTime.toTimeOnly.ticks + 1 < ticksPerDay := by
        simp only [ticksPerMinute] at hminute
        omega
      refine ⟨⟨endTime.toTimeOnly.ticks + 1, hticks⟩, fun h => ?_⟩
      have hin := (inWindow_of_lt hlt).mp h
      simp only [ticksPerMinute] at hminute hin
      omega

/-- The window that is left over never closes. -/
theorem forall_inStoredWindow_iff (policy : PolicyDraft) :
    (∀ time, InStoredWindow policy time)
      ↔ policy.endTime = none
        ∧ ∀ startTime, policy.startTime = some startTime → startTime.toTimeOnly.ticks = 0 := by
  cases hend : policy.endTime with
  | some endTime =>
    obtain ⟨time, hclosed⟩ := exists_not_inStoredWindow hend
    exact iff_of_false (fun h => hclosed (h time)) (fun h => by cases h.1)
  | none =>
    unfold InStoredWindow
    rw [hend]
    cases hstart : policy.startTime with
    | none => simp
    | some startTime =>
      constructor
      · intro hall
        refine ⟨rfl, fun _ h => ?_⟩
        cases h
        exact Nat.le_zero.mp (hall startOfDay)
      · intro hzero time
        show startTime.toTimeOnly.ticks ≤ time.ticks
        rw [hzero.2 startTime rfl]
        exact Nat.zero_le _

/-- A range that is not empty shows a day. -/
theorem exists_shown_day (hrange : ¬ ∃ first last, shownFrom policy = some first
      ∧ shownUntil policy = some last ∧ last < first) :
    ∃ day : DateText, (∀ first, shownFrom policy = some first → first ≤ day)
      ∧ ∀ last, shownUntil policy = some last → day ≤ last := by
  cases hfrom : shownFrom policy with
  | none =>
    refine ⟨⟨0, by decide⟩, fun _ h => (by cases h), fun last _ => ?_⟩
    exact Fin.le_def.mpr (Nat.zero_le _)
  | some first =>
    refine ⟨first, fun _ h => ?_, fun last hlast => ?_⟩
    · cases h
      exact Nat.le_refl _
    · exact Nat.le_of_not_lt fun hlt => hrange ⟨first, last, hfrom, hlast, hlt⟩

/-- A range of dates is enforced as it is shown exactly when the draft is faithful. -/
theorem dateRange_iff (htype : policy.scheduleType = .dateRange) :
    (∀ (day : DateText) (time : TimeOnly),
      (DatesHold policy day time ∧ ScheduleHolds policy day time ↔ ShownOn policy day time))
      ↔ Faithful policy := by
  unfold Faithful
  simp only [ScheduleHolds, ShownOn, htype]
  constructor
  · intro hall
    by_cases hrange : ∃ first last, shownFrom policy = some first
        ∧ shownUntil policy = some last ∧ last < first
    · exact .inl hrange
    · obtain ⟨day, hfirst, hlast⟩ := exists_shown_day hrange
      have hopen : ∀ time, InStoredWindow policy time := fun time =>
        ((hall day time).mpr ⟨hfirst, hlast⟩).2
      obtain ⟨hend, hstart⟩ := (forall_inStoredWindow_iff policy).mp hopen
      refine .inr ⟨?_, hend, hstart⟩
      -- The last date is shown to its last tick.
      cases huntil : shownUntil policy with
      | none => rfl
      | some last =>
        have hday := hlast last huntil
        have hdates := ((hall last lastTickOfDay).mpr
          ⟨fun first h => Nat.le_trans (hfirst first h) hday, fun _ h => by
            rw [huntil] at h; cases h; exact Nat.le_refl _⟩).1
        cases hdates.last last huntil with
        | inl hlt => exact absurd hlt (Nat.lt_irrefl _)
        | inr heq => exact absurd heq.2 (Nat.not_le.mpr lastSecond_lt_lastTick)
  · intro hfaithful day time
    cases hfaithful with
    | inl hempty =>
      -- No day is shown, and none is active.
      obtain ⟨first, last, hfrom, huntil, hlt⟩ := hempty
      refine iff_of_false (fun h => ?_) (fun h => ?_)
      · have hfirst := h.1.first first hfrom
        have hlast : day ≤ last := (h.1.last last huntil).elim Nat.le_of_lt fun h =>
          Nat.le_of_eq (congrArg Fin.val h.1)
        exact absurd (Nat.le_trans hfirst hlast) (Nat.not_le.mpr hlt)
      · exact absurd (Nat.le_trans (h.1 first hfrom) (h.2 last huntil)) (Nat.not_le.mpr hlt)
    | inr hopen =>
      have hwindow := (forall_inStoredWindow_iff policy).mpr hopen.2 time
      have huntil := hopen.1
      constructor
      · intro h
        exact ⟨h.1.first, fun last hlast => by rw [huntil] at hlast; cases hlast⟩
      · intro h
        exact ⟨⟨h.1, fun last hlast => by rw [huntil] at hlast; cases hlast⟩, hwindow⟩

/-! ### Every draft -/

/-- **The schedule on screen is the schedule enforced** exactly when the draft is faithful, for
every enabled draft that the editor can reach. -/
theorem enforced_iff_faithful (actions : List Action) (id : String)
    (henabled : (actions.foldl step {}).isEnabled = true) :
    Enforced (actions.foldl step {}) id ↔ Faithful (actions.foldl step {}) := by
  have hedited := edited_run actions
  generalize actions.foldl step {} = policy at *
  rw [enforced_iff hedited henabled id]
  cases htype : policy.scheduleType with
  | always =>
    unfold Faithful
    simp only [ScheduleHolds, ShownOn, htype, and_true, iff_true]
    exact forall_datesHold_iff policy
  | weeklyRecurring => exact weekly_iff htype
  | dateRange => exact dateRange_iff htype
  | oneTime =>
    unfold Faithful
    simp only [ScheduleHolds, ShownOn, htype, and_true, iff_true]
    exact forall_datesHold_iff policy

/-- Weekdays from 09:00 to 17:00, with both times set. -/
theorem enforced_iff_faithful_officeHours :
    Enforced ([.changeType .weeklyRecurring, .selectPreset .weekdays, .setStartTime ⟨9, 0⟩,
      .setEndTime ⟨17, 0⟩].foldl step {}) "office" := by
  refine (enforced_iff_faithful _ "office" rfl).mpr ?_
  intro day _
  exact ⟨⟨⟨9, 0⟩, ⟨17, 0⟩, rfl, rfl, fun _ h => (by cases h)⟩, fun _ h => (by cases h)⟩

/-- Monday, 7 September 2026, at 20:00. -/
def mondayEvening : DateTime where
  ticks := 739865 * 864000000000 + 20 * 36000000000

/-- A weekly draft shows 08:00 to 18:00 before a time is set, and is active at 20:00. -/
theorem untouched_times_are_not_enforced :
    ¬ Enforced ([.changeType .weeklyRecurring].foldl step {}) "weekly" := by
  intro h
  have hshown := (h mondayEvening ⟨by decide, by decide⟩).mp (by decide)
  have hwindow : InWindow (⟨8, 0⟩ : TimeText).toTimeOnly (⟨18, 0⟩ : TimeText).toTimeOnly
      (TimeOnly.fromDateTime mondayEvening) := hshown.2
  exact absurd ((inWindow_of_le (by decide)).mp hwindow).2 (by decide)

end CodeMaster.Proofs.ShownSchedule
