import CodeMaster.Core.Models

/-!
# `CodeMaster.Ui.ScheduleEditor`: the draft of a policy in the user dialog

`UserManagement` holds a draft, and `ScheduleEditor` shows it and calls `onChange` with the next
one. An `Action` is a click or a valid input, and `step` is the draft that the editor then hands
over. The inputs of a schedule type are shown only while that type is selected.

A valid input of a time field is a `TimeText`, for the text `HH:mm`, and one of a date field is a
`DateText`, for the text of a calendar day. The other inputs, which are the empty text, are left
out. The initial draft sets the type, the mask and the switch, and no action removes them, so the
fallbacks of the editor for these do not occur.
-/

set_option autoImplicit false

namespace CodeMaster.Ui

open CodeMaster.Core

/-- The ticks of a minute. -/
def ticksPerMinute : Nat := 600000000

/-- The text `HH:mm`. -/
structure TimeText where
  hour : Fin 24
  minute : Fin 60
  deriving DecidableEq, Repr

/-- The time of day that the server reads from the text. -/
def TimeText.toTimeOnly (t : TimeText) : TimeOnly where
  ticks := (t.hour * 60 + t.minute) * ticksPerMinute
  lt := by
    have hhour := t.hour.isLt
    have hminute := t.minute.isLt
    simp only [ticksPerMinute, ticksPerDay]
    omega

/-- The number of days from 0001-01-01 to 9999-12-31. -/
def calendarDays : Nat := 3652059

/-- The text of a day, by the number of the day. -/
abbrev DateText := Fin calendarDays

/-- The text of a date, `T`, a time, and `Z`. -/
structure InstantText where
  date : DateText
  time : TimeOnly
  deriving DecidableEq, Repr

/-- The instant that the server reads from the text. -/
def InstantText.toDateTime (i : InstantText) : DateTime where
  ticks := i.date * ticksPerDay + i.time.ticks

/-- `00:00:00`. -/
def startOfDay : TimeOnly := ⟨0, by decide⟩

/-- `23:59:59`. -/
def lastSecondOfDay : TimeOnly := ⟨86399 * ticksPerSecond, by decide⟩

/-- `policyData`, which starts as the default. -/
structure PolicyDraft where
  name : String := "Standard Access"
  scheduleType : ScheduleType := .always
  daysOfWeek : BitVec 32 := 127
  startTime : Option TimeText := none
  endTime : Option TimeText := none
  validFrom : Option InstantText := none
  validUntil : Option InstantText := none
  remainingUses : Option Nat := none
  isEnabled : Bool := true
  deriving DecidableEq, Repr

/-- The bits of `DAYS`. -/
def dayBit : DayOfWeek → BitVec 32
  | .monday => 1
  | .tuesday => 2
  | .wednesday => 4
  | .thursday => 8
  | .friday => 16
  | .saturday => 32
  | .sunday => 64

/-- The buttons that choose several days. -/
inductive Preset where
  | all
  | weekdays
  | weekends
  deriving DecidableEq, Repr

/-- The mask of a preset. -/
def Preset.mask : Preset → BitVec 32
  | .all => 127
  | .weekdays => 1 ||| 2 ||| 4 ||| 8 ||| 16
  | .weekends => 32 ||| 64

/-- What a user can do in the editor. -/
inductive Action where
  | changeType (type : ScheduleType)
  | toggleDay (day : DayOfWeek)
  | selectPreset (preset : Preset)
  | setStartTime (time : TimeText)
  | setEndTime (time : TimeText)
  | setValidFrom (date : DateText)
  | setValidUntil (date : DateText)
  | chooseUses (uses : Nat)
  | toggleEnabled
  deriving DecidableEq, Repr

namespace ScheduleEditor

/-- `handleTypeChange`. The fields of the other types stay. -/
def handleTypeChange (policy : PolicyDraft) (type : ScheduleType) : PolicyDraft :=
  { policy with
    scheduleType := type
    remainingUses :=
      if type = .oneTime then
        -- `||`: a zero counts as missing.
        match policy.remainingUses with
        | some uses => if uses = 0 then some 1 else some uses
        | none => some 1
      else none }

/-- The button of one day. -/
def toggleDay (policy : PolicyDraft) (bit : BitVec 32) : PolicyDraft :=
  { policy with
    daysOfWeek :=
      -- A highlighted day is taken out of the mask, and another one is added.
      if policy.daysOfWeek &&& bit ≠ 0 then policy.daysOfWeek &&& ~~~bit
      else policy.daysOfWeek ||| bit }

/-- A button that chooses several days. -/
def selectPreset (policy : PolicyDraft) (preset : Preset) : PolicyDraft :=
  { policy with daysOfWeek := preset.mask }

/-- The buttons of the one-time pass. -/
def usesOptions : List Nat := [1, 2, 3, 5]

/-- Is the control of the action shown? -/
def shows (policy : PolicyDraft) : Action → Bool
  | .changeType _ | .toggleEnabled => true
  | .toggleDay _ | .selectPreset _ | .setStartTime _ | .setEndTime _ =>
    policy.scheduleType = .weeklyRecurring
  | .setValidFrom _ | .setValidUntil _ => policy.scheduleType = .dateRange
  | .chooseUses uses => policy.scheduleType = .oneTime ∧ uses ∈ usesOptions

/-- The argument of `onChange`. -/
def onChange (policy : PolicyDraft) : Action → PolicyDraft
  | .changeType type => handleTypeChange policy type
  | .toggleDay day => toggleDay policy (dayBit day)
  | .selectPreset preset => selectPreset policy preset
  -- A time is stored when its field is changed; the other one stays as it is.
  | .setStartTime time => { policy with startTime := some time }
  | .setEndTime time => { policy with endTime := some time }
  | .setValidFrom date => { policy with validFrom := some ⟨date, startOfDay⟩ }
  -- The end of the day is the start of its last second.
  | .setValidUntil date => { policy with validUntil := some ⟨date, lastSecondOfDay⟩ }
  | .chooseUses uses => { policy with remainingUses := some uses }
  | .toggleEnabled => { policy with isEnabled := !policy.isEnabled }

/-- The draft after an action. -/
def step (policy : PolicyDraft) (action : Action) : PolicyDraft :=
  if shows policy action then onChange policy action else policy

/-! ### What the editor shows -/

/-- The day's button is highlighted. -/
def isHighlighted (policy : PolicyDraft) (day : DayOfWeek) : Bool :=
  policy.daysOfWeek &&& dayBit day ≠ 0

/-- The value of the start field, `08:00` while none is set. -/
def shownStart (policy : PolicyDraft) : TimeText := policy.startTime.getD ⟨8, 0⟩

/-- The value of the end field, `18:00` while none is set. -/
def shownEnd (policy : PolicyDraft) : TimeText := policy.endTime.getD ⟨18, 0⟩

/-- The value of the first date field: the text before the `T`. -/
def shownFrom (policy : PolicyDraft) : Option DateText := policy.validFrom.map InstantText.date

/-- The value of the last date field. -/
def shownUntil (policy : PolicyDraft) : Option DateText := policy.validUntil.map InstantText.date

end ScheduleEditor

/-- The body of `SavePolicy` that the server reads from the draft. The draft has no id, and `id`
is the one that the model gets. -/
def PolicyDraft.submit (policy : PolicyDraft) (id : String) : AccessPolicy where
  id
  name := policy.name
  scheduleType := policy.scheduleType
  daysOfWeek := policy.daysOfWeek
  startTime := policy.startTime.map TimeText.toTimeOnly
  endTime := policy.endTime.map TimeText.toTimeOnly
  validFrom := policy.validFrom.map InstantText.toDateTime
  validUntil := policy.validUntil.map InstantText.toDateTime
  remainingUses := policy.remainingUses.map Int.ofNat
  isEnabled := policy.isEnabled

end CodeMaster.Ui
