import CodeMaster.Core.Host

/-!
# `CodeMaster.Core.Models`: the entities, and the schedule of a policy

The classes of `CodeMaster.Core/Models` and `CodeMaster.Core/DTOs` as structures. A property
initializer with a constant is the field's default. `Id = Guid.NewGuid()` is not a constant:
the code that builds an entity passes the id. Columns and properties that no function reads
(the sync time of a slot) are left out.

`AccessPolicy.isActiveAt` is the schedule check that the keypad and the slot worker share.
-/

set_option autoImplicit false

namespace CodeMaster.Core

/-- The role of a user. No modelled decision depends on it. -/
inductive UserRole where
  | admin
  | member
  | guest
  | service
  deriving DecidableEq, Repr

/-- A group of users, to which policies can be assigned. -/
structure UserGroup where
  id : String
  name : String := ""
  description : Option String := none
  createdAt : DateTime
  deriving DecidableEq, Repr

/-- A user as the table `Users` stores it. -/
structure User where
  id : String
  groupId : Option String := none
  name : String := ""
  role : UserRole := .member
  isActive : Bool := true
  createdAt : DateTime
  updatedAt : DateTime
  deriving DecidableEq, Repr

/-- The kinds of credentials. The requests store PINs only. -/
inductive CredentialType where
  | pin
  | rfid
  | nfc
  | badge
  | duressPin
  deriving DecidableEq, Repr

/-- A credential as the table `Credentials` stores it, with both forms of its value. -/
structure Credential where
  id : String
  userId : String := ""
  type : CredentialType := .pin
  encryptedValue : Option String := none
  hashedValue : String := ""
  pinLength : Nat := 0
  label : Option String := none
  createdAt : DateTime
  deriving DecidableEq, Repr

/-- A door: the providers of its devices with their configurations, and the settings of its
auto-lock. -/
structure AccessPoint where
  id : String
  name : String := ""
  lockProviderType : String := ""
  lockConfigJson : String := "{}"
  keypadProviderType : Option String := none
  keypadConfigJson : Option String := none
  doorSensorProviderType : Option String := none
  doorSensorConfigJson : Option String := none
  autoLockEnabled : Bool := true
  autoLockDaySeconds : Int := 300
  autoLockNightSeconds : Int := 60
  retryOnFailure : Bool := true
  createdAt : DateTime
  updatedAt : DateTime
  deriving DecidableEq, Repr

/-- An assignment of a policy at a door, to a user or to a group. -/
structure AccessAssignment where
  id : String
  accessPointId : String := ""
  userId : Option String := none
  groupId : Option String := none
  policyId : String := ""
  deriving DecidableEq, Repr

/-- Whether a slot of the table agrees with the lock. -/
inductive SlotSyncStatus where
  | synced
  | adding
  | deleting
  | error
  deriving DecidableEq, Repr

/-- A slot of a lock as the table `HardwareSlots` stores it. A cleared slot has no user. -/
structure HardwareSlot where
  id : String
  accessPointId : String := ""
  slotNumber : Int := 0
  userId : Option String := none
  credentialId : Option String := none
  syncStatus : SlotSyncStatus := .synced
  deriving DecidableEq, Repr

/-- A code as a lock provider lists it. -/
structure HardwareSlotDto where
  slotNumber : Int
  inUse : Bool
  pinCode : Option String := none
  label : Option String := none
  deriving DecidableEq, Repr

/-- The state of a lock as it is reported. -/
inductive LockState where
  | locked
  | unlocked
  | jammed
  | unknown
  deriving DecidableEq, Repr

/-- The state of a door's contact. -/
inductive DoorContactState where
  | closed
  | open
  deriving DecidableEq, Repr

/-! ### Policies and schedules -/

/-- The kinds of schedules. -/
inductive ScheduleType where
  | always
  | weeklyRecurring
  | dateRange
  | oneTime
  deriving DecidableEq, Repr

/-- `daysOfWeek` is a bit mask: 1 is Monday, 2 Tuesday, up to 64 for Sunday. -/
structure AccessPolicy where
  id : String
  name : String := ""
  scheduleType : ScheduleType := .always
  daysOfWeek : BitVec 32 := 127
  startTime : Option TimeOnly := none
  endTime : Option TimeOnly := none
  validFrom : Option DateTime := none
  validUntil : Option DateTime := none
  remainingUses : Option Int := none
  isEnabled : Bool := true
  deriving DecidableEq, Repr

namespace AccessPolicy

/-- The day of the instant is among the days of the policy, which are bits of a number. -/
def isDayOfWeekActive (p : AccessPolicy) (utcTime : DateTime) : Bool :=
  let dayBit : BitVec 32 := match utcTime.dayOfWeek with
    | .monday => 1
    | .tuesday => 2
    | .wednesday => 4
    | .thursday => 8
    | .friday => 16
    | .saturday => 32
    | .sunday => 64
  p.daysOfWeek &&& dayBit ≠ 0

/-- The time of the instant is in the window of the policy, which can cross midnight. A missing
bound leaves the window open. -/
def isTimeWindowActive (p : AccessPolicy) (utcTime : DateTime) : Bool :=
  let currentTime := TimeOnly.fromDateTime utcTime
  match p.startTime, p.endTime with
  | none, none => true
  | some startTime, some endTime =>
    if startTime.ticks ≤ endTime.ticks then
      startTime.ticks ≤ currentTime.ticks ∧ currentTime.ticks ≤ endTime.ticks
    else
      -- The window spans midnight.
      startTime.ticks ≤ currentTime.ticks ∨ currentTime.ticks ≤ endTime.ticks
  | some startTime, none => startTime.ticks ≤ currentTime.ticks
  | none, some endTime => currentTime.ticks ≤ endTime.ticks

/-- Is the policy active at the given UTC time? -/
def isActiveAt (p : AccessPolicy) (utcTime : DateTime) : Bool :=
  if !p.isEnabled then false
  else if p.validFrom.any fun validFrom => utcTime.ticks < validFrom.ticks then false
  else if p.validUntil.any fun validUntil => validUntil.ticks < utcTime.ticks then false
  else match p.scheduleType with
    | .always => true
    | .oneTime => p.remainingUses.all fun uses => 0 < uses
    | .dateRange => p.isTimeWindowActive utcTime
    | .weeklyRecurring => p.isDayOfWeekActive utcTime && p.isTimeWindowActive utcTime

/-- An active policy is enabled, so the callers' own `IsEnabled` test adds nothing. -/
theorem isEnabled_of_isActiveAt {p : AccessPolicy} {t : DateTime}
    (h : p.isActiveAt t = true) : p.isEnabled = true := by
  unfold isActiveAt at h
  cases hp : p.isEnabled
  · simp [hp] at h
  · rfl

end AccessPolicy

/-! ### Keypad events and results -/

/-- What a keypad asks for. -/
inductive KeypadAction where
  | disarm
  | armAway
  | armStay
  | lock
  | unlock
  | custom
  deriving DecidableEq, Repr

/-- What a keypad reports: the action, with the PIN that was entered or the slot that was used. -/
structure KeypadEventDto where
  action : KeypadAction := .disarm
  pin : Option String := none
  slotNumber : Option Int := none
  timestamp : DateTime
  rawTopic : Option String := none
  deviceId : Option String := none
  deriving DecidableEq, Repr

/-- The decision about a keypad event. -/
structure AccessEvaluationResult where
  isValid : Bool
  user : Option User := none
  policy : Option AccessPolicy := none
  reason : Option String := none
  deriving DecidableEq, Repr

/-- `LockCapabilities`, a flags enumeration. -/
abbrev LockCapabilities := BitVec 32

namespace LockCapabilities

/-- The lock can be commanded. -/
def remoteControl : LockCapabilities := 1

/-- The lock has slots for codes. -/
def userCodes : LockCapabilities := 2

/-- The lock reports jams. -/
def jamDetection : LockCapabilities := 8

/-- `Enum.HasFlag`. -/
def hasFlag (c flag : LockCapabilities) : Bool := c &&& flag = flag

end LockCapabilities

end CodeMaster.Core
