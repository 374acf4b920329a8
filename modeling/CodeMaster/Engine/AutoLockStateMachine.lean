import CodeMaster.Lib.Exec
import CodeMaster.Core.Models

/-!
# `CodeMaster.Engine.AutoLockStateMachine`: the auto-lock timers of a door

The object's state with its two timers, and one step for everything that can happen to it: a
report of the lock, a report of the door contact, the expiry of an armed timer, and the end
of a lock attempt. `attempts` counts the attempts that have started and not ended, because a
timer starts an attempt outside the object's monitor and other steps come in between.

A timer is the delay it was armed with, in seconds. When it expires is left open: an armed
timer can expire at any point of a run. `CreateTimer` throws on a delay that it does not
support, and the handler then stops half way with the state it has reached.
-/

set_option autoImplicit false

namespace CodeMaster.Engine

open CodeMaster.Core Exec

/-- The statuses that the machine announces. -/
inductive AutoLockStatus where
  | disabled
  | idle
  | countingDown
  | pausedDoorOpen
  | jammedRetry
  | locked
  deriving DecidableEq, Repr

/-- The machine: its status, what it knows of the lock and the contact, its settings, and its
timers. A timer that is armed has its delay. -/
structure AutoLockStateMachine where
  status : AutoLockStatus := .locked
  lockState : LockState := .locked
  doorContactState : DoorContactState := .closed
  isEnabled : Bool := true
  daySeconds : Int := 60
  nightSeconds : Int := 60
  retryOnFailure : Bool := true
  retryDelaySeconds : Int := 15
  isNight : Bool := false
  countdownTimer : Option Int := none
  retryTimer : Option Int := none
  attempts : Nat := 0
  deriving DecidableEq, Repr

/-- `ArgumentOutOfRangeException`, thrown by `CreateTimer`. -/
inductive ArgumentOutOfRangeException where
  | dueTime
  deriving DecidableEq, Repr

namespace AutoLockStateMachine

/-- A method of the object. -/
abbrev Method := Exec ArgumentOutOfRangeException AutoLockStateMachine Unit

/-- The constructor that gets the thresholds. -/
def new (timeoutSeconds : Int) (nightSeconds : Option Int) (retryOnFailure : Bool)
    (retryDelaySeconds : Int) : AutoLockStateMachine where
  daySeconds := timeoutSeconds
  nightSeconds := nightSeconds.getD timeoutSeconds
  retryOnFailure := retryOnFailure
  retryDelaySeconds := retryDelaySeconds

/-- The constructor that gets the door. -/
def ofAccessPoint (accessPoint : AccessPoint) : AutoLockStateMachine :=
  { new accessPoint.autoLockDaySeconds (some accessPoint.autoLockNightSeconds)
      accessPoint.retryOnFailure 15 with isEnabled := accessPoint.autoLockEnabled }

/-- The delays that `TimeProvider.System.CreateTimer` supports: from 0 to `0xFFFFFFFE`
milliseconds. -/
def supportsDelay (seconds : Int) : Bool := 0 ≤ seconds * 1000 ∧ seconds * 1000 ≤ 4294967294

/-- The status is announced. -/
def setStatus (newStatus : AutoLockStatus) : Method := modify fun m => { m with status := newStatus }

/-- The countdown is disposed. -/
def cancelCountdownTimer : Method := modify fun m => { m with countdownTimer := none }

/-- The retry is disposed. -/
def cancelRetryTimer : Method := modify fun m => { m with retryTimer := none }

/-- Both timers are disposed. -/
def cancelAllTimers : Method := do
  cancelCountdownTimer
  cancelRetryTimer

/-- The delay of the countdown. -/
def lockDelay (m : AutoLockStateMachine) : Int := if m.isNight then m.nightSeconds else m.daySeconds

/-- The countdown is armed with the delay of the day or of the night. -/
def armCountdownTimer : Method := do
  -- The old timer is gone also when `CreateTimer` throws.
  cancelCountdownTimer
  let delay ← query lockDelay
  if supportsDelay delay then modify fun m => { m with countdownTimer := some delay }
  else throw .dueTime

/-- The retry is armed with its own delay. -/
def armRetryTimer : Method := do
  cancelRetryTimer
  let delay ← query retryDelaySeconds
  if supportsDelay delay then modify fun m => { m with retryTimer := some delay }
  else throw .dueTime

/-- `OnLockStateChanged`: the report is written also by a machine that is off. -/
def onLockStateChanged (newState : LockState) : Method := do
  modify fun m => { m with lockState := newState }
  let m ← get
  if m.isEnabled then
    match newState with
    | .locked =>
      cancelAllTimers
      setStatus .locked
    | .unlocked =>
      cancelRetryTimer
      if m.doorContactState = .open then
        cancelCountdownTimer
        setStatus .pausedDoorOpen
      else
        armCountdownTimer
        setStatus .countingDown
    | .jammed =>
      cancelCountdownTimer
      -- The contact is not looked at here, so a retry is also armed over an open door.
      if m.retryOnFailure then
        setStatus .jammedRetry
        armRetryTimer
      else
        cancelAllTimers
        setStatus .idle
    | .unknown => pure () -- `default`: the timers stay as they are.
  else
    cancelAllTimers
    setStatus .disabled

/-- `OnDoorContactChanged`: the report is written also by a machine that is off. -/
def onDoorContactChanged (newState : DoorContactState) : Method := do
  modify fun m => { m with doorContactState := newState }
  let m ← get
  if m.isEnabled then
    -- With another lock state the source returns here, and a pending timer stays armed.
    if m.lockState = .unlocked then
      match newState with
      | .open =>
        cancelCountdownTimer
        setStatus .pausedDoorOpen
      | .closed =>
        armCountdownTimer
        setStatus .countingDown
  else
    cancelAllTimers
    setStatus .disabled

/-- The part of `ExecuteLockAttemptAsync` before the lock answers. -/
def startLockAttempt : Method := modify fun m => { m with attempts := m.attempts + 1 }

/-- The part of `ExecuteLockAttemptAsync` after the lock has answered. -/
def endLockAttempt (success : Bool) : Method := do
  modify fun m => { m with attempts := m.attempts - 1 }
  if success then
    cancelAllTimers
    modify fun m => { m with lockState := .locked }
    setStatus .locked
  else
    let m ← get
    if m.retryOnFailure then
      setStatus .jammedRetry
      armRetryTimer
    else
      cancelAllTimers
      setStatus .idle

/-- The countdown expires. -/
def triggerCountdownExpired : Method := do
  cancelCountdownTimer
  startLockAttempt

/-- The retry expires. -/
def triggerRetryExpired : Method := do
  cancelRetryTimer
  startLockAttempt

/-- What can happen to the object. -/
inductive Event where
  | lockStateChanged (newState : LockState)
  | doorContactChanged (newState : DoorContactState)
  | countdownExpired
  | retryExpired
  | lockAttemptEnded (success : Bool)
  deriving DecidableEq, Repr

/-- A timer has to be armed to expire, and an attempt has to be in flight to end. -/
def enabled (m : AutoLockStateMachine) : Event → Bool
  | .lockStateChanged _ | .doorContactChanged _ => true
  | .countdownExpired => m.countdownTimer.isSome
  | .retryExpired => m.retryTimer.isSome
  | .lockAttemptEnded _ => 0 < m.attempts

/-- The method that an event calls. -/
def handle : Event → Method
  | .lockStateChanged newState => onLockStateChanged newState
  | .doorContactChanged newState => onDoorContactChanged newState
  | .countdownExpired => triggerCountdownExpired
  | .retryExpired => triggerRetryExpired
  | .lockAttemptEnded success => endLockAttempt success

/-- One step. An event that cannot happen leaves the object. -/
def step (m : AutoLockStateMachine) (e : Event) : AutoLockStateMachine :=
  if m.enabled e then ((handle e).exec m).2 else m

/-- The properties with a public setter. -/
structure Settings where
  isEnabled : Bool
  daySeconds : Int
  nightSeconds : Int
  retryOnFailure : Bool
  retryDelaySeconds : Int
  isNight : Bool
  deriving DecidableEq, Repr

/-- The settings of a machine. -/
def settings (m : AutoLockStateMachine) : Settings where
  isEnabled := m.isEnabled
  daySeconds := m.daySeconds
  nightSeconds := m.nightSeconds
  retryOnFailure := m.retryOnFailure
  retryDelaySeconds := m.retryDelaySeconds
  isNight := m.isNight

/-- The setters. They only store: a pending timer keeps the delay it was armed with. -/
def set (m : AutoLockStateMachine) (c : Settings) : AutoLockStateMachine :=
  { m with
    isEnabled := c.isEnabled
    daySeconds := c.daySeconds
    nightSeconds := c.nightSeconds
    retryOnFailure := c.retryOnFailure
    retryDelaySeconds := c.retryDelaySeconds
    isNight := c.isNight }

/-- An event, or new values of the properties. -/
inductive Input where
  | event (e : Event)
  | set (c : Settings)
  deriving DecidableEq, Repr

/-- One input: an event, or new settings. -/
def receive (m : AutoLockStateMachine) : Input → AutoLockStateMachine
  | .event e => m.step e
  | .set c => m.set c

end AutoLockStateMachine

end CodeMaster.Engine
