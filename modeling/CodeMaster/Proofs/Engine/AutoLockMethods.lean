import CodeMaster.Proofs.Engine.AutoLock

/-!
# `CodeMaster.Proofs.Engine.AutoLockMethods`: the state that each method leaves

One equation a method of `AutoLockStateMachine`: the fields that it writes, branch by branch,
also where `CreateTimer` throws. The results about the methods follow from these equations.
-/

set_option autoImplicit false

namespace CodeMaster.Proofs.Engine.AutoLockMethods

open CodeMaster.Core CodeMaster.Engine AutoLockStateMachine Exec AutoLock

/-- The state in which the method leaves the machine, also when it throws. -/
def after (method : Method) (m : AutoLockStateMachine) : AutoLockStateMachine := (method.exec m).2

/-- The method returns without an exception. -/
def completes (method : Method) (m : AutoLockStateMachine) : Bool := (method.exec m).1.isOk

/-- Arming the countdown arms it exactly when the delay is supported. -/
theorem exec_armCountdownTimer (m : AutoLockStateMachine) :
    armCountdownTimer.exec m =
      if supportsDelay m.lockDelay then
        (.ok (), { m with countdownTimer := some m.lockDelay })
      else (.error .dueTime, { m with countdownTimer := none }) := by
  simp only [armCountdownTimer, exec_bind, exec_cancelCountdownTimer, exec_query, exec_ite,
    exec_modify, exec_throw]
  rfl

/-- The timer that an attempt to arm it with the delay leaves. -/
def armed (delay : Int) : Option Int := if supportsDelay delay then some delay else none

variable (m : AutoLockStateMachine)

/-- The machine after a report that finds it disabled. -/
def disabledBy (lockState : LockState) (contact : DoorContactState) : AutoLockStateMachine :=
  { m with
    lockState := lockState, doorContactState := contact
    countdownTimer := none, retryTimer := none, status := .disabled }

/-- The machine after a report of the lock, by the state that is reported. -/
theorem after_onLockStateChanged (newState : LockState) :
    after (onLockStateChanged newState) m
      = if m.isEnabled then
          match newState with
          | .locked =>
            { m with
              lockState := .locked, countdownTimer := none, retryTimer := none
              status := .locked }
          | .unlocked =>
            if m.doorContactState = .open then
              { m with
                lockState := .unlocked, countdownTimer := none, retryTimer := none
                status := .pausedDoorOpen }
            else
              { m with
                lockState := .unlocked, countdownTimer := armed m.lockDelay, retryTimer := none
                status := if supportsDelay m.lockDelay then .countingDown else m.status }
          | .jammed =>
            if m.retryOnFailure then
              { m with
                lockState := .jammed, countdownTimer := none
                retryTimer := armed m.retryDelaySeconds, status := .jammedRetry }
            else
              { m with
                lockState := .jammed, countdownTimer := none, retryTimer := none, status := .idle }
          | .unknown => { m with lockState := .unknown }
        else disabledBy m newState m.doorContactState := by
  cases hen : m.isEnabled with
  | false => simp [after, onLockStateChanged, hen, disabledBy]
  | true =>
    cases newState with
    | locked => simp [after, onLockStateChanged, hen]
    | unlocked =>
      cases hdoor : m.doorContactState with
      | «open» => simp [after, onLockStateChanged, hen, hdoor]
      | closed =>
        -- The delay does not depend on what has been written before the timer is armed.
        by_cases h : supportsDelay (if m.isNight then m.nightSeconds else m.daySeconds) = true <;>
          simp [after, onLockStateChanged, hen, hdoor, exec_armCountdownTimer, armed, lockDelay, h]
    | jammed =>
      cases hretry : m.retryOnFailure with
      | false => simp [after, onLockStateChanged, hen, hretry]
      | true =>
        cases h : supportsDelay m.retryDelaySeconds <;>
          simp [after, onLockStateChanged, hen, hretry, exec_armRetryTimer, armed, h]
    | unknown => simp [after, onLockStateChanged, hen]

/-- A report of the lock throws exactly when it has to arm a timer with an unsupported delay. -/
theorem completes_onLockStateChanged (newState : LockState) :
    completes (onLockStateChanged newState) m
      = !(m.isEnabled && match newState with
          | .unlocked => m.doorContactState = .closed && !supportsDelay m.lockDelay
          | .jammed => m.retryOnFailure && !supportsDelay m.retryDelaySeconds
          | _ => false) := by
  cases hen : m.isEnabled with
  | false => simp [completes, onLockStateChanged, hen, Except.isOk, Except.toBool]
  | true =>
    cases newState with
    | locked => simp [completes, onLockStateChanged, hen, Except.isOk, Except.toBool]
    | unlocked =>
      cases hdoor : m.doorContactState with
      | «open» => simp [completes, onLockStateChanged, hen, hdoor, Except.isOk, Except.toBool]
      | closed =>
        by_cases h : supportsDelay (if m.isNight then m.nightSeconds else m.daySeconds) = true <;>
          simp [completes, onLockStateChanged, hen, hdoor, exec_armCountdownTimer, lockDelay, h,
            Except.isOk, Except.toBool]
    | jammed =>
      cases hretry : m.retryOnFailure with
      | false => simp [completes, onLockStateChanged, hen, hretry, Except.isOk, Except.toBool]
      | true =>
        cases h : supportsDelay m.retryDelaySeconds <;>
          simp [completes, onLockStateChanged, hen, hretry, exec_armRetryTimer, h, Except.isOk,
            Except.toBool]
    | unknown => simp [completes, onLockStateChanged, hen, Except.isOk, Except.toBool]

/-- The machine after a report of the contact, by the state of the lock. -/
theorem after_onDoorContactChanged (newState : DoorContactState) :
    after (onDoorContactChanged newState) m
      = if m.isEnabled then
          if m.lockState = .unlocked then
            match newState with
            | .open =>
              { m with
                doorContactState := .open, countdownTimer := none, status := .pausedDoorOpen }
            | .closed =>
              { m with
                doorContactState := .closed, countdownTimer := armed m.lockDelay
                status := if supportsDelay m.lockDelay then .countingDown else m.status }
          else { m with doorContactState := newState }
        else disabledBy m m.lockState newState := by
  cases hen : m.isEnabled with
  | false => simp [after, onDoorContactChanged, hen, disabledBy]
  | true =>
    by_cases hlock : m.lockState = .unlocked
    · cases newState with
      | «open» => simp [after, onDoorContactChanged, hen, hlock]
      | closed =>
        by_cases h : supportsDelay (if m.isNight then m.nightSeconds else m.daySeconds) = true <;>
          simp [after, onDoorContactChanged, hen, hlock, exec_armCountdownTimer, armed, lockDelay,
            h]
    · simp [after, onDoorContactChanged, hen, hlock]

/-- The machine after an attempt that was in flight. -/
theorem after_endLockAttempt (success : Bool) :
    after (endLockAttempt success) m
      = if success then
          { m with
            attempts := m.attempts - 1, lockState := .locked, countdownTimer := none
            retryTimer := none, status := .locked }
        else if m.retryOnFailure then
          { m with
            attempts := m.attempts - 1, retryTimer := armed m.retryDelaySeconds
            status := .jammedRetry }
        else
          { m with
            attempts := m.attempts - 1, countdownTimer := none, retryTimer := none
            status := .idle } := by
  cases success with
  | true => simp [after, endLockAttempt]
  | false =>
    cases hretry : m.retryOnFailure with
    | false => simp [after, endLockAttempt, hretry]
    | true =>
      cases h : supportsDelay m.retryDelaySeconds <;>
        simp [after, endLockAttempt, hretry, exec_armRetryTimer, armed, h]

/-! ### The lock state and the contact after a method -/

/-- A report of the lock writes the lock state. -/
theorem onLockStateChanged_lockState (state : LockState) :
    (after (onLockStateChanged state) m).lockState = state := by
  rw [after_onLockStateChanged]
  split
  · cases state with
    | unlocked => dsimp only; split <;> rfl
    | jammed => dsimp only; split <;> rfl
    | _ => rfl
  · rfl

/-- A report of the lock leaves the contact state. -/
theorem onLockStateChanged_contact (state : LockState) :
    (after (onLockStateChanged state) m).doorContactState = m.doorContactState :=
  onLockStateChanged_frame (framed_contact _) state m rfl

/-- A report of the contact leaves the lock state. -/
theorem onDoorContactChanged_lockState (state : DoorContactState) :
    (after (onDoorContactChanged state) m).lockState = m.lockState := by
  rw [after_onDoorContactChanged]
  split
  · split
    · cases state <;> rfl
    · rfl
  · rfl

/-- A report of the contact writes the contact state. -/
theorem onDoorContactChanged_contact (state : DoorContactState) :
    (after (onDoorContactChanged state) m).doorContactState = state :=
  onDoorContactChanged_frame (framed_contact state) state rfl

/-! ### The settings

No method writes them. -/

/-- No method writes the settings. -/
theorem framed_settings (c : Settings) : Framed fun m => settings m = c := fun _ _ _ _ _ _ h => h

/-- A report of the lock leaves the settings. -/
@[simp] theorem settings_onLockStateChanged (newState : LockState) :
    settings (after (onLockStateChanged newState) m) = settings m :=
  onLockStateChanged_frame (framed_settings _) newState m rfl

/-- A report of the contact leaves the settings. -/
@[simp] theorem settings_onDoorContactChanged (newState : DoorContactState) :
    settings (after (onDoorContactChanged newState) m) = settings m :=
  onDoorContactChanged_frame (framed_settings _) newState rfl

/-- The end of an attempt leaves the settings. -/
@[simp] theorem settings_endLockAttempt (success : Bool) :
    settings (after (endLockAttempt success) m) = settings m :=
  endLockAttempt_frame (framed_settings _) success m rfl

/-- Every event leaves the settings. -/
@[simp] theorem settings_step (e : Event) : settings (step m e) = settings m :=
  step_frame (framed_settings _) rfl e fun _ _ => rfl

end CodeMaster.Proofs.Engine.AutoLockMethods
