import CodeMaster.Data.Repositories
import CodeMaster.Engine.AutoLockStateMachine

/-!
# `CodeMaster.Engine.DoorOperationService`: commands, reports and timers of the doors

The service keeps three static dictionaries: the last known lock state and contact state of a
door, and the door's auto-lock machine. A machine is created when the door is first unlocked
by a command, and it keeps the settings that it was created with.

The methods are programs over the store and the dictionaries. When the lock provider or
`CreateTimer` throws, a method stops and leaves what it has done. The lock's answer to a
command is an argument.

`step` is one method call, the expiry of an armed timer, or the end of a lock attempt that a
timer has started.
-/

set_option autoImplicit false

namespace CodeMaster.Engine

open CodeMaster.Core Data Exec

/-- The store behind `_doorRepo`, and the static dictionaries. -/
structure DoorOperationService where
  db : Db := {}
  lockStates : String → Option LockState := fun _ => none
  contactStates : String → Option DoorContactState := fun _ => none
  autoLockStateMachines : String → Option AutoLockStateMachine := fun _ => none

/-- What a method of the service can throw. -/
inductive DoorOperationException where
  | lockProvider
  | argumentOutOfRange
  deriving DecidableEq, Repr

/-- What a call of `ILockProvider` comes to. -/
inductive LockAnswer where
  | returned (success : Bool)
  | threw
  deriving DecidableEq, Repr

namespace DoorOperationService

/-- A method of the service. -/
abbrev Operation (α : Type) := Exec DoorOperationException DoorOperationService α

/-- The lock state of a door. A door that nothing was reported of counts as locked. -/
def getDoorLockStateAsync (s : DoorOperationService) (doorId : String) : LockState :=
  (s.lockStates doorId).getD .locked

/-- The contact state of a door. A door that nothing was reported of counts as closed. -/
def getDoorContactStateAsync (s : DoorOperationService) (doorId : String) : DoorContactState :=
  (s.contactStates doorId).getD .closed

/-- `provider.LockAsync` or `provider.UnlockAsync`. -/
def callProvider : LockAnswer → Operation Bool
  | .returned success => pure success
  | .threw => throw .lockProvider

/-- The lock state of a door is written. -/
def setLockState (doorId : String) (state : LockState) : Operation Unit :=
  modify fun s => { s with lockStates := Function.update s.lockStates doorId (some state) }

/-- The contact state of a door is written. -/
def setContactState (doorId : String) (state : DoorContactState) : Operation Unit :=
  modify fun s => { s with contactStates := Function.update s.contactStates doorId (some state) }

/-- The machine of a door is written. -/
def setMachine (s : DoorOperationService) (doorId : String) (m : AutoLockStateMachine) :
    DoorOperationService :=
  { s with autoLockStateMachines := Function.update s.autoLockStateMachines doorId (some m) }

/-- Call a method of the door's machine, if the door has one. -/
def callMachine (doorId : String) (method : AutoLockStateMachine.Method) : Operation Unit :=
  fun s =>
    match s.autoLockStateMachines doorId with
    | none => (.ok (), s)
    | some m =>
      match method.exec m with
      | (.ok (), m') => (.ok (), s.setMachine doorId m')
      | (.error _, m') => (.error .argumentOutOfRange, s.setMachine doorId m')

/-- The machine of a door is looked up, and made with the settings of the row when there is none. -/
def getOrCreateStateMachine (door : AccessPoint) : Operation Unit :=
  modify fun s => s.setMachine door.id
    ((s.autoLockStateMachines door.id).getD (.ofAccessPoint door))

/-- `durationMinutes.Value * 60`, which wraps around. -/
def durationSeconds (minutes : BitVec 32) : Int := (minutes * 60).toInt

/-- The delays that `UnlockDoorAsync` writes for a positive duration. -/
def setDuration (durationMinutes : Option (BitVec 32)) : AutoLockStateMachine.Method :=
  modify fun m =>
    match durationMinutes with
    | none => m
    | some minutes =>
      if 0 < minutes.toInt then
        { m with daySeconds := durationSeconds minutes, nightSeconds := durationSeconds minutes }
      else m

/-- `UnlockDoorAsync`. The state of the door and its machine change only after the lock has
confirmed. -/
def unlockDoorAsync (doorId : String) (durationMinutes : Option (BitVec 32))
    (answer : LockAnswer) : Operation Bool := do
  match ← query fun s => AccessPointRepository.getByIdAsync s.db doorId with
  | none => return false
  | some door =>
    let success ← callProvider answer
    if success then
      setLockState doorId .unlocked
      getOrCreateStateMachine door
      -- The durations stay in the machine: nothing writes the stored settings back.
      callMachine doorId (setDuration durationMinutes)
      callMachine doorId (AutoLockStateMachine.onLockStateChanged .unlocked)
    return success

/-- `LockDoorAsync`. The state of the door and its machine change only after the lock has
confirmed. -/
def lockDoorAsync (doorId : String) (answer : LockAnswer) : Operation Bool := do
  match ← query fun s => AccessPointRepository.getByIdAsync s.db doorId with
  | none => return false
  | some _ =>
    let success ← callProvider answer
    if success then
      setLockState doorId .locked
      callMachine doorId (AutoLockStateMachine.onLockStateChanged .locked)
    return success

/-- The part of `UpdateDoorStates` about the lock. A door without a machine does not get one. -/
def updateLockState (doorId : String) : Option LockState → Operation Unit
  | none => pure ()
  | some state => do
    setLockState doorId state
    callMachine doorId (AutoLockStateMachine.onLockStateChanged state)

/-- The part of `UpdateDoorStates` about the contact. -/
def updateContactState (doorId : String) : Option DoorContactState → Operation Unit
  | none => pure ()
  | some state => do
    setContactState doorId state
    callMachine doorId (AutoLockStateMachine.onDoorContactChanged state)

/-- `UpdateDoorStates`: a report of the lock, and then a report of the contact. -/
def updateDoorStates (doorId : String) (lockState : Option LockState)
    (contactState : Option DoorContactState) : Operation Unit := do
  updateLockState doorId lockState
  updateContactState doorId contactState

/-- The end of a lock attempt: the machine's callback is `LockDoorAsync`, and an exception
counts as a failure. -/
def endLockAttempt (doorId : String) (answer : LockAnswer) : Operation Unit := do
  let success ← try lockDoorAsync doorId answer catch _ => pure false
  callMachine doorId (AutoLockStateMachine.endLockAttempt success)

/-- What can happen to the service. -/
inductive Event where
  | unlock (doorId : String) (durationMinutes : Option (BitVec 32)) (answer : LockAnswer)
  | lock (doorId : String) (answer : LockAnswer)
  | updateDoorStates (doorId : String) (lockState : Option LockState)
      (contactState : Option DoorContactState)
  | countdownExpired (doorId : String)
  | retryExpired (doorId : String)
  | lockAttemptEnded (doorId : String) (answer : LockAnswer)
  deriving DecidableEq, Repr

/-- The door that the event is about. -/
def Event.doorId : Event → String
  | .unlock doorId _ _ | .lock doorId _ | .updateDoorStates doorId _ _ | .countdownExpired doorId
  | .retryExpired doorId | .lockAttemptEnded doorId _ => doorId

/-- The machine of the door has to allow the event: a timer has to be armed to expire, and an
attempt has to be in flight to end. -/
def allows (s : DoorOperationService) (doorId : String) (e : AutoLockStateMachine.Event) : Bool :=
  (s.autoLockStateMachines doorId).any fun m => m.enabled e

/-- One step. An expiry or an end that cannot happen leaves the service. -/
def step (s : DoorOperationService) : Event → DoorOperationService
  | .unlock doorId durationMinutes answer =>
    ((unlockDoorAsync doorId durationMinutes answer).exec s).2
  | .lock doorId answer => ((lockDoorAsync doorId answer).exec s).2
  | .updateDoorStates doorId lockState contactState =>
    ((updateDoorStates doorId lockState contactState).exec s).2
  | .countdownExpired doorId =>
    if s.allows doorId .countdownExpired then
      ((callMachine doorId AutoLockStateMachine.triggerCountdownExpired).exec s).2
    else s
  | .retryExpired doorId =>
    if s.allows doorId .retryExpired then
      ((callMachine doorId AutoLockStateMachine.triggerRetryExpired).exec s).2
    else s
  | .lockAttemptEnded doorId answer =>
    if s.allows doorId (.lockAttemptEnded true) then ((endLockAttempt doorId answer).exec s).2
    else s

end DoorOperationService

end CodeMaster.Engine
