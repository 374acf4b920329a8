import CodeMaster.Lib.Calls
import CodeMaster.Engine.HardwareSlotSyncWorker

/-!
# `CodeMaster.Engine.HardwareSlotSyncCalls`: the calls of a pass of the slot worker

`HardwareSlotSyncWorker` is the pass as one program, whose result is the world at its end. A
pass that is cut short ends between two of its calls. Here the pass is written over the calls
that it makes on the repositories and on the lock provider, and `perform` is what each call
does. `run_reconcileDoorSlotsAsync` says that this is the same pass.

The reads that select the desired pairs are one call, because no read changes anything.

A `Log` is the list of the calls that a pass makes. `commands` reads the commands to the lock
from it, and `allocatedNumbers` the slot numbers that the pass gives away.
-/

set_option autoImplicit false

namespace CodeMaster.Engine

open CodeMaster.Core Data Exec

/-- The calls of a pass. -/
inductive SlotCall where
  | desiredAssignments (accessPoint : AccessPoint) (now : DateTime)
  | getSlotsForDoorAsync (accessPointId : String)
  | updateSlotSyncStatusAsync (slotId : String) (status : SlotSyncStatus)
  | clearSlotAsync (slotId : String)
  | allocateSlotAsync (accessPointId userId credentialId : String) (slotNumber : Int)
  | setSlotCodeAsync (slotNumber : Int) (pinCode userName : String)
  | clearSlotCodeAsync (slotNumber : Int)
  deriving DecidableEq

/-- What a call answers. -/
@[reducible] def SlotCall.Answer : SlotCall → Type
  | .desiredAssignments _ _ => List (User × Credential)
  | .getSlotsForDoorAsync _ => List HardwareSlot
  | .updateSlotSyncStatusAsync _ _ => Unit
  | .clearSlotAsync _ => Unit
  | .allocateSlotAsync _ _ _ _ => Option HardwareSlot
  | .setSlotCodeAsync _ _ _ => Bool
  | .clearSlotCodeAsync _ => Bool

/-- A program over the calls. -/
abbrev SlotCalls (α : Type) := Calls SlotCall SlotCall.Answer α

namespace SlotCalls

/-- What a call does. -/
def perform [Host] : (c : SlotCall) → Exec SqliteException World c.Answer
  | .desiredAssignments accessPoint now =>
    query fun w => HardwareSlotSyncWorker.desiredAssignments w.db accessPoint now
  | .getSlotsForDoorAsync accessPointId =>
    query fun w => HardwareSlotRepository.getSlotsForDoorAsync w.db accessPointId
  | .updateSlotSyncStatusAsync slotId status =>
    World.update (HardwareSlotRepository.updateSlotSyncStatusAsync slotId status)
  | .clearSlotAsync slotId => World.update (HardwareSlotRepository.clearSlotAsync slotId)
  | .allocateSlotAsync accessPointId userId credentialId slotNumber =>
    HardwareSlotSyncWorker.allocateSlotAsync accessPointId userId credentialId slotNumber
  | .setSlotCodeAsync slotNumber pinCode userName =>
    Engine.setSlotCodeAsync slotNumber pinCode userName
  | .clearSlotCodeAsync slotNumber => Engine.clearSlotCodeAsync slotNumber

/-- The call that selects the wanted credentials of a door. -/
def desiredAssignments (accessPoint : AccessPoint) (now : DateTime) :
    SlotCalls (List (User × Credential)) := Calls.make (SlotCall.desiredAssignments accessPoint now)

/-- The call that lists the slots of a door. -/
def getSlotsForDoorAsync (accessPointId : String) : SlotCalls (List HardwareSlot) :=
  Calls.make (SlotCall.getSlotsForDoorAsync accessPointId)

/-- The call that writes the status of a slot. -/
def updateSlotSyncStatusAsync (slotId : String) (status : SlotSyncStatus) : SlotCalls Unit :=
  Calls.make (SlotCall.updateSlotSyncStatusAsync slotId status)

/-- The call that clears a slot of the table. -/
def clearSlotAsync (slotId : String) : SlotCalls Unit := Calls.make (SlotCall.clearSlotAsync slotId)

/-- The call that allocates a slot. It has no row when the door is not stored. -/
def allocateSlotAsync (accessPointId userId credentialId : String) (slotNumber : Int) :
    SlotCalls (Option HardwareSlot) :=
  Calls.make (SlotCall.allocateSlotAsync accessPointId userId credentialId slotNumber)

/-- The call that writes a code into the lock. -/
def setSlotCodeAsync (slotNumber : Int) (pinCode userName : String) : SlotCalls Bool :=
  Calls.make (SlotCall.setSlotCodeAsync slotNumber pinCode userName)

/-- The call that clears a code in the lock. -/
def clearSlotCodeAsync (slotNumber : Int) : SlotCalls Bool :=
  Calls.make (SlotCall.clearSlotCodeAsync slotNumber)

/-! ### The pass -/

/-- The body of the first loop. -/
def removeObsolete (desired : List (User × Credential)) (slot : HardwareSlot) :
    SlotCalls Unit := do
  let stillDesired := desired.any fun d => HardwareSlotSyncWorker.holds d.1 d.2 slot
  if !stillDesired then
    updateSlotSyncStatusAsync slot.id .deleting
    let cleared ← clearSlotCodeAsync slot.slotNumber
    if cleared then
      clearSlotAsync slot.id
      updateSlotSyncStatusAsync slot.id .synced
    else
      updateSlotSyncStatusAsync slot.id .error

/-- The body of the second loop. -/
def addOrUpdate (accessPoint : AccessPoint) (currentSlots : List HardwareSlot)
    (d : User × Credential) : SlotCalls (List HardwareSlot) := do
  let (user, cred) := d
  match currentSlots.find? (HardwareSlotSyncWorker.holds user cred) with
  | some existingSlot =>
    if existingSlot.syncStatus ≠ .synced then
      updateSlotSyncStatusAsync existingSlot.id .adding
      let setOk ← setSlotCodeAsync existingSlot.slotNumber
        (HardwareSlotSyncWorker.pinCode cred) user.name
      updateSlotSyncStatusAsync existingSlot.id (if setOk then .synced else .error)
    return currentSlots
  | none =>
    match HardwareSlotSyncWorker.freeSlotNumber currentSlots with
    | none => return currentSlots
    | some freeSlotNumber =>
      -- The row is stored as synced here, before the lock gets the code.
      match ← allocateSlotAsync accessPoint.id user.id cred.id freeSlotNumber with
      | none => return currentSlots
      | some allocatedSlot =>
        updateSlotSyncStatusAsync allocatedSlot.id .adding
        let setOk ← setSlotCodeAsync freeSlotNumber (HardwareSlotSyncWorker.pinCode cred) user.name
        if setOk then
          updateSlotSyncStatusAsync allocatedSlot.id .synced
          return currentSlots ++ [allocatedSlot]
        else
          updateSlotSyncStatusAsync allocatedSlot.id .error
          return currentSlots

/-- A whole pass, as a tree of calls. The branches are those of `HardwareSlotSyncWorker`. -/
def reconcileDoorSlotsAsync (accessPoint : AccessPoint) (capabilities : LockCapabilities)
    (now : DateTime) : SlotCalls Unit := do
  if capabilities.hasFlag .userCodes then
    let desired ← desiredAssignments accessPoint now
    let currentSlots ← getSlotsForDoorAsync accessPoint.id
    forM (currentSlots.filter fun s => !isNullOrEmpty s.userId) (removeObsolete desired)
    let currentSlots ← getSlotsForDoorAsync accessPoint.id
    discard (desired.foldlM (addOrUpdate accessPoint) currentSlots)

/-! ### The same pass -/

section
variable [Host]

/-- The selection is made when the call runs. -/
@[simp] theorem run_desiredAssignments (accessPoint : AccessPoint) (now : DateTime) :
    Calls.run perform (desiredAssignments accessPoint now)
      = query fun w => HardwareSlotSyncWorker.desiredAssignments w.db accessPoint now :=
  Calls.run_make perform (SlotCall.desiredAssignments accessPoint now)

/-- The slots are listed when the call runs. -/
@[simp] theorem run_getSlotsForDoorAsync (accessPointId : String) :
    Calls.run perform (getSlotsForDoorAsync accessPointId)
      = query fun w => HardwareSlotRepository.getSlotsForDoorAsync w.db accessPointId :=
  Calls.run_make perform (SlotCall.getSlotsForDoorAsync accessPointId)

/-- The status is written when the call runs. -/
@[simp] theorem run_updateSlotSyncStatusAsync (slotId : String) (status : SlotSyncStatus) :
    Calls.run perform (updateSlotSyncStatusAsync slotId status)
      = World.update (HardwareSlotRepository.updateSlotSyncStatusAsync slotId status) :=
  Calls.run_make perform (SlotCall.updateSlotSyncStatusAsync slotId status)

/-- The slot is cleared when the call runs. -/
@[simp] theorem run_clearSlotAsync (slotId : String) :
    Calls.run perform (clearSlotAsync slotId)
      = World.update (HardwareSlotRepository.clearSlotAsync slotId) :=
  Calls.run_make perform (SlotCall.clearSlotAsync slotId)

/-- The slot is allocated when the call runs. -/
@[simp] theorem run_allocateSlotAsync (accessPointId userId credentialId : String)
    (slotNumber : Int) :
    Calls.run perform (allocateSlotAsync accessPointId userId credentialId slotNumber)
      = HardwareSlotSyncWorker.allocateSlotAsync accessPointId userId credentialId slotNumber :=
  Calls.run_make perform (SlotCall.allocateSlotAsync accessPointId userId credentialId slotNumber)

/-- The code is written when the call runs. -/
@[simp] theorem run_setSlotCodeAsync (slotNumber : Int) (pinCode userName : String) :
    Calls.run perform (setSlotCodeAsync slotNumber pinCode userName)
      = Engine.setSlotCodeAsync slotNumber pinCode userName :=
  Calls.run_make perform (SlotCall.setSlotCodeAsync slotNumber pinCode userName)

/-- The code is cleared when the call runs. -/
@[simp] theorem run_clearSlotCodeAsync (slotNumber : Int) :
    Calls.run perform (clearSlotCodeAsync slotNumber) = Engine.clearSlotCodeAsync slotNumber :=
  Calls.run_make perform (SlotCall.clearSlotCodeAsync slotNumber)

/-- The first loop, run call by call, is the worker's first loop. -/
theorem run_removeObsolete (desired : List (User × Credential)) (slot : HardwareSlot) :
    Calls.run perform (removeObsolete desired slot)
      = HardwareSlotSyncWorker.removeObsolete desired slot := by
  unfold removeObsolete HardwareSlotSyncWorker.removeObsolete
  simp

/-- The second loop, run call by call, is the worker's second loop. -/
theorem run_addOrUpdate (accessPoint : AccessPoint) (currentSlots : List HardwareSlot)
    (d : User × Credential) :
    Calls.run perform (addOrUpdate accessPoint currentSlots d)
      = HardwareSlotSyncWorker.addOrUpdate accessPoint currentSlots d := by
  obtain ⟨user, cred⟩ := d
  unfold addOrUpdate HardwareSlotSyncWorker.addOrUpdate
  dsimp only
  cases currentSlots.find? (HardwareSlotSyncWorker.holds user cred) with
  | some existingSlot => simp
  | none =>
    cases HardwareSlotSyncWorker.freeSlotNumber currentSlots with
    | none => rfl
    | some freeSlotNumber =>
      dsimp only
      rw [Calls.run_bind, run_allocateSlotAsync]
      refine congrArg (_ >>= ·) (funext fun allocated => ?_)
      cases allocated with
      | none => rfl
      | some allocatedSlot => simp

/-- The pass over its calls is the pass of the slot worker. -/
theorem run_reconcileDoorSlotsAsync (accessPoint : AccessPoint) (capabilities : LockCapabilities)
    (now : DateTime) :
    Calls.run perform (reconcileDoorSlotsAsync accessPoint capabilities now)
      = HardwareSlotSyncWorker.reconcileDoorSlotsAsync accessPoint capabilities now := by
  unfold reconcileDoorSlotsAsync HardwareSlotSyncWorker.reconcileDoorSlotsAsync
  simp [Calls.run_forM, Calls.run_foldlM, run_removeObsolete, run_addOrUpdate]

/-- The world at the end of a pass is one of the states of its calls. -/
theorem reconcileDoorSlotsAsync_mem_states (accessPoint : AccessPoint)
    (capabilities : LockCapabilities) (now : DateTime) (w : World) :
    ((HardwareSlotSyncWorker.reconcileDoorSlotsAsync accessPoint capabilities now).exec w).2
      ∈ Calls.states perform (reconcileDoorSlotsAsync accessPoint capabilities now) w := by
  rw [← run_reconcileDoorSlotsAsync]
  exact Calls.state_mem_states _ w

end

/-! ### The log of a pass -/

/-- The commands that change a slot of the lock. -/
inductive LockCommand where
  | set (slotNumber : Int)
  | clear (slotNumber : Int)
  deriving DecidableEq, Repr

/-- The calls of a pass, each with the world before it. -/
abbrev Log := List (SlotCall × World)

/-- The command of a call, with the answer of the provider. -/
def command : SlotCall × World → Option (LockCommand × Bool)
  | (.setSlotCodeAsync slotNumber pinCode _, w) =>
    some (.set slotNumber, (w.callProvider slotNumber (some pinCode)).1)
  | (.clearSlotCodeAsync slotNumber, w) =>
    some (.clear slotNumber, (w.callProvider slotNumber none).1)
  | _ => none

/-- The commands to the lock in a log, with their answers. -/
def commands (log : Log) : List (LockCommand × Bool) := log.filterMap command

/-- The slot number that a call allocates. -/
def allocatedNumber : SlotCall × World → Option Int
  | (.allocateSlotAsync _ _ _ slotNumber, _) => some slotNumber
  | _ => none

/-- The slot numbers of the `AllocateSlotAsync` calls in a log. -/
def allocatedNumbers (log : Log) : List Int := log.filterMap allocatedNumber

/-- The commands of a log after one more call. -/
@[simp] theorem mem_commands_append {log : Log} {e : SlotCall × World} {c : LockCommand × Bool} :
    c ∈ commands (log ++ [e]) ↔ c ∈ commands log ∨ command e = some c := by
  simp [commands]

/-- The allocated numbers of a log after one more call. -/
@[simp] theorem mem_allocatedNumbers_append {log : Log} {e : SlotCall × World} {n : Int} :
    n ∈ allocatedNumbers (log ++ [e]) ↔ n ∈ allocatedNumbers log ∨ allocatedNumber e = some n := by
  simp [allocatedNumbers]

end SlotCalls

end CodeMaster.Engine
