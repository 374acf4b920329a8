import CodeMaster.Lib.Exec
import CodeMaster.Lib.FirstFree
import CodeMaster.Data.Repositories

/-!
# `CodeMaster.Engine.HardwareSlotSyncWorker`: the slots of a lock

`reconcileDoorSlotsAsync` brings the slot table of a door and the code memory of its lock to
the users that may enter at the check time. It clears the slots of pairs that are no longer
desired, re-reads the table, and gives each desired pair a slot.

The `World` of a pass is the database and the lock. A provider call reports success or not.
A successful call takes effect on the lock's memory, and a call without success leaves it.
`outcomes` are the reports of the calls to come; further calls succeed.
-/

set_option autoImplicit false

namespace CodeMaster.Engine

open CodeMaster.Core Data Relational Exec

/-- The database, the code that each slot of the lock holds, and the reports of the
provider's next calls. -/
structure World where
  db : Db
  lock : Int → Option String := fun _ => none
  outcomes : List Bool := []

namespace World

/-- A statement on the database. -/
def onDb (f : Db → Except SqliteException Db) : Exec SqliteException World Unit :=
  statement fun w =>
    match f w.db with
    | .ok db => .ok { w with db }
    | .error e => .error e

/-- A statement on the database of the world. -/
def update (f : Db → Db) : Exec SqliteException World Unit := modify fun w => { w with db := f w.db }

/-- Write a slot of the lock's memory, if the next call succeeds. -/
def callProvider (slotNumber : Int) (code : Option String) (w : World) : Bool × World :=
  let success := w.outcomes.headD true
  (success,
    { w with
      lock := if success then Function.update w.lock slotNumber code else w.lock
      outcomes := w.outcomes.tail })

end World

/-- `ILockProvider.SetSlotCodeAsync`. The name is a label for the lock's own display. -/
def setSlotCodeAsync (slotNumber : Int) (pinCode : String) (_userName : String) :
    Exec SqliteException World Bool :=
  fun w => let (success, w') := w.callProvider slotNumber (some pinCode); (.ok success, w')

/-- `ILockProvider.ClearSlotCodeAsync`. -/
def clearSlotCodeAsync (slotNumber : Int) : Exec SqliteException World Bool :=
  fun w => let (success, w') := w.callProvider slotNumber none; (.ok success, w')

namespace HardwareSlotSyncWorker

/-- The branches that select the policies of a user at the door. -/
def policiesAt (userPolicies doorPolicies : List AccessPolicy) : List AccessPolicy :=
  if doorPolicies.length > 0 ∧ userPolicies.length > 0 then
    let intersection := userPolicies.filter fun up => doorPolicies.any fun dp => dp.id = up.id
    if intersection.length > 0 then intersection else userPolicies
  else if userPolicies.length > 0 then userPolicies
  else doorPolicies

/-- Can the slot worker program the credential? -/
def isPinWithValue (c : Credential) : Bool :=
  c.type = .pin ∧ (!isNullOrEmpty c.encryptedValue || !isNullOrEmpty (some c.hashedValue))

/-- The code that is programmed for a credential. -/
def pinCode (cred : Credential) : String :=
  if !isNullOrEmpty cred.encryptedValue then cred.encryptedValue.getD "" else cred.hashedValue

/-- Does the slot row hold the pair? -/
def holds (user : User) (cred : Credential) (s : HardwareSlot) : Bool :=
  s.userId = some user.id ∧ s.credentialId = some cred.id

variable [Host]

/-- The pairs of a user and a credential that the door should know at `now`. -/
def desiredAssignments (db : Db) (accessPoint : AccessPoint) (now : DateTime) :
    List (User × Credential) :=
  ((UserRepository.getAllAsync db).filter fun u => u.isActive).filterMap fun user =>
    let policies := policiesAt (AccessPolicyRepository.getByUserIdAsync db user.id)
      (AccessPolicyRepository.getByAccessPointIdAsync db accessPoint.id)
    if policies.any fun p => p.isEnabled && p.isActiveAt now then
      ((CredentialRepository.getByUserIdAsync db user.id).find? isPinWithValue).map
        fun pinCred => (user, pinCred)
    else none

/-- The body of the first loop: clear a slot whose pair is not desired. -/
def removeObsolete (desired : List (User × Credential)) (slot : HardwareSlot) :
    Exec SqliteException World Unit := do
  let stillDesired := desired.any fun d => holds d.1 d.2 slot
  if !stillDesired then
    World.update (HardwareSlotRepository.updateSlotSyncStatusAsync slot.id .deleting)
    let cleared ← clearSlotCodeAsync slot.slotNumber
    if cleared then
      World.update (HardwareSlotRepository.clearSlotAsync slot.id)
      World.update (HardwareSlotRepository.updateSlotSyncStatusAsync slot.id .synced)
    else
      -- The row keeps its user, so the next pass finds it again.
      World.update (HardwareSlotRepository.updateSlotSyncStatusAsync slot.id .error)

/-- `AllocateSlotAsync`: the upsert, and the row it leaves. -/
def allocateSlotAsync (accessPointId userId credentialId : String) (slotNumber : Int) :
    Exec SqliteException World (Option HardwareSlot) := do
  World.onDb (HardwareSlotRepository.upsert accessPointId userId credentialId slotNumber)
  query fun w => HardwareSlotRepository.getSlotAsync w.db accessPointId slotNumber

/-- An allocation answers the row that its upsert leaves. -/
theorem exec_allocateSlotAsync {accessPointId userId credentialId : String} {slotNumber : Int}
    {w : World} {db : Db} {slot : HardwareSlot}
    (hupsert : HardwareSlotRepository.upsert accessPointId userId credentialId slotNumber w.db
      = .ok db)
    (hslot : HardwareSlotRepository.getSlotAsync db accessPointId slotNumber = some slot) :
    (allocateSlotAsync accessPointId userId credentialId slotNumber).exec w
      = (.ok (some slot), { w with db }) := by
  have hstatement : (World.onDb (HardwareSlotRepository.upsert accessPointId userId credentialId
      slotNumber)).exec w = (.ok (), { w with db }) := exec_statement_of_ok (by rw [hupsert])
  rw [allocateSlotAsync, exec_bind, hstatement]
  simp only [exec_query, hslot]

/-- An allocation for a stored user, credential and door leaves a synced row at its place, and
answers it. -/
theorem exec_allocateSlotAsync_of_stored {accessPointId userId credentialId : String} {w : World}
    (hdoor : accessPointId ∈ w.db.accessPoints.keys) (huser : userId ∈ w.db.users.keys)
    (hcredential : credentialId ∈ w.db.credentials.keys) (slotNumber : Int) :
    ∃ hardwareSlots r,
      (allocateSlotAsync accessPointId userId credentialId slotNumber).exec w
          = (.ok (some r), { w with db := { w.db with hardwareSlots } })
        ∧ r.userId = some userId ∧ r.credentialId = some credentialId ∧ r.syncStatus = .synced
        ∧ ∀ door n, HardwareSlotRepository.getSlotAsync { w.db with hardwareSlots } door n
            = if door = accessPointId ∧ n = slotNumber then some r
              else HardwareSlotRepository.getSlotAsync w.db door n := by
  obtain ⟨hardwareSlots, r, hupsert, hruser, hrcred, hrstatus, hslots⟩ :=
    @HardwareSlotRepository.upsert_of_stored _ accessPointId userId credentialId slotNumber w.db
      hdoor huser hcredential
  have hr : HardwareSlotRepository.getSlotAsync { w.db with hardwareSlots } accessPointId slotNumber
      = some r := by
    rw [hslots, if_pos ⟨rfl, rfl⟩]
  exact ⟨hardwareSlots, r, exec_allocateSlotAsync hupsert hr, hruser, hrcred, hrstatus, hslots⟩

/-- Any other allocation violates a foreign key, and changes nothing. -/
theorem exec_allocateSlotAsync_of_missing {accessPointId userId credentialId : String} {w : World}
    (h : ¬ (accessPointId ∈ w.db.accessPoints.keys ∧ userId ∈ w.db.users.keys
      ∧ credentialId ∈ w.db.credentials.keys)) (slotNumber : Int) :
    (allocateSlotAsync accessPointId userId credentialId slotNumber).exec w
      = (.error .foreignKey, w) := by
  have hupsert : HardwareSlotRepository.upsert accessPointId userId credentialId slotNumber w.db
      = .error .foreignKey := by
    unfold HardwareSlotRepository.upsert
    exact if_pos (by tauto)
  have hstatement : (World.onDb (HardwareSlotRepository.upsert accessPointId userId credentialId
      slotNumber)).exec w = (.error .foreignKey, w) := exec_statement_of_error (by rw [hupsert])
  rw [allocateSlotAsync, exec_bind, hstatement]

/-- The search for a slot number from 1 to 30 that no row with a user has. -/
def freeSlotNumber (currentSlots : List HardwareSlot) : Option Int :=
  FirstFree.firstFree 1 30
    ((currentSlots.filter fun s => !isNullOrEmpty s.userId).map HardwareSlot.slotNumber)

/-- The body of the second loop: program one desired pair. The list of current slots grows by
the slot that the loop allocates. -/
def addOrUpdate (accessPoint : AccessPoint) (currentSlots : List HardwareSlot)
    (d : User × Credential) : Exec SqliteException World (List HardwareSlot) := do
  let (user, cred) := d
  match currentSlots.find? (holds user cred) with
  | some existingSlot =>
    if existingSlot.syncStatus ≠ .synced then
      World.update (HardwareSlotRepository.updateSlotSyncStatusAsync existingSlot.id .adding)
      let setOk ← setSlotCodeAsync existingSlot.slotNumber (pinCode cred) user.name
      World.update (HardwareSlotRepository.updateSlotSyncStatusAsync existingSlot.id
        (if setOk then .synced else .error))
    return currentSlots
  | none =>
    match freeSlotNumber currentSlots with
    | none => return currentSlots -- All slots are taken, and the source logs an error.
    | some freeSlotNumber =>
      match ← allocateSlotAsync accessPoint.id user.id cred.id freeSlotNumber with
      | none => return currentSlots
      | some allocatedSlot =>
        World.update (HardwareSlotRepository.updateSlotSyncStatusAsync allocatedSlot.id .adding)
        let setOk ← setSlotCodeAsync freeSlotNumber (pinCode cred) user.name
        if setOk then
          World.update (HardwareSlotRepository.updateSlotSyncStatusAsync allocatedSlot.id .synced)
          return currentSlots ++ [allocatedSlot]
        else
          -- The row has the user now, but the list does not get it.
          World.update (HardwareSlotRepository.updateSlotSyncStatusAsync allocatedSlot.id .error)
          return currentSlots

/-- `ReconcileDoorSlotsAsync`: the slots that are not wanted are cleared, and then the wanted
credentials get their slots. A lock without slots is skipped. -/
def reconcileDoorSlotsAsync (accessPoint : AccessPoint) (capabilities : LockCapabilities)
    (now : DateTime) : Exec SqliteException World Unit := do
  if capabilities.hasFlag .userCodes then
    let desired ← query fun w => desiredAssignments w.db accessPoint now
    let currentSlots ← query fun w =>
      HardwareSlotRepository.getSlotsForDoorAsync w.db accessPoint.id
    -- A row without a user is skipped, whatever the lock holds in its slot.
    forM (currentSlots.filter fun s => !isNullOrEmpty s.userId) (removeObsolete desired)
    let currentSlots ← query fun w =>
      HardwareSlotRepository.getSlotsForDoorAsync w.db accessPoint.id
    discard (desired.foldlM (addOrUpdate accessPoint) currentSlots)

end HardwareSlotSyncWorker

end CodeMaster.Engine
