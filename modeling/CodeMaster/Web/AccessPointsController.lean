import CodeMaster.Engine.DoorOperationService
import CodeMaster.Web.UsersController

/-!
# `CodeMaster.Web.AccessPointsController`: the endpoints that write doors

`create`, `update` and `delete` write the row of a door and nothing else: no action tells the
service about new settings or about a deletion. `step` puts the requests that store a door and the
steps of the service into one run.
-/

set_option autoImplicit false

namespace CodeMaster.Web

open CodeMaster.Core

/-- The JSON of a door. The action overwrites the id and the two times, so they are left out. -/
structure DoorBody where
  name : Option String := none
  lockProviderType : Option String := none
  lockConfigJson : Option String := none
  keypadProviderType : Option (Option String) := none
  keypadConfigJson : Option (Option String) := none
  doorSensorProviderType : Option (Option String) := none
  doorSensorConfigJson : Option (Option String) := none
  autoLockEnabled : Option Bool := none
  autoLockDaySeconds : Option Int := none
  autoLockNightSeconds : Option Int := none
  retryOnFailure : Option Bool := none
  deriving DecidableEq, Repr

/-- The deserialized door. `guid` and `utcNow` are what the initializers produced. -/
def DoorBody.toAccessPoint (body : DoorBody) (guid : String) (utcNow : DateTime) :
    AccessPoint where
  id := guid
  name := body.name.getD ""
  lockProviderType := body.lockProviderType.getD ""
  lockConfigJson := body.lockConfigJson.getD "{}"
  keypadProviderType := body.keypadProviderType.join
  keypadConfigJson := body.keypadConfigJson.join
  doorSensorProviderType := body.doorSensorProviderType.join
  doorSensorConfigJson := body.doorSensorConfigJson.join
  autoLockEnabled := body.autoLockEnabled.getD true
  autoLockDaySeconds := body.autoLockDaySeconds.getD 300
  autoLockNightSeconds := body.autoLockNightSeconds.getD 60
  retryOnFailure := body.retryOnFailure.getD true
  createdAt := utcNow
  updatedAt := utcNow

namespace AccessPointsController

open Data CodeMaster.Engine Exec

/-- A program over the database. -/
abbrev Action := Exec SqliteException Db

/-- The message for a door that is not stored. -/
def doorNotFound (id : String) : String := "Door '" ++ id ++ "' not found"

/-- `Update` of a stored door. The body takes the place of the row, but for the id and the time of
the creation. -/
def update (id : String) (door : AccessPoint) (utcNow : DateTime) :
    Action (ActionResult AccessPoint) := do
  match ← query fun db => AccessPointRepository.getByIdAsync db id with
  | none => return .notFound (doorNotFound id)
  | some existing =>
    -- The name is not checked here.
    let door := { door with id := id, updatedAt := utcNow, createdAt := existing.createdAt }
    modify (AccessPointRepository.updateAsync door)
    return .ok door

/-- `Delete` of a stored door. -/
def delete (id : String) : Action (ActionResult Unit) := do
  match ← query fun db => AccessPointRepository.getByIdAsync db id with
  | none => return .notFound (doorNotFound id)
  | some _ =>
    -- Only the store changes: the door's machine and its timers stay as they are.
    modify (AccessPointRepository.deleteAsync id)
    return .noContent

variable [Host]

/-- `Create`. A blank name is refused. -/
def create (door : AccessPoint) (utcNow : DateTime) : Action (ActionResult AccessPoint) := do
  if isNullOrWhiteSpace (some door.name) then
    return .badRequest "Door name is required"
  let guid ← query Db.newGuid
  let door :=
    { door with
      id := if isNullOrWhiteSpace (some door.id) then guid else door.id
      createdAt := utcNow
      updatedAt := utcNow }
  statement (AccessPointRepository.insertAsync door)
  return .created door

/-- `POST`: the JSON is deserialized, and the action runs. -/
def postDoor (body : DoorBody) (utcNow : DateTime) : Action (ActionResult AccessPoint) := do
  let guid ← query Db.newGuid
  create (body.toAccessPoint guid utcNow) utcNow

/-- `PUT {id}`: the JSON is deserialized, and the action runs. -/
def putDoor (id : String) (body : DoorBody) (utcNow : DateTime) :
    Action (ActionResult AccessPoint) := do
  let guid ← query Db.newGuid
  update id (body.toAccessPoint guid utcNow) utcNow

/-- A request that writes a door, or a step of the service. -/
inductive Event where
  | create (door : AccessPoint) (utcNow : DateTime)
  | update (id : String) (door : AccessPoint) (utcNow : DateTime)
  | operation (e : DoorOperationService.Event)
  deriving DecidableEq, Repr

/-- One event. The requests write the database, and the machines of the doors stay as they are. -/
def step (s : DoorOperationService) : Event → DoorOperationService
  | .create door utcNow => { s with db := ((create door utcNow).exec s.db).2 }
  | .update id door utcNow => { s with db := ((update id door utcNow).exec s.db).2 }
  | .operation e => s.step e

end AccessPointsController

end CodeMaster.Web
