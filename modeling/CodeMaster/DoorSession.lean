import CodeMaster.DoorCommands
import CodeMaster.Lib.Replica
import CodeMaster.Ui.DoorStore

/-!
# `CodeMaster.DoorSession`: a browser on the doors page, and the server

`protocol` puts the store of the user interface and the endpoints for doors together. The
`Circumstances` of a request are the signed-in user, the time at the server, the answer of the lock,
and the message of the error that the browser makes of an answer that is not OK. The browser waits
for its answers.

The list of doors says their states. The answer to a request that writes a door is its row, without
the states. The times of a door are left out, and so is `updateDoorState`, which nothing calls.
-/

set_option autoImplicit false

namespace CodeMaster.DoorSession

open CodeMaster.Core CodeMaster.Data CodeMaster.Engine CodeMaster.Web CodeMaster.Ui Exec
open CodeMaster.DoorCommands (Site)

/-- What a request meets at the server. -/
structure Circumstances where
  userName : Option String := none
  utcNow : DateTime
  answer : LockAnswer
  message : String := ""
  deriving DecidableEq, Repr

/-- The requests of the store. -/
inductive Request where
  | list
  | create (body : DoorBody)
  | update (id : String) (body : DoorBody)
  | delete (id : String)
  | unlock (id : String)
  | lock (id : String)
  deriving DecidableEq, Repr

/-- The request as the store keeps it. -/
def Request.toDoorRequest : Request → DoorRequest
  | .list => .list
  | .create _ => .create
  | .update id _ => .update id
  | .delete id => .delete id
  | .unlock id => .unlock id
  | .lock id => .lock id

/-- The actions of the store without a request. -/
inductive PageAction where
  | selectDoor (id : Option String)
  | tickCountdowns
  deriving DecidableEq, Repr

/-! ### The server -/

/-- `LockState.ToString`. -/
def lockStateText : LockState → String
  | .locked => "Locked"
  | .unlocked => "Unlocked"
  | .jammed => "Jammed"
  | .unknown => "Unknown"

/-- `DoorContactState.ToString`. -/
def contactStateText : DoorContactState → String
  | .closed => "Closed"
  | .open => "Open"

/-- A door as JSON. -/
def doorView (door : Core.AccessPoint) : Ui.AccessPoint where
  id := door.id
  name := door.name
  lockProviderType := door.lockProviderType
  lockConfigJson := door.lockConfigJson
  keypadProviderType := door.keypadProviderType
  keypadConfigJson := door.keypadConfigJson
  doorSensorProviderType := door.doorSensorProviderType
  doorSensorConfigJson := door.doorSensorConfigJson
  autoLockEnabled := door.autoLockEnabled
  autoLockDaySeconds := door.autoLockDaySeconds
  autoLockNightSeconds := door.autoLockNightSeconds
  retryOnFailure := door.retryOnFailure

/-- A door in the list. The countdown is always null. -/
def listedDoor (service : DoorOperationService) (door : Core.AccessPoint) : Ui.AccessPoint :=
  { doorView door with
    lockState := some (lockStateText (service.getDoorLockStateAsync door.id))
    contactState := some (contactStateText (service.getDoorContactStateAsync door.id))
    remainingCountdownSeconds := some none }

/-- The answer that an action's result comes to. -/
def toAnswer {α : Type} (value : α → DoorAnswer) (message : String) : ActionResult α → DoorAnswer
  | .ok a | .created a => value a
  | .noContent => .done
  | .notFound _ | .badRequest _ => .error message

/-- The site with another database. -/
def withDb (s : Site) (db : Db) : Site := { s with service := { s.service with db } }

/-- Run an action of the controller. An exception is answered with an error, and what the action has
written before stays. -/
def run {α : Type} (action : AccessPointsController.Action (ActionResult α))
    (value : α → DoorAnswer) (message : String) (s : Site) : DoorAnswer × Site :=
  match action.exec s.service.db with
  | (.ok result, db) => (toAnswer value message result, withDb s db)
  | (.error _, db) => (.error message, withDb s db)

/-- Run a command. Only its success is answered with OK. -/
def runCommand (command : DoorCommands.Command DoorCommands.DoorResult) (message : String)
    (s : Site) : DoorAnswer × Site :=
  match command.exec s with
  | (.ok (.ok _ _), s') => (.done, s')
  | (_, s') => (.error message, s')

variable [Host]

/-- `GetAll`: the doors, with the states that the service has of them. -/
def getAll (service : DoorOperationService) : List Ui.AccessPoint :=
  (AccessPointRepository.getAllAsync service.db).map (listedDoor service)

/-- The entries of the audit log go with the row of their door. -/
def delete (id : String) (message : String) (s : Site) : DoorAnswer × Site :=
  let (answer, s') := run (AccessPointsController.delete id) (fun _ => .done) message s
  match answer with
  | .done =>
    (.done, { s' with accessLogs := s'.accessLogs.delete fun row => row.accessPointId = id })
  | answer => (answer, s')

/-- What a command meets at the server. -/
def Circumstances.toCommand (c : Circumstances) : DoorCommands.Circumstances where
  userName := c.userName
  utcNow := c.utcNow
  answer := c.answer

/-- The server answers a request. -/
def serve (request : Request) (c : Circumstances) (s : Site) : DoorAnswer × Site :=
  match request with
  | .list => (.doors (getAll s.service), s)
  | .create body =>
    run (AccessPointsController.postDoor body c.utcNow) (fun door => .door (doorView door))
      c.message s
  | .update id body =>
    run (AccessPointsController.putDoor id body c.utcNow) (fun door => .door (doorView door))
      c.message s
  | .delete id => delete id c.message s
  | .unlock id => runCommand (DoorCommands.unlock id none c.toCommand) c.message s
  | .lock id => runCommand (DoorCommands.lock id c.toCommand) c.message s

/-! ### The browser -/

/-- The part of an action before the answer. -/
def send (request : Request) (state : DoorState) : DoorState :=
  match request with
  | .unlock id | .lock id => state.startCommand id
  | _ => state.load

/-- An action without a request. -/
def act (action : PageAction) (state : DoorState) : DoorState :=
  match action with
  | .selectDoor id => state.selectDoor id
  | .tickCountdowns => state.tickCountdowns

/-- The part of an action after the answer. -/
def settle (request : Request) (answer : DoorAnswer) (state : DoorState) : DoorState :=
  (DoorSystem.settle state request.toDoorRequest answer).getD state

/-- The store sends requests, and settles the answers of the server. -/
def protocol : Replica.Protocol Site DoorState Request Circumstances PageAction DoorAnswer where
  serve := serve
  send := send
  act := act
  settle := settle

end CodeMaster.DoorSession
