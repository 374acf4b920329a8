import CodeMaster.Administration
import CodeMaster.Data.AuditLogRepository
import CodeMaster.Engine.AccessPolicyEvaluator
import CodeMaster.Web.AccessPointsController

/-!
# `CodeMaster.Server`: everything that writes a table

A `Server` is a `Site` with its audit log. An `Event` is an event of `Administration`, another
request or tool that writes a table, an evaluation of a keypad event, an entry of the audit log, or
a pass of the slot worker whose provider calls may fail. `step` runs an event to its end.
-/

set_option autoImplicit false

namespace CodeMaster

open CodeMaster.Core Data Engine Web Mcp Exec
open Administration (Site)

/-- The server: the database, the locks and the audit log. -/
structure Server extends Site where
  accessLogs : AccessLogs := .empty

namespace Server

/-- What happens at the server. -/
inductive Event where
  | administration (e : Administration.Event)
  | savePolicy (id : String) (policy : AccessPolicy)
  | createGuestPin (arguments : Option JsonElement) (utcNow : DateTime)
  | createDoor (door : AccessPoint) (utcNow : DateTime)
  | updateDoor (id : String) (door : AccessPoint) (utcNow : DateTime)
  | deleteDoor (id : String)
  | evaluate (keypadEvent : KeypadEventDto) (accessPoint : AccessPoint)
      (evaluationTimeUtc : Option DateTime)
  | insertLog (log : AccessLog)
  /-- A pass over the door whose provider calls report `outcomes`. -/
  | pass (accessPointId : String) (outcomes : List Bool) (now : DateTime)

variable [Host]

/-- Run an action on the database. What it has written stays when it throws. -/
def run {ε α : Type} (s : Server) (action : Exec ε Db α) : Server :=
  { s with db := (action.exec s.db).2 }

/-- The entries of the audit log go with the row of their door. -/
def deleteDoor (id : String) (s : Server) : Server :=
  match s.db.accessPoints.find? id with
  | none => s
  | some _ =>
    { s.run (AccessPointsController.delete id) with
      accessLogs := s.accessLogs.delete fun row => row.accessPointId = id }

/-- An entry of the audit log is inserted, unless SQLite refuses it. -/
def insertLog (log : AccessLog) (s : Server) : Server :=
  match AuditLogRepository.insertAsync log s.db s.accessLogs with
  | .ok accessLogs => { s with accessLogs }
  | .error _ => s

/-- A pass over a stored door. -/
def pass (capabilities : String → LockCapabilities) (accessPointId : String)
    (outcomes : List Bool) (now : DateTime) (s : Server) : Server :=
  match s.db.accessPoints.find? accessPointId with
  | none => s
  | some accessPoint =>
    let w := ((HardwareSlotSyncWorker.reconcileDoorSlotsAsync accessPoint
      (capabilities accessPointId) now).exec
        { db := s.db, lock := s.locks accessPointId, outcomes }).2
    { s with
      db := w.db
      locks := Function.update s.locks accessPointId w.lock }

/-- One event at the server. `capabilities` are those of the doors' lock providers. -/
def step (capabilities : String → LockCapabilities) (s : Server) : Event → Server
  | .administration e => { s with toSite := s.toSite.step capabilities e }
  | .savePolicy id policy => s.run (UsersController.savePolicy id policy)
  | .createGuestPin arguments utcNow =>
    { s with db := (DoorTools.createGuestPin arguments utcNow s.db).2 }
  | .createDoor door utcNow => s.run (AccessPointsController.create door utcNow)
  | .updateDoor id door utcNow => s.run (AccessPointsController.update id door utcNow)
  | .deleteDoor id => s.deleteDoor id
  | .evaluate keypadEvent accessPoint evaluationTimeUtc =>
    { s with
      db := (AccessPolicyEvaluator.evaluateAsync keypadEvent accessPoint evaluationTimeUtc
        s.db).2 }
  | .insertLog log => s.insertLog log
  | .pass accessPointId outcomes now => s.pass capabilities accessPointId outcomes now

end Server

end CodeMaster
