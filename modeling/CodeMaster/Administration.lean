import CodeMaster.Engine.HardwareSlotSyncWorker
import CodeMaster.Web.UsersController
import CodeMaster.Mcp.DoorTools

/-!
# `CodeMaster.Administration`: the server and its locks over a run of requests

A `Site` is the database and the code memory of every door's lock. An `Event` is a request
that administers users, a statement that changes policies or assignments, or a pass of the
slot worker over a door. `step` runs an event to its end: requests and passes do not overlap.
Every call of a provider in a pass succeeds.
-/

set_option autoImplicit false

namespace CodeMaster.Administration

open CodeMaster.Core Data CodeMaster.Engine CodeMaster.Web CodeMaster.Mcp Exec

/-- The statements that change policies and assignments. -/
inductive PolicyChange where
  | insert (policy : AccessPolicy)
  | update (policy : AccessPolicy)
  | delete (id : String)
  | assign (assignment : AccessAssignment)
  | removeAssignment (assignmentId : String)

/-- The statement of a change. -/
def PolicyChange.statement : PolicyChange → Db → Except SqliteException Db
  | .insert policy => AccessPolicyRepository.insertAsync policy
  | .update policy => fun db => .ok (AccessPolicyRepository.updateAsync policy db)
  | .delete id => fun db => .ok (AccessPolicyRepository.deleteAsync id db)
  | .assign assignment => AccessPolicyRepository.assignPolicyAsync assignment
  | .removeAssignment assignmentId => fun db =>
    .ok (AccessPolicyRepository.removeAssignmentAsync assignmentId db)

/-- What happens at a site. `utcNow` and `now` are the times at which it happens. -/
inductive Event where
  | create (request : CreateUserRequest) (utcNow : DateTime)
  | update (id : String) (user : User) (utcNow : DateTime)
  | delete (id : String)
  | setPin (id : String) (request : SetPinRequest) (utcNow : DateTime)
  | deleteCredential (id credentialId : String)
  | revokeUser (arguments : Option JsonElement) (utcNow : DateTime)
  | changePolicy (change : PolicyChange)
  | reconcile (accessPointId : String) (now : DateTime)

/-- The database, and for each door the codes in the slots of its lock. -/
structure Site where
  db : Db
  locks : String → Int → Option String := fun _ _ => none

namespace Site
variable [Host]

/-- Run an action of a controller. What it has written stays when it throws. -/
def run {α : Type} (s : Site) (action : UsersController.Action α) : Site :=
  { s with db := (action.exec s.db).2 }

/-- A pass over a stored door. -/
def reconcile (capabilities : String → LockCapabilities) (s : Site) (accessPointId : String)
    (now : DateTime) : Site :=
  match s.db.accessPoints.find? accessPointId with
  | none => s
  | some accessPoint =>
    let w := ((HardwareSlotSyncWorker.reconcileDoorSlotsAsync accessPoint
      (capabilities accessPointId) now).exec { db := s.db, lock := s.locks accessPointId }).2
    { db := w.db, locks := Function.update s.locks accessPointId w.lock }

/-- One event at the site. `capabilities` are those of the doors' lock providers. -/
def step (capabilities : String → LockCapabilities) (s : Site) : Event → Site
  | .create request utcNow => s.run (UsersController.create request utcNow)
  | .update id user utcNow => s.run (UsersController.update id user utcNow)
  | .delete id => s.run (UsersController.delete id)
  | .setPin id request utcNow => s.run (UsersController.setPin id request utcNow)
  | .deleteCredential id credentialId => s.run (UsersController.deleteCredential id credentialId)
  | .revokeUser arguments utcNow =>
    { s with db := (DoorTools.revokeUser arguments utcNow s.db).2 }
  | .changePolicy change => s.run (statement change.statement)
  | .reconcile accessPointId now => s.reconcile capabilities accessPointId now

end Site

end CodeMaster.Administration
