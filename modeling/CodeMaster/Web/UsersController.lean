import CodeMaster.Lib.Exec
import CodeMaster.Data.Repositories

/-!
# `CodeMaster.Web.UsersController`: the user endpoints

Each action is a program over the database that stops at the first statement that violates a
constraint. The repository calls run one after the other, each on its own connection, and no
transaction spans them, so a stopped action leaves what it has written.

A request body is the object that the JSON deserializer builds. `PolicyBody` and `UserBody` are
the JSON of a policy and of a user before that: a property that the JSON omits keeps its
initializer. An action reads the
clock as `utcNow`.
-/

set_option autoImplicit false

namespace CodeMaster.Web

open CodeMaster.Core Data Exec

/-- What an action answers. -/
inductive ActionResult (α : Type) where
  | notFound (error : String)
  | badRequest (error : String)
  | ok (value : α)
  | created (value : α)
  | noContent
  deriving DecidableEq, Repr

/-- The body of the creation of a user. -/
structure CreateUserRequest where
  id : Option String := none
  name : String := ""
  role : UserRole := .member
  groupId : Option String := none
  pin : Option String := none
  pinLabel : Option String := none
  doorIds : Option (List String) := none
  policy : Option AccessPolicy := none
  deriving DecidableEq, Repr

/-- The body of `SetPin`. A PIN that is missing is blank. -/
structure SetPinRequest where
  pin : String := ""
  label : Option String := some "PIN"
  deriving DecidableEq, Repr

/-- A credential as the endpoints show it, without its values. -/
structure CredentialView where
  id : String
  userId : String
  type : CredentialType
  pinLength : Nat
  label : Option String
  createdAt : DateTime
  deriving DecidableEq, Repr

/-- A user as `GetAll` and `GetById` show it. -/
structure UserView extends User where
  credentials : List CredentialView
  policies : List AccessPolicy
  deriving DecidableEq, Repr

/-- The JSON of a policy. `none` is an omitted property, and the inner `Option` a JSON null. -/
structure PolicyBody where
  id : Option String := none
  name : Option String := none
  scheduleType : Option ScheduleType := none
  daysOfWeek : Option (BitVec 32) := none
  startTime : Option (Option TimeOnly) := none
  endTime : Option (Option TimeOnly) := none
  validFrom : Option (Option DateTime) := none
  validUntil : Option (Option DateTime) := none
  remainingUses : Option (Option Int) := none
  isEnabled : Option Bool := none
  deriving DecidableEq, Repr

/-- The deserialized policy. `guid` is the id that the initializer of `Id` generated. -/
def PolicyBody.toPolicy (body : PolicyBody) (guid : String) : AccessPolicy where
  id := body.id.getD guid
  name := body.name.getD ""
  scheduleType := body.scheduleType.getD .always
  daysOfWeek := body.daysOfWeek.getD 127
  startTime := body.startTime.join
  endTime := body.endTime.join
  validFrom := body.validFrom.join
  validUntil := body.validUntil.join
  remainingUses := body.remainingUses.join
  isEnabled := body.isEnabled.getD true

/-- The JSON of a user. The action overwrites the id and the two times, so they are left out. -/
structure UserBody where
  groupId : Option (Option String) := none
  name : Option String := none
  role : Option UserRole := none
  isActive : Option Bool := none
  deriving DecidableEq, Repr

/-- The deserialized user. `guid` and `utcNow` are what the initializers produced. -/
def UserBody.toUser (body : UserBody) (guid : String) (utcNow : DateTime) : User where
  id := guid
  groupId := body.groupId.join
  name := body.name.getD ""
  role := body.role.getD .member
  isActive := body.isActive.getD true
  createdAt := utcNow
  updatedAt := utcNow

namespace UsersController

/-- A program over the database. -/
abbrev Action := Exec SqliteException Db

/-- The message for a user who is not stored. -/
def userNotFound (id : String) : String := "User '" ++ id ++ "' not found"

variable [Host]

/-- The credential that `Create` and `SetPin` build for a PIN. -/
def pinCredential (guid userId pin : String) (label : Option String) (utcNow : DateTime) :
    Credential where
  id := guid
  userId := userId
  type := .pin
  encryptedValue := some pin
  hashedValue := Host.sha256Hex pin
  pinLength := utf16Length pin
  label := some (label.getD "PIN")
  createdAt := utcNow

/-- The assignment of a policy to a user at a door. -/
def assignment (guid userId policyId doorId : String) : AccessAssignment where
  id := guid
  accessPointId := doorId
  userId := some userId
  policyId := policyId

/-- The part of `Create` that stores the PIN of the request, if there is one. -/
def createCredential (user : User) (request : CreateUserRequest) (utcNow : DateTime) :
    Action Unit := do
  if !isNullOrWhiteSpace request.pin then
    let guid ← query Db.newGuid
    statement (CredentialRepository.insertAsync
      (pinCredential guid user.id (request.pin.getD "") request.pinLabel utcNow))

/-- The part of `Create` that stores the policy of the request, if there is one, and assigns
it at the doors. -/
def createPolicy (user : User) (request : CreateUserRequest) : Action Unit := do
  match request.policy with
  | none => pure ()
  | some body =>
    let guid ← query Db.newGuid
    -- A given id is kept, and the insert fails when it is taken.
    let policy := if isNullOrWhiteSpace (some body.id) then { body with id := guid } else body
    statement (AccessPolicyRepository.insertAsync policy)
    forM (request.doorIds.getD []) fun doorId => do
      let guid ← query Db.newGuid
      statement (AccessPolicyRepository.assignPolicyAsync
        (assignment guid user.id policy.id doorId))

/-- `Create`: the user, then the PIN, and then the policy. A blank id gets a new one, and a blank
name is refused. There is no transaction, so that a failure leaves what was written before it. -/
def create (request : CreateUserRequest) (utcNow : DateTime) : Action (ActionResult User) := do
  if isNullOrWhiteSpace (some request.name) then
    return .badRequest "User name is required"
  let guid ← query Db.newGuid
  let user : User :=
    { id := if isNullOrWhiteSpace request.id then guid else request.id.getD ""
      name := request.name
      role := request.role
      groupId := request.groupId
      isActive := true
      createdAt := utcNow
      updatedAt := utcNow }
  statement (UserRepository.insertAsync user)
  createCredential user request utcNow
  createPolicy user request
  return .created user

/-- `Update` of a stored user. The body takes the place of the row, but for the id and the time of
the creation. -/
def update (id : String) (user : User) (utcNow : DateTime) : Action (ActionResult User) := do
  match ← query fun db => UserRepository.getByIdAsync db id with
  | none => return .notFound (userNotFound id)
  | some existing =>
    let user := { user with id := id, updatedAt := utcNow, createdAt := existing.createdAt }
    statement (UserRepository.updateAsync user)
    return .ok user

/-- `Delete` of a stored user. -/
def delete (id : String) : Action (ActionResult Unit) := do
  match ← query fun db => UserRepository.getByIdAsync db id with
  | none => return .notFound (userNotFound id)
  | some _ =>
    modify (UserRepository.deleteAsync id)
    return .noContent

/-- `SetPin` for a stored user. It inserts a credential, and deletes none: the PINs of before stay
valid. -/
def setPin (id : String) (request : SetPinRequest) (utcNow : DateTime) :
    Action (ActionResult CredentialView) := do
  match ← query fun db => UserRepository.getByIdAsync db id with
  | none => return .notFound (userNotFound id)
  | some _ =>
    if isNullOrWhiteSpace (some request.pin) then
      return .badRequest "PIN cannot be empty"
    let guid ← query Db.newGuid
    -- The user's other credentials stay.
    let credential := pinCredential guid id request.pin request.label utcNow
    statement (CredentialRepository.insertAsync credential)
    return .ok
      { id := credential.id
        userId := credential.userId
        type := credential.type
        pinLength := credential.pinLength
        label := credential.label
        createdAt := credential.createdAt }

/-- The credential is deleted whosever it is: the user id of the route is not looked at. -/
def deleteCredential (_id credentialId : String) : Action (ActionResult Unit) := do
  modify (CredentialRepository.deleteAsync credentialId)
  return .noContent

/-- What the endpoints show of a stored credential. -/
def credentialView (c : Credential) : CredentialView where
  id := c.id
  userId := c.userId
  type := c.type
  pinLength := c.pinLength
  label := c.label
  createdAt := c.createdAt

/-- A user with the credentials and policies that the server sends along. -/
def userView (db : Db) (user : User) : UserView :=
  { user with
    credentials := (CredentialRepository.getByUserIdAsync db user.id).map credentialView
    policies := AccessPolicyRepository.getByUserIdAsync db user.id }

/-- `GetAll`: the users, with their credentials and policies. -/
def getAll : Action (ActionResult (List UserView)) := do
  return .ok (← query fun db => (UserRepository.getAllAsync db).map (userView db))

/-- `GetById`: a stored user, with the credentials and policies. -/
def getById (id : String) : Action (ActionResult UserView) := do
  match ← query fun db => UserRepository.getByIdAsync db id with
  | none => return .notFound (userNotFound id)
  | some user => return .ok (← query fun db => userView db user)

/-- `GetCredentials`. A user who is not stored has none. -/
def getCredentials (id : String) : Action (ActionResult (List CredentialView)) := do
  return .ok (← query fun db => (CredentialRepository.getByUserIdAsync db id).map credentialView)

/-- `GetPolicies`. A user who is not stored has none. -/
def getPolicies (id : String) : Action (ActionResult (List AccessPolicy)) := do
  return .ok (← query fun db => AccessPolicyRepository.getByUserIdAsync db id)

/-- `SavePolicy` for a stored user: a policy with an id is updated, and any other one is inserted,
without an assignment. -/
def savePolicy (id : String) (policy : AccessPolicy) : Action (ActionResult AccessPolicy) := do
  match ← query fun db => UserRepository.getByIdAsync db id with
  | none => return .notFound (userNotFound id)
  | some _ =>
    if isNullOrWhiteSpace (some policy.id) then
      let guid ← query Db.newGuid
      let policy := { policy with id := guid }
      -- No assignment is inserted with the policy.
      statement (AccessPolicyRepository.insertAsync policy)
      return .ok policy
    else
      -- The update may find no row. The answer is the same.
      modify (AccessPolicyRepository.updateAsync policy)
      return .ok policy

/-- `PUT {id}`: the JSON is deserialized, and the action runs. -/
def putUser (id : String) (body : UserBody) (utcNow : DateTime) : Action (ActionResult User) := do
  let guid ← query Db.newGuid
  update id (body.toUser guid utcNow) utcNow

/-- `POST {id}/policies`: the JSON is deserialized, and the action runs. -/
def postPolicy (id : String) (body : PolicyBody) : Action (ActionResult AccessPolicy) := do
  let guid ← query Db.newGuid
  savePolicy id (body.toPolicy guid)

end UsersController

end CodeMaster.Web
