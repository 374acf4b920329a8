import CodeMaster.Web.UsersController

/-!
# `CodeMaster.Ui.UserStore`: the users of the user interface

The store holds the users, and for each user the credentials and the policies that the page knows
of. `send` is the part of an action before the answer to its request, and `settle` the part after
it.

The objects of the store are those that the server sends, less the credentials and policies inside
of a user, which no component reads. Their times and enumerations stand for their texts. The error
that a failed request throws is its message.

The records of the store are maps from ids. An id that is the name of a member of `Object.prototype`
is left out: reading it before anything is written finds the inherited member, which is no list, and
the component throws.
-/

set_option autoImplicit false

namespace CodeMaster.Ui

open CodeMaster.Core CodeMaster.Web

/-- The store of the page. -/
structure UserState where
  users : List User := []
  credentials : String → Option (List CredentialView) := fun _ => none
  policies : String → Option (List AccessPolicy) := fun _ => none
  selectedUserId : Option String := none
  isLoading : Bool := false
  error : Option String := none

/-- `Partial<User>`. A field that is present can be `null`. -/
structure PartialUser where
  id : Option String := none
  groupId : Option (Option String) := none
  name : Option String := none
  role : Option UserRole := none
  isActive : Option Bool := none
  deriving DecidableEq, Repr

/-- The body of `create`, as the server reads it. It has no property `isActive`. -/
def PartialUser.toCreateRequest (user : PartialUser) : CreateUserRequest where
  id := user.id
  name := user.name.getD ""
  role := user.role.getD .member
  groupId := user.groupId.join

/-- The body of `update`, as the server reads it. -/
def PartialUser.toBody (user : PartialUser) : UserBody where
  groupId := user.groupId
  name := user.name
  role := user.role
  isActive := user.isActive

/-- The body of `setPin`: `{ pin, label: label || 'PIN' }`. -/
def setPinRequest (pin : String) (label : Option String) : SetPinRequest where
  pin := pin
  label := some ((label.filter (· ≠ "")).getD "PIN")

/-- A request in flight, with what its answer needs. -/
inductive UserRequest where
  | list
  | create (user : PartialUser)
  | update (id : String) (user : PartialUser)
  | delete (id : String)
  | getCredentials (userId : String)
  | setPin (userId pin : String) (label : Option String)
  | deleteCredential (userId credentialId : String)
  | getPolicies (userId : String)
  | savePolicy (userId : String) (policy : PolicyBody)
  deriving DecidableEq, Repr

/-- What the server answers. -/
inductive UserAnswer where
  | users (users : List UserView)
  | user (user : User)
  | credentials (credentials : List CredentialView)
  | credential (credential : CredentialView)
  | policies (policies : List AccessPolicy)
  | policy (policy : AccessPolicy)
  | done
  | error (message : String)
  deriving DecidableEq, Repr

namespace UserState

/-- An entry of a record without the key. -/
def without {α : Type} (entries : String → Option α) (id : String) : String → Option α :=
  Function.update entries id none

/-- The deleted user goes, with the credentials and the policies, and is not selected any more. -/
def receiveDeleted (id : String) (state : UserState) : UserState :=
  { state with
    users := state.users.filter fun u => u.id ≠ id
    selectedUserId := if state.selectedUserId = some id then none else state.selectedUserId
    credentials := without state.credentials id
    policies := without state.policies id
    isLoading := false }

/-- The new PIN takes the place of all PINs that the page knows of. -/
def receivePin (userId : String) (credential : CredentialView) (state : UserState) : UserState :=
  { state with
    credentials := Function.update state.credentials userId
      (some (((state.credentials userId).getD []).filter (fun c => c.type ≠ .pin) ++ [credential]))
    isLoading := false }

/-- The deleted credential goes from those of the user. -/
def receiveCredentialDeleted (userId credentialId : String) (state : UserState) : UserState :=
  { state with
    credentials := Function.update state.credentials userId
      (some (((state.credentials userId).getD []).filter fun c => c.id ≠ credentialId)) }

/-- The saved policy takes the place of the one with its id, at the end. -/
def receivePolicy (userId : String) (saved : AccessPolicy) (state : UserState) : UserState :=
  { state with
    policies := Function.update state.policies userId
      (some (((state.policies userId).getD []).filter (fun p => p.id ≠ saved.id) ++ [saved]))
    isLoading := false }

/-- The part of an action before the answer. -/
def send : UserRequest → UserState → UserState
  | .getCredentials _, state | .getPolicies _, state | .deleteCredential _ _, state => state
  | _, state => { state with isLoading := true, error := none }

/-- The part of an action after the answer. An answer of another kind than the request's does not
happen, and is ignored. -/
def settle : UserRequest → UserAnswer → UserState → UserState
  | .list, .users users, state =>
    { state with users := users.map UserView.toUser, isLoading := false }
  | .create _, .user created, state =>
    { state with users := state.users ++ [created], isLoading := false }
  | .update id _, .user updated, state =>
    { state with
      users := state.users.map fun u => if u.id = id then updated else u
      isLoading := false }
  | .delete id, .done, state => state.receiveDeleted id
  | .getCredentials userId, .credentials creds, state =>
    { state with credentials := Function.update state.credentials userId (some creds) }
  | .setPin userId _ _, .credential credential, state => state.receivePin userId credential
  | .deleteCredential userId credentialId, .done, state =>
    state.receiveCredentialDeleted userId credentialId
  | .getPolicies userId, .policies pols, state =>
    { state with policies := Function.update state.policies userId (some pols) }
  | .savePolicy userId _, .policy saved, state => state.receivePolicy userId saved
  -- Two actions swallow the error, and one does not touch `isLoading`.
  | .getCredentials _, .error _, state | .getPolicies _, .error _, state => state
  | .deleteCredential _ _, .error message, state => { state with error := some message }
  | _, .error message, state => { state with error := some message, isLoading := false }
  | _, _, state => state

/-- The part of `selectUser` before its two fetches. -/
def selectUser (id : Option String) (state : UserState) : UserState :=
  { state with selectedUserId := id }

/-- The PIN that the user's card shows. -/
def pinCred (state : UserState) (userId : String) : Option CredentialView :=
  ((state.credentials userId).getD []).find? fun c => c.type = .pin

end UserState

end CodeMaster.Ui
