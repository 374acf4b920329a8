import CodeMaster.Lib.Replica
import CodeMaster.Ui.UserStore

/-!
# `CodeMaster.UserSession`: a browser on the users page, and the server

`protocol` puts the store of the user interface and the endpoints for users together. The
`Circumstances` of a request are the time at the server, and the message of the error that the
browser makes of an answer that is not OK.
-/

set_option autoImplicit false

namespace CodeMaster.UserSession

open CodeMaster.Core CodeMaster.Data CodeMaster.Web CodeMaster.Ui Exec

/-- What a request meets at the server. -/
structure Circumstances where
  utcNow : DateTime
  message : String := ""
  deriving DecidableEq, Repr

/-- The answer that an action's result comes to. -/
def toAnswer {α : Type} (value : α → UserAnswer) (message : String) : ActionResult α → UserAnswer
  | .ok a | .created a => value a
  | .noContent => .done
  | .notFound _ | .badRequest _ => .error message

/-- Run an action of the controller. An exception is answered with an error, and what the action has
written before stays. -/
def run {α : Type} (action : UsersController.Action (ActionResult α)) (value : α → UserAnswer)
    (message : String) (db : Db) : UserAnswer × Db :=
  match action.exec db with
  | (.ok result, db') => (toAnswer value message result, db')
  | (.error _, db') => (.error message, db')

variable [Host]

/-- The server answers a request. -/
def serve (request : UserRequest) (c : Circumstances) : Db → UserAnswer × Db :=
  match request with
  | .list => run UsersController.getAll .users c.message
  | .create user => run (UsersController.create user.toCreateRequest c.utcNow) .user c.message
  | .update id user => run (UsersController.putUser id user.toBody c.utcNow) .user c.message
  | .delete id => run (UsersController.delete id) (fun _ => .done) c.message
  | .getCredentials userId => run (UsersController.getCredentials userId) .credentials c.message
  | .setPin userId pin label =>
    run (UsersController.setPin userId (setPinRequest pin label) c.utcNow) .credential c.message
  | .deleteCredential userId credentialId =>
    run (UsersController.deleteCredential userId credentialId) (fun _ => .done) c.message
  | .getPolicies userId => run (UsersController.getPolicies userId) .policies c.message
  | .savePolicy userId policy =>
    run (UsersController.postPolicy userId policy) .policy c.message

/-- The store sends requests, selects a user, and settles the answers of the server. -/
def protocol :
    Replica.Protocol Db UserState UserRequest Circumstances (Option String) UserAnswer where
  serve := serve
  send := UserState.send
  act := UserState.selectUser
  settle := UserState.settle

end CodeMaster.UserSession
