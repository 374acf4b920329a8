import CodeMaster.Engine.AccessPolicyEvaluator

/-!
# `CodeMaster.Engine.ConcurrentEvaluation`: calls of `EvaluateAsync` on one store

`EvaluateAsync` awaits its repository calls one after the other, and no transaction spans
them. A `Call` is an invocation with the point it has reached: each step below is what one
call does from one repository access to the next. A `System` is a store with any number of
calls, and a schedule says which call moves.
-/

set_option autoImplicit false

namespace CodeMaster.Engine.ConcurrentEvaluation

open CodeMaster.Core Data AccessPolicyEvaluator

/-- The arguments of one invocation. -/
structure Request where
  keypadEvent : KeypadEventDto
  accessPoint : AccessPoint
  evaluationTimeUtc : Option DateTime := none
  deriving DecidableEq, Repr

/-- How far an invocation has got. -/
inductive Phase where
  | start
  | matched (user : User)
  | userPoliciesRead (user : User) (userPolicies : List AccessPolicy)
  | readyToWrite (policy : AccessPolicy) (result : AccessEvaluationResult)
  | done (result : AccessEvaluationResult)
  deriving DecidableEq, Repr

/-- A call of `EvaluateAsync`: its request, and how far it is. -/
structure Call where
  request : Request
  phase : Phase := .start
  deriving DecidableEq, Repr

namespace Request

/-- The time of the schedule check. -/
def checkTime (r : Request) : DateTime := r.evaluationTimeUtc.getD r.keypadEvent.timestamp

variable [Host]

/-- Up to the search by PIN: the invocation returns, or it goes on with the matched user. -/
def matchUser (r : Request) (db : Db) : Phase :=
  if isNullOrWhiteSpace r.keypadEvent.pin then
    .done { isValid := false, reason := some "PIN was not provided" }
  else
    match matchCredential db (r.keypadEvent.pin.getD "") with
    | none => .done { isValid := false, reason := some "Invalid PIN or credential not found" }
    | some (matchedUser, _) =>
      if matchedUser.isActive then .matched matchedUser
      else .done
        { isValid := false, user := some matchedUser, reason := some "User is inactive" }

/-- From the read of the door's policies to the decision. -/
def decide (r : Request) (user : User) (userPolicies : List AccessPolicy) (db : Db) : Phase :=
  match decideAccess user userPolicies
      (AccessPolicyRepository.getByAccessPointIdAsync db r.accessPoint.id) r.checkTime with
  | (result, none) => .done result
  | (result, some policy) => .readyToWrite policy result

end Request

variable [Host]

/-- The next repository access of a call. -/
def Call.advance (c : Call) (db : Db) : Phase × Db :=
  match c.phase with
  | .start => (c.request.matchUser db, db)
  | .matched user =>
    (.userPoliciesRead user (AccessPolicyRepository.getByUserIdAsync db user.id), db)
  | .userPoliciesRead user userPolicies => (c.request.decide user userPolicies db, db)
  -- The counter is written as it was computed from the read, whatever is stored by now.
  | .readyToWrite policy result => (.done result, AccessPolicyRepository.updateAsync policy db)
  | .done result => (.done result, db)

/-- A store and the calls that run on it. -/
structure System where
  db : Db
  calls : List Call
  deriving DecidableEq

/-- All calls are about to start. -/
def System.init (db : Db) (requests : List Request) : System :=
  { db, calls := requests.map fun request => { request } }

/-- The call at the index moves. -/
def System.step (s : System) (i : Nat) : System :=
  match s.calls[i]? with
  | none => s
  | some c =>
    { db := (c.advance s.db).2, calls := s.calls.set i { c with phase := (c.advance s.db).1 } }

end CodeMaster.Engine.ConcurrentEvaluation
