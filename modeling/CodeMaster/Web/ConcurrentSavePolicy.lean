import CodeMaster.Engine.ConcurrentEvaluation
import CodeMaster.Web.UsersController

/-!
# `CodeMaster.Web.ConcurrentSavePolicy`: `SavePolicy` among calls of `EvaluateAsync`

`SavePolicy` awaits the lookup of the user and the write of the policy, and no transaction spans
the two. A `SaveCall` is an invocation with the point it has reached. A `System` is a store with
one such call and any number of evaluations, and a schedule says which of them moves.

`solo_eq_savePolicy` says that the steps are those of the action.
-/

set_option autoImplicit false

namespace CodeMaster.Web.ConcurrentSavePolicy

open CodeMaster.Core Data CodeMaster.Engine Exec

/-- How far an invocation has got. -/
inductive Phase where
  | start
  | userFound
  | done (result : Except SqliteException (ActionResult AccessPolicy))
  deriving DecidableEq

/-- One invocation of `SavePolicy`, with its arguments. -/
structure SaveCall where
  id : String
  policy : AccessPolicy
  phase : Phase := .start
  deriving DecidableEq

section
variable [Host]

/-- The next repository access of the call. -/
def SaveCall.advance (c : SaveCall) (db : Db) : Phase × Db :=
  match c.phase with
  | .start =>
    match UserRepository.getByIdAsync db c.id with
    | none => (.done (.ok (.notFound (UsersController.userNotFound c.id))), db)
    | some _ => (.userFound, db)
  | .userFound =>
    if isNullOrWhiteSpace (some c.policy.id) then
      -- A new policy; it is assigned to nobody.
      let policy := { c.policy with id := db.newGuid }
      match AccessPolicyRepository.insertAsync policy db with
      | .error e => (.done (.error e), db)
      | .ok db' => (.done (.ok (.ok policy)), db')
    -- The update writes every column, whatever an evaluation has written since.
    else (.done (.ok (.ok c.policy)), AccessPolicyRepository.updateAsync c.policy db)
  | .done result => (.done result, db)

end

/-- A store, the evaluations that run on it, and the administrator's call. -/
structure System where
  evaluations : ConcurrentEvaluation.System
  save : SaveCall
  deriving DecidableEq

/-- The database that both sides share. -/
def System.db (s : System) : Db := s.evaluations.db

/-- All calls are about to start. -/
def System.init (db : Db) (id : String) (policy : AccessPolicy)
    (requests : List ConcurrentEvaluation.Request) : System where
  evaluations := .init db requests
  save := { id, policy }

/-- Who moves next. -/
inductive Move where
  | save
  | evaluation (i : Nat)
  deriving DecidableEq, Repr

section
variable [Host]

/-- One move: the save or one of the evaluations goes on to its next access. -/
def System.step (s : System) : Move → System
  | .save =>
    { evaluations := { s.evaluations with db := (s.save.advance s.db).2 }
      save := { s.save with phase := (s.save.advance s.db).1 } }
  | .evaluation i => { s with evaluations := s.evaluations.step i }

/-- Two steps without a step of an evaluation are the action. -/
theorem solo_eq_savePolicy (db : Db) (id : String) (policy : AccessPolicy)
    (requests : List ConcurrentEvaluation.Request) :
    [Move.save, Move.save].foldl System.step (System.init db id policy requests)
      = { evaluations :=
            { ConcurrentEvaluation.System.init db requests with
              db := ((UsersController.savePolicy id policy).exec db).2 }
          save :=
            { id, policy
              phase := .done ((UsersController.savePolicy id policy).exec db).1 } } := by
  simp only [List.foldl_cons, List.foldl_nil, System.init, System.step, System.db,
    SaveCall.advance, UsersController.savePolicy]
  cases hget : UserRepository.getByIdAsync db id with
  | none => simp [hget, ConcurrentEvaluation.System.init]
  | some user =>
    cases hblank : isNullOrWhiteSpace (some policy.id) with
    | false => simp [hget, ConcurrentEvaluation.System.init]
    | true =>
      cases hinsert : AccessPolicyRepository.insertAsync { policy with id := db.newGuid } db with
      | error e => simp [hget, hinsert, exec_statement, ConcurrentEvaluation.System.init]
      | ok db' => simp [hget, hinsert, exec_statement, ConcurrentEvaluation.System.init]

end

end CodeMaster.Web.ConcurrentSavePolicy
