import CodeMaster.Web.AccessPointsController
import CodeMaster.Mcp.DoorTools

/-!
# `CodeMaster.Proofs.Web.PartialUpdate`: what a partial update changes

`PUT` deserializes a whole user or door, in which a property that the JSON leaves out has its
initializer, and writes the whole row. `userColumns` and `doorColumns` list the writable
columns. So a request that gets through keeps a column that its body leaves out exactly where
the column was at that default (`putUser_keeps_iff`, `putDoor_keeps_iff`).

The default of `isActive` is `true`. A revoked user is active again after the first `PUT` that
gets through, whatever its body says about other fields (`isActive_after_puts_iff`).

A `Column` is a way to read a row and to read a body, with the default of its property. The list of
the columns is the only place where the two tables differ, so that the results about users and doors
are two instances of one argument.

For sequences of requests after a revocation, `isActive` is the column that matters. Each request
that gets through writes it, from its body or from the default.
-/

set_option autoImplicit false

namespace CodeMaster.Proofs.Web.PartialUpdate

open CodeMaster.Core Data CodeMaster.Web CodeMaster.Mcp Exec Relational
open UsersController (putUser)
open AccessPointsController (putDoor)

/-- The writable columns of a user. -/
def userColumns : List (Column User UserBody) :=
  [⟨_, User.groupId, UserBody.groupId, none⟩,
   ⟨_, User.name, UserBody.name, ""⟩,
   ⟨_, User.role, UserBody.role, .member⟩,
   ⟨_, User.isActive, UserBody.isActive, true⟩]

/-- The writable columns of a door. The repository writes `None` for a missing provider type. -/
def doorColumns : List (Column AccessPoint DoorBody) :=
  [⟨_, AccessPoint.name, DoorBody.name, ""⟩,
   ⟨_, AccessPoint.lockProviderType, DoorBody.lockProviderType, ""⟩,
   ⟨_, AccessPoint.lockConfigJson, DoorBody.lockConfigJson, "{}"⟩,
   ⟨_, AccessPoint.keypadProviderType, DoorBody.keypadProviderType, some "None"⟩,
   ⟨_, AccessPoint.keypadConfigJson, DoorBody.keypadConfigJson, none⟩,
   ⟨_, AccessPoint.doorSensorProviderType, DoorBody.doorSensorProviderType, some "None"⟩,
   ⟨_, AccessPoint.doorSensorConfigJson, DoorBody.doorSensorConfigJson, none⟩,
   ⟨_, AccessPoint.autoLockEnabled, DoorBody.autoLockEnabled, true⟩,
   ⟨_, AccessPoint.autoLockDaySeconds, DoorBody.autoLockDaySeconds, 300⟩,
   ⟨_, AccessPoint.autoLockNightSeconds, DoorBody.autoLockNightSeconds, 60⟩,
   ⟨_, AccessPoint.retryOnFailure, DoorBody.retryOnFailure, true⟩]

/-- The group that the body names, if any, is stored. -/
def GroupIsStored (db : Db) (body : UserBody) : Prop :=
  UserRepository.groupExists db body.groupId.join = true

/-- Whether the group of a body is stored is decidable. -/
instance (db : Db) (body : UserBody) : Decidable (GroupIsStored db body) :=
  inferInstanceAs (Decidable (_ = _))

/-! ### What the requests write -/

section
variable [Host] {db : Db} {id : String}

/-- The row that a `PUT` of a user leaves in place of `row`. -/
def writtenUser (body : UserBody) (utcNow : DateTime) (row : User) : User :=
  { body.toUser row.id utcNow with createdAt := row.createdAt }

/-- The row that a `PUT` of a door leaves in place of `row`. -/
def writtenDoor (body : DoorBody) (utcNow : DateTime) (row : AccessPoint) : AccessPoint :=
  { AccessPointRepository.toRow (body.toAccessPoint row.id utcNow) with
    createdAt := row.createdAt }

omit [Host] in
/-- The columns of a user that the body does not name are written with their defaults. -/
theorem writtenUser_atDefaults (body : UserBody) (utcNow : DateTime) (row : User) :
    Column.AtDefaults userColumns body (writtenUser body utcNow row) := by
  simp +contextual [Column.AtDefaults, userColumns, writtenUser, UserBody.toUser]

omit [Host] in
/-- The columns of a door that the body does not name are written with their defaults. -/
theorem writtenDoor_atDefaults (body : DoorBody) (utcNow : DateTime) (row : AccessPoint) :
    Column.AtDefaults doorColumns body (writtenDoor body utcNow row) := by
  simp +contextual [Column.AtDefaults, doorColumns, writtenDoor, AccessPointRepository.toRow,
    DoorBody.toAccessPoint]

omit [Host] in
/-- The id of a user is not in the body. -/
theorem writtenUser_id (body : UserBody) (utcNow : DateTime) (row : User) :
    (writtenUser body utcNow row).id = row.id := rfl

omit [Host] in
/-- The id of a door is not in the body. -/
theorem writtenDoor_id (body : DoorBody) (utcNow : DateTime) (row : AccessPoint) :
    (writtenDoor body utcNow row).id = row.id := rfl

/-- A `PUT` of a stored user rewrites its row, if it names no unknown group. -/
theorem putUser_of_groupIsStored {before : User} {body : UserBody}
    (hbefore : UserRepository.getByIdAsync db id = some before) (hgroup : GroupIsStored db body)
    (utcNow : DateTime) :
    ((putUser id body utcNow).exec db).2
      = { db with
          users := db.users.update (fun row => row.id = id) (writtenUser body utcNow)
            (writtenUser_id body utcNow) } := by
  simp only [putUser, UsersController.update, exec_bind, exec_query, hbefore]
  rw [exec_statement_of_ok (UserRepository.updateAsync_of_group ?_)]
  · rfl
  · exact hgroup

/-- A `PUT` of a stored user that names an unknown group changes nothing. -/
theorem putUser_of_not_groupIsStored {before : User} {body : UserBody}
    (hbefore : UserRepository.getByIdAsync db id = some before)
    (hgroup : ¬ GroupIsStored db body) (utcNow : DateTime) :
    ((putUser id body utcNow).exec db).2 = db := by
  have hid : id ∈ db.users.keys :=
    Table.mem_keys.mpr ⟨before, Table.find?_eq_some_iff.mp hbefore⟩
  simp only [putUser, UsersController.update, exec_bind, exec_query, hbefore]
  rw [exec_statement_of_error (UserRepository.updateAsync_of_not_group ?_ ?_)]
  · exact hid
  · exact hgroup

/-- An update of a user who is not stored writes nothing. -/
theorem putUser_of_missing (hbefore : UserRepository.getByIdAsync db id = none) (body : UserBody)
    (utcNow : DateTime) : ((putUser id body utcNow).exec db).2 = db := by
  simp [putUser, UsersController.update, hbefore]

/-- What a `PUT` of a user leaves under an id. -/
theorem getByIdAsync_putUser (db : Db) (id : String) (body : UserBody) (utcNow : DateTime)
    (other : String) :
    UserRepository.getByIdAsync ((putUser id body utcNow).exec db).2 other
      = if other = id ∧ GroupIsStored db body then
          (UserRepository.getByIdAsync db id).map (writtenUser body utcNow)
        else UserRepository.getByIdAsync db other := by
  cases hbefore : UserRepository.getByIdAsync db id with
  | none =>
    rw [putUser_of_missing hbefore]
    split
    · rename_i h
      rw [h.1, hbefore]
      rfl
    · rfl
  | some before =>
    by_cases hgroup : GroupIsStored db body
    · rw [putUser_of_groupIsStored hbefore hgroup]
      refine (Table.find?_update_key db.users id other (writtenUser_id body utcNow)).trans ?_
      rw [show db.users.find? id = some before from hbefore]
      simp only [hgroup, and_true]
      rfl
    · rw [putUser_of_not_groupIsStored hbefore hgroup]
      simp [hgroup]

/-- A `PUT` of a user writes no group. -/
theorem userGroups_putUser (db : Db) (id : String) (body : UserBody) (utcNow : DateTime) :
    ((putUser id body utcNow).exec db).2.userGroups = db.userGroups := by
  cases hbefore : UserRepository.getByIdAsync db id with
  | none => rw [putUser_of_missing hbefore]
  | some before =>
    by_cases hgroup : GroupIsStored db body
    · rw [putUser_of_groupIsStored hbefore hgroup]
    · rw [putUser_of_not_groupIsStored hbefore hgroup]

/-- What a `PUT` of a stored door leaves in its row. -/
theorem getByIdAsync_putDoor {before : AccessPoint} (body : DoorBody)
    (hbefore : AccessPointRepository.getByIdAsync db id = some before) (utcNow : DateTime) :
    AccessPointRepository.getByIdAsync ((putDoor id body utcNow).exec db).2 id
      = some (writtenDoor body utcNow before) := by
  simp only [putDoor, AccessPointsController.update, exec_bind, exec_query, exec_modify, hbefore,
    exec_pure]
  refine (Table.find?_update_key db.accessPoints id id (writtenDoor_id body utcNow)).trans ?_
  rw [if_pos rfl, show db.accessPoints.find? id = some before from hbefore]
  rfl

/-! ### What they keep -/

/-- A `PUT` of a stored user keeps what its body leaves out exactly if it fails on its group,
or each such column was at its default. -/
theorem putUser_keeps_iff {before : User} (body : UserBody)
    (hbefore : UserRepository.getByIdAsync db id = some before) (utcNow : DateTime) :
    (∃ after, UserRepository.getByIdAsync ((putUser id body utcNow).exec db).2 id = some after
        ∧ Column.Keeps userColumns body before after)
      ↔ ¬ GroupIsStored db body ∨ Column.AtDefaults userColumns body before := by
  rw [getByIdAsync_putUser, hbefore]
  by_cases hgroup : GroupIsStored db body
  · have hkeeps := @Column.keeps_iff_atDefaults _ _ _ _ before _
      (writtenUser_atDefaults body utcNow before)
    simp [hgroup, hkeeps]
  · -- The foreign key refuses the whole row.
    have hself : Column.Keeps userColumns body before before := fun _ _ _ => rfl
    simp [hgroup, hself]

/-- A `PUT` of a stored door keeps what its body leaves out exactly if each such column was at
its default. -/
theorem putDoor_keeps_iff {before : AccessPoint} (body : DoorBody)
    (hbefore : AccessPointRepository.getByIdAsync db id = some before) (utcNow : DateTime) :
    (∃ after, AccessPointRepository.getByIdAsync ((putDoor id body utcNow).exec db).2 id
          = some after ∧ Column.Keeps doorColumns body before after)
      ↔ Column.AtDefaults doorColumns body before := by
  have hkeeps := @Column.keeps_iff_atDefaults _ _ _ _ before _
    (writtenDoor_atDefaults body utcNow before)
  simp [getByIdAsync_putDoor body hbefore, hkeeps]

/-! ### Runs of requests after a revocation -/

/-- A `PUT` of a user. -/
structure UserPut where
  id : String
  body : UserBody
  utcNow : DateTime
  deriving DecidableEq, Repr

/-- The store after the requests, one after the other. -/
def puts (requests : List UserPut) (db : Db) : Db :=
  requests.foldl (fun db r => ((putUser r.id r.body r.utcNow).exec db).2) db

omit [Host] in
/-- Whether a group is stored depends on the table of groups. -/
theorem groupIsStored_congr {db db' : Db} (h : db'.userGroups = db.userGroups)
    (body : UserBody) : GroupIsStored db' body ↔ GroupIsStored db body := by
  unfold GroupIsStored UserRepository.groupExists
  rw [h]

omit [Host] in
/-- A body without `isActive` writes the user as active. -/
theorem writtenUser_isActive {body : UserBody} (hbody : body.isActive = none)
    (utcNow : DateTime) (row : User) : (writtenUser body utcNow row).isActive = true := by
  simp [writtenUser, UserBody.toUser, hbody]

/-- After requests that do not mention `isActive`, the user is active if it was before, or if
one of the requests got through to it. -/
theorem isActive_puts {id : String} (requests : List UserPut)
    (hbodies : ∀ r ∈ requests, r.body.isActive = none) :
    ∀ (db : Db) (row : User), UserRepository.getByIdAsync db id = some row →
      ∃ after, UserRepository.getByIdAsync (puts requests db) id = some after
        ∧ (after.isActive = true
            ↔ row.isActive = true ∨ ∃ r ∈ requests, r.id = id ∧ GroupIsStored db r.body) := by
  induction requests with
  | nil =>
    intro db row hrow
    exact ⟨row, hrow, by simp⟩
  | cons r requests ih =>
    intro db row hrow
    have hbody := hbodies r List.mem_cons_self
    have hrest := ih fun r' hr' => hbodies r' (List.mem_cons_of_mem _ hr')
    -- The groups that are stored stay the same along the run.
    have hgroups := userGroups_putUser db r.id r.body r.utcNow
    have hlookup := getByIdAsync_putUser db r.id r.body r.utcNow id
    by_cases hthrough : id = r.id ∧ GroupIsStored db r.body
    · rw [if_pos hthrough, show UserRepository.getByIdAsync db r.id = some row from
        hthrough.1 ▸ hrow] at hlookup
      obtain ⟨after, hafter, hiff⟩ := hrest _ _ hlookup
      refine ⟨after, hafter, ?_⟩
      -- Once active, the user stays active.
      simp only [writtenUser_isActive hbody, true_or, iff_true] at hiff
      simp only [hiff, true_iff]
      exact Or.inr ⟨r, List.mem_cons_self, hthrough.1.symm, hthrough.2⟩
    · rw [if_neg hthrough, hrow] at hlookup
      obtain ⟨after, hafter, hiff⟩ := hrest _ _ hlookup
      have hnot : ¬ (r.id = id ∧ GroupIsStored db r.body) := fun h => hthrough ⟨h.1.symm, h.2⟩
      refine ⟨after, hafter, ?_⟩
      simp only [hiff, groupIsStored_congr hgroups, List.exists_mem_cons_iff, hnot, false_or]

/-- After a revocation, requests that do not mention `isActive` leave the user inactive exactly
if each request for it fails on its group. -/
theorem isActive_after_puts_iff {id : String} {db : Db} {revoked : User} {requests : List UserPut}
    (hrevoked : UserRepository.getByIdAsync db id = some revoked)
    (hinactive : revoked.isActive = false) (hbodies : ∀ r ∈ requests, r.body.isActive = none) :
    (∃ after, UserRepository.getByIdAsync (puts requests db) id = some after
        ∧ after.isActive = false)
      ↔ ∀ r ∈ requests, r.id = id → ¬ GroupIsStored db r.body := by
  obtain ⟨after, hafter, hiff⟩ := isActive_puts requests hbodies db revoked hrevoked
  simp only [hinactive, Bool.false_eq_true, false_or] at hiff
  simp only [hafter, Option.some.injEq, exists_eq_left', ← Bool.not_eq_true, hiff]
  push Not
  rfl

/-! ### The frame law of partial updates -/

/-- A `PUT` changes no field that its body leaves out exactly if it fails on its group, or each
such field held the value with which deserialization fills it. For a revoked user, this means
that each later `PUT` without `isActive` would have to fail. -/
theorem partialUpdate_iff (db : Db) (id : String) (utcNow : DateTime) :
    (∀ (before : User) (body : UserBody), UserRepository.getByIdAsync db id = some before →
      ((∃ after, UserRepository.getByIdAsync ((putUser id body utcNow).exec db).2 id = some after
          ∧ Column.Keeps userColumns body before after)
        ↔ ¬ GroupIsStored db body ∨ Column.AtDefaults userColumns body before)) ∧
    (∀ (before : AccessPoint) (body : DoorBody),
      AccessPointRepository.getByIdAsync db id = some before →
      ((∃ after, AccessPointRepository.getByIdAsync ((putDoor id body utcNow).exec db).2 id
            = some after ∧ Column.Keeps doorColumns body before after)
        ↔ Column.AtDefaults doorColumns body before)) ∧
    ∀ (arguments : Option JsonElement) (revoked : User) (requests : List UserPut),
      UserRepository.getByIdAsync (DoorTools.revokeUser arguments utcNow db).2 id
        = some revoked → revoked.isActive = false →
      (∀ r ∈ requests, r.body.isActive = none) →
      ((∃ after, UserRepository.getByIdAsync
            (puts requests (DoorTools.revokeUser arguments utcNow db).2) id = some after
          ∧ after.isActive = false)
        ↔ ∀ r ∈ requests, r.id = id →
            ¬ GroupIsStored (DoorTools.revokeUser arguments utcNow db).2 r.body) :=
  ⟨fun _ body hbefore => putUser_keeps_iff body hbefore utcNow,
    fun _ body hbefore => putDoor_keeps_iff body hbefore utcNow,
    fun _ _ _ hrevoked hinactive hbodies =>
      isActive_after_puts_iff hrevoked hinactive hbodies⟩

end

section
/-- The host of the samples. -/
local instance : Host := Host.sample

/-- A guest, and a door with a lock. -/
def hotel : Db where
  users := .ofList [{ id := "guest", name := "Ann", role := .guest, createdAt := ⟨0, .utc⟩
                      updatedAt := ⟨0, .utc⟩ }] (by decide)
  accessPoints := .ofList [{ id := "front", name := "Front", lockProviderType := "ZWaveJS"
                             createdAt := ⟨0, .utc⟩, updatedAt := ⟨0, .utc⟩ }] (by decide)

/-- `{"userId": "guest"}`. -/
def revokeGuest : JsonElement := .object [("userId", .string "guest")]

/-- `{"name": "Ann B."}` for the guest. -/
def rename : UserPut := ⟨"guest", { name := some "Ann B." }, ⟨2, .utc⟩⟩

/-- An update of the name only, after a revocation. -/
theorem partialUpdate_iff_hotel :
    (∃ after, UserRepository.getByIdAsync
        (puts [rename] (DoorTools.revokeUser (some revokeGuest) ⟨1, .utc⟩ hotel).2) "guest"
          = some after ∧ after.isActive = false)
      ↔ ∀ r ∈ [rename], r.id = "guest" →
          ¬ GroupIsStored (DoorTools.revokeUser (some revokeGuest) ⟨1, .utc⟩ hotel).2 r.body :=
  (partialUpdate_iff hotel "guest" ⟨1, .utc⟩).2.2 (some revokeGuest) _ [rename] rfl rfl
    (by decide)

/-- A revoked guest is renamed: the account is active again, and the guest has become a
member. A door that gets a new name loses its lock provider. -/
theorem rename_reactivates :
    (UserRepository.getByIdAsync (DoorTools.revokeUser (some revokeGuest) ⟨1, .utc⟩ hotel).2
        "guest").map User.isActive = some false ∧
    (UserRepository.getByIdAsync
        (puts [rename] (DoorTools.revokeUser (some revokeGuest) ⟨1, .utc⟩ hotel).2)
        "guest").map (fun u => (u.name, u.role, u.isActive)) = some ("Ann B.", .member, true) ∧
    (AccessPointRepository.getByIdAsync
        ((putDoor "front" { name := some "Main" } ⟨1, .utc⟩).exec hotel).2
        "front").map (fun d => (d.name, d.lockProviderType)) = some ("Main", "") := by
  refine ⟨?_, ?_, ?_⟩ <;> rfl

end

end CodeMaster.Proofs.Web.PartialUpdate
