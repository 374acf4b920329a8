import Mathlib.Data.List.Sort
import CodeMaster.Data.Schema

/-!
# `CodeMaster.Data.Repositories`: the SQL of the repositories

Each repository method is one SQL statement on its own connection, so it is one function of
the database: a query returns its rows, and a statement returns the new database or the
constraint it violates.

A query without `ORDER BY` returns its rows in `Host.scanOrder`. `ORDER BY` is a stable sort
of that order. The texts of two creation times compare as the times do, because every
creation time is written in UTC.

The lemmas `mem_*` say which rows a query returns.
-/

set_option autoImplicit false

namespace CodeMaster.Data

open CodeMaster.Core Relational

section OrderBy
variable [Host] {α κ : Type} [LE κ] [DecidableLE κ]

/-- `ORDER BY key ASC`. -/
def orderBy (key : α → κ) (rows : List α) : List α :=
  (Host.scanOrder rows).insertionSort fun r r' => key r ≤ key r'

variable {key : α → κ}

/-- Sorted rows are the rows in another order. -/
theorem orderBy_perm (rows : List α) : (orderBy key rows).Perm rows :=
  (List.perm_insertionSort _ _).trans (Host.scanOrder_perm rows)

/-- Sorting keeps the rows. -/
@[simp] theorem mem_orderBy {rows : List α} {r : α} : r ∈ orderBy key rows ↔ r ∈ rows :=
  (orderBy_perm rows).mem_iff

end OrderBy

section FirstOf
variable [Host] {α κ : Type} [LinearOrder κ] {key : α → κ} {p : α → Bool} {rows : List α} {x : α}

/-- The first row that satisfies `p` has the least key of those that do. -/
theorem key_le_of_find?_orderBy (h : (orderBy key rows).find? p = some x) {y : α}
    (hy : y ∈ rows) (hp : p y = true) : key x ≤ key y := by
  have hsorted : (orderBy key rows).Pairwise fun r r' => key r ≤ key r' :=
    List.pairwise_insertionSort _ _
  obtain ⟨-, before, after, hrows, hbefore⟩ := List.find?_eq_some_iff_append.mp h
  have hmem : y ∈ before ++ x :: after := hrows ▸ mem_orderBy.mpr hy
  -- `y` is not before `x`, because `x` is the first row that satisfies `p`.
  rw [hrows, List.pairwise_append, List.pairwise_cons] at hsorted
  rcases List.mem_append.mp hmem with hy | hy
  · have := hbefore y hy
    rw [hp] at this
    cases this
  · rcases List.mem_cons.mp hy with rfl | hy
    · exact le_refl _
    · exact hsorted.2.1.1 y hy

/-- The row with the least key of those that satisfy `p` is the first one. -/
theorem find?_orderBy (hx : x ∈ rows) (hp : p x = true)
    (hlt : ∀ y ∈ rows, p y = true → y ≠ x → key x < key y) :
    (orderBy key rows).find? p = some x := by
  obtain ⟨z, hz⟩ : ∃ z, (orderBy key rows).find? p = some z :=
    Option.isSome_iff_exists.mp (List.find?_isSome.mpr ⟨x, mem_orderBy.mpr hx, hp⟩)
  by_cases hzx : z = x
  · rw [hz, hzx]
  · have hzrow : z ∈ rows := mem_orderBy.mp (List.mem_of_find?_eq_some hz)
    have hle := key_le_of_find?_orderBy hz hx hp
    exact absurd (hlt z hzrow (List.find?_some hz) hzx) (not_lt.mpr hle)

/-- The order of a table by its key depends on what the table holds only. -/
theorem orderBy_eq_of_find?_eq {t t' : Table key} (h : ∀ k, t.find? k = t'.find? k) :
    orderBy key t.rows = orderBy key t'.rows := by
  have hperm : (orderBy key t.rows).Perm (orderBy key t'.rows) :=
    ((orderBy_perm _).trans (Table.rows_perm_of_find?_eq h)).trans (orderBy_perm _).symm
  refine hperm.eq_of_pairwise ?_ (List.pairwise_insertionSort _ _)
    (List.pairwise_insertionSort _ _)
  intro x y hx hy hle hge
  refine t.eq_of_key_eq (mem_orderBy.mp hx) ?_ (le_antisymm hle hge)
  exact mem_orderBy.mp (hperm.mem_iff.mpr hy)

end FirstOf

/-! ### Users -/

namespace UserRepository

/-- The user with the id. -/
def getByIdAsync (db : Db) (id : String) : Option User := db.users.find? id

/-- `FOREIGN KEY(GroupId) REFERENCES UserGroups(Id)`. -/
def groupExists (db : Db) (groupId : Option String) : Bool :=
  groupId.all fun id => id ∈ db.userGroups.keys

/-- The insert of a user. SQLite checks that the id is new and that the group, if any, is stored. -/
def insertAsync (user : User) (db : Db) : Except SqliteException Db :=
  match db.users.insert? user with
  | none => .error (.unique "Users.Id")
  | some users => if groupExists db user.groupId then .ok { db with users } else .error .foreignKey

/-- `UPDATE Users SET ... WHERE Id = @Id`. The creation time is not in the `SET` clause. -/
def updateAsync (user : User) (db : Db) : Except SqliteException Db :=
  if user.id ∈ db.users.keys ∧ groupExists db user.groupId = false then .error .foreignKey
  else .ok { db with
    users := db.users.update (fun row => row.id = user.id)
      (fun row => { user with id := row.id, createdAt := row.createdAt }) fun _ => rfl }

/-- `DELETE FROM Users WHERE Id = @Id`. The credentials and the assignments of the user go
with it, and the slots that refer to the user or to its credentials get `NULL`s. -/
def deleteAsync (id : String) (db : Db) : Db :=
  let credentialIds := (db.credentials.rows.filter fun c => c.userId = id).map Credential.id
  { db with
    users := db.users.delete fun u => u.id = id
    credentials := db.credentials.delete fun c => c.userId = id
    accessAssignments := db.accessAssignments.delete fun a => a.userId = some id
    hardwareSlots := db.hardwareSlots.update (fun _ => true)
      (fun s => { s with
        userId := s.userId.filter fun u => u ≠ id
        credentialId := s.credentialId.filter fun c => c ∉ credentialIds })
      (fun _ => rfl) fun _ => rfl }

/-- The user who is found is stored under the id. -/
theorem getByIdAsync_eq_some_iff {db : Db} {id : String} {u : User} :
    getByIdAsync db id = some u ↔ u ∈ db.users.rows ∧ u.id = id := Table.find?_eq_some_iff

/-- No user is found when the id is not stored. -/
theorem getByIdAsync_eq_none_iff {db : Db} {id : String} :
    getByIdAsync db id = none ↔ id ∉ db.users.keys := Table.find?_eq_none_iff

/-- An update with a stored group writes the row with the id. -/
theorem updateAsync_of_group {user : User} {db : Db} (hgroup : groupExists db user.groupId = true) :
    updateAsync user db = .ok { db with
      users := db.users.update (fun row => row.id = user.id)
        (fun row => { user with id := row.id, createdAt := row.createdAt }) fun _ => rfl } :=
  if_neg fun h => absurd (hgroup.symm.trans h.2) Bool.noConfusion

/-- An update of a stored user with a group that is not stored is refused. -/
theorem updateAsync_of_not_group {user : User} {db : Db} (hid : user.id ∈ db.users.keys)
    (hgroup : ¬ groupExists db user.groupId = true) :
    updateAsync user db = .error .foreignKey :=
  if_pos ⟨hid, eq_false_of_ne_true hgroup⟩

/-- An update of a user leaves the slots. -/
theorem updateAsync_hardwareSlots {user : User} {db db' : Db} (h : updateAsync user db = .ok db') :
    db'.hardwareSlots = db.hardwareSlots := by
  unfold updateAsync at h
  split at h
  · cases h
  · cases h
    rfl

/-- An update that succeeds keeps the ids, and gives the row of the user a stored group. -/
theorem updateAsync_eq_ok {user : User} {db db' : Db} (h : updateAsync user db = .ok db') :
    ∃ users : Table User.id, db' = { db with users } ∧ users.keys = db.users.keys
      ∧ ∀ u ∈ users.rows, u ∈ db.users.rows ∧ u.id ≠ user.id
        ∨ groupExists db user.groupId = true ∧ ∃ createdAt, u = { user with createdAt } := by
  unfold updateAsync at h
  split at h
  case isTrue => cases h
  case isFalse hgroup =>
    cases h
    refine ⟨_, rfl, Table.keys_update _ _ _ _, fun u hu => ?_⟩
    obtain ⟨row, hrow, rfl⟩ := List.mem_map.mp hu
    split
    case isFalse hid => exact Or.inl ⟨hrow, of_decide_eq_false (eq_false_of_ne_true hid)⟩
    case isTrue hid =>
      have hid : row.id = user.id := of_decide_eq_true hid
      refine Or.inr ⟨?_, row.createdAt, by simp only [hid]⟩
      by_contra hnot
      exact hgroup ⟨Table.mem_keys.mpr ⟨row, hrow, hid⟩, eq_false_of_ne_true hnot⟩

/-- A user under a new id, in a stored group or in none, is inserted. -/
theorem insertAsync_of_new {user : User} {db : Db} (hid : user.id ∉ db.users.keys)
    (hgroup : groupExists db user.groupId = true) :
    ∃ users, insertAsync user db = .ok { db with users }
      ∧ users.rows = db.users.rows ++ [user] := by
  obtain ⟨users, hu⟩ := Table.exists_insert? hid
  refine ⟨users, ?_, (Table.insert?_eq_some_iff.mp hu).2⟩
  simp only [insertAsync, hu, hgroup, if_true]

/-- The insert fails when the id is taken or the group is not stored, and succeeds otherwise. -/
theorem insertAsync_cases (user : User) (db : Db) :
    (∃ e, insertAsync user db = .error e
        ∧ (user.id ∈ db.users.keys ∨ groupExists db user.groupId = false))
      ∨ ∃ users, insertAsync user db = .ok { db with users }
          ∧ users.rows = db.users.rows ++ [user] := by
  by_cases hid : user.id ∈ db.users.keys
  · refine Or.inl ⟨.unique "Users.Id", ?_, Or.inl hid⟩
    rw [insertAsync, Table.insert?_eq_none_iff.mpr hid]
  · cases hgroup : groupExists db user.groupId with
    | false =>
      obtain ⟨users, hu⟩ := Table.exists_insert? hid
      refine Or.inl ⟨.foreignKey, ?_, Or.inr rfl⟩
      simp [insertAsync, hu, hgroup]
    | true => exact Or.inr (insertAsync_of_new hid hgroup)

/-- What an insert that succeeds has written. -/
theorem insertAsync_eq_ok {user : User} {db db' : Db} (h : insertAsync user db = .ok db') :
    ∃ users, db.users.insert? user = some users ∧ groupExists db user.groupId = true
      ∧ db' = { db with users } := by
  unfold insertAsync at h
  split at h
  · cases h
  · rename_i users hu
    split at h
    · rename_i hg
      cases h
      exact ⟨users, hu, hg, rfl⟩
    · cases h

variable [Host]

/-- All users, in the order of their names. -/
def getAllAsync (db : Db) : List User := orderBy User.name db.users.rows

/-- All users are those of the table. -/
@[simp] theorem mem_getAllAsync {db : Db} {u : User} :
    u ∈ getAllAsync db ↔ u ∈ db.users.rows := mem_orderBy

/-- No user is listed twice. -/
theorem getAllAsync_nodup (db : Db) : ((getAllAsync db).map User.id).Nodup :=
  ((orderBy_perm _).map _).nodup_iff.mpr db.users.nodup

end UserRepository

/-! ### Credentials -/

namespace CredentialRepository

/-- `EncryptedValue ?? string.Empty`: the column is `NOT NULL`. -/
def toRow (credential : Credential) : Credential :=
  { credential with encryptedValue := some (credential.encryptedValue.getD "") }

/-- The insert of a credential. SQLite checks that the id is new and that the user is stored. -/
def insertAsync (credential : Credential) (db : Db) : Except SqliteException Db :=
  match db.credentials.insert? (toRow credential) with
  | none => .error (.unique "Credentials.Id")
  | some credentials =>
    if credential.userId ∈ db.users.keys then .ok { db with credentials }
    else .error .foreignKey

/-- `DELETE FROM Credentials WHERE Id = @Id`. The slots that refer to it get a `NULL`. -/
def deleteAsync (id : String) (db : Db) : Db :=
  { db with
    credentials := db.credentials.delete fun c => c.id = id
    hardwareSlots := db.hardwareSlots.update (fun _ => true)
      (fun s => { s with credentialId := s.credentialId.filter fun c => c ≠ id })
      (fun _ => rfl) fun _ => rfl }

/-- A credential under a new id for a stored user is inserted. -/
theorem insertAsync_of_new {credential : Credential} {db : Db}
    (hid : credential.id ∉ db.credentials.keys) (huser : credential.userId ∈ db.users.keys) :
    ∃ credentials, insertAsync credential db = .ok { db with credentials }
      ∧ credentials.rows = db.credentials.rows ++ [toRow credential] := by
  obtain ⟨credentials, hc⟩ : ∃ t, db.credentials.insert? (toRow credential) = some t :=
    Table.exists_insert? hid
  refine ⟨credentials, ?_, (Table.insert?_eq_some_iff.mp hc).2⟩
  simp only [insertAsync, hc, huser, if_true]

/-- What an insert that succeeds has written. -/
theorem insertAsync_eq_ok {credential : Credential} {db db' : Db}
    (h : insertAsync credential db = .ok db') :
    ∃ credentials, db.credentials.insert? (toRow credential) = some credentials
      ∧ credential.userId ∈ db.users.keys ∧ db' = { db with credentials } := by
  unfold insertAsync at h
  split at h
  · cases h
  · rename_i credentials hc
    split at h
    · rename_i hu
      cases h
      exact ⟨credentials, hc, hu, rfl⟩
    · cases h

variable [Host]

/-- The credentials of a user, the oldest first. -/
def getByUserIdAsync (db : Db) (userId : String) : List Credential :=
  orderBy (fun c => c.createdAt.ticks) (db.credentials.rows.filter fun c => c.userId = userId)

/-- The credentials of a user are those of the table with the user's id. -/
@[simp] theorem mem_getByUserIdAsync {db : Db} {userId : String} {c : Credential} :
    c ∈ getByUserIdAsync db userId ↔ c ∈ db.credentials.rows ∧ c.userId = userId := by
  simp [getByUserIdAsync]

end CredentialRepository

/-! ### Doors -/

/-- The doors, ordered by name. -/
def AccessPointRepository.getAllAsync [Host] (db : Db) : List AccessPoint :=
  orderBy AccessPoint.name db.accessPoints.rows

namespace AccessPointRepository

/-- What `INSERT` and `UPDATE` store: the defaults of the columns that a request leaves out. -/
def toRow (accessPoint : AccessPoint) : AccessPoint :=
  { accessPoint with
    lockConfigJson :=
      if isNullOrWhiteSpace (some accessPoint.lockConfigJson) then "{}"
      else accessPoint.lockConfigJson
    keypadProviderType := some (accessPoint.keypadProviderType.getD "None")
    doorSensorProviderType := some (accessPoint.doorSensorProviderType.getD "None") }

/-- The door with the id. -/
def getByIdAsync (db : Db) (id : String) : Option AccessPoint := db.accessPoints.find? id

/-- The insert of a door. SQLite checks that the id is new. -/
def insertAsync (accessPoint : AccessPoint) (db : Db) : Except SqliteException Db :=
  match db.accessPoints.insert? (toRow accessPoint) with
  | none => .error (.unique "AccessPoints.Id")
  | some accessPoints => .ok { db with accessPoints }

/-- `UPDATE AccessPoints SET ... WHERE Id = @Id`. The creation time is not in the `SET`
clause. -/
def updateAsync (accessPoint : AccessPoint) (db : Db) : Db :=
  { db with
    accessPoints := db.accessPoints.update (fun row => row.id = accessPoint.id)
      (fun row => { toRow accessPoint with id := row.id, createdAt := row.createdAt })
      fun _ => rfl }

/-- `DELETE FROM AccessPoints WHERE Id = @Id`. The assignments and the slots of the door go with
it, and so do its entries of the audit log, which are outside of `Db`. -/
def deleteAsync (id : String) (db : Db) : Db :=
  { db with
    accessPoints := db.accessPoints.delete fun p => p.id = id
    accessAssignments := db.accessAssignments.delete fun a => a.accessPointId = id
    hardwareSlots := db.hardwareSlots.delete fun s => s.accessPointId = id }

/-- A deleted door is not found. -/
theorem getByIdAsync_deleteAsync (id : String) (db : Db) :
    getByIdAsync (deleteAsync id db) id = none := by
  refine Table.find?_eq_none_iff.mpr fun hmem => ?_
  obtain ⟨door, hdoor, hid⟩ := Table.mem_keys.mp hmem
  have hkept := (Table.mem_delete.mp hdoor).2
  simp [hid] at hkept

/-- The door that is found has the id. -/
theorem getByIdAsync_id {db : Db} {id : String} {door : AccessPoint}
    (h : getByIdAsync db id = some door) : door.id = id := (Table.find?_eq_some_iff.mp h).2

end AccessPointRepository

/-! ### Policies and assignments -/

namespace AccessPolicyRepository

/-- What `INSERT` and `UPDATE` store: the times of day keep whole seconds. -/
def toRow (policy : AccessPolicy) : AccessPolicy :=
  { policy with
    startTime := policy.startTime.map TimeOnly.toSeconds
    endTime := policy.endTime.map TimeOnly.toSeconds }

/-- The `WHERE` clause of `GetByUserIdAsync`, for an assignment and the joined user. -/
def assignedTo (userId : String) (a : AccessAssignment) (u : Option User) : Bool :=
  (Truth.or (Truth.eq a.userId (some userId))
    (Truth.and (Truth.isNotNull a.groupId) (Truth.eq a.groupId (u.bind User.groupId)))).holds

/-- The insert of a policy. SQLite checks that the id is new. -/
def insertAsync (policy : AccessPolicy) (db : Db) : Except SqliteException Db :=
  match db.accessPolicies.insert? (toRow policy) with
  | none => .error (.unique "AccessPolicies.Id")
  | some accessPolicies => .ok { db with accessPolicies }

/-- The update of a policy. It writes nothing when no row has the id, and keeps the time of the
creation. -/
def updateAsync (policy : AccessPolicy) (db : Db) : Db :=
  { db with
    accessPolicies := db.accessPolicies.update (fun row => row.id = policy.id)
      (fun row => { toRow policy with id := row.id }) fun _ => rfl }

/-- `DELETE FROM AccessPolicies WHERE Id = @Id`. The assignments go with it. -/
def deleteAsync (id : String) (db : Db) : Db :=
  { db with
    accessPolicies := db.accessPolicies.delete fun p => p.id = id
    accessAssignments := db.accessAssignments.delete fun a => a.policyId = id }

/-- The insert of an assignment. SQLite checks that the id is new and that every row it refers to is
stored. -/
def assignPolicyAsync (assignment : AccessAssignment) (db : Db) : Except SqliteException Db :=
  match db.accessAssignments.insert? assignment with
  | none => .error (.unique "AccessAssignments.Id")
  | some accessAssignments =>
    if assignment.accessPointId ∈ db.accessPoints.keys
        ∧ (assignment.userId.all fun id => id ∈ db.users.keys)
        ∧ UserRepository.groupExists db assignment.groupId
        ∧ assignment.policyId ∈ db.accessPolicies.keys then .ok { db with accessAssignments }
    else .error .foreignKey

/-- The deletion of an assignment. -/
def removeAssignmentAsync (assignmentId : String) (db : Db) : Db :=
  { db with accessAssignments := db.accessAssignments.delete fun a => a.id = assignmentId }

/-- The assignment is for the user, or for the group that the user is in. -/
def IsFor (a : AccessAssignment) (u : User) : Prop :=
  a.userId = some u.id ∨ ∃ g, a.groupId = some g ∧ u.groupId = some g

/-- The assignment names the user id, or the group that is on the user's row. -/
def Names (db : Db) (userId : String) (a : AccessAssignment) : Prop :=
  a.userId = some userId
    ∨ ∃ g, a.groupId = some g
        ∧ ∃ user ∈ db.users.rows, user.id = userId ∧ user.groupId = some g

/-- An assignment of the policy names the user id. -/
def GivenTo (db : Db) (userId policyId : String) : Prop :=
  ∃ a ∈ db.accessAssignments.rows, a.policyId = policyId ∧ Names db userId a

/-- For a stored user it is the user's own row that counts. -/
theorem names_iff_isFor {db : Db} {u : User} (hu : u ∈ db.users.rows) {a : AccessAssignment} :
    Names db u.id a ↔ IsFor a u := by
  refine or_congr_right (exists_congr fun g => and_congr_right fun _ => ?_)
  constructor
  · rintro ⟨user, huser, hid, hgroup⟩
    rwa [← db.users.eq_of_key_eq huser hu hid]
  · exact fun hgroup => ⟨u, hu, rfl, hgroup⟩

/-- Whether an assignment is for a user is decidable. -/
instance (a : AccessAssignment) (u : User) : Decidable (IsFor a u) :=
  decidable_of_iff (a.userId = some u.id ∨ (a.groupId.isSome ∧ a.groupId = u.groupId)) <| by
    unfold IsFor
    refine or_congr_right ⟨?_, ?_⟩
    · rintro ⟨h, heq⟩
      obtain ⟨g, hg⟩ := Option.isSome_iff_exists.mp h
      exact ⟨g, hg, heq ▸ hg⟩
    · rintro ⟨g, hg, hu⟩
      exact ⟨by simp [hg], hg.trans hu.symm⟩

/-- The condition of the query holds for the assignments of the user and for those of the user's
group. -/
theorem assignedTo_iff {userId : String} {a : AccessAssignment} {u : Option User} :
    assignedTo userId a u = true
      ↔ a.userId = some userId
          ∨ ∃ g, a.groupId = some g ∧ ∃ v, u = some v ∧ v.groupId = some g := by
  simp only [assignedTo, Truth.holds_or, Truth.holds_and, Truth.holds_eq, Truth.holds_isNotNull,
    Option.some.injEq, Option.bind_eq_some_iff]
  constructor
  · rintro (⟨v, h, rfl⟩ | ⟨-, g, hg, v, rfl, hv⟩)
    · exact Or.inl h
    · exact Or.inr ⟨g, hg, v, rfl, hv⟩
  · rintro (h | ⟨g, hg, v, rfl, hv⟩)
    · exact Or.inl ⟨userId, h, rfl⟩
    · exact Or.inr ⟨⟨g, hg⟩, g, hg, v, rfl, hv⟩

/-- The policies after an update. -/
theorem mem_updateAsync {policy : AccessPolicy} {db : Db} {x : AccessPolicy} :
    x ∈ (updateAsync policy db).accessPolicies.rows
      ↔ ∃ row ∈ db.accessPolicies.rows,
          x = if row.id = policy.id then { toRow policy with id := row.id } else row := by
  have h := @Table.mem_update _ _ _ db.accessPolicies (fun row => row.id = policy.id)
    (fun row => { toRow policy with id := row.id }) (fun _ => rfl) x
  simp only [decide_eq_true_eq] at h
  exact h

/-- A policy under a new id is inserted. -/
theorem insertAsync_of_new {policy : AccessPolicy} {db : Db}
    (hid : policy.id ∉ db.accessPolicies.keys) :
    ∃ accessPolicies, insertAsync policy db = .ok { db with accessPolicies }
      ∧ accessPolicies.rows = db.accessPolicies.rows ++ [toRow policy] := by
  obtain ⟨accessPolicies, hp⟩ : ∃ t, db.accessPolicies.insert? (toRow policy) = some t :=
    Table.exists_insert? hid
  refine ⟨accessPolicies, ?_, (Table.insert?_eq_some_iff.mp hp).2⟩
  simp only [insertAsync, hp]

/-- What an insert that succeeds has written. -/
theorem insertAsync_eq_ok {policy : AccessPolicy} {db db' : Db}
    (h : insertAsync policy db = .ok db') :
    ∃ accessPolicies, db.accessPolicies.insert? (toRow policy) = some accessPolicies
      ∧ db' = { db with accessPolicies } := by
  unfold insertAsync at h
  split at h
  · cases h
  · rename_i accessPolicies hp
    cases h
    exact ⟨accessPolicies, hp, rfl⟩

/-- The assignment of a stored policy to a stored user, under a new id, is inserted exactly
when the door is stored. -/
theorem assignPolicyAsync_of_new {assignment : AccessAssignment} {db : Db} {userId : String}
    (hid : assignment.id ∉ db.accessAssignments.keys) (hfor : assignment.userId = some userId)
    (huser : userId ∈ db.users.keys) (hgroup : assignment.groupId = none)
    (hpolicy : assignment.policyId ∈ db.accessPolicies.keys) :
    if assignment.accessPointId ∈ db.accessPoints.keys then
      ∃ accessAssignments, assignPolicyAsync assignment db = .ok { db with accessAssignments }
        ∧ accessAssignments.rows = db.accessAssignments.rows ++ [assignment]
    else assignPolicyAsync assignment db = .error .foreignKey := by
  obtain ⟨accessAssignments, ha⟩ := Table.exists_insert? hid
  have hrows := (Table.insert?_eq_some_iff.mp ha).2
  have hkeys : (assignment.userId.all fun id => id ∈ db.users.keys) = true
      ∧ UserRepository.groupExists db assignment.groupId = true
      ∧ assignment.policyId ∈ db.accessPolicies.keys := by
    rw [hfor, hgroup, Option.all_some]
    exact ⟨decide_eq_true huser, rfl, hpolicy⟩
  unfold assignPolicyAsync
  rw [ha]
  split
  · rename_i hdoor
    exact ⟨accessAssignments, if_pos ⟨hdoor, hkeys⟩, hrows⟩
  · rename_i hdoor
    exact if_neg fun h => hdoor h.1

section Queries
variable [Host]

/-- What a query reads back from a row. -/
def ofRow (row : AccessPolicy) : AccessPolicy :=
  { row with
    validFrom := row.validFrom.map Host.readDateTime
    validUntil := row.validUntil.map Host.readDateTime }

/-- A policy that is read back keeps its id. -/
@[simp] theorem ofRow_id (p : AccessPolicy) : (ofRow p).id = p.id := rfl

/-- The policy with the id, as it is read back. -/
def getByIdAsync (db : Db) (id : String) : Option AccessPolicy :=
  (db.accessPolicies.find? id).map ofRow

/-- What is read back after an insert or an update is the stored row. -/
theorem getByIdAsync_of_written {policy q : AccessPolicy} {db db' : Db}
    (hwrite : insertAsync policy db = .ok db' ∨ updateAsync policy db = db')
    (hq : getByIdAsync db' policy.id = some q) : q = ofRow (toRow policy) := by
  obtain ⟨row, hrow, rfl⟩ := Option.map_eq_some_iff.mp hq
  obtain ⟨hmem, hid⟩ := Table.find?_eq_some_iff.mp hrow
  congr 1
  rcases hwrite with hinsert | rfl
  · obtain ⟨accessPolicies, htable, rfl⟩ := insertAsync_eq_ok hinsert
    have hnew : toRow policy ∈ accessPolicies.rows :=
      (Table.mem_insert? htable).mpr (Or.inr rfl)
    exact accessPolicies.eq_of_key_eq hmem hnew hid
  · obtain ⟨old, -, rfl⟩ := mem_updateAsync.mp hmem
    split at hid
    · rename_i hold
      rw [if_pos hold, hold]
      rfl
    · rename_i hold
      exact absurd hid hold

/-- The policies that are assigned at the door, once for every assignment. -/
def getByAccessPointIdAsync (db : Db) (accessPointId : String) : List AccessPolicy :=
  (Host.scanOrder (db.accessPolicies.rows.flatMap fun p =>
    (db.accessAssignments.rows.filter fun a =>
      p.id = a.policyId ∧ a.accessPointId = accessPointId).map fun _ => p)).map ofRow

/-- The policies that are assigned to the user or to the user's group, each once. -/
def getByUserIdAsync (db : Db) (userId : String) : List AccessPolicy :=
  (Host.scanOrder (db.accessPolicies.rows.flatMap fun p =>
    (db.accessAssignments.rows.filter fun a => p.id = a.policyId).flatMap fun a =>
      -- `LEFT JOIN Users u ON u.Id = @UserId` does not depend on the assignment.
      (Table.leftJoin (db.users.rows.filter fun u => u.id = userId)).filterMap fun u =>
        if assignedTo userId a u then some p else none).dedup).map ofRow

/-- The policies of a door are those of its assignments. -/
theorem mem_getByAccessPointIdAsync {db : Db} {accessPointId : String} {p : AccessPolicy} :
    p ∈ getByAccessPointIdAsync db accessPointId
      ↔ ∃ row ∈ db.accessPolicies.rows, ofRow row = p
          ∧ ∃ a ∈ db.accessAssignments.rows, a.policyId = row.id
              ∧ a.accessPointId = accessPointId := by
  simp only [getByAccessPointIdAsync, List.mem_map, mem_scanOrder, List.mem_flatMap,
    List.mem_filter, decide_eq_true_eq]
  constructor
  · rintro ⟨row, ⟨row', hrow, a, ⟨ha, hpolicy, hdoor⟩, rfl⟩, rfl⟩
    exact ⟨row', hrow, rfl, a, ha, hpolicy.symm, hdoor⟩
  · rintro ⟨row, hrow, rfl, a, ha, hpolicy, hdoor⟩
    exact ⟨row, ⟨row, hrow, a, ⟨ha, hpolicy.symm, hdoor⟩, rfl⟩, rfl⟩

omit [Host] in
/-- The `WHERE` clause is true of a joined row exactly when the assignment names the user. -/
theorem exists_assignedTo_iff {db : Db} {userId : String} {a : AccessAssignment} :
    (∃ joined ∈ Table.leftJoin (db.users.rows.filter fun u => u.id = userId),
        assignedTo userId a joined = true)
      ↔ Names db userId a := by
  rw [Table.exists_mem_leftJoin]
  simp only [List.mem_filter, decide_eq_true_eq, assignedTo_iff]
  constructor
  · rintro (⟨-, hdirect | ⟨g, -, user, hnone, -⟩⟩
      | ⟨user, ⟨huser, hid⟩, hdirect | ⟨g, hg, v, hv, hgroup⟩⟩)
    · exact Or.inl hdirect
    · cases hnone
    · exact Or.inl hdirect
    · cases hv
      exact Or.inr ⟨g, hg, user, huser, hid, hgroup⟩
  · rintro (hdirect | ⟨g, hg, user, huser, hid, hgroup⟩)
    · -- The join has a row in any case, with nulls if there is no such user.
      rcases hrows : db.users.rows.filter fun u => u.id = userId with _ | ⟨user, users⟩
      · exact Or.inl ⟨hrows, Or.inl hdirect⟩
      · have huser : user ∈ db.users.rows.filter fun u => u.id = userId := by
          rw [hrows]
          exact List.mem_cons_self
        simp only [List.mem_filter, decide_eq_true_eq] at huser
        exact Or.inr ⟨user, huser, Or.inl hdirect⟩
    · exact Or.inr ⟨user, ⟨huser, hid⟩, Or.inr ⟨g, hg, user, rfl, hgroup⟩⟩

/-- The query returns the policies that are given to the user id. -/
theorem mem_getByUserIdAsync_iff {db : Db} {userId : String} {p : AccessPolicy} :
    p ∈ getByUserIdAsync db userId
      ↔ ∃ row ∈ db.accessPolicies.rows, ofRow row = p ∧ GivenTo db userId row.id := by
  simp only [getByUserIdAsync, List.mem_map, mem_scanOrder, List.mem_dedup, List.mem_flatMap,
    List.mem_filter, List.mem_filterMap, decide_eq_true_eq]
  constructor
  · rintro ⟨row, ⟨row', hrow, a, ⟨ha, hpolicy⟩, joined, hjoined, hif⟩, rfl⟩
    split at hif
    · rename_i hassigned
      cases hif
      exact ⟨row, hrow, rfl, a, ha, hpolicy.symm,
        exists_assignedTo_iff.mp ⟨joined, hjoined, hassigned⟩⟩
    · cases hif
  · rintro ⟨row, hrow, rfl, a, ha, hpolicy, hnames⟩
    obtain ⟨joined, hjoined, hassigned⟩ := exists_assignedTo_iff.mpr hnames
    exact ⟨row, ⟨row, hrow, a, ⟨ha, hpolicy.symm⟩, joined, hjoined, by rw [if_pos hassigned]⟩, rfl⟩

/-- A policy that the query returns is read from a row. -/
theorem exists_row_of_mem_getByUserIdAsync {db : Db} {userId : String} {p : AccessPolicy}
    (hp : p ∈ getByUserIdAsync db userId) : ∃ row ∈ db.accessPolicies.rows, ofRow row = p := by
  obtain ⟨row, hrow, hread, -⟩ := mem_getByUserIdAsync_iff.mp hp
  exact ⟨row, hrow, hread⟩

/-- The policies of a stored user are those of the assignments for the user. -/
theorem mem_getByUserIdAsync {db : Db} {u : User} (hu : u ∈ db.users.rows) {p : AccessPolicy} :
    p ∈ getByUserIdAsync db u.id
      ↔ ∃ row ∈ db.accessPolicies.rows, ofRow row = p
          ∧ ∃ a ∈ db.accessAssignments.rows, a.policyId = row.id ∧ IsFor a u := by
  simp only [mem_getByUserIdAsync_iff, GivenTo, names_iff_isFor hu]

end Queries

end AccessPolicyRepository

/-! ### Hardware slots -/

namespace HardwareSlotRepository

/-- The slot with the number at the door. -/
def getSlotAsync (db : Db) (accessPointId : String) (slotNumber : Int) : Option HardwareSlot :=
  db.hardwareSlots.rows.find? fun s => s.accessPointId = accessPointId ∧ s.slotNumber = slotNumber

/-- `UPDATE HardwareSlots SET f WHERE p`. -/
def updateWhere (p : HardwareSlot → Bool) (f : HardwareSlot → HardwareSlot)
    (hid : ∀ s, (f s).id = s.id) (hplace : ∀ s, place (f s) = place s) (db : Db) : Db :=
  { db with hardwareSlots := db.hardwareSlots.update p f hid hplace }

/-- A new status of a slot. -/
def updateSlotSyncStatusAsync (slotId : String) (status : SlotSyncStatus) : Db → Db :=
  updateWhere (fun s => s.id = slotId) (fun s => { s with syncStatus := status })
    (fun _ => rfl) fun _ => rfl

/-- A slot without its user and its credential. -/
def clearSlotAsync (slotId : String) : Db → Db :=
  updateWhere (fun s => s.id = slotId) (fun s => { s with userId := none, credentialId := none })
    (fun _ => rfl) fun _ => rfl

/-- The slots after a write. -/
theorem mem_updateWhere {p : HardwareSlot → Bool} {f : HardwareSlot → HardwareSlot}
    {hid : ∀ s, (f s).id = s.id} {hplace : ∀ s, place (f s) = place s} {db : Db}
    {x : HardwareSlot} :
    x ∈ (updateWhere p f hid hplace db).hardwareSlots.rows
      ↔ ∃ s ∈ db.hardwareSlots.rows, x = if p s then f s else s :=
  @HardwareSlots.mem_update db.hardwareSlots p f hid hplace x

/-- The slot that is found is the one with this number at this door, because a place is unique. -/
theorem getSlotAsync_eq_some_iff {db : Db} {accessPointId : String} {slotNumber : Int}
    {s : HardwareSlot} :
    getSlotAsync db accessPointId slotNumber = some s
      ↔ s ∈ db.hardwareSlots.rows ∧ s.accessPointId = accessPointId
          ∧ s.slotNumber = slotNumber := by
  constructor
  · intro h
    exact ⟨List.mem_of_find?_eq_some h, by simpa using List.find?_some h⟩
  · rintro ⟨hs, hdoor, hslot⟩
    cases hf : getSlotAsync db accessPointId slotNumber with
    | none =>
      have := List.find?_eq_none.mp hf s hs
      simp [hdoor, hslot] at this
    | some s' =>
      obtain ⟨hdoor', hslot'⟩ : s'.accessPointId = accessPointId ∧ s'.slotNumber = slotNumber := by
        simpa using List.find?_some hf
      rw [HardwareSlots.eq_of_place hs (List.mem_of_find?_eq_some hf) (hdoor.trans hdoor'.symm)
        (hslot.trans hslot'.symm)]

/-- Two updates of one row are one update. -/
theorem updateWhere_updateWhere_id {id : String} {f g : HardwareSlot → HardwareSlot}
    {hf : ∀ s, (f s).id = s.id} {hfplace : ∀ s, place (f s) = place s}
    {hg : ∀ s, (g s).id = s.id} {hgplace : ∀ s, place (g s) = place s} {db : Db} :
    updateWhere (fun s => s.id = id) g hg hgplace
        (updateWhere (fun s => s.id = id) f hf hfplace db)
      = updateWhere (fun s => s.id = id) (fun s => g (f s)) (fun s => (hg _).trans (hf s))
          (fun s => (hgplace _).trans (hfplace s)) db := by
  have htable : ∀ t : HardwareSlots,
      (t.update (fun s => s.id = id) f hf hfplace).update (fun s => s.id = id) g hg hgplace
        = t.update (fun s => s.id = id) (fun s => g (f s)) (fun s => (hg _).trans (hf s))
            fun s => (hgplace _).trans (hfplace s) := fun t =>
    HardwareSlots.ext (t.table.update_update _ f g hf hg fun s => by rw [hf])
  simp only [updateWhere, htable]

/-- An update keeps the place of every row. -/
theorem getSlotAsync_updateWhere {p : HardwareSlot → Bool} {f : HardwareSlot → HardwareSlot}
    {hid : ∀ s, (f s).id = s.id} {hplace : ∀ s, place (f s) = place s} {db : Db}
    {accessPointId : String} {slotNumber : Int} :
    getSlotAsync (updateWhere p f hid hplace db) accessPointId slotNumber
      = (getSlotAsync db accessPointId slotNumber).map fun s => if p s then f s else s := by
  have hkeep : ∀ s, place (if p s then f s else s) = place s := by
    intro s
    split
    · exact hplace s
    · rfl
  show (db.hardwareSlots.rows.map fun s => if p s then f s else s).find? _ = _
  rw [List.find?_map, getSlotAsync]
  congr 2
  funext s
  obtain ⟨hdoor, hslot⟩ := Prod.ext_iff.mp (hkeep s)
  simp only [place] at hdoor hslot
  simp only [Function.comp_apply, hdoor, hslot]

/-- An update of one row, seen from the places. -/
theorem getSlotAsync_updateWhere_id {r : HardwareSlot} {f : HardwareSlot → HardwareSlot}
    {hid : ∀ s, (f s).id = s.id} {hplace : ∀ s, place (f s) = place s} {db : Db}
    (hr : r ∈ db.hardwareSlots.rows) (accessPointId : String) (slotNumber : Int) :
    getSlotAsync (updateWhere (fun s => s.id = r.id) f hid hplace db) accessPointId slotNumber
      = if accessPointId = r.accessPointId ∧ slotNumber = r.slotNumber then some (f r)
        else getSlotAsync db accessPointId slotNumber := by
  rw [getSlotAsync_updateWhere]
  split
  · rename_i h
    obtain ⟨rfl, rfl⟩ := h
    rw [getSlotAsync_eq_some_iff.mpr ⟨hr, rfl, rfl⟩]
    simp
  · rename_i h
    cases hslot : getSlotAsync db accessPointId slotNumber with
    | none => rfl
    | some s =>
      obtain ⟨hs, rfl, rfl⟩ := getSlotAsync_eq_some_iff.mp hslot
      have hne : s.id ≠ r.id := by
        intro heq
        rw [HardwareSlots.eq_of_id hs hr heq] at h
        exact h ⟨rfl, rfl⟩
      simp [hne]

variable [Host]

/-- The slots of a door, in the order of their numbers. -/
def getSlotsForDoorAsync (db : Db) (accessPointId : String) : List HardwareSlot :=
  orderBy HardwareSlot.slotNumber
    (db.hardwareSlots.rows.filter fun s => s.accessPointId = accessPointId)

/-- `INSERT ... ON CONFLICT(AccessPointId, SlotNumber) DO UPDATE`, with a new id. -/
def upsert (accessPointId userId credentialId : String) (slotNumber : Int) (db : Db) :
    Except SqliteException Db :=
  if accessPointId ∉ db.accessPoints.keys ∨ userId ∉ db.users.keys
      ∨ credentialId ∉ db.credentials.keys then .error .foreignKey
  else if (getSlotAsync db accessPointId slotNumber).isSome then
    -- The row keeps its id, and gets the new references.
    .ok (updateWhere (fun s => s.accessPointId = accessPointId ∧ s.slotNumber = slotNumber)
      (fun s => { s with
        userId := some userId, credentialId := some credentialId, syncStatus := .synced })
      (fun _ => rfl) (fun _ => rfl) db)
  else
    match db.hardwareSlots.insert?
      { id := db.newGuid, accessPointId, slotNumber
        userId := some userId, credentialId := some credentialId, syncStatus := .synced } with
    | .error e => .error e
    | .ok hardwareSlots => .ok { db with hardwareSlots }

/-- An upsert of stored references succeeds, and leaves one row at its place. -/
theorem upsert_of_stored {accessPointId userId credentialId : String} {slotNumber : Int} {db : Db}
    (hdoor : accessPointId ∈ db.accessPoints.keys) (huser : userId ∈ db.users.keys)
    (hcredential : credentialId ∈ db.credentials.keys) :
    ∃ hardwareSlots r,
      upsert accessPointId userId credentialId slotNumber db = .ok { db with hardwareSlots }
        ∧ r.userId = some userId ∧ r.credentialId = some credentialId ∧ r.syncStatus = .synced
        ∧ ∀ door n, getSlotAsync { db with hardwareSlots } door n
            = if door = accessPointId ∧ n = slotNumber then some r else getSlotAsync db door n := by
  have hstored : ¬ (accessPointId ∉ db.accessPoints.keys ∨ userId ∉ db.users.keys
      ∨ credentialId ∉ db.credentials.keys) := by
    simp [hdoor, huser, hcredential]
  unfold upsert
  rw [if_neg hstored]
  cases hslot : getSlotAsync db accessPointId slotNumber with
  | some s =>
    -- The row that has the number is updated.
    refine ⟨_, { s with
      userId := some userId, credentialId := some credentialId, syncStatus := .synced },
      rfl, rfl, rfl, rfl, fun door n => ?_⟩
    have hupdate := @getSlotAsync_updateWhere
      (fun s => s.accessPointId = accessPointId ∧ s.slotNumber = slotNumber)
      (fun s => { s with
        userId := some userId, credentialId := some credentialId, syncStatus := .synced })
      (fun _ => rfl) (fun _ => rfl) db door n
    refine hupdate.trans ?_
    split
    · rename_i h
      obtain ⟨rfl, rfl⟩ := h
      obtain ⟨-, hd, hn⟩ := getSlotAsync_eq_some_iff.mp hslot
      rw [hslot]
      simp [hd, hn]
    · rename_i h
      cases hother : getSlotAsync db door n with
      | none => rfl
      | some t =>
        obtain ⟨-, rfl, rfl⟩ := getSlotAsync_eq_some_iff.mp hother
        simp [h]
  | none =>
    -- No row has the number, so a row under a new id is inserted.
    have hplace : ∀ x ∈ db.hardwareSlots.rows, place x ≠ (accessPointId, slotNumber) := by
      intro x hx heq
      obtain ⟨hd, hn⟩ := Prod.ext_iff.mp heq
      rw [getSlotAsync_eq_some_iff.mpr ⟨hx, hd, hn⟩] at hslot
      cases hslot
    generalize hr : ({
      id := db.newGuid, accessPointId, slotNumber, userId := some userId
      credentialId := some credentialId, syncStatus := .synced } : HardwareSlot) = r
    have hnew : r.id ∉ db.hardwareSlots.table.keys := by
      rw [← hr]
      exact db.newGuid_notMem_hardwareSlots
    obtain ⟨hardwareSlots, hinsert, hrows⟩ :=
      HardwareSlots.exists_insert? (fun x hx => by rw [← hr]; exact hplace x hx) hnew
    rw [hinsert]
    refine ⟨hardwareSlots, r, rfl, by rw [← hr], by rw [← hr], by rw [← hr], fun door n => ?_⟩
    show hardwareSlots.rows.find? _ = _
    rw [hrows, List.find?_append]
    split
    · rename_i h
      obtain ⟨rfl, rfl⟩ := h
      rw [show db.hardwareSlots.rows.find? _ = none from hslot]
      simp [← hr]
    · rename_i h
      have hne : ¬ (accessPointId = door ∧ slotNumber = n) := fun heq => h ⟨heq.1.symm, heq.2.symm⟩
      simp [← hr, hne, getSlotAsync]

/-- The slots of a door are those of the table at the door. -/
@[simp] theorem mem_getSlotsForDoorAsync {db : Db} {accessPointId : String} {s : HardwareSlot} :
    s ∈ getSlotsForDoorAsync db accessPointId
      ↔ s ∈ db.hardwareSlots.rows ∧ s.accessPointId = accessPointId := by
  simp [getSlotsForDoorAsync]

end HardwareSlotRepository

end CodeMaster.Data
