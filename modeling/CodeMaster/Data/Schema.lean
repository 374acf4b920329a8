import CodeMaster.Lib.Table
import CodeMaster.Core.Models

/-!
# `CodeMaster.Data.Schema`: the database of `InitSchema.sql`

`Db` holds one `Table` for each SQL table that the modeled code reads or writes. The primary
keys are part of the table type, and `UNIQUE(AccessPointId, SlotNumber)` is a field of
`HardwareSlots`. The foreign keys are checked by the statements that insert or update a
reference, and their actions (`CASCADE`, `SET NULL`) by the statements that delete. The audit
log is a table of its own, in `AuditLogRepository`.
-/

set_option autoImplicit false

namespace CodeMaster.Data

open CodeMaster.Core Relational

/-- The constraints that a statement can violate. -/
inductive SqliteException where
  | unique (column : String)
  | foreignKey
  deriving DecidableEq, Repr

/-- `SqliteException.Message`. -/
def SqliteException.message : SqliteException → String
  | .unique column => "SQLite Error 19: 'UNIQUE constraint failed: " ++ column ++ "'."
  | .foreignKey => "SQLite Error 19: 'FOREIGN KEY constraint failed'."

/-- The columns of `UNIQUE(AccessPointId, SlotNumber)`. -/
def place (s : HardwareSlot) : String × Int := (s.accessPointId, s.slotNumber)

/-- The table `HardwareSlots` with its two keys. -/
structure HardwareSlots where
  table : Table HardwareSlot.id
  unique : table.UniqueOn place
  deriving DecidableEq

namespace HardwareSlots

/-- A table without rows. -/
def empty : HardwareSlots := ⟨.empty, List.nodup_nil⟩

/-- The rows of the table. -/
def rows (t : HardwareSlots) : List HardwareSlot := t.table.rows

/-- `UPDATE HardwareSlots`, for columns outside both keys. -/
def update (t : HardwareSlots) (p : HardwareSlot → Bool) (f : HardwareSlot → HardwareSlot)
    (hid : ∀ s, (f s).id = s.id) (hplace : ∀ s, place (f s) = place s) : HardwareSlots where
  table := t.table.update p f hid
  unique := t.unique.update p hid hplace

/-- `DELETE FROM HardwareSlots`. -/
def delete (t : HardwareSlots) (p : HardwareSlot → Bool) : HardwareSlots where
  table := t.table.delete p
  unique := t.unique.delete p

/-- `INSERT INTO HardwareSlots`, which fails when one of the keys is taken. -/
def insert? (t : HardwareSlots) (s : HardwareSlot) : Except SqliteException HardwareSlots :=
  if hplace : ∀ x ∈ t.rows, place x ≠ place s then
    match hi : t.table.insert? s with
    | some table => .ok { table, unique := t.unique.insert? hplace hi }
    | none => .error (.unique "HardwareSlots.Id")
  else .error (.unique "HardwareSlots.AccessPointId, HardwareSlots.SlotNumber")

/-- A table of slots is its table of rows. -/
theorem ext {t t' : HardwareSlots} (h : t.table = t'.table) : t = t' := by
  cases t
  cases h
  rfl

/-- An insert succeeds when the place and the id are new. -/
theorem insert?_eq_ok_iff {t t' : HardwareSlots} {s : HardwareSlot} :
    t.insert? s = .ok t'
      ↔ (∀ x ∈ t.rows, place x ≠ place s) ∧ s.id ∉ t.table.keys
          ∧ t'.rows = t.rows ++ [s] := by
  unfold insert?
  split
  · rename_i hplace
    split
    · rename_i table hi
      obtain ⟨hkey, hrows⟩ := Table.insert?_eq_some_iff.mp hi
      constructor
      · rintro ⟨⟩
        exact ⟨hplace, hkey, hrows⟩
      · rintro ⟨-, -, h⟩
        have : table = t'.table := Table.ext (hrows.trans h.symm)
        subst this
        rfl
    · -- The id is taken.
      rename_i hi
      have hkey := Table.insert?_eq_none_iff.mp hi
      exact ⟨nofun, fun h => absurd hkey h.2.1⟩
  · -- The place is taken.
    rename_i hplace
    exact ⟨nofun, fun h => absurd h.1 hplace⟩

/-- A new id at a new place is inserted. -/
theorem exists_insert? {t : HardwareSlots} {s : HardwareSlot}
    (hplace : ∀ x ∈ t.rows, place x ≠ place s) (hid : s.id ∉ t.table.keys) :
    ∃ t', t.insert? s = .ok t' ∧ t'.rows = t.rows ++ [s] := by
  cases h : t.insert? s with
  | ok t' => exact ⟨t', rfl, (insert?_eq_ok_iff.mp h).2.2⟩
  | error e =>
    obtain ⟨table, htable⟩ := Table.exists_insert? hid
    have hrows := (Table.insert?_eq_some_iff.mp htable).2
    have hok : t.insert? s = .ok ⟨table, t.unique.insert? hplace htable⟩ :=
      insert?_eq_ok_iff.mpr ⟨hplace, hid, hrows⟩
    rw [hok] at h
    cases h

/-- The slots after an update. -/
theorem mem_update {t : HardwareSlots} {p : HardwareSlot → Bool}
    {f : HardwareSlot → HardwareSlot} {hid : ∀ s, (f s).id = s.id}
    {hplace : ∀ s, place (f s) = place s} {x : HardwareSlot} :
    x ∈ (t.update p f hid hplace).rows ↔ ∃ s ∈ t.rows, x = if p s then f s else s :=
  @Table.mem_update _ _ _ t.table p f hid x

/-- A slot number of a door has one row. -/
theorem eq_of_place {t : HardwareSlots} {s s' : HardwareSlot} (hs : s ∈ t.rows)
    (hs' : s' ∈ t.rows) (hdoor : s.accessPointId = s'.accessPointId)
    (hslot : s.slotNumber = s'.slotNumber) : s = s' :=
  t.unique.eq hs hs' (Prod.ext hdoor hslot)

/-- Two slots with one id are the same slot. -/
theorem eq_of_id {t : HardwareSlots} {s s' : HardwareSlot} (hs : s ∈ t.rows)
    (hs' : s' ∈ t.rows) (hid : s.id = s'.id) : s = s' :=
  t.table.eq_of_key_eq hs hs' hid

end HardwareSlots

/-- The database. -/
structure Db where
  userGroups : Table UserGroup.id := .empty
  users : Table User.id := .empty
  credentials : Table Credential.id := .empty
  accessPoints : Table AccessPoint.id := .empty
  accessPolicies : Table AccessPolicy.id := .empty
  accessAssignments : Table AccessAssignment.id := .empty
  hardwareSlots : HardwareSlots := .empty
  deriving DecidableEq

namespace Db

/-- The ids that occur in the database, in keys and in references. `Guid.NewGuid` avoids
them. -/
def ids (db : Db) : List String :=
  db.userGroups.keys ++ db.users.keys ++ db.users.rows.filterMap User.groupId
    ++ db.credentials.keys ++ db.credentials.rows.map Credential.userId
    ++ db.accessPoints.keys ++ db.accessPolicies.keys
    ++ db.accessAssignments.keys ++ db.accessAssignments.rows.map AccessAssignment.accessPointId
    ++ db.accessAssignments.rows.filterMap AccessAssignment.userId
    ++ db.accessAssignments.rows.filterMap AccessAssignment.groupId
    ++ db.accessAssignments.rows.map AccessAssignment.policyId
    ++ db.hardwareSlots.table.keys ++ db.hardwareSlots.rows.map HardwareSlot.accessPointId
    ++ db.hardwareSlots.rows.filterMap HardwareSlot.userId
    ++ db.hardwareSlots.rows.filterMap HardwareSlot.credentialId

variable [Host]

/-- `Guid.NewGuid().ToString()`. -/
def newGuid (db : Db) : String := Host.newGuid db.ids

/-- A new id is not blank. -/
theorem newGuid_not_blank (db : Db) : isNullOrWhiteSpace (some db.newGuid) = false :=
  Host.newGuid_not_blank db.ids

/-- A new id is in no column of ids. -/
theorem newGuid_notMem {db : Db} {column : List String} (hcolumn : column ⊆ db.ids) :
    db.newGuid ∉ column := fun h => Host.newGuid_fresh db.ids (hcolumn h)

/-- A new id is no user's. -/
theorem newGuid_notMem_users (db : Db) : db.newGuid ∉ db.users.keys :=
  newGuid_notMem fun _ h => by simp only [ids, List.mem_append]; tauto

/-- A new id is no credential's. -/
theorem newGuid_notMem_credentials (db : Db) : db.newGuid ∉ db.credentials.keys :=
  newGuid_notMem fun _ h => by simp only [ids, List.mem_append]; tauto

/-- A new id is no policy's. -/
theorem newGuid_notMem_accessPolicies (db : Db) : db.newGuid ∉ db.accessPolicies.keys :=
  newGuid_notMem fun _ h => by simp only [ids, List.mem_append]; tauto

/-- A new id is no assignment's. -/
theorem newGuid_notMem_accessAssignments (db : Db) : db.newGuid ∉ db.accessAssignments.keys :=
  newGuid_notMem fun _ h => by simp only [ids, List.mem_append]; tauto

/-- A new id is no slot's. -/
theorem newGuid_notMem_hardwareSlots (db : Db) : db.newGuid ∉ db.hardwareSlots.table.keys :=
  newGuid_notMem fun _ h => by simp only [ids, List.mem_append]; tauto

/-- A new id names no assigned policy, also where the assignment dangles. -/
theorem newGuid_ne_policyId (db : Db) {a : AccessAssignment}
    (ha : a ∈ db.accessAssignments.rows) : a.policyId ≠ db.newGuid := by
  intro h
  have hnew : db.newGuid ∉ db.accessAssignments.rows.map AccessAssignment.policyId :=
    newGuid_notMem fun _ h => by simp only [ids, List.mem_append]; tauto
  exact hnew (List.mem_map.mpr ⟨a, ha, h⟩)

/-- A new id names the user of no assignment. -/
theorem newGuid_ne_userId (db : Db) {a : AccessAssignment}
    (ha : a ∈ db.accessAssignments.rows) : a.userId ≠ some db.newGuid := by
  intro h
  have hnew : db.newGuid ∉ db.accessAssignments.rows.filterMap AccessAssignment.userId :=
    newGuid_notMem fun _ h => by simp only [ids, List.mem_append]; tauto
  exact hnew (List.mem_filterMap.mpr ⟨a, ha, h⟩)

/-- A new id names the credential of no slot row. -/
theorem newGuid_ne_credentialId (db : Db) {s : HardwareSlot} (hs : s ∈ db.hardwareSlots.rows) :
    s.credentialId ≠ some db.newGuid := by
  intro h
  have hnew : db.newGuid ∉ db.hardwareSlots.rows.filterMap HardwareSlot.credentialId :=
    newGuid_notMem fun _ h => by simp only [ids, List.mem_append]; tauto
  exact hnew (List.mem_filterMap.mpr ⟨s, hs, h⟩)

end Db

end CodeMaster.Data
