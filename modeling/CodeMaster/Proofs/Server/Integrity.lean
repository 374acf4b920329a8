import CodeMaster.Lib.Transition
import CodeMaster.Proofs.Server.Effects

/-!
# `CodeMaster.Proofs.Server.Integrity`: does every reference lead somewhere?

`Intact` says that the ten foreign keys of the schema hold, and one thing more that the schema does
not ask for: a slot that refers to a credential refers to the owner of this credential too. Each
write keeps it, and so it holds after every run (`intact_after`).

The foreign keys are of two kinds. Some refuse a write whose reference leads nowhere, and some act
on a deletion: a deleted user takes its credentials along and leaves its slots without a user. The
lemmas have one write each, and the events follow from `Effects`.

For `slotOwner`, a slot gets its user and its credential in one write, from a pair that the pass has
selected, and loses both in one write, or one of them by a foreign key.
-/

set_option autoImplicit false

namespace CodeMaster.Proofs.Server

open CodeMaster.Core CodeMaster.Data CodeMaster.Engine CodeMaster.Web CodeMaster.Mcp Exec Relation
open CodeMaster.Server (Event)
open CodeMaster.Administration (PolicyChange)
open Relational

/-- Every row that refers to a row of another table finds it. The columns are those with a foreign
key: an entry of the audit log refers to its door only, and its `UserId` can name a user that is not
stored. What no foreign key says is `slotOwner`. -/
structure Intact (s : Server) : Prop where
  userGroup : ∀ u ∈ s.db.users.rows, ∀ g, u.groupId = some g → g ∈ s.db.userGroups.keys
  credentialUser : ∀ c ∈ s.db.credentials.rows, c.userId ∈ s.db.users.keys
  assignmentDoor : ∀ a ∈ s.db.accessAssignments.rows, a.accessPointId ∈ s.db.accessPoints.keys
  assignmentUser : ∀ a ∈ s.db.accessAssignments.rows, ∀ id, a.userId = some id →
    id ∈ s.db.users.keys
  assignmentGroup : ∀ a ∈ s.db.accessAssignments.rows, ∀ g, a.groupId = some g →
    g ∈ s.db.userGroups.keys
  assignmentPolicy : ∀ a ∈ s.db.accessAssignments.rows, a.policyId ∈ s.db.accessPolicies.keys
  slotDoor : ∀ x ∈ s.db.hardwareSlots.rows, x.accessPointId ∈ s.db.accessPoints.keys
  slotUser : ∀ x ∈ s.db.hardwareSlots.rows, ∀ id, x.userId = some id → id ∈ s.db.users.keys
  /-- The credential of a slot is stored, and it is a credential of the slot's user. -/
  slotOwner : ∀ x ∈ s.db.hardwareSlots.rows, ∀ id, x.credentialId = some id →
    ∃ c ∈ s.db.credentials.rows, c.id = id ∧ x.userId = some c.userId
  logDoor : ∀ row ∈ s.accessLogs.rows, row.accessPointId ∈ s.db.accessPoints.keys

/-- The server without rows. -/
theorem intact_empty : Intact { db := {} } where
  userGroup _ h := absurd h List.not_mem_nil
  credentialUser _ h := absurd h List.not_mem_nil
  assignmentDoor _ h := absurd h List.not_mem_nil
  assignmentUser _ h := absurd h List.not_mem_nil
  assignmentGroup _ h := absurd h List.not_mem_nil
  assignmentPolicy _ h := absurd h List.not_mem_nil
  slotDoor _ h := absurd h List.not_mem_nil
  slotUser _ h := absurd h List.not_mem_nil
  slotOwner _ h := absurd h List.not_mem_nil
  logDoor _ h := absurd h List.not_mem_nil

variable {s : Server}

/-! ### The users -/

/-- SQLite finds the group of a user, or there is none to find. -/
theorem groupExists_some {db : Db} {groupId : Option String}
    (h : UserRepository.groupExists db groupId = true) {g : String} (hg : groupId = some g) :
    g ∈ db.userGroups.keys := by
  rw [hg] at h
  exact of_decide_eq_true h

/-- A new user refers to a stored group. -/
theorem Intact.insertUser (h : Intact s) {user : User} {db : Db}
    (hinsert : UserRepository.insertAsync user s.db = .ok db) : Intact { s with db } := by
  obtain ⟨users, hu, hgroup, rfl⟩ := UserRepository.insertAsync_eq_ok hinsert
  have hkeys : ∀ {id : String}, id ∈ s.db.users.keys → id ∈ users.keys := fun hid =>
    (Table.mem_keys_insert? hu).mpr (Or.inl hid)
  exact { h with
    userGroup := by
      intro u hmem g hg
      rcases (Table.mem_insert? hu).mp hmem with hold | rfl
      · exact h.userGroup u hold g hg
      · exact groupExists_some hgroup hg
    credentialUser := fun c hc => hkeys (h.credentialUser c hc)
    assignmentUser := fun a ha id hid => hkeys (h.assignmentUser a ha id hid)
    slotUser := fun x hx id hid => hkeys (h.slotUser x hx id hid) }

/-- An updated user refers to a stored group. -/
theorem Intact.updateUser (h : Intact s) {user : User} {db : Db}
    (hupdate : UserRepository.updateAsync user s.db = .ok db) : Intact { s with db } := by
  obtain ⟨users, rfl, hkeys, hrows⟩ := UserRepository.updateAsync_eq_ok hupdate
  exact { h with
    userGroup := by
      intro u hmem g hg
      rcases hrows u hmem with ⟨hold, -⟩ | ⟨hgroup, createdAt, rfl⟩
      · exact h.userGroup u hold g hg
      · exact groupExists_some hgroup hg
    credentialUser := fun c hc => hkeys ▸ h.credentialUser c hc
    assignmentUser := fun a ha id hid => hkeys ▸ h.assignmentUser a ha id hid
    slotUser := fun x hx id hid => hkeys ▸ h.slotUser x hx id hid }

/-- The rows that refer to a deleted user go, or lose the reference. -/
theorem Intact.deleteUser (h : Intact s) (id : String) :
    Intact { s with db := UserRepository.deleteAsync id s.db } := by
  have hkeys : ∀ {k : String}, k ∈ s.db.users.keys → k ≠ id →
      k ∈ (s.db.users.delete fun u => u.id = id).keys := fun hk hne =>
    (Table.mem_keys_delete _).mpr ⟨hk, hne⟩
  exact { h with
    userGroup := fun u hu => h.userGroup u (Table.mem_delete.mp hu).1
    credentialUser := by
      intro c hc
      obtain ⟨hc, hne⟩ := Table.mem_delete.mp hc
      exact hkeys (h.credentialUser c hc) (of_decide_eq_false hne)
    assignmentDoor := fun a ha => h.assignmentDoor a (Table.mem_delete.mp ha).1
    assignmentUser := by
      intro a ha k hk
      obtain ⟨ha, hne⟩ := Table.mem_delete.mp ha
      refine hkeys (h.assignmentUser a ha k hk) fun hid => of_decide_eq_false hne ?_
      rw [hk, hid]
    assignmentGroup := fun a ha => h.assignmentGroup a (Table.mem_delete.mp ha).1
    assignmentPolicy := fun a ha => h.assignmentPolicy a (Table.mem_delete.mp ha).1
    slotDoor := by
      intro x hx
      obtain ⟨row, hrow, rfl⟩ := List.mem_map.mp hx
      exact h.slotDoor row hrow
    slotUser := by
      intro x hx k hk
      obtain ⟨row, hrow, rfl⟩ := List.mem_map.mp hx
      obtain ⟨hk, hne⟩ := Option.filter_eq_some_iff.mp hk
      exact hkeys (h.slotUser row hrow k hk) (of_decide_eq_true hne)
    slotOwner := by
      intro x hx k hk
      obtain ⟨row, hrow, rfl⟩ := List.mem_map.mp hx
      obtain ⟨hk, hkept⟩ := Option.filter_eq_some_iff.mp hk
      obtain ⟨c, hc, rfl, howner⟩ := h.slotOwner row hrow k hk
      -- The credential is not one of the deleted user's.
      have hne : c.userId ≠ id := by
        intro hid
        refine of_decide_eq_true hkept (List.mem_map.mpr ⟨c, ?_, rfl⟩)
        exact List.mem_filter.mpr ⟨hc, decide_eq_true hid⟩
      refine ⟨c, Table.mem_delete.mpr ⟨hc, decide_eq_false hne⟩, rfl, ?_⟩
      exact Option.filter_eq_some_iff.mpr ⟨howner, decide_eq_true hne⟩ }

/-- After the deletion of a user, the user is not stored. -/
theorem notMem_delete (userId : String) (db : Db) :
    userId ∉ ((UsersController.delete userId).exec db).2.users.keys := by
  unfold UsersController.delete
  rw [exec_bind, exec_query]
  cases hget : UserRepository.getByIdAsync db userId with
  | none => exact UserRepository.getByIdAsync_eq_none_iff.mp hget
  | some user => exact fun hmem => ((Table.mem_keys_delete _).mp hmem).2 rfl

/-! ### The credentials -/

/-- A new credential refers to a stored user. -/
theorem Intact.insertCredential (h : Intact s) {credential : Credential} {db : Db}
    (hinsert : CredentialRepository.insertAsync credential s.db = .ok db) :
    Intact { s with db } := by
  obtain ⟨credentials, hc, huser, rfl⟩ := CredentialRepository.insertAsync_eq_ok hinsert
  exact { h with
    credentialUser := by
      intro c hmem
      rcases (Table.mem_insert? hc).mp hmem with hold | rfl
      · exact h.credentialUser c hold
      · exact huser
    slotOwner := by
      intro x hx k hk
      obtain ⟨c, hold, hid, howner⟩ := h.slotOwner x hx k hk
      exact ⟨c, (Table.mem_insert? hc).mpr (Or.inl hold), hid, howner⟩ }

/-- A deleted credential takes its place in the slots along: the foreign key writes null there. -/
theorem Intact.deleteCredential (h : Intact s) (id : String) :
    Intact { s with db := CredentialRepository.deleteAsync id s.db } := by
  exact { h with
    credentialUser := fun c hc => h.credentialUser c (Table.mem_delete.mp hc).1
    slotDoor := by
      intro x hx
      obtain ⟨row, hrow, rfl⟩ := List.mem_map.mp hx
      exact h.slotDoor row hrow
    slotUser := by
      intro x hx k hk
      obtain ⟨row, hrow, rfl⟩ := List.mem_map.mp hx
      exact h.slotUser row hrow k hk
    slotOwner := by
      intro x hx k hk
      obtain ⟨row, hrow, rfl⟩ := List.mem_map.mp hx
      obtain ⟨hk, hne⟩ := Option.filter_eq_some_iff.mp hk
      obtain ⟨c, hc, rfl, howner⟩ := h.slotOwner row hrow k hk
      exact ⟨c, Table.mem_delete.mpr ⟨hc, decide_eq_false (of_decide_eq_true hne)⟩, rfl, howner⟩ }

/-! ### The policies -/

/-- A new assignment refers to stored rows. SQLite checks all of them. -/
theorem Intact.assignPolicy (h : Intact s) {assignment : AccessAssignment} {db : Db}
    (hassign : AccessPolicyRepository.assignPolicyAsync assignment s.db = .ok db) :
    Intact { s with db } := by
  unfold AccessPolicyRepository.assignPolicyAsync at hassign
  split at hassign
  · cases hassign
  · rename_i accessAssignments ha
    split at hassign
    case isFalse => cases hassign
    case isTrue hkeys =>
      cases hassign
      -- The statement has checked the keys of the new row; the old rows keep theirs.
      obtain ⟨hdoor, huser, hgroup, hpolicy⟩ := hkeys
      exact { h with
        assignmentDoor := by
          intro a hmem
          rcases (Table.mem_insert? ha).mp hmem with hold | rfl
          · exact h.assignmentDoor a hold
          · exact hdoor
        assignmentUser := by
          intro a hmem id hid
          rcases (Table.mem_insert? ha).mp hmem with hold | rfl
          · exact h.assignmentUser a hold id hid
          · rw [hid] at huser
            exact of_decide_eq_true huser
        assignmentGroup := by
          intro a hmem g hg
          rcases (Table.mem_insert? ha).mp hmem with hold | rfl
          · exact h.assignmentGroup a hold g hg
          · exact groupExists_some hgroup hg
        assignmentPolicy := by
          intro a hmem
          rcases (Table.mem_insert? ha).mp hmem with hold | rfl
          · exact h.assignmentPolicy a hold
          · exact hpolicy }

/-- A deleted policy takes its assignments along. -/
theorem Intact.deletePolicy (h : Intact s) (id : String) :
    Intact { s with db := AccessPolicyRepository.deleteAsync id s.db } := by
  exact { h with
    assignmentDoor := fun a ha => h.assignmentDoor a (Table.mem_delete.mp ha).1
    assignmentUser := fun a ha => h.assignmentUser a (Table.mem_delete.mp ha).1
    assignmentGroup := fun a ha => h.assignmentGroup a (Table.mem_delete.mp ha).1
    assignmentPolicy := by
      intro a ha
      obtain ⟨ha, hne⟩ := Table.mem_delete.mp ha
      exact (Table.mem_keys_delete _).mpr ⟨h.assignmentPolicy a ha, of_decide_eq_false hne⟩ }

/-- Every statement about policies keeps the references. -/
theorem Intact.changePolicy (h : Intact s) {change : PolicyChange} {db : Db}
    (hchange : change.statement s.db = .ok db) : Intact { s with db } := by
  cases change with
  | insert policy =>
    obtain ⟨accessPolicies, hp, rfl⟩ := AccessPolicyRepository.insertAsync_eq_ok hchange
    exact { h with
      assignmentPolicy := fun a ha =>
        (Table.mem_keys_insert? hp).mpr (Or.inl (h.assignmentPolicy a ha)) }
  | update policy =>
    cases hchange
    exact { h with
      assignmentPolicy := by
        intro a ha
        have hkeys : (AccessPolicyRepository.updateAsync policy s.db).accessPolicies.keys
            = s.db.accessPolicies.keys := by
          simp [AccessPolicyRepository.updateAsync]
        exact hkeys ▸ h.assignmentPolicy a ha }
  | delete id =>
    cases hchange
    exact h.deletePolicy id
  | assign assignment => exact h.assignPolicy hchange
  | removeAssignment assignmentId =>
    cases hchange
    exact { h with
      assignmentDoor := fun a ha => h.assignmentDoor a (Table.mem_delete.mp ha).1
      assignmentUser := fun a ha => h.assignmentUser a (Table.mem_delete.mp ha).1
      assignmentGroup := fun a ha => h.assignmentGroup a (Table.mem_delete.mp ha).1
      assignmentPolicy := fun a ha => h.assignmentPolicy a (Table.mem_delete.mp ha).1 }

/-! ### The doors -/

/-- A new door is referred to by nothing. -/
theorem Intact.insertDoor (h : Intact s) {door : AccessPoint} {db : Db}
    (hinsert : AccessPointRepository.insertAsync door s.db = .ok db) : Intact { s with db } := by
  unfold AccessPointRepository.insertAsync at hinsert
  split at hinsert
  · cases hinsert
  · rename_i accessPoints hp
    cases hinsert
    have hkeys : ∀ {id : String}, id ∈ s.db.accessPoints.keys → id ∈ accessPoints.keys :=
      fun hid => (Table.mem_keys_insert? hp).mpr (Or.inl hid)
    exact { h with
      assignmentDoor := fun a ha => hkeys (h.assignmentDoor a ha)
      slotDoor := fun x hx => hkeys (h.slotDoor x hx)
      logDoor := fun row hrow => hkeys (h.logDoor row hrow) }

/-- An updated door keeps its id, and whatever refers to it. -/
theorem Intact.updateDoor (h : Intact s) (door : AccessPoint) :
    Intact { s with db := AccessPointRepository.updateAsync door s.db } := by
  have hkeys : (AccessPointRepository.updateAsync door s.db).accessPoints.keys
      = s.db.accessPoints.keys := by
    simp [AccessPointRepository.updateAsync]
  exact { h with
    assignmentDoor := fun a ha => hkeys ▸ h.assignmentDoor a ha
    slotDoor := fun x hx => hkeys ▸ h.slotDoor x hx
    logDoor := fun row hrow => hkeys ▸ h.logDoor row hrow }

/-- A deleted door takes its assignments, slots and log entries along. -/
theorem Intact.deleteDoor (h : Intact s) (id : String) :
    Intact { s with
      db := AccessPointRepository.deleteAsync id s.db
      accessLogs := s.accessLogs.delete fun row => row.accessPointId = id } := by
  have hkeys : ∀ {k : String}, k ∈ s.db.accessPoints.keys → decide (k = id) = false →
      k ∈ (s.db.accessPoints.delete fun p => p.id = id).keys := fun hk hne =>
    (Table.mem_keys_delete _).mpr ⟨hk, of_decide_eq_false hne⟩
  exact { h with
    assignmentDoor := by
      intro a ha
      obtain ⟨ha, hne⟩ := Table.mem_delete.mp ha
      exact hkeys (h.assignmentDoor a ha) hne
    assignmentUser := fun a ha => h.assignmentUser a (Table.mem_delete.mp ha).1
    assignmentGroup := fun a ha => h.assignmentGroup a (Table.mem_delete.mp ha).1
    assignmentPolicy := fun a ha => h.assignmentPolicy a (Table.mem_delete.mp ha).1
    slotDoor := by
      intro x hx
      obtain ⟨hx, hne⟩ := Table.mem_delete.mp hx
      exact hkeys (h.slotDoor x hx) hne
    slotUser := fun x hx => h.slotUser x (Table.mem_delete.mp hx).1
    slotOwner := fun x hx => h.slotOwner x (Table.mem_delete.mp hx).1
    logDoor := by
      intro row hrow
      obtain ⟨hrow, hne⟩ := Table.mem_delete.mp hrow
      exact hkeys (h.logDoor row hrow) hne }

/-- A new entry of the audit log refers to a stored door. -/
theorem Intact.insertLog (h : Intact s) {accessLogs : AccessLogs} {log : AccessLog}
    (hinsert : AuditLogRepository.insertAsync log s.db s.accessLogs = .ok accessLogs) :
    Intact { s with accessLogs } := by
  obtain ⟨userName, -, -, hdoor, hrows⟩ := AuditLogRepository.insertAsync_eq_ok_iff.mp hinsert
  exact { h with
    logDoor := by
      intro row hrow
      have hrow : row ∈ s.accessLogs.rows ++ [AuditLogRepository.toRow log userName] :=
        hrows ▸ hrow
      rcases List.mem_append.mp hrow with hold | hnew
      · exact h.logDoor row hold
      · rw [List.mem_singleton.mp hnew]
        exact hdoor }

/-! ### The slots -/

/-- A slot row of the table. -/
theorem Intact.of_slots (h : Intact s) {hardwareSlots : HardwareSlots}
    (hrows : ∀ x ∈ hardwareSlots.rows, x.accessPointId ∈ s.db.accessPoints.keys
      ∧ (∀ id, x.userId = some id → id ∈ s.db.users.keys)
      ∧ ∀ id, x.credentialId = some id →
        ∃ c ∈ s.db.credentials.rows, c.id = id ∧ x.userId = some c.userId) :
    Intact { s with db := { s.db with hardwareSlots } } := by
  exact { h with
    slotDoor := fun x hx => (hrows x hx).1
    slotUser := fun x hx => (hrows x hx).2.1
    slotOwner := fun x hx => (hrows x hx).2.2 }

/-- A new status leaves the references of a slot. -/
theorem Intact.updateSlotSyncStatus (h : Intact s) (slotId : String) (status : SlotSyncStatus) :
    Intact
      { s with db := HardwareSlotRepository.updateSlotSyncStatusAsync slotId status s.db } := by
  refine h.of_slots fun x hx => ?_
  obtain ⟨row, hrow, rfl⟩ := HardwareSlots.mem_update.mp hx
  split <;> exact ⟨h.slotDoor row hrow, h.slotUser row hrow, h.slotOwner row hrow⟩

/-- A cleared slot refers to its door only. -/
theorem Intact.clearSlot (h : Intact s) (slotId : String) :
    Intact { s with db := HardwareSlotRepository.clearSlotAsync slotId s.db } := by
  refine h.of_slots fun x hx => ?_
  obtain ⟨row, hrow, rfl⟩ := HardwareSlots.mem_update.mp hx
  split
  · exact ⟨h.slotDoor row hrow, nofun, nofun⟩
  · exact ⟨h.slotDoor row hrow, h.slotUser row hrow, h.slotOwner row hrow⟩

/-- The rows after an upsert that succeeds. -/
theorem upsert_eq_ok [Host] {accessPointId userId credentialId : String} {slotNumber : Int}
    {db db' : Db}
    (h : HardwareSlotRepository.upsert accessPointId userId credentialId slotNumber db = .ok db') :
    accessPointId ∈ db.accessPoints.keys ∧ userId ∈ db.users.keys
      ∧ ∃ hardwareSlots, db' = { db with hardwareSlots }
        ∧ ∀ x ∈ hardwareSlots.rows, x ∈ db.hardwareSlots.rows
          ∨ x.accessPointId = accessPointId ∧ x.userId = some userId
            ∧ x.credentialId = some credentialId := by
  unfold HardwareSlotRepository.upsert at h
  split at h
  case isTrue => cases h
  case isFalse hstored =>
    push Not at hstored
    refine ⟨hstored.1, hstored.2.1, ?_⟩
    split at h
    · -- The row at the place gets the references.
      cases h
      refine ⟨_, rfl, fun x hx => ?_⟩
      obtain ⟨row, hrow, rfl⟩ := HardwareSlots.mem_update.mp hx
      split
      case isTrue hplace => exact Or.inr ⟨(of_decide_eq_true hplace).1, rfl, rfl⟩
      case isFalse => exact Or.inl hrow
    · split at h
      case h_1 => cases h
      case h_2 hardwareSlots hinsert =>
        cases h
        refine ⟨hardwareSlots, rfl, fun x hx => ?_⟩
        rw [(HardwareSlots.insert?_eq_ok_iff.mp hinsert).2.2] at hx
        rcases List.mem_append.mp hx with hold | hnew
        · exact Or.inl hold
        · rw [List.mem_singleton.mp hnew]
          exact Or.inr ⟨rfl, rfl, rfl⟩

/-- An allocated slot refers to a stored door, and to a stored credential with its owner. SQLite
checks the first, and the pass has selected the second. -/
theorem Intact.upsert [Host] (h : Intact s) {accessPointId : String} {slotNumber : Int}
    {user : User} {credential : Credential} {db : Db}
    (hupsert : HardwareSlotRepository.upsert accessPointId user.id credential.id slotNumber s.db
      = .ok db)
    (hstored : credential ∈ s.db.credentials.rows) (howner : credential.userId = user.id) :
    Intact { s with db } := by
  obtain ⟨hdoor, huser, hardwareSlots, rfl, hrows⟩ := upsert_eq_ok hupsert
  refine h.of_slots fun x hx => ?_
  rcases hrows x hx with hold | ⟨hxdoor, hxuser, hxcredential⟩
  · exact ⟨h.slotDoor x hold, h.slotUser x hold, h.slotOwner x hold⟩
  · refine ⟨hxdoor ▸ hdoor, fun id hid => ?_, fun id hid => ⟨credential, hstored, ?_, ?_⟩⟩
    · rw [hxuser] at hid
      exact Option.some.inj hid ▸ huser
    · rw [hxcredential] at hid
      exact Option.some.inj hid
    · rw [hxuser, howner]

/-! ### The runs -/

section
variable [Host] {e : Event} {s0 s' : Server}

/-- The step lemma, with one case for each write. -/
theorem Intact.effect (h : Intact s) (heffect : Effect e s0 s s') : Intact s' := by
  cases heffect with
  | insertUser hinsert => exact h.insertUser hinsert
  | updateUser hupdate => exact h.updateUser hupdate
  | deleteUser id => exact h.deleteUser id
  | insertCredential hinsert => exact h.insertCredential hinsert
  | deleteCredential id => exact h.deleteCredential id
  | changePolicy change hchange => exact h.changePolicy hchange
  | insertDoor hinsert => exact h.insertDoor hinsert
  | updateDoor door => exact h.updateDoor door
  | deleteDoor id => exact h.deleteDoor id
  | updateSlotSyncStatus slotId status => exact h.updateSlotSyncStatus slotId status
  | clearSlot slotId => exact h.clearSlot slotId
  | upsert hupsert hstored hprograms => exact h.upsert hupsert hstored hprograms.owner
  | setCode slotNumber hprograms => exact { h with }
  | clearCode accessPointId slotNumber => exact { h with }
  | insertLog hinsert => exact h.insertLog hinsert

/-- The step lemma: every event is a sequence of the writes above. -/
theorem Intact.step (h : Intact s) (capabilities : String → LockCapabilities) (e : Event) :
    Intact (s.step capabilities e) :=
  step_invariant (fun _ _ hs heffect => hs.effect heffect) h capabilities

/-- **Every reference leads somewhere**: whatever requests, tools, evaluations and passes a run has,
with any failures of the locks in between, the foreign keys hold after it, and every slot that
refers to a credential refers to its owner. -/
theorem intact_after (capabilities : String → LockCapabilities) (events : List Event)
    (h : Intact s) : Intact (events.foldl (Server.step capabilities) s) :=
  Transition.foldl_invariant (Server.step capabilities) Intact
    (fun _ e hs => hs.step capabilities e) events s h

end

section
/-- The host of the samples. -/
local instance integrityHost : Host := Host.sample

/-- The front door is stored, Ann gets a PIN for it, and a pass programs the PIN. -/
def sampleEvents : List Event :=
  [.createDoor { Engine.Evaluate.frontDoor with name := "Front" } ⟨0, .utc⟩,
    .administration (.create
      { id := some "ann", name := "Ann", pin := some "1234", doorIds := some ["front"]
        policy := some { id := "always" } } ⟨1, .utc⟩),
    .pass "front" [] ⟨2, .utc⟩]

/-- The references lead somewhere after the sample run. -/
theorem intact_after_sample :
    Intact (sampleEvents.foldl (Server.step fun _ => .userCodes) { db := {} }) :=
  intact_after (fun _ => .userCodes) sampleEvents intact_empty

end

end CodeMaster.Proofs.Server
