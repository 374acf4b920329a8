import Mathlib.Data.List.Induction
import CodeMaster.Lib.Transition
import CodeMaster.Administration
import CodeMaster.Proofs.Engine.Reconcile

/-!
# `CodeMaster.Proofs.StaleCodes`: which codes a lock holds after a run

The slot worker reaches a code in a lock only through the row of its slot. `Linked` is the
invariant that keeps the codes within reach: a slot of the lock that holds a code has a row
with a user, and the code is that of the row's credential.

A pass keeps `Linked` and leaves codes of desired pairs only (`Linked.reconcile`). A
request keeps it as long as no row of the door loses its user, which two of them can cause:
`Delete` by the foreign key and `RevokeUserAsync` by `ClearSlotAsync`, neither of which talks
to the lock. `no_stale_code` is the result about runs that avoid this (`KeepsOccupied`).

The runs are those of `Administration`: the requests that write users, credentials and policies, the
tools, and the passes over doors with any answers of the locks. The proof has one lemma for each
statement of SQLite, from which the lemma for each request is put together with the rules of `Exec`.
The foreign keys are part of the statements: a deleted credential unlinks its slots, and a deleted
user empties the columns of theirs.

What is excluded is the deletion or the revocation of a user who has a row at the door. A code whose
row has lost its user is out of the worker's reach, because the first loop of a pass skips rows
without a user, and nothing reads the lock.
-/

set_option autoImplicit false

namespace CodeMaster.Proofs.StaleCodes

open CodeMaster.Core Data CodeMaster.Engine CodeMaster.Web CodeMaster.Mcp
open CodeMaster.Administration HardwareSlotRepository HardwareSlotSyncWorker
open Engine.SlotMemory Engine.Reconcile Reconciliation Relational Exec Transition

/-- The slot rows of the door are synced and agree with its lock. The users have ids that are
not empty, so the worker sees the rows that have a user. -/
structure Linked (door : AccessPoint) (lock : Int → Option String) (db : Db) : Prop where
  stored : door ∈ db.accessPoints.rows
  ids : ∀ u ∈ db.users.rows, u.id ≠ ""
  agrees : Agrees (code db) (memory door.id { db, lock })
  settled : Settled (memory door.id { db, lock })

variable {door : AccessPoint} {lock : Int → Option String} {db db' : Db}

/-- At the start the door has no row, and its lock is empty. -/
theorem linked_of_empty (hstored : door ∈ db.accessPoints.rows)
    (hids : ∀ u ∈ db.users.rows, u.id ≠ "")
    (hrows : ∀ row ∈ db.hardwareSlots.rows, row.accessPointId ≠ door.id)
    (hlock : ∀ n, lock n = none) : Linked door lock db := by
  have hitem : ∀ n a, (memory door.id { db, lock } n).item ≠ some a := by
    intro n a ha
    obtain ⟨row, hget, -⟩ := memory_item_eq_some_iff.mp ha
    obtain ⟨hrow, hdoor, -⟩ := getSlotAsync_eq_some_iff.mp hget
    exact hrows row hrow hdoor
  refine ⟨hstored, hids, ⟨fun n pin hpin => ?_, fun n a _ ha => absurd ha (hitem n a)⟩,
    fun n a ha => absurd ha (hitem n a)⟩
  have hcontent : lock n = some pin := hpin
  rw [hlock] at hcontent
  cases hcontent

/-! ### Changes of the database -/

/-- A change keeps the link when the rows of the door keep their users, and at most lose the
credential, and when no new credential has the id of a row's credential. -/
theorem Linked.of_keep (h : Linked door lock db) (hdoor : db'.accessPoints = db.accessPoints)
    (hids : ∀ u ∈ db'.users.rows, u.id ≠ "")
    (hcredentials : ∀ c ∈ db'.credentials.rows, c ∈ db.credentials.rows
      ∨ ∀ s ∈ db.hardwareSlots.rows, s.credentialId ≠ some c.id)
    (keep : Option String → Option String) (hkeep : ∀ o id, keep o = some id → o = some id)
    (hslots : ∀ n, getSlotAsync db' door.id n
      = (getSlotAsync db door.id n).map fun s => { s with credentialId := keep s.credentialId }) :
    Linked door lock db' := by
  -- The row of an item, before and after.
  have hback : ∀ n a, (memory door.id { db := db', lock } n).item = some a →
      ∃ s, getSlotAsync db door.id n = some s ∧ s.userId = some a.1 ∧ a.1 ≠ ""
        ∧ keep s.credentialId = a.2 := by
    intro n a ha
    obtain ⟨s', hs', hitem⟩ := memory_item_eq_some_iff.mp ha
    rw [show getSlotAsync db' door.id n = _ from hslots n] at hs'
    obtain ⟨s, hs, rfl⟩ := Option.map_eq_some_iff.mp hs'
    exact ⟨s, hs, item_eq_some_iff.mp hitem⟩
  have hsynced : ∀ n, (memory door.id { db := db', lock } n).synced
      = (memory door.id { db, lock } n).synced := by
    intro n
    show (getSlotAsync db' door.id n).all _ = (getSlotAsync db door.id n).all _
    rw [hslots, Option.all_map]
  refine ⟨hdoor ▸ h.stored, hids, ⟨fun n pin hpin => ?_, fun n a pin hitem hsync hcode => ?_⟩,
    fun n a hitem => ?_⟩
  · -- The row of the code keeps its user, so it is still for an item.
    obtain ⟨a, ha⟩ := h.agrees.item_of_content n pin hpin
    obtain ⟨s, hs, hitem⟩ := memory_item_eq_some_iff.mp ha
    obtain ⟨huser, hne, -⟩ := item_eq_some_iff.mp hitem
    have hs : getSlotAsync db door.id n = some s := hs
    have hs' : getSlotAsync db' door.id n
        = some { s with credentialId := keep s.credentialId } := by
      rw [hslots, hs]
      rfl
    exact ⟨(a.1, keep s.credentialId), memory_item_eq_some_iff.mpr
      ⟨_, hs', item_eq_some_iff.mpr ⟨huser, hne, rfl⟩⟩⟩
  · obtain ⟨s, hs, huser, hne, hcred⟩ := hback n a hitem
    obtain ⟨id, hid, hfind⟩ := Option.bind_eq_some_iff.mp hcode
    obtain ⟨c, hc, hpin⟩ := Option.map_eq_some_iff.mp hfind
    obtain ⟨hmem, rfl⟩ := Table.find?_eq_some_iff.mp hc
    have hrowcred : s.credentialId = some c.id := hkeep _ _ (hcred.trans hid)
    have hrow : s ∈ db.hardwareSlots.rows := (getSlotAsync_eq_some_iff.mp hs).1
    rcases hcredentials c hmem with hold | hnew
    · -- The row named the same credential before.
      have hitem : (memory door.id { db, lock } n).item = some (a.1, some c.id) :=
        memory_item_eq_some_iff.mpr ⟨s, hs, item_eq_some_iff.mpr ⟨huser, hne, hrowcred⟩⟩
      rw [hsynced] at hsync
      refine h.agrees.content_of_synced n _ pin hitem hsync ?_
      show (db.credentials.find? c.id).map pinCode = some pin
      rw [Table.find?_eq_some_iff.mpr ⟨hold, rfl⟩, ← hpin]
      rfl
    · exact absurd hrowcred (hnew s hrow)
  · obtain ⟨s, hs, huser, hne, -⟩ := hback n a hitem
    rw [hsynced]
    exact h.settled n (a.1, s.credentialId) (memory_item_eq_some_iff.mpr
      ⟨s, hs, item_eq_some_iff.mpr ⟨huser, hne, rfl⟩⟩)

/-- A change outside the slot rows. -/
theorem Linked.of_same_slots (h : Linked door lock db)
    (hdoor : db'.accessPoints = db.accessPoints) (hids : ∀ u ∈ db'.users.rows, u.id ≠ "")
    (hcredentials : ∀ c ∈ db'.credentials.rows, c ∈ db.credentials.rows
      ∨ ∀ s ∈ db.hardwareSlots.rows, s.credentialId ≠ some c.id)
    (hslots : ∀ n, getSlotAsync db' door.id n = getSlotAsync db door.id n) :
    Linked door lock db' := by
  refine h.of_keep hdoor hids hcredentials id (fun _ _ h => h) fun n => ?_
  rw [hslots]
  cases getSlotAsync db door.id n <;> rfl

/-- The tables of policies and of assignments do not matter. -/
theorem Linked.of_policies (h : Linked door lock db) (hdb : db' = { db with
    accessPolicies := db'.accessPolicies, accessAssignments := db'.accessAssignments }) :
    Linked door lock db' := by
  rw [hdb]
  exact h.of_same_slots rfl h.ids (fun c hc => Or.inl hc) fun _ => rfl

/-! ### The statements -/

/-- The row of a door without a user `id` does not change when the user is deleted, except for
the credential. -/
theorem Linked.deleteUser (h : Linked door lock db) {id : String}
    (hrows : ∀ s ∈ db.hardwareSlots.rows, s.accessPointId = door.id → s.userId ≠ some id) :
    Linked door lock (UserRepository.deleteAsync id db) := by
  let credentialIds := (db.credentials.rows.filter fun c => c.userId = id).map Credential.id
  refine h.of_keep rfl (fun u hu => h.ids u (Table.mem_delete.mp hu).1)
    (fun c hc => Or.inl (Table.mem_delete.mp hc).1) (fun o => o.filter fun c => c ∉ credentialIds)
    (fun o c hc => (Option.filter_eq_some_iff.mp hc).1) fun n => ?_
  have hupdate : getSlotAsync (UserRepository.deleteAsync id db) door.id n
      = (getSlotAsync db door.id n).map fun s => { s with
          userId := s.userId.filter fun u => u ≠ id
          credentialId := s.credentialId.filter fun c => c ∉ credentialIds } :=
    getSlotAsync_updateWhere
  rw [hupdate]
  cases hs : getSlotAsync db door.id n with
  | none => rfl
  | some s =>
    -- The row has another user or none, so it keeps it.
    obtain ⟨hrow, hdoor, -⟩ := getSlotAsync_eq_some_iff.mp hs
    have huser : (s.userId.filter fun u => u ≠ id) = s.userId := by
      cases hu : s.userId with
      | none => rfl
      | some u =>
        have hne : u ≠ id := fun heq => hrows s hrow hdoor (hu.trans (congrArg some heq))
        simp [hne]
    rw [Option.map_some, huser]
    rfl

/-- A deleted credential unlinks its slots, which keep their users. -/
theorem Linked.deleteCredential (h : Linked door lock db) (id : String) :
    Linked door lock (CredentialRepository.deleteAsync id db) := by
  refine h.of_keep rfl h.ids (fun c hc => Or.inl (Table.mem_delete.mp hc).1)
    (fun o => o.filter fun c => c ≠ id) (fun o c hc => (Option.filter_eq_some_iff.mp hc).1)
    fun n => ?_
  exact (getSlotAsync_updateWhere : getSlotAsync (CredentialRepository.deleteAsync id db) door.id n
    = (getSlotAsync db door.id n).map fun s => _)

/-- Ids and places of slot rows stay, and the rows of the door do not change at all. -/
structure KeepsRows (door : AccessPoint) (db db1 : Db) : Prop where
  tables : db1 = { db with hardwareSlots := db1.hardwareSlots }
  places : ∀ t ∈ db1.hardwareSlots.rows, ∃ t0 ∈ db.hardwareSlots.rows,
    t0.id = t.id ∧ place t0 = place t
  same : ∀ n, getSlotAsync db1 door.id n = getSlotAsync db door.id n

/-- A row of another door is cleared, which was read in an earlier state of the loop. -/
theorem KeepsRows.clearSlotAsync {db1 db2 : Db} (h1 : KeepsRows door db db1)
    (h2 : KeepsRows door db db2) {slot : HardwareSlot} (hslot : slot ∈ db1.hardwareSlots.rows)
    (hother : slot.accessPointId ≠ door.id) :
    KeepsRows door db (HardwareSlotRepository.clearSlotAsync slot.id db2) := by
  obtain ⟨slot0, hslot0, hid0, hplace0⟩ := h1.places slot hslot
  refine ⟨by rw [h2.tables]; rfl, fun t ht => ?_, fun n => ?_⟩
  · obtain ⟨s, hs, rfl⟩ := mem_updateWhere.mp ht
    obtain ⟨s0, hs0, hsid, hsplace⟩ := h2.places s hs
    refine ⟨s0, hs0, hsid.trans ?_, hsplace.trans ?_⟩ <;> split <;> rfl
  · have hupdate : getSlotAsync (HardwareSlotRepository.clearSlotAsync slot.id db2) door.id n
        = (getSlotAsync db2 door.id n).map fun s =>
            if decide (s.id = slot.id) then { s with userId := none, credentialId := none }
            else s := getSlotAsync_updateWhere
    rw [hupdate, h2.same]
    cases ht : getSlotAsync db door.id n with
    | none => rfl
    | some t =>
      obtain ⟨hrow, hdoor, -⟩ := getSlotAsync_eq_some_iff.mp ht
      -- The row of the door has another id: ids are unique, and `slot` is at another door.
      have hne : t.id ≠ slot.id := by
        intro heq
        rw [HardwareSlots.eq_of_id hrow hslot0 (heq.trans hid0.symm)] at hdoor
        exact hother ((Prod.ext_iff.mp hplace0).1.symm.trans hdoor)
      simp [hne]

/-- A new user has no slot. -/
theorem preserves_insertUser {user : User} (hid : user.id ≠ "") :
    Preserves (Linked door lock) (statement (UserRepository.insertAsync user)) := by
  refine Preserves.statement fun db db' h hinsert => ?_
  obtain ⟨users, hu, -, rfl⟩ := UserRepository.insertAsync_eq_ok hinsert
  refine h.of_same_slots rfl (fun u hu' => ?_) (fun c hc => Or.inl hc) fun _ => rfl
  rcases (Table.mem_insert? hu).mp hu' with hold | rfl
  · exact h.ids u hold
  · exact hid

/-- An update of a user leaves the slots. -/
theorem preserves_updateUser (user : User) :
    Preserves (Linked door lock) (statement (UserRepository.updateAsync user)) := by
  refine Preserves.statement fun db db' h hupdate => ?_
  unfold UserRepository.updateAsync at hupdate
  split at hupdate
  · cases hupdate
  · cases hupdate
    refine h.of_same_slots rfl (fun u hu => ?_) (fun c hc => Or.inl hc) fun _ => rfl
    obtain ⟨row, hrow, rfl⟩ := (@Table.mem_update _ _ _ db.users (fun row => row.id = user.id)
      (fun row => { user with id := row.id, createdAt := row.createdAt }) (fun _ => rfl) u).mp hu
    have hne := h.ids row hrow
    split
    · exact hne
    · exact hne

/-- A statement about policies leaves the slots. -/
theorem preserves_changePolicy (change : PolicyChange) :
    Preserves (Linked door lock) (statement change.statement) := by
  refine Preserves.statement fun db db' h hstatement => h.of_policies ?_
  cases change with
  | insert policy =>
    obtain ⟨accessPolicies, -, rfl⟩ := AccessPolicyRepository.insertAsync_eq_ok hstatement
    rfl
  | assign assignment =>
    have hassign : AccessPolicyRepository.assignPolicyAsync assignment db = .ok db' := hstatement
    unfold AccessPolicyRepository.assignPolicyAsync at hassign
    split at hassign
    · cases hassign
    · split at hassign
      · cases hassign
        rfl
      · cases hassign
  | update policy =>
    cases hstatement
    rfl
  | delete id =>
    cases hstatement
    rfl
  | removeAssignment assignmentId =>
    cases hstatement
    rfl

/-- An update of a user keeps the codes linked. -/
theorem preserves_update (id : String) (user : User) (utcNow : DateTime) :
    Preserves (Linked door lock) (UsersController.update id user utcNow) := by
  unfold UsersController.update
  refine (Preserves.query _ _).bind fun existing => ?_
  cases existing with
  | none => exact Preserves.pure _ _
  | some existing => exact (preserves_updateUser _).bind fun _ => Preserves.pure _ _

section
variable [Host]

/-- The credential of a PIN is inserted under a new id. -/
theorem preserves_insertPin (userId pin : String) (label : Option String) (utcNow : DateTime) :
    Preserves (Linked door lock) (query Db.newGuid >>= fun guid =>
      statement (CredentialRepository.insertAsync
        (UsersController.pinCredential guid userId pin label utcNow))) := by
  rw [query_bind_statement]
  refine Preserves.statement fun db db' h hinsert => ?_
  obtain ⟨credentials, hc, -, rfl⟩ := CredentialRepository.insertAsync_eq_ok hinsert
  refine h.of_same_slots rfl h.ids (fun c hmem => ?_) fun _ => rfl
  rcases (Table.mem_insert? hc).mp hmem with hold | rfl
  · exact Or.inl hold
  · exact Or.inr fun s hs => db.newGuid_ne_credentialId hs

/-! ### The requests -/

/-- The policy of a new user keeps the codes linked. -/
theorem preserves_createPolicy (user : User) (request : CreateUserRequest) :
    Preserves (Linked door lock) (UsersController.createPolicy user request) := by
  unfold UsersController.createPolicy
  cases request.policy with
  | none => exact Preserves.pure _ _
  | some body =>
    refine (Preserves.query _ _).bind fun guid => ?_
    refine (preserves_changePolicy (.insert _)).bind fun _ => Preserves.forM (fun doorId => ?_) _
    exact (Preserves.query _ _).bind fun guid => preserves_changePolicy (.assign _)

/-- The creation of a user keeps the codes linked. -/
theorem preserves_create (request : CreateUserRequest) (utcNow : DateTime) :
    Preserves (Linked door lock) (UsersController.create request utcNow) := by
  unfold UsersController.create
  refine Preserves.ite (Preserves.pure _ _) ?_
  intro db h
  rw [exec_bind, exec_query]
  -- The id of the new user is given and not blank, or new.
  have hid : (if isNullOrWhiteSpace request.id then db.newGuid else request.id.getD "") ≠ "" := by
    cases hblank : isNullOrWhiteSpace request.id with
    | true => exact ne_empty_of_not_isNullOrWhiteSpace db.newGuid_not_blank
    | false =>
      cases hrequest : request.id with
      | none =>
        rw [hrequest] at hblank
        cases hblank
      | some id =>
        rw [hrequest] at hblank
        exact ne_empty_of_not_isNullOrWhiteSpace hblank
  refine (Preserves.bind (preserves_insertUser hid) fun _ => Preserves.bind ?_ fun _ =>
    (preserves_createPolicy _ request).bind fun _ => Preserves.pure _ _) db h
  exact Preserves.ite (preserves_insertPin _ _ _ _) (Preserves.pure _ _)

/-- `SetPin` inserts a credential that no slot has. -/
theorem preserves_setPin (id : String) (request : SetPinRequest) (utcNow : DateTime) :
    Preserves (Linked door lock) (UsersController.setPin id request utcNow) := by
  unfold UsersController.setPin
  refine (Preserves.query _ _).bind fun existing => ?_
  cases existing with
  | none => exact Preserves.pure _ _
  | some existing =>
    refine Preserves.ite (Preserves.pure _ _) fun db h => ?_
    have hinsert := preserves_insertPin id request.pin request.label utcNow db h
    rw [exec_bind, exec_query] at hinsert ⊢
    exact Preserves.bind_at hinsert fun _ => Preserves.pure _ _

/-- Before the loop over the doors, the revoked user has no row at the door. Then the loop
clears rows of other doors only. -/
theorem keepsRows_clearUserSlots {id : String}
    (hrows : ∀ s ∈ db.hardwareSlots.rows, s.accessPointId = door.id → s.userId ≠ some id)
    (doors : List AccessPoint) : KeepsRows door db (DoorTools.clearUserSlots id doors db).2 := by
  have hstart : KeepsRows door db db := ⟨rfl, fun t ht => ⟨t, ht, rfl, rfl⟩, fun _ => rfl⟩
  unfold DoorTools.clearUserSlots
  refine List.foldlRecOn (motive := fun p : Nat × Db => KeepsRows door db p.2) doors _ hstart
    fun p hp d _ => ?_
  refine List.foldlRecOn (motive := fun q : Nat × Db => KeepsRows door db q.2) _ _ hp
    fun q hq slot hslot => ?_
  obtain ⟨hmem, huser⟩ := List.mem_filter.mp hslot
  have hrow : slot ∈ p.2.hardwareSlots.rows := (mem_getSlotsForDoorAsync.mp hmem).1
  refine hp.clearSlotAsync hq hrow fun hdoor => ?_
  -- A row at the door would be a row of the user at the start.
  have hget := getSlotAsync_eq_some_iff.mpr ⟨hrow, hdoor, rfl⟩
  rw [hp.same] at hget
  exact hrows slot (getSlotAsync_eq_some_iff.mp hget).1 hdoor (of_decide_eq_true huser)

/-- A revocation of a user without a row at the door keeps the codes linked. -/
theorem Linked.revokeUser (h : Linked door lock db) {arguments : Option JsonElement}
    (hrows : ∀ id, DoorTools.parseRevoke arguments = .ok (.ok id) →
      ∀ s ∈ db.hardwareSlots.rows, s.accessPointId = door.id → s.userId ≠ some id)
    (utcNow : DateTime) : Linked door lock (DoorTools.revokeUser arguments utcNow db).2 := by
  rw [DoorTools.revokeUser, DoorTools.runTool_snd, DoorTools.revokeUserAsync]
  rcases hparse : DoorTools.parseRevoke arguments with e | text | id
  · exact h
  · exact h
  · simp only [exec_bind, exec_query]
    cases UserRepository.getByIdAsync db id with
    | none => exact h
    | some user =>
      have hupdate : Linked door lock ((statement (UserRepository.updateAsync
          { user with isActive := false, updatedAt := utcNow })).exec db).2 :=
        preserves_updateUser _ db h
      rcases hstatement : UserRepository.updateAsync
        { user with isActive := false, updatedAt := utcNow } db with e | db1
      · simp only [exec_bind, DoorTools.execute_of_error hstatement]
        exact h
      · -- The slot rows are those of the start when the loop begins.
        rw [exec_statement_of_ok hstatement] at hupdate
        have hslots : db1.hardwareSlots = db.hardwareSlots :=
          UserRepository.updateAsync_hardwareSlots hstatement
        have hkeeps := @keepsRows_clearUserSlots door db1 _ id (hslots ▸ hrows id hparse)
          (AccessPointRepository.getAllAsync db1)
        simp only [DoorTools.execute_of_ok hstatement, exec_bind, exec_query, exec_modify,
          exec_pure]
        rw [hkeeps.tables]
        exact hupdate.of_same_slots rfl hupdate.ids (fun c hc => Or.inl hc) hkeeps.same

/-! ### The passes -/

/-- A pass over the door itself keeps the link, and leaves the codes of desired pairs only. -/
theorem Linked.reconcile_self (h : Linked door lock db) {capabilities : LockCapabilities}
    (hcapable : capabilities.hasFlag .userCodes = true) (now : DateTime) :
    ∃ w, (reconcileDoorSlotsAsync door capabilities now).exec { db, lock } = (.ok (), w)
      ∧ Linked door w.lock w.db
      ∧ ∀ n pin, w.lock n = some pin →
          ∃ d ∈ desiredAssignments db door now, pinCode d.2 = pin := by
  obtain ⟨w, hexec, hframe, hfill⟩ := @reconcileDoorSlotsAsync_refines { db, lock } door _
    capabilities now hcapable nofun (Table.mem_keys.mpr ⟨door, h.stored, rfl⟩) h.ids
  have hreconciled := reconciled h.agrees hfill
  have hsettled := Reconciliation.settled h.settled hfill
  refine ⟨w, hexec, ⟨?_, ?_, ?_, hsettled⟩, fun n pin hpin => ?_⟩
  · rw [hframe.db]
    exact h.stored
  · rw [hframe.db]
    exact h.ids
  · rw [hframe.code_eq]
    exact hreconciled.agrees
  · have hsome : ∀ a ∈ wantedItems db door now, (code db a).isSome := by
      intro a ha
      obtain ⟨d, hd, rfl⟩ := List.mem_map.mp ha
      rw [code_of_mem_desiredAssignments hd]
      rfl
    obtain ⟨a, ha, -, hcodea⟩ := hreconciled.code_of_content hsettled hsome hpin
    obtain ⟨d, hd, rfl⟩ := List.mem_map.mp ha
    exact ⟨d, hd, Option.some.inj ((code_of_mem_desiredAssignments hd).symm.trans hcodea)⟩

/-- A pass over any door keeps the link. -/
theorem Linked.reconcile {s : Site} (h : Linked door (s.locks door.id) s.db)
    (capabilities : String → LockCapabilities) (accessPointId : String) (now : DateTime) :
    Linked door ((s.reconcile capabilities accessPointId now).locks door.id)
      (s.reconcile capabilities accessPointId now).db := by
  unfold Site.reconcile
  cases hfind : s.db.accessPoints.find? accessPointId with
  | none => exact h
  | some accessPoint =>
    obtain ⟨hstored, rfl⟩ := Table.find?_eq_some_iff.mp hfind
    cases hcapable : (capabilities accessPoint.id).hasFlag .userCodes with
    | false =>
      -- Without slots the pass does nothing.
      have hexec : (reconcileDoorSlotsAsync accessPoint (capabilities accessPoint.id) now).exec
          { db := s.db, lock := s.locks accessPoint.id }
          = (.ok (), { db := s.db, lock := s.locks accessPoint.id }) := by
        unfold reconcileDoorSlotsAsync
        rw [hcapable]
        rfl
      simp only [hexec, Function.update_eq_self]
      exact h
    | true =>
      by_cases hdoor : accessPoint = door
      · subst hdoor
        obtain ⟨w, hexec, hlinked, -⟩ := h.reconcile_self hcapable now
        simp only [hexec, Function.update_self]
        exact hlinked
      · -- A pass over another door changes neither the rows of the door nor its lock.
        have hne : door.id ≠ accessPoint.id := fun heq =>
          hdoor (s.db.accessPoints.eq_of_key_eq hstored h.stored heq.symm)
        obtain ⟨w, hexec, hframe, -⟩ := @reconcileDoorSlotsAsync_refines
          { db := s.db, lock := s.locks accessPoint.id } accessPoint _ _ now hcapable nofun
          (Table.mem_keys.mpr ⟨accessPoint, hstored, rfl⟩) h.ids
        simp only [hexec, Function.update_of_ne hne]
        rw [hframe.db]
        refine h.of_same_slots rfl h.ids (fun c hc => Or.inl hc) fun n => ?_
        exact hframe.others door.id hne n

/-! ### The runs -/

/-- A deletion or a revocation is for a user without a slot row at the door. Every other event
is free. -/
def KeepsOccupied (door : AccessPoint) (s : Site) : Event → Prop
  | .delete id => ∀ row ∈ s.db.hardwareSlots.rows, row.accessPointId = door.id →
      row.userId ≠ some id
  | .revokeUser arguments _ => ∀ id, DoorTools.parseRevoke arguments = .ok (.ok id) →
      ∀ row ∈ s.db.hardwareSlots.rows, row.accessPointId = door.id → row.userId ≠ some id
  | _ => True

/-- The step lemma. -/
theorem Linked.step {s : Site} (h : Linked door (s.locks door.id) s.db)
    (capabilities : String → LockCapabilities) (e : Event) (hok : KeepsOccupied door s e) :
    Linked door ((s.step capabilities e).locks door.id) (s.step capabilities e).db := by
  cases e with
  | create request utcNow => exact preserves_create request utcNow s.db h
  | update id user utcNow => exact preserves_update id user utcNow s.db h
  | delete id =>
    have hdelete : Linked door (s.locks door.id) ((UsersController.delete id).exec s.db).2 := by
      unfold UsersController.delete
      rw [exec_bind, exec_query]
      cases UserRepository.getByIdAsync s.db id with
      | none => exact h
      | some existing => exact h.deleteUser hok
    exact hdelete
  | setPin id request utcNow => exact preserves_setPin id request utcNow s.db h
  | deleteCredential id credentialId => exact h.deleteCredential credentialId
  | revokeUser arguments utcNow => exact h.revokeUser hok utcNow
  | changePolicy change => exact preserves_changePolicy change s.db h
  | reconcile accessPointId now => exact h.reconcile capabilities accessPointId now

/-- No stale code survives a pass, in a run where no user with a slot row at the door is
deleted or revoked. The rows and the lock of the door start empty. -/
theorem no_stale_code (capabilities : String → LockCapabilities) (door : AccessPoint)
    (s : Site) (events : List Event)
    (hcapable : (capabilities door.id).hasFlag .userCodes = true)
    (hstored : door ∈ s.db.accessPoints.rows) (hids : ∀ u ∈ s.db.users.rows, u.id ≠ "")
    (hrows : ∀ row ∈ s.db.hardwareSlots.rows, row.accessPointId ≠ door.id)
    (hlock : ∀ n, s.locks door.id n = none)
    (hmeet : StepsMeet (Site.step capabilities) (KeepsOccupied door) s events)
    (before : List Event) (now : DateTime)
    (hpass : before ++ [.reconcile door.id now] <+: events) (n : Int) (pin : String)
    (hpin : ((before ++ [Event.reconcile door.id now]).foldl (Site.step capabilities) s).locks
      door.id n = some pin) :
    ∃ d ∈ desiredAssignments (before.foldl (Site.step capabilities) s).db door now,
      pinCode d.2 = pin := by
  have hstart : Linked door (s.locks door.id) s.db := linked_of_empty hstored hids hrows hlock
  obtain ⟨post, rfl⟩ := hpass
  have hlinked := invariant_of_stepsMeet (fun s : Site => Linked door (s.locks door.id) s.db)
    (fun s e h hok => h.step capabilities e hok) before s hstart hmeet.of_prefix.of_prefix
  rw [List.foldl_append, List.foldl_cons, List.foldl_nil] at hpin
  generalize before.foldl (Site.step capabilities) s = s1 at hlinked hpin ⊢
  -- The last event is the pass over the door.
  obtain ⟨w, hexec, -, hcodes⟩ := hlinked.reconcile_self hcapable now
  have hfind : s1.db.accessPoints.find? door.id = some door :=
    Table.find?_eq_some_iff.mpr ⟨hlinked.stored, rfl⟩
  simp only [Site.step, Site.reconcile, hfind, hexec, Function.update_self] at hpin
  exact hcodes n pin hpin

end

section
/-- The host of the samples. -/
local instance : Host := Host.sample

open Engine.Evaluate (frontDoor frontDoorOnly)

/-- The front door with a lock that stores codes. -/
def frontSite : Site := { db := frontDoorOnly }

/-- Every lock has slots. -/
def slotted (_accessPointId : String) : LockCapabilities := .userCodes

/-- After a change of PIN and a pass, the lock holds a code of a desired pair. -/
theorem no_stale_code_setPin :
    ∃ d ∈ desiredAssignments
        (([.setPin "guest" { pin := "5678" } ⟨1, .utc⟩] : List Event).foldl (Site.step slotted)
          frontSite).db frontDoor ⟨2, .utc⟩,
      pinCode d.2 = "1234" :=
  no_stale_code slotted frontDoor frontSite
    [.setPin "guest" { pin := "5678" } ⟨1, .utc⟩, .reconcile "front" ⟨2, .utc⟩]
    (by decide) (by decide) (by decide) nofun (fun _ => rfl) ⟨trivial, trivial, trivial⟩
    [.setPin "guest" { pin := "5678" } ⟨1, .utc⟩] ⟨2, .utc⟩ (List.prefix_refl _) 1 "1234"
    (by decide +kernel)

/-- The code of a deleted user survives the next pass. -/
theorem deleted_user_keeps_code :
    ¬ ∀ (capabilities : String → LockCapabilities) (door : AccessPoint) (s : Site)
        (events : List Event),
        (capabilities door.id).hasFlag .userCodes = true → door ∈ s.db.accessPoints.rows →
        (∀ u ∈ s.db.users.rows, u.id ≠ "") →
        (∀ row ∈ s.db.hardwareSlots.rows, row.accessPointId ≠ door.id) →
        (∀ n, s.locks door.id n = none) →
        ∀ (before : List Event) (now : DateTime),
          before ++ [.reconcile door.id now] <+: events → ∀ (n : Int) (pin : String),
            ((before ++ [Event.reconcile door.id now]).foldl (Site.step capabilities) s).locks
              door.id n = some pin →
            ∃ d ∈ desiredAssignments (before.foldl (Site.step capabilities) s).db door now,
              pinCode d.2 = pin := by
  intro h
  have hnone : desiredAssignments
      (([.reconcile "front" ⟨1, .utc⟩, .delete "guest"] : List Event).foldl (Site.step slotted)
        frontSite).db frontDoor ⟨2, .utc⟩ = [] := by decide +kernel
  have hcode : (([.reconcile "front" ⟨1, .utc⟩, .delete "guest", .reconcile "front" ⟨2, .utc⟩] :
      List Event).foldl (Site.step slotted) frontSite).locks "front" 1 = some "1234" := by
    decide +kernel
  obtain ⟨d, hd, -⟩ := h slotted frontDoor frontSite _ (by decide) (by decide) (by decide) nofun
    (fun _ => rfl) [.reconcile "front" ⟨1, .utc⟩, .delete "guest"] ⟨2, .utc⟩ (List.prefix_refl _)
    1 "1234" hcode
  rw [hnone] at hd
  cases hd

end

end CodeMaster.Proofs.StaleCodes
