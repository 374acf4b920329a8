import CodeMaster.Proofs.Server.Integrity

/-!
# `CodeMaster.Proofs.Server.Revocation`: is a revoked user out?

A user is out (`Out`) when the user's row, if there is one, is not active and no row of
`HardwareSlots` is the user's. `RevokeUserAsync` and a deletion have this effect at every door,
because every slot row is at a stored door.

Then no pass programs a code for the user, and no keypad lets the user in. Only two requests can
change this, and only when they succeed: the creation of a user with the same id, and an update that
writes the user as active (`Readmits`). A creation fails while the id is stored, so it readmits a
deleted user and never a revoked one. `excluded_stays_out` is the result for every run.

The result is about the tables and what is done with them. It says nothing about the code that a
lock has stored: an exclusion calls no provider, and later passes skip the cleared rows, so that the
lock keeps the code in its slot (`CodeMaster.Proofs.StaleCodes`).
-/

set_option autoImplicit false

namespace CodeMaster.Proofs.Server

open CodeMaster.Core CodeMaster.Data CodeMaster.Engine CodeMaster.Web CodeMaster.Mcp Exec Relation
open CodeMaster.Server (Event)
open CodeMaster.Administration (PolicyChange)
open Relational

section
variable [Host]

/-- The user with the id, if stored, is not active, and no row of `HardwareSlots` is the user's. -/
structure Out (userId : String) (db : Db) : Prop where
  inactive : ∀ u ∈ db.users.rows, u.id = userId → u.isActive = false
  noSlot : ∀ x ∈ db.hardwareSlots.rows, x.userId ≠ some userId

/-- The event takes the user out. -/
def Excludes (userId : String) : Event → Prop
  | .administration (.revokeUser arguments _) =>
    DoorTools.parseRevoke arguments = .ok (.ok userId)
  | .administration (.delete id) => id = userId
  | _ => False

/-- The event lets the user in again. It creates a user with the id, which is free, or it writes the
stored user as active. In both cases the group of the user, if any, is stored: without it SQLite
refuses the row. -/
def Readmits (userId : String) (s : Server) (e : Event) : Prop :=
  (∃ user, Creates s user e ∧ user.id = userId ∧ userId ∉ s.db.users.keys
      ∧ UserRepository.groupExists s.db user.groupId = true)
    ∨ ∃ user, Activates user e ∧ user.id = userId ∧ userId ∈ s.db.users.keys
      ∧ UserRepository.groupExists s.db user.groupId = true

variable {userId : String} {db db' : Db}

/-! ### An exclusion -/

omit [Host] in
/-- A user who is not stored is out, because slots refer to stored users. -/
theorem out_of_not_stored (hstored : userId ∉ db.users.keys)
    (hslots : ∀ x ∈ db.hardwareSlots.rows, ∀ id, x.userId = some id → id ∈ db.users.keys) :
    Out userId db where
  inactive u hu hid := absurd (Table.mem_keys.mpr ⟨u, hu, hid⟩) hstored
  noSlot x hx huser := hstored (hslots x hx userId huser)

omit [Host] in
/-- A row that has a user after `ClearSlotAsync` is not the cleared one. -/
theorem mem_clearSlotAsync {slotId : String} {x : HardwareSlot}
    (hx : x ∈ (HardwareSlotRepository.clearSlotAsync slotId db).hardwareSlots.rows)
    (huser : x.userId = some userId) : x ∈ db.hardwareSlots.rows ∧ x.id ≠ slotId := by
  obtain ⟨row, hrow, rfl⟩ := List.mem_map.mp hx
  by_cases hid : decide (row.id = slotId) = true
  · rw [if_pos hid] at huser
    cases huser
  · rw [if_neg hid]
    exact ⟨hrow, of_decide_eq_false (eq_false_of_ne_true hid)⟩

omit [Host] in
/-- The loop over the slots of a door clears all of them. -/
theorem mem_clearSlots {x : HardwareSlot} (slots : List HardwareSlot) (start : Nat × Db)
    (hx : x ∈ (slots.foldl (fun (count, db) slot =>
      (count + 1, HardwareSlotRepository.clearSlotAsync slot.id db)) start).2.hardwareSlots.rows)
    (huser : x.userId = some userId) :
    x ∈ start.2.hardwareSlots.rows ∧ ∀ slot ∈ slots, x.id ≠ slot.id := by
  induction slots generalizing start with
  | nil => exact ⟨hx, by simp⟩
  | cons slot slots ih =>
    obtain ⟨hx, hrest⟩ := ih _ hx
    obtain ⟨hx, hne⟩ := mem_clearSlotAsync hx huser
    exact ⟨hx, List.forall_mem_cons.mpr ⟨hne, hrest⟩⟩

/-- The loop over the doors leaves no slot of the user at any of them. -/
theorem mem_clearUserSlots {x : HardwareSlot} (doors : List AccessPoint)
    (hx : x ∈ (DoorTools.clearUserSlots userId doors db).2.hardwareSlots.rows)
    (huser : x.userId = some userId) :
    x ∈ db.hardwareSlots.rows ∧ ∀ door ∈ doors, x.accessPointId ≠ door.id := by
  unfold DoorTools.clearUserSlots at hx
  generalize hstart : ((0, db) : Nat × Db) = start at hx
  have hdb : db = start.2 := by rw [← hstart]
  rw [hdb]
  clear hstart hdb
  induction doors generalizing start with
  | nil => exact ⟨hx, by simp⟩
  | cons door doors ih =>
    obtain ⟨hx, hrest⟩ := ih _ hx
    obtain ⟨hx, hcleared⟩ := mem_clearSlots _ _ hx huser
    refine ⟨hx, List.forall_mem_cons.mpr ⟨fun hdoor => ?_, hrest⟩⟩
    -- A slot of the user at this door is one of those that are cleared.
    refine hcleared x (List.mem_filter.mpr ⟨?_, decide_eq_true huser⟩) rfl
    exact HardwareSlotRepository.mem_getSlotsForDoorAsync.mpr ⟨hx, hdoor⟩

/-- The loops write slots only. -/
theorem clearUserSlots_users (doors : List AccessPoint) (userId : String) (db : Db) :
    (DoorTools.clearUserSlots userId doors db).2.users = db.users := by
  unfold DoorTools.clearUserSlots
  refine List.foldlRecOn (motive := fun p : Nat × Db => p.2.users = db.users) doors _ rfl
    fun p hp door _ => ?_
  exact List.foldlRecOn (motive := fun q : Nat × Db => q.2.users = db.users) _ _ hp
    fun q hq slot _ => hq

/-- A revocation takes the user out, at every door. -/
theorem out_revokeUser {s : Server} (h : Intact s) {arguments : Option JsonElement}
    (hparse : DoorTools.parseRevoke arguments = .ok (.ok userId)) (utcNow : DateTime) :
    Out userId (DoorTools.revokeUser arguments utcNow s.db).2 := by
  rw [DoorTools.revokeUser, DoorTools.runTool_snd, DoorTools.revokeUserAsync, hparse]
  simp only [exec_bind, exec_query]
  cases hget : UserRepository.getByIdAsync s.db userId with
  | none => exact out_of_not_stored (UserRepository.getByIdAsync_eq_none_iff.mp hget) h.slotUser
  | some user =>
    obtain ⟨huser, hid⟩ := UserRepository.getByIdAsync_eq_some_iff.mp hget
    -- The group of a stored user is stored, so the update does not fail.
    have hgroup : UserRepository.groupExists s.db user.groupId = true := by
      cases hg : user.groupId with
      | none => rfl
      | some g => exact decide_eq_true (h.userGroup user huser g hg)
    have hupdate := @UserRepository.updateAsync_of_group
      { user with isActive := false, updatedAt := utcNow } s.db hgroup
    obtain ⟨users, hdb, -, hrows⟩ := UserRepository.updateAsync_eq_ok hupdate
    rw [hdb] at hupdate
    simp only [DoorTools.execute_of_ok hupdate, exec_bind, exec_query, exec_modify, exec_pure]
    constructor
    · intro u hu hid'
      rw [clearUserSlots_users] at hu
      rcases hrows u hu with ⟨-, hne⟩ | ⟨-, createdAt, rfl⟩
      · exact absurd (hid'.trans hid.symm) hne
      · rfl
    · intro x hx huser'
      obtain ⟨hx, hdoors⟩ := mem_clearUserSlots _ hx huser'
      obtain ⟨door, hdoor, hxdoor⟩ := Table.mem_keys.mp (h.slotDoor x hx)
      exact hdoors door (mem_orderBy.mpr hdoor) hxdoor.symm

/-- Both exclusions take the user out. After a deletion no row refers to the user. -/
theorem out_excludes {s : Server} (h : Intact s) {e : Event} (he : Excludes userId e)
    (capabilities : String → LockCapabilities) : Out userId (s.step capabilities e).db := by
  unfold Excludes at he
  split at he
  · exact out_revokeUser h he _
  · subst he
    exact out_of_not_stored (notMem_delete _ _) (h.step capabilities _).slotUser
  · cases he

/-! ### What cannot let a user in -/

variable {e : Event} {s0 s s' : Server}

/-- One write keeps the user out. There is one case for each kind of write. -/
theorem Out.effect (h : Out userId s.db) (hstart : Out userId s0.db) (hout : ¬ Readmits userId s0 e)
    (heffect : Effect e s0 s s') : Out userId s'.db := by
  obtain ⟨hcreates, hactivates⟩ := not_or.mp hout
  cases heffect with
  | insertUser hinsert hnew hfirst =>
    obtain ⟨users, hu, hgroup, rfl⟩ := UserRepository.insertAsync_eq_ok hinsert
    refine ⟨fun u hmem hid => ?_, h.noSlot⟩
    rcases (Table.mem_insert? hu).mp hmem with hold | rfl
    · exact h.inactive u hold hid
    · -- The insert has succeeded, so the id was free and the group is stored.
      have hfree : u.id ∉ s.db.users.keys := (Table.insert?_eq_some_iff.mp hu).1
      rw [hfirst] at hfree hgroup
      exact absurd ⟨u, hnew, hid, hid ▸ hfree, hgroup⟩ hcreates
  | updateUser hupdate hactive =>
    obtain ⟨users, rfl, hkeys, hrows⟩ := UserRepository.updateAsync_eq_ok hupdate
    refine ⟨fun u hmem hid => ?_, h.noSlot⟩
    have hstored : u.id ∈ s.db.users.keys := hkeys ▸ Table.mem_keys.mpr ⟨u, hmem, rfl⟩
    rcases hrows u hmem with ⟨hold, -⟩ | ⟨hgroup, createdAt, rfl⟩
    · exact h.inactive u hold hid
    · by_contra hon
      obtain ⟨hwrites, hfirst⟩ := hactive (eq_true_of_ne_false hon)
      rw [hfirst] at hstored hgroup
      exact hactivates ⟨_, hwrites, hid, hid ▸ hstored, hgroup⟩
  | deleteUser id =>
    refine ⟨fun u hu => h.inactive u (Table.mem_delete.mp hu).1, fun x hx huser => ?_⟩
    obtain ⟨row, hrow, rfl⟩ := List.mem_map.mp hx
    exact h.noSlot row hrow (Option.filter_eq_some_iff.mp huser).1
  | insertCredential hinsert =>
    obtain ⟨credentials, -, -, rfl⟩ := CredentialRepository.insertAsync_eq_ok hinsert
    exact ⟨h.inactive, h.noSlot⟩
  | deleteCredential id =>
    refine ⟨h.inactive, fun x hx huser => ?_⟩
    obtain ⟨row, hrow, rfl⟩ := List.mem_map.mp hx
    exact h.noSlot row hrow huser
  | changePolicy change hchange =>
    obtain ⟨husers, -, hslots, -⟩ := statement_frame hchange
    exact ⟨husers ▸ h.inactive, hslots ▸ h.noSlot⟩
  | insertDoor hinsert =>
    obtain ⟨husers, -, hslots⟩ := insertDoor_frame hinsert
    exact ⟨husers ▸ h.inactive, hslots ▸ h.noSlot⟩
  | updateDoor door => exact ⟨h.inactive, h.noSlot⟩
  | deleteDoor id => exact ⟨h.inactive, fun x hx => h.noSlot x (Table.mem_delete.mp hx).1⟩
  | updateSlotSyncStatus slotId status =>
    refine ⟨h.inactive, fun x hx huser => ?_⟩
    obtain ⟨row, hrow, rfl⟩ := HardwareSlotRepository.mem_updateWhere.mp hx
    refine h.noSlot row hrow ?_
    split at huser <;> exact huser
  | clearSlot slotId => exact ⟨h.inactive, fun x hx huser =>
      h.noSlot x (mem_clearSlotAsync hx huser).1 huser⟩
  | upsert hupsert hstored hprograms =>
    obtain ⟨-, -, hardwareSlots, rfl, hrows⟩ := upsert_eq_ok hupsert
    refine ⟨h.inactive, fun x hx huser => ?_⟩
    rcases hrows x hx with hold | ⟨-, hxuser, -⟩
    · exact h.noSlot x hold huser
    · -- The pass programs active users only.
      have hid := Option.some.inj (hxuser.symm.trans huser)
      have hoff := hstart.inactive _ hprograms.userStored hid
      rw [hprograms.active] at hoff
      cases hoff
  | setCode slotNumber hprograms => exact h
  | clearCode accessPointId slotNumber => exact h
  | insertLog hinsert => exact h

/-- The step lemma: an event that does not let the user in keeps the user out. -/
theorem Out.step (h : Out userId s.db) (hout : ¬ Readmits userId s e)
    (capabilities : String → LockCapabilities) : Out userId (s.step capabilities e).db :=
  step_invariant (I := fun s => Out userId s.db) (fun _ _ hs heffect => hs.effect h hout heffect) h
    capabilities

/-! ### A user who is out -/

/-- No pass would program a code for the user: the user is not among the desired assignments. -/
theorem Out.not_desired (h : Out userId db) {door : AccessPoint} {now : DateTime}
    {d : User × Credential}
    (hd : d ∈ HardwareSlotSyncWorker.desiredAssignments db door now) : d.1.id ≠ userId := by
  intro hid
  obtain ⟨huser, hactive, -⟩ := Engine.Agreement.mem_desiredAssignments.mp hd
  rw [h.inactive _ huser hid] at hactive
  cases hactive

/-- No keypad lets the user in. -/
theorem Out.not_granted (h : Out userId db) {keypadEvent : KeypadEventDto}
    {accessPoint : AccessPoint} {evaluationTimeUtc : Option DateTime} {u : User}
    {q : AccessPolicy}
    (hgrants : Engine.Evaluate.Grants (AccessPolicyEvaluator.evaluateAsync keypadEvent accessPoint
      evaluationTimeUtc db).1 u q) : u.id ≠ userId := by
  intro hid
  obtain ⟨-, hholder, hactive, -⟩ := Engine.Evaluate.evaluateAsync_grants_iff.mp hgrants
  rw [h.inactive u hholder.mem hid] at hactive
  cases hactive

/-- **A revoked user stays out**: take a revocation or a deletion of the user, and then any run in
which no creation of a user with the id and no update that writes the user as active succeeds.
Afterwards no row of `HardwareSlots` is the user's, no pass over any door would program a code for
the user, and no evaluation of a keypad event grants access to the user, at any door and time. -/
theorem excluded_stays_out (capabilities : String → LockCapabilities) {s : Server} (h : Intact s)
    {userId : String} {exclusion : Event} (hexcludes : Excludes userId exclusion)
    (events : List Event)
    (hout : Transition.StepsMeet (Server.step capabilities) (fun s e => ¬ Readmits userId s e)
      (s.step capabilities exclusion) events) :
    let s' := events.foldl (Server.step capabilities) (s.step capabilities exclusion)
    (∀ x ∈ s'.db.hardwareSlots.rows, x.userId ≠ some userId)
      ∧ (∀ door now, ∀ d ∈ HardwareSlotSyncWorker.desiredAssignments s'.db door now,
          d.1.id ≠ userId)
      ∧ ∀ keypadEvent accessPoint evaluationTimeUtc u q,
          Engine.Evaluate.Grants (AccessPolicyEvaluator.evaluateAsync keypadEvent accessPoint
            evaluationTimeUtc s'.db).1 u q → u.id ≠ userId := by
  have hstays : Out userId
      (events.foldl (Server.step capabilities) (s.step capabilities exclusion)).db :=
    Transition.invariant_of_stepsMeet (fun s : Server => Out userId s.db)
      (fun _ _ hs he => hs.step he capabilities) events _ (out_excludes h hexcludes capabilities)
      hout
  exact ⟨hstays.noSlot, fun _ _ _ hd => hstays.not_desired hd,
    fun _ _ _ _ _ hgrants => hstays.not_granted hgrants⟩

end

section
/-- The host of the samples. -/
local instance revocationHost : Host := Host.sample

/-- Ann is revoked, and another pass runs over the door. -/
def revocation : Event :=
  .administration (.revokeUser (some (.object [("userId", .string "ann")])) ⟨3, .utc⟩)

/-- The revocation of the sample takes Ann out. -/
theorem revocation_excludes : Excludes "ann" revocation := by
  show DoorTools.parseRevoke (some (.object [("userId", .string "ann")])) = .ok (.ok "ann")
  decide +kernel

/-- Ann stays out after the revocation and one more pass. -/
theorem excluded_stays_out_sample :
    let s' := [Event.pass "front" [] ⟨4, .utc⟩].foldl (Server.step fun _ => .userCodes)
      ((sampleEvents.foldl (Server.step fun _ => .userCodes) { db := {} }).step
        (fun _ => .userCodes) revocation)
    (∀ x ∈ s'.db.hardwareSlots.rows, x.userId ≠ some "ann")
      ∧ (∀ door now, ∀ d ∈ HardwareSlotSyncWorker.desiredAssignments s'.db door now,
          d.1.id ≠ "ann")
      ∧ ∀ keypadEvent accessPoint evaluationTimeUtc u q,
          Engine.Evaluate.Grants (AccessPolicyEvaluator.evaluateAsync keypadEvent accessPoint
            evaluationTimeUtc s'.db).1 u q → u.id ≠ "ann" :=
  excluded_stays_out (fun _ => .userCodes)
    (Transition.foldl_invariant (Server.step fun _ => .userCodes) Intact
      (fun _ e hs => hs.step (fun _ => .userCodes) e) sampleEvents { db := {} } intact_empty)
    revocation_excludes [.pass "front" [] ⟨4, .utc⟩]
    ⟨by simp [Readmits, Creates, Activates], trivial⟩

end

end CodeMaster.Proofs.Server
