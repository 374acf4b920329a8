import CodeMaster.Engine.HardwareSlotSyncCalls
import CodeMaster.Proofs.Engine.Agreement

/-!
# `CodeMaster.Proofs.Engine.CutShort`: a pass of the slot worker that is cut short

`SyncedMatches` says that every row of the door that has a user and is synced has the code of
its credential in the lock. A pass that ends early leaves the state between two of its calls.

Each call of the pass keeps `SyncedMatches` except `AllocateSlotAsync`. It stores the row as
synced, and the lock gets the code two calls later. `synced_throughout_iff` is the exact form:
the property holds between all calls of a pass if and only if each allocation finds the code
in the lock already.

A row is not synced while its slot of the lock changes (`Unsynced`). The second loop works on
a list of slots that was read before, and `Listed` says that its rows are as they were.

The rules of `Calls` carry the proof: `Exact` says that a tree of calls keeps a property between all
of its calls if and only if every call meets a condition in the state before it. There is one rule
for each kind of call, and the rules for composition and loops take them to the whole pass. The
exact form needs no assumption about the provider: each of its calls may succeed or fail.
-/

set_option autoImplicit false

namespace CodeMaster.Proofs.Engine.CutShort

open CodeMaster.Core Data CodeMaster.Engine HardwareSlotSyncWorker HardwareSlotRepository
open SlotCalls Relational Exec

/-- The lock holds the code of the credential in the slot. -/
def Programmed (w : World) (credentialId : Option String) (slotNumber : Int) : Prop :=
  ∃ cred ∈ w.db.credentials.rows, credentialId = some cred.id
    ∧ w.lock slotNumber = some (pinCode cred)

/-- Every row of the door that has a user and is synced is matched by the code of its
credential in the lock. -/
def SyncedMatches (door : String) (w : World) : Prop :=
  ∀ s ∈ w.db.hardwareSlots.rows, s.accessPointId = door → isNullOrEmpty s.userId = false →
    s.syncStatus = .synced → Programmed w s.credentialId s.slotNumber

/-- An allocation at a stored door comes when the lock already holds the code of the
credential in the slot. -/
def AllocatesProgrammed : SlotCall → World → Prop
  | .allocateSlotAsync accessPointId _ credentialId slotNumber, w =>
    accessPointId ∈ w.db.accessPoints.keys → Programmed w (some credentialId) slotNumber
  | _, _ => True

/-! ### The rows during a pass -/

/-- The row of a slot has its id and its place. -/
def Located (door : String) (s : HardwareSlot) (db : Db) : Prop :=
  ∃ r ∈ db.hardwareSlots.rows, r.id = s.id ∧ r.accessPointId = door ∧ r.slotNumber = s.slotNumber

/-- The row of a slot has its id, its place, its user and its credential. -/
def Backed (door : String) (s : HardwareSlot) (db : Db) : Prop :=
  ∃ r ∈ db.hardwareSlots.rows, r.id = s.id ∧ r.accessPointId = door
    ∧ r.slotNumber = s.slotNumber ∧ r.userId = s.userId ∧ r.credentialId = s.credentialId

/-- The row is not synced. -/
def Unsynced (slotId : String) (db : Db) : Prop :=
  ∀ r ∈ db.hardwareSlots.rows, r.id = slotId → r.syncStatus ≠ .synced

/-- Only slot rows have changed. -/
def Framed (db0 db : Db) : Prop := db = { db0 with hardwareSlots := db.hardwareSlots }

variable {door id : String} {s : HardwareSlot} {db db0 : Db} {w : World}
  {f : HardwareSlot → HardwareSlot} {hid : ∀ s, (f s).id = s.id}
  {hplace : ∀ s, place (f s) = place s}

/-- A row that is backed is located: the part of the invariant that a write of the status keeps. -/
theorem Backed.located (h : Backed door s db) : Located door s db := by
  obtain ⟨r, hr, hrid, hdoor, hslot, -⟩ := h
  exact ⟨r, hr, hrid, hdoor, hslot⟩

/-- A write that keeps the ids and the places keeps the location of a row. -/
theorem Located.update (h : Located door s db) :
    Located door s (updateWhere (fun s => s.id = id) f hid hplace db) := by
  obtain ⟨r, hr, hrid, hdoor, hslot⟩ := h
  refine ⟨_, mem_updateWhere.mpr ⟨r, hr, rfl⟩, ?_⟩
  split
  · obtain ⟨hdoor', hslot'⟩ := Prod.ext_iff.mp (hplace r)
    exact ⟨(hid r).trans hrid, hdoor'.trans hdoor, hslot'.trans hslot⟩
  · exact ⟨hrid, hdoor, hslot⟩

/-- A new status keeps a row backed. -/
theorem Backed.updateStatus (h : Backed door s db) (status : SlotSyncStatus) :
    Backed door s (HardwareSlotRepository.updateSlotSyncStatusAsync id status db) := by
  obtain ⟨r, hr, hrest⟩ := h
  refine ⟨_, mem_updateWhere.mpr ⟨r, hr, rfl⟩, ?_⟩
  split
  · exact hrest
  · exact hrest

/-- A write that keeps the ids and the places keeps the frame. -/
theorem Framed.update (h : Framed db0 db) :
    Framed db0 (updateWhere (fun s => s.id = id) f hid hplace db) := by
  unfold Framed updateWhere at *
  rw [h]

/-- The row that an update writes. -/
theorem eq_of_mem_update {x : HardwareSlot}
    (hx : x ∈ (updateWhere (fun s => s.id = id) f hid hplace db).hardwareSlots.rows)
    (hxid : x.id = id) : ∃ r, x = f r := by
  obtain ⟨r, -, rfl⟩ := mem_updateWhere.mp hx
  split at hxid
  · rename_i hr
    exact ⟨r, if_pos hr⟩
  · rename_i hr
    exact absurd (decide_eq_true hxid) hr

/-- After a status other than `Synced` is written, the row is not `Synced`. -/
theorem unsynced_updateStatus {status : SlotSyncStatus} (hstatus : status ≠ .synced) :
    Unsynced id (HardwareSlotRepository.updateSlotSyncStatusAsync id status db) := by
  intro x hx hxid
  obtain ⟨r, rfl⟩ := eq_of_mem_update hx hxid
  exact hstatus

/-- An update of one row keeps `SyncedMatches` when the new row does. -/
theorem SyncedMatches.update (h : SyncedMatches door w)
    (hnew : ∀ r ∈ w.db.hardwareSlots.rows, r.id = id → r.accessPointId = door →
      isNullOrEmpty (f r).userId = false → (f r).syncStatus = .synced →
      Programmed w (f r).credentialId r.slotNumber) :
    SyncedMatches door { w with db := updateWhere (fun s => s.id = id) f hid hplace w.db } := by
  intro x hx hdoor huser hsynced
  obtain ⟨r, hr, rfl⟩ := mem_updateWhere.mp hx
  split at hdoor
  · rename_i hrid
    rw [if_pos hrid] at huser hsynced ⊢
    obtain ⟨hdoor', hslot⟩ := Prod.ext_iff.mp (hplace r)
    have hprogrammed := hnew r hr (of_decide_eq_true hrid) (hdoor'.symm.trans hdoor) huser hsynced
    rw [show (f r).slotNumber = r.slotNumber from hslot]
    exact hprogrammed
  · rename_i hrid
    rw [if_neg hrid] at huser hsynced ⊢
    exact h r hr hdoor huser hsynced

/-- A call of the provider on the slot of a row that is not synced keeps `SyncedMatches`. -/
theorem SyncedMatches.callProvider (h : SyncedMatches door w) (hlocated : Located door s w.db)
    (hunsynced : Unsynced s.id w.db) (content : Option String) :
    SyncedMatches door (w.callProvider s.slotNumber content).2 := by
  intro x hx hdoor huser hsynced
  obtain ⟨cred, hcred, hid, hlock⟩ := h x hx hdoor huser hsynced
  refine ⟨cred, hcred, hid, ?_⟩
  -- A synced row is another one, and so has another number.
  have hne : x.slotNumber ≠ s.slotNumber := by
    intro hslot
    obtain ⟨r, hr, hrid, hrdoor, hrslot⟩ := hlocated
    have : x = r :=
      HardwareSlots.eq_of_place hx hr (hdoor.trans hrdoor.symm) (hslot.trans hrslot.symm)
    subst this
    exact hunsynced x hx hrid hsynced
  show (if w.outcomes.headD true = true then Function.update w.lock s.slotNumber content
    else w.lock) x.slotNumber = _
  split
  · rw [Function.update_of_ne hne]
    exact hlock
  · exact hlock

/-! ### The calls -/

section
variable [Host]

/-- The exact triple of this module. -/
abbrev Triple {α : Type} (door : String) (P : World → Prop) (m : SlotCalls α)
    (Q : α → World → Prop) : Prop :=
  Calls.Exact perform (SyncedMatches door) AllocatesProgrammed P m Q

/-- The rule for a new status. A row may become `Synced` only when its code is in the lock. -/
theorem exact_updateStatus {P Q : World → Prop} {status : SlotSyncStatus}
    (hsynced : status = .synced → ∀ w, P w → ∀ r ∈ w.db.hardwareSlots.rows, r.id = id →
      r.accessPointId = door → isNullOrEmpty r.userId = false →
      Programmed w r.credentialId r.slotNumber)
    (hQ : ∀ w, P w → Q { w with
      db := HardwareSlotRepository.updateSlotSyncStatusAsync id status w.db }) :
    Triple door P (updateSlotSyncStatusAsync id status) fun _ => Q := by
  refine Calls.Exact.make (fun w hw hP => iff_of_true ?_ trivial) fun w _ w' _ hP _ hw' => ?_
  · exact hw.update fun r hr hrid hdoor huser hstatus => hsynced hstatus w hP r hr hrid hdoor huser
  · cases hw'
    exact hQ w hP

/-- The rule for a cleared slot, which is not `Synced` with a user afterwards. -/
theorem exact_clearSlot {P Q : World → Prop}
    (hQ : ∀ w, P w → Q { w with db := HardwareSlotRepository.clearSlotAsync id w.db }) :
    Triple door P (clearSlotAsync id) fun _ => Q := by
  refine Calls.Exact.make (fun w hw hP => iff_of_true ?_ trivial) fun w _ w' _ hP _ hw' => ?_
  · exact hw.update fun r _ _ _ huser _ => by cases huser
  · cases hw'
    exact hQ w hP

/-- The rule for a code that is written. The row must not be `Synced` at this moment, because the
lock changes under it. -/
theorem exact_setSlotCode {P : World → Prop} {Q : Bool → World → Prop} {pin userName : String}
    (hunsynced : ∀ w, P w → Located door s w.db ∧ Unsynced s.id w.db)
    (hQ : ∀ w, P w → Q (w.callProvider s.slotNumber (some pin)).1
      (w.callProvider s.slotNumber (some pin)).2) :
    Triple door P (setSlotCodeAsync s.slotNumber pin userName) Q := by
  refine Calls.Exact.make (fun w hw hP => iff_of_true ?_ trivial) fun w r w' _ hP _ hw' => ?_
  · exact hw.callProvider (hunsynced w hP).1 (hunsynced w hP).2 _
  · cases hw'
    exact hQ w hP

/-- The rule for a code that is cleared, with the same condition. -/
theorem exact_clearSlotCode {P : World → Prop} {Q : Bool → World → Prop}
    (hunsynced : ∀ w, P w → Located door s w.db ∧ Unsynced s.id w.db)
    (hQ : ∀ w, P w → Q (w.callProvider s.slotNumber none).1
      (w.callProvider s.slotNumber none).2) :
    Triple door P (clearSlotCodeAsync s.slotNumber) Q := by
  refine Calls.Exact.make (fun w hw hP => iff_of_true ?_ trivial) fun w r w' _ hP _ hw' => ?_
  · exact hw.callProvider (hunsynced w hP).1 (hunsynced w hP).2 _
  · cases hw'
    exact hQ w hP

/-! ### The first loop -/

/-- The rows of the listed slots are in their places, and only slot rows have changed. -/
structure Located.All (db0 : Db) (door : String) (slots : List HardwareSlot) (db : Db) : Prop where
  framed : Framed db0 db
  located : ∀ s ∈ slots, Located door s db

variable {slots : List HardwareSlot}

omit [Host] in
/-- A write that keeps the ids and the places keeps the location of all listed rows. -/
theorem Located.All.update (h : Located.All db0 door slots db) :
    Located.All db0 door slots (updateWhere (fun s => s.id = id) f hid hplace db) :=
  ⟨h.framed.update, fun s hs => (h.located s hs).update⟩

/-- The body of the first loop keeps the property at every point. -/
theorem exact_removeObsolete (desired : List (User × Credential)) (hs : s ∈ slots) :
    Triple door (fun w => Located.All db0 door slots w.db) (removeObsolete desired s)
      fun _ w => Located.All db0 door slots w.db := by
  unfold SlotCalls.removeObsolete
  dsimp only
  refine Calls.Exact.ite (fun _ => ?_) fun _ => Calls.Exact.pure fun w hw => hw
  -- The row is marked before the lock is told to clear the slot.
  refine Calls.Exact.bind (exact_updateStatus (by simp) (Q := fun w =>
    Located.All db0 door slots w.db ∧ Unsynced s.id w.db) fun w hw => ?_) fun _ => ?_
  · exact ⟨hw.update, unsynced_updateStatus (by simp)⟩
  refine Calls.Exact.bind (exact_clearSlotCode (Q := fun _ w =>
    Located.All db0 door slots w.db ∧ Unsynced s.id w.db)
    (fun w hw => ⟨hw.1.located s hs, hw.2⟩) fun w hw => hw) fun cleared => ?_
  refine Calls.Exact.ite (fun _ => ?_) fun _ => ?_
  · refine Calls.Exact.bind (exact_clearSlot (Q := fun w => Located.All db0 door slots w.db
      ∧ ∀ r ∈ w.db.hardwareSlots.rows, r.id = s.id → r.userId = none) fun w hw => ?_) fun _ => ?_
    · refine ⟨hw.1.update, fun x hx hxid => ?_⟩
      obtain ⟨r, rfl⟩ := eq_of_mem_update hx hxid
      rfl
    · -- The row has no user any more when it is synced again.
      refine exact_updateStatus (fun _ w hw r hr hrid _ huser => ?_) fun w hw => hw.1.update
      rw [hw.2 r hr hrid] at huser
      cases huser
  · exact exact_updateStatus (by simp) fun w hw => hw.1.update

/-! ### The second loop -/

/-- The listed slots with a user are as their rows, and only slot rows have changed. -/
structure Listed (db0 : Db) (door : String) (slots : List HardwareSlot) (db : Db) : Prop where
  framed : Framed db0 db
  backed : ∀ s ∈ slots, isNullOrEmpty s.userId = false → Backed door s db

/-- The slot that the loop programs has its row, too. -/
structure Programming (db0 : Db) (door : String) (slots : List HardwareSlot) (s : HardwareSlot)
    (db : Db) : Prop where
  listed : Listed db0 door slots db
  backed : Backed door s db

omit [Host] in
/-- A new status keeps the state of the second loop at its row. -/
theorem Programming.updateStatus (h : Programming db0 door slots s db) (status : SlotSyncStatus) :
    Programming db0 door slots s
      (HardwareSlotRepository.updateSlotSyncStatusAsync id status db) where
  listed := ⟨h.listed.framed.update, fun s hs huser =>
    (h.listed.backed s hs huser).updateStatus status⟩
  backed := h.backed.updateStatus status

omit [Host] in
/-- The programmed slot can be listed. -/
theorem Programming.listed_append (h : Programming db0 door slots s db) :
    Listed db0 door (slots ++ [s]) db where
  framed := h.listed.framed
  backed s' hs' huser := by
    rcases List.mem_append.mp hs' with hs' | hs'
    · exact h.listed.backed s' hs' huser
    · cases List.mem_singleton.mp hs'
      exact h.backed

/-- The slot is marked before the lock gets the code. -/
theorem exact_mark : Triple door (fun w => Programming db0 door slots s w.db)
    (updateSlotSyncStatusAsync s.id .adding)
    fun _ w => Programming db0 door slots s w.db ∧ Unsynced s.id w.db :=
  exact_updateStatus (by simp) fun _ hw => ⟨hw.updateStatus _, unsynced_updateStatus (by simp)⟩

/-- The code of a row is written while the row is not `Synced`. Afterwards the lock has it, if the
answer says so. -/
theorem exact_program (pin userName : String) :
    Triple door (fun w => Programming db0 door slots s w.db ∧ Unsynced s.id w.db)
      (setSlotCodeAsync s.slotNumber pin userName)
      fun setOk w => Programming db0 door slots s w.db
        ∧ (setOk = true → w.lock s.slotNumber = some pin) := by
  refine exact_setSlotCode (fun w hw => ⟨hw.1.backed.located, hw.2⟩) fun w hw => ⟨hw.1, ?_⟩
  intro hsuccess
  have hsuccess' : w.outcomes.headD true = true := hsuccess
  show (if w.outcomes.headD true = true then Function.update w.lock s.slotNumber (some pin)
    else w.lock) s.slotNumber = _
  rw [if_pos hsuccess', Function.update_self]

/-- The slot is synced once the lock holds the code of its credential. -/
theorem exact_markSynced {cred : Credential} (hcred : cred ∈ db0.credentials.rows)
    (hs : s.credentialId = some cred.id) :
    Triple door (fun w => Programming db0 door slots s w.db
        ∧ w.lock s.slotNumber = some (pinCode cred))
      (updateSlotSyncStatusAsync s.id .synced) fun _ w => Programming db0 door slots s w.db := by
  refine exact_updateStatus (fun _ w hw r hr hrid _ _ => ?_) fun w hw => hw.1.updateStatus _
  obtain ⟨⟨hlisted, r', hr', hrid', -, hslot, -, hcredential⟩, hlock⟩ := hw
  have : r = r' := HardwareSlots.eq_of_id hr hr' (hrid.trans hrid'.symm)
  subst this
  refine ⟨cred, ?_, hcredential.trans hs, hslot ▸ hlock⟩
  rw [hlisted.framed]
  exact hcred

/-- The row is marked as failed, which asks for nothing. -/
theorem exact_markError : Triple door (fun w => Programming db0 door slots s w.db)
    (updateSlotSyncStatusAsync s.id .error) fun _ w => Programming db0 door slots s w.db :=
  exact_updateStatus (by simp) fun _ hw => hw.updateStatus _

variable {user : User} {cred : Credential} {n : Int}

/-- Without its door the row violates a foreign key. -/
theorem exec_allocateSlot_of_notMem (userId credentialId : String) (n : Int)
    (hdoor : door ∉ w.db.accessPoints.keys) :
    (perform (.allocateSlotAsync door userId credentialId n)).exec w
      = (.error .foreignKey, w) :=
  exec_allocateSlotAsync_of_missing (fun h => hdoor h.1) n

/-- The allocation leaves a synced row at its place and answers it. -/
theorem exec_allocateSlot_of_mem (hdoor : door ∈ w.db.accessPoints.keys)
    (huser : user ∈ w.db.users.rows) (hcred : cred ∈ w.db.credentials.rows) (n : Int) :
    ∃ hardwareSlots r,
      (perform (.allocateSlotAsync door user.id cred.id n)).exec w
          = (.ok (some r), { w with db := { w.db with hardwareSlots } })
        ∧ r.userId = some user.id ∧ r.credentialId = some cred.id ∧ r.syncStatus = .synced
        ∧ ∀ door' n', getSlotAsync { w.db with hardwareSlots } door' n'
            = if door' = door ∧ n' = n then some r else getSlotAsync w.db door' n' :=
  exec_allocateSlotAsync_of_stored hdoor (Table.mem_keys.mpr ⟨user, huser, rfl⟩)
    (Table.mem_keys.mpr ⟨cred, hcred, rfl⟩) n

omit [Host] in
/-- A synced row at a place: the property holds exactly when the lock has its code. -/
theorem syncedMatches_iff_of_place {hardwareSlots : HardwareSlots} {r : HardwareSlot}
    (h : SyncedMatches door w) (hid : user.id ≠ "") (hruser : r.userId = some user.id)
    (hrstatus : r.syncStatus = .synced)
    (hslots : ∀ door' n', getSlotAsync { w.db with hardwareSlots } door' n'
      = if door' = door ∧ n' = n then some r else getSlotAsync w.db door' n') :
    SyncedMatches door { w with db := { w.db with hardwareSlots } }
      ↔ Programmed w r.credentialId n := by
  have hr : getSlotAsync { w.db with hardwareSlots } door n = some r := by
    rw [hslots, if_pos ⟨rfl, rfl⟩]
  obtain ⟨hmem, hdoor, hslot⟩ := getSlotAsync_eq_some_iff.mp hr
  constructor
  · intro hafter
    have huser : isNullOrEmpty r.userId = false := by
      rw [hruser, isNullOrEmpty_some]
      exact decide_eq_false hid
    have hprogrammed := hafter r hmem hdoor huser hrstatus
    rw [hslot] at hprogrammed
    exact hprogrammed
  · intro hprogrammed x hx hxdoor hxuser hxstatus
    have hget := getSlotAsync_eq_some_iff.mpr ⟨hx, hxdoor, rfl⟩
    rw [hslots] at hget
    split at hget
    · rename_i hsame
      cases hget
      rw [hsame.2]
      exact hprogrammed
    · -- The other rows of the door are as before.
      exact h x (getSlotAsync_eq_some_iff.mp hget).1 hxdoor hxuser hxstatus

/-- The allocation of a slot: the row is synced afterwards, so the property holds exactly when
the lock already has the code. -/
theorem exact_allocateSlot (huser : user ∈ db0.users.rows) (hid : user.id ≠ "")
    (hcred : cred ∈ db0.credentials.rows)
    (hfree : ∀ s ∈ slots, isNullOrEmpty s.userId = false → s.slotNumber ≠ n) :
    Triple door (fun w => Listed db0 door slots w.db) (allocateSlotAsync door user.id cred.id n)
      fun allocated w => ∃ r, allocated = some r ∧ r.slotNumber = n
        ∧ r.credentialId = some cred.id ∧ Programming db0 door slots r w.db := by
  have hstored : ∀ w : World, Listed db0 door slots w.db →
      user ∈ w.db.users.rows ∧ cred ∈ w.db.credentials.rows := by
    intro w hw
    rw [hw.framed]
    exact ⟨huser, hcred⟩
  refine Calls.Exact.make (fun w hw hlisted => ?_) fun w allocated w' _ hlisted _ hw' => ?_
  · by_cases hdoor : door ∈ w.db.accessPoints.keys
    · obtain ⟨huser', hcred'⟩ := hstored w hlisted
      obtain ⟨hardwareSlots, r, hexec, hruser, hrcred, hrstatus, hslots⟩ :=
        exec_allocateSlot_of_mem hdoor huser' hcred' n
      rw [hexec]
      show SyncedMatches door { w with db := { w.db with hardwareSlots } }
        ↔ (door ∈ w.db.accessPoints.keys → Programmed w (some cred.id) n)
      rw [syncedMatches_iff_of_place hw hid hruser hrstatus hslots, hrcred]
      exact ⟨fun h _ => h, fun h => h hdoor⟩
    · rw [exec_allocateSlot_of_notMem user.id cred.id n hdoor]
      exact iff_of_true hw fun h => absurd h hdoor
  · by_cases hdoor : door ∈ w.db.accessPoints.keys
    · obtain ⟨huser', hcred'⟩ := hstored w hlisted
      obtain ⟨hardwareSlots, r, hexec, hruser, hrcred, hrstatus, hslots⟩ :=
        exec_allocateSlot_of_mem hdoor huser' hcred' n
      rw [hexec] at hw'
      cases hw'
      have hr : getSlotAsync { w.db with hardwareSlots } door n = some r := by
        rw [hslots, if_pos ⟨rfl, rfl⟩]
      obtain ⟨hmem, hrdoor, hrslot⟩ := getSlotAsync_eq_some_iff.mp hr
      refine ⟨r, rfl, hrslot, hrcred, ⟨?_, fun s hs huser => ?_⟩,
        ⟨r, hmem, rfl, hrdoor, rfl, rfl, rfl⟩⟩
      · show { w.db with hardwareSlots } = _
        rw [hlisted.framed]
      · -- The rows of the listed slots have other numbers.
        obtain ⟨x, hx, hxid, hxdoor, hxslot, hrest⟩ := hlisted.backed s hs huser
        have hget := hslots door x.slotNumber
        rw [if_neg fun h => hfree s hs huser (hxslot.symm.trans h.2),
          getSlotAsync_eq_some_iff.mpr ⟨hx, hxdoor, rfl⟩] at hget
        exact ⟨x, (getSlotAsync_eq_some_iff.mp hget).1, hxid, hxdoor, hxslot, hrest⟩
    · rw [exec_allocateSlot_of_notMem user.id cred.id n hdoor] at hw'
      cases hw'

/-- The body of the second loop: apart from the allocation it keeps the property at every
point. -/
theorem exact_addOrUpdate {accessPoint : AccessPoint} (huser : user ∈ db0.users.rows)
    (hid : user.id ≠ "") (hcred : cred ∈ db0.credentials.rows) (slots : List HardwareSlot) :
    Triple accessPoint.id (fun w => Listed db0 accessPoint.id slots w.db)
      (addOrUpdate accessPoint slots (user, cred))
      fun slots' w => Listed db0 accessPoint.id slots' w.db := by
  unfold SlotCalls.addOrUpdate
  dsimp only
  cases hfind : slots.find? (holds user cred) with
  | some existingSlot =>
    dsimp only
    have hmem : existingSlot ∈ slots := List.mem_of_find?_eq_some hfind
    obtain ⟨hsuser, hscred⟩ : existingSlot.userId = some user.id
        ∧ existingSlot.credentialId = some cred.id := by
      simpa [holds] using List.find?_some hfind
    have hnotEmpty : isNullOrEmpty existingSlot.userId = false := by
      rw [hsuser, isNullOrEmpty_some]
      exact decide_eq_false hid
    refine Calls.Exact.ite (fun _ => ?_) fun _ => Calls.Exact.pure fun w hw => hw
    refine Calls.Exact.bind (exact_mark.weaken
      (fun w hw => ⟨hw, hw.backed _ hmem hnotEmpty⟩) fun _ _ h => h) fun _ => ?_
    refine Calls.Exact.bind (exact_program _ _) fun setOk => ?_
    refine Calls.Exact.bind (Q := fun _ w => Programming db0 accessPoint.id slots existingSlot w.db)
      ?_ fun _ => Calls.Exact.pure fun w hw => hw.listed
    cases setOk with
    | true =>
      exact (exact_markSynced hcred hscred).weaken (fun w hw => ⟨hw.1, hw.2 rfl⟩) fun _ _ h => h
    | false => exact exact_markError.weaken (fun w hw => hw.1) fun _ _ h => h
  | none =>
    dsimp only
    cases hfree : HardwareSlotSyncWorker.freeSlotNumber slots with
    | none => exact Calls.Exact.pure fun w hw => hw
    | some n =>
      dsimp only
      have hnumber : ∀ s ∈ slots, isNullOrEmpty s.userId = false → s.slotNumber ≠ n := by
        intro s hs hsuser hsn
        refine (FirstFree.firstFree_spec hfree).2.2 ?_
        exact List.mem_map.mpr ⟨s, List.mem_filter.mpr ⟨hs, by rw [hsuser]; rfl⟩, hsn⟩
      refine Calls.Exact.bind (exact_allocateSlot huser hid hcred hnumber) fun allocated => ?_
      refine Calls.Exact.exists_left fun r => Calls.Exact.and_left fun hallocated =>
        Calls.Exact.and_left fun hslot => Calls.Exact.and_left fun hrcred => ?_
      -- The row of the answer is the slot that the loop programs.
      subst hallocated hslot
      dsimp only
      refine Calls.Exact.bind exact_mark fun _ => ?_
      refine Calls.Exact.bind (exact_program _ _) fun setOk => ?_
      refine Calls.Exact.ite (fun hok => ?_) fun _ => ?_
      · refine Calls.Exact.bind ((exact_markSynced hcred hrcred).weaken
          (fun w hw => ⟨hw.1, hw.2 hok⟩) fun _ _ h => h) fun _ => Calls.Exact.pure fun w hw => ?_
        exact hw.listed_append
      · exact Calls.Exact.bind (exact_markError.weaken (fun w hw => hw.1) fun _ _ h => h)
          fun _ => Calls.Exact.pure fun w hw => hw.listed

/-! ### The pass -/

/-- A read leaves the property, and its answer is what is stored. -/
theorem exact_getSlotsForDoor {P : World → Prop} {Q : List HardwareSlot → World → Prop}
    (hQ : ∀ w, P w → Q (HardwareSlotRepository.getSlotsForDoorAsync w.db door) w) :
    Triple door P (getSlotsForDoorAsync door) Q := by
  refine Calls.Exact.make (fun w hw hP => iff_of_true hw trivial) fun w _ w' _ hP _ hw' => ?_
  cases hw'
  exact hQ w hP

/-- The selection of the wanted credentials changes nothing. -/
theorem exact_desiredAssignments (accessPoint : AccessPoint) (now : DateTime) :
    Triple door (fun w => w.db = db0) (desiredAssignments accessPoint now)
      fun desired w => desired = HardwareSlotSyncWorker.desiredAssignments db0 accessPoint now
        ∧ w.db = db0 := by
  refine Calls.Exact.make (fun w hw hP => iff_of_true hw trivial) fun w _ w' _ hP _ hw' => ?_
  cases hw'
  subst hP
  exact ⟨rfl, rfl⟩

/-- The pass keeps the property at every point, apart from its allocations. -/
theorem exact_reconcileDoorSlots (accessPoint : AccessPoint) (capabilities : LockCapabilities)
    (now : DateTime) (hids : ∀ u ∈ db0.users.rows, u.id ≠ "") :
    Triple accessPoint.id (fun w => w.db = db0)
      (SlotCalls.reconcileDoorSlotsAsync accessPoint capabilities now) fun _ _ => True := by
  unfold SlotCalls.reconcileDoorSlotsAsync
  refine Calls.Exact.ite (fun _ => ?_) fun _ => Calls.Exact.pure fun _ _ => trivial
  refine Calls.Exact.bind (exact_desiredAssignments accessPoint now) fun desired => ?_
  refine Calls.Exact.and_left fun hdesired => ?_
  -- The listed slots are rows when the first loop starts, and stay in their places.
  refine Calls.Exact.bind (Q := fun slots w => Located.All db0 accessPoint.id
    (slots.filter fun s => !isNullOrEmpty s.userId) w.db)
    (exact_getSlotsForDoor fun w hw => ?_) fun slots => ?_
  · refine ⟨by rw [← hw]; rfl, fun s hs => ?_⟩
    obtain ⟨hs, hdoor⟩ := mem_getSlotsForDoorAsync.mp (List.mem_of_mem_filter hs)
    exact ⟨s, hs, rfl, hdoor, rfl⟩
  refine Calls.Exact.bind (Calls.Exact.forM fun s hs => exact_removeObsolete desired hs) fun _ => ?_
  -- The second loop starts from the rows, read again.
  refine Calls.Exact.bind (Q := fun slots w => Listed db0 accessPoint.id slots w.db)
    (exact_getSlotsForDoor fun w hw => ⟨hw.framed, fun s hs _ => ?_⟩) fun slots => ?_
  · obtain ⟨hs, hdoor⟩ := mem_getSlotsForDoorAsync.mp hs
    exact ⟨s, hs, rfl, hdoor, rfl, rfl, rfl⟩
  show Triple accessPoint.id _
    (desired.foldlM (addOrUpdate accessPoint) slots >>= fun _ => pure PUnit.unit) _
  refine Calls.Exact.bind (Calls.Exact.foldlM (J := fun slots (w : World) =>
    Listed db0 accessPoint.id slots w.db) (fun d hd slots => ?_) slots)
    fun _ => Calls.Exact.pure fun _ _ => trivial
  obtain ⟨user, cred⟩ := d
  rw [hdesired] at hd
  obtain ⟨huser, -, -, hcred⟩ := Agreement.mem_desiredAssignments.mp hd
  have hmem := CredentialRepository.mem_getByUserIdAsync.mp (List.mem_of_find?_eq_some hcred)
  exact exact_addOrUpdate huser (hids user huser) hmem.1 slots

/-- The synced rows of the door are matched by the lock between all calls of a pass if and only
if every allocation of the pass finds the code of its credential in the lock. -/
theorem synced_throughout_iff (accessPoint : AccessPoint) (capabilities : LockCapabilities)
    (now : DateTime) (w : World) (hids : ∀ u ∈ w.db.users.rows, u.id ≠ "")
    (hsynced : SyncedMatches accessPoint.id w) :
    (∀ w' ∈ Calls.states perform
        (SlotCalls.reconcileDoorSlotsAsync accessPoint capabilities now) w,
      SyncedMatches accessPoint.id w')
      ↔ ∀ e ∈ Calls.made perform
          (SlotCalls.reconcileDoorSlotsAsync accessPoint capabilities now) w,
        AllocatesProgrammed e.1 e.2 :=
  (exact_reconcileDoorSlots accessPoint capabilities now hids).always_iff w hsynced rfl

end

/-! ### A pass that allocates a slot -/

/-- Whether the lock has the code of the credential is decidable. -/
instance (w : World) (credentialId : Option String) (slotNumber : Int) :
    Decidable (Programmed w credentialId slotNumber) :=
  inferInstanceAs (Decidable (∃ cred ∈ w.db.credentials.rows, _))

/-- Whether every `Synced` row has its code is decidable. -/
instance (door : String) (w : World) : Decidable (SyncedMatches door w) :=
  inferInstanceAs (Decidable (∀ s ∈ w.db.hardwareSlots.rows, _))

/-- The condition on a call is decidable. -/
instance (c : SlotCall) (w : World) : Decidable (AllocatesProgrammed c w) :=
  match c with
  | .allocateSlotAsync _ _ _ _ => inferInstanceAs (Decidable (_ → _))
  | .desiredAssignments _ _ => isTrue trivial
  | .getSlotsForDoorAsync _ => isTrue trivial
  | .updateSlotSyncStatusAsync _ _ => isTrue trivial
  | .clearSlotAsync _ => isTrue trivial
  | .setSlotCodeAsync _ _ _ => isTrue trivial
  | .clearSlotCodeAsync _ => isTrue trivial

section
/-- The host of the samples. -/
local instance : Host := Host.sample

open Evaluate

/-- A lock that has the guest's code in its first slot from before. -/
def codeInFirstSlot : World where
  db := frontDoorOnly
  lock n := if n = 1 then some "1234" else none

/-- The pass gives the guest the slot that has the code. -/
theorem synced_throughout_iff_codeInFirstSlot :
    SyncedMatches "front" codeInFirstSlot
      ∧ ∀ w' ∈ Calls.states perform (SlotCalls.reconcileDoorSlotsAsync frontDoor .userCodes
          { ticks := 0 }) codeInFirstSlot, SyncedMatches "front" w' := by
  have hsynced : SyncedMatches "front" codeInFirstSlot := by decide
  have hiff := synced_throughout_iff frontDoor .userCodes { ticks := 0 } codeInFirstSlot
    (by decide) hsynced
  exact ⟨hsynced, hiff.mpr (by decide)⟩

/-- With an empty lock, the row of the guest is synced before the lock gets the code. -/
theorem allocated_row_is_synced_early :
    ¬ ∀ (accessPoint : AccessPoint) (capabilities : LockCapabilities) (now : DateTime) (w : World),
      (∀ u ∈ w.db.users.rows, u.id ≠ "") → SyncedMatches accessPoint.id w →
        ∀ w' ∈ Calls.states perform
          (SlotCalls.reconcileDoorSlotsAsync accessPoint capabilities now) w,
          SyncedMatches accessPoint.id w' := by
  intro h
  have hall := h frontDoor .userCodes { ticks := 0 } { db := frontDoorOnly } (by decide) (by decide)
  exact absurd hall (by decide)

end

end CodeMaster.Proofs.Engine.CutShort
