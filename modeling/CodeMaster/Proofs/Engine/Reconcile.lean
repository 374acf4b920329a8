import CodeMaster.Proofs.Engine.SlotMemory

/-!
# `CodeMaster.Proofs.Engine.Reconcile`: a pass brings the lock to the desired pairs

`SlotsAgree` is the state that the worker keeps a door in: the slot rows are in the range, no
pair has two rows, and the lock holds what the rows say. `Converged` is what a pass should
reach. `reconcileDoorSlotsAsync_converges` takes the first to the second when the provider
calls succeed and the desired pairs fit: the results of `Reconciliation` about the memory of
the door, read back as statements about rows and the lock.

The abstract result is `Reconciliation`: a memory with a cell for each number, from which unwanted
items are released, and in which wanted ones are placed at free numbers. `SlotMemory` connects the
two. What this module adds is the reading back: an item in a cell is a row with this user and
credential, and a settled cell is a synced row whose code the lock has.

That the wanted pairs fit into the numbers from 1 to 30 is a condition. Without it some pair gets no
number.
-/

set_option autoImplicit false

namespace CodeMaster.Proofs.Engine.Reconcile

open CodeMaster.Core Data CodeMaster.Engine HardwareSlotSyncWorker HardwareSlotRepository
open Reconciliation Relational Exec SlotMemory

/-- The rows of the door. -/
def RowOf (door : String) (w : World) (s : HardwareSlot) : Prop :=
  s ∈ w.db.hardwareSlots.rows ∧ s.accessPointId = door

/-- The worker's test for a row with a user. -/
def HasUser (s : HardwareSlot) : Prop := isNullOrEmpty s.userId = false

/-- Whether a slot has a user is decidable. -/
instance (s : HardwareSlot) : Decidable (HasUser s) :=
  inferInstanceAs (Decidable (isNullOrEmpty s.userId = false))

/-- The slot rows of the door are in the range and for different pairs, and the lock agrees
with them. That the rows have different numbers is part of `HardwareSlots`. -/
structure SlotsAgree (door : String) (w : World) : Prop where
  inRange : ∀ s, RowOf door w s → 1 ≤ s.slotNumber ∧ s.slotNumber ≤ 30
  pairs : ∀ s s', RowOf door w s → RowOf door w s' → HasUser s → HasUser s' →
    s.userId = s'.userId → s.credentialId = s'.credentialId → s = s'
  occupied : ∀ n pin, w.lock n = some pin → ∃ s, RowOf door w s ∧ s.slotNumber = n ∧ HasUser s
  synced : ∀ s, RowOf door w s → HasUser s → s.syncStatus = .synced →
    ∀ c ∈ w.db.credentials.rows, s.credentialId = some c.id →
      w.lock s.slotNumber = some (pinCode c)

/-- Every pair has exactly one row, which is synced and in the range, and the lock holds the
code of the pair in its slot. The other slots of the lock are empty, and the other rows have
no user. -/
structure Converged (door : String) (desired : List (User × Credential)) (w : World) : Prop where
  pair : ∀ d ∈ desired, ∃ s, RowOf door w s ∧ holds d.1 d.2 s = true
    ∧ (∀ s', RowOf door w s' → holds d.1 d.2 s' = true → s' = s)
    ∧ s.syncStatus = .synced ∧ 1 ≤ s.slotNumber ∧ s.slotNumber ≤ 30
    ∧ w.lock s.slotNumber = some (pinCode d.2)
  otherSlot : ∀ n, (∀ s, RowOf door w s → s.slotNumber = n →
    ∀ d ∈ desired, holds d.1 d.2 s = false) → w.lock n = none
  otherRow : ∀ s, RowOf door w s → (∀ d ∈ desired, holds d.1 d.2 s = false) → ¬ HasUser s

/-! ### Rows and the memory -/

section
variable {door : String} {w : World}

/-- A row of the door is the slot with its number. -/
theorem getSlotAsync_of_rowOf {s : HardwareSlot} (hs : RowOf door w s) :
    getSlotAsync w.db door s.slotNumber = some s :=
  getSlotAsync_eq_some_iff.mpr ⟨hs.1, hs.2, rfl⟩

/-- A slot that is found is a row of the door. -/
theorem rowOf_of_getSlotAsync {s : HardwareSlot} {n : Int}
    (hs : getSlotAsync w.db door n = some s) : RowOf door w s ∧ s.slotNumber = n := by
  obtain ⟨hrow, hdoor, hslot⟩ := getSlotAsync_eq_some_iff.mp hs
  exact ⟨⟨hrow, hdoor⟩, hslot⟩

/-- A slot with a user is for an item. -/
theorem hasUser_iff {s : HardwareSlot} : HasUser s ↔ ∃ a, item s = some a :=
  exists_item_iff.symm

/-- The cell of a row is for its item. -/
theorem memory_item_of_rowOf {s : HardwareSlot} (hs : RowOf door w s) :
    (memory door w s.slotNumber).item = item s := by
  rw [memory, getSlotAsync_of_rowOf hs]
  rfl

/-- Slots that agree with the lock are a memory that agrees. -/
theorem SlotsAgree.agrees (h : SlotsAgree door w) : Agrees (code w.db) (memory door w) where
  item_of_content n pin hpin := by
    obtain ⟨s, hs, rfl, huser⟩ := h.occupied n pin hpin
    rw [memory_item_of_rowOf hs]
    exact hasUser_iff.mp huser
  content_of_synced n a pin hitem hsynced hcode := by
    obtain ⟨s, hs, ha⟩ := memory_item_eq_some_iff.mp hitem
    obtain ⟨hrow, rfl⟩ := rowOf_of_getSlotAsync hs
    have hstatus : s.syncStatus = .synced := by
      rw [memory, hs] at hsynced
      exact of_decide_eq_true hsynced
    -- The code of the item is that of the credential which the row names.
    obtain ⟨id, hid, hfind⟩ := Option.bind_eq_some_iff.mp hcode
    obtain ⟨c, hc, rfl⟩ := Option.map_eq_some_iff.mp hfind
    obtain ⟨hstored, rfl⟩ := Table.find?_eq_some_iff.mp hc
    have hcredential : s.credentialId = some c.id := (item_eq_some_iff.mp ha).2.2.trans hid
    exact h.synced s hrow (hasUser_iff.mpr ⟨a, ha⟩) hstatus c hstored hcredential

/-- Slots that agree with the lock have distinct items. -/
theorem SlotsAgree.distinct (h : SlotsAgree door w) : Distinct (memory door w) := by
  intro i j a hi hj
  obtain ⟨s, hs, ha⟩ := memory_item_eq_some_iff.mp hi
  obtain ⟨s', hs', ha'⟩ := memory_item_eq_some_iff.mp hj
  obtain ⟨hrow, rfl⟩ := rowOf_of_getSlotAsync hs
  obtain ⟨hrow', rfl⟩ := rowOf_of_getSlotAsync hs'
  obtain ⟨huser, -, hcred⟩ := item_eq_some_iff.mp ha
  obtain ⟨huser', -, hcred'⟩ := item_eq_some_iff.mp ha'
  have heq : s = s' := h.pairs s s' hrow hrow' (hasUser_iff.mpr ⟨a, ha⟩) (hasUser_iff.mpr ⟨a, ha'⟩)
    (huser.trans huser'.symm) (hcred.trans hcred'.symm)
  rw [heq]

/-- Slots that agree with the lock are inside of the room. -/
theorem SlotsAgree.within (h : SlotsAgree door w) : Within room (memory door w) := by
  intro n a hitem
  obtain ⟨s, hs, -⟩ := memory_item_eq_some_iff.mp hitem
  obtain ⟨hrow, rfl⟩ := rowOf_of_getSlotAsync hs
  exact mem_room.mpr (h.inRange s hrow)

/-! ### Converged, seen from the memory -/

variable {desired : List (User × Credential)}

/-- A row with a user is for a desired pair when the memory is for desired pairs only. -/
theorem exists_holds_of_item (hids : ∀ d ∈ desired, d.1.id ≠ "")
    (honly : Only (desired.map wantedItem) (memory door w)) {s : HardwareSlot} {a : Item}
    (hs : RowOf door w s) (ha : item s = some a) : ∃ d ∈ desired, holds d.1 d.2 s = true := by
  have hwanted := honly s.slotNumber a ((memory_item_of_rowOf hs).trans ha)
  obtain ⟨d, hd, rfl⟩ := List.mem_map.mp hwanted
  exact ⟨d, hd, (holds_iff (hids d hd)).mpr ha⟩

/-- The rows and the lock have converged when the memory is reconciled and every desired pair
has a settled cell. -/
theorem Converged.of_memory (hids : ∀ d ∈ desired, d.1.id ≠ "")
    (hcode : ∀ d ∈ desired, code w.db (wantedItem d) = some (pinCode d.2))
    (hreconciled : Reconciled (code w.db) (desired.map wantedItem) (memory door w))
    (hdistinct : Distinct (memory door w)) (hwithin : Within room (memory door w))
    (hstored : ∀ a ∈ desired.map wantedItem,
      ∃ n, (memory door w n).item = some a ∧ (memory door w n).synced = true) :
    Converged door desired w where
  pair d hd := by
    obtain ⟨n, hitem, hsynced⟩ := hstored (wantedItem d) (List.mem_map.mpr ⟨d, hd, rfl⟩)
    obtain ⟨s, hs, ha⟩ := memory_item_eq_some_iff.mp hitem
    obtain ⟨hrow, rfl⟩ := rowOf_of_getSlotAsync hs
    obtain ⟨hlow, hhigh⟩ := mem_room.mp (hwithin s.slotNumber _ hitem)
    refine ⟨s, hrow, (holds_iff (hids d hd)).mpr ha, fun s' hs' hpair => ?_, ?_, hlow, hhigh, ?_⟩
    · -- Two rows of the pair are at one slot number, so they are one row.
      have hitem' := (memory_item_of_rowOf hs').trans ((holds_iff (hids d hd)).mp hpair)
      have hslot := hdistinct _ _ _ hitem' hitem
      have hget := getSlotAsync_of_rowOf hs'
      rw [hslot, hs] at hget
      exact (Option.some.inj hget).symm
    · rw [memory, hs] at hsynced
      exact of_decide_eq_true hsynced
    · exact hreconciled.agrees.content_of_synced s.slotNumber _ _ hitem hsynced (hcode d hd)
  otherSlot n hother := by
    -- A slot of the lock that holds a code has a row with a user.
    cases hlock : w.lock n with
    | none => rfl
    | some pin =>
      obtain ⟨a, hitem⟩ := hreconciled.agrees.item_of_content n pin hlock
      obtain ⟨s, hs, ha⟩ := memory_item_eq_some_iff.mp hitem
      obtain ⟨hrow, hslot⟩ := rowOf_of_getSlotAsync hs
      obtain ⟨d, hd, hpair⟩ := exists_holds_of_item hids hreconciled.only hrow ha
      rw [hother s hrow hslot d hd] at hpair
      cases hpair
  otherRow s hs hother huser := by
    obtain ⟨a, ha⟩ := hasUser_iff.mp huser
    obtain ⟨d, hd, hpair⟩ := exists_holds_of_item hids hreconciled.only hs ha
    rw [hother d hd] at hpair
    cases hpair

end

/-! ### The pass -/

section
variable [Host]

/-- The credential of a desired pair is stored, and its code is that of the item. -/
theorem code_of_mem_desiredAssignments {db : Db} {accessPoint : AccessPoint} {now : DateTime}
    {d : User × Credential} (hd : d ∈ desiredAssignments db accessPoint now) :
    code db (wantedItem d) = some (pinCode d.2) := by
  obtain ⟨-, -, -, hc⟩ := Agreement.mem_desiredAssignments.mp hd
  exact code_wantedItem
    (CredentialRepository.mem_getByUserIdAsync.mp (List.mem_of_find?_eq_some hc)).1

/-- Reconciliation converges. -/
theorem reconcileDoorSlotsAsync_converges (w : World) (accessPoint : AccessPoint)
    (capabilities : LockCapabilities) (now : DateTime)
    (hcapable : capabilities.hasFlag .userCodes = true)
    (hdoor : accessPoint.id ∈ w.db.accessPoints.keys)
    (hids : ∀ u ∈ w.db.users.rows, u.id ≠ "") (hagree : SlotsAgree accessPoint.id w)
    (hroom : (desiredAssignments w.db accessPoint now).length ≤ 30)
    (hsucceed : ∀ report ∈ w.outcomes, report = true) :
    ∃ w', (reconcileDoorSlotsAsync accessPoint capabilities now).exec w = (.ok (), w')
      ∧ Converged accessPoint.id (desiredAssignments w.db accessPoint now) w' := by
  obtain ⟨w', hexec, hframe, hfill⟩ :=
    @reconcileDoorSlotsAsync_refines w accessPoint _ capabilities now hcapable hsucceed hdoor hids
  have hlength : (wantedItems w.db accessPoint now).length ≤ room.card := by
    rw [wantedItems, List.length_map, card_room]
    exact hroom
  have hreconciled := reconciled hagree.agrees hfill
  rw [← hframe.code_eq] at hreconciled
  refine ⟨w', hexec, Converged.of_memory (fun d hd => ?_) (fun d hd => ?_) hreconciled
    (distinct hagree.distinct hfill) (within hagree.within hfill)
    (converges hagree.distinct hlength hfill)⟩
  · exact hids d.1 (Agreement.mem_desiredAssignments.mp hd).1
  · rw [hframe.code_eq]
    exact code_of_mem_desiredAssignments hd

end

section
/-- The host of the samples. -/
local instance : Host := Host.sample

/-- The guest's slot at the front door could not be programmed, and slot 2 is left over from a
deleted credential. -/
def frontDoorSlots : World where
  db := { Evaluate.frontDoorOnly with
    hardwareSlots := {
      table := .ofList
        [{ id := "s1", accessPointId := "front", slotNumber := 1, userId := some "guest"
           credentialId := some "pin", syncStatus := .error },
          { id := "s2", accessPointId := "front", slotNumber := 2, userId := some "guest" }]
        (by decide)
      unique := by decide } }
  lock n := if n = 2 then some "9999" else none

/-- The slots of the front door agree with its lock. -/
theorem frontDoorSlots_agree : SlotsAgree "front" frontDoorSlots := by
  have hrows : ∀ s, RowOf "front" frontDoorSlots s →
      s = { id := "s1", accessPointId := "front", slotNumber := 1, userId := some "guest"
            credentialId := some "pin", syncStatus := .error }
        ∨ s = { id := "s2", accessPointId := "front", slotNumber := 2, userId := some "guest" } := by
    rintro s ⟨hs, -⟩
    rcases List.mem_cons.mp hs with rfl | hs
    · exact Or.inl rfl
    · exact Or.inr (List.mem_singleton.mp hs)
  refine ⟨fun s hs => ?_, fun s s' hs hs' _ _ _ hcred => ?_, fun n pin hpin => ?_,
    fun s hs _ hstatus c _ hcred => ?_⟩
  · rcases hrows s hs with rfl | rfl <;> decide
  · rcases hrows s hs with rfl | rfl <;> rcases hrows s' hs' with rfl | rfl <;>
      first | rfl | cases hcred
  · by_cases hn : n = 2
    · subst hn
      exact ⟨_, ⟨List.mem_cons_of_mem _ (List.mem_singleton.mpr rfl), rfl⟩, rfl, by decide⟩
    · have hlock : (if n = 2 then some "9999" else none) = some pin := hpin
      rw [if_neg hn] at hlock
      cases hlock
  · rcases hrows s hs with rfl | rfl
    · cases hstatus
    · cases hcred

/-- A pass programs the guest's slot, and clears the one that is left over. -/
theorem reconcileDoorSlotsAsync_converges_frontDoor :
    ∃ w', (reconcileDoorSlotsAsync Evaluate.frontDoor .userCodes ⟨0, .utc⟩).exec frontDoorSlots
        = (.ok (), w')
      ∧ Converged "front" (desiredAssignments frontDoorSlots.db Evaluate.frontDoor ⟨0, .utc⟩) w' :=
  reconcileDoorSlotsAsync_converges frontDoorSlots Evaluate.frontDoor .userCodes ⟨0, .utc⟩
    (by decide) (by decide) (by decide) frontDoorSlots_agree (by decide) (by decide)

end

end CodeMaster.Proofs.Engine.Reconcile
