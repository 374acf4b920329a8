import Mathlib.Data.Finset.Range
import CodeMaster.Lib.Reconciliation
import CodeMaster.Proofs.Engine.Agreement

/-!
# `CodeMaster.Proofs.Engine.SlotMemory`: a pass refines the reconciliation of a memory

`memory` is the abstract view of a door: for every slot number, the pair of ids that the row
of the number is for, whether the row is synced, and the code in the lock.

`reconcileDoorSlotsAsync_refines` says that a pass whose provider calls succeed is a
`Reconciliation` of that memory with the desired pairs, and that it changes nothing but the
slot rows of the door and its lock. The first loop releases the slots of the pairs that are
not desired (`removeObsolete_loop`). In the second loop the list of current slots mirrors the
rows (`Mirrors`), so the worker's search in the list is a search in the memory.

The refinement has three parts.

* `memory_write` and `frame_write` are about one write: it changes one cell, and the frame says what
  stays.
* `exec_removeObsolete` and the lemmas `exec_addOrUpdate_existing`, `exec_addOrUpdate_free` and
  `exec_addOrUpdate_full` say what the bodies of the two loops do, with one lemma for each way
  through the body.
* The loops follow by induction on the list that they go through.

The calls of the provider succeed here. Passes with failing calls are the subject of `CutShort`,
`StandingSlots` and `Allocations`.
-/

set_option autoImplicit false

namespace CodeMaster.Proofs.Engine.SlotMemory

open CodeMaster.Core Data CodeMaster.Engine HardwareSlotSyncWorker HardwareSlotRepository
open Reconciliation Relational Exec

/-! ### The memory of a door -/

/-- The ids of a user and of its credential. -/
abbrev Item := String × Option String

/-- The pair that a slot row is for, if it has a user. -/
def item (s : HardwareSlot) : Option Item :=
  if isNullOrEmpty s.userId then none else s.userId.map fun u => (u, s.credentialId)

/-- A slot of a door as a cell of `Reconciliation`: who the row is for, whether the row is `Synced`,
and the code in the lock. -/
def cell (row : Option HardwareSlot) (content : Option String) : Cell Item String where
  item := row.bind item
  synced := row.all fun s => s.syncStatus = .synced
  content := content

/-- The slots of a door by their numbers. -/
def memory (door : String) (w : World) : Memory Int Item String := fun n =>
  cell (getSlotAsync w.db door n) (w.lock n)

/-- The item that a wanted credential is. -/
def wantedItem (d : User × Credential) : Item := (d.1.id, some d.2.id)

/-- The code of the credential that an item names. -/
def code (db : Db) (a : Item) : Option String :=
  a.2.bind fun id => (db.credentials.find? id).map pinCode

/-- The slot numbers that the worker allocates. -/
def room : Finset Int := (Finset.range 30).image fun i : Nat => (i : Int) + 1

/-- A number is in the room when it is from 1 to 30. -/
theorem mem_room {n : Int} : n ∈ room ↔ 1 ≤ n ∧ n ≤ 30 := by
  rw [room, Finset.mem_image]
  constructor
  · rintro ⟨i, hi, rfl⟩
    have := Finset.mem_range.mp hi
    omega
  · rintro ⟨hlow, hhigh⟩
    exact ⟨(n - 1).toNat, Finset.mem_range.mpr (by omega), by omega⟩

/-- There are thirty numbers. -/
theorem card_room : room.card = 30 := by decide

/-- A row is for an item when its user and its credential are the item's, and the user is not
blank. -/
theorem item_eq_some_iff {s : HardwareSlot} {a : Item} :
    item s = some a ↔ s.userId = some a.1 ∧ a.1 ≠ "" ∧ s.credentialId = a.2 := by
  unfold item
  cases hu : s.userId with
  | none => simp
  | some u =>
    by_cases hempty : u = ""
    · subst hempty
      simp only [isNullOrEmpty_some, decide_true, if_true]
      constructor
      · nofun
      · rintro ⟨h, hne, -⟩
        exact absurd (Option.some.inj h).symm hne
    · simp only [isNullOrEmpty_some, hempty, decide_false, Bool.false_eq_true, if_false,
        Option.map_some, Option.some.injEq, Prod.ext_iff]
      constructor
      · rintro ⟨rfl, hc⟩
        exact ⟨rfl, hempty, hc⟩
      · rintro ⟨rfl, -, hc⟩
        exact ⟨rfl, hc⟩

/-- The worker's test for a row with a user. -/
theorem item_eq_none_iff {s : HardwareSlot} : item s = none ↔ isNullOrEmpty s.userId = true := by
  unfold item
  cases hu : s.userId with
  | none => simp
  | some u => by_cases hempty : u = "" <;> simp [hempty]

/-- A row is for some item exactly when it has a user. -/
theorem exists_item_iff {s : HardwareSlot} :
    (∃ a, item s = some a) ↔ isNullOrEmpty s.userId = false := by
  rw [← Option.ne_none_iff_exists', Ne, item_eq_none_iff, Bool.not_eq_true]

/-- `holds` looks for the row of the wanted item. -/
theorem holds_iff {user : User} {cred : Credential} {s : HardwareSlot} (hid : user.id ≠ "") :
    holds user cred s = true ↔ item s = some (wantedItem (user, cred)) := by
  rw [item_eq_some_iff]
  simp only [holds, wantedItem, decide_eq_true_eq]
  exact ⟨fun ⟨hu, hc⟩ => ⟨hu, hid, hc⟩, fun ⟨hu, _, hc⟩ => ⟨hu, hc⟩⟩

/-- A cell is for an item when the slot with its number has a row for this item. -/
theorem memory_item_eq_some_iff {door : String} {w : World} {n : Int} {a : Item} :
    (memory door w n).item = some a
      ↔ ∃ s, getSlotAsync w.db door n = some s ∧ item s = some a := Option.bind_eq_some_iff

/-! ### What the statements do to the memory -/

/-- Every report of the provider that is to come is a success. -/
def AllSucceed (w : World) : Prop := ∀ b ∈ w.outcomes, b = true

/-- Between the two worlds only slot rows of the door changed, beside the lock. -/
structure Frame (door : String) (w w' : World) : Prop where
  db : w'.db = { w.db with hardwareSlots := w'.db.hardwareSlots }
  others : ∀ door' ≠ door, ∀ n, getSlotAsync w'.db door' n = getSlotAsync w.db door' n
  allSucceed : AllSucceed w'

/-- The codes of the stored credentials stay. -/
theorem Frame.code_eq {door : String} {w w' : World} (h : Frame door w w') :
    code w'.db = code w.db := by
  funext a
  rw [h.db]
  rfl

/-- Nothing changes in a frame of no step. -/
theorem Frame.refl {door : String} {w : World} (h : AllSucceed w) : Frame door w w :=
  ⟨rfl, fun _ _ _ => rfl, h⟩

/-- Frames compose. -/
theorem Frame.trans {door : String} {w w1 w2 : World} (h : Frame door w w1)
    (h' : Frame door w1 w2) : Frame door w w2 where
  db := by
    rw [h'.db, h.db]
  others door' hne n := (h'.others door' hne n).trans (h.others door' hne n)
  allSucceed := h'.allSucceed

/-- The world after a successful call that programs a slot, and an update of the row `id`. -/
def write (id : String) (f : HardwareSlot → HardwareSlot) (hid : ∀ s, (f s).id = s.id)
    (hplace : ∀ s, place (f s) = place s) (slotNumber : Int) (content : Option String)
    (w : World) : World where
  db := updateWhere (fun s => s.id = id) f hid hplace w.db
  lock := Function.update w.lock slotNumber content
  outcomes := w.outcomes.tail

section
variable {door id : String} {f : HardwareSlot → HardwareSlot} {hid : ∀ s, (f s).id = s.id}
  {hplace : ∀ s, place (f s) = place s} {n : Int} {content : Option String} {w : World}
  {r : HardwareSlot}

/-- The slot that is looked up after a write: the written row at its own number, and every other
slot as before. -/
theorem getSlotAsync_write (hr : getSlotAsync w.db door n = some r) (hrid : r.id = id)
    (door' : String) (n' : Int) :
    getSlotAsync (write id f hid hplace n content w).db door' n'
      = if door' = door ∧ n' = n then some (f r) else getSlotAsync w.db door' n' := by
  obtain ⟨hmem, rfl, rfl⟩ := getSlotAsync_eq_some_iff.mp hr
  subst hrid
  exact getSlotAsync_updateWhere_id hmem door' n'

/-- A write changes one cell of the memory. -/
theorem memory_write (hr : getSlotAsync w.db door n = some r) (hrid : r.id = id) :
    memory door (write id f hid hplace n content w)
      = Function.update (memory door w) n (cell (some (f r)) content) := by
  funext n'
  rw [memory, getSlotAsync_write hr hrid]
  by_cases hn : n' = n
  · subst hn
    simp [write]
  · simp [write, hn, memory]

/-- A write changes the slots of the table and the codes of the lock, and leaves the rest. -/
theorem frame_write (hok : AllSucceed w) (hr : getSlotAsync w.db door n = some r)
    (hrid : r.id = id) : Frame door w (write id f hid hplace n content w) where
  db := rfl
  others door' hne n' := by
    rw [getSlotAsync_write hr hrid, if_neg fun h => hne h.1]
  allSucceed b hb := hok b (List.mem_of_mem_tail hb)

/-- When all calls succeed, a call has its effect on the lock. -/
theorem callProvider_of_allSucceed (hok : AllSucceed w) (n : Int) (content : Option String) :
    w.callProvider n content
      = (true, { w with
          lock := Function.update w.lock n content
          outcomes := w.outcomes.tail }) := by
  have hhead : w.outcomes.headD true = true := by
    cases houtcomes : w.outcomes with
    | nil => rfl
    | cons b bs => exact hok b (houtcomes ▸ List.mem_cons_self)
  simp only [World.callProvider, hhead, if_true]

/-- When all calls succeed, a code is written. -/
theorem exec_setSlotCodeAsync (hok : AllSucceed w) (n : Int) (pin userName : String) :
    (setSlotCodeAsync n pin userName).exec w
      = (.ok true, { w with
          lock := Function.update w.lock n (some pin)
          outcomes := w.outcomes.tail }) := by
  simp only [exec, ExceptT.run, StateT.run, setSlotCodeAsync, callProvider_of_allSucceed hok]

/-- When all calls succeed, a code is cleared. -/
theorem exec_clearSlotCodeAsync (hok : AllSucceed w) (n : Int) :
    (clearSlotCodeAsync n).exec w
      = (.ok true, { w with
          lock := Function.update w.lock n none
          outcomes := w.outcomes.tail }) := by
  simp only [exec, ExceptT.run, StateT.run, clearSlotCodeAsync, callProvider_of_allSucceed hok]

/-! ### The first loop -/

/-- The row of a slot that was cleared. -/
def released (s : HardwareSlot) : HardwareSlot :=
  { s with userId := none, credentialId := none, syncStatus := .synced }

/-- A released row keeps its id. -/
theorem released_id (s : HardwareSlot) : (released s).id = s.id := rfl

/-- A released row keeps its place. -/
theorem released_place (s : HardwareSlot) : place (released s) = place s := rfl

/-- A released row without a code is an empty cell. -/
theorem cell_released (s : HardwareSlot) : cell (some (released s)) none = {} := rfl

/-- The three statements of a successful removal are one update of the row. -/
theorem clear_eq_updateWhere (id : String) (db : Db) :
    updateSlotSyncStatusAsync id .synced
        (clearSlotAsync id (updateSlotSyncStatusAsync id .deleting db))
      = updateWhere (fun s => s.id = id) released released_id released_place db := by
  have hclear : clearSlotAsync id (updateSlotSyncStatusAsync id .deleting db)
      = updateWhere (fun s => s.id = id)
          (fun s => { s with userId := none, credentialId := none, syncStatus := .deleting })
          (fun _ => rfl) (fun _ => rfl) db := updateWhere_updateWhere_id
  rw [hclear]
  exact updateWhere_updateWhere_id

/-- Is the pair of the slot one of the desired pairs? -/
def stillDesired (desired : List (User × Credential)) (s : HardwareSlot) : Bool :=
  desired.any fun d => holds d.1 d.2 s

variable {desired : List (User × Credential)}

/-- The first loop at one row: it keeps a row that is still wanted, and releases any other one with
its code. -/
theorem exec_removeObsolete (hok : AllSucceed w) (s : HardwareSlot) :
    (removeObsolete desired s).exec w
      = (.ok (), if stillDesired desired s then w
          else write s.id released released_id released_place s.slotNumber none w) := by
  have hunfold : (desired.any fun d => holds d.1 d.2 s) = stillDesired desired s := rfl
  unfold removeObsolete
  rw [hunfold]
  cases stillDesired desired s with
  | true => simp
  | false =>
    have hok1 : AllSucceed { w with db := updateSlotSyncStatusAsync s.id .deleting w.db } := hok
    simp only [Bool.not_false, if_true, exec_bind, World.update, exec_modify, Bool.false_eq_true,
      if_false, exec_clearSlotCodeAsync hok1]
    rw [clear_eq_updateWhere]
    rfl

/-- The first loop clears the slots whose pair is not desired. -/
theorem removeObsolete_loop (hok : AllSucceed w) {slots : List HardwareSlot}
    (hslots : ∀ s ∈ slots, getSlotAsync w.db door s.slotNumber = some s) :
    ∃ w', (forM slots (removeObsolete desired)).exec w = (.ok (), w') ∧ Frame door w w'
      ∧ ∀ n, memory door w' n
          = if ∃ s ∈ slots, s.slotNumber = n ∧ stillDesired desired s = false
              then {} else memory door w n := by
  rcases hexec : (forM slots (removeObsolete desired)).exec w with ⟨r, w'⟩
  have hrule := @forM_rule SqliteException World HardwareSlot (removeObsolete desired)
    (fun done w1 => Frame door w w1
      ∧ (∀ s ∈ slots, ∃ r, getSlotAsync w1.db door s.slotNumber = some r ∧ r.id = s.id)
      ∧ ∀ n, memory door w1 n
          = if ∃ s ∈ done, s.slotNumber = n ∧ stillDesired desired s = false
              then {} else memory door w n)
    (fun _ _ _ _ => False) slots [] w w' r ?_ ?_ ?_ hexec
  · rcases hrule with ⟨rfl, hframe, -, hmemory⟩ | ⟨_, _, _, _, _, _, hfalse⟩
    · exact ⟨w', rfl, hframe, hmemory⟩
    · exact hfalse.elim
  · rintro done s hs w1 w2 ⟨hframe, hrows, hmemory⟩ hbody
    rw [exec_removeObsolete hframe.allSucceed] at hbody
    cases hbody
    obtain ⟨r, hr, hrid⟩ := hrows s hs
    cases hdesired : stillDesired desired s with
    | true =>
      refine ⟨hframe, hrows, fun n => ?_⟩
      rw [if_pos rfl, hmemory]
      refine if_congr ?_ rfl rfl
      -- A slot that stays adds nothing to the slots that were cleared.
      simp [or_and_right, exists_or, hdesired]
    | false =>
      simp only [Bool.false_eq_true, if_false]
      -- The row of `s` is cleared, and every slot of the list keeps a row with its id.
      refine ⟨hframe.trans (frame_write hframe.allSucceed hr hrid), fun t ht => ?_, fun n => ?_⟩
      · obtain ⟨r', hr', hrid'⟩ := hrows t ht
        rw [getSlotAsync_write hr hrid]
        split
        · rename_i hsame
          rw [hsame.2, hr] at hr'
          cases hr'
          exact ⟨released r, rfl, hrid'⟩
        · exact ⟨r', hr', hrid'⟩
      · rw [memory_write hr hrid]
        by_cases hn : n = s.slotNumber
        · subst hn
          rw [Function.update_self, cell_released, if_pos]
          exact ⟨s, List.mem_append_right _ (List.mem_singleton.mpr rfl), rfl, hdesired⟩
        · rw [Function.update_of_ne hn, hmemory]
          refine if_congr ?_ rfl rfl
          simp [or_and_right, exists_or, Ne.symm hn]
  · rintro done s _ e w1 w2 ⟨hframe, -, -⟩ hbody
    rw [exec_removeObsolete hframe.allSucceed] at hbody
    cases hbody
  · refine ⟨Frame.refl hok, fun s hs => ⟨s, hslots s hs, rfl⟩, fun n => ?_⟩
    rw [if_neg (by simp)]

/-- A row is still desired when its pair is one of the wanted items. -/
theorem stillDesired_iff (hids : ∀ d ∈ desired, d.1.id ≠ "") {s : HardwareSlot} {a : Item}
    (ha : item s = some a) : stillDesired desired s = true ↔ a ∈ desired.map wantedItem := by
  simp only [stillDesired, List.any_eq_true, List.mem_map]
  refine exists_congr fun d => and_congr_right fun hd => ?_
  rw [holds_iff (hids d hd), ha, Option.some.injEq]
  exact eq_comm

/-- The slots that the first loop visits are the rows of the door with a user, so the loop
releases the memory. -/
theorem removeObsolete_releases [Host] (hok : AllSucceed w)
    (hids : ∀ d ∈ desired, d.1.id ≠ "") :
    ∃ w', (forM ((getSlotsForDoorAsync w.db door).filter fun s => !isNullOrEmpty s.userId)
          (removeObsolete desired)).exec w = (.ok (), w') ∧ Frame door w w'
      ∧ memory door w' = release (desired.map wantedItem) (memory door w) := by
  have hslots : ∀ s ∈ (getSlotsForDoorAsync w.db door).filter fun s => !isNullOrEmpty s.userId,
      getSlotAsync w.db door s.slotNumber = some s := by
    intro s hs
    obtain ⟨hrow, hdoor⟩ := mem_getSlotsForDoorAsync.mp (List.mem_filter.mp hs).1
    exact getSlotAsync_eq_some_iff.mpr ⟨hrow, hdoor, rfl⟩
  obtain ⟨w', hexec, hframe, hmemory⟩ := @removeObsolete_loop door w desired hok _ hslots
  refine ⟨w', hexec, hframe, funext fun n => ?_⟩
  rw [hmemory]
  split
  · rename_i hcleared
    obtain ⟨s, hs, rfl, hnot⟩ := hcleared
    obtain ⟨a, ha⟩ := exists_item_iff.mpr (by simpa using (List.mem_filter.mp hs).2)
    have hunwanted : a ∉ desired.map wantedItem := by
      rw [← stillDesired_iff hids ha, hnot]
      decide
    rw [release_of_unwanted (memory_item_eq_some_iff.mpr ⟨s, hslots s hs, ha⟩) hunwanted]
  · -- A row with a user that was not cleared is for a wanted item.
    rename_i hkept
    refine (release_of_wanted fun a hitem => ?_).symm
    obtain ⟨s, hs, ha⟩ := memory_item_eq_some_iff.mp hitem
    obtain ⟨hrow, hdoor, hslot⟩ := getSlotAsync_eq_some_iff.mp hs
    by_contra hunwanted
    rw [← stillDesired_iff hids ha, Bool.not_eq_true] at hunwanted
    have huser := exists_item_iff.mp ⟨a, ha⟩
    refine hkept ⟨s, List.mem_filter.mpr ⟨?_, by rw [huser]; rfl⟩, hslot, hunwanted⟩
    exact mem_getSlotsForDoorAsync.mpr ⟨hrow, hdoor⟩

/-! ### The second loop -/

/-- The row of a slot that was programmed. -/
def markSynced (s : HardwareSlot) : HardwareSlot := { s with syncStatus := .synced }

/-- A row that is marked as `Synced` keeps its id. -/
theorem markSynced_id (s : HardwareSlot) : (markSynced s).id = s.id := rfl

/-- A row that is marked as `Synced` keeps its place. -/
theorem markSynced_place (s : HardwareSlot) : place (markSynced s) = place s := rfl

/-- A row that is marked as `Synced` is for the same item. -/
theorem item_markSynced (s : HardwareSlot) : item (markSynced s) = item s := rfl

/-- The two statements around a successful call are one update of the row. -/
theorem program_eq_updateWhere (id : String) (db : Db) :
    updateSlotSyncStatusAsync id .synced (updateSlotSyncStatusAsync id .adding db)
      = updateWhere (fun s => s.id = id) markSynced markSynced_id markSynced_place db :=
  updateWhere_updateWhere_id

/-- A row that is marked as `Synced`, with the code in the lock, is a programmed cell. -/
theorem cell_markSynced {s : HardwareSlot} {a : Item} (ha : item s = some a) (pin : String) :
    cell (some (markSynced s)) (some pin) = programmed a pin := by
  simp only [cell, Option.bind_some, item_markSynced, ha]
  rfl

/-- The worker's list of current slots and the rows of the door are for the same pairs. -/
structure Mirrors (door : String) (currentSlots : List HardwareSlot) (w : World) : Prop where
  row_of_slot : ∀ s ∈ currentSlots, ∀ a, item s = some a →
    ∃ r, getSlotAsync w.db door s.slotNumber = some r ∧ r.id = s.id ∧ item r = some a
      ∧ (s.syncStatus = .synced → r.syncStatus = .synced)
  slot_of_row : ∀ n r a, getSlotAsync w.db door n = some r → item r = some a →
    ∃ s ∈ currentSlots, s.slotNumber = n ∧ item s = some a

/-- The list that the worker reads mirrors the rows. -/
theorem mirrors_getSlotsForDoorAsync [Host] (door : String) (w : World) :
    Mirrors door (getSlotsForDoorAsync w.db door) w where
  row_of_slot s hs a ha := by
    obtain ⟨hrow, hdoor⟩ := mem_getSlotsForDoorAsync.mp hs
    exact ⟨s, getSlotAsync_eq_some_iff.mpr ⟨hrow, hdoor, rfl⟩, rfl, ha, id⟩
  slot_of_row n r a hr ha := by
    obtain ⟨hrow, hdoor, hslot⟩ := getSlotAsync_eq_some_iff.mp hr
    exact ⟨r, mem_getSlotsForDoorAsync.mpr ⟨hrow, hdoor⟩, hslot, ha⟩

variable {currentSlots : List HardwareSlot}

/-- Programming the slot of a row keeps the mirror. -/
theorem Mirrors.write (h : Mirrors door currentSlots w) (hr : getSlotAsync w.db door n = some r)
    (hrid : r.id = id) :
    Mirrors door currentSlots
      (write id markSynced markSynced_id markSynced_place n content w) where
  row_of_slot s hs a ha := by
    obtain ⟨r', hr', hrid', ha', hsynced⟩ := h.row_of_slot s hs a ha
    rw [getSlotAsync_write hr hrid]
    split
    · rename_i hsame
      rw [hsame.2, hr] at hr'
      cases hr'
      exact ⟨markSynced r, rfl, hrid', ha', fun _ => rfl⟩
    · exact ⟨r', hr', hrid', ha', hsynced⟩
  slot_of_row n' r' a hr' ha := by
    rw [getSlotAsync_write hr hrid] at hr'
    split at hr'
    · rename_i hsame
      cases hr'
      exact hsame.2 ▸ h.slot_of_row n r a hr ha
    · exact h.slot_of_row n' r' a hr' ha

variable {user : User} {cred : Credential} {accessPoint : AccessPoint}

/-- The second loop at a wanted credential that has a row: a row that is `Synced` is left alone, and
any other one is programmed again and marked. -/
theorem exec_addOrUpdate_existing [Host] {s : HardwareSlot} (hok : AllSucceed w)
    (hfind : currentSlots.find? (holds user cred) = some s) :
    (addOrUpdate accessPoint currentSlots (user, cred)).exec w
      = (.ok currentSlots, if s.syncStatus = .synced then w
          else write s.id markSynced markSynced_id markSynced_place s.slotNumber
            (some (pinCode cred)) w) := by
  unfold addOrUpdate
  simp only [hfind]
  by_cases hsynced : s.syncStatus = .synced
  · simp [hsynced]
  · have hok1 : AllSucceed { w with db := updateSlotSyncStatusAsync s.id .adding w.db } := hok
    simp only [ne_eq, hsynced, not_false_eq_true, if_true, if_false, exec_bind, World.update,
      exec_modify, exec_setSlotCodeAsync hok1, exec_pure, program_eq_updateWhere]
    rfl

/-- The second loop at a wanted credential without a row, when no number is free: nothing
happens. -/
theorem exec_addOrUpdate_full [Host] (hfind : currentSlots.find? (holds user cred) = none)
    (hfree : freeSlotNumber currentSlots = none) :
    (addOrUpdate accessPoint currentSlots (user, cred)).exec w = (.ok currentSlots, w) := by
  unfold addOrUpdate
  simp only [hfind, hfree]
  rfl

/-- The second loop at a wanted credential without a row, when a number is free: a row is inserted,
its code is written, and it is marked. -/
theorem exec_addOrUpdate_free [Host] {db1 : Db} (hok : AllSucceed w)
    (hfind : currentSlots.find? (holds user cred) = none)
    (hfree : freeSlotNumber currentSlots = some n)
    (hupsert : upsert accessPoint.id user.id cred.id n w.db = .ok db1)
    (hr : getSlotAsync db1 accessPoint.id n = some r) :
    (addOrUpdate accessPoint currentSlots (user, cred)).exec w
      = (.ok (currentSlots ++ [r]),
          write r.id markSynced markSynced_id markSynced_place n (some (pinCode cred))
            { w with db := db1 }) := by
  have hok1 : AllSucceed { w with db := updateSlotSyncStatusAsync r.id .adding db1 } := hok
  unfold addOrUpdate
  simp only [hfind, hfree, exec_bind, exec_allocateSlotAsync hupsert hr, World.update, exec_modify,
    exec_setSlotCodeAsync hok1, if_true, exec_pure, program_eq_updateWhere]
  rfl

/-- The code of a wanted item is the PIN of its credential. -/
theorem code_wantedItem {db : Db} (hcred : cred ∈ db.credentials.rows) :
    code db (wantedItem (user, cred)) = some (pinCode cred) := by
  show (db.credentials.find? cred.id).map pinCode = _
  rw [Table.find?_eq_some_iff.mpr ⟨hcred, rfl⟩]
  rfl

/-- The free number that the worker finds is a free cell of the memory, and without one every
cell of the room is taken. -/
theorem Mirrors.freeSlotNumber (h : Mirrors door currentSlots w) :
    match HardwareSlotSyncWorker.freeSlotNumber currentSlots with
    | some n => n ∈ room ∧ (memory door w n).item = none
    | none => ∀ n ∈ room, (memory door w n).item ≠ none := by
  have hoccupied : ∀ n, n ∈ (currentSlots.filter fun s => !isNullOrEmpty s.userId).map
      HardwareSlot.slotNumber ↔ (memory door w n).item ≠ none := by
    intro n
    rw [Option.ne_none_iff_exists']
    simp only [List.mem_map, List.mem_filter]
    constructor
    · rintro ⟨s, ⟨hs, huser⟩, rfl⟩
      obtain ⟨a, ha⟩ := exists_item_iff.mpr (by simpa using huser)
      obtain ⟨r, hr, -, hra, -⟩ := h.row_of_slot s hs a ha
      exact ⟨a, memory_item_eq_some_iff.mpr ⟨r, hr, hra⟩⟩
    · rintro ⟨a, ha⟩
      obtain ⟨r, hr, hra⟩ := memory_item_eq_some_iff.mp ha
      obtain ⟨s, hs, hslot, hsa⟩ := h.slot_of_row n r a hr hra
      have huser := exists_item_iff.mp ⟨a, hsa⟩
      exact ⟨s, ⟨hs, by rw [huser]; rfl⟩, hslot⟩
  unfold HardwareSlotSyncWorker.freeSlotNumber
  cases hfree : FirstFree.firstFree 1 30
      ((currentSlots.filter fun s => !isNullOrEmpty s.userId).map HardwareSlot.slotNumber) with
  | some n =>
    obtain ⟨hlow, hhigh, hnot⟩ := FirstFree.firstFree_spec hfree
    rw [hoccupied, not_not] at hnot
    exact ⟨mem_room.mpr ⟨hlow, by omega⟩, hnot⟩
  | none =>
    intro n hn
    obtain ⟨hlow, hhigh⟩ := mem_room.mp hn
    exact (hoccupied n).mp (FirstFree.mem_of_firstFree_eq_none hfree n hlow (by omega))

/-- A row at a free number, added to the list, keeps the mirror. -/
theorem Mirrors.allocate (h : Mirrors door currentSlots w) {hardwareSlots : HardwareSlots}
    (hempty : (memory door w n).item = none)
    (hslots : ∀ door' n', getSlotAsync { w.db with hardwareSlots } door' n'
      = if door' = door ∧ n' = n then some r else getSlotAsync w.db door' n') :
    Mirrors door (currentSlots ++ [r]) { w with db := { w.db with hardwareSlots } } where
  row_of_slot s hs a ha := by
    show ∃ r', getSlotAsync { w.db with hardwareSlots } door s.slotNumber = some r' ∧ _
    rcases List.mem_append.mp hs with hs | hs
    · obtain ⟨r', hr', hrest⟩ := h.row_of_slot s hs a ha
      refine ⟨r', ?_, hrest⟩
      -- The place of the new row was free, so it is another one.
      rw [hslots, if_neg, hr']
      rintro ⟨-, hn⟩
      rw [hn] at hr'
      rw [memory_item_eq_some_iff.mpr ⟨r', hr', hrest.2.1⟩] at hempty
      cases hempty
    · cases List.mem_singleton.mp hs
      have hr : getSlotAsync { w.db with hardwareSlots } door n = some r := by
        rw [hslots, if_pos ⟨rfl, rfl⟩]
      obtain ⟨-, -, rfl⟩ := getSlotAsync_eq_some_iff.mp hr
      exact ⟨r, hr, rfl, ha, id⟩
  slot_of_row n' r' a hr' ha := by
    have hr : getSlotAsync { w.db with hardwareSlots } door n' = some r' := hr'
    rw [hslots] at hr
    split at hr
    · rename_i hsame
      cases hr
      obtain ⟨-, -, hslot⟩ := getSlotAsync_eq_some_iff.mp hr'
      exact ⟨r, List.mem_append_right _ (List.mem_singleton.mpr rfl), hslot, ha⟩
    · obtain ⟨s, hs, hslot, hsa⟩ := h.slot_of_row n' r' a hr ha
      exact ⟨s, List.mem_append_left _ hs, hslot, hsa⟩

/-- The upsert of a slot leaves the other doors. -/
theorem frame_upsert (hok : AllSucceed w) {hardwareSlots : HardwareSlots} {r : HardwareSlot}
    {n : Int} (hslots : ∀ door' n', getSlotAsync { w.db with hardwareSlots } door' n'
      = if door' = door ∧ n' = n then some r else getSlotAsync w.db door' n') :
    Frame door w { w with db := { w.db with hardwareSlots } } where
  db := rfl
  others door' hne n' := (hslots door' n').trans (if_neg fun h => hne h.1)
  allSucceed := hok

/-- The upsert of a slot and the update of its row are one update of the memory. -/
theorem memory_upsert {hardwareSlots : HardwareSlots} {r : HardwareSlot} {n : Int} {a : Item}
    (hslots : ∀ door' n', getSlotAsync { w.db with hardwareSlots } door' n'
      = if door' = door ∧ n' = n then some r else getSlotAsync w.db door' n')
    (ha : item r = some a) (pin : String) :
    memory door (write r.id markSynced markSynced_id markSynced_place n (some pin)
        { w with db := { w.db with hardwareSlots } })
      = Function.update (memory door w) n (programmed a pin) := by
  have hr : getSlotAsync { w.db with hardwareSlots } door n = some r := by
    rw [hslots, if_pos ⟨rfl, rfl⟩]
  rw [memory_write hr rfl, cell_markSynced ha]
  funext n'
  by_cases hn : n' = n
  · rw [hn, Function.update_self, Function.update_self]
  · rw [Function.update_of_ne hn, Function.update_of_ne hn, memory, memory]
    show cell (getSlotAsync { w.db with hardwareSlots } _ n') _ = _
    rw [hslots, if_neg fun h => hn h.2]

/-- One pass of the second loop places the pair, and keeps the mirror. -/
theorem addOrUpdate_places [Host] (hok : AllSucceed w)
    (hmirrors : Mirrors accessPoint.id currentSlots w)
    (hdoor : accessPoint.id ∈ w.db.accessPoints.keys) (huser : user ∈ w.db.users.rows)
    (hcred : cred ∈ w.db.credentials.rows) (hid : user.id ≠ "") :
    ∃ currentSlots' w',
      (addOrUpdate accessPoint currentSlots (user, cred)).exec w = (.ok currentSlots', w')
        ∧ Frame accessPoint.id w w' ∧ Mirrors accessPoint.id currentSlots' w'
        ∧ Place (code w.db) room (wantedItem (user, cred)) (memory accessPoint.id w)
            (memory accessPoint.id w') := by
  have hcode : code w.db (wantedItem (user, cred)) = some (pinCode cred) := code_wantedItem hcred
  cases hfind : currentSlots.find? (holds user cred) with
  | some s =>
    -- The pair has a slot, which is programmed again unless it is synced.
    have hs : s ∈ currentSlots := List.mem_of_find?_eq_some hfind
    have ha : item s = some (wantedItem (user, cred)) :=
      (holds_iff hid).mp (List.find?_some hfind)
    obtain ⟨r, hr, hrid, hra, hsynced⟩ := hmirrors.row_of_slot s hs _ ha
    have hitem : (memory accessPoint.id w s.slotNumber).item = some (wantedItem (user, cred)) :=
      memory_item_eq_some_iff.mpr ⟨r, hr, hra⟩
    refine ⟨currentSlots, _, exec_addOrUpdate_existing hok hfind, ?_⟩
    split
    · rename_i hstatus
      refine ⟨Frame.refl hok, hmirrors, Place.keep s.slotNumber hitem ?_⟩
      show (getSlotAsync w.db accessPoint.id s.slotNumber).all _ = true
      rw [hr, Option.all_some, hsynced hstatus]
      rfl
    · refine ⟨frame_write hok hr hrid, hmirrors.write hr hrid, ?_⟩
      rw [memory_write hr hrid, cell_markSynced hra]
      exact Place.refresh s.slotNumber _ hitem hcode
  | none =>
    -- The list mirrors the rows, so no row is for the pair.
    have hnew : ∀ n, (memory accessPoint.id w n).item ≠ some (wantedItem (user, cred)) := by
      intro n hn
      obtain ⟨r, hr, hra⟩ := memory_item_eq_some_iff.mp hn
      obtain ⟨s, hs, -, hsa⟩ := hmirrors.slot_of_row n r _ hr hra
      exact absurd ((holds_iff hid).mpr hsa) (List.find?_eq_none.mp hfind s hs)
    have hfree := hmirrors.freeSlotNumber
    cases hn : HardwareSlotSyncWorker.freeSlotNumber currentSlots with
    | none =>
      rw [hn] at hfree
      exact ⟨currentSlots, w, exec_addOrUpdate_full hfind hn, Frame.refl hok, hmirrors,
        Place.full hfree hnew⟩
    | some n =>
      rw [hn] at hfree
      obtain ⟨hroom, hempty⟩ := hfree
      obtain ⟨hardwareSlots, r, hupsert, hruser, hrcred, hrstatus, hslots⟩ :=
        @upsert_of_stored _ accessPoint.id user.id cred.id n w.db hdoor
          (Table.mem_keys.mpr ⟨user, huser, rfl⟩) (Table.mem_keys.mpr ⟨cred, hcred, rfl⟩)
      have hr : getSlotAsync { w.db with hardwareSlots } accessPoint.id n = some r := by
        rw [hslots, if_pos ⟨rfl, rfl⟩]
      have hra : item r = some (wantedItem (user, cred)) :=
        item_eq_some_iff.mpr ⟨hruser, hid, hrcred⟩
      have hframe : Frame accessPoint.id w { w with db := { w.db with hardwareSlots } } :=
        frame_upsert hok hslots
      refine ⟨currentSlots ++ [r], _, exec_addOrUpdate_free hok hfind hn hupsert hr,
        hframe.trans (frame_write hframe.allSucceed hr rfl),
        (hmirrors.allocate hempty hslots).write hr rfl, ?_⟩
      rw [memory_upsert hslots hra]
      exact Place.allocate n _ hroom hempty hnew hcode

/-- The second loop fills the memory. -/
theorem addOrUpdate_fills [Host] (hok : AllSucceed w)
    (hmirrors : Mirrors accessPoint.id currentSlots w)
    (hdoor : accessPoint.id ∈ w.db.accessPoints.keys)
    (hdesired : ∀ d ∈ desired,
      d.1 ∈ w.db.users.rows ∧ d.1.id ≠ "" ∧ d.2 ∈ w.db.credentials.rows) :
    ∃ currentSlots' w',
      (desired.foldlM (addOrUpdate accessPoint) currentSlots).exec w = (.ok currentSlots', w')
        ∧ Frame accessPoint.id w w'
        ∧ Fill (code w.db) room (memory accessPoint.id w) (desired.map wantedItem)
            (memory accessPoint.id w') := by
  have hrule := @foldlM_rule SqliteException World (List HardwareSlot) (User × Credential)
    (addOrUpdate accessPoint)
    (fun done currentSlots' w' => Frame accessPoint.id w w'
      ∧ Mirrors accessPoint.id currentSlots' w'
      ∧ Fill (code w.db) room (memory accessPoint.id w) (done.map wantedItem)
          (memory accessPoint.id w'))
    desired [] currentSlots w ?_ ⟨Frame.refl hok, hmirrors, Fill.nil⟩
  · obtain ⟨currentSlots', w', hexec, hframe, -, hfill⟩ := hrule
    exact ⟨currentSlots', w', hexec, hframe, hfill⟩
  · rintro done ⟨user, cred⟩ hd currentSlots1 w1 ⟨hframe, hmirrors1, hfill⟩
    obtain ⟨huser, hid, hcred⟩ := hdesired _ hd
    -- The users and the credentials are those of the start of the loop.
    have hdoor1 : accessPoint.id ∈ w1.db.accessPoints.keys := by rw [hframe.db]; exact hdoor
    have huser1 : user ∈ w1.db.users.rows := by rw [hframe.db]; exact huser
    have hcred1 : cred ∈ w1.db.credentials.rows := by rw [hframe.db]; exact hcred
    obtain ⟨currentSlots2, w2, hexec, hframe2, hmirrors2, hplace⟩ :=
      addOrUpdate_places hframe.allSucceed hmirrors1 hdoor1 huser1 hcred1 hid
    refine ⟨currentSlots2, w2, hexec, hframe.trans hframe2, hmirrors2, ?_⟩
    rw [List.map_append, List.map_singleton]
    exact hfill.snoc (hframe.code_eq ▸ hplace)

/-! ### The pass -/

/-- The items of the pairs that the pass finds desired. -/
def wantedItems [Host] (db : Db) (accessPoint : AccessPoint) (now : DateTime) : List Item :=
  (desiredAssignments db accessPoint now).map wantedItem

/-- A pass whose provider calls succeed reconciles the memory of the door with the desired
pairs, and changes nothing but the slot rows of the door and its lock. -/
theorem reconcileDoorSlotsAsync_refines [Host] {capabilities : LockCapabilities} {now : DateTime}
    (hcapable : capabilities.hasFlag .userCodes = true) (hok : AllSucceed w)
    (hdoor : accessPoint.id ∈ w.db.accessPoints.keys)
    (hids : ∀ u ∈ w.db.users.rows, u.id ≠ "") :
    ∃ w', (reconcileDoorSlotsAsync accessPoint capabilities now).exec w = (.ok (), w')
      ∧ Frame accessPoint.id w w'
      ∧ Fill (code w.db) room
          (release (wantedItems w.db accessPoint now) (memory accessPoint.id w))
          (wantedItems w.db accessPoint now) (memory accessPoint.id w') := by
  have hdesired : ∀ d ∈ desiredAssignments w.db accessPoint now,
      d.1 ∈ w.db.users.rows ∧ d.1.id ≠ "" ∧ d.2 ∈ w.db.credentials.rows := by
    rintro ⟨u, c⟩ hd
    obtain ⟨hu, -, -, hc⟩ := Agreement.mem_desiredAssignments.mp hd
    have hmem := CredentialRepository.mem_getByUserIdAsync.mp (List.mem_of_find?_eq_some hc)
    exact ⟨hu, hids u hu, hmem.1⟩
  -- The second loop starts from the rows that the first one leaves, read again.
  obtain ⟨w1, hrelease, hframe1, hmemory1⟩ := @removeObsolete_releases accessPoint.id w
    (desiredAssignments w.db accessPoint now) _ hok fun d hd => (hdesired d hd).2.1
  have hdoor1 : accessPoint.id ∈ w1.db.accessPoints.keys := by rw [hframe1.db]; exact hdoor
  have hdesired1 : ∀ d ∈ desiredAssignments w.db accessPoint now,
      d.1 ∈ w1.db.users.rows ∧ d.1.id ≠ "" ∧ d.2 ∈ w1.db.credentials.rows := by
    rw [hframe1.db]
    exact hdesired
  obtain ⟨currentSlots, w2, hfill, hframe2, hmemory2⟩ := addOrUpdate_fills hframe1.allSucceed
    (mirrors_getSlotsForDoorAsync accessPoint.id w1) hdoor1 hdesired1
  refine ⟨w2, ?_, hframe1.trans hframe2, ?_⟩
  · unfold reconcileDoorSlotsAsync
    rw [if_pos hcapable]
    simp only [exec_bind, exec_query, hrelease, exec_discard, hfill]
  · rw [hmemory1, hframe1.code_eq] at hmemory2
    exact hmemory2

end

end CodeMaster.Proofs.Engine.SlotMemory
