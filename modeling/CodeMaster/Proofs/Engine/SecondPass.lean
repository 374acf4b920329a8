import CodeMaster.Proofs.Engine.Allocations

/-!
# `CodeMaster.Proofs.Engine.SecondPass`: a second pass has nothing to do

`AtRest` is the state of the slot rows in which a pass gives no command and writes nothing: the
rows with a user are for desired pairs, and the first row of each desired pair is synced, or the
pair has no row and no number is free. A pass at rest only reads (`made_of_atRest`).

A pass whose provider calls succeed leaves the rows at rest. The worker looks for the first slot
of a pair, and a pair can have several rows. So the invariant of the second loop (`Placed`) keeps,
beside the mirror of the rows, that the first slot of a pair in the list has the least number
(`Leads`). The table is read back in the order of the numbers, so the second pass finds the row
that the first pass has programmed.

The first part is about one pass over rows at rest: each loop has a lemma that says that its body
finds its row as it should be and does nothing. The second part is about a pass with calls that
succeed, and ends in the state that the first part starts from. The two parts meet in
`reconcileDoorSlotsAsync_idempotent`.

Several rows for one pair are no error for the worker, and it keeps the surplus ones. So the result
is not that the table is tidy but that the second pass finds nothing to do.
-/

set_option autoImplicit false

namespace CodeMaster.Proofs.Engine.SecondPass

open CodeMaster.Core Data CodeMaster.Engine HardwareSlotSyncWorker HardwareSlotRepository
open SlotCalls Relational Exec SlotMemory
open Reconcile (HasUser)
open StandingSlots (passLog)
open Allocations (PutAt)

/-! ### A pass at rest -/

/-- The slot rows leave nothing to do for the desired pairs. -/
structure AtRest [Host] (door : String) (desired : List (User × Credential)) (db : Db) : Prop where
  wanted : ∀ s ∈ getSlotsForDoorAsync db door, HasUser s → stillDesired desired s = true
  placed : ∀ d ∈ desired,
    match (getSlotsForDoorAsync db door).find? (holds d.1 d.2) with
    | some s => s.syncStatus = .synced
    | none => freeSlotNumber (getSlotsForDoorAsync db door) = none

section
variable {desired : List (User × Credential)} {slots : List HardwareSlot}

/-- The first loop does nothing to slots whose pair is desired. -/
theorem removeObsolete_forM_of_desired (h : ∀ s ∈ slots, stillDesired desired s = true) :
    forM slots (SlotCalls.removeObsolete desired) = (pure () : SlotCalls Unit) := by
  induction slots with
  | nil => rfl
  | cons s slots ih =>
    have hs : (desired.any fun d => holds d.1 d.2 s) = true := h s List.mem_cons_self
    have hbody : SlotCalls.removeObsolete desired s = (pure () : SlotCalls Unit) := by
      unfold SlotCalls.removeObsolete
      rw [hs]
      rfl
    rw [List.forM_cons, hbody]
    exact ih fun s' hs' => h s' (List.mem_cons_of_mem _ hs')

/-- The second loop does nothing for pairs with a synced slot, or without a free number. -/
theorem addOrUpdate_foldlM_of_placed (accessPoint : AccessPoint)
    (h : ∀ d ∈ desired, match slots.find? (holds d.1 d.2) with
      | some s => s.syncStatus = .synced
      | none => freeSlotNumber slots = none) :
    desired.foldlM (SlotCalls.addOrUpdate accessPoint) slots
      = (pure slots : SlotCalls (List HardwareSlot)) := by
  induction desired with
  | nil => rfl
  | cons d desired ih =>
    have hd := h d List.mem_cons_self
    have hbody : SlotCalls.addOrUpdate accessPoint slots d
        = (pure slots : SlotCalls (List HardwareSlot)) := by
      unfold SlotCalls.addOrUpdate
      cases hfind : slots.find? (holds d.1 d.2) with
      | some s =>
        rw [hfind] at hd
        simp only [hfind, hd, ne_eq, not_true_eq_false, if_false]
      | none =>
        rw [hfind] at hd
        simp only [hfind, hd]
    rw [List.foldlM_cons, hbody]
    exact ih fun d' hd' => h d' (List.mem_cons_of_mem _ hd')

end

section
variable [Host] {accessPoint : AccessPoint} {now : DateTime} {w : World}

/-- A pass at rest makes its three reads, and no other call. -/
theorem made_of_atRest {capabilities : LockCapabilities}
    (hcapable : capabilities.hasFlag .userCodes = true)
    (h : AtRest accessPoint.id
      (HardwareSlotSyncWorker.desiredAssignments w.db accessPoint now) w.db) :
    Calls.made perform (SlotCalls.reconcileDoorSlotsAsync accessPoint capabilities now) w
        = [(.desiredAssignments accessPoint now, w), (.getSlotsForDoorAsync accessPoint.id, w),
            (.getSlotsForDoorAsync accessPoint.id, w)]
      ∧ (Calls.run perform (SlotCalls.reconcileDoorSlotsAsync accessPoint capabilities now)).exec w
        = (.ok (), w) := by
  have hfirst := @removeObsolete_forM_of_desired
    (HardwareSlotSyncWorker.desiredAssignments w.db accessPoint now)
    ((HardwareSlotRepository.getSlotsForDoorAsync w.db accessPoint.id).filter
      fun s => !isNullOrEmpty s.userId) ?_
  · have hsecond := addOrUpdate_foldlM_of_placed accessPoint h.placed
    -- Both loops are `pure`, so three reads are left of the program.
    have hmade : Calls.made perform
        (SlotCalls.reconcileDoorSlotsAsync accessPoint capabilities now) w
        = (.desiredAssignments accessPoint now, w) :: (.getSlotsForDoorAsync accessPoint.id, w)
          :: Calls.made perform (do
            forM ((HardwareSlotRepository.getSlotsForDoorAsync w.db accessPoint.id).filter
              fun s => !isNullOrEmpty s.userId) (SlotCalls.removeObsolete
                (HardwareSlotSyncWorker.desiredAssignments w.db accessPoint now))
            let currentSlots ← SlotCalls.getSlotsForDoorAsync accessPoint.id
            discard ((HardwareSlotSyncWorker.desiredAssignments w.db accessPoint now).foldlM
              (SlotCalls.addOrUpdate accessPoint) currentSlots)) w := by
      unfold SlotCalls.reconcileDoorSlotsAsync
      rw [if_pos hcapable]
      rfl
    constructor
    · rw [hmade, hfirst]
      show _ :: _ :: _ :: Calls.made perform (discard
        ((HardwareSlotSyncWorker.desiredAssignments w.db accessPoint now).foldlM
          (SlotCalls.addOrUpdate accessPoint)
          (HardwareSlotRepository.getSlotsForDoorAsync w.db accessPoint.id))) w = _
      rw [hsecond]
      rfl
    · unfold SlotCalls.reconcileDoorSlotsAsync
      rw [if_pos hcapable]
      simp only [Calls.run_bind, run_desiredAssignments, exec_bind, exec_query,
        run_getSlotsForDoorAsync, hfirst, Calls.run_pure, exec_pure, hsecond, Calls.run_discard,
        exec_discard]
  · intro s hs
    have huser : HasUser s := by simpa [HasUser] using (List.mem_filter.mp hs).2
    exact h.wanted s (List.mem_filter.mp hs).1 huser

end

/-! ### Passes whose commands succeed -/

/-- The world with a provider that never fails. -/
def reliable (w : World) : World := { w with outcomes := [] }

/-- From now on all calls of the provider succeed. -/
theorem allSucceed_reliable (w : World) : AllSucceed (reliable w) := fun _ hb => by cases hb

section
variable [Host]

/-- A call that the provider answers with success does the same with a reliable provider. -/
theorem exec_perform_reliable {c : SlotCall} {w : World}
    (h : ∀ answered, command (c, w) = some answered → answered.2 = true) :
    (perform c).exec (reliable w) = (((perform c).exec w).1, reliable ((perform c).exec w).2) := by
  cases c with
  | desiredAssignments accessPoint now => rfl
  | getSlotsForDoorAsync accessPointId => rfl
  | updateSlotSyncStatusAsync slotId status => rfl
  | clearSlotAsync slotId => rfl
  | allocateSlotAsync accessPointId userId credentialId slotNumber =>
    simp only [perform, HardwareSlotSyncWorker.allocateSlotAsync, exec_bind, World.onDb,
      exec_statement, exec_query, reliable]
    cases upsert accessPointId userId credentialId slotNumber w.db with
    | error e => rfl
    | ok db => rfl
  | setSlotCodeAsync slotNumber pinCode userName =>
    have hanswer : w.outcomes.headD true = true := h _ rfl
    simp only [perform, Engine.setSlotCodeAsync, exec, ExceptT.run, StateT.run,
      World.callProvider, hanswer]
    rfl
  | clearSlotCodeAsync slotNumber =>
    have hanswer : w.outcomes.headD true = true := h _ rfl
    simp only [perform, Engine.clearSlotCodeAsync, exec, ExceptT.run, StateT.run,
      World.callProvider, hanswer]
    rfl

/-- A program whose commands the provider answers with success does the same with a reliable
provider. -/
theorem exec_run_reliable {α : Type} (m : SlotCalls α) {w : World}
    (h : ∀ c ∈ commands (Calls.made perform m w), c.2 = true) :
    (Calls.run perform m).exec (reliable w)
      = (((Calls.run perform m).exec w).1, reliable ((Calls.run perform m).exec w).2) := by
  induction m generalizing w with
  | done a => rfl
  | call c next ih =>
    have hcall : ∀ answered, command (c, w) = some answered → answered.2 = true := by
      intro answered hanswered
      refine h answered (List.mem_filterMap.mpr ⟨(c, w), ?_, hanswered⟩)
      rw [Calls.made]
      exact List.mem_cons_self
    unfold Calls.run
    rw [exec_bind, exec_bind, exec_perform_reliable hcall]
    rcases hc : (perform c).exec w with ⟨e | r, w1⟩
    · rfl
    · refine ih r fun answered hanswered => h answered ?_
      rw [Calls.made_call_of_ok hc]
      obtain ⟨e, he, hcommand⟩ := List.mem_filterMap.mp hanswered
      exact List.mem_filterMap.mpr ⟨e, List.mem_cons_of_mem _ he, hcommand⟩

end

/-! ### The second loop -/

/-- The first slot of a pair has the least number of the slots of the pair. -/
def Leads (slots : List HardwareSlot) : Prop :=
  ∀ user cred s, slots.find? (holds user cred) = some s →
    ∀ t ∈ slots, holds user cred t = true → s.slotNumber ≤ t.slotNumber

/-- The table has a synced row at the number. -/
def RowSynced (door : String) (w : World) (n : Int) : Prop :=
  ∃ r, getSlotAsync w.db door n = some r ∧ r.syncStatus = .synced

/-- The first slot of the pair is synced, or the pair has no slot and no number is free. -/
def PairPlaced (door : String) (slots : List HardwareSlot) (w : World)
    (d : User × Credential) : Prop :=
  match slots.find? (holds d.1 d.2) with
  | some s => RowSynced door w s.slotNumber
  | none => freeSlotNumber slots = none

/-- The invariant of the second loop, with the desired pairs that are done. -/
structure Placed (door : String) (desired : List (User × Credential)) (w0 : World)
    (done : List (User × Credential)) (slots : List HardwareSlot) (w : World) : Prop where
  frame : Frame door w0 w
  mirrors : Mirrors door slots w
  leads : Leads slots
  only : Reconciliation.Only (desired.map wantedItem) (memory door w)
  placed : ∀ d ∈ done, PairPlaced door slots w d

section
variable {door : String} {desired done : List (User × Credential)} {slots : List HardwareSlot}
  {w w' : World} {n : Int} {r : HardwareSlot} {d : User × Credential}

/-- A row that is put with the status `Synced` leaves every other place synced. -/
theorem RowSynced.putAt {n' : Int} (h : RowSynced door w n') (hput : PutAt door n r w.db w'.db)
    (hr : r.syncStatus = .synced) : RowSynced door w' n' := by
  obtain ⟨r', hr', hsynced⟩ := h
  unfold RowSynced
  rw [hput]
  split
  · exact ⟨r, rfl, hr⟩
  · exact ⟨r', hr', hsynced⟩

/-- A row that is put with the status `Synced` is synced. -/
theorem RowSynced.self (hput : PutAt door n r w.db w'.db) (hr : r.syncStatus = .synced) :
    RowSynced door w' n :=
  ⟨r, (hput n).trans (if_pos rfl), hr⟩

/-- A wanted row that is put leaves all items wanted. -/
theorem only_putAt (h : Reconciliation.Only (desired.map wantedItem) (memory door w))
    (hput : PutAt door n r w.db w'.db) (hd : d ∈ desired) (hr : item r = some (wantedItem d)) :
    Reconciliation.Only (desired.map wantedItem) (memory door w') := by
  intro i a hitem
  obtain ⟨r', hr', ha⟩ := memory_item_eq_some_iff.mp hitem
  rw [hput] at hr'
  split at hr'
  · cases hr'
    rw [hr] at ha
    cases ha
    exact List.mem_map.mpr ⟨d, hd, rfl⟩
  · exact h i a (memory_item_eq_some_iff.mpr ⟨r', hr', ha⟩)

/-- The item of a row determines the user and the credential that it holds. -/
theorem holds_congr {user user' : User} {cred cred' : Credential} (h : holds user cred r = true)
    (h' : holds user' cred' r = true) : holds user' cred' = holds user cred := by
  simp only [holds, decide_eq_true_eq] at h h'
  have huser : user'.id = user.id := Option.some.inj (h'.1.symm.trans h.1)
  have hcred : cred'.id = cred.id := Option.some.inj (h'.2.symm.trans h.2)
  funext s
  rw [holds, holds, huser, hcred]

/-- A new slot for a pair without one does not change which slot of a pair is the first. -/
theorem Leads.append (h : Leads slots) (hr : holds d.1 d.2 r = true)
    (hnew : slots.find? (holds d.1 d.2) = none) : Leads (slots ++ [r]) := by
  intro user cred s hfind t ht hholds
  rw [List.find?_append] at hfind
  cases hold : slots.find? (holds user cred) with
  | some s' =>
    rw [hold] at hfind
    cases hfind
    rcases List.mem_append.mp ht with ht | ht
    · exact h user cred s hold t ht hholds
    · cases List.mem_singleton.mp ht
      rw [holds_congr hr hholds, hnew] at hold
      cases hold
  | none =>
    rw [hold, Option.none_or] at hfind
    have hs : s = r := List.mem_singleton.mp (List.mem_of_find?_eq_some hfind)
    rcases List.mem_append.mp ht with ht | ht
    · exact absurd hholds (List.find?_eq_none.mp hold t ht)
    · rw [hs, List.mem_singleton.mp ht]

/-- A row that is put with the status `Synced` leaves a pair in its place. -/
theorem PairPlaced.putAt (h : PairPlaced door slots w d) (hput : PutAt door n r w.db w'.db)
    (hr : r.syncStatus = .synced) : PairPlaced door slots w' d := by
  unfold PairPlaced at h ⊢
  cases hfind : slots.find? (holds d.1 d.2) with
  | some s =>
    rw [hfind] at h
    exact RowSynced.putAt h hput hr
  | none =>
    rw [hfind] at h
    exact h

/-- A row that is appended leaves a pair in its place. -/
theorem PairPlaced.append (h : PairPlaced door slots w d) {n' : Int}
    (hfree : freeSlotNumber slots = some n') (s : HardwareSlot) :
    PairPlaced door (slots ++ [s]) w d := by
  unfold PairPlaced at h ⊢
  rw [List.find?_append]
  cases hfind : slots.find? (holds d.1 d.2) with
  | some s' =>
    rw [hfind] at h
    exact h
  | none =>
    -- A pair is only left without a slot when no number is free.
    rw [hfind, hfree] at h
    cases h

end

section
variable {accessPoint : AccessPoint} {desired done : List (User × Credential)}
  {slots slots' : List HardwareSlot} {w0 w w' : World} {user : User} {cred : Credential}

/-- A turn that changes nothing has its pair placed already. -/
theorem Placed.keep (h : Placed accessPoint.id desired w0 done slots w)
    (hd : PairPlaced accessPoint.id slots w (user, cred)) :
    Placed accessPoint.id desired w0 (done ++ [(user, cred)]) slots w where
  frame := h.frame
  mirrors := h.mirrors
  leads := h.leads
  only := h.only
  placed d' hd' := by
    rcases List.mem_append.mp hd' with hd' | hd'
    · exact h.placed d' hd'
    · rw [List.mem_singleton.mp hd']
      exact hd

/-- A slot of the pair that is not synced is programmed. -/
theorem Placed.program (h : Placed accessPoint.id desired w0 done slots w)
    (hd : (user, cred) ∈ desired) (hid : user.id ≠ "") {s : HardwareSlot}
    (hfind : slots.find? (holds user cred) = some s) :
    Placed accessPoint.id desired w0 (done ++ [(user, cred)]) slots
      (write s.id markSynced markSynced_id markSynced_place s.slotNumber
        (some (pinCode cred)) w) := by
  have ha : item s = some (wantedItem (user, cred)) :=
    (holds_iff hid).mp (List.find?_some hfind)
  obtain ⟨r, hr, hrid, hra, -⟩ := h.mirrors.row_of_slot s (List.mem_of_find?_eq_some hfind) _ ha
  have hput : PutAt accessPoint.id s.slotNumber (markSynced r) w.db
      (write s.id markSynced markSynced_id markSynced_place s.slotNumber
        (some (pinCode cred)) w).db := by
    intro n'
    rw [getSlotAsync_write hr hrid]
    simp only [true_and]
  refine ⟨h.frame.trans (frame_write h.frame.allSucceed hr hrid), h.mirrors.write hr hrid, h.leads,
    only_putAt h.only hput hd hra, fun d' hd' => ?_⟩
  rcases List.mem_append.mp hd' with hd' | hd'
  · exact (h.placed d' hd').putAt hput rfl
  · rw [List.mem_singleton.mp hd']
    unfold PairPlaced
    rw [hfind]
    exact RowSynced.self hput rfl

/-- A pair without a slot gets the free number. -/
theorem Placed.allocate (h : Placed accessPoint.id desired w0 done slots w)
    (hd : (user, cred) ∈ desired) (hid : user.id ≠ "")
    (hfind : slots.find? (holds user cred) = none) {n : Int} (hn : freeSlotNumber slots = some n)
    {r : HardwareSlot} (hruser : r.userId = some user.id) (hrcred : r.credentialId = some cred.id)
    {hardwareSlots : HardwareSlots}
    (hslots : ∀ door n', getSlotAsync { w.db with hardwareSlots } door n'
      = if door = accessPoint.id ∧ n' = n then some r else getSlotAsync w.db door n') :
    Placed accessPoint.id desired w0 (done ++ [(user, cred)]) (slots ++ [r])
      (write r.id markSynced markSynced_id markSynced_place n (some (pinCode cred))
        { w with db := { w.db with hardwareSlots } }) := by
  have hfree := h.mirrors.freeSlotNumber
  rw [hn] at hfree
  have hr : getSlotAsync { w.db with hardwareSlots } accessPoint.id n = some r := by
    rw [hslots, if_pos ⟨rfl, rfl⟩]
  have hslot : r.slotNumber = n := (getSlotAsync_eq_some_iff.mp hr).2.2
  have hra : item r = some (wantedItem (user, cred)) :=
    item_eq_some_iff.mpr ⟨hruser, hid, hrcred⟩
  have hholds : holds user cred r = true := (holds_iff hid).mpr hra
  have hframe : Frame accessPoint.id w { w with db := { w.db with hardwareSlots } } :=
    frame_upsert h.frame.allSucceed hslots
  -- After the write, the free number holds the new row, and every other number what it held.
  have hput : PutAt accessPoint.id n (markSynced r) w.db
      (write r.id markSynced markSynced_id markSynced_place n (some (pinCode cred))
        { w with db := { w.db with hardwareSlots } }).db := by
    intro n'
    rw [getSlotAsync_write hr rfl]
    simp only [true_and]
    split
    · rfl
    · rename_i hne
      show getSlotAsync { w.db with hardwareSlots } _ n' = _
      rw [hslots, if_neg fun h => hne h.2]
  refine ⟨h.frame.trans (hframe.trans (frame_write hframe.allSucceed hr rfl)),
    (h.mirrors.allocate hfree.2 hslots).write hr rfl,
    h.leads.append (d := (user, cred)) hholds hfind,
    only_putAt h.only hput hd hra, fun d' hd' => ?_⟩
  -- An earlier pair keeps its place; the pair itself has the row that was just written.
  rcases List.mem_append.mp hd' with hd' | hd'
  · exact ((h.placed d' hd').append hn r).putAt hput rfl
  · rw [List.mem_singleton.mp hd']
    unfold PairPlaced
    rw [List.find?_append, hfind, Option.none_or, List.find?_cons_of_pos hholds]
    show RowSynced accessPoint.id _ r.slotNumber
    rw [hslot]
    exact RowSynced.self hput rfl

/-- Each turn of the second loop places its pair. -/
theorem Placed.step [Host] (h : Placed accessPoint.id desired w0 done slots w)
    (hd : (user, cred) ∈ desired) (hid : user.id ≠ "")
    (hexec : (HardwareSlotSyncWorker.addOrUpdate accessPoint slots (user, cred)).exec w
      = (.ok slots', w')) :
    Placed accessPoint.id desired w0 (done ++ [(user, cred)]) slots' w' := by
  cases hfind : slots.find? (holds user cred) with
  | some s =>
    rw [exec_addOrUpdate_existing h.frame.allSucceed hfind] at hexec
    cases hexec
    split
    · rename_i hsynced
      refine h.keep ?_
      unfold PairPlaced
      rw [hfind]
      obtain ⟨r, hr, -, -, hrow⟩ := h.mirrors.row_of_slot s (List.mem_of_find?_eq_some hfind) _
        ((holds_iff hid).mp (List.find?_some hfind))
      exact ⟨r, hr, hrow hsynced⟩
    · exact h.program hd hid hfind
  | none =>
    cases hn : HardwareSlotSyncWorker.freeSlotNumber slots with
    | none =>
      rw [exec_addOrUpdate_full hfind hn] at hexec
      cases hexec
      refine h.keep ?_
      unfold PairPlaced
      rw [hfind]
      exact hn
    | some n =>
      by_cases hstored : accessPoint.id ∈ w.db.accessPoints.keys ∧ user.id ∈ w.db.users.keys
          ∧ cred.id ∈ w.db.credentials.keys
      · obtain ⟨hdoor, huser, hcred⟩ := hstored
        obtain ⟨hardwareSlots, r, hupsert, hruser, hrcred, -, hslots⟩ :=
          @upsert_of_stored _ accessPoint.id user.id cred.id n w.db hdoor huser hcred
        have hr : getSlotAsync { w.db with hardwareSlots } accessPoint.id n = some r := by
          rw [hslots, if_pos ⟨rfl, rfl⟩]
        rw [exec_addOrUpdate_free h.frame.allSucceed hfind hn hupsert hr] at hexec
        cases hexec
        exact h.allocate hd hid hfind hn hruser hrcred hslots
      · -- The allocation fails, so the turn does not return.
        unfold HardwareSlotSyncWorker.addOrUpdate at hexec
        simp only [hfind, hn, exec_bind, exec_allocateSlotAsync_of_missing hstored n] at hexec
        cases hexec

end

/-! ### The rows after a pass -/

section
variable [Host] {accessPoint : AccessPoint} {desired : List (User × Credential)}
  {slots : List HardwareSlot} {w0 w : World}

/-- The slots of a door are listed in the order of their numbers, so that the first slot of a pair
has the least number. -/
theorem leads_getSlotsForDoorAsync (db : Db) (door : String) :
    Leads (HardwareSlotRepository.getSlotsForDoorAsync db door) := by
  intro user cred s hfind t ht hholds
  exact key_le_of_find?_orderBy hfind (mem_orderBy.mp ht) hholds

/-- A row of a pair has a slot of the pair at its number. -/
theorem exists_slot_of_row (h : Mirrors accessPoint.id slots w) {d : User × Credential}
    (hid : d.1.id ≠ "") {r : HardwareSlot}
    (hr : r ∈ HardwareSlotRepository.getSlotsForDoorAsync w.db accessPoint.id)
    (hholds : holds d.1 d.2 r = true) :
    ∃ s ∈ slots, s.slotNumber = r.slotNumber ∧ holds d.1 d.2 s = true := by
  obtain ⟨hrow, hdoor⟩ := mem_getSlotsForDoorAsync.mp hr
  obtain ⟨s, hs, hnumber, hsa⟩ := h.slot_of_row r.slotNumber r _
    (getSlotAsync_eq_some_iff.mpr ⟨hrow, hdoor, rfl⟩) ((holds_iff hid).mp hholds)
  exact ⟨s, hs, hnumber, (holds_iff hid).mpr hsa⟩

/-- A slot of a pair has a row of the pair at its number. -/
theorem exists_row_of_slot (h : Mirrors accessPoint.id slots w) {d : User × Credential}
    (hid : d.1.id ≠ "") {s : HardwareSlot} (hs : s ∈ slots) (hholds : holds d.1 d.2 s = true) :
    ∃ r ∈ HardwareSlotRepository.getSlotsForDoorAsync w.db accessPoint.id,
      getSlotAsync w.db accessPoint.id s.slotNumber = some r ∧ holds d.1 d.2 r = true := by
  obtain ⟨r, hr, -, hra, -⟩ := h.row_of_slot s hs _ ((holds_iff hid).mp hholds)
  obtain ⟨hrow, hdoor, -⟩ := getSlotAsync_eq_some_iff.mp hr
  exact ⟨r, mem_getSlotsForDoorAsync.mpr ⟨hrow, hdoor⟩, hr, (holds_iff hid).mpr hra⟩

/-- The first row of a placed pair is synced. -/
theorem Placed.synced_of_first (h : Placed accessPoint.id desired w0 desired slots w)
    {d : User × Credential} (hd : d ∈ desired) (hid : d.1.id ≠ "") {r : HardwareSlot}
    (hfind : (HardwareSlotRepository.getSlotsForDoorAsync w.db accessPoint.id).find?
      (holds d.1 d.2) = some r) : r.syncStatus = .synced := by
  have hr := List.mem_of_find?_eq_some hfind
  obtain ⟨t, ht, hnumber, htholds⟩ := exists_slot_of_row h.mirrors hid hr (List.find?_some hfind)
  have hplaced := h.placed d hd
  unfold PairPlaced at hplaced
  cases hfirst : slots.find? (holds d.1 d.2) with
  | none => exact absurd htholds (List.find?_eq_none.mp hfirst t ht)
  | some s =>
    rw [hfirst] at hplaced
    obtain ⟨r', hr', hsynced⟩ := hplaced
    obtain ⟨r'', hmem, hr'', hholds⟩ := exists_row_of_slot h.mirrors hid
      (List.mem_of_find?_eq_some hfirst) (List.find?_some hfirst)
    rw [hr'] at hr''
    cases hr''
    -- The list and the table both start with the least number of the pair, so `r` is the row `r'`.
    have hle : s.slotNumber ≤ t.slotNumber := h.leads d.1 d.2 s hfirst t ht htholds
    have hge : r.slotNumber ≤ r'.slotNumber :=
      leads_getSlotsForDoorAsync w.db accessPoint.id d.1 d.2 r hfind r' hmem hholds
    obtain ⟨hrow', hdoor', hslot'⟩ := getSlotAsync_eq_some_iff.mp hr'
    obtain ⟨hrow, hdoor⟩ := mem_getSlotsForDoorAsync.mp hr
    have heq : r.slotNumber = r'.slotNumber := by omega
    rw [HardwareSlots.eq_of_place hrow hrow' (hdoor.trans hdoor'.symm) heq]
    exact hsynced

/-- A placed pair without a row has found no free number, and none is free in the table. -/
theorem Placed.full_of_first (h : Placed accessPoint.id desired w0 desired slots w)
    {d : User × Credential} (hd : d ∈ desired) (hid : d.1.id ≠ "")
    (hfind : (HardwareSlotRepository.getSlotsForDoorAsync w.db accessPoint.id).find?
      (holds d.1 d.2) = none) :
    freeSlotNumber (HardwareSlotRepository.getSlotsForDoorAsync w.db accessPoint.id) = none := by
  have hplaced := h.placed d hd
  unfold PairPlaced at hplaced
  cases hfirst : slots.find? (holds d.1 d.2) with
  | some s =>
    obtain ⟨r, hmem, -, hholds⟩ := exists_row_of_slot h.mirrors hid
      (List.mem_of_find?_eq_some hfirst) (List.find?_some hfirst)
    exact absurd hholds (List.find?_eq_none.mp hfind r hmem)
  | none =>
    rw [hfirst] at hplaced
    have hfull := h.mirrors.freeSlotNumber
    rw [hplaced] at hfull
    have hrows := (mirrors_getSlotsForDoorAsync accessPoint.id w).freeSlotNumber
    cases hfree : HardwareSlotSyncWorker.freeSlotNumber
        (HardwareSlotRepository.getSlotsForDoorAsync w.db accessPoint.id) with
    | none => rfl
    | some n =>
      rw [hfree] at hrows
      exact absurd hrows.2 (hfull n hrows.1)

/-- When all desired pairs are placed, the rows are at rest. -/
theorem Placed.atRest (h : Placed accessPoint.id desired w0 desired slots w)
    (hids : ∀ d ∈ desired, d.1.id ≠ "") : AtRest accessPoint.id desired w.db where
  wanted s hs huser := by
    obtain ⟨a, ha⟩ := exists_item_iff.mpr huser
    obtain ⟨hrow, hdoor⟩ := mem_getSlotsForDoorAsync.mp hs
    have hget := getSlotAsync_eq_some_iff.mpr ⟨hrow, hdoor, rfl⟩
    exact (stillDesired_iff hids ha).mpr
      (h.only s.slotNumber a (memory_item_eq_some_iff.mpr ⟨s, hget, ha⟩))
  placed d hd := by
    cases hfind : (HardwareSlotRepository.getSlotsForDoorAsync w.db accessPoint.id).find?
        (holds d.1 d.2) with
    | some r => exact h.synced_of_first hd (hids d hd) hfind
    | none => exact h.full_of_first hd (hids d hd) hfind

/-- A pass that returns, with a reliable provider, leaves the rows at rest. -/
theorem atRest_of_returned {capabilities : LockCapabilities} {now : DateTime}
    (hcapable : capabilities.hasFlag .userCodes = true) (hok : AllSucceed w0)
    (hids : ∀ u ∈ w0.db.users.rows, u.id ≠ "")
    (hexec : (HardwareSlotSyncWorker.reconcileDoorSlotsAsync accessPoint capabilities now).exec w0
      = (.ok (), w)) :
    Frame accessPoint.id w0 w ∧ AtRest accessPoint.id
      (HardwareSlotSyncWorker.desiredAssignments w0.db accessPoint now) w.db := by
  have hdesired : ∀ d ∈ HardwareSlotSyncWorker.desiredAssignments w0.db accessPoint now,
      d.1.id ≠ "" := fun d hd => hids d.1 (Agreement.mem_desiredAssignments.mp hd).1
  obtain ⟨w1, hrelease, hframe1, hmemory1⟩ := @removeObsolete_releases accessPoint.id w0
    (HardwareSlotSyncWorker.desiredAssignments w0.db accessPoint now) _ hok hdesired
  unfold HardwareSlotSyncWorker.reconcileDoorSlotsAsync at hexec
  rw [if_pos hcapable] at hexec
  simp only [exec_bind, exec_query, hrelease, exec_discard] at hexec
  rcases hfill : ((HardwareSlotSyncWorker.desiredAssignments w0.db accessPoint now).foldlM
    (HardwareSlotSyncWorker.addOrUpdate accessPoint)
    (HardwareSlotRepository.getSlotsForDoorAsync w1.db accessPoint.id)).exec w1
    with ⟨_ | slots, w2⟩ <;> rw [hfill] at hexec
  · cases hexec
  · cases hexec
    -- The first loop has released every slot that is not wanted; the second one starts from there.
    have hstart : Placed accessPoint.id
        (HardwareSlotSyncWorker.desiredAssignments w0.db accessPoint now) w0 []
        (HardwareSlotRepository.getSlotsForDoorAsync w1.db accessPoint.id) w1 :=
      ⟨hframe1, mirrors_getSlotsForDoorAsync accessPoint.id w1,
        leads_getSlotsForDoorAsync w1.db accessPoint.id, hmemory1 ▸ Reconciliation.release_only,
        fun d hd => absurd hd List.not_mem_nil⟩
    have hplaced := foldlM_returns_rule
      (HardwareSlotSyncWorker.desiredAssignments w0.db accessPoint now) [] _ w1
      (fun done d hd slots w slots' w' h hstep => h.step hd (hdesired d hd) hstep)
      hstart slots w hfill
    exact ⟨hplaced.frame, hplaced.atRest hdesired⟩

/-- Reconciliation is idempotent. When the provider answers every command of a pass with success,
the pass returns, if its door is stored. After a pass that has returned, the next one gives no
command, allocates no slot, and leaves every row. -/
theorem reconcileDoorSlotsAsync_idempotent (accessPoint : AccessPoint)
    (capabilities : LockCapabilities) (now : DateTime) (w : World)
    (hids : ∀ u ∈ w.db.users.rows, u.id ≠ "")
    (hsucceed : ∀ c ∈ commands (passLog accessPoint capabilities now w), c.2 = true) :
    (accessPoint.id ∈ w.db.accessPoints.keys → ∃ w1,
      (HardwareSlotSyncWorker.reconcileDoorSlotsAsync accessPoint capabilities now).exec w
        = (.ok (), w1)) ∧
    ∀ w1, (HardwareSlotSyncWorker.reconcileDoorSlotsAsync accessPoint capabilities now).exec w
        = (.ok (), w1) →
      ∀ w2 : World, w2.db = w1.db →
        commands (passLog accessPoint capabilities now w2) = []
          ∧ allocatedNumbers (passLog accessPoint capabilities now w2) = []
          ∧ (HardwareSlotSyncWorker.reconcileDoorSlotsAsync accessPoint capabilities now).exec w2
            = (.ok (), w2) := by
  by_cases hcapable : capabilities.hasFlag .userCodes = true
  · have hreliable := exec_run_reliable _ hsucceed
    rw [run_reconcileDoorSlotsAsync] at hreliable
    constructor
    · intro hdoor
      obtain ⟨w1, hexec, -⟩ := @reconcileDoorSlotsAsync_refines (reliable w) accessPoint _
        capabilities now hcapable (allSucceed_reliable w) hdoor hids
      rw [hexec] at hreliable
      have hreturns := (congrArg Prod.fst hreliable).symm
      rcases hrun : (HardwareSlotSyncWorker.reconcileDoorSlotsAsync accessPoint capabilities
        now).exec w with ⟨r, w2⟩
      rw [hrun] at hreturns
      exact ⟨w2, by rw [show r = .ok () from hreturns]⟩
    · intro w1 hexec w2 hdb
      rw [hexec] at hreliable
      obtain ⟨hframe, hrest⟩ := atRest_of_returned hcapable (allSucceed_reliable w) hids hreliable
      -- The desired pairs do not depend on the slot rows.
      have hdesired : HardwareSlotSyncWorker.desiredAssignments w.db accessPoint now
          = HardwareSlotSyncWorker.desiredAssignments w2.db accessPoint now := by
        have hw2 : w2.db = { w.db with hardwareSlots := w1.db.hardwareSlots } := hdb.trans hframe.db
        rw [hw2]
        rfl
      have hrest2 : AtRest accessPoint.id
          (HardwareSlotSyncWorker.desiredAssignments w2.db accessPoint now) w2.db := by
        rw [← hdesired, hdb]
        exact hrest
      obtain ⟨hmade, hrun⟩ := made_of_atRest hcapable hrest2
      unfold passLog
      rw [hmade, ← run_reconcileDoorSlotsAsync]
      exact ⟨rfl, rfl, hrun⟩
  · unfold passLog SlotCalls.reconcileDoorSlotsAsync HardwareSlotSyncWorker.reconcileDoorSlotsAsync
    rw [if_neg hcapable, if_neg hcapable]
    exact ⟨fun _ => ⟨w, rfl⟩, fun w1 _ w2 _ => ⟨rfl, rfl, rfl⟩⟩

end

section
/-- The host of the samples. -/
local instance : Host := Host.sample

open Evaluate (frontDoor)
open Reconcile (frontDoorSlots)

/-- The guest's slot and a slot that is left over: a pass settles both, and the next one has
nothing to do. -/
theorem reconcileDoorSlotsAsync_idempotent_frontDoor :
    ∃ w1, (HardwareSlotSyncWorker.reconcileDoorSlotsAsync frontDoor .userCodes ⟨0, .utc⟩).exec
          frontDoorSlots = (.ok (), w1)
      ∧ commands (passLog frontDoor .userCodes ⟨0, .utc⟩ frontDoorSlots) ≠ []
      ∧ commands (passLog frontDoor .userCodes ⟨0, .utc⟩ w1) = [] := by
  have hpass := reconcileDoorSlotsAsync_idempotent frontDoor .userCodes ⟨0, .utc⟩ frontDoorSlots
    (by decide) (by decide +kernel)
  obtain ⟨w1, hexec⟩ := hpass.1 (by decide)
  exact ⟨w1, hexec, by decide +kernel, (hpass.2 w1 hexec w1 rfl).1⟩

end

end CodeMaster.Proofs.Engine.SecondPass
