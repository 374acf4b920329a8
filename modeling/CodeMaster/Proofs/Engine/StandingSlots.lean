import CodeMaster.Proofs.Engine.CutShort
import CodeMaster.Proofs.Engine.Reconcile

/-!
# `CodeMaster.Proofs.Engine.StandingSlots`: what a pass leaves alone

A pass writes slot rows by their ids and by their numbers. The proofs follow one row `s` with a
user through the log of a pass, whatever the provider answers.

* The first loop touches `s` only in the turn of `s` itself, and only when its pair is not
  desired. Then it gives one command to clear the slot, and the answer decides what becomes of
  the row (`FirstLoop`).
* The second loop programs a row again only for its own pair, and allocates only numbers that no
  row with a user has. Its list of slots has the row, and no other entry with the id or the
  number of the row (`SecondLoop`).

`standing_slots` puts both together.
-/

set_option autoImplicit false

namespace CodeMaster.Proofs.Engine.StandingSlots

open CodeMaster.Core Data CodeMaster.Engine HardwareSlotSyncWorker HardwareSlotRepository
open SlotCalls Relational Exec CutShort
open Reconcile (HasUser)
open SlotMemory (stillDesired)

/-! ### Rows under the statements -/

section
variable {s : HardwareSlot} {id : String} {db : Db}

/-- The row with another status. -/
def withStatus (status : SlotSyncStatus) (s : HardwareSlot) : HardwareSlot :=
  { s with syncStatus := status }

/-- A row with a user who has an id has a user. -/
theorem hasUser_of_userId {t : HardwareSlot} {userId : String} (huser : t.userId = some userId)
    (hid : userId ≠ "") : HasUser t := by
  unfold HasUser
  rw [huser, isNullOrEmpty_some]
  exact decide_eq_false hid

/-- Whether a row has a user depends on its user. -/
theorem hasUser_congr {r s : HardwareSlot} (huser : r.userId = s.userId) :
    HasUser r ↔ HasUser s := by
  unfold HasUser
  rw [huser]

/-- A new status at one row leaves every other row. -/
theorem mem_updateStatus_of_ne (hs : s ∈ db.hardwareSlots.rows) (hne : s.id ≠ id)
    (status : SlotSyncStatus) :
    s ∈ (HardwareSlotRepository.updateSlotSyncStatusAsync id status db).hardwareSlots.rows :=
  mem_updateWhere.mpr ⟨s, hs, by rw [if_neg (by simpa using hne)]⟩

/-- The row with its new status is in the table. -/
theorem mem_updateStatus_self (hs : s ∈ db.hardwareSlots.rows) (status : SlotSyncStatus) :
    withStatus status s
      ∈ (HardwareSlotRepository.updateSlotSyncStatusAsync s.id status db).hardwareSlots.rows :=
  mem_updateWhere.mpr ⟨s, hs, by rw [if_pos (by simp)]; rfl⟩

/-- A cleared slot leaves every other row. -/
theorem mem_clearSlot_of_ne (hs : s ∈ db.hardwareSlots.rows) (hne : s.id ≠ id) :
    s ∈ (HardwareSlotRepository.clearSlotAsync id db).hardwareSlots.rows :=
  mem_updateWhere.mpr ⟨s, hs, by rw [if_neg (by simpa using hne)]⟩

end

/-! ### The first loop -/

section
variable [Host] {door : String} {desired : List (User × Credential)} {s t : HardwareSlot}
  {K : Log → World → Prop} {E : Log → World → Prop}

/-- Nothing that the worker does for the slot `t` in the first loop breaks the property. -/
structure Apart (t : HardwareSlot) (K : Log → World → Prop) : Prop where
  updateStatus : ∀ log w status, K log w →
    K (log ++ [(.updateSlotSyncStatusAsync t.id status, w)])
      { w with db := HardwareSlotRepository.updateSlotSyncStatusAsync t.id status w.db }
  clearCode : ∀ log w, K log w →
    K (log ++ [(.clearSlotCodeAsync t.slotNumber, w)]) (w.callProvider t.slotNumber none).2
  clear : ∀ log w, K log w → K (log ++ [(.clearSlotAsync t.id, w)])
    { w with db := HardwareSlotRepository.clearSlotAsync t.id w.db }

/-- A status update never fails. -/
theorem logged_updateStatus {P Q : Log → World → Prop} {id : String} {status : SlotSyncStatus}
    (hQ : ∀ log w, P log w → Q (log ++ [(.updateSlotSyncStatusAsync id status, w)])
      { w with db := HardwareSlotRepository.updateSlotSyncStatusAsync id status w.db }) :
    Calls.Logged perform P (updateSlotSyncStatusAsync id status) (fun _ => Q) E :=
  Calls.Logged.make
    (fun log w _ _ hP hw => by cases hw; exact hQ log w hP) fun _ _ _ _ _ hw => by cases hw

/-- The rule for a cleared slot, with the log of the calls. -/
theorem logged_clearSlot {P Q : Log → World → Prop} {id : String}
    (hQ : ∀ log w, P log w → Q (log ++ [(.clearSlotAsync id, w)])
      { w with db := HardwareSlotRepository.clearSlotAsync id w.db }) :
    Calls.Logged perform P (clearSlotAsync id) (fun _ => Q) E :=
  Calls.Logged.make
    (fun log w _ _ hP hw => by cases hw; exact hQ log w hP) fun _ _ _ _ _ hw => by cases hw

/-- The rule for a code that is cleared, with the log of the calls. -/
theorem logged_clearSlotCode {P : Log → World → Prop} {Q : Bool → Log → World → Prop} {n : Int}
    (hQ : ∀ log w, P log w → Q (w.callProvider n none).1 (log ++ [(.clearSlotCodeAsync n, w)])
      (w.callProvider n none).2) :
    Calls.Logged perform P (clearSlotCodeAsync n) Q E :=
  Calls.Logged.make
    (fun log w _ _ hP hw => by cases hw; exact hQ log w hP) fun _ _ _ _ _ hw => by cases hw

/-- The rule for a code that is written, with the log of the calls. -/
theorem logged_setSlotCode {P : Log → World → Prop} {Q : Bool → Log → World → Prop} {n : Int}
    {pin name : String}
    (hQ : ∀ log w, P log w → Q (w.callProvider n (some pin)).1
      (log ++ [(.setSlotCodeAsync n pin name, w)]) (w.callProvider n (some pin)).2) :
    Calls.Logged perform P (setSlotCodeAsync n pin name) Q E :=
  Calls.Logged.make
    (fun log w _ _ hP hw => by cases hw; exact hQ log w hP) fun _ _ _ _ _ hw => by cases hw

/-- The turn of a slot keeps a property that has nothing to do with the slot. -/
theorem logged_removeObsolete_of_apart (hK : Apart t K) :
    Calls.Logged perform K (SlotCalls.removeObsolete desired t) (fun _ => K) E := by
  unfold SlotCalls.removeObsolete
  dsimp only
  refine Calls.Logged.ite (fun _ => ?_) fun _ => Calls.Logged.pure fun _ _ h => h
  refine Calls.Logged.bind (logged_updateStatus fun log w h => hK.updateStatus log w _ h)
    fun _ => ?_
  refine Calls.Logged.bind (Q := fun _ => K)
    (logged_clearSlotCode fun log w h => hK.clearCode log w h) fun cleared => ?_
  refine Calls.Logged.ite (fun _ => ?_) fun _ =>
    logged_updateStatus fun log w h => hK.updateStatus log w _ h
  refine Calls.Logged.bind (logged_clearSlot fun log w h => hK.clear log w h) fun _ => ?_
  exact logged_updateStatus fun log w h => hK.updateStatus log w _ h

/-- No slot was programmed or allocated. The rows in `kept` are stored, and the commands to clear
the slot of `s` had the answers in `answers`. -/
structure Rest (door : String) (s : HardwareSlot) (kept : List HardwareSlot)
    (answers : Bool → Prop) (log : Log) (w : World) : Prop where
  noSet : ∀ n b, (LockCommand.set n, b) ∉ commands log
  noAllocation : ∀ n, n ∉ allocatedNumbers log
  rows : ∀ x ∈ kept, x ∈ w.db.hardwareSlots.rows
  clears : s.accessPointId = door →
    ∀ b, (LockCommand.clear s.slotNumber, b) ∈ commands log ↔ answers b

variable {kept : List HardwareSlot} {answers : Bool → Prop} {log : Log} {w : World}

omit [Host] in
/-- The turn of another slot. -/
theorem Rest.apart (hkept : ∀ x ∈ kept, x.id = s.id) (hid : t.id ≠ s.id)
    (hslot : s.accessPointId = door → t.slotNumber ≠ s.slotNumber) :
    Apart t (Rest door s kept answers) where
  updateStatus log w status h := by
    refine ⟨by simpa [command] using h.noSet, by simpa [allocatedNumber] using h.noAllocation,
      fun x hx => ?_, by simpa [command] using h.clears⟩
    exact mem_updateStatus_of_ne (h.rows x hx) (by rw [hkept x hx]; exact hid.symm) status
  clearCode log w h := by
    refine ⟨by simpa [command] using h.noSet, by simpa [allocatedNumber] using h.noAllocation,
      h.rows, fun hdoor b => ?_⟩
    simp [command, hslot hdoor, h.clears hdoor b]
  clear log w h := by
    refine ⟨by simpa [command] using h.noSet, by simpa [allocatedNumber] using h.noAllocation,
      fun x hx => ?_, by simpa [command] using h.clears⟩
    exact mem_clearSlot_of_ne (h.rows x hx) (by rw [hkept x hx]; exact hid.symm)

omit [Host] in
/-- The row that the loop is at gets a new status. -/
theorem Rest.updateStatus_self (hkept : ∀ x ∈ kept, x.id = s.id)
    (h : Rest door s kept answers log w) (status : SlotSyncStatus) :
    Rest door s (kept.map (withStatus status)) answers
      (log ++ [(.updateSlotSyncStatusAsync s.id status, w)])
      { w with db := HardwareSlotRepository.updateSlotSyncStatusAsync s.id status w.db } where
  noSet := by simpa [command] using h.noSet
  noAllocation := by simpa [allocatedNumber] using h.noAllocation
  rows x hx := by
    obtain ⟨y, hy, rfl⟩ := List.mem_map.mp hx
    rw [← hkept y hy]
    exact mem_updateStatus_self (h.rows y hy) status
  clears := by simpa [command] using h.clears

/-- The turn of a slot whose pair is not desired: one command to clear it. When that fails, the
row has the status `Error`. -/
theorem logged_removeObsolete_self (hnot : stillDesired desired s = false) :
    Calls.Logged perform (Rest door s [s] fun _ => False) (SlotCalls.removeObsolete desired s)
      (fun _ log w => ∃ answer, Rest door s (if answer then [] else [withStatus .error s])
        (fun b => b = answer) log w) E := by
  unfold SlotCalls.removeObsolete
  rw [show (desired.any fun d => holds d.1 d.2 s) = stillDesired desired s from rfl, hnot]
  dsimp only
  rw [if_pos (by rfl)]
  refine Calls.Logged.bind (logged_updateStatus fun log w h =>
    h.updateStatus_self (by simp) .deleting) fun _ => ?_
  refine Calls.Logged.bind (Q := fun cleared =>
    Rest door s [withStatus .deleting s] fun b => b = cleared)
    (logged_clearSlotCode fun log w h => ?_) fun cleared => ?_
  · refine ⟨by simpa [command] using h.noSet, by simpa [allocatedNumber] using h.noAllocation,
      h.rows, fun hdoor b => ?_⟩
    simp [command, h.clears hdoor b, eq_comm]
  cases cleared with
  | true =>
    rw [if_pos rfl]
    -- The row loses its user, so nothing more is said about it.
    refine Calls.Logged.bind (Q := fun _ => Rest door s [] fun b => b = true)
      (logged_clearSlot fun log w h => ?_) fun _ => logged_updateStatus fun log w h =>
        ⟨true, h.updateStatus_self (by simp) .synced⟩
    exact ⟨by simpa [command] using h.noSet, by simpa [allocatedNumber] using h.noAllocation,
      by simp, by simpa [command] using h.clears⟩
  | false =>
    rw [if_neg (by decide)]
    exact logged_updateStatus fun log w h =>
      ⟨false, h.updateStatus_self (by simp [withStatus]) .error⟩

/-- What the first loop has done to the row, when it has visited the slots `done`. -/
def FirstLoop (door : String) (desired : List (User × Credential)) (s : HardwareSlot)
    (done : List HardwareSlot) (log : Log) (w : World) : Prop :=
  if s ∈ done ∧ stillDesired desired s = false then
    ∃ answer, Rest door s (if answer then [] else [withStatus .error s])
      (fun b => b = answer) log w
  else Rest door s [s] (fun _ => False) log w

/-- The first loop goes through different rows of the door, each in its turn. -/
theorem logged_removeObsolete_loop {slots : List HardwareSlot} (hnodup : slots.Nodup)
    (hid : ∀ t ∈ slots, t ≠ s → t.id ≠ s.id)
    (hslot : ∀ t ∈ slots, t ≠ s → s.accessPointId = door → t.slotNumber ≠ s.slotNumber) :
    Calls.Logged perform (FirstLoop door desired s [])
      (forM slots (SlotCalls.removeObsolete desired))
      (fun _ => FirstLoop door desired s slots) E := by
  have hloop := Calls.Logged.forM (h := perform) (E := E) (f := SlotCalls.removeObsolete desired)
    (J := FirstLoop door desired s) slots [] fun pre t post hsplit => ?_
  · exact hloop
  rw [List.nil_append]
  have ht : t ∈ slots := by simp [hsplit]
  by_cases hts : t = s
  · -- The turn of the row itself.
    subst hts
    have hfresh : t ∉ pre := by
      rw [hsplit] at hnodup
      intro hmem
      exact (List.nodup_append.mp hnodup).2.2 t hmem t List.mem_cons_self rfl
    cases hdesired : stillDesired desired t with
    | true =>
      unfold FirstLoop SlotCalls.removeObsolete
      rw [show (desired.any fun d => holds d.1 d.2 t) = stillDesired desired t from rfl, hdesired]
      simp only [Bool.true_eq_false, and_false, if_false, Bool.not_true, Bool.false_eq_true]
      exact Calls.Logged.pure fun _ _ h => h
    | false =>
      unfold FirstLoop
      simpa [hfresh, hdesired] using logged_removeObsolete_self (E := E) hdesired
  · have hsame : (s ∈ pre ++ [t] ∧ stillDesired desired s = false)
        ↔ s ∈ pre ∧ stillDesired desired s = false := by
      simp [Ne.symm hts]
    unfold FirstLoop
    simp only [hsame]
    split
    · refine Calls.Logged.exists_left fun answer => ?_
      refine (logged_removeObsolete_of_apart (Rest.apart ?_ (hid t ht hts) (hslot t ht hts))).weaken
        (fun _ _ h => h) (fun _ _ _ h => ⟨answer, h⟩) fun _ _ h => h
      cases answer <;> simp [withStatus]
    · exact logged_removeObsolete_of_apart
        (Rest.apart (by simp) (hid t ht hts) (hslot t ht hts))

end

/-! ### The second loop -/

/-- The pair of the row is not to be programmed: the row is synced, or its pair not desired. -/
def Settled (desired : List (User × Credential)) (r : HardwareSlot) : Prop :=
  r.syncStatus = .synced ∨ stillDesired desired r = false

/-- The list of slots has the row, if it is a row of the door, and no other entry with the id or
the number of the row. -/
structure Lists (door : String) (r : HardwareSlot) (slots : List HardwareSlot) : Prop where
  own : r.accessPointId = door → r ∈ slots
  only : ∀ t ∈ slots, t.id = r.id ∨ (r.accessPointId = door ∧ t.slotNumber = r.slotNumber) → t = r

/-- The row has its place, its user and its credential. It was not given away, and if it is
settled, it has its status, too, and was not programmed. -/
structure Undisturbed (door : String) (desired : List (User × Credential)) (r : HardwareSlot)
    (log : Log) (w : World) : Prop where
  row : ∃ status, withStatus status r ∈ w.db.hardwareSlots.rows
    ∧ (Settled desired r → status = r.syncStatus)
  noSet : Settled desired r → r.accessPointId = door →
    ∀ b, (LockCommand.set r.slotNumber, b) ∉ commands log
  noAllocation : r.accessPointId = door → r.slotNumber ∉ allocatedNumbers log

/-- The invariant of the second loop. -/
def SecondLoop (door : String) (desired : List (User × Credential)) (r : HardwareSlot)
    (slots : List HardwareSlot) (log : Log) (w : World) : Prop :=
  Lists door r slots ∧ Undisturbed door desired r log w

section
variable [Host] {accessPoint : AccessPoint} {desired : List (User × Credential)}
  {r t : HardwareSlot} {slots : List HardwareSlot} {log : Log} {w : World} {door : String}
  {E : Log → World → Prop}

omit [Host] in
/-- A new status at another row disturbs nothing, and neither does one at a row that is not
settled. -/
theorem Undisturbed.updateStatus (h : Undisturbed door desired r log w) {id : String}
    (hid : id = r.id → ¬ Settled desired r) (status : SlotSyncStatus) :
    Undisturbed door desired r (log ++ [(.updateSlotSyncStatusAsync id status, w)])
      { w with db := HardwareSlotRepository.updateSlotSyncStatusAsync id status w.db } where
  row := by
    obtain ⟨old, hold, hsettled⟩ := h.row
    by_cases heq : id = r.id
    · subst heq
      exact ⟨status, mem_updateStatus_self hold status, fun hs => absurd hs (hid rfl)⟩
    · exact ⟨old, mem_updateStatus_of_ne hold (fun hr => heq hr.symm) status, hsettled⟩
  noSet := by simpa [command] using h.noSet
  noAllocation := by simpa [allocatedNumber] using h.noAllocation

omit [Host] in
/-- A code that is written into another slot disturbs nothing. -/
theorem Undisturbed.setCode (h : Undisturbed door desired r log w) {n : Int}
    (hn : Settled desired r → r.accessPointId = door → n ≠ r.slotNumber) (pin name : String) :
    Undisturbed door desired r (log ++ [(.setSlotCodeAsync n pin name, w)])
      (w.callProvider n (some pin)).2 where
  row := h.row
  noSet hsettled hdoor b := by
    simp [command, h.noSet hsettled hdoor b, hn hsettled hdoor]
  noAllocation := by simpa [allocatedNumber] using h.noAllocation

/-- The calls that program a slot: the slot is marked, programmed, and marked again. -/
theorem logged_updateStatus_undisturbed {id : String} (hid : id = r.id → ¬ Settled desired r)
    (status : SlotSyncStatus) :
    Calls.Logged perform (Undisturbed door desired r) (updateSlotSyncStatusAsync id status)
      (fun _ => Undisturbed door desired r) E :=
  logged_updateStatus fun _ _ h => h.updateStatus hid status

/-- A call that writes a code into another slot disturbs nothing, whatever its answer is. -/
theorem logged_setSlotCode_undisturbed {n : Int}
    (hn : Settled desired r → r.accessPointId = door → n ≠ r.slotNumber) (pin name : String) :
    Calls.Logged perform (Undisturbed door desired r) (setSlotCodeAsync n pin name)
      (fun _ => Undisturbed door desired r) E :=
  logged_setSlotCode fun _ _ h => h.setCode hn pin name

/-- An allocation at a number that the row does not have. The new row has another id. -/
theorem logged_allocateSlot_undisturbed {userId credentialId : String} {n : Int}
    (hn : r.accessPointId = door → n ≠ r.slotNumber) :
    Calls.Logged perform (Undisturbed door desired r)
      (allocateSlotAsync door userId credentialId n)
      (fun allocated log w => ∃ a, allocated = some a ∧ a.id ≠ r.id ∧ a.slotNumber = n
        ∧ Undisturbed door desired r log w)
      (Undisturbed door desired r) := by
  have hlog : ∀ {log w}, Undisturbed door desired r log w → ∀ {w' : World},
      (∃ status, withStatus status r ∈ w'.db.hardwareSlots.rows
        ∧ (Settled desired r → status = r.syncStatus)) →
      Undisturbed door desired r
        (log ++ [(.allocateSlotAsync door userId credentialId n, w)]) w' := by
    intro log w h w' hrow
    refine ⟨hrow, by simpa [command] using h.noSet, fun hdoor => ?_⟩
    simp [allocatedNumber, h.noAllocation hdoor, hn hdoor]
  refine Calls.Logged.make (fun log w allocated w' h hw => ?_) fun log w e w' h hw => ?_
  · by_cases hstored : door ∈ w.db.accessPoints.keys ∧ userId ∈ w.db.users.keys
        ∧ credentialId ∈ w.db.credentials.keys
    · obtain ⟨hdoor, huser, hcredential⟩ := hstored
      obtain ⟨hardwareSlots, a, hexec, -, -, -, hslots⟩ :=
        exec_allocateSlotAsync_of_stored hdoor huser hcredential n
      cases hexec.symm.trans hw
      -- The row keeps its place, so the lookup at its place finds it.
      obtain ⟨status, hrow, hsettled⟩ := h.row
      have hplace : ¬ (r.accessPointId = door ∧ r.slotNumber = n) := fun heq => hn heq.1 heq.2.symm
      have hold : getSlotAsync w.db r.accessPointId r.slotNumber = some (withStatus status r) :=
        getSlotAsync_eq_some_iff.mpr ⟨hrow, rfl, rfl⟩
      have hkept := hslots r.accessPointId r.slotNumber
      rw [if_neg hplace, hold] at hkept
      have hrow' := (getSlotAsync_eq_some_iff.mp hkept).1
      have ha := hslots door n
      rw [if_pos ⟨rfl, rfl⟩] at ha
      obtain ⟨hamem, hadoor, han⟩ := getSlotAsync_eq_some_iff.mp ha
      have hid : a.id ≠ r.id := by
        intro hid
        have heq : a = withStatus status r := HardwareSlots.eq_of_id hamem hrow' hid
        rw [heq] at hadoor han
        exact hplace ⟨hadoor, han⟩
      exact ⟨a, rfl, hid, han, hlog h ⟨status, hrow', hsettled⟩⟩
    · cases (exec_allocateSlotAsync_of_missing hstored n).symm.trans hw
  · by_cases hstored : door ∈ w.db.accessPoints.keys ∧ userId ∈ w.db.users.keys
        ∧ credentialId ∈ w.db.credentials.keys
    · obtain ⟨hdoor, huser, hcredential⟩ := hstored
      obtain ⟨hardwareSlots, a, hexec, -⟩ :=
        exec_allocateSlotAsync_of_stored hdoor huser hcredential n
      cases hexec.symm.trans hw
    · cases (exec_allocateSlotAsync_of_missing hstored n).symm.trans hw
      exact hlog h h.row

omit [Host] in
/-- The new row can be listed. -/
theorem Lists.append (h : Lists door r slots) {a : HardwareSlot} (hid : a.id ≠ r.id)
    (hn : r.accessPointId = door → a.slotNumber ≠ r.slotNumber) : Lists door r (slots ++ [a]) where
  own hr := List.mem_append_left _ (h.own hr)
  only t ht heq := by
    cases List.mem_append.mp ht with
    | inl ht => exact h.only t ht heq
    | inr ht =>
      rw [List.mem_singleton.mp ht] at heq
      cases heq with
      | inl hsame => exact absurd hsame hid
      | inr hsame => exact absurd hsame.2 (hn hsame.1)

/-- One desired pair. -/
theorem logged_addOrUpdate (huser : r.accessPointId = accessPoint.id → HasUser r)
    {d : User × Credential} (hd : d ∈ desired) (slots : List HardwareSlot) :
    Calls.Logged perform (SecondLoop accessPoint.id desired r slots)
      (addOrUpdate accessPoint slots d) (SecondLoop accessPoint.id desired r)
      (Undisturbed accessPoint.id desired r) := by
  refine Calls.Logged.and_left fun hlists => ?_
  obtain ⟨user, cred⟩ := d
  unfold SlotCalls.addOrUpdate
  dsimp only
  cases hfind : slots.find? (holds user cred) with
  | some existing =>
    dsimp only
    refine Calls.Logged.ite (fun hstatus => ?_) fun _ => Calls.Logged.pure fun _ _ h => ⟨hlists, h⟩
    -- The entry is another row, or it is the row itself, which then is to be programmed.
    have hown : existing.id = r.id
        ∨ (r.accessPointId = accessPoint.id ∧ existing.slotNumber = r.slotNumber) →
        ¬ Settled desired r := by
      intro hsame hsettled
      rw [← hlists.only existing (List.mem_of_find?_eq_some hfind) hsame] at hsettled
      cases hsettled with
      | inl hsynced => exact hstatus hsynced
      | inr hnot =>
        have hdesired : stillDesired desired existing = true :=
          List.any_eq_true.mpr ⟨_, hd, List.find?_some hfind⟩
        rw [hdesired] at hnot
        cases hnot
    have hid : existing.id = r.id → ¬ Settled desired r := fun h => hown (Or.inl h)
    have hnumber : Settled desired r → r.accessPointId = accessPoint.id →
        existing.slotNumber ≠ r.slotNumber := fun hsettled hdoor hslot =>
      hown (Or.inr ⟨hdoor, hslot⟩) hsettled
    refine Calls.Logged.bind (logged_updateStatus_undisturbed hid _) fun _ => ?_
    refine Calls.Logged.bind (logged_setSlotCode_undisturbed hnumber _ _) fun setOk => ?_
    refine Calls.Logged.bind (logged_updateStatus_undisturbed hid _) fun _ => ?_
    exact Calls.Logged.pure fun _ _ h => ⟨hlists, h⟩
  | none =>
    dsimp only
    cases hfree : HardwareSlotSyncWorker.freeSlotNumber slots with
    | none => exact Calls.Logged.pure fun _ _ h => ⟨hlists, h⟩
    | some n =>
      dsimp only
      -- The list has the row with its user, so its number is not free.
      have hnumber : r.accessPointId = accessPoint.id → n ≠ r.slotNumber := by
        intro hdoor hslot
        refine (FirstFree.firstFree_spec hfree).2.2 ?_
        rw [hslot]
        refine List.mem_map_of_mem (List.mem_filter.mpr ⟨hlists.own hdoor, ?_⟩)
        rw [show isNullOrEmpty r.userId = false from huser hdoor]
        rfl
      refine Calls.Logged.bind (logged_allocateSlot_undisturbed hnumber) fun allocated => ?_
      refine Calls.Logged.exists_left fun a => Calls.Logged.and_left fun hallocated =>
        Calls.Logged.and_left fun hid => Calls.Logged.and_left fun hslot => ?_
      subst hallocated
      dsimp only
      have hid' : a.id = r.id → ¬ Settled desired r := fun h => absurd h hid
      refine Calls.Logged.bind (logged_updateStatus_undisturbed hid' _) fun _ => ?_
      refine Calls.Logged.bind (logged_setSlotCode_undisturbed (fun _ => hnumber) _ _)
        fun setOk => ?_
      refine Calls.Logged.ite (fun _ => ?_) fun _ => ?_
      · refine Calls.Logged.bind (logged_updateStatus_undisturbed hid' _) fun _ => ?_
        exact Calls.Logged.pure fun _ _ h =>
          ⟨hlists.append hid fun hdoor => hslot ▸ hnumber hdoor, h⟩
      · refine Calls.Logged.bind (logged_updateStatus_undisturbed hid' _) fun _ => ?_
        exact Calls.Logged.pure fun _ _ h => ⟨hlists, h⟩

/-- The commands to clear a slot had these answers. -/
def Answered (n : Int) (answers : Bool → Prop) (log : Log) : Prop :=
  ∀ b, (LockCommand.clear n, b) ∈ commands log ↔ answers b

/-- A property that the calls of the second loop keep is kept by its body. -/
theorem logged_addOrUpdate_of {K E : Log → World → Prop} {slots : List HardwareSlot}
    {d : User × Credential}
    (hstatus : ∀ {id status},
      Calls.Logged perform K (updateSlotSyncStatusAsync id status) (fun _ => K) E)
    (hset : ∀ {n pin name}, Calls.Logged perform K (setSlotCodeAsync n pin name) (fun _ => K) E)
    (hallocate : ∀ n, HardwareSlotSyncWorker.freeSlotNumber slots = some n →
      Calls.Logged perform K (allocateSlotAsync accessPoint.id d.1.id d.2.id n) (fun _ => K) E) :
    Calls.Logged perform K (addOrUpdate accessPoint slots d) (fun _ => K) E := by
  obtain ⟨user, cred⟩ := d
  unfold SlotCalls.addOrUpdate
  dsimp only
  cases slots.find? (holds user cred) with
  | some existing =>
    refine Calls.Logged.ite (fun _ => ?_) fun _ => Calls.Logged.pure fun _ _ h => h
    refine hstatus.bind fun _ => hset.bind fun _ => hstatus.bind fun _ => ?_
    exact Calls.Logged.pure fun _ _ h => h
  | none =>
    cases hfree : HardwareSlotSyncWorker.freeSlotNumber slots with
    | none => exact Calls.Logged.pure fun _ _ h => h
    | some n =>
      refine (hallocate n hfree).bind fun allocated => ?_
      cases allocated with
      | none => exact Calls.Logged.pure fun _ _ h => h
      | some a =>
        refine hstatus.bind fun _ => hset.bind fun _ => ?_
        refine Calls.Logged.ite (fun _ => ?_) fun _ => ?_
        · exact hstatus.bind fun _ => Calls.Logged.pure fun _ _ h => h
        · exact hstatus.bind fun _ => Calls.Logged.pure fun _ _ h => h

/-- The second loop gives no command to clear a slot. -/
theorem logged_addOrUpdate_answered {n : Int} {answers : Bool → Prop} (slots : List HardwareSlot)
    (d : User × Credential) :
    Calls.Logged perform (fun log _ => Answered n answers log) (addOrUpdate accessPoint slots d)
      (fun _ log _ => Answered n answers log) (fun log _ => Answered n answers log) := by
  refine logged_addOrUpdate_of ?_ ?_ fun m _ => ?_
  · exact logged_updateStatus fun _ _ h => by simpa [Answered, command] using h
  · exact logged_setSlotCode fun _ _ h => by simpa [Answered, command] using h
  · exact Calls.Logged.make (fun _ _ _ _ h _ => by simpa [Answered, command] using h)
      fun _ _ _ _ h _ => by simpa [Answered, command] using h

/-! ### The pass -/

/-- The list that the pass reads has the row, and no other entry with its id or its number. -/
theorem lists_getSlotsForDoorAsync {db : Db} (hr : r ∈ db.hardwareSlots.rows) :
    Lists door r (HardwareSlotRepository.getSlotsForDoorAsync db door) where
  own hdoor := mem_getSlotsForDoorAsync.mpr ⟨hr, hdoor⟩
  only t ht hsame := by
    obtain ⟨ht, htdoor⟩ := mem_getSlotsForDoorAsync.mp ht
    cases hsame with
    | inl hid => exact HardwareSlots.eq_of_id ht hr hid
    | inr hplace => exact HardwareSlots.eq_of_place ht hr (htdoor.trans hplace.1.symm) hplace.2

/-- What a pass leaves of a row with a user. A row of the door whose pair is not desired gets one
command to clear its slot, and stays when that fails. Any other row stays in any case. -/
def Outcome (door : String) (desired : List (User × Credential)) (s : HardwareSlot) (log : Log)
    (w : World) : Prop :=
  if s.accessPointId = door ∧ stillDesired desired s = false then
    ∃ answer, Answered s.slotNumber (fun b => b = answer) log
      ∧ (answer = false → Undisturbed door desired (withStatus .error s) log w)
  else Undisturbed door desired s log w
    ∧ (s.accessPointId = door → Answered s.slotNumber (fun _ => False) log)

omit [Host] in
/-- A row that the first loop has left is undisturbed when the second loop starts. -/
theorem Rest.undisturbed {x s : HardwareSlot} {answers : Bool → Prop}
    (h : Rest door s [x] answers log w) : Undisturbed door desired x log w where
  row := ⟨x.syncStatus, h.rows x (List.mem_singleton.mpr rfl), fun _ => rfl⟩
  noSet _ _ b := h.noSet _ b
  noAllocation _ := h.noAllocation _

/-- The second loop, from the list that is read at its start. -/
theorem logged_second_loop (accessPoint : AccessPoint) (desired : List (User × Credential))
    {r : HardwareSlot} (huser : HasUser r) :
    Calls.Logged perform
      (fun log w => r ∈ w.db.hardwareSlots.rows ∧ Undisturbed accessPoint.id desired r log w)
      (do
        let currentSlots ← getSlotsForDoorAsync accessPoint.id
        discard (desired.foldlM (addOrUpdate accessPoint) currentSlots))
      (fun _ => Undisturbed accessPoint.id desired r)
      (Undisturbed accessPoint.id desired r) := by
  refine Calls.Logged.bind (Q := SecondLoop accessPoint.id desired r) ?_ fun slots => ?_
  · refine Calls.Logged.make (fun log w slots w' h hw => ?_) fun _ _ _ _ _ hw => by cases hw
    cases hw
    exact ⟨lists_getSlotsForDoorAsync h.1, h.2.row, by simpa [command] using h.2.noSet,
      by simpa [allocatedNumber] using h.2.noAllocation⟩
  · refine Calls.Logged.bind (Q := SecondLoop accessPoint.id desired r) ?_ fun _ =>
      Calls.Logged.pure fun _ _ h => h.2
    refine Calls.Logged.foldlM (J := fun _ => SecondLoop accessPoint.id desired r) desired [] slots
      fun pre d post slots hsplit => ?_
    exact logged_addOrUpdate (fun _ => huser) (by simp [hsplit]) slots

/-- The second loop clears no code, so that the answers to the commands that clear a slot stay those
of the first loop. -/
theorem logged_second_loop_answered (accessPoint : AccessPoint)
    (desired : List (User × Credential)) (n : Int) (answers : Bool → Prop) :
    Calls.Logged perform (fun log _ => Answered n answers log)
      (do
        let currentSlots ← getSlotsForDoorAsync accessPoint.id
        discard (desired.foldlM (addOrUpdate accessPoint) currentSlots))
      (fun _ log _ => Answered n answers log) (fun log _ => Answered n answers log) := by
  refine Calls.Logged.bind (Q := fun _ log _ => Answered n answers log) ?_ fun slots => ?_
  · refine Calls.Logged.make (fun log w slots w' h hw => ?_) fun _ _ _ _ _ hw => by cases hw
    simpa [Answered, command] using h
  · refine Calls.Logged.bind (Q := fun _ log _ => Answered n answers log) ?_ fun _ =>
      Calls.Logged.pure fun _ _ h => h
    exact Calls.Logged.foldlM (J := fun _ _ log _ => Answered n answers log) desired [] slots
      fun _ d _ slots _ => logged_addOrUpdate_answered slots d

/-- From the end of the first loop to the end of the pass. -/
theorem logged_rest_of_pass {s : HardwareSlot} {done : List HardwareSlot} (huser : HasUser s)
    (hdone : s ∈ done ↔ s.accessPointId = accessPoint.id) :
    Calls.Logged perform (FirstLoop accessPoint.id desired s done)
      (do
        let currentSlots ← getSlotsForDoorAsync accessPoint.id
        discard (desired.foldlM (addOrUpdate accessPoint) currentSlots))
      (fun _ => Outcome accessPoint.id desired s) (Outcome accessPoint.id desired s) := by
  unfold FirstLoop Outcome
  simp only [hdone]
  split
  · rename_i hobsolete
    refine Calls.Logged.exists_left fun answer => ?_
    cases answer with
    | true =>
      have hanswered := @logged_second_loop_answered _ accessPoint desired s.slotNumber
        fun b => b = true
      exact hanswered.weaken (fun log w h => h.clears hobsolete.1)
        (fun _ log w h => ⟨true, h, Bool.noConfusion⟩) fun log w h => ⟨true, h, Bool.noConfusion⟩
    | false =>
      -- The row with the status `Error` still has its user.
      have huser' : HasUser (withStatus .error s) := huser
      have hboth := (logged_second_loop accessPoint desired huser').and
        (logged_second_loop_answered accessPoint desired s.slotNumber fun b => b = false)
      exact hboth.weaken
        (fun log w h => ⟨⟨h.rows _ (List.mem_singleton.mpr rfl), h.undisturbed⟩,
          h.clears hobsolete.1⟩)
        (fun _ log w h => ⟨false, h.2, fun _ => h.1⟩) fun log w h => ⟨false, h.2, fun _ => h.1⟩
  · have hrow := logged_second_loop accessPoint desired huser
    by_cases hdoor : s.accessPointId = accessPoint.id
    · have hboth := hrow.and
        (logged_second_loop_answered accessPoint desired s.slotNumber fun _ => False)
      exact hboth.weaken
        (fun log w h => ⟨⟨h.rows _ (List.mem_singleton.mpr rfl), h.undisturbed⟩, h.clears hdoor⟩)
        (fun _ log w h => ⟨h.1, fun _ => h.2⟩) fun log w h => ⟨h.1, fun _ => h.2⟩
    · exact hrow.weaken
        (fun log w h => ⟨h.rows _ (List.mem_singleton.mpr rfl), h.undisturbed⟩)
        (fun _ log w h => ⟨h, fun h => absurd h hdoor⟩) fun log w h => ⟨h, fun h => absurd h hdoor⟩

/-- The list of the first loop: the rows of the door with a user, each once. -/
theorem nodup_getSlotsForDoorAsync (db : Db) (door : String) :
    (HardwareSlotRepository.getSlotsForDoorAsync db door).Nodup := by
  have hrows : db.hardwareSlots.rows.Nodup := List.Nodup.of_map _ db.hardwareSlots.table.nodup
  exact (orderBy_perm _).nodup_iff.mpr (hrows.filter _)

/-- A pass over a lock with user codes. -/
theorem logged_pass (accessPoint : AccessPoint) {db0 : Db} {capabilities : LockCapabilities}
    {s : HardwareSlot} (hcapable : capabilities.hasFlag .userCodes = true)
    (hs : s ∈ db0.hardwareSlots.rows) (huser : HasUser s) (now : DateTime) :
    Calls.Logged perform (fun log w => log = [] ∧ w.db = db0)
      (SlotCalls.reconcileDoorSlotsAsync accessPoint capabilities now)
      (fun _ => Outcome accessPoint.id
        (HardwareSlotSyncWorker.desiredAssignments db0 accessPoint now) s)
      (Outcome accessPoint.id
        (HardwareSlotSyncWorker.desiredAssignments db0 accessPoint now) s) := by
  unfold SlotCalls.reconcileDoorSlotsAsync
  rw [if_pos hcapable]
  -- The reads leave the store and say nothing to the lock.
  refine Calls.Logged.bind (Q := fun desired log w =>
    desired = HardwareSlotSyncWorker.desiredAssignments db0 accessPoint now ∧ w.db = db0
      ∧ commands log = [] ∧ allocatedNumbers log = []) ?_ fun desired => ?_
  · refine Calls.Logged.make (fun log w _ w' h hw => ?_) fun _ _ _ _ _ hw => by cases hw
    cases hw
    obtain ⟨rfl, rfl⟩ := h
    exact ⟨rfl, rfl, rfl, rfl⟩
  refine Calls.Logged.and_left fun hdesired => ?_
  subst hdesired
  refine Calls.Logged.bind (Q := fun slots log w =>
    slots = HardwareSlotRepository.getSlotsForDoorAsync db0 accessPoint.id ∧
      FirstLoop accessPoint.id (HardwareSlotSyncWorker.desiredAssignments db0 accessPoint now) s []
        log w) ?_ fun slots => ?_
  · refine Calls.Logged.make (fun log w _ w' h hw => ?_) fun _ _ _ _ _ hw => by cases hw
    cases hw
    obtain ⟨rfl, hcommands, hallocated⟩ := h
    refine ⟨rfl, ?_⟩
    unfold FirstLoop
    rw [if_neg (by simp)]
    exact ⟨by simp [hcommands, command], by simp [hallocated, allocatedNumber], by simpa using hs,
      by simp [hcommands, command]⟩
  refine Calls.Logged.and_left fun hslots => ?_
  subst hslots
  have hmem : ∀ t, t ∈ (HardwareSlotRepository.getSlotsForDoorAsync db0 accessPoint.id).filter
      (fun s => !isNullOrEmpty s.userId) ↔ (t ∈ db0.hardwareSlots.rows
        ∧ t.accessPointId = accessPoint.id) ∧ HasUser t := by
    simp [HasUser]
  refine Calls.Logged.bind (logged_removeObsolete_loop ((nodup_getSlotsForDoorAsync _ _).filter _)
    (fun t ht hne hid => hne (HardwareSlots.eq_of_id ((hmem t).mp ht).1.1 hs hid))
    fun t ht hne hdoor hslot => hne (HardwareSlots.eq_of_place ((hmem t).mp ht).1.1 hs
      (((hmem t).mp ht).1.2.trans hdoor.symm) hslot)) fun _ => ?_
  refine logged_rest_of_pass huser ?_
  rw [hmem]
  exact ⟨fun h => h.1.2, fun hdoor => ⟨⟨hs, hdoor⟩, huser⟩⟩

/-- What a pass over a lock with user codes leaves of a row with a user, also when it stops at a
foreign key. -/
theorem outcome_of_pass (accessPoint : AccessPoint) {w : World}
    {capabilities : LockCapabilities} {s : HardwareSlot}
    (hcapable : capabilities.hasFlag .userCodes = true) (hs : s ∈ w.db.hardwareSlots.rows)
    (huser : HasUser s) (now : DateTime) :
    Outcome accessPoint.id (HardwareSlotSyncWorker.desiredAssignments w.db accessPoint now) s
      (Calls.made perform (SlotCalls.reconcileDoorSlotsAsync accessPoint capabilities now) w)
      ((HardwareSlotSyncWorker.reconcileDoorSlotsAsync accessPoint capabilities now).exec w).2 := by
  have hpass := logged_pass accessPoint hcapable hs huser now
  rw [← run_reconcileDoorSlotsAsync]
  rcases hrun : (Calls.run perform
    (SlotCalls.reconcileDoorSlotsAsync accessPoint capabilities now)).exec w with ⟨_ | _, w'⟩
  · exact hpass.stops [] w _ w' ⟨rfl, rfl⟩ hrun
  · exact hpass.returns [] w _ w' ⟨rfl, rfl⟩ hrun

/-! ### Runs of passes -/

/-- The calls of a pass. -/
def passLog (accessPoint : AccessPoint) (capabilities : LockCapabilities) (now : DateTime)
    (w : World) : Log :=
  Calls.made perform (SlotCalls.reconcileDoorSlotsAsync accessPoint capabilities now) w

/-- The world after a pass. -/
def afterPass (accessPoint : AccessPoint) (capabilities : LockCapabilities) (now : DateTime)
    (w : World) : World :=
  ((HardwareSlotSyncWorker.reconcileDoorSlotsAsync accessPoint capabilities now).exec w).2

omit [Host] in
/-- An undisturbed row is backed. -/
theorem Undisturbed.backed (h : Undisturbed door desired r log w) :
    Backed r.accessPointId r w.db := by
  obtain ⟨status, hrow, -⟩ := h.row
  exact ⟨_, hrow, rfl, rfl, rfl, rfl, rfl⟩

/-- A row with a user stays through a pass that does not clear its slot. -/
theorem backed_afterPass (capabilities : LockCapabilities) (now : DateTime) {s : HardwareSlot}
    (hs : s ∈ w.db.hardwareSlots.rows) (huser : HasUser s)
    (hkept : ¬ (s.accessPointId = accessPoint.id
      ∧ (LockCommand.clear s.slotNumber, true)
        ∈ commands (passLog accessPoint capabilities now w))) :
    Backed s.accessPointId s (afterPass accessPoint capabilities now w).db := by
  by_cases hcapable : capabilities.hasFlag .userCodes = true
  · have houtcome := outcome_of_pass accessPoint hcapable hs huser now
    unfold Outcome at houtcome
    split at houtcome
    · rename_i hobsolete
      obtain ⟨answer, hanswered, hfailed⟩ := houtcome
      cases answer with
      | true => exact absurd ⟨hobsolete.1, (hanswered true).mpr rfl⟩ hkept
      | false => exact (hfailed rfl).backed
    · exact houtcome.1.backed
  · unfold afterPass HardwareSlotSyncWorker.reconcileDoorSlotsAsync
    rw [if_neg hcapable]
    exact ⟨s, hs, rfl, rfl, rfl, rfl, rfl⟩

/-- What can happen to the row after a pass: changes of the store that leave the assignment, and
passes that do not clear its slot. -/
inductive Later (door : String) (s : HardwareSlot) : World → World → Prop
  | refl (w : World) : Later door s w w
  | change {w w1 w2 : World} (later : Later door s w w1)
      (hkept : Backed door s w1.db → Backed door s w2.db) : Later door s w w2
  | pass {w w1 : World} (later : Later door s w w1) (accessPoint : AccessPoint)
      (capabilities : LockCapabilities) (now : DateTime)
      (hkept : ¬ (door = accessPoint.id ∧ (LockCommand.clear s.slotNumber, true)
        ∈ commands (passLog accessPoint capabilities now w1))) :
      Later door s w (afterPass accessPoint capabilities now w1)

/-- The assignment stays along such a run. -/
theorem Later.backed {s : HardwareSlot} {w w' : World} (later : Later door s w w')
    (huser : HasUser s) (h : Backed door s w.db) : Backed door s w'.db := by
  induction later with
  | refl => exact h
  | change _ hkept ih => exact hkept ih
  | pass _ accessPoint capabilities now hkept ih =>
    obtain ⟨r, hr, hid, hdoor, hslot, hruser, hcredential⟩ := ih
    have hruser' : HasUser r := (hasUser_congr hruser).mpr huser
    have hbacked := backed_afterPass capabilities now hr hruser' (by rw [hdoor, hslot]; exact hkept)
    rw [hdoor] at hbacked
    obtain ⟨r', hr', hid', hdoor', hslot', hruser', hcredential'⟩ := hbacked
    exact ⟨r', hr', hid'.trans hid, hdoor', hslot'.trans hslot, hruser'.trans hruser,
      hcredential'.trans hcredential⟩

omit [Host] in
/-- Whether a row is still desired depends on its user and its credential. -/
theorem stillDesired_congr {s r : HardwareSlot} (huser : r.userId = s.userId)
    (hcredential : r.credentialId = s.credentialId) :
    stillDesired desired r = stillDesired desired s := by
  unfold stillDesired holds
  rw [huser, hcredential]

/-- The pass gives a command to clear the slot of an assignment that is not desired. -/
theorem exists_clear_of_backed {s : HardwareSlot} {capabilities : LockCapabilities}
    {now : DateTime} (hcapable : capabilities.hasFlag .userCodes = true) (huser : HasUser s)
    (h : Backed accessPoint.id s w.db)
    (hnot : stillDesired (HardwareSlotSyncWorker.desiredAssignments w.db accessPoint now) s
      = false) :
    ∃ answer, (LockCommand.clear s.slotNumber, answer)
      ∈ commands (passLog accessPoint capabilities now w) := by
  obtain ⟨r, hr, hid, hdoor, hslot, hruser, hcredential⟩ := h
  have hruser' : HasUser r := (hasUser_congr hruser).mpr huser
  have houtcome := outcome_of_pass accessPoint hcapable hr hruser' now
  unfold Outcome at houtcome
  rw [stillDesired_congr hruser hcredential, if_pos ⟨hdoor, hnot⟩, hslot] at houtcome
  obtain ⟨answer, hanswered, -⟩ := houtcome
  exact ⟨answer, (hanswered answer).mpr rfl⟩

/-- A pass does not disturb standing assignments, and an assignment whose code it could not erase
stays until a later pass erases the code. -/
theorem standing_slots (accessPoint : AccessPoint) (capabilities : LockCapabilities)
    (now : DateTime) (w : World) :
    -- A row that is not cleared keeps its slot number, its user and its credential.
    (∀ s ∈ w.db.hardwareSlots.rows, HasUser s →
      ¬ (s.accessPointId = accessPoint.id ∧ (LockCommand.clear s.slotNumber, true)
        ∈ commands (passLog accessPoint capabilities now w)) →
      Backed s.accessPointId s (afterPass accessPoint capabilities now w).db) ∧
    -- The slot of a synced row whose pair is desired gets no command.
    (∀ s ∈ w.db.hardwareSlots.rows, s.accessPointId = accessPoint.id → HasUser s →
      stillDesired (HardwareSlotSyncWorker.desiredAssignments w.db accessPoint now) s = true →
      s.syncStatus = .synced →
      ∀ b, (LockCommand.set s.slotNumber, b) ∉ commands (passLog accessPoint capabilities now w)
        ∧ (LockCommand.clear s.slotNumber, b)
          ∉ commands (passLog accessPoint capabilities now w)) ∧
    -- A row whose pair is not desired and whose clear fails is kept for the next pass.
    ∀ s ∈ w.db.hardwareSlots.rows, s.accessPointId = accessPoint.id → HasUser s →
      stillDesired (HardwareSlotSyncWorker.desiredAssignments w.db accessPoint now) s = false →
      (LockCommand.clear s.slotNumber, false)
        ∈ commands (passLog accessPoint capabilities now w) →
      withStatus .error s ∈ (afterPass accessPoint capabilities now w).db.hardwareSlots.rows ∧
      s.slotNumber ∉ allocatedNumbers (passLog accessPoint capabilities now w) ∧
      ∀ w', Later accessPoint.id s (afterPass accessPoint capabilities now w) w' →
        ∀ (accessPoint' : AccessPoint) (capabilities' : LockCapabilities) (now' : DateTime),
          accessPoint'.id = accessPoint.id → capabilities'.hasFlag .userCodes = true →
          stillDesired (HardwareSlotSyncWorker.desiredAssignments w'.db accessPoint' now') s
            = false →
          ∃ answer, (LockCommand.clear s.slotNumber, answer)
            ∈ commands (passLog accessPoint' capabilities' now' w') := by
  refine ⟨fun s hs huser hkept => backed_afterPass capabilities now hs huser hkept,
    fun s hs hdoor huser hdesired hsynced b => ?_, fun s hs hdoor huser hnot hfailed => ?_⟩
  · by_cases hcapable : capabilities.hasFlag .userCodes = true
    · have houtcome := outcome_of_pass accessPoint hcapable hs huser now
      unfold Outcome at houtcome
      rw [if_neg (by simp [hdesired])] at houtcome
      obtain ⟨hrow, hanswered⟩ := houtcome
      exact ⟨hrow.noSet (Or.inl hsynced) hdoor b, (hanswered hdoor b).mp⟩
    · unfold passLog SlotCalls.reconcileDoorSlotsAsync
      rw [if_neg hcapable]
      exact ⟨List.not_mem_nil, List.not_mem_nil⟩
  · by_cases hcapable : capabilities.hasFlag .userCodes = true
    · have houtcome := outcome_of_pass accessPoint hcapable hs huser now
      unfold Outcome at houtcome
      rw [if_pos ⟨hdoor, hnot⟩] at houtcome
      obtain ⟨answer, hanswered, herror⟩ := houtcome
      have hanswer : answer = false := ((hanswered false).mp hfailed).symm
      obtain ⟨⟨status, hrow, hstatus⟩, -, hallocation⟩ := herror hanswer
      rw [hstatus (Or.inr hnot)] at hrow
      refine ⟨hrow, hallocation hdoor, fun w' later accessPoint' capabilities' now' hid hcapable'
        hnot' => ?_⟩
      have hbacked : Backed accessPoint.id s (afterPass accessPoint capabilities now w).db :=
        ⟨_, hrow, rfl, hdoor, rfl, rfl, rfl⟩
      rw [← hid] at later hbacked
      exact exists_clear_of_backed hcapable' huser (later.backed huser hbacked) hnot'
    · unfold passLog SlotCalls.reconcileDoorSlotsAsync at hfailed
      rw [if_neg hcapable] at hfailed
      exact absurd hfailed List.not_mem_nil

end

section
/-- The host of the samples. -/
local instance : Host := Host.sample

open Evaluate (frontDoor)
open Reconcile (frontDoorSlots)

/-- The row that is left over from a deleted credential, and a lock that does not clear it. -/
theorem standing_slots_frontDoor :
    withStatus .error { id := "s2", accessPointId := "front", slotNumber := 2
                        userId := some "guest" }
      ∈ (afterPass frontDoor .userCodes { ticks := 0 }
          { frontDoorSlots with outcomes := [false] }).db.hardwareSlots.rows :=
  ((standing_slots frontDoor .userCodes { ticks := 0 }
    { frontDoorSlots with outcomes := [false] }).2.2
      { id := "s2", accessPointId := "front", slotNumber := 2, userId := some "guest" }
      (by decide) rfl (by decide) (by decide +kernel) (by decide +kernel)).1

end

end CodeMaster.Proofs.Engine.StandingSlots
