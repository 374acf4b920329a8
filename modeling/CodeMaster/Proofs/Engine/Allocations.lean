import CodeMaster.Proofs.Engine.StandingSlots

/-!
# `CodeMaster.Proofs.Engine.Allocations`: the slot numbers that one pass gives away

`OwnSlots` says that the allocations of a pass have different numbers and that each allocated
user has an own row at the end. The second loop enters an allocated slot into its list only
when the lock took the code. After a failure the number looks free, so the next new pair gets
the same number, and its row replaces the row of the first pair.

`Turn` is what the loop can do for one desired pair. `Progress` is the invariant: either every
allocation came when the slots before it were programmed (`Timely`), and the allocated users
have their rows, or both are lost for good. So the two are equivalent (`ownSlots_iff_timely`).

The log of a pass has its calls with the world before each of them, so that a statement about the
calls of a pass is a statement about a list. The numbers that a pass allocates and the commands that
it gives are read from this list, and `Timely` compares the two.

Every pattern of answers of the provider is covered. The ids of the stored users are not empty,
which both inserts see to.
-/

set_option autoImplicit false

namespace CodeMaster.Proofs.Engine.Allocations

open CodeMaster.Core Data CodeMaster.Engine HardwareSlotSyncWorker HardwareSlotRepository
open SlotCalls Relational Exec CutShort StandingSlots
open Reconcile (HasUser)

/-! ### The statement -/

/-- At the number there is a row of the pair, synced if the lock took the code and with the
status `Error` if not. The lock got one command to set the slot. -/
def OwnRow (door userId credentialId : String) (n : Int) (log : Log) (w : World) : Prop :=
  ∃ r, getSlotAsync w.db door n = some r ∧ r.userId = some userId
    ∧ r.credentialId = some credentialId
    ∧ ∃ setOk, (∀ b, (LockCommand.set n, b) ∈ commands log ↔ b = setOk)
      ∧ r.syncStatus = if setOk then .synced else .error

/-- The allocations of a pass have different numbers from 1 to 30, and each one that answered a
row has left an own row for its user. -/
structure OwnSlots [Host] (door : String) (log : Log) (w : World) : Prop where
  different : (allocatedNumbers log).Nodup
  inRange : ∀ n ∈ allocatedNumbers log, 1 ≤ n ∧ n ≤ 30
  row : ∀ e ∈ log, ∀ userId credentialId n, e.1 = .allocateSlotAsync door userId credentialId n →
    (∃ a, ((perform (.allocateSlotAsync door userId credentialId n)).exec e.2).1
      = .ok (some a)) →
    OwnRow door userId credentialId n log w

/-- Whenever the pass allocates a slot, the lock has taken the codes of the slots that the pass
allocated before. -/
def Timely (log : Log) : Prop :=
  ∀ pre e, pre ++ [e] <+: log → (allocatedNumber e).isSome = true →
    ∀ n ∈ allocatedNumbers pre, (LockCommand.set n, false) ∉ commands pre

/-! ### Logs that grow -/

section
variable {log calls : Log} {e : SlotCall × World} {n : Int}

/-- The commands of a log are those of its parts. -/
theorem commands_append (log calls : Log) :
    commands (log ++ calls) = commands log ++ commands calls := List.filterMap_append ..

/-- The numbers that a log allocates are those of its parts. -/
theorem allocatedNumbers_append (log calls : Log) :
    allocatedNumbers (log ++ calls) = allocatedNumbers log ++ allocatedNumbers calls :=
  List.filterMap_append ..

/-- One more call is timely when the log before it was, and when it is no allocation or the codes of
all numbers that were allocated before could be written. -/
theorem timely_concat_iff : Timely (log ++ [e]) ↔ Timely log ∧ ((allocatedNumber e).isSome = true →
    ∀ n ∈ allocatedNumbers log, (LockCommand.set n, false) ∉ commands log) := by
  unfold Timely
  constructor
  · intro h
    exact ⟨fun pre e' hpre => h pre e' (hpre.trans (List.prefix_append ..)),
      h log e (List.prefix_refl _)⟩
  · intro ⟨hlog, hlast⟩ pre e' hpre
    cases List.prefix_concat_iff.mp hpre with
    | inl heq =>
      obtain ⟨hpre, he⟩ := List.append_inj' heq rfl
      rw [hpre, List.singleton_inj.mp he]
      exact hlast
    | inr hpre => exact hlog pre e' hpre

/-- Calls that allocate nothing do not matter for the timing. -/
theorem timely_append_iff (hcalls : allocatedNumbers calls = []) :
    Timely (log ++ calls) ↔ Timely log := by
  induction calls using List.reverseRecOn with
  | nil => rw [List.append_nil]
  | append_singleton calls e ih =>
    rw [allocatedNumbers_append, List.append_eq_nil_iff] at hcalls
    have he : (allocatedNumber e).isSome = false := by
      have hlast : [e].filterMap allocatedNumber = [] := hcalls.2
      cases h : allocatedNumber e with
      | none => rfl
      | some n => simp [h] at hlast
    rw [← List.append_assoc, timely_concat_iff, ih hcalls.1]
    simp [he]

/-- A log without calls is timely. -/
theorem timely_nil : Timely [] := fun pre e hpre => by simp at hpre

end

/-! ### One turn of the second loop -/

/-- The provider's answer to the next call. -/
def answer (w : World) : Bool := w.outcomes.headD true

/-- The status of a slot after a call with the answer. -/
def statusAfter (setOk : Bool) : SlotSyncStatus := if setOk then .synced else .error

/-- The listed slots with a user have their rows at their numbers. -/
def Known (door : String) (slots : List HardwareSlot) (db : Db) : Prop :=
  ∀ s ∈ slots, HasUser s →
    ∃ r, getSlotAsync db door s.slotNumber = some r ∧ r.id = s.id ∧ r.userId = s.userId

/-- The door has the row at the number now, and its other rows are as before. -/
def PutAt (door : String) (n : Int) (r : HardwareSlot) (db db' : Db) : Prop :=
  ∀ n', getSlotAsync db' door n' = if n' = n then some r else getSlotAsync db door n'

/-- What the second loop can do for a desired pair: nothing, program a slot of the list again,
or allocate a number that the list does not have. -/
inductive Turn (door : String) (slots : List HardwareSlot) (d : User × Credential) (w : World) :
    List HardwareSlot → Log → World → Prop
  | keep : Turn door slots d w slots [] w
  | program (t r : HardwareSlot) (calls : Log) (w' : World) (hmem : t ∈ slots)
      (huser : t.userId = some d.1.id) (hr : getSlotAsync w.db door t.slotNumber = some r)
      (hput : PutAt door t.slotNumber (withStatus (statusAfter (answer w)) r) w.db w'.db)
      (hframed : Framed w.db w'.db) (hcalls : allocatedNumbers calls = [])
      (hcommands : commands calls = [(.set t.slotNumber, answer w)]) :
      Turn door slots d w slots calls w'
  | allocate (n : Int) (a : HardwareSlot) (calls : Log) (w' : World)
      (hfree : freeSlotNumber slots = some n) (huser : a.userId = some d.1.id)
      (hcredential : a.credentialId = some d.2.id) (hslot : a.slotNumber = n)
      (hput : PutAt door n (withStatus (statusAfter (answer w)) a) w.db w'.db)
      (hframed : Framed w.db w'.db) (hcalls : allocatedNumbers calls = [])
      (hcommands : commands calls = [(.set n, answer w)]) :
      Turn door slots d w (if answer w then slots ++ [a] else slots)
        ((.allocateSlotAsync door d.1.id d.2.id n, w) :: calls) w'

/-- The two status updates of a turn are one update. -/
theorem updateStatus_updateStatus (id : String) (status status' : SlotSyncStatus) (db : Db) :
    HardwareSlotRepository.updateSlotSyncStatusAsync id status'
        (HardwareSlotRepository.updateSlotSyncStatusAsync id status db)
      = HardwareSlotRepository.updateSlotSyncStatusAsync id status' db :=
  updateWhere_updateWhere_id

/-- A new status is put at the place of its row. -/
theorem putAt_updateStatus {door : String} {n : Int} {r : HardwareSlot} {db : Db}
    (hr : getSlotAsync db door n = some r) (status : SlotSyncStatus) :
    PutAt door n (withStatus status r) db
      (HardwareSlotRepository.updateSlotSyncStatusAsync r.id status db) := by
  intro n'
  obtain ⟨hmem, rfl, rfl⟩ := getSlotAsync_eq_some_iff.mp hr
  refine (getSlotAsync_updateWhere_id hmem r.accessPointId n').trans ?_
  simp only [true_and]
  rfl

section
variable [Host] {accessPoint : AccessPoint} {user : User} {cred : Credential}
  {slots : List HardwareSlot} {w w' : World}

/-- The calls for an allocated slot: it is programmed, and listed if the lock took the code. -/
def programAllocated (slots : List HardwareSlot) (a : HardwareSlot) (n : Int) (pin name : String) :
    SlotCalls (List HardwareSlot) := do
  updateSlotSyncStatusAsync a.id .adding
  let setOk ← setSlotCodeAsync n pin name
  if setOk then
    updateSlotSyncStatusAsync a.id .synced
    return slots ++ [a]
  else
    updateSlotSyncStatusAsync a.id .error
    return slots

/-- What `programAllocated` does after an allocation: it writes the code once, marks the row as
`Synced` or as `Error` by the answer, and lists the row only when the write has succeeded. -/
theorem programAllocated_spec (slots : List HardwareSlot) (a : HardwareSlot) (n : Int)
    (pin name : String) (w : World) :
    ∃ w', (Calls.run perform (programAllocated slots a n pin name)).exec w
        = (.ok (if answer w then slots ++ [a] else slots), w')
      ∧ w'.db = HardwareSlotRepository.updateSlotSyncStatusAsync a.id (statusAfter (answer w)) w.db
      ∧ commands (Calls.made perform (programAllocated slots a n pin name) w)
        = [(.set n, answer w)]
      ∧ allocatedNumbers (Calls.made perform (programAllocated slots a n pin name) w) = [] := by
  obtain ⟨db, lock, outcomes⟩ := w
  cases outcomes with
  | nil => exact ⟨_, rfl, updateStatus_updateStatus .., rfl, rfl⟩
  | cons setOk outcomes =>
    cases setOk with
    | true => exact ⟨_, rfl, updateStatus_updateStatus .., rfl, rfl⟩
    | false => exact ⟨_, rfl, updateStatus_updateStatus .., rfl, rfl⟩

/-- For a stored door, the body of the second loop returns, and what it does is a `Turn`. -/
theorem addOrUpdate_turn (hid : user.id ≠ "") (hdoor : accessPoint.id ∈ w.db.accessPoints.keys)
    (huser : user.id ∈ w.db.users.keys) (hcred : cred.id ∈ w.db.credentials.keys)
    (hknown : Known accessPoint.id slots w.db) :
    ∃ slots' w', (Calls.run perform (addOrUpdate accessPoint slots (user, cred))).exec w
        = (.ok slots', w')
      ∧ Turn accessPoint.id slots (user, cred) w slots'
        (Calls.made perform (addOrUpdate accessPoint slots (user, cred)) w) w' := by
  unfold SlotCalls.addOrUpdate
  dsimp only
  cases hfind : slots.find? (holds user cred) with
  | some t =>
    dsimp only
    -- The slot of the pair is known: only one that is not synced yet is written to the lock.
    by_cases hstatus : t.syncStatus ≠ .synced
    · rw [if_pos hstatus]
      have hmem : t ∈ slots := List.mem_of_find?_eq_some hfind
      have hholds : t.userId = some user.id ∧ t.credentialId = some cred.id := by
        simpa [holds] using List.find?_some hfind
      obtain ⟨r, hr, hrid, -⟩ := hknown t hmem (hasUser_of_userId hholds.1 hid)
      have hput := putAt_updateStatus hr (statusAfter (answer w))
      rw [hrid, ← updateStatus_updateStatus t.id .adding] at hput
      exact ⟨_, _, rfl, Turn.program t r _ _ hmem hholds.1 hr hput rfl rfl rfl⟩
    · rw [if_neg hstatus]
      exact ⟨_, _, rfl, Turn.keep⟩
  | none =>
    dsimp only
    -- The pair has no slot yet: without a free number the loop goes on to the next pair.
    cases hfree : HardwareSlotSyncWorker.freeSlotNumber slots with
    | none => exact ⟨_, _, rfl, Turn.keep⟩
    | some n =>
      dsimp only
      obtain ⟨hardwareSlots, a, hexec, hauser, hacred, -, hslots⟩ :=
        exec_allocateSlotAsync_of_stored hdoor huser hcred n
      have hallocate :
          (Calls.run perform (allocateSlotAsync accessPoint.id user.id cred.id n)).exec w
          = (.ok (some a), { w with db := { w.db with hardwareSlots } }) := by
        rw [run_allocateSlotAsync]
        exact hexec
      have hmade : Calls.made perform (allocateSlotAsync accessPoint.id user.id cred.id n) w
          = [(.allocateSlotAsync accessPoint.id user.id cred.id n, w)] :=
        Calls.made_call_of_ok (show (perform (.allocateSlotAsync _ _ _ n)).exec w = _ from hexec)
      obtain ⟨w', hprogram, hdb, hcommands, hcalls⟩ := programAllocated_spec slots a n
        (pinCode cred) user.name { w with db := { w.db with hardwareSlots } }
      have ha := hslots accessPoint.id n
      rw [if_pos ⟨rfl, rfl⟩] at ha
      have hput : PutAt accessPoint.id n (withStatus (statusAfter (answer w)) a) w.db w'.db := by
        intro n'
        rw [hdb]
        refine (putAt_updateStatus ha (statusAfter (answer w)) n').trans ?_
        by_cases hn : n' = n
        · rw [if_pos hn, if_pos hn]
        · rw [if_neg hn, if_neg hn, hslots, if_neg fun h => hn h.2]
      -- The allocated row joins the list of the pass only when the lock has accepted the code.
      refine ⟨if answer w then slots ++ [a] else slots, w', ?_, ?_⟩
      · rw [Calls.run_bind, exec_bind_of_ok hallocate]
        exact hprogram
      · rw [Calls.made_bind_of_ok hallocate, hmade, List.singleton_append]
        refine Turn.allocate n a _ w' hfree hauser hacred (getSlotAsync_eq_some_iff.mp ha).2.2 hput
          ?_ hcalls hcommands
        rw [hdb]
        rfl

end

/-! ### The invariant -/

/-- The numbers of the listed slots with a user. -/
def occupied (slots : List HardwareSlot) : List Int :=
  (slots.filter fun s => !isNullOrEmpty s.userId).map HardwareSlot.slotNumber

/-- A number is occupied when a listed row with a user has it. -/
theorem mem_occupied {slots : List HardwareSlot} {n : Int} :
    n ∈ occupied slots ↔ ∃ s ∈ slots, HasUser s ∧ s.slotNumber = n := by
  simp [occupied, HasUser, and_assoc]

/-- All allocations so far were timely, and the allocated users have their rows. Either the lock
has taken all codes, and the list has the numbers, or it refused the last one, and the number
looks free. -/
structure Good (door : String) (done : List (User × Credential)) (slots : List HardwareSlot)
    (log : Log) (w : World) : Prop where
  timely : Timely log
  different : (allocatedNumbers log).Nodup
  own : ∀ e ∈ log, ∀ n, allocatedNumber e = some n → ∃ d ∈ done,
    e.1 = .allocateSlotAsync door d.1.id d.2.id n ∧ OwnRow door d.1.id d.2.id n log w
  sets : ∀ n b, (LockCommand.set n, b) ∈ commands log →
    n ∈ occupied slots ∨ n ∈ allocatedNumbers log
  current : (∀ n ∈ allocatedNumbers log, (LockCommand.set n, false) ∉ commands log
      ∧ n ∈ occupied slots)
    ∨ ∃ n ∈ allocatedNumbers log, (LockCommand.set n, false) ∈ commands log
      ∧ freeSlotNumber slots = some n

/-- The invariant of the second loop, with the desired pairs that are done. -/
structure Progress (db0 : Db) (door : String) (done : List (User × Credential))
    (slots : List HardwareSlot) (log : Log) (w : World) : Prop where
  framed : Framed db0 w.db
  known : Known door slots w.db
  inRange : ∀ n ∈ allocatedNumbers log, 1 ≤ n ∧ n ≤ 30
  mode : Good door done slots log w ∨ ¬ Timely log ∧ ¬ (allocatedNumbers log).Nodup

section
variable {door userId credentialId : String} {slots : List HardwareSlot} {log calls : Log}
  {w w' : World} {done : List (User × Credential)} {d : User × Credential} {db0 : Db} {n k : Int}
  {r : HardwareSlot} {setOk : Bool}

/-- Frames compose. -/
theorem framed_trans {db1 db2 : Db} (h : Framed db0 db1) (h' : Framed db1 db2) :
    Framed db0 db2 := by
  unfold Framed at *
  rw [h', h]

/-- The list of the pass stays right after a write of a row that it does not know, or knows under
the same id and user. -/
theorem Known.put (h : Known door slots w.db) (hput : PutAt door k r w.db w'.db)
    (hr : ∀ s ∈ slots, HasUser s → s.slotNumber = k → r.id = s.id ∧ r.userId = s.userId) :
    Known door slots w'.db := by
  intro s hs huser
  rw [hput]
  split
  · rename_i hk
    exact ⟨r, rfl, hr s hs huser hk⟩
  · exact h s hs huser

/-- A turn for another number leaves the row. -/
theorem OwnRow.put (h : OwnRow door userId credentialId n log w)
    (hput : PutAt door k r w.db w'.db) (hne : n ≠ k)
    (hcommands : commands calls = [(.set k, setOk)]) :
    OwnRow door userId credentialId n (log ++ calls) w' := by
  obtain ⟨r', hr', huser, hcredential, ok, hok, hstatus⟩ := h
  refine ⟨r', by rw [hput, if_neg hne, hr'], huser, hcredential, ok, fun b => ?_, hstatus⟩
  rw [commands_append, hcommands, List.mem_append, hok]
  simp [hne]

/-- The row of a new allocation. -/
theorem OwnRow.new (hput : PutAt door k (withStatus (statusAfter setOk) r) w.db w'.db)
    (huser : r.userId = some userId) (hcredential : r.credentialId = some credentialId)
    (hfresh : ∀ b, (LockCommand.set k, b) ∉ commands log)
    (hcommands : commands calls = [(.set k, setOk)]) :
    OwnRow door userId credentialId k (log ++ calls) w' := by
  refine ⟨withStatus (statusAfter setOk) r, by rw [hput, if_pos rfl], huser, hcredential, setOk,
    fun b => ?_, rfl⟩
  rw [commands_append, hcommands, List.mem_append]
  simp [hfresh b]

/-- A number that was allocated twice stays so in a longer log. -/
theorem not_nodup_append (h : ¬ (allocatedNumbers log).Nodup) (calls : Log) :
    ¬ (allocatedNumbers (log ++ calls)).Nodup := by
  rw [allocatedNumbers_append]
  exact fun hnodup => h hnodup.of_append_left

/-- A number that was allocated too late stays so in a longer log. -/
theorem not_timely_append (h : ¬ Timely log) (calls : Log) : ¬ Timely (log ++ calls) :=
  fun htimely => h fun pre e hpre => htimely pre e (hpre.trans (List.prefix_append ..))

/-- The number of an allocation is the first of the log. -/
theorem allocatedNumbers_cons (userId credentialId : String) (n : Int) (w : World) (calls : Log) :
    allocatedNumbers ((.allocateSlotAsync door userId credentialId n, w) :: calls)
      = n :: allocatedNumbers calls := rfl

/-- An allocation is no command. -/
theorem commands_cons (userId credentialId : String) (n : Int) (w : World) (calls : Log) :
    commands ((.allocateSlotAsync door userId credentialId n, w) :: calls) = commands calls := rfl

/-- The free number of a list is in the range, and no slot of the list with a user has it. -/
theorem freeSlotNumber_spec (h : freeSlotNumber slots = some n) :
    1 ≤ n ∧ n ≤ 30 ∧ n ∉ occupied slots := by
  obtain ⟨hlow, hhigh, hfree⟩ := FirstFree.firstFree_spec h
  exact ⟨hlow, by push_cast at hhigh; omega, hfree⟩

/-- A turn that does nothing. -/
theorem Progress.keep (h : Progress db0 door done slots log w) :
    Progress db0 door (done ++ [d]) slots log w where
  framed := h.framed
  known := h.known
  inRange := h.inRange
  mode := h.mode.imp_left fun hgood =>
    ⟨hgood.timely, hgood.different, fun e he n hn => by
      obtain ⟨d', hd', hcall, hrow⟩ := hgood.own e he n hn
      exact ⟨d', List.mem_append_left _ hd', hcall, hrow⟩, hgood.sets, hgood.current⟩

/-- The slot of a desired pair that is done before is no allocated one: its row has another
user. -/
theorem Good.slot_ne (h : Good door done slots log w) (hr : getSlotAsync w.db door k = some r)
    (huser : r.userId = some d.1.id) (hnew : ∀ d' ∈ done, d'.1.id ≠ d.1.id) {e : SlotCall × World}
    (he : e ∈ log) (hn : allocatedNumber e = some n) : n ≠ k := by
  intro hnk
  obtain ⟨d', hd', -, r', hr', huser', -⟩ := h.own e he n hn
  rw [hnk, hr] at hr'
  cases hr'
  exact hnew d' hd' (Option.some.inj (huser'.symm.trans huser))

/-- A number is allocated when a call of the log allocates it. -/
theorem mem_allocatedNumbers_iff :
    n ∈ allocatedNumbers log ↔ ∃ e ∈ log, allocatedNumber e = some n := List.mem_filterMap

/-- Calls that allocate nothing hold no allocation. -/
theorem not_mem_of_noAllocation (hcalls : allocatedNumbers calls = []) {e : SlotCall × World}
    (hn : allocatedNumber e = some n) : e ∉ calls := by
  intro he
  have hmem : n ∈ allocatedNumbers calls := mem_allocatedNumbers_iff.mpr ⟨e, he, hn⟩
  rw [hcalls] at hmem
  cases hmem

/-- What the rows and the commands of a log show of other numbers stays. -/
theorem Good.own_append (h : Good door done slots log w) (hput : PutAt door k r w.db w'.db)
    (hcommands : commands calls = [(.set k, setOk)]) (hother : ∀ n ∈ allocatedNumbers log, n ≠ k)
    {e : SlotCall × World} (he : e ∈ log) (hn : allocatedNumber e = some n) :
    ∃ d' ∈ done ++ [d], e.1 = .allocateSlotAsync door d'.1.id d'.2.id n
      ∧ OwnRow door d'.1.id d'.2.id n (log ++ calls) w' := by
  obtain ⟨d', hd', hcall, hrow⟩ := h.own e he n hn
  refine ⟨d', List.mem_append_left _ hd', hcall, hrow.put hput ?_ hcommands⟩
  exact hother n (mem_allocatedNumbers_iff.mpr ⟨e, he, hn⟩)

/-- The commands of a log to which one more write of a code is added. -/
theorem mem_commands_append_iff (hcommands : commands calls = [(.set k, setOk)]) (b : Bool) :
    (LockCommand.set n, b) ∈ commands (log ++ calls)
      ↔ (LockCommand.set n, b) ∈ commands log ∨ n = k ∧ b = setOk := by
  rw [commands_append, hcommands, List.mem_append]
  simp

/-- The good case of a turn that programs a listed slot again. -/
theorem Good.program (h : Good door done slots log w) {t : HardwareSlot} (hmem : t ∈ slots)
    (hhas : HasUser t) (hother : ∀ n ∈ allocatedNumbers log, n ≠ t.slotNumber)
    (hput : PutAt door t.slotNumber r w.db w'.db) (hcalls : allocatedNumbers calls = [])
    (hcommands : commands calls = [(.set t.slotNumber, setOk)]) :
    Good door (done ++ [d]) slots (log ++ calls) w' := by
  have hnumbers : allocatedNumbers (log ++ calls) = allocatedNumbers log := by
    rw [allocatedNumbers_append, hcalls, List.append_nil]
  have hsame : ∀ n ∈ allocatedNumbers log,
      ((LockCommand.set n, false) ∈ commands (log ++ calls)
        ↔ (LockCommand.set n, false) ∈ commands log) := by
    intro n hn
    rw [mem_commands_append_iff hcommands]
    exact or_iff_left fun hk => hother n hn hk.1
  constructor
  case timely => exact (timely_append_iff hcalls).mpr h.timely
  case different => rw [hnumbers]; exact h.different
  case own =>
    intro e he n hn
    cases List.mem_append.mp he with
    | inl he => exact h.own_append hput hcommands hother he hn
    | inr he => exact absurd he (not_mem_of_noAllocation hcalls hn)
  case sets =>
    -- The programmed number is that of a listed slot.
    intro n b hb
    rw [hnumbers]
    cases (mem_commands_append_iff hcommands b).mp hb with
    | inl hb => exact h.sets n b hb
    | inr hk => exact Or.inl (mem_occupied.mpr ⟨t, hmem, hhas, hk.1.symm⟩)
  case current =>
    rw [hnumbers]
    cases h.current with
    | inl hnone => exact Or.inl fun n hn => ⟨mt (hsame n hn).mp (hnone n hn).1, (hnone n hn).2⟩
    | inr hfailed =>
      obtain ⟨n, hn, hset, hfree⟩ := hfailed
      exact Or.inr ⟨n, hn, (hsame n hn).mpr hset, hfree⟩

/-- A turn that programs a listed slot again. -/
theorem Progress.program (h : Progress db0 door done slots log w) {t : HardwareSlot}
    (hnew : ∀ d' ∈ done, d'.1.id ≠ d.1.id) (hid : d.1.id ≠ "") (hmem : t ∈ slots)
    (huser : t.userId = some d.1.id) (hr : getSlotAsync w.db door t.slotNumber = some r)
    (hput : PutAt door t.slotNumber (withStatus (statusAfter setOk) r) w.db w'.db)
    (hframed : Framed w.db w'.db) (hcalls : allocatedNumbers calls = [])
    (hcommands : commands calls = [(.set t.slotNumber, setOk)]) :
    Progress db0 door (done ++ [d]) slots (log ++ calls) w' := by
  have hhas := hasUser_of_userId huser hid
  -- The row at the number is the row of the listed slot.
  have hknown : ∀ s ∈ slots, HasUser s → s.slotNumber = t.slotNumber →
      r.id = s.id ∧ r.userId = s.userId := by
    intro s hs hsuser hslot
    obtain ⟨r', hr', hrid, hruser⟩ := h.known s hs hsuser
    rw [hslot, hr] at hr'
    cases hr'
    exact ⟨hrid, hruser⟩
  constructor
  case framed => exact framed_trans h.framed hframed
  case known => exact h.known.put hput hknown
  case inRange =>
    rw [allocatedNumbers_append, hcalls, List.append_nil]
    exact h.inRange
  case mode =>
    cases h.mode with
    | inr hbad => exact Or.inr ⟨not_timely_append hbad.1 _, not_nodup_append hbad.2 _⟩
    | inl hgood =>
      have hruser : r.userId = some d.1.id := (hknown t hmem hhas rfl).2.trans huser
      have hother : ∀ n ∈ allocatedNumbers log, n ≠ t.slotNumber := by
        intro n hn
        obtain ⟨e, he, hn⟩ := mem_allocatedNumbers_iff.mp hn
        exact hgood.slot_ne hr hruser hnew he hn
      exact Or.inl (hgood.program hmem hhas hother hput hcalls hcommands)

/-- An allocation with calls that allocate nothing adds its number at the end. -/
theorem allocatedNumbers_allocate (hcalls : allocatedNumbers calls = [])
    (userId credentialId : String) (n : Int) (w0 : World) :
    allocatedNumbers (log ++ (.allocateSlotAsync door userId credentialId n, w0) :: calls)
      = allocatedNumbers log ++ [n] := by
  rw [allocatedNumbers_append, allocatedNumbers_cons, hcalls]

/-- An allocation is timely when the lock has taken the codes of the numbers before it. -/
theorem timely_allocate_iff (hcalls : allocatedNumbers calls = []) (userId credentialId : String)
    (n : Int) (w0 : World) :
    Timely (log ++ (.allocateSlotAsync door userId credentialId n, w0) :: calls)
      ↔ Timely log ∧ ∀ m ∈ allocatedNumbers log, (LockCommand.set m, false) ∉ commands log := by
  -- Of the new calls only the allocation can be untimely.
  rw [List.append_cons, timely_append_iff hcalls, timely_concat_iff]
  exact and_congr_right fun _ => ⟨fun h => h rfl, fun h _ => h⟩

/-- The list after an allocation. -/
def listedAfter (slots : List HardwareSlot) (a : HardwareSlot) (setOk : Bool) : List HardwareSlot :=
  if setOk then slots ++ [a] else slots

/-- A number that is occupied in the list stays so after an allocation. -/
theorem mem_occupied_listedAfter {a : HardwareSlot} (hn : n ∈ occupied slots) (setOk : Bool) :
    n ∈ occupied (listedAfter slots a setOk) := by
  cases setOk with
  | true =>
    obtain ⟨s, hs, huser, hslot⟩ := mem_occupied.mp hn
    exact mem_occupied.mpr ⟨s, List.mem_append_left _ hs, huser, hslot⟩
  | false => exact hn

/-- The list after an allocation is right again. The new row is on it when its code could be
written, and otherwise its status keeps it out. -/
theorem Known.listedAfter {a : HardwareSlot} (h : Known door slots w'.db)
    (hput : PutAt door a.slotNumber (withStatus (statusAfter setOk) a) w.db w'.db) :
    Known door (listedAfter slots a setOk) w'.db := by
  cases setOk with
  | false => exact h
  | true =>
    intro s hs huser
    cases List.mem_append.mp hs with
    | inl hs => exact h s hs huser
    | inr hs =>
      rw [List.mem_singleton.mp hs]
      exact ⟨withStatus (statusAfter true) a, by rw [hput, if_pos rfl], rfl, rfl⟩

/-- The good case of an allocation: the lock has taken all codes so far, and the number is new. -/
theorem Good.allocate (h : Good door done slots log w) {a : HardwareSlot} {w0 : World}
    (hnone : ∀ m ∈ allocatedNumbers log,
      (LockCommand.set m, false) ∉ commands log ∧ m ∈ occupied slots)
    (hid : d.1.id ≠ "") (hfree : freeSlotNumber slots = some n) (huser : a.userId = some d.1.id)
    (hcredential : a.credentialId = some d.2.id) (hslot : a.slotNumber = n)
    (hput : PutAt door n (withStatus (statusAfter setOk) a) w.db w'.db)
    (hcalls : allocatedNumbers calls = []) (hcommands : commands calls = [(.set n, setOk)]) :
    Good door (done ++ [d]) (listedAfter slots a setOk)
      (log ++ (.allocateSlotAsync door d.1.id d.2.id n, w0) :: calls) w' := by
  have hnumbers := @allocatedNumbers_allocate door log calls hcalls d.1.id d.2.id n w0
  -- The free number is not listed, so it is none of the numbers before it.
  have hnot : n ∉ occupied slots := (freeSlotNumber_spec hfree).2.2
  have hfresh : n ∉ allocatedNumbers log := fun hn => hnot (hnone n hn).2
  have hother : ∀ m ∈ allocatedNumbers log, m ≠ n := fun m hm hmn => hfresh (hmn ▸ hm)
  have hunset : ∀ b, (LockCommand.set n, b) ∉ commands log := fun b hb =>
    (h.sets n b hb).elim hnot hfresh
  have hcommands' : commands ((.allocateSlotAsync door d.1.id d.2.id n, w0) :: calls)
      = [(.set n, setOk)] := by rw [commands_cons, hcommands]
  have hlast : n ∈ allocatedNumbers log ++ [n] :=
    List.mem_append_right _ (List.mem_singleton.mpr rfl)
  constructor
  case timely =>
    rw [timely_allocate_iff hcalls]
    exact ⟨h.timely, fun m hm => (hnone m hm).1⟩
  case different =>
    rw [hnumbers]
    exact h.different.append (List.nodup_singleton n) (by simpa using hfresh)
  case own =>
    intro e he m hm
    cases List.mem_append.mp he with
    | inl he => exact h.own_append hput hcommands' hother he hm
    | inr he =>
      cases List.mem_cons.mp he with
      | inl he =>
        -- The new allocation itself.
        subst he
        cases hm
        exact ⟨d, List.mem_append_right _ (List.mem_singleton.mpr rfl), rfl,
          OwnRow.new hput huser hcredential hunset hcommands'⟩
      | inr he => exact absurd he (not_mem_of_noAllocation hcalls hm)
  case sets =>
    intro m b hb
    rw [hnumbers]
    cases (mem_commands_append_iff hcommands' b).mp hb with
    | inl hb =>
      cases h.sets m b hb with
      | inl hoccupied => exact Or.inl (mem_occupied_listedAfter hoccupied setOk)
      | inr hallocated => exact Or.inr (List.mem_append_left _ hallocated)
    | inr hk => rw [hk.1]; exact Or.inr hlast
  case current =>
    rw [hnumbers]
    cases setOk with
    | true =>
      refine Or.inl fun m hm => ?_
      rw [mem_commands_append_iff hcommands']
      cases List.mem_append.mp hm with
      | inl hm => exact ⟨by simp [(hnone m hm).1], mem_occupied_listedAfter (hnone m hm).2 true⟩
      | inr hm =>
        cases List.mem_singleton.mp hm
        refine ⟨by simp [hunset], mem_occupied.mpr ⟨a, ?_, hasUser_of_userId huser hid, hslot⟩⟩
        exact List.mem_append_right _ (List.mem_singleton.mpr rfl)
    | false =>
      -- The lock has refused the code, and the number is not listed.
      exact Or.inr ⟨n, hlast, (mem_commands_append_iff hcommands' false).mpr (Or.inr ⟨rfl, rfl⟩),
        hfree⟩

/-- A turn that allocates a number. -/
theorem Progress.allocate (h : Progress db0 door done slots log w) {a : HardwareSlot} {w0 : World}
    (hid : d.1.id ≠ "") (hfree : freeSlotNumber slots = some n) (huser : a.userId = some d.1.id)
    (hcredential : a.credentialId = some d.2.id) (hslot : a.slotNumber = n)
    (hput : PutAt door n (withStatus (statusAfter setOk) a) w.db w'.db)
    (hframed : Framed w.db w'.db) (hcalls : allocatedNumbers calls = [])
    (hcommands : commands calls = [(.set n, setOk)]) :
    Progress db0 door (done ++ [d]) (listedAfter slots a setOk)
      (log ++ (.allocateSlotAsync door d.1.id d.2.id n, w0) :: calls) w' := by
  obtain ⟨hlow, hhigh, hnot⟩ := freeSlotNumber_spec hfree
  have hnumbers := @allocatedNumbers_allocate door log calls hcalls d.1.id d.2.id n w0
  have hslots : Known door slots w'.db := h.known.put hput fun s hs hsuser hsn =>
    absurd (mem_occupied.mpr ⟨s, hs, hsuser, hsn⟩) hnot
  constructor
  case framed => exact framed_trans h.framed hframed
  case known => exact hslots.listedAfter (by rw [hslot]; exact hput)
  case inRange =>
    rw [hnumbers]
    intro m hm
    cases List.mem_append.mp hm with
    | inl hm => exact h.inRange m hm
    | inr hm =>
      rw [List.mem_singleton.mp hm]
      exact ⟨hlow, hhigh⟩
  case mode =>
    cases h.mode with
    | inr hbad => exact Or.inr ⟨not_timely_append hbad.1 _, not_nodup_append hbad.2 _⟩
    | inl hgood =>
      cases hgood.current with
      | inl hnone =>
        exact Or.inl (hgood.allocate hnone hid hfree huser hcredential hslot hput hcalls hcommands)
      | inr hfailed =>
        -- The number of the refused code is given away again.
        obtain ⟨m, hm, hset, hsame⟩ := hfailed
        cases hfree.symm.trans hsame
        rw [timely_allocate_iff hcalls, hnumbers]
        refine Or.inr ⟨fun htimely => htimely.2 n hm hset, fun hnodup => ?_⟩
        exact (List.nodup_append.mp hnodup).2.2 n hm n (List.mem_singleton.mpr rfl) rfl

end

/-! ### The second loop -/

section
variable [Host] {accessPoint : AccessPoint} {db0 : Db} {done : List (User × Credential)}
  {d : User × Credential} {E : Log → World → Prop}

/-- A turn keeps the invariant. -/
theorem logged_addOrUpdate_progress (hdoor : accessPoint.id ∈ db0.accessPoints.keys)
    (hid : d.1.id ≠ "") (huser : d.1.id ∈ db0.users.keys) (hcred : d.2.id ∈ db0.credentials.keys)
    (hnew : ∀ d' ∈ done, d'.1.id ≠ d.1.id) (slots : List HardwareSlot) :
    Calls.Logged perform (Progress db0 accessPoint.id done slots)
      (SlotCalls.addOrUpdate accessPoint slots d)
      (Progress db0 accessPoint.id (done ++ [d])) E := by
  have hturn : ∀ {log w}, Progress db0 accessPoint.id done slots log w → ∃ slots' w',
      (Calls.run perform (addOrUpdate accessPoint slots d)).exec w = (.ok slots', w')
        ∧ Turn accessPoint.id slots d w slots'
          (Calls.made perform (addOrUpdate accessPoint slots d) w) w' := by
    intro log w h
    have hframed := h.framed
    unfold Framed at hframed
    exact addOrUpdate_turn hid (by rw [hframed]; exact hdoor) (by rw [hframed]; exact huser)
      (by rw [hframed]; exact hcred) h.known
  constructor
  · intro log w a s' h hrun
    obtain ⟨slots', w', hexec, turn⟩ := hturn h
    cases hexec.symm.trans hrun
    generalize Calls.made perform (SlotCalls.addOrUpdate accessPoint slots d) w = calls at turn
    cases turn with
    | keep =>
      rw [List.append_nil]
      exact h.keep
    | program t r _ _ hmem huser hr hput hframed hcalls hcommands =>
      exact h.program hnew hid hmem huser hr hput hframed hcalls hcommands
    | allocate n a calls _ hfree huser hcredential hslot hput hframed hcalls hcommands =>
      exact h.allocate hid hfree huser hcredential hslot hput hframed hcalls hcommands
  · intro log w e w' h hrun
    obtain ⟨slots', w'', hexec, -⟩ := hturn h
    cases hexec.symm.trans hrun

/-- At the end, the two statements are both true or both false. -/
theorem Progress.ownSlots_iff {door : String} {slots : List HardwareSlot} {log : Log} {w : World}
    (h : Progress db0 door done slots log w) :
    OwnSlots door log w ↔ Timely log := by
  cases h.mode with
  | inr hbad => exact iff_of_false (fun hown => hbad.2 hown.different) hbad.1
  | inl hgood =>
    refine iff_of_true ⟨hgood.different, h.inRange, fun e he u c n hcall _ => ?_⟩ hgood.timely
    have hn : allocatedNumber e = some n := by
      obtain ⟨call, w0⟩ := e
      subst hcall
      rfl
    obtain ⟨d, -, hcall', hrow⟩ := hgood.own e he n hn
    cases hcall.symm.trans hcall'
    exact hrow

/-- The pass has programmed and allocated nothing yet. -/
structure Quiet (db0 : Db) (log : Log) (w : World) : Prop where
  noSet : ∀ n b, (LockCommand.set n, b) ∉ commands log
  noAllocation : allocatedNumbers log = []
  framed : Framed db0 w.db

omit [Host] in
/-- A quiet pass leaves the rows that are apart from the door. -/
theorem Quiet.apart (t : HardwareSlot) : StandingSlots.Apart t (Quiet db0) where
  updateStatus log w status h :=
    ⟨by simpa [command] using h.noSet, by rw [allocatedNumbers_append, h.noAllocation]; rfl,
      h.framed.update⟩
  clearCode log w h :=
    ⟨by simpa [command] using h.noSet, by rw [allocatedNumbers_append, h.noAllocation]; rfl,
      h.framed⟩
  clear log w h :=
    ⟨by simpa [command] using h.noSet, by rw [allocatedNumbers_append, h.noAllocation]; rfl,
      h.framed.update⟩

omit [Host] in
/-- A log without an allocation is timely. -/
theorem timely_of_noAllocation {log : Log} (h : allocatedNumbers log = []) : Timely log := by
  have hiff : Timely ([] ++ log) ↔ Timely [] := timely_append_iff h
  exact hiff.mpr timely_nil

/-- The loop starts with the stored rows. -/
theorem Quiet.progress {door : String} {log : Log} {w : World} (h : Quiet db0 log w) :
    Progress db0 door [] (HardwareSlotRepository.getSlotsForDoorAsync w.db door) log w := by
  refine ⟨h.framed, fun s hs _ => ?_, by simp [h.noAllocation], Or.inl
    ⟨timely_of_noAllocation h.noAllocation, by simp [h.noAllocation], fun e he n hn => ?_,
      fun n b hb => absurd hb (h.noSet n b), Or.inl (by simp [h.noAllocation])⟩⟩
  · obtain ⟨hs, hdoor⟩ := mem_getSlotsForDoorAsync.mp hs
    exact ⟨s, getSlotAsync_eq_some_iff.mpr ⟨hs, hdoor, rfl⟩, rfl, rfl⟩
  · have hmem := mem_allocatedNumbers_iff.mpr ⟨e, he, hn⟩
    rw [h.noAllocation] at hmem
    cases hmem

/-- At a door that is not stored, nothing is allocated. -/
structure Unstored (db0 : Db) (log : Log) (w : World) : Prop where
  noAllocation : allocatedNumbers log = []
  framed : Framed db0 w.db

/-- The two statements are both true or both false. -/
def Agrees (door : String) (log : Log) (w : World) : Prop := OwnSlots door log w ↔ Timely log

/-- A pass that stores no row agrees with the log, which has allocated nothing. -/
theorem Unstored.agrees {door : String} {log : Log} {w : World} (h : Unstored db0 log w) :
    Agrees door log w := by
  refine iff_of_true ⟨by simp [h.noAllocation], by simp [h.noAllocation],
    fun e he u c n hcall _ => ?_⟩ (timely_of_noAllocation h.noAllocation)
  obtain ⟨call, w0⟩ := e
  subst hcall
  have hmem := mem_allocatedNumbers_iff.mpr ⟨_, he, (rfl : allocatedNumber _ = some n)⟩
  rw [h.noAllocation] at hmem
  cases hmem

/-- The first allocation of a pass at a door that is not stored agrees with the log. -/
theorem Unstored.agrees_allocate {door userId credentialId : String} {log : Log} {w : World}
    {n : Int} (h : Unstored db0 log w) (hdoor : door ∉ db0.accessPoints.keys)
    (hn : 1 ≤ n ∧ n ≤ 30) :
    Agrees door (log ++ [(.allocateSlotAsync door userId credentialId n, w)]) w := by
  have hnumbers : allocatedNumbers (log ++ [(.allocateSlotAsync door userId credentialId n, w)])
      = [n] := by
    rw [allocatedNumbers_append, h.noAllocation]
    rfl
  refine iff_of_true ⟨by simp [hnumbers], by simpa [hnumbers] using hn,
    fun e he u c k hcall hrow => ?_⟩ ?_
  · cases List.mem_append.mp he with
    | inl he =>
      obtain ⟨call, w0⟩ := e
      subst hcall
      have hmem := mem_allocatedNumbers_iff.mpr ⟨_, he, (rfl : allocatedNumber _ = some k)⟩
      rw [h.noAllocation] at hmem
      cases hmem
    | inr he =>
      -- The new call answered no row.
      obtain ⟨a, ha⟩ := hrow
      have hmissing : ¬ (door ∈ w.db.accessPoints.keys ∧ u ∈ w.db.users.keys
          ∧ c ∈ w.db.credentials.keys) := by
        intro hstored
        have hframed := h.framed
        unfold Framed at hframed
        rw [hframed] at hstored
        exact hdoor hstored.1
      rw [List.mem_singleton.mp he] at ha
      rw [show (perform (.allocateSlotAsync door u c k)).exec w = _ from
        exec_allocateSlotAsync_of_missing hmissing k] at ha
      cases ha
  · refine timely_concat_iff.mpr ⟨timely_of_noAllocation h.noAllocation, fun _ m hm => ?_⟩
    rw [h.noAllocation] at hm
    cases hm

/-- The first allocation at a door that is not stored fails, and ends the pass. -/
theorem logged_addOrUpdate_unstored (hdoor : accessPoint.id ∉ db0.accessPoints.keys)
    (slots : List HardwareSlot) :
    Calls.Logged perform (Unstored db0) (SlotCalls.addOrUpdate accessPoint slots d)
      (fun _ => Unstored db0) (Agrees accessPoint.id) := by
  refine StandingSlots.logged_addOrUpdate_of ?_ ?_ fun m hfree => ?_
  · exact StandingSlots.logged_updateStatus fun _ _ h =>
      ⟨by rw [allocatedNumbers_append, h.noAllocation]; rfl, h.framed.update⟩
  · exact StandingSlots.logged_setSlotCode fun _ _ h =>
      ⟨by rw [allocatedNumbers_append, h.noAllocation]; rfl, h.framed⟩
  · obtain ⟨hlow, hhigh, -⟩ := freeSlotNumber_spec hfree
    have hmissing : ∀ {log w}, Unstored db0 log w →
        (perform (.allocateSlotAsync accessPoint.id d.1.id d.2.id m)).exec w
          = (.error .foreignKey, w) := by
      intro log w h
      refine exec_allocateSlotAsync_of_missing (fun hstored => ?_) m
      have hframed := h.framed
      unfold Framed at hframed
      rw [hframed] at hstored
      exact hdoor hstored.1
    refine Calls.Logged.make (fun log w a w' h hw => ?_) fun log w e w' h hw => ?_
    · cases (hmissing h).symm.trans hw
    · cases (hmissing h).symm.trans hw
      exact h.agrees_allocate hdoor ⟨hlow, hhigh⟩

/-- The second loop, from the rows that are read at its start. -/
theorem logged_second_loop_agrees (desired : List (User × Credential))
    (hids : ∀ d ∈ desired, d.1.id ≠ "" ∧ d.1.id ∈ db0.users.keys ∧ d.2.id ∈ db0.credentials.keys)
    (hdifferent : desired.Pairwise fun d d' => d.1.id ≠ d'.1.id) :
    Calls.Logged perform (Quiet db0)
      (do
        let currentSlots ← SlotCalls.getSlotsForDoorAsync accessPoint.id
        discard (desired.foldlM (SlotCalls.addOrUpdate accessPoint) currentSlots))
      (fun _ => Agrees accessPoint.id) (Agrees accessPoint.id) := by
  by_cases hdoor : accessPoint.id ∈ db0.accessPoints.keys
  · refine Calls.Logged.bind (Q := Progress db0 accessPoint.id []) ?_ fun slots => ?_
    · refine Calls.Logged.make (fun log w slots w' h hw => ?_) fun _ _ _ _ _ hw => by cases hw
      cases hw
      have hread : Quiet db0 (log ++ [(.getSlotsForDoorAsync accessPoint.id, w)]) w :=
        ⟨by simpa [command] using h.noSet, by rw [allocatedNumbers_append, h.noAllocation]; rfl,
          h.framed⟩
      exact hread.progress
    · refine Calls.Logged.bind (Q := Progress db0 accessPoint.id desired) ?_ fun _ =>
        Calls.Logged.pure fun _ _ h => h.ownSlots_iff
      refine Calls.Logged.foldlM (J := Progress db0 accessPoint.id) desired [] slots
        fun pre d post slots hsplit => ?_
      obtain ⟨hid, huser, hcred⟩ := hids d (by simp [hsplit])
      refine logged_addOrUpdate_progress hdoor hid huser hcred (fun d' hd' => ?_) slots
      rw [hsplit] at hdifferent
      exact (List.pairwise_append.mp hdifferent).2.2 d' hd' d List.mem_cons_self
  · refine Calls.Logged.bind (Q := fun _ => Unstored db0) ?_ fun slots => ?_
    · refine Calls.Logged.make (fun log w slots w' h hw => ?_) fun _ _ _ _ _ hw => by cases hw
      cases hw
      exact ⟨by rw [allocatedNumbers_append, h.noAllocation]; rfl, h.framed⟩
    · refine Calls.Logged.bind (Q := fun _ => Unstored db0) ?_ fun _ =>
        Calls.Logged.pure fun _ _ h => h.agrees
      exact Calls.Logged.foldlM (J := fun _ _ => Unstored db0) desired [] slots
        fun _ _ _ slots _ => logged_addOrUpdate_unstored hdoor slots

/-! ### The pass -/

/-- Each user is at most once among the desired pairs. -/
theorem desiredAssignments_pairwise (db : Db) (accessPoint : AccessPoint) (now : DateTime) :
    (HardwareSlotSyncWorker.desiredAssignments db accessPoint now).Pairwise
      fun d d' => d.1.id ≠ d'.1.id := by
  have husers : (UserRepository.getAllAsync db).Pairwise fun u u' => u.id ≠ u'.id :=
    List.pairwise_map.mp (UserRepository.getAllAsync_nodup db)
  unfold HardwareSlotSyncWorker.desiredAssignments
  refine List.Pairwise.filterMap _ (fun u u' hne d hd d' hd' => ?_) (husers.filter _)
  have huser : ∀ {v : User} {e : User × Credential}, e ∈ (if (policiesAt
      (AccessPolicyRepository.getByUserIdAsync db v.id)
      (AccessPolicyRepository.getByAccessPointIdAsync db accessPoint.id)).any
        (fun p => p.isEnabled && p.isActiveAt now) then
      ((CredentialRepository.getByUserIdAsync db v.id).find? isPinWithValue).map
        fun pinCred => (v, pinCred)
      else none) → e.1 = v := by
    intro v e he
    split at he
    · obtain ⟨c, -, rfl⟩ := Option.map_eq_some_iff.mp he
      rfl
    · cases he
  rw [huser hd, huser hd']
  exact hne

/-- A whole pass agrees with its log, for every answer of the provider. The rules of `Calls` take
the lemmas about single calls to the loops. -/
theorem logged_pass_agrees {capabilities : LockCapabilities} {now : DateTime}
    (hids : ∀ u ∈ db0.users.rows, u.id ≠ "") :
    Calls.Logged perform (Quiet db0)
      (SlotCalls.reconcileDoorSlotsAsync accessPoint capabilities now)
      (fun _ => Agrees accessPoint.id) (Agrees accessPoint.id) := by
  unfold SlotCalls.reconcileDoorSlotsAsync
  refine Calls.Logged.ite (fun _ => ?_) fun _ => Calls.Logged.pure fun log w h =>
    Unstored.agrees ⟨h.noAllocation, h.framed⟩
  refine Calls.Logged.bind (Q := fun desired log w =>
    (∃ db, Framed db0 db ∧ desired = HardwareSlotSyncWorker.desiredAssignments db accessPoint now)
      ∧ Quiet db0 log w) ?_ fun desired => ?_
  · refine Calls.Logged.make (fun log w _ w' h hw => ?_) fun _ _ _ _ _ hw => by cases hw
    cases hw
    exact ⟨⟨w.db, h.framed, rfl⟩, by simpa [command] using h.noSet,
      by rw [allocatedNumbers_append, h.noAllocation]; rfl, h.framed⟩
  refine Calls.Logged.and_left fun hdesired => ?_
  obtain ⟨db, hframed, rfl⟩ := hdesired
  unfold Framed at hframed
  refine Calls.Logged.bind (Q := fun _ => Quiet db0) ?_ fun slots => ?_
  · refine Calls.Logged.make (fun log w _ w' h hw => ?_) fun _ _ _ _ _ hw => by cases hw
    cases hw
    exact ⟨by simpa [command] using h.noSet,
      by rw [allocatedNumbers_append, h.noAllocation]; rfl, h.framed⟩
  refine Calls.Logged.bind (Calls.Logged.forM (J := fun _ => Quiet db0) _ [] fun _ t _ _ =>
    StandingSlots.logged_removeObsolete_of_apart (Quiet.apart t)) fun _ => ?_
  -- Nothing is allocated before the second loop, where every wanted user and credential is stored.
  refine logged_second_loop_agrees _ (fun d hd => ?_) (desiredAssignments_pairwise db _ now)
  obtain ⟨huser, -, -, hcred⟩ := Agreement.mem_desiredAssignments.mp hd
  have hmem := CredentialRepository.mem_getByUserIdAsync.mp (List.mem_of_find?_eq_some hcred)
  rw [hframed] at huser hmem
  exact ⟨hids d.1 huser, Table.mem_keys.mpr ⟨_, huser, rfl⟩, Table.mem_keys.mpr ⟨_, hmem.1, rfl⟩⟩

/-- In one pass, the allocations have different numbers from 1 to 30, and each allocated user has
an own row at the end, if and only if whenever the pass allocates a slot, the lock has taken the
codes of the slots that the pass allocated before. -/
theorem ownSlots_iff_timely (accessPoint : AccessPoint) (capabilities : LockCapabilities)
    (now : DateTime) (w : World) (hids : ∀ u ∈ w.db.users.rows, u.id ≠ "") :
    OwnSlots accessPoint.id (passLog accessPoint capabilities now w)
        (afterPass accessPoint capabilities now w)
      ↔ Timely (passLog accessPoint capabilities now w) := by
  have hpass : Calls.Logged perform (Quiet w.db)
      (SlotCalls.reconcileDoorSlotsAsync accessPoint capabilities now)
      (fun _ => Agrees accessPoint.id) (Agrees accessPoint.id) := logged_pass_agrees hids
  have hquiet : Quiet w.db [] w := ⟨fun _ _ => List.not_mem_nil, rfl, rfl⟩
  unfold passLog afterPass
  rw [← run_reconcileDoorSlotsAsync]
  rcases hrun : (Calls.run perform
    (SlotCalls.reconcileDoorSlotsAsync accessPoint capabilities now)).exec w with ⟨_ | _, w'⟩
  · exact hpass.stops [] w _ w' hquiet hrun
  · exact hpass.returns [] w _ w' hquiet hrun

end

/-! ### Two new guests -/

section
/-- The host of the sample. -/
local instance : Host := Host.sample

open Evaluate

/-- The user of the sample. -/
def maid : User where
  id := "maid"
  createdAt := { ticks := 0 }
  updatedAt := { ticks := 0 }

/-- The guest and the maid may enter at the front door, and the lock has no slot for them. -/
def twoGuests : World where
  db := { frontDoorOnly with
    users := .ofList [guest, maid] (by decide)
    credentials := .ofList [guestPin, { guestPin with id := "pin2", userId := "maid" }] (by decide)
    accessAssignments := .ofList [
      { id := "a", accessPointId := "front", userId := some "guest", policyId := "always" },
      { id := "b", accessPointId := "front", userId := some "maid", policyId := "always" }]
      (by decide) }

/-- The lock takes both codes, and each of the two has an own slot. -/
theorem ownSlots_iff_timely_twoGuests :
    OwnSlots "front" (passLog frontDoor .userCodes { ticks := 0 } twoGuests)
        (afterPass frontDoor .userCodes { ticks := 0 } twoGuests)
      ↔ Timely (passLog frontDoor .userCodes { ticks := 0 } twoGuests) :=
  ownSlots_iff_timely frontDoor .userCodes { ticks := 0 } twoGuests (by decide)

/-- The lock refuses the first code, and both get the slot 1. -/
theorem refused_slot_is_reallocated :
    ¬ ∀ (accessPoint : AccessPoint) (capabilities : LockCapabilities) (now : DateTime) (w : World),
      (∀ u ∈ w.db.users.rows, u.id ≠ "") →
        OwnSlots accessPoint.id (passLog accessPoint capabilities now w)
          (afterPass accessPoint capabilities now w) := by
  intro h
  have hown := h frontDoor .userCodes { ticks := 0 } { twoGuests with outcomes := [false] }
    (by decide)
  have hnumbers : allocatedNumbers (passLog frontDoor .userCodes { ticks := 0 }
      { twoGuests with outcomes := [false] }) = [1, 1] := by decide +kernel
  have hdifferent := hown.different
  rw [hnumbers] at hdifferent
  exact absurd hdifferent (by decide)

end

end CodeMaster.Proofs.Engine.Allocations
