import CodeMaster.DoorCommands
import CodeMaster.Lib.Transition
import CodeMaster.Proofs.Engine.DoorOperations
import CodeMaster.Proofs.Engine.Evaluate

/-!
# `CodeMaster.Proofs.AuditTrail`: are all door operations recorded?

`Complete` compares three sequences: the successful operations of the service, the rows of the
audit log, and the entries that were broadcast. `Adds` is what one event appends to them. A web
request appends to all three, a tool leaves out the broadcast, and the auto-lock leaves out both
records. So the sequences agree at every point of a run exactly when every operation that
succeeds comes from a web request whose token is not canceled (`auditTrail_complete_iff`).

An operation succeeds when the method of the service returns true, and an auto-lock attempt when its
lock confirms. The order of the three sequences is that of the operations: a request first commands
the door, then writes its row, and then broadcasts. A client that goes away after the command
cancels the two records of it, because both take the token of the request.

Nothing is said about a failed operation but that it appends nothing to the three sequences.
-/

set_option autoImplicit false

namespace CodeMaster.Proofs.AuditTrail

open CodeMaster.Core Data CodeMaster.Engine CodeMaster.Mcp DoorCommands Exec Transition
open DoorOperationService (unlockDoorAsync lockDoorAsync)
open CodeMaster.Proofs.Engine DoorOperations AutoLockMethods
open AutoLockStateMachine (supportsDelay onLockStateChanged)

/-! ### The statement -/

/-- The row of an entry. -/
def row (log : AccessLog) : AccessLogRow := AuditLogRepository.toRow log (log.userName.getD "")

/-- The door and the event of an entry. -/
def kind (log : AccessLog) : String × AccessEventType := (log.accessPointId, log.eventType)

/-- Each successful operation has one row, appended to the rows from before, and one broadcast of
the same entry, for its door and with its event type. -/
structure Complete (before : List AccessLogRow) (s : Site) : Prop where
  stored : s.accessLogs.rows = before ++ s.broadcasts.map row
  broadcast : s.broadcasts.map kind = s.operations

/-- The countdown that an unlock arms has a delay that the timer accepts. -/
def TimerAccepts (m : AutoLockStateMachine) : Prop :=
  m.isEnabled = true → m.doorContactState = .closed → supportsDelay m.lockDelay = true

/-- The unlock will succeed: the door is stored, the lock confirms, and the timer accepts. -/
def Unlocks (s : DoorOperationService) (doorId : String) (durationMinutes : Option (BitVec 32))
    (answer : LockAnswer) : Prop :=
  answer = .returned true ∧ ∃ door, AccessPointRepository.getByIdAsync s.db doorId = some door
    ∧ TimerAccepts ((view s doorId).notified door durationMinutes)

/-- The lock will succeed: the door is stored, and the lock confirms. -/
def Locks (s : DoorOperationService) (doorId : String) (answer : LockAnswer) : Prop :=
  answer = .returned true ∧ (AccessPointRepository.getByIdAsync s.db doorId).isSome = true

/-- An operation that succeeds comes from a web request, and the request is not canceled. -/
def Records [Host] (s : Site) : Event → Prop
  | .unlock id durationMinutes c =>
    Unlocks s.service id durationMinutes c.answer → c.canceled = false
  | .lock id c => Locks s.service id c.answer → c.canceled = false
  | .unlockDoorTool arguments c => ∀ doorId durationMinutes,
    parseDoorId arguments = .ok (.ok doorId) → parseDuration arguments = .ok durationMinutes →
      ¬ Unlocks s.service doorId durationMinutes c.answer
  | .lockDoorTool arguments c => ∀ doorId, parseDoorId arguments = .ok (.ok doorId) →
    ¬ Locks s.service doorId c.answer
  | .lockAttemptEnded doorId answer => s.service.allows doorId (.lockAttemptEnded true) = true →
    ¬ Locks s.service doorId answer
  | .updateDoorStates _ _ _ => True
  | .countdownExpired _ => True
  | .retryExpired _ => True

/-! ### What an event appends -/

/-- What is appended to the three sequences. -/
structure Adds (s s' : Site) (rows : List AccessLogRow) (logs : List AccessLog)
    (operations : List (String × AccessEventType)) : Prop where
  accessLogs : s'.accessLogs.rows = s.accessLogs.rows ++ rows
  broadcasts : s'.broadcasts = s.broadcasts ++ logs
  operations : s'.operations = s.operations ++ operations

variable {before : List AccessLogRow} {s s' : Site} {doorId : String} {answer : LockAnswer}
  {durationMinutes : Option (BitVec 32)}

/-- Nothing is added when only the service changes. -/
theorem Adds.nothing (s : Site) (service : DoorOperationService) :
    Adds s { s with service } [] [] [] where
  accessLogs := (List.append_nil _).symm
  broadcasts := (List.append_nil _).symm
  operations := (List.append_nil _).symm

/-- The sequences still agree when the same was appended to them. -/
theorem Adds.complete_iff {rows : List AccessLogRow} {logs : List AccessLog}
    {operations : List (String × AccessEventType)} (h : Adds s s' rows logs operations)
    (hs : Complete before s) :
    Complete before s' ↔ rows = logs.map row ∧ logs.map kind = operations := by
  have hstored : s'.accessLogs.rows = before ++ s'.broadcasts.map row ↔ rows = logs.map row := by
    rw [h.accessLogs, h.broadcasts, hs.stored, List.map_append, List.append_assoc]
    simp
  have hbroadcast : s'.broadcasts.map kind = s'.operations ↔ logs.map kind = operations := by
    rw [h.broadcasts, h.operations, ← hs.broadcast, List.map_append]
    simp
  constructor
  · intro h'
    exact ⟨hstored.mp h'.stored, hbroadcast.mp h'.broadcast⟩
  · intro h'
    exact ⟨hstored.mpr h'.1, hbroadcast.mpr h'.2⟩

/-! ### The operations of the service -/

/-- The service with its state after a call. -/
def afterUnlock (s : Site) (doorId : String) (durationMinutes : Option (BitVec 32))
    (answer : LockAnswer) : Site :=
  { s with service := ((unlockDoorAsync doorId durationMinutes answer).exec s.service).2 }

/-- The site after a lock command of a door. -/
def afterLock (s : Site) (doorId : String) (answer : LockAnswer) : Site :=
  { s with service := ((lockDoorAsync doorId answer).exec s.service).2 }

/-- The timer is accepted exactly when the report of the unlock does not throw. -/
theorem timerAccepts_iff (m : AutoLockStateMachine) :
    TimerAccepts m ↔ completes (onLockStateChanged .unlocked) m = true := by
  rw [completes_onLockStateChanged]
  unfold TimerAccepts
  cases m.isEnabled with
  | false => simp
  | true =>
    cases m.doorContactState with
    | «open» => simp
    | closed => simp

/-- When an unlock of the service returns true. -/
theorem unlocks_iff :
    Unlocks s.service doorId durationMinutes answer
      ↔ ((unlockDoorAsync doorId durationMinutes answer).exec s.service).1 = .ok true := by
  unfold Unlocks
  cases hdoor : AccessPointRepository.getByIdAsync s.service.db doorId with
  | none =>
    refine iff_of_false (fun h => ?_) ?_
    · obtain ⟨-, door, hsome, -⟩ := h
      cases hsome
    · unfold DoorOperationService.unlockDoorAsync
      rw [exec_bind, exec_query, hdoor]
      simp
  | some door =>
    rw [unlockDoorAsync_returns_true_iff hdoor, ← timerAccepts_iff]
    simp

/-- When a lock of the service returns true. -/
theorem locks_iff :
    Locks s.service doorId answer
      ↔ ((lockDoorAsync doorId answer).exec s.service).1 = .ok true := by
  unfold Locks
  by_cases h : answer = .returned true
      ∧ (AccessPointRepository.getByIdAsync s.service.db doorId).isSome = true
  · refine iff_of_true h ?_
    rw [h.1, exec_lockDoorAsync_confirmed h.2]
  · refine iff_of_false h ?_
    rcases exec_lockDoorAsync_failed h with hexec | hexec
    · rw [hexec]
      simp
    · rw [hexec]
      simp

/-- What a call of the service does to the site: a success is noted, and a failure only leaves
the service as the call has left it. -/
structure Performs (operation : Command Bool) (s after : Site) (doorId : String)
    (eventType : AccessEventType) (succeeds : Prop) : Prop where
  success : succeeds → operation.exec s
    = (.ok true, { after with operations := s.operations ++ [(doorId, eventType)] })
  failure : ¬ succeeds → ∃ r, operation.exec s = (r, after) ∧ r ≠ .ok true
  only : after = { s with service := after.service }
  db : after.service.db = s.service.db

/-- What a command of a door performs: the operation of the service, and its note when the operation
succeeds. -/
theorem performs_call {operation : DoorOperationService.Operation Bool}
    {eventType : AccessEventType} {succeeds : Prop}
    (hsucceeds : succeeds ↔ (operation.exec s.service).1 = .ok true)
    (hdb : (operation.exec s.service).2.db = s.service.db) :
    Performs (callService operation >>= fun success =>
        note doorId eventType success >>= fun _ => pure success)
      s { s with service := (operation.exec s.service).2 } doorId eventType succeeds where
  success h := by
    rw [hsucceeds] at h
    simp [h, Except.mapError]
  failure h := by
    rw [hsucceeds] at h
    simp only [exec_bind, exec_callService]
    cases hr : (operation.exec s.service).1 with
    | error e => exact ⟨.error (.operation e), rfl, by simp⟩
    | ok success =>
      cases success with
      | true => exact absurd hr h
      | false => exact ⟨.ok false, rfl, by simp⟩
  only := rfl
  db := hdb

/-- What an unlock command performs. -/
theorem performs_unlock (s : Site) (doorId : String) (durationMinutes : Option (BitVec 32))
    (answer : LockAnswer) :
    Performs (unlockDoor doorId durationMinutes answer) s
      (afterUnlock s doorId durationMinutes answer) doorId .unlocked
      (Unlocks s.service doorId durationMinutes answer) :=
  performs_call unlocks_iff (unlockDoorAsync_elsewhere s.service doorId durationMinutes answer
    s.service ⟨rfl, fun _ _ => rfl⟩).db

/-- What a lock command performs. -/
theorem performs_lock (s : Site) (doorId : String) (answer : LockAnswer) :
    Performs (lockDoor doorId answer) s (afterLock s doorId answer) doorId .locked
      (Locks s.service doorId answer) :=
  performs_call locks_iff (lockDoorAsync_elsewhere s.service doorId answer s.service
    ⟨rfl, fun _ _ => rfl⟩).db

/-- A path whose operation fails ends there. -/
theorem Performs.adds_of_failure {α : Type} {operation : Command Bool} {after : Site}
    {eventType : AccessEventType} {succeeds : Prop}
    (h : Performs operation s after doorId eventType succeeds) (hnot : ¬ succeeds) (failed : α)
    (next : Command α) :
    Adds s ((operation >>= fun success => if !success then pure failed else next).exec s).2
      [] [] [] := by
  -- An exception ends the path, and a false ends it with the failed result.
  obtain ⟨r, hexec, hr⟩ := h.failure hnot
  rw [exec_bind, hexec, h.only]
  cases r with
  | error e => exact Adds.nothing s after.service
  | ok success =>
    cases success with
    | true => exact absurd rfl hr
    | false => exact Adds.nothing s after.service

/-- A path whose operation succeeds goes on, and what follows adds to the noted operation. -/
theorem Performs.adds_of_success {α : Type} {operation : Command Bool} {after : Site}
    {eventType : AccessEventType} {succeeds : Prop} {rows : List AccessLogRow}
    {logs : List AccessLog} (h : Performs operation s after doorId eventType succeeds)
    (hsucceeds : succeeds) (failed : α) {next : Command α}
    (hnext : Adds { after with operations := s.operations ++ [(doorId, eventType)] }
      (next.exec { after with operations := s.operations ++ [(doorId, eventType)] }).2
      rows logs []) :
    Adds s ((operation >>= fun success => if !success then pure failed else next).exec s).2
      rows logs [(doorId, eventType)] := by
  rw [exec_bind, h.success hsucceeds]
  have honly := h.only
  constructor
  · have hrows := hnext.accessLogs
    rw [honly] at hrows
    rw [honly]
    exact hrows
  · have hlogs := hnext.broadcasts
    rw [honly] at hlogs
    rw [honly]
    exact hlogs
  · exact hnext.operations.trans (List.append_nil _)

/-! ### The records -/

/-- The insert of a named entry with a new id, for a stored door. -/
theorem exec_insertLog {log : AccessLog} {userName : String}
    (hname : log.userName = some userName) (hid : log.id ∉ s.accessLogs.keys)
    (hdoor : log.accessPointId ∈ s.service.db.accessPoints.keys) :
    ∃ accessLogs, (insertLog log false).exec s = (.ok (), { s with accessLogs })
      ∧ accessLogs.rows = s.accessLogs.rows ++ [row log] := by
  obtain ⟨accessLogs, hinsert, hrows⟩ :=
    @AuditLogRepository.insertAsync_of_new log userName s.service.db s.accessLogs hname hid hdoor
  refine ⟨accessLogs, ?_, ?_⟩
  · unfold insertLog
    simp [exec_statement, hinsert]
  · unfold row
    rw [hname]
    exact hrows

section
variable [Host] {α : Type} {f : String → AccessLog} {userName : String}

/-- The end of a path: the new entry is stored and the path goes on, unless the token is
canceled. -/
theorem exec_insertNew (hid : ∀ guid, (f guid).id = guid)
    (hname : ∀ guid, (f guid).userName = some userName)
    (hdoor : ∀ guid, (f guid).accessPointId ∈ s.service.db.accessPoints.keys) (canceled : Bool)
    (next : String → Command α) :
    ∃ guid accessLogs, (newLogId >>= fun guid => insertLog (f guid) canceled >>= fun _ =>
        next guid).exec s
        = (if canceled then (.error .operationCanceled, s)
          else (next guid).exec { s with accessLogs })
      ∧ accessLogs.rows = s.accessLogs.rows ++ [row (f guid)] := by
  have hnew : (f (AuditLogRepository.newGuid s.service.db s.accessLogs)).id
      ∉ s.accessLogs.keys := by
    rw [hid]
    exact AuditLogRepository.newGuid_notMem _ _
  obtain ⟨accessLogs, hinsert, hrows⟩ := exec_insertLog (hname _) hnew (hdoor _)
  refine ⟨_, accessLogs, ?_, hrows⟩
  rw [exec_bind, newLogId, exec_query]
  dsimp only
  rw [exec_bind]
  cases canceled with
  | true => rfl
  | false =>
    rw [hinsert]
    rfl

/-- The tail of a web request: the entry is stored and broadcast, unless the token is canceled. -/
theorem adds_record (hid : ∀ guid, (f guid).id = guid)
    (hname : ∀ guid, (f guid).userName = some userName)
    (hdoor : ∀ guid, (f guid).accessPointId ∈ s.service.db.accessPoints.keys) (canceled : Bool)
    (result : α) :
    ∃ guid, Adds s ((do
        let guid ← newLogId
        insertLog (f guid) canceled
        broadcast (f guid)
        return result : Command α).exec s).2
      (if canceled then [] else [row (f guid)]) (if canceled then [] else [f guid]) [] := by
  obtain ⟨guid, accessLogs, hexec, hrows⟩ := exec_insertNew hid hname hdoor canceled fun guid => do
    broadcast (f guid)
    return result
  refine ⟨guid, ?_⟩
  rw [hexec]
  cases canceled with
  | true => exact Adds.nothing s s.service
  | false => exact ⟨hrows, rfl, (List.append_nil _).symm⟩

/-- The tail of a tool: the entry is stored, unless the token is canceled. -/
theorem adds_store (hid : ∀ guid, (f guid).id = guid)
    (hname : ∀ guid, (f guid).userName = some userName)
    (hdoor : ∀ guid, (f guid).accessPointId ∈ s.service.db.accessPoints.keys) (canceled : Bool)
    (result : α) :
    ∃ rows, Adds s ((do
        let guid ← newLogId
        insertLog (f guid) canceled
        return result : Command α).exec s).2 rows [] [] := by
  obtain ⟨guid, accessLogs, hexec, hrows⟩ :=
    exec_insertNew hid hname hdoor canceled fun _ => return result
  refine ⟨if canceled then [] else [row (f guid)], ?_⟩
  rw [hexec]
  cases canceled with
  | true => exact Adds.nothing s s.service
  | false => exact ⟨hrows, (List.append_nil _).symm, (List.append_nil _).symm⟩

omit [Host] in
/-- A door that is found is stored. -/
theorem mem_keys_of_getByIdAsync {db : Db} {door : AccessPoint}
    (h : AccessPointRepository.getByIdAsync db doorId = some door) :
    doorId ∈ db.accessPoints.keys := by
  obtain ⟨hmem, hid⟩ := Relational.Table.find?_eq_some_iff.mp h
  exact Relational.Table.mem_keys.mpr ⟨door, hmem, hid⟩

/-! ### The five paths -/

omit [Host] in
/-- A door that is not stored is not unlocked. -/
theorem not_unlocks_of_none (h : AccessPointRepository.getByIdAsync s.service.db doorId = none) :
    ¬ Unlocks s.service doorId durationMinutes answer := by
  intro ⟨_, door, hdoor, _⟩
  rw [h] at hdoor
  cases hdoor

omit [Host] in
/-- A door that is not stored is not locked. -/
theorem not_locks_of_none (h : AccessPointRepository.getByIdAsync s.service.db doorId = none) :
    ¬ Locks s.service doorId answer := by
  intro ⟨_, hdoor⟩
  rw [h] at hdoor
  cases hdoor

/-- What an unlock request adds: one row, one broadcast and one operation when the door is unlocked,
and nothing when it is not. A client that has gone leaves the operation only. -/
theorem adds_unlock (id : String) (durationMinutes : Option (BitVec 32)) (c : Circumstances) :
    (Unlocks s.service id durationMinutes c.answer →
      ∃ log, kind log = (id, .unlocked)
        ∧ Adds s (s.step (.unlock id durationMinutes c)) (if c.canceled then [] else [row log])
          (if c.canceled then [] else [log]) [(id, .unlocked)])
    ∧ (¬ Unlocks s.service id durationMinutes c.answer →
      Adds s (s.step (.unlock id durationMinutes c)) [] [] []) := by
  unfold Site.step DoorCommands.unlock
  dsimp only
  rw [exec_bind, exec_query]
  dsimp only
  cases hdoor : AccessPointRepository.getByIdAsync s.service.db id with
  | none => exact ⟨fun h => absurd h (not_unlocks_of_none hdoor), fun _ => Adds.nothing s s.service⟩
  | some door =>
    dsimp only
    have hperforms := performs_unlock s id durationMinutes c.answer
    constructor
    · intro h
      -- The command has not changed the table of doors, so that the log has its door.
      have hkey := mem_keys_of_getByIdAsync hdoor
      rw [← hperforms.db] at hkey
      obtain ⟨guid, hadds⟩ := adds_record
        (s := { afterUnlock s id durationMinutes c.answer with
          operations := s.operations ++ [(id, .unlocked)] })
        (f := fun guid => webLog guid id .unlocked (unlockDetails durationMinutes) c)
        (fun _ => rfl) (fun _ => rfl) (fun _ => hkey) c.canceled (DoorResult.ok "Unlocked" id)
      refine ⟨webLog guid id .unlocked (unlockDetails durationMinutes) c, rfl, ?_⟩
      exact hperforms.adds_of_success h _ hadds
    · intro h
      exact hperforms.adds_of_failure h _ _

/-- What a lock request adds, in the same cases. -/
theorem adds_lock (id : String) (c : Circumstances) :
    (Locks s.service id c.answer →
      ∃ log, kind log = (id, .locked)
        ∧ Adds s (s.step (.lock id c)) (if c.canceled then [] else [row log])
          (if c.canceled then [] else [log]) [(id, .locked)])
    ∧ (¬ Locks s.service id c.answer → Adds s (s.step (.lock id c)) [] [] []) := by
  unfold Site.step DoorCommands.lock
  dsimp only
  rw [exec_bind, exec_query]
  dsimp only
  cases hdoor : AccessPointRepository.getByIdAsync s.service.db id with
  | none => exact ⟨fun h => absurd h (not_locks_of_none hdoor), fun _ => Adds.nothing s s.service⟩
  | some door =>
    dsimp only
    have hperforms := performs_lock s id c.answer
    constructor
    · intro h
      have hkey := mem_keys_of_getByIdAsync hdoor
      rw [← hperforms.db] at hkey
      obtain ⟨guid, hadds⟩ := adds_record
        (s := { afterLock s id c.answer with operations := s.operations ++ [(id, .locked)] })
        (f := fun guid => webLog guid id .locked "Remote lock via API" c)
        (fun _ => rfl) (fun _ => rfl) (fun _ => hkey) c.canceled (DoorResult.ok "Locked" id)
      refine ⟨webLog guid id .locked "Remote lock via API" c, rfl, ?_⟩
      exact hperforms.adds_of_success h _ hadds
    · intro h
      exact hperforms.adds_of_failure h _ _

/-- The tool unlocks a door and stores a row, or nothing happens. -/
theorem adds_unlockDoorTool (arguments : Option JsonElement) (c : Circumstances) :
    (¬ Records s (.unlockDoorTool arguments c) ∧ ∃ rows operation,
        Adds s (s.step (.unlockDoorTool arguments c)) rows [] [operation])
      ∨ (Records s (.unlockDoorTool arguments c)
        ∧ Adds s (s.step (.unlockDoorTool arguments c)) [] [] []) := by
  unfold Site.step DoorCommands.unlockDoorAsync Records
  dsimp only
  rw [exec_bind, exec_read]
  -- An exception, or the text of an error: the service is not called.
  rcases hparse : parseDoorId arguments with e | text | doorId
  · exact Or.inr ⟨fun _ _ h => (by cases h), Adds.nothing s s.service⟩
  · exact Or.inr ⟨fun _ _ h => (by cases h), Adds.nothing s s.service⟩
  dsimp only [Except.mapError]
  rw [exec_bind, exec_query]
  cases hdoor : AccessPointRepository.getByIdAsync s.service.db doorId with
  | none =>
    refine Or.inr ⟨fun _ _ h _ => ?_, Adds.nothing s s.service⟩
    cases h
    exact not_unlocks_of_none hdoor
  | some door =>
    dsimp only
    rw [exec_bind, exec_read]
    cases hduration : parseDuration arguments with
    | error e => exact Or.inr ⟨fun _ _ _ h => (by cases h), Adds.nothing s s.service⟩
    | ok durationMinutes =>
      dsimp only [Except.mapError]
      have hperforms := performs_unlock s doorId durationMinutes c.answer
      by_cases h : Unlocks s.service doorId durationMinutes c.answer
      · have hkey := mem_keys_of_getByIdAsync hdoor
        rw [← hperforms.db] at hkey
        obtain ⟨rows, hadds⟩ := adds_store
          (s := { afterUnlock s doorId durationMinutes c.answer with
            operations := s.operations ++ [(doorId, .unlocked)] })
          (f := fun guid =>
            toolLog guid doorId .unlocked (unlockToolDetails durationMinutes) c)
          (fun _ => rfl) (fun _ => rfl) (fun _ => hkey) c.canceled
          (McpToolCallResult.text ("Successfully unlocked door '" ++ door.name ++ "' (" ++ doorId
            ++ ").") false)
        exact Or.inl ⟨fun hrecords => hrecords _ _ rfl rfl h, rows, _,
          hperforms.adds_of_success h _ hadds⟩
      · refine Or.inr ⟨fun _ _ hd hm => ?_, hperforms.adds_of_failure h _ _⟩
        cases hd
        cases hm
        exact h

/-- The tool locks a door and stores a row, or nothing happens. -/
theorem adds_lockDoorTool (arguments : Option JsonElement) (c : Circumstances) :
    (¬ Records s (.lockDoorTool arguments c) ∧ ∃ rows operation,
        Adds s (s.step (.lockDoorTool arguments c)) rows [] [operation])
      ∨ (Records s (.lockDoorTool arguments c)
        ∧ Adds s (s.step (.lockDoorTool arguments c)) [] [] []) := by
  unfold Site.step DoorCommands.lockDoorAsync Records
  dsimp only
  rw [exec_bind, exec_read]
  rcases hparse : parseDoorId arguments with e | text | doorId
  · exact Or.inr ⟨fun _ h => (by cases h), Adds.nothing s s.service⟩
  · exact Or.inr ⟨fun _ h => (by cases h), Adds.nothing s s.service⟩
  dsimp only [Except.mapError]
  rw [exec_bind, exec_query]
  cases hdoor : AccessPointRepository.getByIdAsync s.service.db doorId with
  | none =>
    refine Or.inr ⟨fun _ h => ?_, Adds.nothing s s.service⟩
    cases h
    exact not_locks_of_none hdoor
  | some door =>
    dsimp only
    have hperforms := performs_lock s doorId c.answer
    -- The log is written only after a success, and it refers to the door that was found.
    by_cases h : Locks s.service doorId c.answer
    · have hkey := mem_keys_of_getByIdAsync hdoor
      rw [← hperforms.db] at hkey
      obtain ⟨rows, hadds⟩ := adds_store
        (s := { afterLock s doorId c.answer with
          operations := s.operations ++ [(doorId, .locked)] })
        (f := fun guid => toolLog guid doorId .locked "Locked via MCP tool" c)
        (fun _ => rfl) (fun _ => rfl) (fun _ => hkey) c.canceled
        (McpToolCallResult.text ("Successfully locked door '" ++ door.name ++ "' (" ++ doorId
          ++ ").") false)
      exact Or.inl ⟨fun hrecords => hrecords _ rfl h, rows, _,
        hperforms.adds_of_success h _ hadds⟩
    · refine Or.inr ⟨fun _ hd => ?_, hperforms.adds_of_failure h _ _⟩
      cases hd
      exact h

/-- The auto-lock locks the door and records nothing, or it does not lock the door. -/
theorem adds_lockAttemptEnded (doorId : String) (answer : LockAnswer) :
    (¬ Records s (.lockAttemptEnded doorId answer) ∧ ∃ operation,
        Adds s (s.step (.lockAttemptEnded doorId answer)) [] [] [operation])
      ∨ (Records s (.lockAttemptEnded doorId answer)
        ∧ Adds s (s.step (.lockAttemptEnded doorId answer)) [] [] []) := by
  unfold Site.step Records
  dsimp only
  by_cases hallows : s.service.allows doorId (.lockAttemptEnded true) = true
  · rw [if_pos hallows]
    unfold DoorCommands.endLockAttempt
    -- The callback of the machine notes its success and records nothing.
    simp only [exec_bind, exec_query, exec_note, exec_callService]
    by_cases h : Locks s.service doorId answer
    · refine Or.inl ⟨fun hrecords => hrecords hallows h, (doorId, .autoLocked), ?_⟩
      rw [locks_iff] at h
      rw [if_pos (by simpa using h)]
      exact ⟨(List.append_nil _).symm, (List.append_nil _).symm, rfl⟩
    · refine Or.inr ⟨fun _ => h, ?_⟩
      rw [locks_iff] at h
      rw [if_neg (by simpa using h)]
      exact Adds.nothing s _
  · rw [if_neg hallows]
    exact Or.inr ⟨fun h => absurd h hallows, Adds.nothing s s.service⟩

/-! ### Runs -/

omit [Host] in
/-- A web request appends to all three sequences, unless it is canceled. -/
theorem complete_iff_of_web {operation : String × AccessEventType} {canceled : Bool}
    {succeeds : Prop} (hs : Complete before s)
    (hweb : (succeeds → ∃ log, kind log = operation
        ∧ Adds s s' (if canceled then [] else [row log]) (if canceled then [] else [log])
          [operation])
      ∧ (¬ succeeds → Adds s s' [] [] [])) :
    Complete before s' ↔ (succeeds → canceled = false) := by
  by_cases h : succeeds
  · obtain ⟨log, hkind, hadds⟩ := hweb.1 h
    rw [hadds.complete_iff hs]
    cases canceled with
    | true => simp [h]
    | false => simp [hkind]
  · refine iff_of_true ?_ fun h' => absurd h' h
    exact ((hweb.2 h).complete_iff hs).mpr ⟨rfl, rfl⟩

omit [Host] in
/-- A path that notes an operation and broadcasts nothing. -/
theorem complete_iff_of_silent {records : Prop} (hs : Complete before s)
    (hsilent : (¬ records ∧ ∃ rows operation, Adds s s' rows [] [operation])
      ∨ (records ∧ Adds s s' [] [] [])) :
    Complete before s' ↔ records := by
  cases hsilent with
  | inl h =>
    obtain ⟨hnot, rows, operation, hadds⟩ := h
    rw [hadds.complete_iff hs]
    exact iff_of_false (by simp) hnot
  | inr h => exact iff_of_true ((h.2.complete_iff hs).mpr ⟨rfl, rfl⟩) h.1

/-- The step lemma: the sequences agree after an event exactly when it records its operation. -/
theorem complete_step_iff (hs : Complete before s) (e : Event) :
    Complete before (s.step e) ↔ Records s e := by
  have hquiet : ∀ service, Complete before { s with service } := fun service =>
    ((Adds.nothing s service).complete_iff hs).mpr ⟨rfl, rfl⟩
  cases e with
  | unlock id durationMinutes c =>
    exact complete_iff_of_web hs (adds_unlock id durationMinutes c)
  | lock id c => exact complete_iff_of_web hs (adds_lock id c)
  | unlockDoorTool arguments c =>
    exact complete_iff_of_silent hs (adds_unlockDoorTool arguments c)
  | lockDoorTool arguments c => exact complete_iff_of_silent hs (adds_lockDoorTool arguments c)
  | lockAttemptEnded doorId answer =>
    refine complete_iff_of_silent hs ((adds_lockAttemptEnded doorId answer).imp_left ?_)
    exact fun h => ⟨h.1, [], h.2⟩
  | updateDoorStates doorId lockState contactState => exact iff_of_true (hquiet _) trivial
  | countdownExpired doorId => exact iff_of_true (hquiet _) trivial
  | retryExpired doorId => exact iff_of_true (hquiet _) trivial

/-- The start of a run: the service and the audit log that are there. -/
def start (service : DoorOperationService) (accessLogs : AccessLogs) : Site :=
  { service, accessLogs }

/-- At every point of a run, each successful operation has its row in the audit log and its
broadcast, if and only if every operation that succeeds comes from a web request that is not
canceled. -/
theorem auditTrail_complete_iff (service : DoorOperationService) (accessLogs : AccessLogs)
    (es : List Event) :
    (∀ pre, pre <+: es → Complete accessLogs.rows (pre.foldl Site.step (start service accessLogs)))
      ↔ StepsMeet Site.step Records (start service accessLogs) es :=
  stepsMeet_iff (I := Complete accessLogs.rows) (fun _ e hs => complete_step_iff hs e) es _
    ⟨(List.append_nil _).symm, rfl⟩

end

/-! ### A door that is unlocked by an assistant -/

section
/-- The host of the samples. -/
local instance : Host := Host.sample

open Evaluate (frontDoorOnly)

/-- What a request at the front door meets. -/
def confirmed : Circumstances where
  utcNow := { ticks := 0 }
  answer := .returned true

/-- An MCP client unlocks the front door: the unlock succeeds, and is not broadcast. -/
theorem tool_is_not_broadcast :
    ¬ ∀ (service : DoorOperationService) (accessLogs : AccessLogs) (es : List Event),
      Complete accessLogs.rows (es.foldl Site.step (start service accessLogs)) := by
  intro h
  have hcomplete := h { db := frontDoorOnly } .empty
    [.unlockDoorTool (some (.object [("doorId", .string "front")])) confirmed]
  have hoperations := hcomplete.broadcast
  exact absurd hoperations (by decide)

end

end CodeMaster.Proofs.AuditTrail
