import CodeMaster.Lib.Agreement
import CodeMaster.Proofs.AuditTrail

/-!
# `CodeMaster.Proofs.ForwardAuth`: what does it matter who sends a request?

The user of a request goes into the entry of the audit log, and nowhere else. `SameButNames` relates
sites that differ in the names of their entries only. Two runs of the same requests with different
headers stay related, and each request is answered alike (`headers_only_name`). So nobody has to
sign in to unlock a door. The name of an entry is the text of the header, or `Web User`
(`named_after_headers`).

`Agree` is the relation between two runs of one method from related sites: they come to equal
results, and to related sites again. Every part of a path has such a lemma, and the rules of
`Lib.Agreement` put them together. The only place where the two runs differ is the entry that is
built from the user, and there the relation forgets the name.

For the names themselves, `RowsSatisfy` says that every row of the log was there before or satisfies
a property, and each part of a path preserves it. The property is then that the row has the door,
the event and the time of the request and the name of its sender.
-/

set_option autoImplicit false

namespace CodeMaster.Proofs.ForwardAuth

open CodeMaster.Core CodeMaster.Data CodeMaster.Engine CodeMaster.Web CodeMaster.Mcp Exec
open CodeMaster.DoorCommands
open CodeMaster.Web.ForwardAuthMiddleware (header invokeAsync)
open CodeMaster.Proofs.AuditTrail (row)

/-! ### The name of the user -/

/-- The name that the audit log gives to the sender. -/
def signature (headers : HeaderDictionary) : String :=
  (header headers "Remote-User").getD "Web User"

/-- The name of the user of a request is the text of `Remote-User`, if the header is not blank. -/
theorem name_invokeAsync (headers : HeaderDictionary) :
    (invokeAsync headers {}).name = header headers "Remote-User" := by
  unfold invokeAsync
  cases header headers "Remote-User" with
  | none => rfl
  | some remoteUser => rfl

/-! ### Sites that differ in names -/

/-- An entry of the audit log without the name. -/
def unnamed (log : Core.AccessLog) : Core.AccessLog := { log with userName := none }

/-- A stored entry without the name. -/
def unnamedRow (row : AccessLogRow) : AccessLogRow := { row with userName := "" }

/-- Two sites are the same but for the names of the users in the entries of the audit log, stored or
sent to the live feed. The doors, the database, the locks and the operations so far are equal. -/
structure SameButNames (s t : Site) : Prop where
  service : s.service = t.service
  accessLogs : s.accessLogs.rows.map unnamedRow = t.accessLogs.rows.map unnamedRow
  broadcasts : s.broadcasts.map unnamed = t.broadcasts.map unnamed
  operations : s.operations = t.operations

/-- A site is the same as itself. -/
theorem SameButNames.refl (s : Site) : SameButNames s s := ⟨rfl, rfl, rfl, rfl⟩

/-- The names are no keys. -/
theorem SameButNames.keys {s t : Site} (h : SameButNames s t) :
    s.accessLogs.keys = t.accessLogs.keys := by
  have hkeys := congrArg (List.map AccessLogRow.id) h.accessLogs
  rw [List.map_map, List.map_map] at hkeys
  exact hkeys

/-- The name of an entry goes into one column of its row, and nowhere else. -/
theorem unnamedRow_toRow (log : Core.AccessLog) (userName : String) :
    unnamedRow (AuditLogRepository.toRow log userName)
      = AuditLogRepository.toRow (unnamed log) "" := rfl

/-- Which constraint the insert of a named entry violates. -/
theorem insertAsync_eq_error_iff {log : Core.AccessLog} {userName : String} {db : Db}
    {accessLogs : AccessLogs} {e : AuditLogException} (hname : log.userName = some userName) :
    AuditLogRepository.insertAsync log db accessLogs = .error e
      ↔ (log.id ∈ accessLogs.keys ∧ e = .sqlite (.unique "AccessLogs.Id"))
        ∨ (log.id ∉ accessLogs.keys ∧ log.accessPointId ∉ db.accessPoints.keys
          ∧ e = .sqlite .foreignKey) := by
  unfold AuditLogRepository.insertAsync
  rw [hname]
  dsimp only
  cases hinsert : accessLogs.insert? (AuditLogRepository.toRow log userName) with
  | none =>
    have hkey : log.id ∈ accessLogs.keys := Relational.Table.insert?_eq_none_iff.mp hinsert
    simp [hkey, eq_comm]
  | some inserted =>
    have hkey : log.id ∉ accessLogs.keys := (Relational.Table.insert?_eq_some_iff.mp hinsert).1
    by_cases hdoor : log.accessPointId ∈ db.accessPoints.keys
    · simp [hkey, hdoor]
    · simp [hkey, hdoor, eq_comm]

/-! ### The parts of a path -/

/-- An operation of the service reads and writes the service only, which is the same on both
sides. -/
theorem agree_callService {α : Type} (method : DoorOperationService.Operation α) :
    Agree SameButNames (callService method) (callService method) := by
  intro s t h
  rw [exec_callService, exec_callService, h.service]
  exact ⟨rfl, ⟨rfl, h.accessLogs, h.broadcasts, h.operations⟩⟩

/-- The log of operations is written alike on both sides. -/
theorem agree_note (doorId : String) (eventType : AccessEventType) (success : Bool) :
    Agree SameButNames (note doorId eventType success) (note doorId eventType success) := by
  refine .modify fun s t h => ?_
  cases success with
  | false => exact h
  | true =>
    refine ⟨h.service, h.accessLogs, h.broadcasts, ?_⟩
    show s.operations ++ _ = t.operations ++ _
    rw [h.operations]

/-- Reading the arguments of a tool does not depend on the site. -/
theorem agree_read {α : Type} (x : Except ToolException α) :
    Agree SameButNames (read x) (read x) := fun _ _ h => ⟨rfl, h⟩

/-- The door of a request is looked up in the same database on both sides. -/
theorem agree_door (id : String) :
    Agree (ε := CommandException) SameButNames
      (query fun s => AccessPointRepository.getByIdAsync s.service.db id)
      (query fun s => AccessPointRepository.getByIdAsync s.service.db id) := by
  refine .query fun s t h => ?_
  rw [h.service]

/-- The tool's part of an unlock, from the service to the note of the operation. -/
theorem agree_unlockDoor (doorId : String) (durationMinutes : Option (BitVec 32))
    (answer : LockAnswer) :
    Agree SameButNames (unlockDoor doorId durationMinutes answer)
      (unlockDoor doorId durationMinutes answer) :=
  (agree_callService _).bind fun success =>
    (agree_note doorId .unlocked success).bind fun _ => .pure _ _

/-- The tool's part of a lock, from the service to the note of the operation. -/
theorem agree_lockDoor (doorId : String) (answer : LockAnswer) :
    Agree SameButNames (lockDoor doorId answer) (lockDoor doorId answer) :=
  (agree_callService _).bind fun success =>
    (agree_note doorId .locked success).bind fun _ => .pure _ _

/-- Two entries that differ in their names are stored alike. -/
theorem agree_insertLog {log log' : Core.AccessLog} {userName userName' : String}
    (hname : log.userName = some userName) (hname' : log'.userName = some userName')
    (hlog : unnamed log = unnamed log') (canceled : Bool) :
    Agree SameButNames (insertLog log canceled) (insertLog log' canceled) := by
  have hid : (unnamed log).id = (unnamed log').id := by rw [hlog]
  have hdoor : (unnamed log).accessPointId = (unnamed log').accessPointId := by rw [hlog]
  change log.id = log'.id at hid
  change log.accessPointId = log'.accessPointId at hdoor
  unfold insertLog
  cases canceled with
  | true => exact .throw _ _
  | false =>
    refine .statement (fun s t s' h hs' => ?_) fun s t e h he => ?_
    · cases hinsert : AuditLogRepository.insertAsync log s.service.db s.accessLogs with
      | error e =>
        rw [hinsert] at hs'
        cases hs'
      | ok accessLogs =>
        rw [hinsert] at hs'
        cases hs'
        obtain ⟨name, hsome, hkey, hstored, hrows⟩ :=
          AuditLogRepository.insertAsync_eq_ok_iff.mp hinsert
        -- The id is new on both sides, and the door is stored on both.
        rw [hid, h.keys] at hkey
        rw [hdoor, h.service] at hstored
        obtain ⟨accessLogs', hinsert', hrows'⟩ :=
          AuditLogRepository.insertAsync_of_new hname' hkey hstored
        rw [hinsert']
        refine ⟨_, rfl, h.service, ?_, h.broadcasts, h.operations⟩
        show accessLogs.rows.map unnamedRow = accessLogs'.rows.map unnamedRow
        rw [hrows, hrows', List.map_append, List.map_append, h.accessLogs, List.map_singleton,
          List.map_singleton, unnamedRow_toRow, unnamedRow_toRow, hlog]
    · cases hinsert : AuditLogRepository.insertAsync log s.service.db s.accessLogs with
      | ok accessLogs =>
        rw [hinsert] at he
        cases he
      | error e' =>
        rw [hinsert] at he
        cases he
        -- The constraint that fails does not depend on the name.
        rw [insertAsync_eq_error_iff hname, hid, hdoor, h.keys, h.service] at hinsert
        rw [(insertAsync_eq_error_iff hname').mpr hinsert]

/-- Two entries that differ in their names are broadcast alike. -/
theorem agree_broadcast {log log' : Core.AccessLog} (hlog : unnamed log = unnamed log') :
    Agree SameButNames (broadcast log) (broadcast log') := by
  refine .modify fun s t h => ⟨h.service, h.accessLogs, ?_, h.operations⟩
  show (s.broadcasts ++ [log]).map unnamed = (t.broadcasts ++ [log']).map unnamed
  rw [List.map_append, List.map_append, h.broadcasts, List.map_singleton, List.map_singleton, hlog]

/-- The end of a web request. -/
theorem agree_record (guid id : String) (eventType : AccessEventType) (details : String)
    (c : Circumstances) (userName userName' : Option String) (result : DoorResult) :
    Agree SameButNames (do
        insertLog (webLog guid id eventType details { c with userName := userName }) c.canceled
        broadcast (webLog guid id eventType details { c with userName := userName })
        return result)
      (do
        insertLog (webLog guid id eventType details { c with userName := userName' }) c.canceled
        broadcast (webLog guid id eventType details { c with userName := userName' })
        return result) := by
  have hlog : unnamed (webLog guid id eventType details { c with userName := userName })
      = unnamed (webLog guid id eventType details { c with userName := userName' }) := rfl
  exact (agree_insertLog rfl rfl hlog c.canceled).bind fun _ =>
    (agree_broadcast hlog).bind fun _ => .pure _ _

/-! ### The paths -/

section
variable [Host]

/-- A new id depends on the ids so far, which the two sites share. -/
theorem agree_newLogId : Agree SameButNames newLogId newLogId := by
  -- The id is new among the ids of the log and of the database.
  refine .query fun s t h => ?_
  unfold AuditLogRepository.newGuid
  rw [h.service, h.keys]

/-- An unlock request of two users. The only use of the user is the name in the entry, so that the
answers are equal and the sites stay the same but for names. -/
theorem agree_unlock (id : String) (durationMinutes : Option (BitVec 32)) (c : Circumstances)
    (userName userName' : Option String) :
    Agree SameButNames (DoorCommands.unlock id durationMinutes { c with userName := userName })
      (DoorCommands.unlock id durationMinutes { c with userName := userName' }) := by
  refine (agree_door id).bind fun door => ?_
  cases door with
  | none => exact .pure _ _
  | some door =>
    refine (agree_unlockDoor id durationMinutes c.answer).bind fun success =>
      .ite (.pure _ _) (agree_newLogId.bind fun guid => ?_)
    exact agree_record guid id _ _ c userName userName' _

/-- A lock request of two users. -/
theorem agree_lock (id : String) (c : Circumstances) (userName userName' : Option String) :
    Agree SameButNames (DoorCommands.lock id { c with userName := userName })
      (DoorCommands.lock id { c with userName := userName' }) := by
  refine (agree_door id).bind fun door => ?_
  cases door with
  | none => exact .pure _ _
  | some door =>
    refine (agree_lockDoor id c.answer).bind fun success =>
      .ite (.pure _ _) (agree_newLogId.bind fun guid => ?_)
    exact agree_record guid id _ _ c userName userName' _

/-- The unlock tool of the MCP server has the same name for every caller. -/
theorem agree_unlockDoorTool (arguments : Option JsonElement) (c : Circumstances) :
    Agree SameButNames (DoorCommands.unlockDoorAsync arguments c)
      (DoorCommands.unlockDoorAsync arguments c) := by
  refine (agree_read _).bind fun parsed => ?_
  cases parsed with
  | error text => exact .pure _ _
  | ok doorId =>
    refine (agree_door doorId).bind fun door => ?_
    cases door with
    | none => exact .pure _ _
    | some door =>
      refine (agree_read _).bind fun durationMinutes =>
        (agree_unlockDoor doorId durationMinutes c.answer).bind fun success =>
          .ite (.pure _ _) (agree_newLogId.bind fun guid => ?_)
      exact Agree.bind (agree_insertLog rfl rfl rfl c.canceled) fun _ => .pure _ _

/-- The lock tool of the MCP server has the same name for every caller. -/
theorem agree_lockDoorTool (arguments : Option JsonElement) (c : Circumstances) :
    Agree SameButNames (DoorCommands.lockDoorAsync arguments c)
      (DoorCommands.lockDoorAsync arguments c) := by
  refine (agree_read _).bind fun parsed => ?_
  cases parsed with
  | error text => exact .pure _ _
  | ok doorId =>
    refine (agree_door doorId).bind fun door => ?_
    cases door with
    | none => exact .pure _ _
    | some door =>
      refine (agree_lockDoor doorId c.answer).bind fun success =>
        .ite (.pure _ _) (agree_newLogId.bind fun guid => ?_)
      exact Agree.bind (agree_insertLog rfl rfl rfl c.canceled) fun _ => .pure _ _

end

/-- The end of an attempt of the auto-lock reads and writes the service and the operations only. -/
theorem agree_endLockAttempt (doorId : String) (answer : LockAnswer) :
    Agree SameButNames (endLockAttempt doorId answer) (endLockAttempt doorId answer) := by
  refine Agree.bind (.query fun s t h => ?_) fun confirmed =>
    (agree_note doorId .autoLocked _).bind fun _ => agree_callService _
  rw [h.service]

/-! ### Runs -/

section
variable [Host] {s t : Site}

/-- The step lemma. -/
theorem SameButNames.request (h : SameButNames s t) (headers headers' : HeaderDictionary)
    (e : Event) : SameButNames (s.request (headers, e)) (t.request (headers', e)) := by
  cases e with
  | unlock id durationMinutes c => exact (agree_unlock id durationMinutes c _ _ s t h).2
  | lock id c => exact (agree_lock id c _ _ s t h).2
  | unlockDoorTool arguments c => exact (agree_unlockDoorTool arguments c s t h).2
  | lockDoorTool arguments c => exact (agree_lockDoorTool arguments c s t h).2
  | updateDoorStates doorId lockState contactState =>
    exact ⟨congrArg (fun service => service.step (.updateDoorStates doorId lockState contactState))
      h.service, h.accessLogs, h.broadcasts, h.operations⟩
  | countdownExpired doorId =>
    exact ⟨congrArg (fun service => service.step (.countdownExpired doorId)) h.service,
      h.accessLogs, h.broadcasts, h.operations⟩
  | retryExpired doorId =>
    exact ⟨congrArg (fun service => service.step (.retryExpired doorId)) h.service,
      h.accessLogs, h.broadcasts, h.operations⟩
  | lockAttemptEnded doorId answer =>
    show SameButNames (if s.service.allows doorId (.lockAttemptEnded true) = true then
        ((endLockAttempt doorId answer).exec s).2 else s)
      (if t.service.allows doorId (.lockAttemptEnded true) = true then
        ((endLockAttempt doorId answer).exec t).2 else t)
    rw [h.service]
    split
    · exact (agree_endLockAttempt doorId answer s t h).2
    · exact h

/-- The run lemma. -/
theorem SameButNames.run {requests requests' : List (HeaderDictionary × Event)}
    (h : SameButNames s t) (hsame : requests.map Prod.snd = requests'.map Prod.snd) :
    SameButNames (requests.foldl Site.request s) (requests'.foldl Site.request t) := by
  induction requests generalizing requests' s t with
  | nil =>
    rw [List.map_nil] at hsame
    rw [List.map_eq_nil_iff.mp hsame.symm]
    exact h
  | cons x requests ih =>
    obtain ⟨x', rest, rfl, hx, hrest⟩ := List.map_eq_cons_iff.mp hsame.symm
    obtain ⟨headers, e⟩ := x
    obtain ⟨headers', e'⟩ := x'
    cases hx
    rw [List.foldl_cons, List.foldl_cons]
    exact ih (h.request headers headers' e) hrest.symm

/-- **The headers say no more than the name**: take a site, and two runs of the same requests, tools
and timers with any headers. Then the service with its doors, the successful operations, the rows of
the audit log and the entries of the live feed are the same after both runs, up to the names of the
users, and the next request for a door is answered alike with any headers. -/
theorem headers_only_name (s : Site) (requests requests' : List (HeaderDictionary × Event))
    (hsame : requests.map Prod.snd = requests'.map Prod.snd) :
    SameButNames (requests.foldl Site.request s) (requests'.foldl Site.request s)
      ∧ ∀ (id : String) (durationMinutes : Option (BitVec 32)) (c : Circumstances)
          (headers headers' : HeaderDictionary),
        ((DoorCommands.unlock id durationMinutes (c.withHeaders headers)).exec
            (requests.foldl Site.request s)).1
          = ((DoorCommands.unlock id durationMinutes (c.withHeaders headers')).exec
            (requests'.foldl Site.request s)).1
        ∧ ((DoorCommands.lock id (c.withHeaders headers)).exec
            (requests.foldl Site.request s)).1
          = ((DoorCommands.lock id (c.withHeaders headers')).exec
            (requests'.foldl Site.request s)).1 := by
  have hrun := SameButNames.run (SameButNames.refl s) hsame
  exact ⟨hrun, fun id durationMinutes c headers headers' =>
    ⟨(agree_unlock id durationMinutes c _ _ _ _ hrun).1, (agree_lock id c _ _ _ _ hrun).1⟩⟩

end

/-! ### The names in the audit log -/

/-- The rows that the request can append: its door, its event, and the name of its sender. -/
def Signs (headers : HeaderDictionary) : Event → AccessLogRow → Prop
  | .unlock id _ c, row => row.accessPointId = id ∧ row.eventType = .unlocked
    ∧ row.userName = signature headers ∧ row.timestamp = c.utcNow
  | .lock id c, row => row.accessPointId = id ∧ row.eventType = .locked
    ∧ row.userName = signature headers ∧ row.timestamp = c.utcNow
  | .unlockDoorTool arguments c, row => parseDoorId arguments = .ok (.ok row.accessPointId)
    ∧ row.eventType = .unlocked ∧ row.userName = "MCP Assistant" ∧ row.timestamp = c.utcNow
  | .lockDoorTool arguments c, row => parseDoorId arguments = .ok (.ok row.accessPointId)
    ∧ row.eventType = .locked ∧ row.userName = "MCP Assistant" ∧ row.timestamp = c.utcNow
  | _, _ => False

/-- Every row was there before, or satisfies `P`. -/
def RowsSatisfy (before : List AccessLogRow) (P : AccessLogRow → Prop) (s : Site) : Prop :=
  ∀ row ∈ s.accessLogs.rows, row ∈ before ∨ P row

section
variable {before : List AccessLogRow} {P : AccessLogRow → Prop}

/-- An operation of the service adds no entry. -/
theorem preserves_callService {α : Type} (method : DoorOperationService.Operation α) :
    Preserves (RowsSatisfy before P) (callService method) := fun _ h => h

/-- The note of an operation adds no entry. -/
theorem preserves_note (doorId : String) (eventType : AccessEventType) (success : Bool) :
    Preserves (RowsSatisfy before P) (note doorId eventType success) := by
  refine .modify fun s h => ?_
  cases success with
  | false => exact h
  | true => exact h

/-- A broadcast stores nothing. -/
theorem preserves_broadcast (log : Core.AccessLog) :
    Preserves (RowsSatisfy before P) (broadcast log) := .modify fun _ h => h

/-- The tool's part of an unlock adds no entry. -/
theorem preserves_unlockDoor (doorId : String) (durationMinutes : Option (BitVec 32))
    (answer : LockAnswer) :
    Preserves (RowsSatisfy before P) (unlockDoor doorId durationMinutes answer) :=
  (preserves_callService _).bind fun success =>
    (preserves_note doorId .unlocked success).bind fun _ => .pure _ _

/-- The tool's part of a lock adds no entry. -/
theorem preserves_lockDoor (doorId : String) (answer : LockAnswer) :
    Preserves (RowsSatisfy before P) (lockDoor doorId answer) :=
  (preserves_callService _).bind fun success =>
    (preserves_note doorId .locked success).bind fun _ => .pure _ _

/-- An insert adds the row of its entry, and nothing else. -/
theorem preserves_insertLog {log : Core.AccessLog} {userName : String}
    (hname : log.userName = some userName) (h : P (AuditLogRepository.toRow log userName))
    (canceled : Bool) : Preserves (RowsSatisfy before P) (insertLog log canceled) := by
  unfold insertLog
  cases canceled with
  | true => exact .throw _ _
  | false =>
    refine .statement fun s s' hs hs' => ?_
    cases hinsert : AuditLogRepository.insertAsync log s.service.db s.accessLogs with
    | error e =>
      rw [hinsert] at hs'
      cases hs'
    | ok accessLogs =>
      rw [hinsert] at hs'
      cases hs'
      obtain ⟨name, hsome, -, -, hrows⟩ := AuditLogRepository.insertAsync_eq_ok_iff.mp hinsert
      rw [hname] at hsome
      cases hsome
      intro row hrow
      change row ∈ accessLogs.rows at hrow
      rw [hrows] at hrow
      rcases List.mem_append.mp hrow with hrow | hrow
      · exact hs row hrow
      · rw [List.mem_singleton.mp hrow]
        exact Or.inr h

variable [Host]

/-- What an unlock request adds to the audit log is a row for an entry with the name of its
sender. -/
theorem preserves_unlock {id : String} {durationMinutes : Option (BitVec 32)} {c : Circumstances}
    (h : ∀ guid details, P (AuditLogRepository.toRow (webLog guid id .unlocked details c)
      (c.userName.getD "Web User"))) :
    Preserves (RowsSatisfy before P) (DoorCommands.unlock id durationMinutes c) := by
  refine (Preserves.query _ _).bind fun door => ?_
  cases door with
  | none => exact .pure _ _
  | some door =>
    refine (preserves_unlockDoor id durationMinutes c.answer).bind fun success =>
      .ite (.pure _ _) ((Preserves.query _ _).bind fun guid => ?_)
    exact (preserves_insertLog rfl (h guid _) c.canceled).bind fun _ =>
      (preserves_broadcast _).bind fun _ => .pure _ _

/-- What a lock request adds to the audit log is a row for an entry with the name of its sender. -/
theorem preserves_lock {id : String} {c : Circumstances}
    (h : ∀ guid details, P (AuditLogRepository.toRow (webLog guid id .locked details c)
      (c.userName.getD "Web User"))) :
    Preserves (RowsSatisfy before P) (DoorCommands.lock id c) := by
  refine (Preserves.query _ _).bind fun door => ?_
  cases door with
  | none => exact .pure _ _
  | some door =>
    refine (preserves_lockDoor id c.answer).bind fun success =>
      .ite (.pure _ _) ((Preserves.query _ _).bind fun guid => ?_)
    exact (preserves_insertLog rfl (h guid _) c.canceled).bind fun _ =>
      (preserves_broadcast _).bind fun _ => .pure _ _

/-- What the unlock tool adds to the audit log is a row under the name of the MCP assistant. -/
theorem preserves_unlockDoorTool {arguments : Option JsonElement} {c : Circumstances}
    (h : ∀ guid doorId details, parseDoorId arguments = .ok (.ok doorId) →
      P (AuditLogRepository.toRow (toolLog guid doorId .unlocked details c) "MCP Assistant")) :
    Preserves (RowsSatisfy before P) (DoorCommands.unlockDoorAsync arguments c) := by
  intro s hs
  unfold DoorCommands.unlockDoorAsync
  rw [exec_bind, exec_read]
  -- `Preserves.bind` would forget that the door is the parsed one.
  rcases hparse : parseDoorId arguments with e | text | doorId
  · exact hs
  · exact hs
  refine Preserves.bind (.query _ _) (fun door => ?_) s hs
  cases door with
  | none => exact .pure _ _
  | some door =>
    refine Preserves.bind (fun _ h => h) fun durationMinutes =>
      (preserves_unlockDoor doorId durationMinutes c.answer).bind fun success =>
        .ite (.pure _ _) ((Preserves.query _ _).bind fun guid => ?_)
    exact (preserves_insertLog rfl (h guid doorId _ hparse) c.canceled).bind fun _ => .pure _ _

/-- What the lock tool adds to the audit log is a row under the name of the MCP assistant. -/
theorem preserves_lockDoorTool {arguments : Option JsonElement} {c : Circumstances}
    (h : ∀ guid doorId details, parseDoorId arguments = .ok (.ok doorId) →
      P (AuditLogRepository.toRow (toolLog guid doorId .locked details c) "MCP Assistant")) :
    Preserves (RowsSatisfy before P) (DoorCommands.lockDoorAsync arguments c) := by
  intro s hs
  unfold DoorCommands.lockDoorAsync
  rw [exec_bind, exec_read]
  rcases hparse : parseDoorId arguments with e | text | doorId
  · exact hs
  · exact hs
  refine Preserves.bind (.query _ _) (fun door => ?_) s hs
  cases door with
  | none => exact .pure _ _
  | some door =>
    refine (preserves_lockDoor doorId c.answer).bind fun success =>
      .ite (.pure _ _) ((Preserves.query _ _).bind fun guid => ?_)
    exact (preserves_insertLog rfl (h guid doorId _ hparse) c.canceled).bind fun _ => .pure _ _

/-- The step lemma: the rows of one request are signed by it. -/
theorem rowsSatisfy_request (s : Site) (headers : HeaderDictionary) (e : Event) :
    RowsSatisfy s.accessLogs.rows (Signs headers e) (s.request (headers, e)) := by
  have hs : RowsSatisfy s.accessLogs.rows (Signs headers e) s := fun row hrow => Or.inl hrow
  cases e with
  | unlock id durationMinutes c =>
    refine preserves_unlock (fun guid details => ⟨rfl, rfl, ?_, rfl⟩) s hs
    show (invokeAsync headers {}).name.getD "Web User" = signature headers
    rw [name_invokeAsync, signature]
  | lock id c =>
    refine preserves_lock (fun guid details => ⟨rfl, rfl, ?_, rfl⟩) s hs
    show (invokeAsync headers {}).name.getD "Web User" = signature headers
    rw [name_invokeAsync, signature]
  | unlockDoorTool arguments c =>
    exact preserves_unlockDoorTool (fun guid doorId details hparse => ⟨hparse, rfl, rfl, rfl⟩) s hs
  | lockDoorTool arguments c =>
    exact preserves_lockDoorTool (fun guid doorId details hparse => ⟨hparse, rfl, rfl, rfl⟩) s hs
  | updateDoorStates doorId lockState contactState => exact hs
  | countdownExpired doorId => exact hs
  | retryExpired doorId => exact hs
  | lockAttemptEnded doorId answer =>
    show RowsSatisfy _ _ (if s.service.allows doorId (.lockAttemptEnded true) = true then
      ((endLockAttempt doorId answer).exec s).2 else s)
    split
    · exact Preserves.bind (.query _ _) (fun confirmed => (preserves_note doorId _ _).bind fun _ =>
        preserves_callService _) s hs
    · exact hs

/-- **Whom the audit log names**: after every run from every site, a row of the audit log was there
before, or one request of the run has appended it: it is about the request's door and event, and
its name is the text of the request's header for the user, `Web User` without one, or
`MCP Assistant` for a tool. -/
theorem named_after_headers (s : Site) (requests : List (HeaderDictionary × Event)) :
    ∀ row ∈ (requests.foldl Site.request s).accessLogs.rows,
      row ∈ s.accessLogs.rows ∨ ∃ request ∈ requests, Signs request.1 request.2 row := by
  induction requests generalizing s with
  | nil => exact fun row hrow => Or.inl hrow
  | cons x requests ih =>
    intro row hrow
    -- The rows before the rest of the run are those of the first request.
    rcases ih (s.request x) row hrow with hstep | ⟨request, hmem, hsigns⟩
    · rcases rowsSatisfy_request s x.1 x.2 row hstep with hbefore | hsigns
      · exact Or.inl hbefore
      · exact Or.inr ⟨x, List.mem_cons_self, hsigns⟩
    · exact Or.inr ⟨request, List.mem_cons_of_mem _ hmem, hsigns⟩

end

/-! ### The front door is unlocked, with and without a user -/

section
/-- The host of the samples. -/
local instance forwardAuthHost : Host := Host.sample

open CodeMaster.Proofs.Engine.Evaluate (frontDoorOnly)

/-- A request that unlocks the front door. -/
def unlockFront : Event :=
  .unlock "front" none { utcNow := { ticks := 0 }, answer := .returned true }

/-- The proxy names the user `ada`. -/
def adaHeaders : HeaderDictionary := fun name =>
  if name = "Remote-User" then some ["ada"] else none

/-- A site with one door. -/
def frontSite : Site where
  service := { db := frontDoorOnly }

/-- The site after the request under these headers. -/
def unlockedBy (headers : HeaderDictionary) : Site :=
  [(headers, unlockFront)].foldl Site.request frontSite

/-- With the header and without it, the door is unlocked alike, and the entries have the names `ada`
and `Web User`. -/
theorem headers_only_name_sample :
    SameButNames (unlockedBy adaHeaders) (unlockedBy fun _ => none)
      ∧ (unlockedBy adaHeaders).accessLogs.rows.map AccessLogRow.userName = ["ada"]
      ∧ (unlockedBy fun _ => none).accessLogs.rows.map AccessLogRow.userName = ["Web User"] :=
  ⟨(headers_only_name frontSite [(adaHeaders, unlockFront)] [(fun _ => none, unlockFront)] rfl).1,
    by decide, by decide⟩

/-- The entry of the request. -/
def adaRow : AccessLogRow := (unlockedBy adaHeaders).accessLogs.rows.head (by decide)

/-- The entry has the name that the header gives. -/
theorem named_after_headers_sample :
    adaRow ∈ (unlockedBy adaHeaders).accessLogs.rows
      ∧ (adaRow ∈ frontSite.accessLogs.rows
        ∨ ∃ request ∈ [(adaHeaders, unlockFront)], Signs request.1 request.2 adaRow) :=
  ⟨List.head_mem _,
    named_after_headers frontSite [(adaHeaders, unlockFront)] adaRow (List.head_mem _)⟩

end

end CodeMaster.Proofs.ForwardAuth
