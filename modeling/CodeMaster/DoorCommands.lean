import CodeMaster.Data.AuditLogRepository
import CodeMaster.Engine.DoorOperationService
import CodeMaster.Mcp.DoorTools
import CodeMaster.Web.AccessPointsController
import CodeMaster.Web.ForwardAuthMiddleware

/-!
# `CodeMaster.DoorCommands`: the paths to a door operation, and what they record

A door is locked or unlocked by a web request, by a tool of the MCP server, and by the auto-lock
timers. A `Site` is the service with the audit log and the entries that
`AccessEventBroadcaster.Broadcast` was given. `operations` notes the calls of the service that
have returned true. No function reads it.

Each request runs to its end. Its `Circumstances` are what it meets: the signed-in user, the
clock, the lock's answer, and whether its token is canceled when it has got the answer. The
insert of an entry with a canceled token throws.
-/

set_option autoImplicit false

namespace CodeMaster.DoorCommands

open CodeMaster.Core Data CodeMaster.Engine CodeMaster.Web CodeMaster.Mcp Exec

/-- What the paths of a command read and write: the service with the database, the audit log, the
live feed, and the operations that succeeded so far. -/
structure Site where
  service : DoorOperationService := {}
  accessLogs : AccessLogs := .empty
  broadcasts : List AccessLog := []
  operations : List (String × AccessEventType) := []

/-- What a request or a tool can throw. -/
inductive CommandException where
  | tool (e : ToolException)
  | operation (e : DoorOperationException)
  | auditLog (e : AuditLogException)
  | operationCanceled
  deriving DecidableEq, Repr

/-- A program over the site. -/
abbrev Command := Exec CommandException Site

/-- What a request meets: its user, the time, the answer of the lock, and whether its client goes
away. -/
structure Circumstances where
  userName : Option String := none
  utcNow : DateTime
  answer : LockAnswer
  canceled : Bool := false
  deriving DecidableEq, Repr

/-! ### The parts of a path -/

/-- A method of the service. What it has done stays when it throws. -/
def callService {α : Type} (method : DoorOperationService.Operation α) : Command α := fun s =>
  ((method.exec s.service).1.mapError .operation, { s with service := (method.exec s.service).2 })

/-- Note a successful operation. -/
def note (doorId : String) (eventType : AccessEventType) (success : Bool) : Command Unit :=
  modify fun s =>
    if success then { s with operations := s.operations ++ [(doorId, eventType)] } else s

/-- `_doorOps.UnlockDoorAsync`. -/
def unlockDoor (doorId : String) (durationMinutes : Option (BitVec 32)) (answer : LockAnswer) :
    Command Bool := do
  let success ← callService (DoorOperationService.unlockDoorAsync doorId durationMinutes answer)
  note doorId .unlocked success
  return success

/-- `_doorOps.LockDoorAsync`. -/
def lockDoor (doorId : String) (answer : LockAnswer) : Command Bool := do
  let success ← callService (DoorOperationService.lockDoorAsync doorId answer)
  note doorId .locked success
  return success

/-- `_auditRepo.InsertAsync`. -/
def insertLog (log : AccessLog) (canceled : Bool) : Command Unit := do
  -- The statement is not sent when the token is already canceled.
  if canceled then
    throw .operationCanceled
  statement fun s =>
    match AuditLogRepository.insertAsync log s.service.db s.accessLogs with
    | .ok accessLogs => .ok { s with accessLogs }
    | .error e => .error (.auditLog e)

/-- `_eventBroadcaster.Broadcast`. -/
def broadcast (log : AccessLog) : Command Unit :=
  modify fun s => { s with broadcasts := s.broadcasts ++ [log] }

/-- A step of a tool that reads its arguments. -/
def read {α : Type} (x : Except ToolException α) : Command α := fun s => (x.mapError .tool, s)

/-- A call of the service changes the service. -/
@[simp] theorem exec_callService {α : Type} (method : DoorOperationService.Operation α) (s : Site) :
    (callService method).exec s
      = ((method.exec s.service).1.mapError .operation,
          { s with service := (method.exec s.service).2 }) := rfl

/-- The operation is noted when it has succeeded. -/
@[simp] theorem exec_note (doorId : String) (eventType : AccessEventType) (success : Bool)
    (s : Site) :
    (note doorId eventType success).exec s
      = (.ok (), if success then { s with operations := s.operations ++ [(doorId, eventType)] }
          else s) := rfl

/-- An entry is sent to the live feed. -/
@[simp] theorem exec_broadcast (log : AccessLog) (s : Site) :
    (broadcast log).exec s = (.ok (), { s with broadcasts := s.broadcasts ++ [log] }) := rfl

/-- Reading the arguments changes nothing. -/
@[simp] theorem exec_read {α : Type} (x : Except ToolException α) (s : Site) :
    (read x).exec s = (x.mapError .tool, s) := rfl

/-! ### The web requests -/

/-- What `Unlock` and `Lock` answer. -/
inductive DoorResult where
  | notFound (error : String)
  | failed (error : String)
  | ok (lockState doorId : String)
  deriving DecidableEq, Repr

/-- The text of `durationMinutes.Value`. -/
def minutesText (minutes : BitVec 32) : String := toString minutes.toInt

/-- The details of `Unlock`. -/
def unlockDetails : Option (BitVec 32) → String
  | some minutes => "Remote unlock via API (" ++ minutesText minutes ++ "m auto-lock)"
  | none => "Remote unlock via API"

/-- The entry of `Unlock` and `Lock`. -/
def webLog (guid id : String) (eventType : AccessEventType) (details : String)
    (c : Circumstances) : AccessLog where
  id := guid
  accessPointId := id
  userName := some (c.userName.getD "Web User")
  eventType := eventType
  method := .manual
  timestamp := c.utcNow
  details := some details

section
variable [Host]

/-- `Guid.NewGuid().ToString()`, the initializer of the entry's id. -/
def newLogId : Command String := query fun s => AuditLogRepository.newGuid s.service.db s.accessLogs

/-- `POST {id}/unlock`. -/
def unlock (id : String) (durationMinutes : Option (BitVec 32)) (c : Circumstances) :
    Command DoorResult := do
  match ← query fun s => AccessPointRepository.getByIdAsync s.service.db id with
  | none => return .notFound (AccessPointsController.doorNotFound id)
  | some door =>
    let success ← unlockDoor id durationMinutes c.answer
    if !success then
      return .failed ("Failed to unlock door '" ++ door.name ++ "'")
    -- From here on the door is unlocked, whatever becomes of the entry.
    let guid ← newLogId
    let log := webLog guid id .unlocked (unlockDetails durationMinutes) c
    insertLog log c.canceled
    broadcast log
    return .ok "Unlocked" id

/-- `POST {id}/lock`. -/
def lock (id : String) (c : Circumstances) : Command DoorResult := do
  match ← query fun s => AccessPointRepository.getByIdAsync s.service.db id with
  | none => return .notFound (AccessPointsController.doorNotFound id)
  | some door =>
    let success ← lockDoor id c.answer
    if !success then
      return .failed ("Failed to lock door '" ++ door.name ++ "'")
    let guid ← newLogId
    let log := webLog guid id .locked "Remote lock via API" c
    insertLog log c.canceled
    broadcast log
    return .ok "Locked" id

/-! ### The tools -/

/-- The check at the head of both tools: the door id, or the text of the error result. -/
def parseDoorId (arguments : Option JsonElement) :
    Except ToolException (Except String String) := do
  let some args := arguments | return .error "Missing required parameter: 'doorId'"
  let some property ← args.tryGetProperty "doorId"
    | return .error "Missing required parameter: 'doorId'"
  let doorId ← property.getString
  if isNullOrWhiteSpace doorId then
    return .error "Parameter 'doorId' cannot be empty"
  return .ok (doorId.getD "")

/-- The decimal digits of a number, all of them. -/
def parseDigits (digits : List Char) : Option Nat :=
  if digits.isEmpty then none
  else digits.foldl (fun value c => do
    if c.isDigit then return 10 * (← value) + (c.toNat - '0'.toNat) else none) (some 0)

/-- The text of a JSON number as an `int`. A fraction, an exponent or an overflow is none. -/
def parseInt32 (text : String) : Option (BitVec 32) := do
  let value : Int ← match text.toList with
    | '-' :: digits => (parseDigits digits).map fun n => -(n : Int)
    | digits => (parseDigits digits).map Int.ofNat
  if -2147483648 ≤ value ∧ value ≤ 2147483647 then some (BitVec.ofInt 32 value) else none

/-- `TryGetInt32`. -/
def tryGetInt32 : JsonElement → Except ToolException (Option (BitVec 32))
  | .number text => .ok (parseInt32 text)
  | e => .error (.wrongType "Number" e.valueKind)

/-- The optional argument of `UnlockDoorAsync`. -/
def parseDuration (arguments : Option JsonElement) :
    Except ToolException (Option (BitVec 32)) := do
  let some args := arguments | return none
  match ← args.tryGetProperty "durationMinutes" with
  | none => return none
  -- A number that is no `int` counts as missing; another type throws.
  | some property => tryGetInt32 property

/-- The details of `UnlockDoorAsync`. -/
def unlockToolDetails : Option (BitVec 32) → String
  | some minutes => "Unlocked via MCP tool with " ++ minutesText minutes ++ "m auto-lock override"
  | none => "Unlocked via MCP tool"

/-- The entry of the two tools. -/
def toolLog (guid doorId : String) (eventType : AccessEventType) (details : String)
    (c : Circumstances) : AccessLog where
  id := guid
  accessPointId := doorId
  userName := some "MCP Assistant"
  eventType := eventType
  method := .manual
  timestamp := c.utcNow
  details := some details

/-- `codemaster__unlock_door`. -/
def unlockDoorAsync (arguments : Option JsonElement) (c : Circumstances) :
    Command McpToolCallResult := do
  match ← read (parseDoorId arguments) with
  | .error text => return DoorTools.failure text
  | .ok doorId =>
    match ← query fun s => AccessPointRepository.getByIdAsync s.service.db doorId with
    | none => return DoorTools.failure (AccessPointsController.doorNotFound doorId)
    | some door =>
      let durationMinutes ← read (parseDuration arguments)
      let success ← unlockDoor doorId durationMinutes c.answer
      if !success then
        return DoorTools.failure
          ("Failed to unlock door '" ++ door.name ++ "' (" ++ doorId ++ ")")
      let guid ← newLogId
      -- The entry is stored, and no subscriber of the live feed gets it.
      insertLog (toolLog guid doorId .unlocked (unlockToolDetails durationMinutes) c) c.canceled
      return .text ("Successfully unlocked door '" ++ door.name ++ "' (" ++ doorId ++ ").") false

/-- `codemaster__lock_door`. -/
def lockDoorAsync (arguments : Option JsonElement) (c : Circumstances) :
    Command McpToolCallResult := do
  match ← read (parseDoorId arguments) with
  | .error text => return DoorTools.failure text
  | .ok doorId =>
    match ← query fun s => AccessPointRepository.getByIdAsync s.service.db doorId with
    | none => return DoorTools.failure (AccessPointsController.doorNotFound doorId)
    | some door =>
      let success ← lockDoor doorId c.answer
      if !success then
        return DoorTools.failure ("Failed to lock door '" ++ door.name ++ "' (" ++ doorId ++ ")")
      let guid ← newLogId
      insertLog (toolLog guid doorId .locked "Locked via MCP tool" c) c.canceled
      return .text ("Successfully locked door '" ++ door.name ++ "' (" ++ doorId ++ ").") false

end

/-! ### The auto-lock -/

/-- The end of a lock attempt of the auto-lock. The callback of the machine is `LockDoorAsync` of
the service, and nothing else. -/
def endLockAttempt (doorId : String) (answer : LockAnswer) : Command Unit := do
  let confirmed ← query fun s =>
    ((DoorOperationService.lockDoorAsync doorId answer).exec s.service).1
  note doorId .autoLocked (confirmed = .ok true)
  callService (DoorOperationService.endLockAttempt doorId answer)

/-! ### Runs -/

/-- What happens at a site. -/
inductive Event where
  | unlock (id : String) (durationMinutes : Option (BitVec 32)) (c : Circumstances)
  | lock (id : String) (c : Circumstances)
  | unlockDoorTool (arguments : Option JsonElement) (c : Circumstances)
  | lockDoorTool (arguments : Option JsonElement) (c : Circumstances)
  | updateDoorStates (doorId : String) (lockState : Option LockState)
      (contactState : Option DoorContactState)
  | countdownExpired (doorId : String)
  | retryExpired (doorId : String)
  | lockAttemptEnded (doorId : String) (answer : LockAnswer)

/-- One event. A request or a tool that throws leaves what it has done. -/
def Site.step [Host] (s : Site) : Event → Site
  | .unlock id durationMinutes c => ((DoorCommands.unlock id durationMinutes c).exec s).2
  | .lock id c => ((DoorCommands.lock id c).exec s).2
  | .unlockDoorTool arguments c => ((DoorCommands.unlockDoorAsync arguments c).exec s).2
  | .lockDoorTool arguments c => ((DoorCommands.lockDoorAsync arguments c).exec s).2
  | .updateDoorStates doorId lockState contactState =>
    { s with service := s.service.step (.updateDoorStates doorId lockState contactState) }
  | .countdownExpired doorId => { s with service := s.service.step (.countdownExpired doorId) }
  | .retryExpired doorId => { s with service := s.service.step (.retryExpired doorId) }
  | .lockAttemptEnded doorId answer =>
    if s.service.allows doorId (.lockAttemptEnded true) then
      ((endLockAttempt doorId answer).exec s).2
    else s

/-! ### The headers of the requests -/

/-- The request comes with these headers, and nobody has signed in before. -/
def Circumstances.withHeaders (c : Circumstances) (headers : HeaderDictionary) : Circumstances :=
  { c with userName := (ForwardAuthMiddleware.invokeAsync headers {}).name }

/-- The tools and the timers do not read the user. -/
def Event.withHeaders (headers : HeaderDictionary) : Event → Event
  | .unlock id durationMinutes c => .unlock id durationMinutes (c.withHeaders headers)
  | .lock id c => .lock id (c.withHeaders headers)
  | e => e

/-- One event, with the headers of its request. -/
def Site.request [Host] (s : Site) (request : HeaderDictionary × Event) : Site :=
  s.step (request.2.withHeaders request.1)

end CodeMaster.DoorCommands
