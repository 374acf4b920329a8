import CodeMaster.Lib.Exec
import CodeMaster.Data.Repositories

/-!
# `CodeMaster.Mcp.DoorTools`: the tools that provision and revoke a guest

A tool gets its arguments as a JSON value, and answers with a text or with a result object.
`runTool` is the `try` and `catch` of `ExecuteToolAsync`: an exception becomes an error
result, and what the tool has written before stays.

The serialized text of a result object is left out, and so are the tools that only read. The
tools that lock and unlock a door are in `DoorCommands`.
-/

set_option autoImplicit false

namespace CodeMaster.Mcp

open CodeMaster.Core Data Exec

/-- A JSON value. A number keeps its text. -/
inductive JsonElement where
  | null
  | bool (value : Bool)
  | number (text : String)
  | string (value : String)
  | array (items : List JsonElement)
  | object (members : List (String × JsonElement))

/-- The exceptions that a tool can meet. -/
inductive ToolException where
  | sqlite (e : SqliteException)
  | wrongType (expected actual : String)
  deriving DecidableEq, Repr

/-- `Exception.Message`. -/
def ToolException.message : ToolException → String
  | .sqlite e => e.message
  | .wrongType expected actual =>
    "The requested operation requires an element of type '" ++ expected
      ++ "', but the target element has type '" ++ actual ++ "'."

namespace JsonElement

/-- The name of `ValueKind`. -/
def valueKind : JsonElement → String
  | .null => "Null"
  | .bool true => "True"
  | .bool false => "False"
  | .number _ => "Number"
  | .string _ => "String"
  | .array _ => "Array"
  | .object _ => "Object"

/-- `TryGetProperty`. Of several members with the name, the last one counts. -/
def tryGetProperty (name : String) : JsonElement → Except ToolException (Option JsonElement)
  | .object members => .ok (members.reverse.lookup name)
  | e => .error (.wrongType "Object" e.valueKind)

/-- `GetString`. -/
def getString : JsonElement → Except ToolException (Option String)
  | .string value => .ok (some value)
  | .null => .ok none
  | e => .error (.wrongType "String" e.valueKind)

end JsonElement

/-- The object that `CreateGuestPinAsync` answers with. -/
structure GuestPin where
  status : String := "created"
  userId : String
  userName : String
  credentialId : String
  policyId : String
  validFrom : DateTime
  validUntil : DateTime
  doors : List String
  deriving DecidableEq, Repr

/-- The result of a tool: a text, or the guest PIN that was made. -/
inductive McpToolCallResult where
  | text (text : String) (isError : Bool)
  | guestPin (result : GuestPin)
  deriving DecidableEq, Repr

/-- Whether the result reports an error. -/
def McpToolCallResult.isError : McpToolCallResult → Bool
  | .text _ isError => isError
  | .guestPin _ => false

namespace DoorTools

/-- A tool that works on the database. -/
abbrev Tool := Exec ToolException Db McpToolCallResult

/-- A statement of a repository. -/
def execute (f : Db → Except SqliteException Db) : Exec ToolException Db Unit :=
  statement fun db => (f db).mapError .sqlite

/-- A statement that succeeds. -/
theorem execute_of_ok {f : Db → Except SqliteException Db} {db db' : Db} (h : f db = .ok db') :
    (execute f).exec db = (.ok (), db') :=
  exec_statement_of_ok (by rw [h]; rfl)

/-- A statement that throws, which ends the tool. -/
theorem execute_of_error {f : Db → Except SqliteException Db} {db : Db} {e : SqliteException}
    (h : f db = .error e) : (execute f).exec db = (.error (.sqlite e), db) :=
  exec_statement_of_error (by rw [h]; rfl)

/-- An error result. -/
def failure (text : String) : McpToolCallResult := .text text true

/-- The checked arguments of `CreateGuestPinAsync`. -/
structure GuestPinArguments where
  name : String
  pin : String
  validFrom : DateTime
  validUntil : DateTime
  doorIds : List String
  deriving DecidableEq, Repr

section
variable [Host]

/-- A required string: the property exists and is not blank. -/
def requiredString (name : String) (args : JsonElement) :
    Except ToolException (Option String) := do
  match ← args.tryGetProperty name with
  | none => return none
  | some property =>
    let value ← property.getString
    return if isNullOrWhiteSpace value then none else value

/-- A required date: the property exists and is a date. -/
def requiredDate (name : String) (args : JsonElement) :
    Except ToolException (Option DateTime) := do
  match ← args.tryGetProperty name with
  | none => return none
  | some property => return (← property.getString).bind Host.tryParseDateTime

/-- The loop over `doorIds`, which skips the blank ones. -/
def collectDoorIds : List JsonElement → Except ToolException (List String)
  | [] => return []
  | item :: items => do
    let did ← item.getString
    let rest ← collectDoorIds items
    return if isNullOrWhiteSpace did then rest else did.getD "" :: rest

/-- The checks at the head of `CreateGuestPinAsync`: the arguments, or the text of the error
result. -/
def parseGuestPin (arguments : Option JsonElement) :
    Except ToolException (Except String GuestPinArguments) := do
  let some args := arguments | return .error "Missing arguments object"
  let some name ← requiredString "name" args
    | return .error "Missing required parameter: 'name'"
  let some pin ← requiredString "pin" args
    | return .error "Missing required parameter: 'pin'"
  let some validFrom ← requiredDate "validFrom" args
    | return .error "Missing or invalid ISO date: 'validFrom'"
  let some validUntil ← requiredDate "validUntil" args
    | return .error "Missing or invalid ISO date: 'validUntil'"
  let some (.array items) ← args.tryGetProperty "doorIds"
    | return .error "Missing required array: 'doorIds'"
  let doorIds ← collectDoorIds items
  if doorIds.isEmpty then
    return .error "At least one doorId must be provided in 'doorIds'"
  return .ok { name, pin, validFrom, validUntil, doorIds }

/-- The four steps of `CreateGuestPinAsync` after its checks: the user, the credential, the
policy, and one assignment for each door. -/
def provisionGuest (args : GuestPinArguments) (utcNow : DateTime) : Tool := do
  let guid ← query Db.newGuid
  let user : User :=
    { id := guid, name := args.name, role := .guest, isActive := true
      createdAt := utcNow, updatedAt := utcNow }
  execute (UserRepository.insertAsync user)
  let guid ← query Db.newGuid
  let credential : Credential :=
    { id := guid
      userId := user.id
      type := .pin
      encryptedValue := some args.pin
      hashedValue := Host.sha256Hex args.pin
      pinLength := utf16Length args.pin
      label := some "Guest PIN"
      createdAt := utcNow }
  execute (CredentialRepository.insertAsync credential)
  let guid ← query Db.newGuid
  let policy : AccessPolicy :=
    { id := guid
      name := args.name ++ " Guest Window"
      scheduleType := .dateRange
      validFrom := some args.validFrom.toUniversalTime
      validUntil := some args.validUntil.toUniversalTime
      isEnabled := true }
  execute (AccessPolicyRepository.insertAsync policy)
  -- A door that is not stored stops the loop.
  forM args.doorIds fun doorId => do
    let guid ← query Db.newGuid
    execute (AccessPolicyRepository.assignPolicyAsync
      { id := guid, accessPointId := doorId, userId := some user.id, policyId := policy.id })
  return .guestPin
    { userId := user.id
      userName := user.name
      credentialId := credential.id
      policyId := policy.id
      validFrom := args.validFrom.toUniversalTime
      validUntil := args.validUntil.toUniversalTime
      doors := args.doorIds }

/-- `CreateGuestPinAsync`: a user, the PIN, the policy of the window, and its assignment at each
door. -/
def createGuestPinAsync (arguments : Option JsonElement) (utcNow : DateTime) : Tool := do
  match parseGuestPin arguments with
  | .error e => throw e
  | .ok (.error text) => return failure text
  | .ok (.ok args) => provisionGuest args utcNow

/-- The check at the head of `RevokeUserAsync`: the user id, or the text of the error
result. -/
def parseRevoke (arguments : Option JsonElement) :
    Except ToolException (Except String String) := do
  let some args := arguments | return .error "Missing required parameter: 'userId'"
  let some property ← args.tryGetProperty "userId"
    | return .error "Missing required parameter: 'userId'"
  let userId ← property.getString
  if isNullOrWhiteSpace userId then
    return .error "Parameter 'userId' cannot be empty"
  return .ok (userId.getD "")

/-- The loop of `RevokeUserAsync` over the doors: the slot rows of the user lose the user and
the credential. The result is the number of rows. -/
def clearUserSlots (userId : String) (doors : List AccessPoint) (db : Db) : Nat × Db :=
  doors.foldl (fun (count, db) door =>
    ((HardwareSlotRepository.getSlotsForDoorAsync db door.id).filter fun s =>
      s.userId = some userId).foldl
        (fun (count, db) slot => (count + 1, HardwareSlotRepository.clearSlotAsync slot.id db))
        (count, db)) (0, db)

/-- `RevokeUserAsync`: the user is written as inactive, and the slots of the user are cleared at
every door. -/
def revokeUserAsync (arguments : Option JsonElement) (utcNow : DateTime) : Tool := do
  match parseRevoke arguments with
  | .error e => throw e
  | .ok (.error text) => return failure text
  | .ok (.ok userId) =>
    match ← query fun db => UserRepository.getByIdAsync db userId with
    | none => return failure ("User '" ++ userId ++ "' not found")
    | some user =>
      let user := { user with isActive := false, updatedAt := utcNow }
      execute (UserRepository.updateAsync user)
      let doors ← query AccessPointRepository.getAllAsync
      -- The rows lose the user here. No lock provider is called.
      let clearedSlotsCount ← query fun db => (clearUserSlots userId doors db).1
      modify fun db => (clearUserSlots userId doors db).2
      return .text ("User '" ++ user.name ++ "' (" ++ userId
        ++ ") revoked successfully. Cleared " ++ toString clearedSlotsCount
        ++ " hardware slots.") false

end

/-- The `try` and `catch` of `ExecuteToolAsync`. -/
def runTool (toolName : String) (tool : Tool) (db : Db) : McpToolCallResult × Db :=
  match tool.exec db with
  | (.ok result, db') => (result, db')
  | (.error e, db') =>
    (failure ("Error executing tool '" ++ toolName ++ "': " ++ e.message), db')

/-- The catch does not undo what the tool has written. -/
theorem runTool_snd (toolName : String) (tool : Tool) (db : Db) :
    (runTool toolName tool db).2 = (tool.exec db).2 := by
  unfold runTool
  rcases tool.exec db with ⟨_ | _, _⟩ <;> rfl

variable [Host]

/-- `ExecuteToolAsync("codemaster__create_guest_pin", arguments)`. -/
def createGuestPin (arguments : Option JsonElement) (utcNow : DateTime) :
    Db → McpToolCallResult × Db :=
  runTool "codemaster__create_guest_pin" (createGuestPinAsync arguments utcNow)

/-- `ExecuteToolAsync("codemaster__revoke_user", arguments)`. -/
def revokeUser (arguments : Option JsonElement) (utcNow : DateTime) :
    Db → McpToolCallResult × Db :=
  runTool "codemaster__revoke_user" (revokeUserAsync arguments utcNow)

end DoorTools

end CodeMaster.Mcp
