import CodeMaster.DoorCommands
import CodeMaster.Mcp.McpProtocol
import CodeMaster.Mcp.SseSession
import CodeMaster.Web.AccessLogsController

/-!
# `CodeMaster.Mcp.CodeMasterMcpServer`: requests to the MCP server, and its sessions

`executeToolAsync` runs a tool over the site of `DoorCommands`, `handleRequestAsync` is the switch
over the methods of the protocol, and `step` is what happens to the server: a client opens a
session, the loop of a session goes on, or `HandlePostMessageAsync` reaches its next point.

A posted request has three such points, because the method awaits twice. First it reads the body,
and an unreadable one is answered at once. Then it awaits `HandleRequestAsync`, which can take as
long as the tool takes. Last it writes the response to the session that the request names and
answers the client. Between two points of one request the server takes any other steps, so that
requests overlap, and a request that was posted later can be answered earlier. `requests` and
`responses` are the requests at the second and at the third point; an event names one of them by its
place in the list. A client waits for its answer.

One tool is one step: the statements of two tools do not overlap.

What comes from the host is an `Environment`: `parse` is the JSON reader, with no value for a
`JsonException`, `parseError` the text of this exception, `commandError` the texts of the other ones,
and `serialize` the text of a response. The result of a tool stands for its JSON text.
-/

set_option autoImplicit false

namespace CodeMaster.Mcp

open CodeMaster.Core Data CodeMaster.Engine CodeMaster.Web Exec
open CodeMaster.DoorCommands (Site Command CommandException Circumstances)

/-- What `ListDoorsAsync` tells about a door. -/
structure DoorStatus where
  id : String
  name : String
  lockState : LockState
  contactState : DoorContactState
  autoLockEnabled : Bool
  autoLockDaySeconds : Int
  autoLockNightSeconds : Int
  /-- `GetRemainingAutoLockSecondsAsync`, which is always null. -/
  remainingCountdownSeconds : Option Int := none
  lockProviderType : String
  keypadProviderType : Option String
  doorSensorProviderType : Option String
  deriving DecidableEq, Repr

/-- What a tool answers. -/
inductive ToolAnswer where
  | result (result : McpToolCallResult)
  | doors (doors : List DoorStatus)
  | logs (logs : List AccessLog)
  deriving DecidableEq, Repr

/-- Whether the answer reports an error. -/
def ToolAnswer.isError : ToolAnswer → Bool
  | .result answer => answer.isError
  | _ => false

namespace DoorTools

/-! ### The definitions of the tools -/

/-- A property of a schema. -/
def schemaProperty (type description : String) : JsonElement :=
  .object [("type", .string type), ("description", .string description)]

/-- The schema of the arguments. -/
def inputSchema (properties : List (String × JsonElement)) (required : List String) :
    JsonElement :=
  .object ([("type", .string "object"), ("properties", .object properties)]
    ++ if required = [] then [] else [("required", .array (required.map .string))])

/-- The tools, as the server describes them. -/
def getToolDefinitions : List McpToolDefinition :=
  [{ name := "codemaster__list_doors"
     description := "Returns real-time status of all access points (lock state, contact state, "
       ++ "auto-lock state)."
     inputSchema := inputSchema [] [] },
    { name := "codemaster__unlock_door"
      description := "Unlocks an access point with optional auto-lock override duration in minutes."
      inputSchema := inputSchema
        [("doorId", schemaProperty "string" "The unique ID of the access point / door"),
          ("durationMinutes",
            schemaProperty "number" "Optional auto-lock timer override in minutes")] ["doorId"] },
    { name := "codemaster__lock_door"
      description := "Immediately locks an access point."
      inputSchema := inputSchema
        [("doorId", schemaProperty "string" "The unique ID of the access point / door")]
        ["doorId"] },
    { name := "codemaster__create_guest_pin"
      description := "Provisions a temporary guest PIN valid for a specific window across "
        ++ "selected doors."
      inputSchema := inputSchema
        [("name", schemaProperty "string" "Name of the guest"),
          ("pin", schemaProperty "string" "4-8 digit numeric PIN"),
          ("validFrom", schemaProperty "string"
            "Start time in ISO 8601 UTC format (e.g. 2026-09-06T10:00:00Z)"),
          ("validUntil", schemaProperty "string"
            "End time in ISO 8601 UTC format (e.g. 2026-09-07T18:00:00Z)"),
          ("doorIds", .object
            [("type", .string "array"), ("items", .object [("type", .string "string")]),
              ("description", .string "List of door IDs accessible with this PIN")])]
        ["name", "pin", "validFrom", "validUntil", "doorIds"] },
    { name := "codemaster__revoke_user"
      description := "Deactivates a user and immediately clears hardware slots across all locks."
      inputSchema := inputSchema
        [("userId", schemaProperty "string" "The user ID to revoke")] ["userId"] },
    { name := "codemaster__get_access_logs"
      description := "Retrieves recent access logs with timestamps, user names, and methods."
      inputSchema := inputSchema
        [("doorId", schemaProperty "string" "Optional door ID to filter access logs"),
          ("limit", schemaProperty "integer" "Maximum number of logs to return (default 50)")]
        [] }]

/-! ### The tools that only read -/

section
variable [Host]

/-- `ListDoorsAsync`: the doors, with the states that the service has of them. -/
def listDoorsAsync (s : Site) : List DoorStatus :=
  (AccessPointRepository.getAllAsync s.service.db).map fun door =>
    { id := door.id
      name := door.name
      lockState := s.service.getDoorLockStateAsync door.id
      contactState := s.service.getDoorContactStateAsync door.id
      autoLockEnabled := door.autoLockEnabled
      autoLockDaySeconds := door.autoLockDaySeconds
      autoLockNightSeconds := door.autoLockNightSeconds
      lockProviderType := door.lockProviderType
      keypadProviderType := door.keypadProviderType
      doorSensorProviderType := door.doorSensorProviderType }

/-- The optional arguments of `GetAccessLogsAsync`: the door and the limit. -/
def parseAccessLogs (arguments : Option JsonElement) :
    Except ToolException (Option String × Int) := do
  let some args := arguments | return (none, 50)
  let doorId ← requiredString "doorId" args
  match ← args.tryGetProperty "limit" with
  | none => return (doorId, 50)
  | some property =>
    -- A number that is no `int` leaves the default.
    return (doorId, ((← DoorCommands.tryGetInt32 property).map
      AccessLogsController.clampLimit).getD 50)

/-- `GetAccessLogsAsync`: the latest entries, of one door or of all. -/
def getAccessLogsAsync (arguments : Option JsonElement) (s : Site) :
    Except ToolException (List AccessLog) := do
  match ← parseAccessLogs arguments with
  | (some doorId, limit) => return AuditLogRepository.getRecentLogsAsync doorId limit s.accessLogs
  | (none, limit) => return AuditLogRepository.getAllRecentLogsAsync limit s.accessLogs

/-- The text of the error result for an exception. -/
def toolError (toolName message : String) : McpToolCallResult :=
  failure ("Error executing tool '" ++ toolName ++ "': " ++ message)

/-- A tool that commands a door, in the `try` of `ExecuteToolAsync`. -/
def runCommand (commandError : CommandException → String) (toolName : String)
    (tool : Command McpToolCallResult) (s : Site) : ToolAnswer × Site :=
  match tool.exec s with
  | (.ok result, s') => (.result result, s')
  | (.error e, s') => (.result (toolError toolName (commandError e)), s')

/-- A tool that writes the database. -/
def onDb (tool : Db → McpToolCallResult × Db) (s : Site) : ToolAnswer × Site :=
  let (result, db) := tool s.service.db
  (.result result, { s with service := { s.service with db } })

/-- `ExecuteToolAsync`: the tool with the name, in a `try`. -/
def executeToolAsync (commandError : CommandException → String) (toolName : String)
    (arguments : Option JsonElement) (c : Circumstances) (s : Site) : ToolAnswer × Site :=
  match toolName with
  | "codemaster__list_doors" => (.doors (listDoorsAsync s), s)
  | "codemaster__unlock_door" =>
    runCommand commandError toolName (DoorCommands.unlockDoorAsync arguments c) s
  | "codemaster__lock_door" =>
    runCommand commandError toolName (DoorCommands.lockDoorAsync arguments c) s
  | "codemaster__create_guest_pin" => onDb (createGuestPin arguments c.utcNow) s
  | "codemaster__revoke_user" => onDb (revokeUser arguments c.utcNow) s
  | "codemaster__get_access_logs" =>
    match getAccessLogsAsync arguments s with
    | .ok logs => (.logs logs, s)
    | .error e => (.result (toolError toolName e.message), s)
  | _ => (.result (failure ("Unknown tool: '" ++ toolName ++ "'")), s)

end

end DoorTools

/-! ### The server -/

/-- The result of a request. -/
inductive RpcResult where
  | initResult (protocolVersion : String)
  /-- The empty object. -/
  | empty
  | tools (tools : List McpToolDefinition)
  | call (answer : ToolAnswer)

/-- A response of the server. -/
abbrev RpcResponse := McpRpcResponse RpcResult

/-- What the server takes from its host. -/
structure Environment where
  parse : String → Option JsonElement
  parseError : String → String
  commandError : CommandException → String
  serialize : RpcResponse → String

/-- The answer to a posted request. -/
structure HttpAnswer where
  status : Nat
  response : RpcResponse

/-- A request whose body is read. `HandleRequestAsync` has not answered yet. -/
structure PostedRequest where
  /-- The session that the query of the request names. -/
  sessionId : Option String
  rpcRequest : McpRpcRequest

/-- A request that `HandleRequestAsync` has answered. The response is not sent yet. -/
structure PostedResponse where
  sessionId : Option String
  rpcResponse : RpcResponse

/-- The sessions are those that ever were: a session that has ended is not in `_activeSessions`. -/
structure CodeMasterMcpServer where
  site : Site := {}
  sessions : String → Option SseSession := fun _ => none
  /-- The posted requests that are handled. -/
  requests : List PostedRequest := []
  /-- The responses that are about to be sent. -/
  responses : List PostedResponse := []
  /-- The answers to the posted requests, in the order in which they are sent. -/
  answers : List HttpAnswer := []

namespace CodeMasterMcpServer
variable [Host]

/-- The answer to an exception that no tool has caught. -/
def internalError (id : Option JsonElement) (e : ToolException) : RpcResponse :=
  .createError id (-32603) ("Internal error: " ++ e.message)

/-- The version that a client asks for. -/
def clientVersion (params : Option JsonElement) : Except ToolException (Option String) := do
  let some params := params | return none
  match ← params.tryGetProperty "protocolVersion" with
  | none => return none
  | some version => version.getString

/-- The tool and the arguments of `tools/call`. -/
def readCall (params : JsonElement) :
    Except ToolException (Option (String × Option JsonElement)) := do
  match ← DoorTools.requiredString "name" params with
  | none => return none
  | some toolName => return some (toolName, ← params.tryGetProperty "arguments")

/-- `HandleRequestAsync`: the switch over the methods. Only a tool changes the site. -/
def handleRequestAsync (env : Environment) (request : McpRpcRequest) (c : Circumstances)
    (s : Site) : RpcResponse × Site :=
  match request.method with
  | some "initialize" =>
    match clientVersion request.params with
    | .error e => (internalError request.id e, s)
    | .ok version =>
      (.success request.id (.initResult (McpProtocolConstants.negotiateVersion version)), s)
  | some "notifications/initialized" => (.success request.id .empty, s)
  | some "ping" => (.success request.id .empty, s)
  | some "tools/list" => (.success request.id (.tools DoorTools.getToolDefinitions), s)
  | some "tools/call" =>
    match request.params with
    | none => (.createError request.id (-32602) "Missing params object for tools/call", s)
    | some params =>
      match readCall params with
      | .error e => (internalError request.id e, s)
      | .ok none => (.createError request.id (-32602) "Missing required param: 'name'", s)
      | .ok (some (toolName, arguments)) =>
        let (answer, s') := DoorTools.executeToolAsync env.commandError toolName arguments c s
        (.success request.id (.call answer), s')
  | method =>
    (.createError request.id (-32601) ("Method not found: '" ++ method.getD "" ++ "'"), s)

/-- The request in the body, or the response to a body without one. -/
def readRequest (env : Environment) (body : String) : Except RpcResponse McpRpcRequest :=
  if isNullOrWhiteSpace (some body) then
    .error (.createError none (-32700) "Parse error: empty request body")
  else
    match (env.parse body).bind McpRpcRequest.deserialize with
    | none => .error (.createError none (-32700) ("Parse error: " ++ env.parseError body))
    | some none => .error (.createError none (-32600) "Invalid Request")
    | some (some request) => .ok request

/-- What happens to the server. -/
inductive Event where
  /-- `HandleSseConnectionAsync` starts. -/
  | connect (sessionId : String)
  /-- The loop of a session goes on. -/
  | run (sessionId : String)
  /-- The timer of a session fires. -/
  | tick (sessionId : String)
  /-- The client of a session goes away. -/
  | disconnect (sessionId : String)
  /-- `HandlePostMessageAsync` reads the body of a request. -/
  | post (sessionId : Option String) (body : String)
  /-- `HandleRequestAsync` answers the request at the place. -/
  | handle (place : Nat) (c : Circumstances)
  /-- The response at the place is sent. -/
  | reply (place : Nat)

/-- An event of one session. -/
def onSession (s : CodeMasterMcpServer) (sessionId : String) (e : SseSession.Event) :
    CodeMasterMcpServer :=
  { s with
    sessions := Function.update s.sessions sessionId
      ((s.sessions sessionId).map fun session => session.step e) }

/-- The start of `HandlePostMessageAsync`. -/
def readPost (env : Environment) (sessionId : Option String) (body : String)
    (s : CodeMasterMcpServer) : CodeMasterMcpServer :=
  match readRequest env body with
  | .error response => { s with answers := s.answers ++ [{ status := 400, response }] }
  | .ok rpcRequest => { s with requests := s.requests ++ [{ sessionId, rpcRequest }] }

/-- The `await` of `HandleRequestAsync` in `HandlePostMessageAsync`. -/
def awaitRequest (env : Environment) (place : Nat) (c : Circumstances) (s : CodeMasterMcpServer) :
    CodeMasterMcpServer :=
  match s.requests[place]? with
  | none => s
  | some { sessionId, rpcRequest } =>
    let (rpcResponse, site) := handleRequestAsync env rpcRequest c s.site
    { s with
      site
      requests := s.requests.eraseIdx place
      responses := s.responses ++ [{ sessionId, rpcResponse }] }

/-- The end of `HandlePostMessageAsync`. -/
def sendResponse (env : Environment) (place : Nat) (s : CodeMasterMcpServer) :
    CodeMasterMcpServer :=
  match s.responses[place]? with
  | none => s
  | some { sessionId, rpcResponse } =>
    { s with
      -- The session that the request names gets the response, if it is active.
      sessions := fun id => (s.sessions id).map fun session =>
        session.handlePostMessageAsync sessionId (env.serialize rpcResponse)
      responses := s.responses.eraseIdx place
      answers := s.answers ++ [{ status := 200, response := rpcResponse }] }

/-- One event. -/
def step (env : Environment) (s : CodeMasterMcpServer) : Event → CodeMasterMcpServer
  | .connect sessionId =>
    -- `Guid.NewGuid` does not return a `Guid` again.
    if (s.sessions sessionId).isSome then s
    else { s with sessions := Function.update s.sessions sessionId (some { sessionId }) }
  | .run sessionId => s.onSession sessionId .run
  | .tick sessionId => s.onSession sessionId .tick
  | .disconnect sessionId => s.onSession sessionId .disconnect
  | .post sessionId body => readPost env sessionId body s
  | .handle place c => awaitRequest env place c s
  | .reply place => sendResponse env place s

end CodeMasterMcpServer

end CodeMaster.Mcp
