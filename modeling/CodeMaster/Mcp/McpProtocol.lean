import CodeMaster.Mcp.DoorTools

/-!
# `CodeMaster.Mcp.McpProtocol`: the JSON-RPC messages of the MCP server

`deserialize` is `JsonSerializer.Deserialize<McpRpcRequest>` with names that ignore case. It has no
result for a `JsonException`: a document that is no object, or a text property with another type.
-/

set_option autoImplicit false

namespace CodeMaster.Mcp

open CodeMaster.Core

namespace McpProtocolConstants

/-- The version for a client that asks for none. -/
def defaultProtocolVersion : String := "2026-07-28"

/-- The versions that the server speaks. -/
def supportedProtocolVersions : List String := ["2026-07-28", "2024-11-05", "2024-10-07"]

/-- `NegotiateVersion`. A supported version comes back as the client has spelled it. -/
def negotiateVersion [Host] (requestedVersion : Option String) : String :=
  match requestedVersion with
  | none => defaultProtocolVersion
  | some version =>
    if isNullOrWhiteSpace (some version) then defaultProtocolVersion
    else if supportedProtocolVersions.any (equalsOrdinalIgnoreCase version) then version
    else defaultProtocolVersion

end McpProtocolConstants

/-- A request. The id and the parameters can be missing. -/
structure McpRpcRequest where
  jsonRpc : Option String := some "2.0"
  id : Option JsonElement := none
  method : Option String := some ""
  params : Option JsonElement := none

namespace McpRpcRequest

/-- A property of type `string`. -/
def readString : JsonElement → Option (Option String)
  | .string value => some (some value)
  | .null => some none
  | _ => none

/-- A property of type `object?` or `JsonElement?`: the JSON `null` is no value. -/
def readNullable : JsonElement → Option JsonElement
  | .null => none
  | value => some value

variable [Host]

/-- One member of the object. A name that is no property is skipped. -/
def setProperty (request : McpRpcRequest) (name : String) (value : JsonElement) :
    Option McpRpcRequest := do
  if equalsOrdinalIgnoreCase name "jsonrpc" then
    return { request with jsonRpc := ← readString value }
  if equalsOrdinalIgnoreCase name "id" then
    return { request with id := readNullable value }
  if equalsOrdinalIgnoreCase name "method" then
    return { request with method := ← readString value }
  if equalsOrdinalIgnoreCase name "params" then
    return { request with params := readNullable value }
  return request

/-- The members in order, so that the last one of a name counts. -/
def setProperties (request : McpRpcRequest) (members : List (String × JsonElement)) :
    Option McpRpcRequest :=
  members.foldlM (fun request member => request.setProperty member.1 member.2) request

/-- The document `null` deserializes to `null`. -/
def deserialize : JsonElement → Option (Option McpRpcRequest)
  | .null => some none
  | .object members => (setProperties {} members).map some
  | _ => none

end McpRpcRequest

/-- The error of a response. -/
structure McpRpcError where
  code : Int
  message : String
  deriving DecidableEq, Repr

/-- A response with a result of type `ρ`, or with an error. -/
structure McpRpcResponse (ρ : Type) where
  id : Option JsonElement
  outcome : Except McpRpcError ρ

namespace McpRpcResponse
variable {ρ : Type}

/-- A response with a result. -/
def success (id : Option JsonElement) (result : ρ) : McpRpcResponse ρ := ⟨id, .ok result⟩

/-- A response with an error. -/
def createError (id : Option JsonElement) (code : Int) (message : String) : McpRpcResponse ρ :=
  ⟨id, .error { code, message }⟩

/-- The code of an error response. -/
def code (response : McpRpcResponse ρ) : Option Int :=
  match response.outcome with
  | .error e => some e.code
  | .ok _ => none

end McpRpcResponse

/-- A tool as `tools/list` describes it. -/
structure McpToolDefinition where
  name : String
  description : String
  inputSchema : JsonElement

end CodeMaster.Mcp
