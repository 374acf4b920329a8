import CodeMaster.DoorCommands

/-!
# `CodeMaster.Engine.InboundEvents`: what the keypad and sensor providers read from a message

Each provider gets a topic and a payload, and returns whether it has read an event, with the event
in an `out` parameter. Of the exceptions, a provider catches `JsonException` only.

`JsonDocument.Parse` is the parameter `parse`, with no value for a `JsonException`. `toLower` is
the case map of `ToLowerInvariant`.
-/

set_option autoImplicit false

namespace CodeMaster.Engine

open CodeMaster.Core
open CodeMaster.Mcp (JsonElement ToolException)
open CodeMaster.DoorCommands (parseDigits tryGetInt32)

/-- The exceptions of the JSON reader. -/
inductive InboundException where
  | json
  | invalidOperation (e : ToolException)
  | format
  deriving DecidableEq, Repr

/-! ### Reading a document -/

/-- A reader of JSON. -/
abbrev Reader (α : Type) := Except InboundException α

/-- What a `TryParse` returns, and its `out` parameter. -/
abbrev Parsed (α : Type) := Bool × Option α

/-- A `catch` of `JsonException`. -/
def catchJson {α : Type} (fallback : α) : Reader α → Reader α
  | .error .json => .ok fallback
  | x => x

/-- A call of an accessor. -/
def access {α : Type} (x : Except ToolException α) : Reader α := x.mapError .invalidOperation

/-- The document of a payload. Anything else is a `JsonException`. -/
def parseDocument (parse : String → Option JsonElement) (text : String) : Reader JsonElement :=
  match parse text with
  | some root => .ok root
  | none => .error .json

/-- A chain of `TryGetProperty`: the first name that is present. -/
def firstProperty (element : JsonElement) : List String → Reader (Option JsonElement)
  | [] => return none
  | name :: names => do
    match ← access (element.tryGetProperty name) with
    | some property => return some property
    | none => firstProperty element names

/-- `GetString` of a property, which stays null if it is missing. -/
def stringOf : Option JsonElement → Reader (Option String)
  | some property => access property.getString
  | none => return none

/-- `GetBoolean`. -/
def getBoolean : JsonElement → Except ToolException Bool
  | .bool value => .ok value
  | e => .error (.wrongType "Boolean" e.valueKind)

/-- `GetInt32`. -/
def getInt32 (e : JsonElement) : Reader Int := do
  match ← access (tryGetInt32 e) with
  | some value => return value.toInt
  | none => throw .format

/-- The white space around a number. -/
def isNumberWhite (c : Char) : Bool := c = ' ' || (0x09 ≤ c.toNat && c.toNat ≤ 0x0D)

/-- `int.TryParse`: a sign and digits between white space. Null characters may follow. -/
def intTryParse (text : Option String) : Option Int := do
  let chars := (← text).toList.dropWhile isNumberWhite
  let number := match chars with
    | '-' :: rest | '+' :: rest => rest
    | rest => rest
  let rest := (number.dropWhile Char.isDigit).dropWhile isNumberWhite
  if rest.any (· ≠ Char.ofNat 0) then none
  else
    let digits ← parseDigits (number.takeWhile Char.isDigit)
    let value : Int := if chars.head? = some '-' then -(digits : Int) else digits
    if -2147483648 ≤ value ∧ value ≤ 2147483647 then some value else none

/-- `topic.Split('/')`. -/
def topicParts (topic : String) : List String := (topic.toList.splitOn '/').map String.ofList

section
variable [Host]

/-! ### The Ring keypad -/

/-- The provider for the keypads of ring-mqtt, under its base topic. -/
structure RingMqttKeypadProvider where
  baseTopic : String
  deriving DecidableEq, Repr

namespace RingMqttKeypadProvider

/-- The constructor. -/
def new (baseTopic : String) : RingMqttKeypadProvider where
  baseTopic := String.ofList
    ((trim isWhiteSpace baseTopic).toList.reverse.dropWhile (· = '/')).reverse

/-- The action that a command asks for, in any case of its letters. -/
def parseAction (toLower : Char → Char) (command : String) : Option KeypadAction :=
  match String.ofList ((trim isWhiteSpace command).toList.map toLower) with
  | "disarm" | "disarmed" => some .disarm
  | "arm_away" | "away" | "armed_away" => some .armAway
  | "arm_stay" | "arm_home" | "stay" | "home" | "armed_stay" | "armed_home" => some .armStay
  | "lock" => some .lock
  | "unlock" => some .unlock
  | "custom" => some .custom
  | _ => none

/-- The device in the topic of a keypad. -/
def extractDeviceIdFromTopic (topic : String) : Option String :=
  match topicParts topic with
  | _ :: second :: _ :: _ => some second
  | _ => none

/-- The device of the message, which the topic can name. -/
def deviceIdOf (topic : String) (root : JsonElement) : Reader (Option String) := do
  match ← firstProperty root ["device_id", "deviceId"] with
  | some devProp => access devProp.getString
  | none => return extractDeviceIdFromTopic topic

/-- The check of the topic. -/
def isRelevant (p : RingMqttKeypadProvider) (topic : String) : Bool :=
  containsOrdinalIgnoreCase topic "command" || containsOrdinalIgnoreCase topic "keypad"
    || containsOrdinalIgnoreCase topic "alarm" || containsOrdinalIgnoreCase topic "kp"
    || startsWithOrdinalIgnoreCase topic p.baseTopic

/-- The `try` block. -/
def readEvent (toLower : Char → Char) (topic : String) (utcNow : DateTime) (root : JsonElement) :
    Reader (Parsed KeypadEventDto) := do
  if root.valueKind ≠ "Object" then
    return (false, none)
  let commandStr ← stringOf (← firstProperty root ["command", "action", "mode"])
  if isNullOrWhiteSpace commandStr then
    return (false, none)
  match parseAction toLower (commandStr.getD "") with
  | none => return (false, none)
  | some action =>
    let pin ← stringOf (← firstProperty root ["code", "pin", "user_code"])
    let deviceId ← deviceIdOf topic root
    return (true, some { action, pin, deviceId, rawTopic := some topic, timestamp := utcNow })

/-- What the keypad reports, or nothing. Only a `JsonException` is caught. -/
def tryParseKeypadEvent (parse : String → Option JsonElement) (toLower : Char → Char)
    (p : RingMqttKeypadProvider) (topic payload : String) (utcNow : DateTime) :
    Reader (Parsed KeypadEventDto) :=
  if isNullOrWhiteSpace (some topic) || isNullOrWhiteSpace (some payload) then .ok (false, none)
  else if !p.isRelevant topic then .ok (false, none)
  else
    catchJson (false, none) do
      readEvent toLower topic utcNow (← parseDocument parse payload)

end RingMqttKeypadProvider

/-! ### The keypad of a lock -/

namespace BuiltInLockKeypadProvider

/-- `TryGetIntProperty`: a number, or the text of one. -/
def tryGetIntProperty (element : JsonElement) (propertyName : String) : Reader (Option Int) := do
  match ← access (element.tryGetProperty propertyName) with
  | none => return none
  | some prop =>
    if prop.valueKind = "Number" then
      return (← access (tryGetInt32 prop)).map BitVec.toInt
    if prop.valueKind = "String" then
      return intTryParse (← access prop.getString)
    return none

/-- A chain of `TryGetIntProperty`: the first name with a number. -/
def firstInt (element : JsonElement) : List String → Reader (Option Int)
  | [] => return none
  | name :: names => do
    match ← tryGetIntProperty element name with
    | some value => return some value
    | none => firstInt element names

/-- The device in the topic of a lock. -/
def extractDeviceIdFromTopic (topic : String) : Option String :=
  match topicParts topic with
  | first :: second :: _ => if equalsOrdinalIgnoreCase first "zwave" then some second else none
  | _ => none

/-- The check of the topic, which does not look at the base topic. -/
def isRelevant (topic : String) : Bool :=
  containsOrdinalIgnoreCase topic "alarm" || containsOrdinalIgnoreCase topic "notification"
    || containsOrdinalIgnoreCase topic "access_control"
    || startsWithOrdinalIgnoreCase topic "zwave/"

/-- The action of an alarm type or of an access control event. -/
def actionOf (alarmType : Int) : Option KeypadAction :=
  if alarmType = 19 ∨ alarmType = 6 then some .unlock
  else if alarmType = 18 ∨ alarmType = 5 then some .lock
  else none

/-- The number of the slot, at the root or in `eventParameters`. -/
def slotNumber (root : JsonElement) : Reader (Option Int) := do
  match ← firstInt root ["slot", "userId", "user_id", "user", "code_slot"] with
  | some slot => return some slot
  | none =>
    match ← access (root.tryGetProperty "eventParameters") with
    | none => return none
    | some eventParams =>
      if eventParams.valueKind = "Object" then firstInt eventParams ["userId", "slot"]
      else return none

/-- The `try` block. -/
def readEvent (topic : String) (utcNow : DateTime) (root : JsonElement) :
    Reader (Parsed KeypadEventDto) := do
  if root.valueKind ≠ "Object" then
    return (false, none)
  let alarmType ← firstInt root
    ["type", "alarm_type", "alarmType", "access_control", "accessControl", "event", "notification"]
  match alarmType.bind actionOf with
  | none => return (false, none)
  | some action =>
    let slot ← slotNumber root
    let deviceId := extractDeviceIdFromTopic topic
    return (true, some {
      action, slotNumber := slot, deviceId, rawTopic := some topic, timestamp := utcNow })

/-- What the keypad of a lock reports, or nothing. Only a `JsonException` is caught. -/
def tryParseKeypadEvent (parse : String → Option JsonElement) (topic payload : String)
    (utcNow : DateTime) : Reader (Parsed KeypadEventDto) :=
  if isNullOrWhiteSpace (some topic) || isNullOrWhiteSpace (some payload) then .ok (false, none)
  else if !isRelevant topic then .ok (false, none)
  else
    catchJson (false, none) do
      readEvent topic utcNow (← parseDocument parse payload)

end BuiltInLockKeypadProvider

/-! ### The contact of a door -/

/-- The options of a contact sensor. -/
structure MqttContactSensorOptions where
  topic : Option String := none
  openPayload : String := "ON"
  closedPayload : String := "OFF"
  invert : Bool := false
  deriving DecidableEq, Repr

namespace MqttContactSensorProvider

/-- The comparison of a text with the two configured ones. -/
def stateOf (options : MqttContactSensorOptions) (text : String) : Option DoorContactState :=
  if equalsOrdinalIgnoreCase text options.openPayload then some .open
  else if equalsOrdinalIgnoreCase text options.closedPayload then some .closed
  else none

/-- The text of the property, by its kind. -/
def stateText (p : JsonElement) : Reader (Option String) := do
  if p.valueKind = "String" then
    access p.getString
  else if p.valueKind = "True" ∨ p.valueKind = "False" then
    return some (if ← access (getBoolean p) then "true" else "false")
  else if p.valueKind = "Number" then
    return some (toString (← getInt32 p))
  else
    return none

/-- The `try` block. -/
def readState (options : MqttContactSensorOptions) (root : JsonElement) :
    Reader (Option DoorContactState) := do
  if root.valueKind ≠ "Object" then
    return none
  let stateStr ← match ← firstProperty root ["state", "contact", "value"] with
    | some p => stateText p
    | none => pure none
  if isNullOrWhiteSpace stateStr then
    return none
  return stateOf options (stateStr.getD "")

/-- The payload is put in braces. -/
def inBraces (text : String) : Bool :=
  text.toList.head? = some '\x7b' && text.toList.getLast? = some '\x7d'

/-- The other state. -/
def inverted : DoorContactState → DoorContactState
  | .open => .closed
  | .closed => .open

/-- The state that the text names, as one of the configured texts or in a document. -/
def rawState (parse : String → Option JsonElement) (options : MqttContactSensorOptions)
    (trimmed : String) : Reader (Option DoorContactState) :=
  match stateOf options trimmed with
  | some state => .ok (some state)
  | none =>
    if inBraces trimmed then
      catchJson none do
        readState options (← parseDocument parse trimmed)
    else .ok none

/-- What a contact sensor reports, or nothing. Only a `JsonException` is caught. -/
def tryParseContactEvent (parse : String → Option JsonElement) (options : MqttContactSensorOptions)
    (topic payload : String) : Reader (Parsed DoorContactState) := do
  if isNullOrWhiteSpace (some payload) then
    return (false, none)
  if !isNullOrWhiteSpace options.topic
      && !equalsOrdinalIgnoreCase topic (options.topic.getD "") then
    return (false, none)
  match ← rawState parse options (trim isWhiteSpace payload) with
  | none => return (false, none)
  | some state => return (true, some (if options.invert then inverted state else state))

end MqttContactSensorProvider

end

end CodeMaster.Engine
