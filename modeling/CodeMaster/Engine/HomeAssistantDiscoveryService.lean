import CodeMaster.Mcp.DoorTools

/-!
# `CodeMaster.Engine.HomeAssistantDiscoveryService`: what Home Assistant is told of a door

A door has four entities, and each has one message: a discovery topic, and a payload with the
entity's `unique_id` and its topics. The payload of a message is the text of a JSON object; here
it is the object.
-/

set_option autoImplicit false

namespace CodeMaster.Engine

open CodeMaster.Core
open CodeMaster.Mcp (JsonElement)

/-- A message that Home Assistant discovers an entity by. -/
structure HaDiscoveryMessage where
  topic : String
  payload : JsonElement

/-- The service, with the prefixes of its options. -/
structure HomeAssistantDiscoveryService where
  discoveryPrefix : String := "homeassistant"
  statePrefix : String := "codemaster"
  deriving DecidableEq, Repr

namespace HomeAssistantDiscoveryService

/-- `TrimEnd('/')`. -/
def trimEnd (text : String) : String :=
  String.ofList (text.toList.reverse.dropWhile (· = '/')).reverse

/-- The constructor. -/
def new (discoveryPrefix statePrefix : String) : HomeAssistantDiscoveryService where
  discoveryPrefix := trimEnd discoveryPrefix
  statePrefix := trimEnd statePrefix

variable (s : HomeAssistantDiscoveryService) (door : AccessPoint)

/-- The device that the entities of a door belong to. -/
def buildDeviceObject : JsonElement :=
  .object [
    ("identifiers", .array [.string ("codemaster_" ++ door.id)]),
    ("name", .string door.name),
    ("manufacturer", .string "CodeMaster"),
    ("model", .string "Access Controller")]

/-- The topic of the event entity. -/
def buildEventDiscoveryTopic : String :=
  s.discoveryPrefix ++ "/event/codemaster_" ++ door.id ++ "/config"

/-- The event entity, which tells the accesses of a door. -/
def buildEventDiscoveryPayload : JsonElement :=
  .object [
    ("discovery_topic", .string (s.buildEventDiscoveryTopic door)),
    ("name", .string (door.name ++ " Access")),
    ("unique_id", .string ("codemaster_" ++ door.id ++ "_access")),
    ("state_topic", .string (s.statePrefix ++ "/" ++ door.id ++ "/event/state")),
    ("event_types", .array [.string "keypad_unlock", .string "manual_unlock", .string "auto_lock",
      .string "tamper"]),
    ("device", buildDeviceObject door)]

/-- The topic of the lock entity. -/
def buildLockDiscoveryTopic : String :=
  s.discoveryPrefix ++ "/lock/codemaster_" ++ door.id ++ "/config"

/-- The lock entity, with its topics for states and commands. -/
def buildLockDiscoveryPayload : JsonElement :=
  .object [
    ("discovery_topic", .string (s.buildLockDiscoveryTopic door)),
    ("name", .string door.name),
    ("unique_id", .string ("codemaster_" ++ door.id ++ "_lock")),
    ("state_topic", .string (s.statePrefix ++ "/" ++ door.id ++ "/lock/state")),
    ("command_topic", .string (s.statePrefix ++ "/" ++ door.id ++ "/lock/set")),
    ("payload_lock", .string "LOCK"),
    ("payload_unlock", .string "UNLOCK"),
    ("state_locked", .string "locked"),
    ("state_unlocked", .string "unlocked"),
    ("state_jammed", .string "jammed"),
    ("device", buildDeviceObject door)]

/-- The topic of the contact sensor. -/
def buildSensorDiscoveryTopic : String :=
  s.discoveryPrefix ++ "/binary_sensor/codemaster_" ++ door.id ++ "/config"

/-- The contact sensor of the door. -/
def buildSensorDiscoveryPayload : JsonElement :=
  .object [
    ("discovery_topic", .string (s.buildSensorDiscoveryTopic door)),
    ("name", .string (door.name ++ " Sensor")),
    ("unique_id", .string ("codemaster_" ++ door.id ++ "_sensor")),
    ("state_topic", .string (s.statePrefix ++ "/" ++ door.id ++ "/sensor/state")),
    ("device_class", .string "door"),
    ("payload_on", .string "ON"),
    ("payload_off", .string "OFF"),
    ("device", buildDeviceObject door)]

/-- The topic of the switch. -/
def buildAutoLockSwitchDiscoveryTopic : String :=
  s.discoveryPrefix ++ "/switch/codemaster_" ++ door.id ++ "/config"

/-- The switch of the auto-lock, with its topics for states and commands. -/
def buildAutoLockSwitchDiscoveryPayload : JsonElement :=
  .object [
    ("discovery_topic", .string (s.buildAutoLockSwitchDiscoveryTopic door)),
    ("name", .string (door.name ++ " Auto-Lock")),
    ("unique_id", .string ("codemaster_" ++ door.id ++ "_autolock")),
    ("state_topic", .string (s.statePrefix ++ "/" ++ door.id ++ "/autolock/state")),
    ("command_topic", .string (s.statePrefix ++ "/" ++ door.id ++ "/autolock/set")),
    ("payload_on", .string "ON"),
    ("payload_off", .string "OFF"),
    ("device", buildDeviceObject door)]

/-- The four messages of a door. -/
def buildAllDiscoveryMessages : List HaDiscoveryMessage :=
  [⟨s.buildEventDiscoveryTopic door, s.buildEventDiscoveryPayload door⟩,
    ⟨s.buildLockDiscoveryTopic door, s.buildLockDiscoveryPayload door⟩,
    ⟨s.buildSensorDiscoveryTopic door, s.buildSensorDiscoveryPayload door⟩,
    ⟨s.buildAutoLockSwitchDiscoveryTopic door, s.buildAutoLockSwitchDiscoveryPayload door⟩]

end HomeAssistantDiscoveryService

end CodeMaster.Engine
