import CodeMaster.Engine.DoorOperationService
import CodeMaster.Engine.MqttLockProviders
import CodeMaster.Mcp.DoorTools

/-!
# `CodeMaster.Engine.DoorLocks`: the lock provider that a door's commands go to

`CreateLockProvider` reads a topic from the door's configuration and builds a provider from it.
`DoorLocks` is the service together with its MQTT client, and its methods are those of
`DoorOperationService` with the answer of that provider.

`JsonDocument.Parse` is the parameter `parse`, with no value for a `JsonException`.
-/

set_option autoImplicit false

namespace CodeMaster.Engine

open CodeMaster.Core Data Exec
open CodeMaster.Mcp (JsonElement ToolException)

/-- The service and its `_mqttClient`. -/
structure DoorLocks where
  service : DoorOperationService
  mqttClient : Option MqttClientService

/-- What the call of a provider comes to. -/
def LockAnswer.ofResult : Except MqttException Bool → LockAnswer
  | .ok success => .returned success
  | .error _ => .threw

namespace DoorLocks

/-- The `try` block: the first of the three properties that is present decides. -/
def readTopic (root : JsonElement) : Except ToolException (Option String) := do
  match ← root.tryGetProperty "topic" with
  | some tProp => tProp.getString
  | none =>
    match ← root.tryGetProperty "lockTopic" with
    | some ltProp => ltProp.getString
    | none =>
      match ← root.tryGetProperty "nodeId" with
      | some nProp => nProp.getString
      | none => return none

section
variable (parse : String → Option JsonElement)

/-- The variable `topic`. An exception of the `try` block leaves it null. -/
def configuredTopic (configJson : String) : Option String :=
  if isNullOrWhiteSpace (some configJson) then none
  else
    match (parse configJson).map readTopic with
    | some (.ok topic) => topic
    | some (.error _) => none
    | none => none

section
variable [Host]

/-- `CreateLockProvider`: the kind of the provider is in the door, and its topic in the
configuration. -/
def createLockProvider (door : AccessPoint) (mqttClient : Option MqttClientService) :
    MqttLockProvider :=
  let topic := configuredTopic parse door.lockConfigJson
  if containsOrdinalIgnoreCase door.lockProviderType "ZWave" then
    .zWaveJs (.new (topic.getD door.id) 0 mqttClient)
  else
    .generic {
      commandTopic := topic.getD ("codemaster/" ++ door.id ++ "/lock/set")
      stateTopic := topic.getD ("codemaster/" ++ door.id ++ "/lock/state")
      mqttClient }

/-- The answer of the door's provider to a command, and the client after it. -/
def callLock (d : DoorLocks) (doorId : String) (command : LockCommand) :
    LockAnswer × Option MqttClientService :=
  match AccessPointRepository.getByIdAsync d.service.db doorId with
  -- The service answers before it creates a provider.
  | none => (.returned false, d.mqttClient)
  | some door =>
    let call := (createLockProvider parse door d.mqttClient).execute command
    (.ofResult call.1, call.2.mqttClient)

/-- An unlock, with the provider of the door. -/
def unlockDoorAsync (d : DoorLocks) (doorId : String) (durationMinutes : Option (BitVec 32)) :
    Except DoorOperationException Bool × DoorLocks :=
  let call := callLock parse d doorId .unlock
  let run := (DoorOperationService.unlockDoorAsync doorId durationMinutes call.1).exec d.service
  (run.1, { service := run.2, mqttClient := call.2 })

/-- A lock, with the provider of the door. -/
def lockDoorAsync (d : DoorLocks) (doorId : String) :
    Except DoorOperationException Bool × DoorLocks :=
  let call := callLock parse d doorId .lock
  let run := (DoorOperationService.lockDoorAsync doorId call.1).exec d.service
  (run.1, { service := run.2, mqttClient := call.2 })

end

end

end DoorLocks

end CodeMaster.Engine
