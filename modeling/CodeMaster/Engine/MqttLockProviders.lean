import CodeMaster.Lib.Exec
import CodeMaster.Data.Repositories

/-!
# `CodeMaster.Engine.MqttLockProviders`: the lock providers that publish their commands

`MqttClientService.publishAsync` appends to the published messages, or throws. Both providers
catch the exception of a client that is not connected, and go on as if they had published.

A provider keeps the last commanded state, and the one for Z-Wave JS the codes it has set.
The payload of a slot command is the serialized object; its members stand for the text.
Of what a provider reads from inbound messages, only the states of a Z-Wave lock are here.
-/

set_option autoImplicit false

namespace CodeMaster.Engine

open CodeMaster.Core Relational Exec

/-! ### The client -/

/-- The object that `SetSlotCodeAsync` and `ClearSlotCodeAsync` serialize. The second writes no
member `label`. -/
structure UserCodePayload where
  slot : Int
  usercode : String
  code : String
  label : Option (Option String) := none
  deriving DecidableEq, Repr

/-- What a message says: a text, or the object for a code. -/
inductive MqttPayload where
  | text (value : String)
  | userCode (value : UserCodePayload)
  deriving DecidableEq, Repr

/-- A message that is published. -/
structure MqttMessage where
  topic : String
  payload : MqttPayload
  retain : Bool := false
  deriving DecidableEq, Repr

/-- The exceptions of the client. -/
inductive MqttException where
  | argument (paramName : String)
  | invalidOperation (message : String)
  deriving DecidableEq, Repr

/-- The connection, and the messages that the broker has got. -/
structure MqttClientService where
  isConnected : Bool
  published : List MqttMessage := []
  deriving DecidableEq, Repr

namespace MqttClientService

/-- `PublishAsync`. A blank topic and a client without a connection are exceptions. -/
def publishAsync (client : MqttClientService) (topic : String) (payload : MqttPayload)
    (retain : Bool) : Except MqttException MqttClientService :=
  if isNullOrWhiteSpace (some topic) then .error (.argument "topic")
  else if !client.isConnected then
    .error (.invalidOperation
      ("Cannot publish to topic '" ++ topic ++ "': MQTT client is not connected."))
  else .ok { client with published := client.published ++ [{ topic, payload, retain }] }

end MqttClientService

/-- The `try` and `catch` of both providers around `PublishAsync`. A provider without a client
publishes nothing. -/
def publishOrFallBack (mqttClient : Option MqttClientService) (topic : String)
    (payload : MqttPayload) : Except MqttException (Option MqttClientService) :=
  match mqttClient with
  | none => .ok none
  | some client =>
    match client.publishAsync topic payload false with
    | .ok client => .ok (some client)
    -- "Offline fallback": the exception is dropped.
    | .error (.invalidOperation _) => .ok (some client)
    | .error e => .error e

/-- The commands of `ILockProvider`. -/
inductive LockCommand where
  | lock
  | unlock
  | setSlotCode (slotNumber : Int) (pinCode : String) (label : Option String)
  | clearSlotCode (slotNumber : Int)
  deriving DecidableEq, Repr

/-! ### Z-Wave JS -/

/-- A Z-Wave lock: its node, its client, and what it remembers of the bolt and the codes. -/
structure ZWaveJsMqttLockProvider where
  nodeId : String
  endpoint : Int := 0
  mqttClient : Option MqttClientService := none
  slots : Table HardwareSlotDto.slotNumber := .empty
  currentState : LockState := .unknown
  deriving DecidableEq

namespace ZWaveJsMqttLockProvider

/-- A method that talks to the lock. -/
abbrev Operation (α : Type) := Exec MqttException ZWaveJsMqttLockProvider α

/-- A Z-Wave lock takes codes and commands, and reports jams. -/
def capabilities : LockCapabilities :=
  LockCapabilities.userCodes ||| LockCapabilities.remoteControl ||| LockCapabilities.jamDetection

section
variable [Host]

/-- `NormalizeNodeId`: slashes and the prefix `zwave/` are taken off, and a blank rest is
`front_door`. -/
def normalizeNodeId (nodeId : String) : String :=
  let trimmed := trim (· = '/') (trim isWhiteSpace nodeId)
  let trimmed :=
    if startsWithOrdinalIgnoreCase trimmed "zwave/" then
      String.ofList (trimmed.toList.drop "zwave/".toList.length)
    else trimmed
  if isNullOrWhiteSpace (some trimmed) then "front_door" else trimmed

/-- The constructor. -/
def new (nodeId : String) (endpoint : Int) (mqttClient : Option MqttClientService) :
    ZWaveJsMqttLockProvider :=
  { nodeId := normalizeNodeId nodeId, endpoint, mqttClient }

/-- The topic that locks. -/
def getLockTopic (p : ZWaveJsMqttLockProvider) : String :=
  "zwave/" ++ normalizeNodeId p.nodeId ++ "/door_lock/endpoint_" ++ toString p.endpoint
    ++ "/targetState/set"

/-- The topic that unlocks, which is the same one. -/
def getUnlockTopic (p : ZWaveJsMqttLockProvider) : String :=
  "zwave/" ++ normalizeNodeId p.nodeId ++ "/door_lock/endpoint_" ++ toString p.endpoint
    ++ "/targetState/set"

/-- The topic does not name the slot. -/
def getSetSlotCodeTopic (p : ZWaveJsMqttLockProvider) (_slotNumber : Int) : String :=
  "zwave/" ++ normalizeNodeId p.nodeId ++ "/user_code/endpoint_" ++ toString p.endpoint ++ "/set"

/-- The topic that clears a code. -/
def getClearSlotCodeTopic (p : ZWaveJsMqttLockProvider) (_slotNumber : Int) : String :=
  "zwave/" ++ normalizeNodeId p.nodeId ++ "/user_code/endpoint_" ++ toString p.endpoint ++ "/set"

/-- Publish, if there is a client. -/
def publish (topic : String) (payload : MqttPayload) : Operation Unit :=
  statement fun p =>
    (publishOrFallBack p.mqttClient topic payload).map fun mqttClient => { p with mqttClient }

/-- The state that the provider remembers. -/
def getStateAsync (p : ZWaveJsMqttLockProvider) : LockState := p.currentState

/-- Publish the command, and then remember it. -/
def lockAsync : Operation Bool := do
  publish (← query getLockTopic) (.text "true")
  modify fun p => { p with currentState := .locked }
  return true

/-- Publish the command, and then remember it. -/
def unlockAsync : Operation Bool := do
  publish (← query getUnlockTopic) (.text "false")
  modify fun p => { p with currentState := .unlocked }
  return true

/-- The codes that the provider remembers. -/
def getSlotCodesAsync (p : ZWaveJsMqttLockProvider) : List HardwareSlotDto :=
  Data.orderBy HardwareSlotDto.slotNumber p.slots.rows

/-- Publish the code, and then remember it. -/
def setSlotCodeAsync (slotNumber : Int) (pinCode : String) (label : Option String) :
    Operation Bool := do
  publish (← query fun p => p.getSetSlotCodeTopic slotNumber)
    (.userCode { slot := slotNumber, usercode := pinCode, code := pinCode, label := some label })
  let slot : HardwareSlotDto := { slotNumber, inUse := true, pinCode := some pinCode, label }
  modify fun p => { p with slots := p.slots.upsert slot }
  return true

/-- Publish the command, and then forget the code. -/
def clearSlotCodeAsync (slotNumber : Int) : Operation Bool := do
  publish (← query fun p => p.getClearSlotCodeTopic slotNumber)
    (.userCode { slot := slotNumber, usercode := "", code := "" })
  modify fun p => { p with slots := p.slots.delete fun s => s.slotNumber = slotNumber }
  return true

/-- A command of the service or of the worker. -/
def execute : LockCommand → Operation Bool
  | .lock => lockAsync
  | .unlock => unlockAsync
  | .setSlotCode slotNumber pinCode label => setSlotCodeAsync slotNumber pinCode label
  | .clearSlotCode slotNumber => clearSlotCodeAsync slotNumber

/-- `bool.TryParse`, which drops white space and null characters around the text. -/
def boolTryParse (text : String) : Option Bool :=
  let letters := (trim (fun c => isWhiteSpace c || c = Char.ofNat 0) text).toList.map Char.toLower
  if letters = "true".toList then some true
  else if letters = "false".toList then some false
  else none

/-- The state that a payload reports. -/
def stateOf (payload : String) : Option LockState :=
  let payload := trim (· = '"') (trim isWhiteSpace payload)
  match boolTryParse payload with
  | some isLocked => some (if isLocked then .locked else .unlocked)
  | none =>
    if equalsOrdinalIgnoreCase payload "locked" || equalsOrdinalIgnoreCase payload "255" then
      some .locked
    else if equalsOrdinalIgnoreCase payload "unlocked" || equalsOrdinalIgnoreCase payload "0" then
      some .unlocked
    else if equalsOrdinalIgnoreCase payload "jammed" then some .jammed
    else none

/-- The start of the topics on which the lock reports its state. -/
def expectedPrefix (p : ZWaveJsMqttLockProvider) : String :=
  "zwave/" ++ p.nodeId ++ "/door_lock/endpoint_" ++ toString p.endpoint ++ "/"

/-- The rest of the topic names a value that reports the state. -/
def reportsState (subTopic : String) : Bool :=
  startsWithOrdinalIgnoreCase subTopic "currentState"
    || startsWithOrdinalIgnoreCase subTopic "currentMode"
    || startsWithOrdinalIgnoreCase subTopic "value"

/-- A message on a topic of the node updates the remembered state, when it has one. -/
def tryUpdateFromMessage (topic payload : String) (p : ZWaveJsMqttLockProvider) :
    Bool × ZWaveJsMqttLockProvider :=
  if startsWithOrdinalIgnoreCase topic p.expectedPrefix
      && reportsState (String.ofList (topic.toList.drop p.expectedPrefix.toList.length)) then
    match stateOf payload with
    | some state => (true, { p with currentState := state })
    | none => (false, p)
  else (false, p)

end

end ZWaveJsMqttLockProvider

/-! ### A relay on a command topic -/

/-- A lock with a topic and a payload of its own for each command. -/
structure GenericMqttLockProvider where
  commandTopic : String
  stateTopic : String
  lockPayload : String := "LOCK"
  unlockPayload : String := "UNLOCK"
  mqttClient : Option MqttClientService := none
  currentState : LockState := .unknown
  deriving DecidableEq, Repr

namespace GenericMqttLockProvider

/-- A method that talks to the lock. -/
abbrev Operation (α : Type) := Exec MqttException GenericMqttLockProvider α

/-- A generic lock takes commands only. -/
def capabilities : LockCapabilities := LockCapabilities.remoteControl

/-- Publish, if there is a client. -/
def publish (topic : String) (payload : MqttPayload) : Operation Unit :=
  statement fun p =>
    (publishOrFallBack p.mqttClient topic payload).map fun mqttClient => { p with mqttClient }

/-- The state that the provider remembers. -/
def getStateAsync (p : GenericMqttLockProvider) : LockState := p.currentState

/-- Publish the command, and then remember it. -/
def lockAsync : Operation Bool := do
  let p ← get
  publish p.commandTopic (.text p.lockPayload)
  modify fun p => { p with currentState := .locked }
  return true

/-- Publish the command, and then remember it. -/
def unlockAsync : Operation Bool := do
  let p ← get
  publish p.commandTopic (.text p.unlockPayload)
  modify fun p => { p with currentState := .unlocked }
  return true

/-- A generic lock has no codes. -/
def getSlotCodesAsync (_p : GenericMqttLockProvider) : List HardwareSlotDto := []

/-- A relay has no user codes. -/
def setSlotCodeAsync (_slotNumber : Int) (_pinCode : String) (_label : Option String) :
    Operation Bool := pure false

/-- A generic lock does not clear codes. -/
def clearSlotCodeAsync (_slotNumber : Int) : Operation Bool := pure false

/-- A command of the service or of the worker. -/
def execute : LockCommand → Operation Bool
  | .lock => lockAsync
  | .unlock => unlockAsync
  | .setSlotCode slotNumber pinCode label => setSlotCodeAsync slotNumber pinCode label
  | .clearSlotCode slotNumber => clearSlotCodeAsync slotNumber

end GenericMqttLockProvider

/-! ### The providers over one interface -/

/-- `ILockProvider`, with its two implementations. -/
inductive MqttLockProvider where
  | zWaveJs (p : ZWaveJsMqttLockProvider)
  | generic (p : GenericMqttLockProvider)
  deriving DecidableEq

namespace MqttLockProvider

/-- The client of either provider. -/
def mqttClient : MqttLockProvider → Option MqttClientService
  | .zWaveJs p => p.mqttClient
  | .generic p => p.mqttClient

/-- The messages that the provider's client has published. -/
def published (p : MqttLockProvider) : List MqttMessage :=
  p.mqttClient.elim [] MqttClientService.published

/-- The state of either provider. -/
def getStateAsync : MqttLockProvider → LockState
  | .zWaveJs p => p.getStateAsync
  | .generic p => p.getStateAsync

/-- The connection comes or goes. -/
def setConnected (p : MqttLockProvider) (connected : Bool) : MqttLockProvider :=
  let set := Option.map fun client : MqttClientService => { client with isConnected := connected }
  match p with
  | .zWaveJs p => .zWaveJs { p with mqttClient := set p.mqttClient }
  | .generic p => .generic { p with mqttClient := set p.mqttClient }

/-- A call, and whether the client is connected when it is made. -/
structure Call where
  connected : Bool
  command : LockCommand
  deriving DecidableEq, Repr

section
variable [Host]

/-- The codes of either provider. -/
def getSlotCodesAsync : MqttLockProvider → List HardwareSlotDto
  | .zWaveJs p => p.getSlotCodesAsync
  | .generic p => p.getSlotCodesAsync

/-- A command at either provider. -/
def execute (p : MqttLockProvider) (command : LockCommand) :
    Except MqttException Bool × MqttLockProvider :=
  match p with
  | .zWaveJs p => ((ZWaveJsMqttLockProvider.execute command).exec p).map id .zWaveJs
  | .generic p => ((GenericMqttLockProvider.execute command).exec p).map id .generic

/-- What the call answers. -/
def answer (p : MqttLockProvider) (call : Call) : Except MqttException Bool :=
  ((p.setConnected call.connected).execute call.command).1

/-- What the call leaves. -/
def step (p : MqttLockProvider) (call : Call) : MqttLockProvider :=
  ((p.setConnected call.connected).execute call.command).2

end

end MqttLockProvider

end CodeMaster.Engine
