import CodeMaster.Lib.Json
import CodeMaster.Ui.DoorStore
import CodeMaster.Web.AccessPointsController

/-!
# `CodeMaster.Ui.DoorSetupWizard`: the form of a door

`openDoor` fills the form from a door, and `handleSubmit` makes the body of the request from the
form. The topics are in JSON texts that the form writes and reads. The form suggests topics that the
server has found.

A topic that is not a text does not come from this form, and is left out. The numbers are integers:
the answer to a request with another number is an error.
-/

set_option autoImplicit false

namespace CodeMaster.Ui

open CodeMaster.Core CodeMaster.Web

/-- `String.prototype.trim`. -/
def jsTrim (s : String) : String :=
  trim (fun c => (isWhiteSpace c && c ≠ '\u0085') || c = '\ufeff') s

/-- The state of the form. -/
structure DoorForm where
  name : String
  lockProviderType : String
  lockTopic : String
  keypadProviderType : String
  keypadTopic : String
  doorSensorProviderType : String
  doorSensorTopic : String
  autoLockEnabled : Bool
  autoLockDaySeconds : Int
  autoLockNightSeconds : Int
  retryOnFailure : Bool
  deriving DecidableEq, Repr

/-- A topic in the answer of the server. -/
structure DiscoveredTopic where
  topic : String
  deviceType : String
  description : String
  deriving DecidableEq, Repr

namespace DoorSetupWizard

/-- A property of the parsed configuration that is a text and not empty. -/
def textProperty (cfg : Json) (name : String) : Option String :=
  match cfg with
  | .object members =>
    match members.reverse.lookup name with
    | some (.string value) => truthy (some value)
    | _ => none
  | _ => none

/-- The topic in a configuration. `aliasName` is a second name for it. -/
def topicOf (aliasName : String) (configJson : Option String) : String :=
  match Json.read ((truthy configJson).getD "{}") with
  | none => ""
  | some cfg => ((textProperty cfg "topic").or (textProperty cfg aliasName)).getD ""

/-- The form for a door. -/
def openDoor (door : AccessPoint) : DoorForm where
  name := door.name
  lockProviderType := (truthy (some door.lockProviderType)).getD "AugustZWave"
  lockTopic := topicOf "lockTopic" (some door.lockConfigJson)
  keypadProviderType := (truthy door.keypadProviderType).getD "None"
  keypadTopic := topicOf "keypadTopic" door.keypadConfigJson
  doorSensorProviderType := (truthy door.doorSensorProviderType).getD "None"
  doorSensorTopic := topicOf "sensorTopic" door.doorSensorConfigJson
  autoLockEnabled := door.autoLockEnabled
  autoLockDaySeconds := door.autoLockDaySeconds
  autoLockNightSeconds := door.autoLockNightSeconds
  retryOnFailure := door.retryOnFailure

/-- `JSON.stringify({ topic })`. -/
def configOf (topic : String) : String := (Json.object [("topic", .string topic)]).stringify

/-- A device that can be left out, and its configuration. -/
def deviceOf {α : Type} (providerType : String) (value : α) : Option α :=
  if providerType = "None" then none else some value

end DoorSetupWizard

end CodeMaster.Ui
