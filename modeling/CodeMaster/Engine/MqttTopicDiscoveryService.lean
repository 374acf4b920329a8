import Mathlib.Data.List.Infix
import CodeMaster.Core.Host
import CodeMaster.Engine.InboundEvents
import CodeMaster.Lib.Table

/-!
# `CodeMaster.Engine.MqttTopicDiscoveryService`: the topics that the form suggests

The service keeps one entry for each recorded topic, where upper and lower case count as the same.
An entry has a device type, which is read off the topic.

`toLower` is the case map of `ToLowerInvariant`, and `topicLe` is the order of `OrderBy`, which
depends on the culture. Topics that it takes as equal are in the order of the table. A dictionary
leaves that order open.
-/

set_option autoImplicit false

namespace CodeMaster.Engine

open CodeMaster.Core Relational

/-- A topic that was seen, with its latest payload. -/
structure DiscoveredTopic where
  topic : String
  deviceType : String
  description : String
  lastSeen : DateTime
  samplePayload : Option String
  deriving DecidableEq, Repr

/-- A call of `RecordTopic`, with the time of the call. -/
structure TopicRecord where
  topic : String
  payload : Option String
  utcNow : DateTime
  deriving DecidableEq, Repr

namespace MqttTopicDiscoveryService

/-- `string.Contains`. -/
def contains (text value : String) : Bool := value.toList <:+: text.toList

/-- A description for a topic without a better one: the name in the topic, and the category. -/
def formatDescription (category topic : String) : String :=
  let parts := (topicParts topic).filter (· ≠ "")
  let name := match parts with
    | _ :: second :: _ => String.ofList (second.toList.map fun c => if c = '_' then ' ' else c)
    | _ => topic
  category ++ " (" ++ name ++ ")"

section
variable (toLower : Char → Char)

/-- The device type and the description. -/
def classifyTopic (topic : String) : String × String :=
  let lower := String.ofList (topic.toList.map toLower)
  if contains lower "lock" || contains lower "deadbolt" || contains lower "bolt" then
    ("lock", formatDescription "Smart Lock" topic)
  else if contains lower "keypad" || contains lower "alarm" || contains lower "user_code"
      || contains lower "usercode" then
    ("keypad", formatDescription "Security Keypad" topic)
  else if contains lower "contact" || contains lower "door" || contains lower "sensor"
      || contains lower "binary_sensor" then
    ("sensor", formatDescription "Contact Sensor" topic)
  else ("other", formatDescription "MQTT Entity" topic)

/-- The entry of a call. -/
def entryOf (r : TopicRecord) : DiscoveredTopic where
  topic := r.topic
  deviceType := (classifyTopic toLower r.topic).1
  description := (classifyTopic toLower r.topic).2
  lastSeen := r.utcNow
  samplePayload := r.payload

section
variable [Host]

/-- What `StringComparer.OrdinalIgnoreCase` compares. -/
def topicKey (topic : String) : List Char := topic.toList.map Host.toUpperInvariant

/-- The dictionary `_discovered`. -/
abbrev Discovered : Type := Table fun t : DiscoveredTopic => topicKey t.topic

/-- `RecordTopic`: the entry takes the place of the one with its topic. A blank topic is not
recorded. -/
def recordTopic (discovered : Discovered) (r : TopicRecord) : Discovered :=
  if isNullOrWhiteSpace (some r.topic) then discovered
  else discovered.upsert (entryOf toLower r)

/-- The topics that the constructor records. `utcNow` is the clock at each of them. -/
def defaultRecords (utcNow : Fin 4 → DateTime) : List TopicRecord := [
  { topic := "zwave/front_door_lock/door_lock/endpoint_0/currentState"
    payload := some "\x7b\"value\":\"locked\"\x7d"
    utcNow := utcNow 0 },
  { topic := "zwave/side_door/door_lock/endpoint_0/currentState"
    payload := some "\x7b\"value\":\"locked\"\x7d"
    utcNow := utcNow 1 },
  { topic := "ring/front_keypad/alarm/command"
    payload := some "\x7b\"command\":\"disarm\",\"code\":\"\"\x7d"
    utcNow := utcNow 2 },
  { topic := "zigbee2mqtt/front_door_contact/contact"
    payload := some "\x7b\"contact\":true\x7d"
    utcNow := utcNow 3 }]

/-- The constructor. -/
def new (utcNow : Fin 4 → DateTime) : Discovered :=
  (defaultRecords utcNow).foldl (recordTopic toLower) .empty

end

end

/-- `GetDiscoveredTopics`: the entries of a type, or all of them, in the order of their topics. -/
def getDiscoveredTopics [Host] (topicLe : String → String → Bool) (discovered : Discovered)
    (deviceType : Option String) : List DiscoveredTopic :=
  let query :=
    if isNullOrWhiteSpace deviceType then discovered.rows
    else discovered.rows.filter fun t => equalsOrdinalIgnoreCase t.deviceType (deviceType.getD "")
  query.insertionSort fun a b => topicLe a.topic b.topic

end MqttTopicDiscoveryService

end CodeMaster.Engine
