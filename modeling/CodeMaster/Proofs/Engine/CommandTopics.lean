import CodeMaster.Engine.DoorLocks
import CodeMaster.Proofs.Engine.ReportedSuccess

/-!
# `CodeMaster.Proofs.Engine.CommandTopics`: which node do a door's commands go to?

`namedNode` is the node that a door names: the first of its three entries with a number or a
string that is not blank, or else its own id. `PublishesUnder` says that the commands of a door go
to a node.

The code reads the first entry that is present, and the provider normalizes the text twice.
`publishesUnder_iff` gives the node of the commands, and `ReadsNamedNode` is the condition under
which it is the named one, with a case for each kind of first entry. A blank string sends the
commands to `front_door`, so two doors with such entries share their topic
(`sharesTopic_iff`).

The configuration is a JSON text of the user's own making. It is read by a parser that is a
parameter, so that the results hold for any parser. An entry can be of any kind: missing, null, a
string that is blank or not, a number, or something else.

The ids of the doors are texts of letters and digits, for which the normalization is the identity.
What it does to other texts is the subject of `ListenedNode`.
-/

set_option autoImplicit false

namespace CodeMaster.Proofs.Engine.CommandTopics

open CodeMaster.Core Data CodeMaster.Engine Exec
open CodeMaster.Mcp (JsonElement)
open DoorLocks (configuredTopic createLockProvider callLock readTopic)
open ZWaveJsMqttLockProvider (normalizeNodeId)
open ReportedSuccess (sent message execute_of_message withMemory mqttClient_withMemory)

/-! ### The statement -/

/-- The command topic of a node. -/
def commandTopic (node : String) : String :=
  "zwave/" ++ node ++ "/door_lock/endpoint_0/targetState/set"

/-- The text of an entry that holds a number or a string that is not blank. -/
def usableText : JsonElement → Option String
  | .number text => some text
  | .string value => if isNullOrWhiteSpace (some value) then none else some value
  | _ => none

/-- The entries `topic`, `lockTopic` and `nodeId` of an object, those that are present. -/
def properties (root : JsonElement) : List JsonElement :=
  ["topic", "lockTopic", "nodeId"].filterMap fun name =>
    (root.tryGetProperty name).toOption.join

section
variable (parse : String → Option JsonElement)

/-- The entries of a door's configuration. -/
def entries (door : AccessPoint) : List JsonElement :=
  if isNullOrWhiteSpace (some door.lockConfigJson) then []
  else ((parse door.lockConfigJson).map properties).getD []

/-- No entry of the door names a node. -/
def Unconfigured (door : AccessPoint) : Prop := (entries parse door).findSome? usableText = none

/-- The text that names the node of a door. -/
def namedText (door : AccessPoint) : String :=
  ((entries parse door).findSome? usableText).getD door.id

/-- The first entry that is present is a blank string. -/
def ReadsBlank (door : AccessPoint) : Prop :=
  ∃ text, (entries parse door).head? = some (.string text)
    ∧ isNullOrWhiteSpace (some text) = true

section
variable [Host]

/-- The node that a door names. -/
def namedNode (door : AccessPoint) : String := normalizeNodeId (namedText parse door)

/-- A second normalization leaves the node. -/
def Settled (text : String) : Prop :=
  normalizeNodeId (normalizeNodeId text) = normalizeNodeId text

/-- The door's lock is a Z-Wave lock. -/
def IsZWave (door : AccessPoint) : Prop :=
  containsOrdinalIgnoreCase door.lockProviderType "ZWave" = true

/-- Every command of the door is one message for the node, if the client is connected. -/
structure PublishesUnder (door : AccessPoint) (node : String) : Prop where
  unlock : ∀ (d : DoorLocks) (client : MqttClientService) (durationMinutes : Option (BitVec 32)),
    d.mqttClient = some client →
    AccessPointRepository.getByIdAsync d.service.db door.id = some door →
    (DoorLocks.unlockDoorAsync parse d door.id durationMinutes).2.mqttClient
      = some (sent client { topic := commandTopic node, payload := .text "false" })
  lock : ∀ (d : DoorLocks) (client : MqttClientService), d.mqttClient = some client →
    AccessPointRepository.getByIdAsync d.service.db door.id = some door →
    (DoorLocks.lockDoorAsync parse d door.id).2.mqttClient
      = some (sent client { topic := commandTopic node, payload := .text "true" })

/-- Some topic gets the commands of both doors. -/
def SharesTopic (door door' : AccessPoint) : Prop :=
  ∃ node, PublishesUnder parse door node ∧ PublishesUnder parse door' node

/-- The first entry that is present leads to the named node: a string that is not blank is left by
a second normalization, and any other entry is one without which the named node is the same. -/
def ReadsNamedNode (door : AccessPoint) : Prop :=
  match (entries parse door).head? with
  | none => Settled door.id
  | some (.string text) =>
    if isNullOrWhiteSpace (some text) then namedNode parse door = "front_door" else Settled text
  | some _ => normalizeNodeId (normalizeNodeId door.id) = namedNode parse door

end

end

/-- Letters, digits, and the hyphens of a GUID. -/
def Alphanumeric (id : String) : Prop :=
  id ≠ "" ∧ ∀ c ∈ id.toList, (c.isAlphanum || c == '-') = true

/-! ### The normalization -/

/-- The characters of an id that the normalization leaves. -/
def isNodeChar (c : Char) : Bool := c.isAlphanum || c == '-' || c == '_'

/-- The characters of a node are ASCII characters. -/
theorem isNodeChar_lt {c : Char} (h : isNodeChar c = true) : c.toNat < 0x80 := by
  unfold isNodeChar Char.isAlphanum Char.isAlpha Char.isUpper Char.isLower Char.isDigit at h
  simp only [Bool.or_eq_true, Bool.and_eq_true, decide_eq_true_eq, beq_iff_eq, ge_iff_le,
    UInt32.le_iff_toNat_le] at h
  rcases h with (((hupper | hlower) | hdigit) | rfl) | rfl
  · exact Nat.lt_of_le_of_lt hupper.2 (by decide)
  · exact Nat.lt_of_le_of_lt hlower.2 (by decide)
  · exact Nat.lt_of_le_of_lt hdigit.2 (by decide)
  · decide
  · decide

/-- None of them is white space or a slash, also in upper case. -/
theorem isNodeChar_spec {c : Char} (h : isNodeChar c = true) :
    isWhiteSpace c = false ∧ c ≠ '/' ∧ c.toUpper ≠ '/' := by
  have hall : ∀ n : Fin 0x80, isNodeChar (Char.ofNat n) = true →
      isWhiteSpace (Char.ofNat n) = false ∧ Char.ofNat n ≠ '/' ∧ (Char.ofNat n).toUpper ≠ '/' := by
    decide +kernel
  have hc := hall ⟨c.toNat, isNodeChar_lt h⟩
  simp only [Char.ofNat_toNat] at hc
  exact hc h

section
variable [Host]

/-- The empty text has no prefix `zwave/`. -/
theorem startsWith_empty : startsWithOrdinalIgnoreCase "" "zwave/" = false := by
  simp [startsWithOrdinalIgnoreCase, equalsOrdinalIgnoreCase]

/-- A blank text is normalized to `front_door`. -/
theorem normalizeNodeId_of_blank {text : String} (h : isNullOrWhiteSpace (some text) = true) :
    normalizeNodeId text = "front_door" := by
  have htrim : trim isWhiteSpace text = "" := trim_of_all h
  have hslash : trim (· = '/') "" = "" := trim_of_all rfl
  simp [normalizeNodeId, htrim, hslash, startsWith_empty, isNullOrWhiteSpace]

/-- Text without a slash does not start with the prefix. -/
theorem startsWith_of_no_slash {text : String}
    (h : '/' ∉ text.toList.map Host.toUpperInvariant) :
    startsWithOrdinalIgnoreCase text "zwave/" = false := by
  by_contra hstart
  have hstart := startsWithOrdinalIgnoreCase_iff.mp (Bool.eq_true_of_not_eq_false hstart)
  refine h (hstart.subset (List.mem_map.mpr ⟨'/', by decide, ?_⟩))
  exact Host.toUpperInvariant_ascii '/' (by decide)

/-- A text of node characters has no slash, also after a change of the case. -/
theorem no_slash_of_nodeChars {text : String} (h : ∀ c ∈ text.toList, isNodeChar c = true) :
    '/' ∉ text.toList.map Host.toUpperInvariant := by
  intro hslash
  obtain ⟨c, hc, hupper⟩ := List.mem_map.mp hslash
  rw [Host.toUpperInvariant_ascii c (isNodeChar_lt (h c hc))] at hupper
  exact (isNodeChar_spec (h c hc)).2.2 hupper

/-- A text of node characters does not start with `zwave/`. -/
theorem startsWith_of_nodeChars {text : String} (h : ∀ c ∈ text.toList, isNodeChar c = true) :
    startsWithOrdinalIgnoreCase text "zwave/" = false :=
  startsWith_of_no_slash (no_slash_of_nodeChars h)

/-- Normalization leaves a text of node characters as it is. -/
theorem normalizeNodeId_of_nodeChars {text : String} (hne : text ≠ "")
    (h : ∀ c ∈ text.toList, isNodeChar c = true) : normalizeNodeId text = text := by
  have hspace : trim isWhiteSpace text = text :=
    trim_eq_self fun c hc => (isNodeChar_spec (h c hc)).1
  have hslash : trim (· = '/') text = text :=
    trim_eq_self fun c hc => decide_eq_false (isNodeChar_spec (h c hc)).2.1
  have hblank : isNullOrWhiteSpace (some text) = false := by
    obtain ⟨c, cs, hcs⟩ := List.exists_cons_of_ne_nil (mt String.toList_eq_nil_iff.mp hne)
    have hc := (isNodeChar_spec (h c (by rw [hcs]; exact List.mem_cons_self))).1
    simp [isNullOrWhiteSpace, hcs, hc]
  simp [normalizeNodeId, hspace, hslash, startsWith_of_nodeChars h, hblank]

/-- The name `front_door` is normalized to itself. -/
theorem normalizeNodeId_frontDoor : normalizeNodeId "front_door" = "front_door" :=
  normalizeNodeId_of_nodeChars (by decide) (List.all_eq_true.mp (by decide))

/-- Normalization leaves an id of letters and digits as it is. -/
theorem normalizeNodeId_of_alphanumeric {id : String} (h : Alphanumeric id) :
    normalizeNodeId id = id := by
  refine normalizeNodeId_of_nodeChars h.1 fun c hc => ?_
  rw [isNodeChar, h.2 c hc, Bool.true_or]

omit [Host] in
/-- An id of letters and digits is not `front_door`, which has an underscore. -/
theorem Alphanumeric.ne_frontDoor {id : String} (h : Alphanumeric id) : id ≠ "front_door" := by
  rintro rfl
  exact absurd (h.2 '_' (by decide)) (by decide)

/-! ### The entry that the code reads -/

/-- What `GetString` makes of an entry: a string, or nothing, also when it throws. -/
def stringOf : JsonElement → Option String
  | .string text => some text
  | _ => none

omit [Host] in
/-- What `GetString` gives, with no distinction between null and an exception. -/
theorem getString_toOption (e : JsonElement) : e.getString.toOption.join = stringOf e := by
  cases e <;> rfl

omit [Host] in
/-- The first entry that is present decides. -/
theorem readTopic_toOption (root : JsonElement) :
    (readTopic root).toOption.join = (properties root).head?.bind stringOf := by
  cases root with
  | object members =>
    simp only [readTopic, properties, JsonElement.tryGetProperty, List.filterMap_cons,
      List.filterMap_nil]
    cases htopic : members.reverse.lookup "topic" with
    | some property => exact getString_toOption property
    | none =>
      cases hlock : members.reverse.lookup "lockTopic" with
      | some property => exact getString_toOption property
      | none =>
        cases hnode : members.reverse.lookup "nodeId" with
        | some property => exact getString_toOption property
        | none => rfl
  | _ => rfl

omit [Host] in
/-- The topic of the configuration is the first of its entries, if this is a string. -/
theorem configuredTopic_eq (parse : String → Option JsonElement) (door : AccessPoint) :
    configuredTopic parse door.lockConfigJson = (entries parse door).head?.bind stringOf := by
  unfold configuredTopic entries
  split
  · rfl
  · cases parse door.lockConfigJson with
    | none => rfl
    | some root =>
      refine Eq.trans ?_ (readTopic_toOption root)
      cases h : readTopic root <;> simp [h, Except.toOption]

/-! ### The node of the commands -/

variable {parse : String → Option JsonElement} {door : AccessPoint}

/-- The node that the door's provider publishes for. -/
def commandedNode (parse : String → Option JsonElement) (door : AccessPoint) : String :=
  normalizeNodeId (normalizeNodeId ((configuredTopic parse door.lockConfigJson).getD door.id))

omit [Host] in
/-- Two nodes with one topic for commands are the same node. -/
theorem commandTopic_inj {node node' : String} (h : commandTopic node = commandTopic node') :
    node = node' := by
  have hlist := congrArg String.toList h
  simp only [commandTopic, String.toList_append, List.append_assoc] at hlist
  exact String.toList_inj.mp (List.append_cancel_right (List.append_cancel_left hlist))

/-- The topic of a lock is the one of its node. The name of the node is normalized twice, at the
creation of the provider and in its constructor. -/
theorem getLockTopic_new (nodeId : String) (mqttClient : Option MqttClientService) :
    (ZWaveJsMqttLockProvider.new nodeId 0 mqttClient).getLockTopic
      = commandTopic (normalizeNodeId (normalizeNodeId nodeId)) := by
  have htail : "/door_lock/endpoint_" ++ toString (0 : Int) ++ "/targetState/set"
      = "/door_lock/endpoint_0/targetState/set" := by decide
  simp only [ZWaveJsMqttLockProvider.getLockTopic, ZWaveJsMqttLockProvider.new, commandTopic,
    ← htail, String.append_assoc]

/-- A command of a stored Z-Wave door is one message of its provider. -/
theorem callLock_of_zwave (hzwave : IsZWave door) {d : DoorLocks} {client : MqttClientService}
    (hclient : d.mqttClient = some client)
    (hdoor : AccessPointRepository.getByIdAsync d.service.db door.id = some door)
    {command : LockCommand} {m : MqttMessage}
    (hm : message (.zWaveJs (.new ((configuredTopic parse door.lockConfigJson).getD door.id) 0
      (some client))) command = some m) :
    (callLock parse d door.id command).2 = some (sent client m) := by
  have hprovider : createLockProvider parse door (some client)
      = .zWaveJs (.new ((configuredTopic parse door.lockConfigJson).getD door.id) 0
          (some client)) := if_pos hzwave
  simp only [callLock, hdoor, hclient, hprovider]
  rw [execute_of_message rfl hm]
  simp only [mqttClient_withMemory]

/-- A Z-Wave door publishes its commands under the topic of its node. -/
theorem publishesUnder_commandedNode (hzwave : IsZWave door) :
    PublishesUnder parse door (commandedNode parse door) where
  unlock d client durationMinutes hclient hdoor := by
    refine callLock_of_zwave hzwave hclient hdoor ?_
    rw [commandedNode, ← getLockTopic_new _ (some client)]
    rfl
  lock d client hclient hdoor := by
    refine callLock_of_zwave hzwave hclient hdoor ?_
    rw [commandedNode, ← getLockTopic_new _ (some client)]
    rfl

/-- The commands of a Z-Wave door go to one node. -/
theorem publishesUnder_iff (hzwave : IsZWave door) {node : String} :
    PublishesUnder parse door node ↔ commandedNode parse door = node := by
  constructor
  · intro h
    -- A service that stores the door, with a client that is connected.
    let d : DoorLocks :=
      { service := { db := { accessPoints := Relational.Table.empty.upsert door } }
        mqttClient := some { isConnected := true } }
    have hdoor : AccessPointRepository.getByIdAsync d.service.db door.id = some door := by
      refine (Relational.Table.find?_upsert _ door door.id).trans ?_
      exact if_pos rfl
    have hcommanded : PublishesUnder parse door (commandedNode parse door) :=
      publishesUnder_commandedNode hzwave
    have hsent := Option.some.inj
      ((hcommanded.lock d _ rfl hdoor).symm.trans (h.lock d _ rfl hdoor))
    have htopic := congrArg (fun client => client.published.map MqttMessage.topic) hsent
    exact commandTopic_inj (List.cons.inj htopic).1
  · rintro rfl
    exact publishesUnder_commandedNode hzwave

/-! ### The named node -/

/-- The node that is commanded has the name of the topic in the configuration, or of the door. -/
theorem commandedNode_eq (parse : String → Option JsonElement) (door : AccessPoint) :
    commandedNode parse door
      = normalizeNodeId (normalizeNodeId
          (((entries parse door).head?.bind stringOf).getD door.id)) := by
  rw [commandedNode, configuredTopic_eq]

/-- The condition says that the node of the commands is the named one. -/
theorem readsNamedNode_iff (parse : String → Option JsonElement) (door : AccessPoint) :
    ReadsNamedNode parse door ↔ commandedNode parse door = namedNode parse door := by
  rw [commandedNode_eq]
  unfold ReadsNamedNode
  cases hentries : entries parse door with
  | nil =>
    have hnamed : namedNode parse door = normalizeNodeId door.id := by
      simp [namedNode, namedText, hentries]
    rw [hnamed]
    rfl
  | cons entry rest =>
    -- Only a string is read as a topic.
    cases entry with
    | string text =>
      show (if isNullOrWhiteSpace (some text) = true then _ else _) ↔ _
      cases hblank : isNullOrWhiteSpace (some text) with
      | true =>
        have hnode : normalizeNodeId (normalizeNodeId text) = "front_door" := by
          rw [normalizeNodeId_of_blank hblank, normalizeNodeId_frontDoor]
        show _ ↔ normalizeNodeId (normalizeNodeId text) = _
        rw [hnode]
        exact eq_comm
      | false =>
        have hnamed : namedNode parse door = normalizeNodeId text := by
          simp [namedNode, namedText, hentries, usableText, hblank]
        rw [hnamed]
        rfl
    | _ => rfl

/-! ### Two doors -/

/-- Without a usable entry, a door with such an id is commanded as `front_door` if it reads a
blank string, and as its id otherwise. -/
theorem commandedNode_of_unconfigured (hid : Alphanumeric door.id)
    (hunconfigured : Unconfigured parse door) :
    (ReadsBlank parse door ∧ commandedNode parse door = "front_door")
      ∨ (¬ ReadsBlank parse door ∧ commandedNode parse door = door.id) := by
  have hsettled : normalizeNodeId (normalizeNodeId door.id) = door.id := by
    rw [normalizeNodeId_of_alphanumeric hid, normalizeNodeId_of_alphanumeric hid]
  rw [commandedNode_eq]
  unfold Unconfigured at hunconfigured
  unfold ReadsBlank
  cases hentries : entries parse door with
  | nil => exact .inr ⟨by simp, hsettled⟩
  | cons entry rest =>
    cases entry with
    | string text =>
      -- A string that is not blank would be usable.
      have hblank : isNullOrWhiteSpace (some text) = true := by
        by_contra hblank
        simp [hentries, usableText, hblank] at hunconfigured
      refine .inl ⟨⟨text, rfl, hblank⟩, ?_⟩
      show normalizeNodeId (normalizeNodeId text) = _
      rw [normalizeNodeId_of_blank hblank, normalizeNodeId_frontDoor]
    | _ => exact .inr ⟨by simp, hsettled⟩

/-- Two doors without a usable entry share a topic exactly when both read a blank string. -/
theorem sharesTopic_iff {door' : AccessPoint} (hzwave : IsZWave door) (hzwave' : IsZWave door')
    (hid : Alphanumeric door.id) (hid' : Alphanumeric door'.id) (hne : door.id ≠ door'.id)
    (hunconfigured : Unconfigured parse door) (hunconfigured' : Unconfigured parse door') :
    SharesTopic parse door door' ↔ ReadsBlank parse door ∧ ReadsBlank parse door' := by
  have hshares : SharesTopic parse door door'
      ↔ commandedNode parse door = commandedNode parse door' := by
    simp [SharesTopic, publishesUnder_iff hzwave, publishesUnder_iff hzwave', eq_comm]
  rw [hshares]
  -- No alphanumeric id is `front_door`, so a blank string and an id never meet.
  rcases commandedNode_of_unconfigured hid hunconfigured with ⟨hblank, hnode⟩ | ⟨hblank, hnode⟩
  · rcases commandedNode_of_unconfigured hid' hunconfigured' with
      ⟨hblank', hnode'⟩ | ⟨hblank', hnode'⟩
    · simp [hnode, hnode', hblank, hblank']
    · simp [hnode, hnode', hblank', Ne.symm hid'.ne_frontDoor]
  · rcases commandedNode_of_unconfigured hid' hunconfigured' with
      ⟨hblank', hnode'⟩ | ⟨hblank', hnode'⟩
    · simp [hnode, hnode', hblank, hid.ne_frontDoor]
    · simp [hnode, hnode', hblank, hne]

/-- **A door's commands go to the node that it names** exactly when its first entry leads there.
Two doors with different ids and no usable entry share a topic exactly when both read a blank
string. -/
theorem commands_reach_namedNode_iff (parse : String → Option JsonElement) (door : AccessPoint)
    (hzwave : IsZWave door) :
    (PublishesUnder parse door (namedNode parse door) ↔ ReadsNamedNode parse door)
      ∧ ∀ door' : AccessPoint, IsZWave door' → Alphanumeric door.id → Alphanumeric door'.id →
        door.id ≠ door'.id → Unconfigured parse door → Unconfigured parse door' →
        (¬ SharesTopic parse door door' ↔ ¬ (ReadsBlank parse door ∧ ReadsBlank parse door')) := by
  constructor
  · rw [publishesUnder_iff hzwave, readsNamedNode_iff]
  · intro door' hzwave' hid hid' hne hunconfigured hunconfigured'
    exact not_congr (sharesTopic_iff hzwave hzwave' hid hid' hne hunconfigured hunconfigured')

end

/-! ### Runs on fixed inputs -/

section
/-- The host of the samples. -/
local instance : Host := Host.sample

/-- Two of the documents that a door can have: without an entry, and with the topic that an empty
field of the wizard leaves. -/
def parseSample (text : String) : Option JsonElement :=
  if text = "\x7b\x7d" then some (.object [])
  else if text = "\x7b\"topic\":\"\"\x7d" then some (.object [("topic", .string "")])
  else none

/-- A Z-Wave door with this configuration. -/
def zwaveDoor (id lockConfigJson : String) : AccessPoint where
  id
  lockProviderType := "ZWaveJsMqtt"
  lockConfigJson
  createdAt := { ticks := 0 }
  updatedAt := { ticks := 0 }

/-- Its provider is one for Z-Wave. -/
theorem zwaveDoor_isZWave (id lockConfigJson : String) : IsZWave (zwaveDoor id lockConfigJson) := by
  show containsOrdinalIgnoreCase "ZWaveJsMqtt" "ZWave" = true
  decide

/-- The id `garage` has letters only. -/
theorem garage_alphanumeric : Alphanumeric "garage" :=
  ⟨by decide, List.all_eq_true.mp (by decide)⟩

/-- The id `office` has letters only. -/
theorem office_alphanumeric : Alphanumeric "office" :=
  ⟨by decide, List.all_eq_true.mp (by decide)⟩

/-- The configuration of the sample without a topic. -/
theorem entries_of_empty (id : String) : entries parseSample (zwaveDoor id "\x7b\x7d") = [] := by
  show (if isNullOrWhiteSpace (some "\x7b\x7d") = true then [] else [] : List JsonElement) = []
  rw [ite_self]

/-- The configuration of the sample with an empty topic. -/
theorem entries_of_emptyTopic (id : String) :
    entries parseSample (zwaveDoor id "\x7b\"topic\":\"\"\x7d") = [.string ""] := by
  show (if isNullOrWhiteSpace (some "\x7b\"topic\":\"\"\x7d") = true then []
    else [.string ""] : List JsonElement) = [.string ""]
  rw [if_neg (by decide)]

/-- Doors without an entry. -/
theorem commands_reach_namedNode_iff_garage :
    PublishesUnder parseSample (zwaveDoor "garage" "\x7b\x7d")
        (namedNode parseSample (zwaveDoor "garage" "\x7b\x7d"))
      ∧ ¬ SharesTopic parseSample (zwaveDoor "garage" "\x7b\x7d")
        (zwaveDoor "office" "\x7b\x7d") := by
  have hboth := commands_reach_namedNode_iff parseSample (zwaveDoor "garage" "\x7b\x7d")
    (zwaveDoor_isZWave _ _)
  have hunconfigured : ∀ id, Unconfigured parseSample (zwaveDoor id "\x7b\x7d") := by
    intro id
    rw [Unconfigured, entries_of_empty, List.findSome?_nil]
  constructor
  · refine hboth.1.mpr ?_
    show normalizeNodeId (normalizeNodeId "garage") = normalizeNodeId "garage"
    rw [normalizeNodeId_of_alphanumeric garage_alphanumeric,
      normalizeNodeId_of_alphanumeric garage_alphanumeric]
  · refine (hboth.2 (zwaveDoor "office" "\x7b\x7d") (zwaveDoor_isZWave _ _) garage_alphanumeric
      office_alphanumeric (by decide) (hunconfigured _) (hunconfigured _)).mpr ?_
    rintro ⟨⟨text, hhead, -⟩, -⟩
    rw [entries_of_empty] at hhead
    cases hhead

/-- An empty topic sends the commands of both doors to `front_door`. -/
theorem empty_topic_commands_frontDoor :
    ¬ PublishesUnder parseSample (zwaveDoor "garage" "\x7b\"topic\":\"\"\x7d")
        (namedNode parseSample (zwaveDoor "garage" "\x7b\"topic\":\"\"\x7d"))
      ∧ SharesTopic parseSample (zwaveDoor "garage" "\x7b\"topic\":\"\"\x7d")
        (zwaveDoor "office" "\x7b\"topic\":\"\"\x7d") := by
  have hblank : ∀ id, ReadsBlank parseSample (zwaveDoor id "\x7b\"topic\":\"\"\x7d") :=
    fun id => ⟨"", by rw [entries_of_emptyTopic, List.head?_cons], rfl⟩
  have hunconfigured :
      ∀ id, Unconfigured parseSample (zwaveDoor id "\x7b\"topic\":\"\"\x7d") := by
    intro id
    rw [Unconfigured, entries_of_emptyTopic]
    rfl
  constructor
  · rw [publishesUnder_iff (zwaveDoor_isZWave _ _), ← readsNamedNode_iff]
    show ¬ normalizeNodeId "garage" = "front_door"
    rw [normalizeNodeId_of_alphanumeric garage_alphanumeric]
    decide
  · exact (sharesTopic_iff (zwaveDoor_isZWave _ _) (zwaveDoor_isZWave _ _) garage_alphanumeric
      office_alphanumeric (by decide) (hunconfigured _) (hunconfigured _)).mpr
        ⟨hblank _, hblank _⟩

end

end CodeMaster.Proofs.Engine.CommandTopics
