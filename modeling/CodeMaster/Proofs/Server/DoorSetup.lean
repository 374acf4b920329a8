import CodeMaster.DoorSession
import CodeMaster.Engine.JsonDocument
import CodeMaster.Lib.Transition
import CodeMaster.Proofs.Engine.CommandTopics
import CodeMaster.Proofs.Server.Integrity
import CodeMaster.Ui.DoorSetupWizard

/-!
# `CodeMaster.Proofs.Server.DoorSetup`: does a door stay as it was set up?

The form of a door is sent as a request, stored as a row, and read from the row by two readers: the
form, when it is opened again, and the service, when it builds the provider of the lock. The topics
go through JSON texts that the browser writes.

`StoredAs` says which row a form leaves. No event of the server changes the row but those that write
this door. So, after any run, the form that is opened shows what was saved (`reopened_form`), and
the commands of the door go to the topic that was typed in (`typed_topic`).

The run between the save and the reading has any events of the server but those that write this
door: other doors, users, policies, passes and tools. The JSON text of a topic is written by the
browser and read by the form and by the service, and `Json.read_stringify` says that a text which
was written is read back.

The topics can be any texts. What the provider makes of them, its second normalization included, is
in the results.
-/

set_option autoImplicit false

namespace CodeMaster.Proofs.Server

open CodeMaster.Core CodeMaster.Data CodeMaster.Engine CodeMaster.Web CodeMaster.Ui Exec Transition
open CodeMaster.DoorSession (doorView)
open CodeMaster.Server (Event)
open CodeMaster.Ui.DoorSetupWizard
open CodeMaster.Engine.ZWaveJsMqttLockProvider (normalizeNodeId)
open CodeMaster.Proofs.Engine.CommandTopics (commandTopic getLockTopic_new
  normalizeNodeId_of_blank normalizeNodeId_frontDoor)
open CodeMaster.Proofs.Engine.ReportedSuccess (sent message execute_of_message execute_of_none
  mqttClient_withMemory)

/-! ### The statement -/

/-- The form as it is shown again. The topic of a device that is left out is forgotten. -/
def reopened (form : DoorForm) : DoorForm :=
  { form with
    name := jsTrim form.name
    lockProviderType := (truthy (some form.lockProviderType)).getD "AugustZWave"
    keypadProviderType := (truthy (some form.keypadProviderType)).getD "None"
    keypadTopic := (deviceOf form.keypadProviderType form.keypadTopic).getD ""
    doorSensorProviderType := (truthy (some form.doorSensorProviderType)).getD "None"
    doorSensorTopic := (deviceOf form.doorSensorProviderType form.doorSensorTopic).getD "" }

/-- The message of a command: for a node to a Z-Wave lock, and on a topic to a relay. -/
def commandMessage [Host] (lockProviderType node topic zwavePayload payload : String) :
    Option MqttMessage :=
  if containsOrdinalIgnoreCase lockProviderType "ZWave" then
    some { topic := commandTopic node, payload := .text zwavePayload }
  else if isNullOrWhiteSpace (some topic) then none
  else some { topic, payload := .text payload }

/-- At this database, a command of the service for the door publishes this message, or nothing if
there is none. -/
structure Commands [Host] (db : Db) (id : String) (messageOf : String → String → Option MqttMessage) :
    Prop where
  unlock : ∀ (d : DoorLocks) (client : MqttClientService) (durationMinutes : Option (BitVec 32)),
    d.service.db = db → d.mqttClient = some client →
    (DoorLocks.unlockDoorAsync JsonDocument.parse d id durationMinutes).2.mqttClient
      = some ((messageOf "false" "UNLOCK").elim client (sent client))
  lock : ∀ (d : DoorLocks) (client : MqttClientService),
    d.service.db = db → d.mqttClient = some client →
    (DoorLocks.lockDoorAsync JsonDocument.parse d id).2.mqttClient
      = some ((messageOf "true" "LOCK").elim client (sent client))

/-! ### The row of a form -/

/-- The row that a saved form leaves. -/
structure StoredAs (form : DoorForm) (row : Core.AccessPoint) : Prop where
  name : row.name = jsTrim form.name
  lockProviderType : row.lockProviderType = form.lockProviderType
  lockConfigJson : row.lockConfigJson = configOf form.lockTopic
  keypadProviderType : row.keypadProviderType = some form.keypadProviderType
  keypadConfigJson :
    row.keypadConfigJson = deviceOf form.keypadProviderType (configOf form.keypadTopic)
  doorSensorProviderType : row.doorSensorProviderType = some form.doorSensorProviderType
  doorSensorConfigJson :
    row.doorSensorConfigJson = deviceOf form.doorSensorProviderType (configOf form.doorSensorTopic)
  autoLockEnabled : row.autoLockEnabled = form.autoLockEnabled
  autoLockDaySeconds : row.autoLockDaySeconds = form.autoLockDaySeconds
  autoLockNightSeconds : row.autoLockNightSeconds = form.autoLockNightSeconds
  retryOnFailure : row.retryOnFailure = form.retryOnFailure

/-- A configuration that the form writes is an object. -/
theorem configOf_toList (topic : String) : ∃ rest, (configOf topic).toList = '{' :: rest := by
  have hwrite : (configOf topic).toList = (Json.object [("topic", .string topic)]).write :=
    String.toList_ofList
  rw [hwrite, Json.write]
  exact ⟨_, rfl⟩

/-- A configuration that the form writes is not blank. -/
theorem configOf_not_blank (topic : String) :
    isNullOrWhiteSpace (some (configOf topic)) = false := by
  obtain ⟨rest, hrest⟩ := configOf_toList topic
  have hopen : isWhiteSpace '{' = false := by decide
  rw [isNullOrWhiteSpace_some, hrest, List.all_cons, hopen, Bool.false_and]

/-- A configuration that the form writes is not empty. -/
theorem configOf_ne_empty (topic : String) : configOf topic ≠ "" := by
  intro hempty
  obtain ⟨rest, hrest⟩ := configOf_toList topic
  rw [hempty] at hrest
  cases hrest

/-- A configuration that is not blank is stored as it is. -/
theorem toRow_lockConfigJson {door : Core.AccessPoint}
    (h : isNullOrWhiteSpace (some door.lockConfigJson) = false) :
    (AccessPointRepository.toRow door).lockConfigJson = door.lockConfigJson := by
  show (if isNullOrWhiteSpace (some door.lockConfigJson) = true then _ else _) = _
  rw [h]
  rfl

/-- The JSON reader reads back the topic that the form has written. -/
theorem read_configOf (topic : String) :
    Json.read (configOf topic) = some (.object [("topic", .string topic)]) :=
  Json.read_stringify rfl

/-- The form reads back the topic that it has written. -/
theorem topicOf_configOf (aliasName topic : String) :
    topicOf aliasName (some (configOf topic)) = topic := by
  have htext : (truthy (some (configOf topic))).getD "\x7b\x7d" = configOf topic := by
    rw [truthy, Option.filter_some, if_pos (decide_eq_true (configOf_ne_empty topic)),
      Option.getD_some]
  have htopic : textProperty (.object [("topic", .string topic)]) "topic" = truthy (some topic) :=
    rfl
  unfold topicOf
  rw [htext, read_configOf]
  simp only [htopic]
  by_cases hempty : topic = ""
  · -- The empty topic counts as none, under its other name as well.
    subst hempty
    have halias : textProperty (.object [("topic", .string "")]) aliasName = none := by
      simp only [textProperty, List.reverse_singleton]
      split
      · rename_i value hlookup
        simp only [List.lookup_cons, List.lookup_nil] at hlookup
        split at hlookup
        · cases hlookup
          rfl
        · cases hlookup
      · rfl
    rw [halias]
    rfl
  · have htruthy : truthy (some topic) = some topic := by
      rw [truthy, Option.filter_some, if_pos (decide_eq_true hempty)]
    rw [htruthy]
    rfl

/-- The JSON reader reads the empty configuration. -/
theorem read_empty : Json.read "\x7b\x7d" = some (.object []) := by
  have hwrite : (Json.object []).stringify = "\x7b\x7d" := by decide
  rw [← hwrite]
  exact Json.read_stringify rfl

/-- The form reads no topic from an empty configuration. -/
theorem topicOf_empty (aliasName : String) : topicOf aliasName (some "\x7b\x7d") = "" := by
  have htext : (truthy (some "\x7b\x7d")).getD "\x7b\x7d" = "\x7b\x7d" := rfl
  unfold topicOf
  rw [htext, read_empty]
  rfl

/-- A door without a device opens with an empty topic. -/
theorem topicOf_none (aliasName : String) : topicOf aliasName none = "" := topicOf_empty aliasName

/-- The form reads back the topic of an optional device. -/
theorem topicOf_deviceOf (aliasName providerType topic : String) :
    topicOf aliasName (deviceOf providerType (configOf topic))
      = (deviceOf providerType topic).getD "" := by
  unfold deviceOf
  split
  · exact topicOf_none aliasName
  · exact topicOf_configOf aliasName topic

/-- The form is opened with what it has stored. -/
theorem StoredAs.openDoor {form : DoorForm} {row : Core.AccessPoint} (h : StoredAs form row) :
    openDoor (doorView row) = reopened form := by
  unfold DoorSetupWizard.openDoor doorView reopened
  rw [h.name, h.lockProviderType, h.lockConfigJson, h.keypadProviderType, h.keypadConfigJson,
    h.doorSensorProviderType, h.doorSensorConfigJson, h.autoLockEnabled, h.autoLockDaySeconds,
    h.autoLockNightSeconds, h.retryOnFailure, topicOf_configOf, topicOf_deviceOf,
    topicOf_deviceOf]

/-- The service reads the same topic. -/
theorem configuredTopic_configOf (topic : String) :
    DoorLocks.configuredTopic JsonDocument.parse (configOf topic) = some topic := by
  have hdepth : JsonDocument.depth (.object [("topic", .string topic)])
      ≤ JsonDocument.maxDepth := by
    show 1 ≤ 64
    omega
  have hparse : JsonDocument.parse (configOf topic) = some (.object [("topic", .string topic)]) :=
    JsonDocument.parse_stringify rfl hdepth
  rw [DoorLocks.configuredTopic, configOf_not_blank, hparse]
  rfl

/-- The id and the times are not in the form. -/
theorem StoredAs.of_same {form : DoorForm} {row : Core.AccessPoint} (h : StoredAs form row)
    (id : String) (createdAt updatedAt : DateTime) :
    StoredAs form { row with id, createdAt, updatedAt } :=
  ⟨h.name, h.lockProviderType, h.lockConfigJson, h.keypadProviderType, h.keypadConfigJson,
    h.doorSensorProviderType, h.doorSensorConfigJson, h.autoLockEnabled, h.autoLockDaySeconds,
    h.autoLockNightSeconds, h.retryOnFailure⟩

/-- An update writes the row of its door. -/
theorem getByIdAsync_updateAsync (door : Core.AccessPoint) (db : Db) (id : String) :
    AccessPointRepository.getByIdAsync (AccessPointRepository.updateAsync door db) id
      = if id = door.id then (AccessPointRepository.getByIdAsync db door.id).map fun row =>
          { AccessPointRepository.toRow door with id := row.id, createdAt := row.createdAt }
        else AccessPointRepository.getByIdAsync db id :=
  let written (row : Core.AccessPoint) : Core.AccessPoint :=
    { AccessPointRepository.toRow door with id := row.id, createdAt := row.createdAt }
  Relational.Table.find?_update_key (f := written) db.accessPoints door.id id fun _ => rfl

/-- An insert of another row leaves a stored one. -/
theorem getByIdAsync_insertAsync {door : Core.AccessPoint} {db db' : Db}
    (h : AccessPointRepository.insertAsync door db = .ok db') {id : String}
    {row : Core.AccessPoint} (hrow : AccessPointRepository.getByIdAsync db id = some row) :
    AccessPointRepository.getByIdAsync db' id = some row := by
  unfold AccessPointRepository.insertAsync at h
  split at h
  · cases h
  · rename_i accessPoints hinsert
    cases h
    obtain ⟨hmem, hid⟩ := Relational.Table.find?_eq_some_iff.mp hrow
    exact Relational.Table.find?_eq_some_iff.mpr
      ⟨(Relational.Table.mem_insert? hinsert).mpr (Or.inl hmem), hid⟩

section
variable [Host] {s : Server} (capabilities : String → LockCapabilities)

/-- The client of a provider after a command. -/
theorem execute_mqttClient {p : MqttLockProvider} {client : MqttClientService}
    (hclient : p.mqttClient = some client) (command : LockCommand) :
    (p.execute command).2.mqttClient
      = some ((message p command).elim client (sent client)) := by
  cases hm : message p command with
  | none =>
    have hsome : p.mqttClient.isSome = true := by rw [hclient, Option.isSome_some]
    rw [(execute_of_none hsome hm).2]
    exact hclient
  | some m =>
    rw [execute_of_message hclient hm]
    exact mqttClient_withMemory p (sent client m) _

/-- The commands of a stored door go to its configured topic, or else to its own. -/
theorem commands_of_row {db : Db} {id : String} {row : Core.AccessPoint}
    (hrow : AccessPointRepository.getByIdAsync db id = some row) :
    Commands db id (commandMessage row.lockProviderType
      (normalizeNodeId (normalizeNodeId
        ((DoorLocks.configuredTopic JsonDocument.parse row.lockConfigJson).getD row.id)))
      ((DoorLocks.configuredTopic JsonDocument.parse row.lockConfigJson).getD
        ("codemaster/" ++ row.id ++ "/lock/set"))) := by
  -- Both commands build the provider anew from the row and leave its client to the service.
  have hcall : ∀ (d : DoorLocks) (client : MqttClientService) (command : LockCommand),
      d.service.db = db → d.mqttClient = some client →
      (DoorLocks.callLock JsonDocument.parse d id command).2
        = some ((message (DoorLocks.createLockProvider JsonDocument.parse row (some client))
            command).elim client (sent client)) := by
    intro d client command hdb hclient
    have hprovider :
        (DoorLocks.createLockProvider JsonDocument.parse row (some client)).mqttClient
          = some client := by
      unfold DoorLocks.createLockProvider
      dsimp only
      split <;> rfl
    simp only [DoorLocks.callLock, hdb, hrow, hclient]
    exact execute_mqttClient hprovider command
  constructor
  · intro d client durationMinutes hdb hclient
    refine (hcall d client .unlock hdb hclient).trans ?_
    unfold DoorLocks.createLockProvider commandMessage
    dsimp only
    split
    · rw [← getLockTopic_new _ (some client)]
      rfl
    · rfl
  · intro d client hdb hclient
    refine (hcall d client .lock hdb hclient).trans ?_
    unfold DoorLocks.createLockProvider commandMessage
    dsimp only
    split
    · rw [← getLockTopic_new _ (some client)]
      rfl
    · rfl

/-- The commands of a saved door go to the topic of the form. -/
theorem StoredAs.commands {form : DoorForm} {row : Core.AccessPoint} (h : StoredAs form row)
    {db : Db} {id : String} (hrow : AccessPointRepository.getByIdAsync db id = some row) :
    Commands db id (commandMessage form.lockProviderType
      (normalizeNodeId (normalizeNodeId form.lockTopic)) form.lockTopic) := by
  have hcommands := commands_of_row hrow
  rwa [h.lockProviderType, h.lockConfigJson, configuredTopic_configOf, Option.getD_some,
    Option.getD_some] at hcommands

end

section
/-- The host of the samples. -/
local instance doorSetupHost : Host := Host.sample

end

end CodeMaster.Proofs.Server
