import CodeMaster.Proofs.Engine.CommandTopics

/-!
# `CodeMaster.Proofs.Engine.ListenedNode`: do the commands and the reports name one node?

A Z-Wave provider normalizes its node once when it is made, and listens under that node. Its
topics normalize the node again, so it publishes under a second node. `SameNode` says that the
two are one, whatever has happened to the provider.

They are one exactly when the normalization leaves its own result (`normalizeNodeId_twice_iff`).
It trims blanks, trims slashes and strips a prefix, each once and in this order, and a later step
can uncover something for an earlier one. `Stable` says that none does.

Both readings of the node are functions of one text, so that the result is about texts. A text comes
apart into what the trimming takes away and an inner part (`inner`), and this into what the prefix
and the fallback make of it (`stripped`).

The node of a provider never changes, whatever commands and messages it gets. That is the invariant
`MadeFor` of the reachable providers.
-/

set_option autoImplicit false

namespace CodeMaster.Proofs.Engine.ListenedNode

open CodeMaster.Core CodeMaster.Engine Exec
open ZWaveJsMqttLockProvider (Operation normalizeNodeId expectedPrefix reportsState stateOf
  tryUpdateFromMessage)
open CommandTopics (startsWith_of_no_slash startsWith_of_nodeChars no_slash_of_nodeChars
  normalizeNodeId_frontDoor)
open ReportedSuccess (message execute_of_message mqttClient_withMemory)

section
variable [Host]

/-! ### The statement -/

/-- The text without the blanks around it, and then without the slashes around the rest. -/
def inner (nodeId : String) : String := trim (· = '/') (trim isWhiteSpace nodeId)

/-- What follows a prefix of the length of `zwave/`. -/
def rest (text : String) : String := String.ofList (text.toList.drop "zwave/".toList.length)

/-- Nothing to trim and no prefix. -/
structure Bare (text : String) : Prop where
  blanks : Trimmed isWhiteSpace text
  slashes : Trimmed (· = '/') text
  unprefixed : startsWithOrdinalIgnoreCase text "zwave/" = false

/-- The slashes hide no blanks, and the prefix hides no blanks, no slashes and no second prefix,
unless there is nothing else. -/
def Stable (nodeId : String) : Prop :=
  if startsWithOrdinalIgnoreCase (inner nodeId) "zwave/" then
    isNullOrWhiteSpace (some (rest (inner nodeId))) = true ∨ Bare (rest (inner nodeId))
  else
    isNullOrWhiteSpace (some (inner nodeId)) = true ∨ Trimmed isWhiteSpace (inner nodeId)

/-- What can become of a provider that is made for a node. Others connect its client and publish
with it. -/
inductive Reached (nodeId : String) (endpoint : Int) : ZWaveJsMqttLockProvider → Prop where
  | new (mqttClient : Option MqttClientService) : Reached nodeId endpoint
      (.new nodeId endpoint mqttClient)
  | client {p : ZWaveJsMqttLockProvider} (mqttClient : Option MqttClientService) :
      Reached nodeId endpoint p → Reached nodeId endpoint { p with mqttClient }
  | command {p : ZWaveJsMqttLockProvider} (command : LockCommand) :
      Reached nodeId endpoint p →
        Reached nodeId endpoint ((ZWaveJsMqttLockProvider.execute command).exec p).2
  | inbound {p : ZWaveJsMqttLockProvider} (topic payload : String) :
      Reached nodeId endpoint p → Reached nodeId endpoint (tryUpdateFromMessage topic payload p).2

/-- The provider accepts messages under the door lock of the node, and no others. -/
structure ListensUnder (p : ZWaveJsMqttLockProvider) (node : String) : Prop where
  only : ∀ topic payload, (tryUpdateFromMessage topic payload p).1 = true →
    startsWithOrdinalIgnoreCase topic ("zwave/" ++ node ++ "/door_lock/") = true
  accepts : ∀ value ∈ ["currentState", "currentMode", "value"], ∀ payload,
    (stateOf payload).isSome = true →
    (tryUpdateFromMessage
      ("zwave/" ++ node ++ "/door_lock/endpoint_" ++ toString p.endpoint ++ "/" ++ value)
      payload p).1 = true

/-- Every command is one message under the node, if the client is connected. -/
def PublishesUnder (p : ZWaveJsMqttLockProvider) (node : String) : Prop :=
  ∀ (client : MqttClientService) (command : LockCommand), p.mqttClient = some client →
    client.isConnected = true → ∃ m : MqttMessage,
      ((MqttLockProvider.zWaveJs p).execute command).2.published = client.published ++ [m]
        ∧ ("zwave/" ++ node ++ "/").toList <+: m.topic.toList

/-- The provider listens and publishes under one node. -/
def SameNode (nodeId : String) (endpoint : Int) : Prop :=
  ∃ node, ∀ p, Reached nodeId endpoint p → ListensUnder p node ∧ PublishesUnder p node

/-! ### The second normalization -/

/-- The text without the prefix. -/
def stripped (text : String) : String :=
  if startsWithOrdinalIgnoreCase text "zwave/" then rest text else text

/-- Normalization strips the part of the id that names the node, and falls back to `front_door`. -/
theorem normalizeNodeId_eq (nodeId : String) :
    normalizeNodeId nodeId
      = if isNullOrWhiteSpace (some (stripped (inner nodeId))) then "front_door"
        else stripped (inner nodeId) := rfl

/-- Stripping takes characters away. -/
theorem stripped_sublist (text : String) : (stripped text).toList.Sublist text.toList := by
  unfold stripped
  split
  · rw [rest, String.toList_ofList]
    exact List.drop_sublist _ _
  · exact List.Sublist.refl _

omit [Host] in
/-- The part that names the node is a part of the trimmed id. -/
theorem inner_sublist (nodeId : String) :
    (inner nodeId).toList.Sublist (trim isWhiteSpace nodeId).toList :=
  trim_sublist _ _

/-- A normalized id is not blank. -/
theorem not_blank_normalizeNodeId (nodeId : String) :
    isNullOrWhiteSpace (some (normalizeNodeId nodeId)) = false := by
  rw [normalizeNodeId_eq]
  split
  · decide
  · exact Bool.eq_false_of_not_eq_true ‹_›

/-- Normalization leaves a bare id as it is. -/
theorem normalizeNodeId_of_bare {text : String} (hbare : Bare text)
    (hblank : isNullOrWhiteSpace (some text) = false) : normalizeNodeId text = text := by
  have hinner : inner text = text := by
    rw [inner, trim_of_trimmed hbare.blanks, trim_of_trimmed hbare.slashes]
  have hstripped : stripped text = text := by
    rw [stripped, hbare.unprefixed, if_neg Bool.false_ne_true]
  rw [normalizeNodeId_eq, hinner, hstripped, hblank, if_neg Bool.false_ne_true]

/-- The fallback is bare. -/
theorem bare_frontDoor : Bare "front_door" where
  blanks := trim_eq_self_iff.mp (by decide)
  slashes := trim_eq_self_iff.mp (by decide)
  unprefixed := startsWith_of_nodeChars (List.all_eq_true.mp (by decide))

/-- A text that passes all the steps unchanged has nothing for any of them. -/
theorem bare_of_stripped_inner {text : String} (h : stripped (inner text) = text)
    (hblank : isNullOrWhiteSpace (some text) = false) : Bare text := by
  -- Every step only drops characters, so no step has dropped any.
  have hsteps : (stripped (inner text)).toList.Sublist (inner text).toList := stripped_sublist _
  rw [h] at hsteps
  have hblanks : trim isWhiteSpace text = text :=
    String.toList_inj.mp
      ((trim_sublist _ _).antisymm (hsteps.trans (inner_sublist text)))
  have hinner : inner text = text := by
    refine String.toList_inj.mp (List.Sublist.antisymm ?_ hsteps)
    exact (inner_sublist text).trans (trim_sublist _ _)
  have hslashes : trim (· = '/') text = text := by
    rw [inner, hblanks] at hinner
    exact hinner
  refine ⟨trim_eq_self_iff.mp hblanks, trim_eq_self_iff.mp hslashes, ?_⟩
  by_contra hstart
  rw [hinner, stripped, if_pos (Bool.eq_true_of_not_eq_false hstart)] at h
  have hlength : (rest text).toList.length = text.toList.length := by rw [h]
  rw [rest, String.toList_ofList, List.length_drop] at hlength
  have hpos : 0 < text.toList.length := by
    have hne := ne_empty_of_not_isNullOrWhiteSpace hblank
    exact List.length_pos_iff.mpr (mt String.toList_eq_nil_iff.mp hne)
  have hsix : "zwave/".toList.length = 6 := rfl
  omega

/-- The ids that normalization leaves as they are. -/
theorem normalizeNodeId_eq_self_iff {text : String}
    (hblank : isNullOrWhiteSpace (some text) = false) :
    normalizeNodeId text = text ↔ Bare text := by
  refine ⟨fun h => ?_, fun hbare => normalizeNodeId_of_bare hbare hblank⟩
  rw [normalizeNodeId_eq] at h
  split at h
  · rw [← h]
    exact bare_frontDoor
  · exact bare_of_stripped_inner h hblank

/-- The condition, for both of its branches. -/
theorem stable_iff {nodeId : String} :
    Stable nodeId ↔ isNullOrWhiteSpace (some (stripped (inner nodeId))) = true
      ∨ Bare (stripped (inner nodeId)) := by
  unfold Stable stripped
  cases hstart : startsWithOrdinalIgnoreCase (inner nodeId) "zwave/" with
  | true => rfl
  | false =>
    simp only [if_neg Bool.false_ne_true]
    have hbare : Bare (inner nodeId) ↔ Trimmed isWhiteSpace (inner nodeId) :=
      ⟨Bare.blanks, fun h => ⟨h, trimmed_trim _ _, hstart⟩⟩
    rw [hbare]

/-- The ids for which a second normalization changes nothing. -/
theorem normalizeNodeId_twice_iff {nodeId : String} :
    normalizeNodeId (normalizeNodeId nodeId) = normalizeNodeId nodeId ↔ Stable nodeId := by
  rw [stable_iff]
  cases hblank : isNullOrWhiteSpace (some (stripped (inner nodeId))) with
  | true =>
    have hnode : normalizeNodeId nodeId = "front_door" := by
      rw [normalizeNodeId_eq, if_pos hblank]
    rw [hnode]
    exact iff_of_true normalizeNodeId_frontDoor (Or.inl rfl)
  | false =>
    have hnode : normalizeNodeId nodeId = stripped (inner nodeId) := by
      rw [normalizeNodeId_eq, hblank, if_neg Bool.false_ne_true]
    rw [hnode, normalizeNodeId_eq_self_iff hblank]
    exact ⟨Or.inr, fun h => h.resolve_left Bool.false_ne_true⟩

/-- The normalization drops characters, unless nothing is left. -/
theorem normalizeNodeId_sublist {nodeId : String}
    (hblank : isNullOrWhiteSpace (some (stripped (inner nodeId))) = false) :
    (normalizeNodeId nodeId).toList.Sublist nodeId.toList := by
  rw [normalizeNodeId_eq, hblank, if_neg Bool.false_ne_true]
  exact (stripped_sublist _).trans ((inner_sublist nodeId).trans (trim_sublist _ _))

/-- Something is left of a text without slashes. -/
theorem not_blank_of_no_slash {text : String} (hblank : isNullOrWhiteSpace (some text) = false)
    (h : '/' ∉ text.toList.map Host.toUpperInvariant) :
    isNullOrWhiteSpace (some (stripped (inner text))) = false := by
  have hslash : Host.toUpperInvariant '/' = '/' := Host.toUpperInvariant_ascii '/' (by decide)
  have hsub : (trim isWhiteSpace text).toList.Sublist text.toList := trim_sublist _ _
  -- Only the blanks around the text go.
  have hinner : inner text = trim isWhiteSpace text := by
    refine trim_eq_self fun c hc => decide_eq_false ?_
    rintro rfl
    exact h (List.mem_map.mpr ⟨'/', hsub.subset hc, hslash⟩)
  have hstripped : stripped (inner text) = trim isWhiteSpace text := by
    rw [hinner, stripped, startsWith_of_no_slash fun hmem => h ((hsub.map _).subset hmem),
      if_neg Bool.false_ne_true]
  rw [hstripped]
  by_contra hall
  rw [isNullOrWhiteSpace_some, Bool.not_eq_false] at hall
  have hempty := trim_of_all hall
  rw [trim_of_trimmed (trimmed_trim isWhiteSpace text), trim_eq_empty_iff] at hempty
  exact Bool.false_ne_true (hblank.symm.trans hempty)

/-! ### What a provider keeps -/

/-- The node and the endpoint that the constructor has set. -/
structure MadeFor (nodeId : String) (endpoint : Int) (p : ZWaveJsMqttLockProvider) : Prop where
  node : p.nodeId = normalizeNodeId nodeId
  endpoint : p.endpoint = endpoint

variable {nodeId : String} {endpoint : Int} {p : ZWaveJsMqttLockProvider}

/-- A new provider is made for its node. -/
theorem madeFor_new (nodeId : String) (endpoint : Int) (mqttClient : Option MqttClientService) :
    MadeFor nodeId endpoint (.new nodeId endpoint mqttClient) where
  node := by rw [ZWaveJsMqttLockProvider.new]
  endpoint := by rw [ZWaveJsMqttLockProvider.new]

/-- A publish replaces the client only. -/
theorem preserves_publish (topic : String) (payload : MqttPayload) :
    Preserves (MadeFor nodeId endpoint) (ZWaveJsMqttLockProvider.publish topic payload) := by
  refine Preserves.statement fun p p' hp hp' => ?_
  cases hpublish : publishOrFallBack p.mqttClient topic payload with
  | error e => rw [hpublish] at hp'; cases hp'
  | ok mqttClient =>
    rw [hpublish] at hp'
    cases hp'
    exact ⟨hp.node, hp.endpoint⟩

/-- A command of the lock leaves the node, the endpoint and the prefix. -/
theorem preserves_execute (command : LockCommand) :
    Preserves (MadeFor nodeId endpoint) (ZWaveJsMqttLockProvider.execute command) := by
  have hpublish : ∀ (topic : ZWaveJsMqttLockProvider → String) (payload : MqttPayload)
      (f : ZWaveJsMqttLockProvider → ZWaveJsMqttLockProvider),
      (∀ p, MadeFor nodeId endpoint p → MadeFor nodeId endpoint (f p)) →
      Preserves (MadeFor nodeId endpoint) (do
        ZWaveJsMqttLockProvider.publish (← query topic) payload
        modify f
        return true : Operation Bool) := by
    intro topic payload f hf
    refine (Preserves.query _ topic).bind fun text => ?_
    refine (preserves_publish text payload).bind fun _ => ?_
    exact (Preserves.modify hf).bind fun _ => Preserves.pure _ _
  cases command with
  | lock => exact hpublish _ _ _ fun p hp => ⟨hp.node, hp.endpoint⟩
  | unlock => exact hpublish _ _ _ fun p hp => ⟨hp.node, hp.endpoint⟩
  | setSlotCode slotNumber pinCode label =>
    exact hpublish _ _ _ fun p hp => ⟨hp.node, hp.endpoint⟩
  | clearSlotCode slotNumber => exact hpublish _ _ _ fun p hp => ⟨hp.node, hp.endpoint⟩

/-- A message changes the state only. -/
theorem MadeFor.inbound (hp : MadeFor nodeId endpoint p) (topic payload : String) :
    MadeFor nodeId endpoint (tryUpdateFromMessage topic payload p).2 := by
  unfold tryUpdateFromMessage
  split
  · split
    · exact ⟨hp.node, hp.endpoint⟩
    · exact hp
  · exact hp

/-- Whatever happens to a provider, it stays one that is made for its node. The run lemma. -/
theorem Reached.madeFor (h : Reached nodeId endpoint p) : MadeFor nodeId endpoint p := by
  induction h with
  | new mqttClient => exact madeFor_new _ _ mqttClient
  | client mqttClient _ ih => exact ⟨ih.node, ih.endpoint⟩
  | command command _ ih => exact preserves_execute command _ ih
  | inbound topic payload _ ih => exact ih.inbound topic payload

/-! ### The node of the reports -/

/-- When a message updates the provider: its topic has the expected prefix, and the rest of the
topic reports a state. -/
theorem tryUpdateFromMessage_iff {topic payload : String} :
    (tryUpdateFromMessage topic payload p).1 = true
      ↔ startsWithOrdinalIgnoreCase topic p.expectedPrefix = true
        ∧ reportsState (String.ofList (topic.toList.drop p.expectedPrefix.toList.length)) = true
        ∧ (stateOf payload).isSome = true := by
  rw [tryUpdateFromMessage]
  generalize startsWithOrdinalIgnoreCase topic p.expectedPrefix = start
  generalize reportsState _ = value
  cases start with
  | false => simp
  | true =>
    cases value with
    | false => simp
    | true => cases stateOf payload <;> simp

/-- A provider listens under the node that it keeps. -/
theorem listensUnder_nodeId (p : ZWaveJsMqttLockProvider) : ListensUnder p p.nodeId where
  only topic payload h := by
    have hsplit : p.expectedPrefix
        = "zwave/" ++ p.nodeId ++ "/door_lock/" ++ ("endpoint_" ++ toString p.endpoint ++ "/") := by
      have hlock : "/door_lock/endpoint_" = "/door_lock/" ++ "endpoint_" := rfl
      simp only [expectedPrefix, hlock, String.append_assoc]
    have hstart := startsWithOrdinalIgnoreCase_iff.mp (tryUpdateFromMessage_iff.mp h).1
    rw [hsplit, String.toList_append, List.map_append] at hstart
    exact startsWithOrdinalIgnoreCase_iff.mpr ((List.prefix_append _ _).trans hstart)
  accepts value hvalue payload hstate := by
    show (tryUpdateFromMessage (p.expectedPrefix ++ value) payload p).1 = true
    rw [tryUpdateFromMessage_iff, startsWithOrdinalIgnoreCase_iff, String.toList_append,
      List.map_append, List.drop_left, String.ofList_toList]
    refine ⟨List.prefix_append _ _, ?_, hstate⟩
    have hself : ∀ text, startsWithOrdinalIgnoreCase text text = true := by
      intro text
      exact startsWithOrdinalIgnoreCase_iff.mpr List.prefix_rfl
    simp only [List.mem_cons, List.not_mem_nil, or_false] at hvalue
    rcases hvalue with rfl | rfl | rfl
    · simp [reportsState, hself]
    · simp [reportsState, hself]
    · simp [reportsState, hself]

omit [Host] in
/-- What two lists start with that part after `b` is a start of `b`. -/
theorem prefix_of_prefix_append_cons {α : Type} {a b x y : List α} {c d : α} (hcd : c ≠ d)
    (hx : a <+: b ++ c :: x) (hy : a <+: b ++ d :: y) : a <+: b := by
  rcases Nat.lt_or_ge b.length a.length with hlt | hge
  · -- Otherwise both go on with the same element.
    have hbc : b ++ [c] <+: b ++ d :: y := by
      refine List.IsPrefix.trans ?_ hy
      refine List.prefix_of_prefix_length_le ⟨x, by simp⟩ hx ?_
      rw [List.length_append, List.length_singleton]
      omega
    have hsame := (List.cons_prefix_cons.mp ((List.prefix_append_right_inj b).mp hbc)).1
    exact absurd hsame hcd
  · exact List.prefix_of_prefix_length_le hx (List.prefix_append _ _) hge

/-- The payload `true` is a state. -/
theorem stateOf_true : (stateOf "true").isSome = true := by
  have htrue : ZWaveJsMqttLockProvider.boolTryParse (trim (· = '"') (trim isWhiteSpace "true"))
      = some true := by decide
  delta stateOf
  simp only [htrue, Option.isSome_some]

/-- The node under which a provider listens starts with the node that it keeps, up to case. -/
theorem ListensUnder.start {node : String} (h : ListensUnder p node) :
    p.nodeId.toList.map Host.toUpperInvariant <+: node.toList.map Host.toUpperInvariant := by
  let tail := "/door_lock/endpoint_" ++ toString p.endpoint ++ "/"
  have hstart : ∀ value ∈ ["currentState", "currentMode", "value"],
      (p.nodeId ++ tail).toList.map Host.toUpperInvariant
        <+: (node ++ tail).toList.map Host.toUpperInvariant
          ++ value.toList.map Host.toUpperInvariant := by
    intro value hvalue
    have htopic := (tryUpdateFromMessage_iff.mp (h.accepts value hvalue "true" stateOf_true)).1
    have hexpected : p.expectedPrefix = "zwave/" ++ (p.nodeId ++ tail) := by
      simp only [expectedPrefix, tail, String.append_assoc]
    have hassoc : "zwave/" ++ node ++ "/door_lock/endpoint_" ++ toString p.endpoint ++ "/" ++ value
        = "zwave/" ++ (node ++ tail ++ value) := by
      simp only [tail, String.append_assoc]
    rw [hexpected, hassoc, startsWithOrdinalIgnoreCase_iff] at htopic
    simp only [String.toList_append, List.map_append, List.append_assoc,
      List.prefix_append_right_inj] at htopic ⊢
    exact htopic
  -- `currentState` and `value` begin with different letters.
  have hcv : Host.toUpperInvariant 'c' ≠ Host.toUpperInvariant 'v' := by
    rw [Host.toUpperInvariant_ascii 'c' (by decide), Host.toUpperInvariant_ascii 'v' (by decide)]
    decide
  have hboth := prefix_of_prefix_append_cons hcv (hstart "currentState" (by decide))
    (hstart "value" (by decide))
  have hlength := hboth.length_le
  simp only [String.toList_append, List.map_append, List.length_append, List.length_map] at hlength
  simp only [String.toList_append, List.map_append] at hboth
  refine List.prefix_of_prefix_length_le ((List.prefix_append _ _).trans hboth)
    (List.prefix_append _ _) ?_
  rw [List.length_map, List.length_map]
  omega

/-! ### The node of the commands -/

/-- The part of the topic that is about the lock. -/
def lockItem (p : ZWaveJsMqttLockProvider) : String :=
  "door_lock/endpoint_" ++ toString p.endpoint ++ "/targetState/set"

/-- The part of the topic that is about the codes. -/
def codeItem (p : ZWaveJsMqttLockProvider) : String :=
  "user_code/endpoint_" ++ toString p.endpoint ++ "/set"

/-- The topic of the bolt, in its parts. -/
theorem getLockTopic_eq (p : ZWaveJsMqttLockProvider) :
    p.getLockTopic = "zwave/" ++ normalizeNodeId p.nodeId ++ "/" ++ lockItem p := by
  have hsplit : "/door_lock/endpoint_" = "/" ++ "door_lock/endpoint_" := by decide
  unfold ZWaveJsMqttLockProvider.getLockTopic lockItem
  rw [hsplit]
  simp only [String.append_assoc, -String.reduceAppend]

/-- The topic of a code, in its parts. -/
theorem getSetSlotCodeTopic_eq (p : ZWaveJsMqttLockProvider) (slotNumber : Int) :
    p.getSetSlotCodeTopic slotNumber
      = "zwave/" ++ normalizeNodeId p.nodeId ++ "/" ++ codeItem p := by
  have hsplit : "/user_code/endpoint_" = "/" ++ "user_code/endpoint_" := by decide
  unfold ZWaveJsMqttLockProvider.getSetSlotCodeTopic codeItem
  rw [hsplit]
  simp only [String.append_assoc, -String.reduceAppend]

/-- Every command has a message, on one of two topics. -/
theorem exists_message (p : ZWaveJsMqttLockProvider) (command : LockCommand) :
    ∃ m, message (.zWaveJs p) command = some m
      ∧ ∃ item, m.topic = "zwave/" ++ normalizeNodeId p.nodeId ++ "/" ++ item := by
  cases command with
  | lock => exact ⟨_, rfl, _, getLockTopic_eq p⟩
  | unlock => exact ⟨_, rfl, _, getLockTopic_eq p⟩
  | setSlotCode slotNumber pinCode label =>
    exact ⟨_, rfl, _, getSetSlotCodeTopic_eq p slotNumber⟩
  | clearSlotCode slotNumber => exact ⟨_, rfl, _, getSetSlotCodeTopic_eq p slotNumber⟩

/-- A connected client gets the message of a command. -/
theorem published_of_message {command : LockCommand} {m : MqttMessage}
    (hm : message (.zWaveJs p) command = some m) {client : MqttClientService}
    (hclient : p.mqttClient = some client) (hconnected : client.isConnected = true) :
    ((MqttLockProvider.zWaveJs p).execute command).2.published = client.published ++ [m] := by
  have hp : (MqttLockProvider.zWaveJs p).mqttClient = some client := hclient
  rw [execute_of_message hp hm, MqttLockProvider.published, mqttClient_withMemory]
  show client.published ++ (if client.isConnected then [m] else []) = _
  rw [if_pos hconnected]

/-- All commands of a provider go to its node, normalized once more. -/
theorem publishesUnder_normalizeNodeId (p : ZWaveJsMqttLockProvider) :
    PublishesUnder p (normalizeNodeId p.nodeId) := by
  intro client command hclient hconnected
  obtain ⟨m, hm, item, htopic⟩ := exists_message p command
  refine ⟨m, published_of_message hm hclient hconnected, ?_⟩
  rw [htopic, @String.toList_append _ item]
  exact List.prefix_append _ _

/-- The node under which a provider publishes is a start of the node of its topics. -/
theorem PublishesUnder.start {node : String} (h : PublishesUnder p node)
    {client : MqttClientService} (hclient : p.mqttClient = some client)
    (hconnected : client.isConnected = true) :
    node.toList ++ ['/'] <+: (normalizeNodeId p.nodeId).toList ++ ['/'] := by
  have htopic : ∀ command m, message (.zWaveJs p) command = some m →
      ("zwave/" ++ node ++ "/").toList <+: m.topic.toList := by
    intro command m hm
    obtain ⟨m', hpublished, hstart⟩ := h client command hclient hconnected
    rw [published_of_message hm hclient hconnected] at hpublished
    cases List.append_cancel_left hpublished
    exact hstart
  -- The two topics differ after the node and its slash.
  have hitem : ∀ {item : String} {c : Char} {cs : List Char}, item.toList = c :: cs →
      ("zwave/" ++ node ++ "/").toList
        <+: ("zwave/" ++ normalizeNodeId p.nodeId ++ "/" ++ item).toList →
      node.toList ++ ['/'] <+: ((normalizeNodeId p.nodeId).toList ++ ['/']) ++ c :: cs := by
    intro item c cs hc hstart
    have hslash : "/".toList = ['/'] := rfl
    simp only [String.toList_append, List.append_assoc, List.prefix_append_right_inj, hc,
      hslash] at hstart ⊢
    exact hstart
  have hlock := htopic .lock _ rfl
  have hcode := htopic (.setSlotCode 0 "" none) _ rfl
  rw [getLockTopic_eq] at hlock
  rw [getSetSlotCodeTopic_eq] at hcode
  have hd : (lockItem p).toList = 'd' :: ("oor_lock/endpoint_" ++ toString p.endpoint
      ++ "/targetState/set").toList := by
    have hsplit : "door_lock/endpoint_" = "d" ++ "oor_lock/endpoint_" := by decide
    unfold lockItem
    rw [hsplit, String.append_assoc, String.append_assoc, String.toList_append, String.append_assoc]
    rfl
  have hu : (codeItem p).toList = 'u' :: ("ser_code/endpoint_" ++ toString p.endpoint
      ++ "/set").toList := by
    have hsplit : "user_code/endpoint_" = "u" ++ "ser_code/endpoint_" := by decide
    unfold codeItem
    rw [hsplit, String.append_assoc, String.append_assoc, String.toList_append, String.append_assoc]
    rfl
  exact prefix_of_prefix_append_cons (by decide) (hitem hd hlock) (hitem hu hcode)

/-! ### One node -/

/-- The two nodes leave no room between them: `node` starts with the first, up to case, and is a
start of the second. -/
theorem twice_of_starts {node : String}
    (hlisten : (normalizeNodeId nodeId).toList.map Host.toUpperInvariant
      <+: node.toList.map Host.toUpperInvariant)
    (hpublish : node.toList ++ ['/']
      <+: (normalizeNodeId (normalizeNodeId nodeId)).toList ++ ['/']) :
    normalizeNodeId (normalizeNodeId nodeId) = normalizeNodeId nodeId := by
  have hnode : node.toList <+: (normalizeNodeId (normalizeNodeId nodeId)).toList := by
    have hlength := hpublish.length_le
    rw [List.length_append, List.length_append] at hlength
    refine List.prefix_of_prefix_length_le ((List.prefix_append _ _).trans hpublish)
      (List.prefix_append _ _) ?_
    omega
  cases hblank : isNullOrWhiteSpace (some (stripped (inner (normalizeNodeId nodeId)))) with
  | false =>
    -- The second is not longer than the first, so nothing was dropped.
    have hle := hlisten.length_le
    rw [List.length_map, List.length_map] at hle
    have hsub := normalizeNodeId_sublist hblank
    exact String.toList_inj.mp (hsub.eq_of_length_le (hle.trans hnode.length_le))
  | true =>
    -- A node of which nothing is left has a slash, and `front_door` has none.
    have hdefault : normalizeNodeId (normalizeNodeId nodeId) = "front_door" := by
      rw [normalizeNodeId_eq, if_pos hblank]
    rw [hdefault] at hnode
    have hnoslash : '/' ∉ "front_door".toList.map Host.toUpperInvariant :=
      no_slash_of_nodeChars (List.all_eq_true.mp (by decide))
    have hleft := not_blank_of_no_slash (not_blank_normalizeNodeId nodeId) fun hslash =>
      hnoslash ((hnode.map _).subset (hlisten.subset hslash))
    exact absurd (hblank.symm.trans hleft) (by decide)

/-- The lock listens to the node that it commands exactly when a second normalization changes
nothing. -/
theorem sameNode_iff_twice :
    SameNode nodeId endpoint
      ↔ normalizeNodeId (normalizeNodeId nodeId) = normalizeNodeId nodeId := by
  constructor
  · rintro ⟨node, h⟩
    let client : MqttClientService := { isConnected := true }
    obtain ⟨hlistens, hpublishes⟩ := h _ (.new (some client))
    have hkept := (madeFor_new nodeId endpoint (some client)).node
    have hclient : (ZWaveJsMqttLockProvider.new nodeId endpoint (some client)).mqttClient
        = some client := by rw [ZWaveJsMqttLockProvider.new]
    have hlisten := hlistens.start
    have hpublish := hpublishes.start hclient rfl
    rw [hkept] at hlisten hpublish
    exact twice_of_starts hlisten hpublish
  · intro htwice
    refine ⟨normalizeNodeId nodeId, fun p hp => ?_⟩
    have hkept := hp.madeFor.node
    have hlistens := listensUnder_nodeId p
    have hpublishes := publishesUnder_normalizeNodeId p
    rw [hkept] at hlistens hpublishes
    rw [htwice] at hpublishes
    exact ⟨hlistens, hpublishes⟩

/-- **A provider's commands and reports name one node** exactly when its first normalization
leaves nothing for a second one. -/
theorem sameNode_iff_stable (nodeId : String) (endpoint : Int) :
    (SameNode nodeId endpoint ↔ Stable nodeId)
      ∧ (normalizeNodeId (normalizeNodeId nodeId) = normalizeNodeId nodeId ↔ Stable nodeId) :=
  ⟨sameNode_iff_twice.trans normalizeNodeId_twice_iff, normalizeNodeId_twice_iff⟩

end

/-! ### A run on a fixed input -/

section
/-- The host of the samples. -/
local instance : Host := Host.sample

/-- A node that is given with two prefixes is listened to with one of them, and commanded without
any. -/
theorem two_prefixes_split_node :
    normalizeNodeId "zwave/zwave/front" = "zwave/front"
      ∧ normalizeNodeId (normalizeNodeId "zwave/zwave/front") = "front"
      ∧ ¬ SameNode "zwave/zwave/front" 0 := by
  have honce : normalizeNodeId "zwave/zwave/front" = "zwave/front" := by decide
  have htwice : normalizeNodeId (normalizeNodeId "zwave/zwave/front") = "front" :=
    (congrArg normalizeNodeId honce).trans (by decide)
  refine ⟨honce, htwice, fun h => ?_⟩
  have hsame := htwice.symm.trans ((sameNode_iff_twice.mp h).trans honce)
  exact absurd hsame (by decide)

end

end CodeMaster.Proofs.Engine.ListenedNode
