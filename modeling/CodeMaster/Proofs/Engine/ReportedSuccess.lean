import CodeMaster.Lib.Replay
import CodeMaster.Lib.Transition
import CodeMaster.Engine.MqttLockProviders

/-!
# `CodeMaster.Proofs.Engine.ReportedSuccess`: does a reported success mean a sent command?

`replay` is what a listening lock makes of the published messages. It is compared with what
the provider answers from its own memory, over every sequence of calls and every pattern of
connections.

A call that returns true has published its command exactly when the client was connected
(`step_outcome`): the providers drop the exception of a client that is not. So the log has gaps,
and `reportedSuccess` says when they do not show.

The provider's memory and the memory of the lock are two replays: of the calls that have reported
success, and of the messages that were published. They differ in the calls that were made without a
connection. The exact condition is on the last call that has written a cell: the bolt, or the code
of one slot.

The topics and payloads are those of the code. They must tell the commands apart (`Distinguishes`),
since a generic lock can be configured with one payload for both commands.
-/

set_option autoImplicit false

namespace CodeMaster.Proofs.Engine.ReportedSuccess

open CodeMaster.Core Relational Data CodeMaster.Engine Exec Replay MqttLockProvider

/-! ### What a lock makes of the commands -/

/-- The state that the commands have left, and the codes. -/
structure LockMemory where
  lockState : LockState := .unknown
  slots : Table HardwareSlotDto.slotNumber := .empty
  deriving DecidableEq

/-- What a lock that has received the command has in its memory. -/
def LockMemory.apply (m : LockMemory) : LockCommand → LockMemory
  | .lock => { m with lockState := .locked }
  | .unlock => { m with lockState := .unlocked }
  | .setSlotCode slotNumber pinCode label =>
    { m with slots := m.slots.upsert ⟨slotNumber, true, some pinCode, label⟩ }
  | .clearSlotCode slotNumber =>
    { m with slots := m.slots.delete fun s => s.slotNumber = slotNumber }

/-- The command is about the bolt. -/
def movesBolt : LockCommand → Bool
  | .lock | .unlock => true
  | .setSlotCode .. | .clearSlotCode .. => false

/-- The command is about the code in the slot. -/
def writesSlot (slotNumber : Int) : LockCommand → Bool
  | .lock | .unlock => false
  | .setSlotCode n _ _ | .clearSlotCode n => n = slotNumber

/-- The state of the bolt is a cell of the memory: the commands that move the bolt write it, and no
other command does. -/
theorem lockState_cell : Cell LockMemory.apply LockMemory.lockState movesBolt where
  frame m c hc := by
    cases c with
    | lock => cases hc
    | unlock => cases hc
    | setSlotCode slotNumber pinCode label => rfl
    | clearSlotCode slotNumber => rfl
  write m m' c hc := by
    cases c with
    | lock => rfl
    | unlock => rfl
    | setSlotCode slotNumber pinCode label => cases hc
    | clearSlotCode slotNumber => cases hc

/-- The code of one slot is a cell of the memory: the commands for this slot write it, and no other
command does. -/
theorem slot_cell (slotNumber : Int) :
    Cell LockMemory.apply (fun m => m.slots.find? slotNumber) (writesSlot slotNumber) where
  frame m c hc := by
    cases c with
    | lock => rfl
    | unlock => rfl
    | setSlotCode n pinCode label =>
      show (m.slots.upsert _).find? slotNumber = _
      rw [Table.find?_upsert, if_neg (of_decide_eq_false hc)]
    | clearSlotCode n =>
      show (m.slots.delete _).find? slotNumber = _
      rw [Table.find?_delete_key, if_neg fun h => of_decide_eq_false hc h.symm]
  write m m' c hc := by
    cases c with
    | lock => cases hc
    | unlock => cases hc
    | setSlotCode n pinCode label =>
      show (m.slots.upsert _).find? slotNumber = (m'.slots.upsert _).find? slotNumber
      rw [Table.find?_upsert, Table.find?_upsert, if_pos (of_decide_eq_true hc),
        if_pos (of_decide_eq_true hc)]
    | clearSlotCode n =>
      show (m.slots.delete _).find? slotNumber = (m'.slots.delete _).find? slotNumber
      rw [Table.find?_delete_key, Table.find?_delete_key, if_pos (of_decide_eq_true hc).symm,
        if_pos (of_decide_eq_true hc).symm]

/-! ### What the provider remembers, and what it publishes -/

/-- What the provider answers from. -/
def memory : MqttLockProvider → LockMemory
  | .zWaveJs p => ⟨p.currentState, p.slots⟩
  | .generic p => ⟨p.currentState, .empty⟩

/-- The provider reports the state of its memory. -/
theorem getStateAsync_eq (p : MqttLockProvider) : p.getStateAsync = (memory p).lockState := by
  cases p <;> rfl

section
variable [Host]

/-- The message of a command that the provider carries out. A relay has no codes, and on a
blank topic `PublishAsync` throws. -/
def message : MqttLockProvider → LockCommand → Option MqttMessage
  | .zWaveJs p, .lock => some { topic := p.getLockTopic, payload := .text "true" }
  | .zWaveJs p, .unlock => some { topic := p.getUnlockTopic, payload := .text "false" }
  | .zWaveJs p, .setSlotCode slotNumber pinCode label =>
    some {
      topic := p.getSetSlotCodeTopic slotNumber
      payload := .userCode ⟨slotNumber, pinCode, pinCode, some label⟩ }
  | .zWaveJs p, .clearSlotCode slotNumber =>
    some {
      topic := p.getClearSlotCodeTopic slotNumber
      payload := .userCode ⟨slotNumber, "", "", none⟩ }
  | .generic p, .lock =>
    if isNullOrWhiteSpace (some p.commandTopic) then none
    else some { topic := p.commandTopic, payload := .text p.lockPayload }
  | .generic p, .unlock =>
    if isNullOrWhiteSpace (some p.commandTopic) then none
    else some { topic := p.commandTopic, payload := .text p.unlockPayload }
  | .generic _, .setSlotCode .. | .generic _, .clearSlotCode .. => none

/-- The command that a lock with the provider's configuration reads from a message. -/
def decode : MqttLockProvider → MqttMessage → Option LockCommand
  | .zWaveJs p, m =>
    match m.payload with
    | .text value =>
      if m.topic ≠ p.getLockTopic then none
      else if value = "true" then some .lock
      else if value = "false" then some .unlock
      else none
    | .userCode value =>
      if m.topic ≠ p.getSetSlotCodeTopic value.slot then none
      else some (value.label.elim (.clearSlotCode value.slot)
        (.setSlotCode value.slot value.code))
  | .generic p, m =>
    if m.topic ≠ p.commandTopic then none
    else if m.payload = .text p.lockPayload then some .lock
    else if m.payload = .text p.unlockPayload then some .unlock
    else none

/-- The published messages, replayed from the start. -/
def replay (p : MqttLockProvider) : LockMemory :=
  (p.published.filterMap (decode p)).foldl LockMemory.apply {}

/-- The two commands of a relay can be told apart. -/
def Distinguishes : MqttLockProvider → Prop
  | .zWaveJs _ => True
  | .generic p => p.lockPayload ≠ p.unlockPayload

/-- The message of a command can be read back, when the topics of the provider distinguish its
commands. -/
theorem decode_message {p : MqttLockProvider} (hp : Distinguishes p) {c : LockCommand}
    {m : MqttMessage} (hm : message p c = some m) : decode p m = some c := by
  cases p with
  | zWaveJs p =>
    cases c <;> cases hm
    · simp [decode]
    · simp [decode, ZWaveJsMqttLockProvider.getUnlockTopic, ZWaveJsMqttLockProvider.getLockTopic]
    · simp [decode, ZWaveJsMqttLockProvider.getSetSlotCodeTopic]
    · simp [decode, ZWaveJsMqttLockProvider.getSetSlotCodeTopic,
        ZWaveJsMqttLockProvider.getClearSlotCodeTopic]
  | generic p =>
    have hne : p.unlockPayload ≠ p.lockPayload := fun h => hp h.symm
    cases c with
    | lock =>
      obtain ⟨-, hm⟩ := Option.ite_none_left_eq_some.mp hm
      cases hm
      simp [decode]
    | unlock =>
      obtain ⟨-, hm⟩ := Option.ite_none_left_eq_some.mp hm
      cases hm
      simp [decode, hne]
    | setSlotCode slotNumber pinCode label => cases hm
    | clearSlotCode slotNumber => cases hm

/-! ### One call -/

/-- The topics under `zwave/` are not blank. -/
theorem topic_not_blank {p : ZWaveJsMqttLockProvider} {c : LockCommand} {m : MqttMessage}
    (hm : message (.zWaveJs p) c = some m) : isNullOrWhiteSpace (some m.topic) = false := by
  have hzwave : ∀ node item endpoint last : String,
      isNullOrWhiteSpace (some ("zwave/" ++ node ++ item ++ endpoint ++ last)) = false := by
    intro node item endpoint last
    have hhead : isNullOrWhiteSpace (some "zwave/") = false := by decide
    exact isNullOrWhiteSpace_append (isNullOrWhiteSpace_append (isNullOrWhiteSpace_append
      (isNullOrWhiteSpace_append hhead node) item) endpoint) last
  cases c <;> cases hm <;> exact hzwave _ _ _ _

end

/-- The client after a call of `PublishAsync` whose exception, if any, is dropped. -/
def sent (client : MqttClientService) (m : MqttMessage) : MqttClientService :=
  { client with published := client.published ++ if client.isConnected then [m] else [] }

/-- A message under a topic is published when the client is connected, and otherwise dropped by the
fallback. -/
theorem publishOrFallBack_of_not_blank (client : MqttClientService) {topic : String}
    (htopic : isNullOrWhiteSpace (some topic) = false) (payload : MqttPayload) :
    publishOrFallBack (some client) topic payload
      = .ok (some (sent client { topic, payload })) := by
  rcases client with ⟨_ | _, published⟩
  · simp [publishOrFallBack, MqttClientService.publishAsync, htopic, sent]
  · simp [publishOrFallBack, MqttClientService.publishAsync, htopic, sent]

/-- A message without a topic is refused by the client. -/
theorem publishOrFallBack_of_blank (client : MqttClientService) {topic : String}
    (htopic : isNullOrWhiteSpace (some topic) = true) (payload : MqttPayload) :
    publishOrFallBack (some client) topic payload = .error (.argument "topic") := by
  simp [publishOrFallBack, MqttClientService.publishAsync, htopic]

/-- The provider with another client and another memory. -/
def withMemory : MqttLockProvider → MqttClientService → LockMemory → MqttLockProvider
  | .zWaveJs p, client, m => .zWaveJs { p with
      mqttClient := some client, currentState := m.lockState, slots := m.slots }
  | .generic p, client, m => .generic { p with
      mqttClient := some client, currentState := m.lockState }

/-- The client of a provider, after both are written. -/
theorem mqttClient_withMemory (p : MqttLockProvider) (client : MqttClientService)
    (m : LockMemory) : (withMemory p client m).mqttClient = some client := by
  cases p <;> rfl

/-- A provider with its own memory. -/
theorem memory_withMemory_self (p : MqttLockProvider) (client : MqttClientService) :
    memory (withMemory p client (memory p)) = memory p := by
  cases p <;> rfl

/-- The last client and the last memory count. -/
theorem withMemory_withMemory (p : MqttLockProvider) (client client' : MqttClientService)
    (m m' : LockMemory) :
    withMemory (withMemory p client m) client' m' = withMemory p client' m' := by
  cases p <;> rfl

/-- The connection of the client is a field of the client. -/
theorem setConnected_eq {p : MqttLockProvider} {client : MqttClientService}
    (hclient : p.mqttClient = some client) (connected : Bool) :
    p.setConnected connected
      = withMemory p { client with isConnected := connected } (memory p) := by
  cases p with
  | zWaveJs p =>
    have hp : p.mqttClient = some client := hclient
    simp [setConnected, withMemory, memory, hp]
  | generic p =>
    have hp : p.mqttClient = some client := hclient
    simp [setConnected, withMemory, memory, hp]

section
variable [Host]

/-- The messages of a provider do not depend on its client or memory. -/
theorem message_withMemory (p : MqttLockProvider) (client : MqttClientService) (m : LockMemory) :
    message (withMemory p client m) = message p := by
  funext c
  cases p <;> cases c <;> rfl

/-- What a message is read as does not depend on the client or the memory. -/
theorem decode_withMemory (p : MqttLockProvider) (client : MqttClientService) (m : LockMemory) :
    decode (withMemory p client m) = decode p := by
  cases p <;> rfl

/-- A relay carries out no command about codes. -/
theorem memory_withMemory_apply {p : MqttLockProvider} {c : LockCommand} {m : MqttMessage}
    (hm : message p c = some m) (client : MqttClientService) :
    memory (withMemory p client ((memory p).apply c)) = (memory p).apply c := by
  cases p with
  | zWaveJs p => rfl
  | generic p =>
    cases c with
    | lock => rfl
    | unlock => rfl
    | setSlotCode slotNumber pinCode label => cases hm
    | clearSlotCode slotNumber => cases hm

/-- A command that the provider carries out returns true, whether the client is connected or
not. -/
theorem execute_of_message {p : MqttLockProvider} {client : MqttClientService}
    (hclient : p.mqttClient = some client) {c : LockCommand} {m : MqttMessage}
    (hm : message p c = some m) :
    p.execute c = (.ok true, withMemory p (sent client m) ((memory p).apply c)) := by
  cases p with
  | zWaveJs p =>
    have hp : p.mqttClient = some client := hclient
    -- What publishes and what is remembered are the same for every command of the provider.
    have hpublish : ∀ topic payload, message (.zWaveJs p) c = some { topic, payload } →
        (ZWaveJsMqttLockProvider.publish topic payload).exec p
          = (.ok (), { p with mqttClient := some (sent client { topic, payload }) }) := by
      intro topic payload hm
      refine exec_statement_of_ok ?_
      rw [hp, publishOrFallBack_of_not_blank client (topic_not_blank hm)]
      rfl
    cases c with
    | lock =>
      cases hm
      simp [execute, ZWaveJsMqttLockProvider.execute, ZWaveJsMqttLockProvider.lockAsync,
        hpublish _ _ rfl, withMemory, memory, LockMemory.apply]
    | unlock =>
      cases hm
      simp [execute, ZWaveJsMqttLockProvider.execute, ZWaveJsMqttLockProvider.unlockAsync,
        hpublish _ _ rfl, withMemory, memory, LockMemory.apply]
    | setSlotCode slotNumber pinCode label =>
      cases hm
      simp [execute, ZWaveJsMqttLockProvider.execute, ZWaveJsMqttLockProvider.setSlotCodeAsync,
        hpublish _ _ rfl, withMemory, memory, LockMemory.apply]
    | clearSlotCode slotNumber =>
      cases hm
      simp [execute, ZWaveJsMqttLockProvider.execute, ZWaveJsMqttLockProvider.clearSlotCodeAsync,
        hpublish _ _ rfl, withMemory, memory, LockMemory.apply]
  | generic p =>
    have hp : p.mqttClient = some client := hclient
    -- A relay with a blank command topic has no message, so the topic is not blank here.
    have hpublish : ∀ payload, ¬ isNullOrWhiteSpace (some p.commandTopic) = true →
        (GenericMqttLockProvider.publish p.commandTopic payload).exec p
          = (.ok (), { p with
              mqttClient := some (sent client { topic := p.commandTopic, payload }) }) := by
      intro payload htopic
      refine exec_statement_of_ok ?_
      rw [hp, publishOrFallBack_of_not_blank client (Bool.eq_false_of_not_eq_true htopic)]
      rfl
    cases c with
    | lock =>
      obtain ⟨htopic, hm⟩ := Option.ite_none_left_eq_some.mp hm
      cases hm
      simp [execute, GenericMqttLockProvider.execute, GenericMqttLockProvider.lockAsync,
        hpublish _ htopic, withMemory, memory, LockMemory.apply]
    | unlock =>
      obtain ⟨htopic, hm⟩ := Option.ite_none_left_eq_some.mp hm
      cases hm
      simp [execute, GenericMqttLockProvider.execute, GenericMqttLockProvider.unlockAsync,
        hpublish _ htopic, withMemory, memory, LockMemory.apply]
    -- A relay has no messages for slot codes.
    | setSlotCode slotNumber pinCode label => cases hm
    | clearSlotCode slotNumber => cases hm

/-- A command that the provider does not carry out throws or returns false, and leaves it. -/
theorem execute_of_none {p : MqttLockProvider} (hp : p.mqttClient.isSome = true)
    {c : LockCommand} (hm : message p c = none) :
    (p.execute c).1 ≠ .ok true ∧ (p.execute c).2 = p := by
  obtain ⟨client, hclient⟩ := Option.isSome_iff_exists.mp hp
  cases p with
  | zWaveJs p => cases c <;> cases hm
  | generic p =>
    have hpublish : ∀ payload, isNullOrWhiteSpace (some p.commandTopic) = true →
        (GenericMqttLockProvider.publish p.commandTopic payload).exec p
          = (.error (.argument "topic"), p) := by
      intro payload htopic
      refine exec_statement_of_error ?_
      rw [show p.mqttClient = some client from hclient,
        publishOrFallBack_of_blank client htopic]
      rfl
    cases c with
    | lock =>
      have htopic : isNullOrWhiteSpace (some p.commandTopic) = true := by
        simpa [message] using hm
      simp [execute, GenericMqttLockProvider.execute, GenericMqttLockProvider.lockAsync,
        hpublish _ htopic]
    | unlock =>
      have htopic : isNullOrWhiteSpace (some p.commandTopic) = true := by
        simpa [message] using hm
      simp [execute, GenericMqttLockProvider.execute, GenericMqttLockProvider.unlockAsync,
        hpublish _ htopic]
    | setSlotCode slotNumber pinCode label =>
      simp [execute, GenericMqttLockProvider.execute, GenericMqttLockProvider.setSlotCodeAsync]
    | clearSlotCode slotNumber =>
      simp [execute, GenericMqttLockProvider.execute, GenericMqttLockProvider.clearSlotCodeAsync]

/-- What a call answers and leaves. `p'` is the provider after the call. -/
structure Outcome (p p' : MqttLockProvider) (call : Call) : Prop where
  returns_true_iff : answer p call = .ok true ↔ (message p call.command).isSome = true
  memory : memory p' = if (message p call.command).isSome then (memory p).apply call.command
    else memory p
  published : p'.published
    = p.published ++ if call.connected then (message p call.command).toList else []
  client : p'.mqttClient.isSome = true
  message : message p' = message p
  decode : decode p' = decode p

/-- What one call comes to, for each kind of call and state of the connection. The step lemma. -/
theorem step_outcome {p : MqttLockProvider} (hp : p.mqttClient.isSome = true) (call : Call) :
    Outcome p (step p call) call := by
  obtain ⟨client, hclient⟩ := Option.isSome_iff_exists.mp hp
  have hset := setConnected_eq hclient call.connected
  have hpublished : p.published = client.published := by rw [published, hclient]; rfl
  cases hm : message p call.command with
  | none =>
    obtain ⟨hanswer, hleft⟩ := execute_of_none (c := call.command)
      (p := withMemory p { client with isConnected := call.connected } (memory p))
      (by rw [mqttClient_withMemory]; rfl) (by rw [message_withMemory, hm])
    -- Without a message the call fails, and nothing but the connection is new.
    have hstep : step p call
        = withMemory p { client with isConnected := call.connected } (memory p) := by
      rw [step, hset, hleft]
    refine ⟨?_, ?_, ?_, ?_, ?_, ?_⟩
    · rw [answer, hset, hm]
      exact iff_of_false hanswer (by decide)
    · rw [hstep, hm, memory_withMemory_self]
      rfl
    · rw [hstep, hm, hpublished, published, mqttClient_withMemory]
      simp
    · rw [hstep, mqttClient_withMemory]
      rfl
    · rw [hstep, message_withMemory]
    · rw [hstep, decode_withMemory]
  | some m =>
    have hexec := execute_of_message (c := call.command) (m := m)
      (p := withMemory p { client with isConnected := call.connected } (memory p))
      (mqttClient_withMemory _ _ _) (by rw [message_withMemory, hm])
    -- With a message the call succeeds: the message goes out and the memory follows the command.
    rw [withMemory_withMemory, memory_withMemory_self] at hexec
    have hstep : step p call
        = withMemory p (sent { client with isConnected := call.connected } m)
          ((memory p).apply call.command) := by
      rw [step, hset, hexec]
    refine ⟨?_, ?_, ?_, ?_, ?_, ?_⟩
    · rw [answer, hset, hexec, hm]
      exact iff_of_true rfl rfl
    · rw [hstep, hm, memory_withMemory_apply hm]
      rfl
    · rw [hstep, hm, hpublished, published, mqttClient_withMemory]
      rfl
    · rw [hstep, mqttClient_withMemory]
      rfl
    · rw [hstep, message_withMemory]
    · rw [hstep, decode_withMemory]

/-! ### Runs -/

/-- What a call makes of a memory. -/
def applyCall (p : MqttLockProvider) (m : LockMemory) (call : Call) : LockMemory :=
  if (message p call.command).isSome then m.apply call.command else m

/-- The provider remembers all of its calls, and the log has those made while connected. -/
structure Logged (p p' : MqttLockProvider) (calls : List Call) : Prop where
  memory : memory p' = calls.foldl (applyCall p) (memory p)
  published : p'.published
    = p.published ++ (calls.filter Call.connected).filterMap fun call => message p call.command
  client : p'.mqttClient.isSome = true
  message : message p' = message p
  decode : decode p' = decode p

/-- The run lemma: the memory and the published messages after a sequence of calls. -/
theorem run_logged {p : MqttLockProvider} (hp : p.mqttClient.isSome = true) (calls : List Call) :
    Logged p (calls.foldl step p) calls := by
  induction calls using List.reverseRecOn with
  | nil => exact ⟨rfl, (List.append_nil _).symm, hp, rfl, rfl⟩
  | append_singleton calls call ih =>
    have hcall := step_outcome ih.client call
    rw [List.foldl_append]
    refine ⟨?_, ?_, hcall.client, hcall.message.trans ih.message, hcall.decode.trans ih.decode⟩
    · rw [List.foldl_append, ← ih.memory]
      show memory (step (calls.foldl step p) call) = _
      rw [hcall.memory, ih.message]
      rfl
    · show (step (calls.foldl step p) call).published = _
      rw [hcall.published, ih.published, ih.message, List.filter_append, List.filterMap_append,
        List.append_assoc]
      congr 2
      cases hconnected : call.connected with
      | true =>
        rw [List.filter_cons_of_pos hconnected, List.filterMap_cons]
        cases message p call.command <;> rfl
      | false =>
        rw [List.filter_cons_of_neg (by simp [hconnected])]
        rfl

/-- A replay of the messages of some calls makes of the memory what the calls do. -/
theorem foldl_decoded {p : MqttLockProvider} (hp : Distinguishes p) (calls : List Call)
    (m : LockMemory) :
    ((calls.filterMap fun call => message p call.command).filterMap (decode p)).foldl
        LockMemory.apply m
      = calls.foldl (applyCall p) m := by
  induction calls generalizing m with
  | nil => rfl
  | cons call calls ih =>
    rw [List.filterMap_cons, List.foldl_cons, applyCall]
    cases hm : message p call.command with
    | none => exact ih m
    | some message =>
      show ((message :: calls.filterMap _).filterMap (decode p)).foldl LockMemory.apply m = _
      rw [List.filterMap_cons_some (decode_message hp hm)]
      exact ih _

/-- The memory of the replayed log of a new provider. -/
theorem replay_run {p : MqttLockProvider} (hp : Distinguishes p)
    (hclient : p.mqttClient.isSome = true) (hnew : p.published = []) (calls : List Call) :
    replay (calls.foldl step p) = (calls.filter Call.connected).foldl (applyCall p) {} := by
  have hrun := run_logged hclient calls
  rw [replay, hrun.decode, hrun.published, hnew, List.nil_append]
  exact foldl_decoded hp _ _

/-- A provider carries out the commands about the bolt, or none of them. -/
theorem movesBolt_cases (p : MqttLockProvider) :
    (∀ call : Call, movesBolt call.command = true → (message p call.command).isSome = true)
      ∨ ∀ call : Call, movesBolt call.command = true
        → (message p call.command).isSome = false := by
  cases p with
  | zWaveJs p =>
    refine Or.inl fun call _ => ?_
    cases call.command <;> rfl
  | generic p =>
    cases htopic : isNullOrWhiteSpace (some p.commandTopic) with
    | true =>
      refine Or.inr fun call _ => ?_
      cases call.command <;> simp [message, htopic]
    | false =>
      refine Or.inl fun call hcall => ?_
      cases hc : call.command <;> simp [message, htopic, hc, movesBolt] at hcall ⊢

/-- A provider carries out the commands about codes, or none of them. -/
theorem writesSlot_cases (p : MqttLockProvider) (n : Int) :
    (∀ call : Call, writesSlot n call.command = true → (message p call.command).isSome = true)
      ∨ ∀ call : Call, writesSlot n call.command = true
        → (message p call.command).isSome = false := by
  cases p with
  | zWaveJs p =>
    refine Or.inl fun call _ => ?_
    cases call.command <;> rfl
  | generic p =>
    refine Or.inr fun call hcall => ?_
    cases hc : call.command <;> simp [message, hc, writesSlot] at hcall ⊢

/-- The slot codes that a memory amounts to. -/
def slotCodes (m : LockMemory) : List HardwareSlotDto :=
  orderBy HardwareSlotDto.slotNumber m.slots.rows

/-- The codes that a provider lists are those of its memory. -/
theorem getSlotCodesAsync_eq (p : MqttLockProvider) :
    p.getSlotCodesAsync = slotCodes (memory p) := by
  cases p with
  | zWaveJs p => rfl
  | generic p =>
    have hperm : (orderBy HardwareSlotDto.slotNumber []).Perm [] := orderBy_perm []
    exact hperm.eq_nil.symm

/-- A provider as the constructor makes it, with a client that has published nothing yet. -/
structure New (p : MqttLockProvider) : Prop where
  memory : memory p = {}
  client : ∃ connected, p.mqttClient = some { isConnected := connected }

/-- A call that returns true has published its command if and only if the client was
connected. The replayed messages give the provider's own state when the last command about the
bolt was sent while connected, and its own codes when for each slot the last command about it
was. -/
theorem reportedSuccess {p : MqttLockProvider} (hnew : New p) (hp : Distinguishes p)
    (calls : List Call) :
    (∀ pre call, pre ++ [call] <+: calls → answer (pre.foldl step p) call = .ok true →
      ∃ m, decode p m = some call.command
        ∧ (step (pre.foldl step p) call).published
          = (pre.foldl step p).published ++ if call.connected then [m] else [])
    ∧ (LastKept (fun call => movesBolt call.command) Call.connected calls →
      (replay (calls.foldl step p)).lockState = (calls.foldl step p).getStateAsync)
    ∧ ((∀ n, LastKept (fun call => writesSlot n call.command) Call.connected calls) →
      slotCodes (replay (calls.foldl step p)) = (calls.foldl step p).getSlotCodesAsync) := by
  obtain ⟨connected, hclient⟩ := hnew.client
  have hsome : p.mqttClient.isSome = true := by rw [hclient]; rfl
  have hnothing : p.published = [] := by rw [published, hclient]; rfl
  have hmemory := (run_logged hsome calls).memory
  have hreplay := replay_run hp hsome hnothing calls
  rw [hnew.memory] at hmemory
  refine ⟨?_, ?_, ?_⟩
  · intro pre call _ hanswer
    have hbefore := run_logged hsome pre
    have hcall := step_outcome hbefore.client call
    obtain ⟨m, hm⟩ := Option.isSome_iff_exists.mp (hcall.returns_true_iff.mp hanswer)
    refine ⟨m, decode_message hp ?_, ?_⟩
    · rw [← hbefore.message, hm]
    · rw [hcall.published, hm]
      rfl
  · intro hlast
    rw [getStateAsync_eq, hmemory, hreplay]
    exact (lockState_cell.carriedOut Call.command _).read_filter {} calls
      (hlast.carriedOut (movesBolt_cases p))
  · intro hlast
    rw [getSlotCodesAsync_eq, hmemory, hreplay]
    refine orderBy_eq_of_find?_eq fun n => ?_
    exact ((slot_cell n).carriedOut Call.command _).read_filter {} calls
      ((hlast n).carriedOut (writesSlot_cases p n))

end

section
/-- The host of the samples. -/
local instance : Host := Host.sample

/-- The lock of the front door. -/
def frontLock : MqttLockProvider :=
  .zWaveJs (.new "zwave/front_door" 0 (some { isConnected := false }))

/-- The lock of the samples is as the factory makes it. -/
theorem frontLock_new : New frontLock := ⟨rfl, false, rfl⟩

/-- The connection is down for the first call only. -/
theorem reportedSuccess_frontLock :
    (replay ([⟨false, .unlock⟩, ⟨true, .setSlotCode 1 "1234" none⟩, ⟨true, .lock⟩].foldl step
        frontLock)).lockState = .locked := by
  have hstate := (reportedSuccess frontLock_new trivial
    [⟨false, .unlock⟩, ⟨true, .setSlotCode 1 "1234" none⟩, ⟨true, .lock⟩]).2.1 (by decide)
  rw [hstate, getStateAsync_eq, (run_logged rfl _).memory]
  rfl

/-- A relay whose two commands have one payload. -/
def pulseRelay : MqttLockProvider :=
  .generic { commandTopic := "gate/set", stateTopic := "gate/state", lockPayload := "PULSE",
             unlockPayload := "PULSE", mqttClient := some { isConnected := true } }

/-- A lock command returns true while the client is not connected, and the broker gets nothing.
With one payload for both commands, not even a full log tells the state. -/
theorem offline_command_is_lost :
    (¬ ∀ (p : MqttLockProvider) (calls : List Call), New p → Distinguishes p →
      (∀ pre call, pre ++ [call] <+: calls → answer (pre.foldl step p) call = .ok true →
        ∃ m, decode p m = some call.command
          ∧ (step (pre.foldl step p) call).published = (pre.foldl step p).published ++ [m])
      ∧ (replay (calls.foldl step p)).lockState = (calls.foldl step p).getStateAsync
      ∧ slotCodes (replay (calls.foldl step p)) = (calls.foldl step p).getSlotCodesAsync)
    ∧ ([⟨true, .lock⟩].foldl step pulseRelay).published
        = ([⟨true, .unlock⟩].foldl step pulseRelay).published
    ∧ ([⟨true, .lock⟩].foldl step pulseRelay).getStateAsync
        ≠ ([⟨true, .unlock⟩].foldl step pulseRelay).getStateAsync := by
  refine ⟨fun h => ?_, by decide, by decide⟩
  obtain ⟨-, hstate, -⟩ := h frontLock [⟨false, .lock⟩] frontLock_new trivial
  rw [replay_run (p := frontLock) trivial rfl rfl, getStateAsync_eq,
    (run_logged rfl _).memory] at hstate
  -- The lock has heard nothing, and the provider says that it is locked.
  cases hstate

end

end CodeMaster.Proofs.Engine.ReportedSuccess
