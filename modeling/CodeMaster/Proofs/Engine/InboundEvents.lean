import CodeMaster.Engine.InboundEvents

/-!
# `CodeMaster.Proofs.Engine.InboundEvents`: can a payload make a parser throw?

The Ring keypad takes the first of several properties for a string, and throws on another kind.
The contact sensor takes a number for an `int`. The lock's keypad checks the kind of each property
before it reads it, and it always answers. `parsers_answer_iff` has all three.

A parser answers when it returns, be it with an event or without one, and it throws when an
exception leaves it. The JSON reader is a parameter, and a text that it refuses is answered, because
the `JsonException` is caught. What is left are the exceptions of `GetString` and `GetInt32`, which
are of other types and which nothing catches.

For each parser the lemmas go from a property to the event: when the text of a property can be read,
when the device can be read, and when the whole event can.
-/

set_option autoImplicit false

namespace CodeMaster.Proofs.Engine.InboundEvents

open CodeMaster.Core CodeMaster.Engine
open CodeMaster.Mcp (JsonElement)
open CodeMaster.DoorCommands (parseInt32 tryGetInt32)

/-- The parser returns true with a value, or false with none. -/
def Answers {α : Type} (x : Reader (Parsed α)) : Prop :=
  x = .ok (false, none) ∨ ∃ event, x = .ok (true, some event)

/-- It throws an exception that it does not catch. -/
def Throws {α : Type} (x : Reader α) : Prop := ∃ e, x = .error e ∧ e ≠ .json

/-- A reader goes on after a result. -/
@[simp] theorem except_bind_ok {α β : Type} (a : α) (f : α → Reader β) :
    (Except.ok a >>= f) = f a := rfl

/-- To know exactly when a reader answers, show when it answers and that it throws in all other
cases. -/
theorem answers_iff_of_throws {α : Type} {x : Reader (Parsed α)} {P : Prop} (hread : P → Answers x)
    (hthrow : ¬P → Throws x) : Answers x ↔ P := by
  refine ⟨fun h => ?_, hread⟩
  by_contra hnot
  obtain ⟨e, he, -⟩ := hthrow hnot
  rcases h with h | ⟨event, h⟩ <;> rw [he] at h <;> cases h

/-- A reader that answers does so inside of the `try` too. -/
theorem Answers.catchJson {α : Type} {x : Reader (Parsed α)} (h : Answers x) :
    Answers (catchJson (false, none) x) := by
  rcases h with rfl | ⟨event, rfl⟩
  · exact .inl rfl
  · exact .inr ⟨event, rfl⟩

/-- An exception that is no `JsonException` is not caught. -/
theorem Throws.catchJson {α : Type} {fallback : α} {x : Reader α} (h : Throws x) :
    Throws (catchJson fallback x) := by
  obtain ⟨e, rfl, hne⟩ := h
  refine ⟨e, ?_, hne⟩
  cases e with
  | json => exact absurd rfl hne
  | invalidOperation | format => rfl

/-- The kind of an object is `Object`. -/
@[simp] theorem valueKind_object (members : List (String × JsonElement)) :
    (JsonElement.object members).valueKind = "Object" := rfl

/-- An element of the kind `Object` has members. -/
theorem exists_members {root : JsonElement} (h : root.valueKind = "Object") :
    ∃ members, root = .object members := by
  cases root with
  | object members => exact ⟨members, rfl⟩
  | bool value => cases value <;> simp [JsonElement.valueKind] at h
  | null | number | string | array => simp [JsonElement.valueKind] at h

/-- A `try` block that reads objects only. It answers exactly when the object, if the text is one,
has what the block needs. -/
theorem answers_try_iff {α : Type} {read : JsonElement → Reader (Parsed α)}
    {Reads : List (String × JsonElement) → Prop}
    (hother : ∀ root, root.valueKind ≠ "Object" → read root = .ok (false, none))
    (hread : ∀ members, Reads members → Answers (read (.object members)))
    (hthrow : ∀ members, ¬Reads members → Throws (read (.object members)))
    (parse : String → Option JsonElement) (text : String) :
    Answers (Engine.catchJson (false, none) (parseDocument parse text >>= read))
      ↔ ∀ members, parse text = some (.object members) → Reads members := by
  unfold parseDocument
  cases hparse : parse text with
  | none => exact iff_of_true (.inl rfl) (fun _ h => by cases h)
  | some root =>
    by_cases hkind : root.valueKind = "Object"
    · obtain ⟨members, rfl⟩ := exists_members hkind
      refine (answers_iff_of_throws (fun h => (hread members h).catchJson)
        fun h => (hthrow members h).catchJson).trans ⟨fun h _ heq => ?_, fun h => h members rfl⟩
      cases heq
      exact h
    · refine iff_of_true (Answers.catchJson (.inl (hother root hkind))) fun members h => ?_
      cases h
      exact absurd rfl hkind

/-- The texts are not blank, and the topic is relevant. -/
structure Considered (topic payload : String) (relevant : Bool) : Prop where
  hasTopic : isNullOrWhiteSpace (some topic) = false
  hasPayload : isNullOrWhiteSpace (some payload) = false
  isRelevant : relevant = true

/-- The checks at the head of the keypads' parsers. -/
theorem answers_checked_iff {α : Type} {topic payload : String} {relevant : Bool}
    {x : Reader (Parsed α)} :
    Answers (if isNullOrWhiteSpace (some topic) || isNullOrWhiteSpace (some payload) then
        .ok (false, none)
      else if !relevant then .ok (false, none) else x)
      ↔ (Considered topic payload relevant → Answers x) := by
  cases htopic : isNullOrWhiteSpace (some topic) with
  | true => exact iff_of_true (.inl rfl) fun h => absurd h.hasTopic (by simp [htopic])
  | false =>
    cases hpayload : isNullOrWhiteSpace (some payload) with
    | true => exact iff_of_true (.inl rfl) fun h => absurd h.hasPayload (by simp [hpayload])
    | false =>
      cases relevant with
      | false => exact iff_of_true (.inl rfl) fun h => absurd h.isRelevant Bool.false_ne_true
      | true => exact ⟨fun h _ => h, fun h => h ⟨htopic, hpayload, rfl⟩⟩

/-! ### The properties of an object -/

/-- The first of the names that is present. -/
def property (members : List (String × JsonElement)) (names : List String) : Option JsonElement :=
  names.findSome? fun name => members.reverse.lookup name

/-- `GetString` does not throw. -/
def readable : Option JsonElement → Bool
  | none | some .null | some (.string _) => true
  | some _ => false

/-- The text of the property. -/
def textOf : Option JsonElement → Option String
  | some (.string value) => some value
  | _ => none

/-- The first property of an object that has one of the names. -/
theorem firstProperty_object (members : List (String × JsonElement)) (names : List String) :
    firstProperty (.object members) names = .ok (property members names) := by
  induction names with
  | nil => rfl
  | cons name names ih =>
    unfold firstProperty property
    rw [List.findSome?_cons]
    cases h : members.reverse.lookup name with
    | none =>
      simp only [JsonElement.tryGetProperty, h]
      exact ih
    | some p =>
      simp only [JsonElement.tryGetProperty, h]
      rfl

/-- A property that is missing, null or a string is read as its text. -/
theorem stringOf_of_readable {p : Option JsonElement} (h : readable p = true) :
    stringOf p = .ok (textOf p) := by
  cases p with
  | none => rfl
  | some e => cases e <;> first | rfl | cases h

/-- Any other property throws an `InvalidOperationException` when its text is read. -/
theorem stringOf_of_not_readable {p : Option JsonElement} (h : readable p = false) :
    ∃ e, stringOf p = .error (.invalidOperation e) := by
  cases p with
  | none => cases h
  | some e => cases e <;> first | exact ⟨_, rfl⟩ | cases h

/-! ### The Ring keypad -/

namespace Ring
open RingMqttKeypadProvider
variable {toLower : Char → Char} {members : List (String × JsonElement)}

/-- The action that the object names. -/
def action (toLower : Char → Char) (members : List (String × JsonElement)) :
    Option KeypadAction :=
  (textOf (property members ["command", "action", "mode"])).bind (parseAction toLower)

/-- What the provider reads as a string is one, or null. It reads the code and the device only if
it knows the action. -/
structure Reads (toLower : Char → Char) (members : List (String × JsonElement)) : Prop where
  command : readable (property members ["command", "action", "mode"]) = true
  code : (action toLower members).isSome →
    readable (property members ["code", "pin", "user_code"]) = true
  device : (action toLower members).isSome →
    readable (property members ["device_id", "deviceId"]) = true

/-- A blank command is no action. -/
theorem parseAction_of_blank {command : String} (h : isNullOrWhiteSpace (some command) = true) :
    parseAction toLower command = none := by
  unfold parseAction
  rw [trim_of_all h]
  rfl

/-- The device of the event can be read when its property is readable: it is in the property or in
the topic. -/
theorem deviceIdOf_of_readable (topic : String)
    (h : readable (property members ["device_id", "deviceId"]) = true) :
    ∃ deviceId, deviceIdOf topic (.object members) = .ok deviceId := by
  unfold deviceIdOf
  rw [firstProperty_object, except_bind_ok]
  cases hdevice : property members ["device_id", "deviceId"] with
  | none => exact ⟨_, rfl⟩
  | some property =>
    rw [hdevice] at h
    exact ⟨_, stringOf_of_readable h⟩

/-- An unreadable property for the device throws. -/
theorem deviceIdOf_of_not_readable (topic : String)
    (h : readable (property members ["device_id", "deviceId"]) = false) :
    ∃ e, deviceIdOf topic (.object members) = .error (.invalidOperation e) := by
  unfold deviceIdOf
  rw [firstProperty_object, except_bind_ok]
  cases hdevice : property members ["device_id", "deviceId"] with
  | none =>
    rw [hdevice] at h
    cases h
  | some property =>
    rw [hdevice] at h
    exact stringOf_of_not_readable h

/-- The `try` block over an object whose command can be read. -/
theorem readEvent_eq {topic : String} {utcNow : DateTime}
    (hcommand : readable (property members ["command", "action", "mode"]) = true) :
    readEvent toLower topic utcNow (.object members)
      = match action toLower members with
        | none => .ok (false, none)
        | some action => do
          let pin ← stringOf (property members ["code", "pin", "user_code"])
          let deviceId ← deviceIdOf topic (.object members)
          return (true, some {
            action, pin, deviceId, rawTopic := some topic, timestamp := utcNow }) := by
  unfold readEvent action
  rw [valueKind_object, if_neg (not_not_intro rfl)]
  simp only [firstProperty_object, except_bind_ok, stringOf_of_readable hcommand]
  cases textOf (property members ["command", "action", "mode"]) with
  | none => rfl
  | some command =>
    cases hblank : isNullOrWhiteSpace (some command) with
    | true =>
      rw [Option.bind_some, parseAction_of_blank hblank]
      rfl
    | false =>
      rw [if_neg Bool.false_ne_true, Option.bind_some, Option.getD_some]
      cases parseAction toLower command with
      | none => rfl
      | some action => rfl

/-- The reader of the events answers when every property that it reads is readable. -/
theorem answers_readEvent {topic : String} {utcNow : DateTime} (h : Reads toLower members) :
    Answers (readEvent toLower topic utcNow (.object members)) := by
  rw [readEvent_eq h.command]
  cases haction : action toLower members with
  | none => exact .inl rfl
  | some action =>
    have hsome : (Ring.action toLower members).isSome = true := by rw [haction, Option.isSome_some]
    obtain ⟨deviceId, hdevice⟩ := deviceIdOf_of_readable topic (h.device hsome)
    simp only [stringOf_of_readable (h.code hsome), hdevice, except_bind_ok]
    exact .inr ⟨_, rfl⟩

/-- The reader of the events throws when one of the properties that it reads is not readable. -/
theorem throws_readEvent {topic : String} {utcNow : DateTime} (h : ¬Reads toLower members) :
    Throws (readEvent toLower topic utcNow (.object members)) := by
  cases hcommand : readable (property members ["command", "action", "mode"]) with
  | false =>
    obtain ⟨e, he⟩ := stringOf_of_not_readable hcommand
    refine ⟨.invalidOperation e, ?_, by simp⟩
    unfold readEvent
    rw [valueKind_object, if_neg (not_not_intro rfl), firstProperty_object, except_bind_ok, he]
    rfl
  | true =>
    rw [readEvent_eq hcommand]
    cases haction : action toLower members with
    | none => exact absurd ⟨hcommand, by simp [haction], by simp [haction]⟩ h
    | some action =>
      cases hcode : readable (property members ["code", "pin", "user_code"]) with
      | false =>
        obtain ⟨e, he⟩ := stringOf_of_not_readable hcode
        exact ⟨.invalidOperation e, by rw [he]; rfl, by simp⟩
      | true =>
        cases hdevice : readable (property members ["device_id", "deviceId"]) with
        | false =>
          obtain ⟨e, he⟩ := deviceIdOf_of_not_readable topic hdevice
          exact ⟨.invalidOperation e, by simp only [stringOf_of_readable hcode, he]; rfl, by simp⟩
        | true => exact absurd ⟨hcommand, fun _ => hcode, fun _ => hdevice⟩ h

/-- The provider answers exactly when what it reads of an object is of the right kind. -/
theorem tryParseKeypadEvent_answers_iff [Host] (parse : String → Option JsonElement)
    (p : RingMqttKeypadProvider) (topic payload : String) (utcNow : DateTime) :
    Answers (p.tryParseKeypadEvent parse toLower topic payload utcNow)
      ↔ (Considered topic payload (p.isRelevant topic) →
          ∀ members, parse payload = some (.object members) → Reads toLower members) := by
  have hother : ∀ root : JsonElement, root.valueKind ≠ "Object" →
      readEvent toLower topic utcNow root = .ok (false, none) := by
    intro root hkind
    unfold readEvent
    rw [if_pos hkind]
    rfl
  refine answers_checked_iff.trans (imp_congr_right fun _ => ?_)
  exact answers_try_iff hother (fun _ h => answers_readEvent h) (fun _ h => throws_readEvent h)
    parse payload

end Ring

/-! ### The keypad of a lock -/

namespace BuiltInLock
open BuiltInLockKeypadProvider
variable {members : List (String × JsonElement)}

/-- The integer of a property, written as a number or as the text of one. -/
def intOf : Option JsonElement → Option Int
  | some (.number text) => (parseInt32 text).map BitVec.toInt
  | some (.string text) => intTryParse (some text)
  | _ => none

/-- The integer under a name. A name that stands twice has its last value. -/
def intAt (members : List (String × JsonElement)) (name : String) : Option Int :=
  intOf (members.reverse.lookup name)

/-- The kind of a property is checked before it is read. -/
theorem tryGetIntProperty_object (members : List (String × JsonElement)) (name : String) :
    tryGetIntProperty (.object members) name = .ok (intAt members name) := by
  unfold tryGetIntProperty intAt
  cases h : members.reverse.lookup name with
  | none =>
    simp only [JsonElement.tryGetProperty, h]
    rfl
  | some prop =>
    simp only [JsonElement.tryGetProperty, h]
    cases prop with
    | bool value => cases value <;> rfl
    | null | number | string | array | object => rfl

/-- The first of the names under which the object has an integer. -/
theorem firstInt_object (members : List (String × JsonElement)) (names : List String) :
    firstInt (.object members) names = .ok (names.findSome? (intAt members)) := by
  induction names with
  | nil => rfl
  | cons name names ih =>
    unfold firstInt
    rw [tryGetIntProperty_object, except_bind_ok, List.findSome?_cons]
    cases intAt members name with
    | none => exact ih
    | some value => rfl

/-- The slot of an event is always read: a property that is no integer is passed over. -/
theorem slotNumber_object (members : List (String × JsonElement)) :
    ∃ slot, slotNumber (.object members) = .ok slot := by
  unfold slotNumber
  rw [firstInt_object, except_bind_ok]
  cases List.findSome? (intAt members) _ with
  | some slot => exact ⟨some slot, rfl⟩
  | none =>
    cases h : members.reverse.lookup "eventParameters" with
    | none => exact ⟨none, by simp only [JsonElement.tryGetProperty, h]; rfl⟩
    | some eventParams =>
      simp only [JsonElement.tryGetProperty, h]
      by_cases hkind : eventParams.valueKind = "Object"
      · obtain ⟨params, rfl⟩ := exists_members hkind
        exact ⟨_, firstInt_object params ["userId", "slot"]⟩
      · exact ⟨none, if_neg hkind⟩

/-- The reader of the lock's own notifications answers for every object. -/
theorem answers_readEvent [Host] (topic : String) (utcNow : DateTime)
    (members : List (String × JsonElement)) :
    Answers (readEvent topic utcNow (.object members)) := by
  obtain ⟨slot, hslot⟩ := slotNumber_object members
  unfold readEvent
  rw [valueKind_object, if_neg (not_not_intro rfl), firstInt_object, except_bind_ok]
  cases Option.bind _ actionOf with
  | none => exact .inl rfl
  | some action =>
    simp only [hslot, except_bind_ok]
    exact .inr ⟨_, rfl⟩

/-- The provider answers to every message. -/
theorem tryParseKeypadEvent_answers [Host] (parse : String → Option JsonElement)
    (topic payload : String) (utcNow : DateTime) :
    Answers (tryParseKeypadEvent parse topic payload utcNow) := by
  have hother : ∀ root : JsonElement, root.valueKind ≠ "Object" →
      readEvent topic utcNow root = .ok (false, none) := by
    intro root hkind
    unfold readEvent
    rw [if_pos hkind]
    rfl
  refine answers_checked_iff.mpr fun _ => ?_
  refine (answers_try_iff hother (fun members _ => answers_readEvent topic utcNow members)
    (fun _ h => absurd trivial h) parse payload).mpr fun _ _ => trivial

end BuiltInLock

/-! ### The contact of a door -/

namespace ContactSensor
open MqttContactSensorProvider
variable [Host] {options : MqttContactSensorOptions} {members : List (String × JsonElement)}

/-- A number is an `int`. -/
def isReadable : Option JsonElement → Bool
  | some (.number text) => (parseInt32 text).isSome
  | _ => true

/-- The payload is of the sensor's topic, and it is read as a document: it is neither of the
configured texts, and it is put in braces. -/
structure Inspected (options : MqttContactSensorOptions) (topic payload : String) : Prop where
  hasPayload : isNullOrWhiteSpace (some payload) = false
  ofTopic : isNullOrWhiteSpace options.topic = true
    ∨ equalsOrdinalIgnoreCase topic (options.topic.getD "") = true
  otherText : stateOf options (trim isWhiteSpace payload) = none
  hasBraces : inBraces (trim isWhiteSpace payload) = true

omit [Host] in
/-- A readable state has a text. -/
theorem stateText_of_isReadable {p : JsonElement} (h : isReadable (some p) = true) :
    ∃ text, stateText p = .ok text := by
  cases p with
  | number text =>
    obtain ⟨value, hvalue⟩ := Option.isSome_iff_exists.mp h
    refine ⟨some (toString value.toInt), ?_⟩
    show (do return some (toString (← getInt32 (.number text)))) = _
    simp only [getInt32, tryGetInt32, hvalue]
    rfl
  | bool value => cases value <;> exact ⟨_, rfl⟩
  | null | string | array | object => exact ⟨_, rfl⟩

omit [Host] in
/-- The text of any other state is a format exception. -/
theorem stateText_of_not_isReadable {p : JsonElement} (h : isReadable (some p) = false) :
    stateText p = .error .format := by
  cases p with
  | number text =>
    have hvalue : parseInt32 text = none :=
      Option.isNone_iff_eq_none.mp (Option.isSome_eq_false_iff.mp h)
    show (do return some (toString (← getInt32 (.number text)))) = _
    simp only [getInt32, tryGetInt32, hvalue]
    rfl
  | null | bool | string | array | object => cases h

/-- The text of the property, if there is one. -/
theorem readState_eq :
    readState options (.object members)
      = match property members ["state", "contact", "value"] with
        | none => .ok none
        | some p => do
          let stateStr ← stateText p
          if isNullOrWhiteSpace stateStr then
            return none
          return stateOf options (stateStr.getD "") := by
  unfold readState
  rw [valueKind_object, if_neg (not_not_intro rfl), firstProperty_object, except_bind_ok]
  cases property members ["state", "contact", "value"] with
  | none => rfl
  | some p => rfl

/-- The reader of the contact state answers when the first of its properties is readable. -/
theorem readState_of_isReadable
    (h : isReadable (property members ["state", "contact", "value"]) = true) :
    ∃ state, readState options (.object members) = .ok state := by
  rw [readState_eq]
  cases hproperty : property members ["state", "contact", "value"] with
  | none => exact ⟨none, rfl⟩
  | some p =>
    rw [hproperty] at h
    obtain ⟨text, htext⟩ := stateText_of_isReadable h
    simp only [htext, except_bind_ok]
    split
    · exact ⟨none, rfl⟩
    · exact ⟨_, rfl⟩

/-- The reader of the contact state throws when the first of its properties is not readable. -/
theorem readState_of_not_isReadable
    (h : isReadable (property members ["state", "contact", "value"]) = false) :
    readState options (.object members) = .error .format := by
  rw [readState_eq]
  cases hproperty : property members ["state", "contact", "value"] with
  | none =>
    rw [hproperty] at h
    cases h
  | some p =>
    rw [hproperty] at h
    simp only [stateText_of_not_isReadable h]
    rfl

/-- The properties that a document has. -/
def Reads (parse : String → Option JsonElement) (text : String) : Prop :=
  ∀ members, parse text = some (.object members) →
    isReadable (property members ["state", "contact", "value"]) = true

/-- The whole reader of the contact state, for a document that can be read. -/
theorem readDocument_of_reads (options : MqttContactSensorOptions)
    {parse : String → Option JsonElement} {text : String} (h : Reads parse text) :
    ∃ state, catchJson none (parseDocument parse text >>= readState options) = .ok state := by
  unfold parseDocument
  cases hparse : parse text with
  | none => exact ⟨none, rfl⟩
  | some root =>
    by_cases hkind : root.valueKind = "Object"
    · obtain ⟨members, rfl⟩ := exists_members hkind
      obtain ⟨state, hstate⟩ : ∃ state, readState options (.object members) = .ok state :=
        readState_of_isReadable (h members hparse)
      refine ⟨state, ?_⟩
      simp only [except_bind_ok, hstate]
      rfl
    · refine ⟨none, ?_⟩
      have hnone : readState options root = .ok none := if_pos hkind
      simp only [except_bind_ok, hnone]
      rfl

/-- The whole reader of the contact state throws for a document that it does not read. -/
theorem readDocument_of_not_reads (options : MqttContactSensorOptions)
    {parse : String → Option JsonElement} {text : String} (h : ¬Reads parse text) :
    catchJson none (parseDocument parse text >>= readState options) = .error .format := by
  obtain ⟨members, hparse, hnot⟩ : ∃ members, parse text = some (.object members)
      ∧ ¬isReadable (property members ["state", "contact", "value"]) = true := by
    simpa only [Reads, not_forall, exists_prop] using h
  have herror : readState options (.object members) = .error .format :=
    readState_of_not_isReadable (Bool.not_eq_true _ ▸ hnot)
  unfold parseDocument
  simp only [hparse, except_bind_ok, herror]
  rfl

/-- The sensor answers exactly when a number that it reads is an `int`. -/
theorem tryParseContactEvent_answers_iff (parse : String → Option JsonElement)
    (options : MqttContactSensorOptions) (topic payload : String) :
    Answers (tryParseContactEvent parse options topic payload)
      ↔ (Inspected options topic payload → Reads parse (trim isWhiteSpace payload)) := by
  unfold tryParseContactEvent
  cases hpayload : isNullOrWhiteSpace (some payload) with
  | true => exact iff_of_true (.inl rfl) fun h => absurd h.hasPayload (by simp [hpayload])
  | false =>
    rw [if_neg Bool.false_ne_true]
    by_cases htopic : isNullOrWhiteSpace options.topic = true
        ∨ equalsOrdinalIgnoreCase topic (options.topic.getD "") = true
    · rw [if_neg (by grind)]
      unfold rawState
      cases hstate : stateOf options (trim isWhiteSpace payload) with
      | some state =>
        exact iff_of_true (.inr ⟨_, rfl⟩) fun h => absurd h.otherText (by simp [hstate])
      | none =>
        cases hbraces : inBraces (trim isWhiteSpace payload) with
        | false => exact iff_of_true (.inl rfl) fun h => absurd h.hasBraces (by simp [hbraces])
        | true =>
          have hinspected : Inspected options topic payload := ⟨hpayload, htopic, hstate, hbraces⟩
          refine (answers_iff_of_throws (fun h => ?_) fun h => ?_).trans
            (imp_iff_right hinspected).symm
          · obtain ⟨state, hread⟩ := readDocument_of_reads options h
            simp only [if_true, hread, except_bind_ok]
            cases state with
            | none => exact .inl rfl
            | some state => exact .inr ⟨_, rfl⟩
          · simp only [if_true, readDocument_of_not_reads options h]
            exact ⟨.format, rfl, by simp⟩
    · rw [if_pos (by grind)]
      exact iff_of_true (.inl rfl) fun h => absurd h.ofTopic htopic

end ContactSensor

/-! ### The three parsers -/

/-- When each parser answers: the Ring keypad if what it reads is of the right kind, the lock's
keypad always, and the contact sensor if a number that it reads is an `int`. -/
theorem parsers_answer_iff [Host] (parse : String → Option JsonElement) (toLower : Char → Char)
    (topic payload : String) (utcNow : DateTime) :
    (∀ p : RingMqttKeypadProvider,
      (Answers (p.tryParseKeypadEvent parse toLower topic payload utcNow)
        ↔ (Considered topic payload (p.isRelevant topic) →
            ∀ members, parse payload = some (.object members) → Ring.Reads toLower members)))
    ∧ Answers (BuiltInLockKeypadProvider.tryParseKeypadEvent parse topic payload utcNow)
    ∧ ∀ options : MqttContactSensorOptions,
      (Answers (MqttContactSensorProvider.tryParseContactEvent parse options topic payload)
        ↔ (ContactSensor.Inspected options topic payload →
            ContactSensor.Reads parse (trim isWhiteSpace payload))) :=
  ⟨fun p => Ring.tryParseKeypadEvent_answers_iff parse p topic payload utcNow,
    BuiltInLock.tryParseKeypadEvent_answers parse topic payload utcNow,
    fun options => ContactSensor.tryParseContactEvent_answers_iff parse options topic payload⟩

section
/-- The host of the samples. -/
local instance : Host := Host.sample

/-- Two payloads that a broker can deliver: a code that is a number, and half a degree. -/
def parseSample (text : String) : Option JsonElement :=
  if text = "\x7b\"action\":\"disarm\",\"code\":1234\x7d" then
    some (.object [("action", .string "disarm"), ("code", .number "1234")])
  else if text = "\x7b\"value\":0.5\x7d" then some (.object [("value", .number "0.5")])
  else none

/-- The Ring keypad throws on a code that is a number, and the contact sensor on a fraction. -/
theorem number_throws :
    ¬Answers ((RingMqttKeypadProvider.new "ring").tryParseKeypadEvent parseSample Char.toLower
        "ring/home/command" "\x7b\"action\":\"disarm\",\"code\":1234\x7d" { ticks := 0 })
    ∧ ¬Answers (MqttContactSensorProvider.tryParseContactEvent parseSample {}
        "sensors/door" "\x7b\"value\":0.5\x7d") := by
  constructor
  · intro h
    have hconsidered : Considered "ring/home/command"
        "\x7b\"action\":\"disarm\",\"code\":1234\x7d"
        ((RingMqttKeypadProvider.new "ring").isRelevant "ring/home/command") :=
      ⟨by decide, by decide, by decide⟩
    have hreads := (Ring.tryParseKeypadEvent_answers_iff _ _ _ _ _).mp h hconsidered
      [("action", .string "disarm"), ("code", .number "1234")] rfl
    exact absurd (hreads.code (by decide)) (by decide)
  · intro h
    have hinspected : ContactSensor.Inspected {} "sensors/door" "\x7b\"value\":0.5\x7d" :=
      ⟨by decide, by decide, by decide, by decide⟩
    have hreads := (ContactSensor.tryParseContactEvent_answers_iff _ _ _ _).mp h hinspected
    have htrim : trim isWhiteSpace "\x7b\"value\":0.5\x7d" = "\x7b\"value\":0.5\x7d" := by decide
    rw [htrim] at hreads
    exact absurd (hreads [("value", .number "0.5")] rfl) (by decide)

end

end CodeMaster.Proofs.Engine.InboundEvents
