import CodeMaster.Proofs.Engine.InboundEvents

/-!
# `CodeMaster.Proofs.Engine.KeypadNotifications`: does a payload contradict the action read from it?

The lock's keypad reads one code, the first of seven properties that holds an integer. A
notification's type is among them, in the same number space as an alarm type or an access control
event, and it stands first. So a code that the payload holds elsewhere can name the other action.

The seven properties are looked at in their order, and the first integer decides. The condition of
the exact form is on the payload: none of the five fields for a code holds one that names the other
action. It is stated for every topic and every payload.
-/

set_option autoImplicit false

namespace CodeMaster.Proofs.Engine.KeypadNotifications

open CodeMaster.Core CodeMaster.Engine
open CodeMaster.Engine.BuiltInLockKeypadProvider
open CodeMaster.Proofs.Engine.InboundEvents (Considered except_bind_ok valueKind_object)
open CodeMaster.Proofs.Engine.InboundEvents.BuiltInLock (intAt firstInt_object slotNumber_object)
open CodeMaster.Mcp (JsonElement)

/-! ### The codes -/

/-- The properties that the provider reads a code from, in its order. -/
def alternatives : List String :=
  ["type", "alarm_type", "alarmType", "access_control", "accessControl", "event", "notification"]

/-- The properties that hold an alarm type or an access control event. -/
def codeFields : List String :=
  ["alarm_type", "alarmType", "access_control", "accessControl", "event"]

/-- The code names the other action. -/
def Contradicts (code : Int) : KeypadAction → Prop
  | .unlock => code = 18 ∨ code = 5
  | .lock => code = 19 ∨ code = 6
  | _ => False

/-- One code names an unlock, and the other a lock. -/
def Opposed (a b : Int) : Prop :=
  ((a = 19 ∨ a = 6) ∧ (b = 18 ∨ b = 5)) ∨ ((a = 18 ∨ a = 5) ∧ (b = 19 ∨ b = 6))

/-- A code contradicts the action of another exactly when the two are opposed. -/
theorem exists_contradicts_iff (a b : Int) :
    (∃ action, actionOf a = some action ∧ Contradicts b action) ↔ Opposed a b := by
  unfold actionOf Opposed
  by_cases hunlock : a = 19 ∨ a = 6
  · rw [if_pos hunlock]
    have hlock : ¬(a = 18 ∨ a = 5) := by omega
    simp [Contradicts, hunlock, hlock]
  · rw [if_neg hunlock]
    by_cases hlock : a = 18 ∨ a = 5
    · rw [if_pos hlock]
      simp [Contradicts, hunlock, hlock]
    · rw [if_neg hlock]
      simp [hunlock, hlock]

/-! ### The parser -/

section
variable [Host]

/-- Where the parser returns true, no code field of the object contradicts the event's action. -/
def Uncontradicted (parse : String → Option JsonElement) (topic payload : String)
    (utcNow : DateTime) : Prop :=
  ∀ members, parse payload = some (.object members) →
    ∀ event, tryParseKeypadEvent parse topic payload utcNow = .ok (true, some event) →
      ∀ name ∈ codeFields, ∀ code, intAt members name = some code →
        ¬Contradicts code event.action

/-- The `try` block returns an event exactly if the first integer has an action, which is the
event's. -/
theorem readEvent_action_iff (topic : String) (utcNow : DateTime)
    (members : List (String × JsonElement)) (action : KeypadAction) :
    (∃ event, readEvent topic utcNow (.object members) = .ok (true, some event)
        ∧ event.action = action)
      ↔ ∃ first, alternatives.findSome? (intAt members) = some first
          ∧ actionOf first = some action := by
  obtain ⟨slot, hslot⟩ := slotNumber_object members
  unfold readEvent alternatives
  rw [valueKind_object, if_neg (not_not_intro rfl), firstInt_object, except_bind_ok]
  cases List.findSome? (intAt members) _ with
  | none => exact iff_of_false (by rintro ⟨_, ⟨⟩, _⟩) (by rintro ⟨_, ⟨⟩, _⟩)
  | some first =>
    rw [Option.bind_some]
    cases haction : actionOf first with
    | none =>
      refine iff_of_false (by rintro ⟨_, ⟨⟩, _⟩) ?_
      rintro ⟨_, ⟨⟩, hsome⟩
      exact absurd (haction.symm.trans hsome) (by simp)
    | some read =>
      simp only [hslot, except_bind_ok]
      constructor
      · rintro ⟨event, hevent, rfl⟩
        cases hevent
        exact ⟨first, rfl, haction⟩
      · rintro ⟨_, ⟨⟩, hsome⟩
        exact ⟨_, rfl, Option.some.inj (haction.symm.trans hsome)⟩

omit [Host] in
/-- A reader whose exceptions are caught gives an event exactly when it gives the event by
itself. -/
theorem catchJson_eq_some_iff {α : Type} {x : Reader (Parsed α)} {event : α} :
    catchJson (false, none) x = .ok (true, some event) ↔ x = .ok (true, some event) := by
  cases x with
  | ok read => rfl
  | error e => cases e <;> simp [catchJson]

/-- Past its checks, the parser gives what the `try` block gives. -/
theorem tryParseKeypadEvent_eq_some_iff {parse : String → Option JsonElement}
    {topic payload : String} {members : List (String × JsonElement)}
    (hparse : parse payload = some (.object members)) (utcNow : DateTime)
    (event : KeypadEventDto) :
    tryParseKeypadEvent parse topic payload utcNow = .ok (true, some event)
      ↔ Considered topic payload (isRelevant topic)
        ∧ readEvent topic utcNow (.object members) = .ok (true, some event) := by
  have hdocument : parseDocument parse payload = .ok (.object members) := by
    unfold parseDocument
    rw [hparse]
  unfold tryParseKeypadEvent
  rw [hdocument, except_bind_ok]
  by_cases hconsidered : Considered topic payload (isRelevant topic)
  · rw [if_neg (by simp [hconsidered.hasTopic, hconsidered.hasPayload]),
      if_neg (by simp [hconsidered.isRelevant]), catchJson_eq_some_iff]
    exact (and_iff_right hconsidered).symm
  · refine iff_of_false (fun h => hconsidered ?_) fun h => hconsidered h.1
    -- The parser returns false at each of its checks.
    split at h
    · cases h
    · next hblank =>
      split at h
      · cases h
      · next hrelevant =>
        simp only [Bool.or_eq_true, not_or, Bool.not_eq_true] at hblank
        exact ⟨hblank.1, hblank.2, by simpa using hrelevant⟩

/-- No code contradicts the action exactly if the parser does not look at the message, or the
first integer among the seven properties is not opposed by one of the five code fields. -/
theorem keypad_action_uncontradicted_iff (parse : String → Option JsonElement)
    (topic payload : String) (utcNow : DateTime) :
    Uncontradicted parse topic payload utcNow
      ↔ (Considered topic payload (isRelevant topic) →
          ∀ members, parse payload = some (.object members) →
            ∀ first, alternatives.findSome? (intAt members) = some first →
              ∀ name ∈ codeFields, ∀ code, intAt members name = some code →
                ¬Opposed first code) := by
  constructor
  · intro h hconsidered members hparse first hfirst name hname code hcode hopposed
    obtain ⟨action, haction, hcontradicts⟩ := (exists_contradicts_iff first code).mpr hopposed
    obtain ⟨event, hread, rfl⟩ :=
      (readEvent_action_iff topic utcNow members action).mpr ⟨first, hfirst, haction⟩
    have hevent := (tryParseKeypadEvent_eq_some_iff hparse utcNow event).mpr ⟨hconsidered, hread⟩
    exact h members hparse event hevent name hname code hcode hcontradicts
  · intro h members hparse event hevent name hname code hcode hcontradicts
    obtain ⟨hconsidered, hread⟩ := (tryParseKeypadEvent_eq_some_iff hparse utcNow event).mp hevent
    obtain ⟨first, hfirst, haction⟩ :=
      (readEvent_action_iff topic utcNow members event.action).mp ⟨event, hread, rfl⟩
    exact h hconsidered members hparse first hfirst name hname code hcode
      ((exists_contradicts_iff first code).mp ⟨event.action, haction, hcontradicts⟩)

end

section
/-- The host of the samples. -/
local instance : Host := Host.sample

/-- A notification of the access control type for a lock at the keypad. -/
def parseSample (text : String) : Option JsonElement :=
  if text = "\x7b\"type\":6,\"event\":5\x7d" then
    some (.object [("type", .number "6"), ("event", .number "5")])
  else none

/-- It is read as an unlock. -/
theorem keypad_lock_read_as_unlock :
    ¬Uncontradicted parseSample "zwave/front/notification" "\x7b\"type\":6,\"event\":5\x7d"
      { ticks := 0 } := by
  intro h
  let event : KeypadEventDto := {
    action := .unlock, deviceId := some "front", rawTopic := some "zwave/front/notification",
    timestamp := { ticks := 0 } }
  have hevent : tryParseKeypadEvent parseSample "zwave/front/notification"
      "\x7b\"type\":6,\"event\":5\x7d" { ticks := 0 } = .ok (true, some event) := rfl
  exact h _ rfl event hevent "event" (by decide) 5 (by decide) (Or.inr rfl)

end

end CodeMaster.Proofs.Engine.KeypadNotifications
