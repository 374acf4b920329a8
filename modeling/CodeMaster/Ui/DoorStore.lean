import CodeMaster.Lib.ObjectRecord
import CodeMaster.Ui.AuditStore

/-!
# `CodeMaster.Ui.DoorStore`: the doors of the user interface

The store holds the doors, the countdowns that their cards show, and which doors have a command
under way. An action starts a request, and its answer changes the store when it arrives. `System` is
the store with the requests in flight, and one step for an action or an answer. The answers can
arrive in any order.

A door's card is the only caller of `unlockDoor` and `lockDoor`. Its buttons are disabled while
`isCurrentOperating` holds.

`isOperating` and `autoLockCountdowns` are plain objects whose keys are ids of doors. The server
takes any text for an id, so that an id can be the name of a member of `Object.prototype`, such as
`constructor`. The records are therefore an `ObjectRecord`, and what the card makes of an inherited
member is part of the model: the member counts as true, so that the buttons are disabled, and it is
no number of seconds.

The countdown of the server can be `null`, which is not the same as a missing field: `none` is
`undefined`, and `some none` is `null`. The unions of states are texts, as they come from the server.
The error that a failed request throws is its message.
-/

set_option autoImplicit false

namespace CodeMaster.Ui

/-- A door as the server sends it. The states and the countdown are in the list only. -/
structure AccessPoint where
  id : String
  name : String
  lockProviderType : String
  lockConfigJson : String
  keypadProviderType : Option String := none
  keypadConfigJson : Option String := none
  doorSensorProviderType : Option String := none
  doorSensorConfigJson : Option String := none
  autoLockEnabled : Bool
  autoLockDaySeconds : Int
  autoLockNightSeconds : Int
  retryOnFailure : Bool
  createdAt : Option String := none
  updatedAt : Option String := none
  lockState : Option String := none
  contactState : Option String := none
  autoLockStatus : Option String := none
  remainingCountdownSeconds : Option (Option Int) := none
  deriving DecidableEq, Repr

/-- `Record<string, number>`, whose numbers can be `null`. -/
abbrev Countdowns := ObjectRecord (Option Int)

/-- The store of the page. -/
structure DoorState where
  doors : List AccessPoint := []
  selectedDoorId : Option String := none
  autoLockCountdowns : Countdowns := {}
  isOperating : ObjectRecord Bool := {}
  isLoading : Bool := false
  error : Option String := none

namespace DoorState

/-! ### The requests that load and change doors -/

/-- The part of `fetchDoors`, `createDoor`, `updateDoor` and `deleteDoor` before the answer. -/
def load (state : DoorState) : DoorState := { state with isLoading := true, error := none }

/-- The `catch` of these actions. -/
def failLoad (message : String) (state : DoorState) : DoorState :=
  { state with error := some message, isLoading := false }

/-- The countdowns of the loaded doors, which are assigned one after the other. -/
def countdownsOf (doors : List AccessPoint) : Countdowns :=
  doors.foldl (fun countdowns door =>
    match door.remainingCountdownSeconds with
    | none => countdowns
    | some seconds => countdowns.set door.id seconds) {}

/-- The loaded doors take the place of those of the page. The countdowns that were loaded go over
those of the page, and the other ones stay. -/
def receiveDoors (doors : List AccessPoint) (state : DoorState) : DoorState :=
  { state with
    doors := doors
    autoLockCountdowns := state.autoLockCountdowns.spread (countdownsOf doors)
    isLoading := false }

/-- The new door goes to the end. -/
def receiveCreated (created : AccessPoint) (state : DoorState) : DoorState :=
  { state with doors := state.doors ++ [created], isLoading := false }

/-- The written door takes the place of the one with the id. -/
def receiveUpdated (id : String) (updated : AccessPoint) (state : DoorState) : DoorState :=
  { state with
    doors := state.doors.map fun d => if d.id = id then updated else d
    isLoading := false }

/-- The deleted door goes, and is not selected any more. -/
def receiveDeleted (id : String) (state : DoorState) : DoorState :=
  { state with
    doors := state.doors.filter fun d => d.id ≠ id
    selectedDoorId := if state.selectedDoorId = some id then none else state.selectedDoorId
    isLoading := false }

/-! ### The commands -/

/-- The part of `unlockDoor` and `lockDoor` before the answer. -/
def startCommand (id : String) (state : DoorState) : DoorState :=
  { state with isOperating := state.isOperating.withProperty id true }

/-- The `catch` of the two actions. -/
def failCommand (id message : String) (state : DoorState) : DoorState :=
  { state with
    error := some message
    isOperating := state.isOperating.withProperty id false }

/-- The optimistic update of the two actions. -/
def endCommand (id lockState : String) (countdown : Int) (state : DoorState) : DoorState :=
  { state with
    doors := state.doors.map fun d => if d.id = id then { d with lockState := some lockState } else d
    isOperating := state.isOperating.withProperty id false
    autoLockCountdowns := state.autoLockCountdowns.withProperty id (some countdown) }

/-- `autoLockDaySeconds || 300`, of the first door with the id. -/
def unlockCountdown (doors : List AccessPoint) (id : String) : Int :=
  match doors.find? fun d => d.id = id with
  | none => 300
  | some door => if door.autoLockDaySeconds = 0 then 300 else door.autoLockDaySeconds

/-! ### The other actions -/

/-- A door is selected, or none. -/
def selectDoor (id : Option String) (state : DoorState) : DoorState :=
  { state with selectedDoorId := id }

/-- A door gets new states, and a new countdown when there is one. -/
def updateDoorState (id lockState : String) (contactState : Option String)
    (countdown : Option Int) (state : DoorState) : DoorState :=
  { state with
    doors := state.doors.map fun d =>
      if d.id = id then
        { d with lockState := some lockState, contactState := contactState.or d.contactState }
      else d
    autoLockCountdowns :=
      match countdown with
      | none => state.autoLockCountdowns
      | some seconds => state.autoLockCountdowns.withProperty id (some seconds) }

/-- One second of a countdown. A `null` is not greater than zero. -/
def tick : Option Int → Option Int
  | none => none
  | some seconds => some (if seconds > 0 then seconds - 1 else seconds)

/-- One second passes for all countdowns. -/
def tickCountdowns (state : DoorState) : DoorState :=
  { state with autoLockCountdowns := state.autoLockCountdowns.mapOwn tick }

/-! ### The card -/

/-- The countdown of a card: a number of seconds, or the member that every object inherits. -/
inductive Countdown where
  | seconds (seconds : Int)
  | inherited
  deriving DecidableEq, Repr

/-- The countdown that the card of the door shows. A `null` is passed over like a missing one. -/
def countdown (state : DoorState) (door : AccessPoint) : Countdown :=
  match state.autoLockCountdowns.get door.id with
  | .own (some seconds) => .seconds seconds
  | .inherited => .inherited
  | .own none | .missing => .seconds (door.remainingCountdownSeconds.join.getD 0)

/-- `isOperating[door.id] || false`. An inherited member counts as true. -/
def isCurrentOperating (state : DoorState) (id : String) : Bool :=
  match state.isOperating.get id with
  | .own operating => operating
  | .inherited => true
  | .missing => false

/-- The lock state on the card: `door.lockState || 'Locked'`. -/
def shownLockState (door : AccessPoint) : String := (truthy door.lockState).getD "Locked"

/-- The contact state on the card. -/
def shownContactState (door : AccessPoint) : String := (truthy door.contactState).getD "Closed"

/-- There is a card of the door, and its buttons are not disabled. -/
def canOperate (state : DoorState) (id : String) : Bool :=
  state.doors.any (fun d => d.id = id) && !state.isCurrentOperating id

end DoorState

/-! ### The requests in flight -/

/-- A request in flight, with what its answer needs. -/
inductive DoorRequest where
  | list
  | create
  | update (id : String)
  | delete (id : String)
  | unlock (id : String)
  | lock (id : String)
  deriving DecidableEq, Repr

/-- What the server answers. -/
inductive DoorAnswer where
  | doors (doors : List AccessPoint)
  | door (door : AccessPoint)
  | done
  | error (message : String)
  deriving DecidableEq, Repr

/-- An action of the user interface, or the answer to the request at a place in the list of those
in flight. -/
inductive DoorInput where
  | fetchDoors
  | createDoor
  | updateDoor (id : String)
  | deleteDoor (id : String)
  | unlockDoor (id : String)
  | lockDoor (id : String)
  | selectDoor (id : Option String)
  | updateDoorState (id lockState : String) (contactState : Option String)
      (countdown : Option Int)
  | tickCountdowns
  | answer (place : Nat) (answer : DoorAnswer)
  deriving DecidableEq, Repr

/-- The store, and the requests in flight. -/
structure DoorSystem where
  state : DoorState := {}
  pending : List DoorRequest := []

namespace DoorSystem

open DoorState

/-- The part of an action after the answer. An answer of another kind than the request's is none. -/
def settle (state : DoorState) : DoorRequest → DoorAnswer → Option DoorState
  | .list, .doors doors => some (state.receiveDoors doors)
  | .create, .door created => some (state.receiveCreated created)
  | .update id, .door updated => some (state.receiveUpdated id updated)
  | .delete id, .done => some (state.receiveDeleted id)
  | .unlock id, .done => some (state.endCommand id "Unlocked" (unlockCountdown state.doors id))
  | .lock id, .done => some (state.endCommand id "Locked" 0)
  | .unlock id, .error message | .lock id, .error message => some (state.failCommand id message)
  | _, .error message => some (state.failLoad message)
  | _, _ => none

/-- A request starts. -/
def start (s : DoorSystem) (state : DoorState) (request : DoorRequest) : DoorSystem where
  state := state
  pending := s.pending ++ [request]

/-- One action of the user, or one answer. -/
def step (s : DoorSystem) : DoorInput → DoorSystem
  | .fetchDoors => s.start s.state.load .list
  | .createDoor => s.start s.state.load .create
  | .updateDoor id => s.start s.state.load (.update id)
  | .deleteDoor id => s.start s.state.load (.delete id)
  | .unlockDoor id =>
    if s.state.canOperate id then s.start (s.state.startCommand id) (.unlock id) else s
  | .lockDoor id =>
    if s.state.canOperate id then s.start (s.state.startCommand id) (.lock id) else s
  | .selectDoor id => { s with state := s.state.selectDoor id }
  | .updateDoorState id lockState contactState countdown =>
    { s with state := s.state.updateDoorState id lockState contactState countdown }
  | .tickCountdowns => { s with state := s.state.tickCountdowns }
  | .answer place answer =>
    match s.pending[place]? with
    | none => s
    | some request =>
      match settle s.state request answer with
      | none => s
      | some state => { state, pending := s.pending.eraseIdx place }

/-- An answer to no request changes nothing. -/
theorem step_answer_of_none {s : DoorSystem} {place : Nat} (h : s.pending[place]? = none)
    (answer : DoorAnswer) : s.step (.answer place answer) = s := by
  simp only [step, h]

/-- The answer to the request at its place. -/
theorem step_answer_of_some {s : DoorSystem} {place : Nat} {request : DoorRequest}
    (h : s.pending[place]? = some request) (answer : DoorAnswer) :
    s.step (.answer place answer)
      = match settle s.state request answer with
        | none => s
        | some state => { state, pending := s.pending.eraseIdx place } := by
  simp only [step, h]

end DoorSystem

end CodeMaster.Ui
