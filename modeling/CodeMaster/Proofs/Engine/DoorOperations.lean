import CodeMaster.Proofs.Engine.AutoLockMethods
import CodeMaster.Engine.DoorOperationService

/-!
# `CodeMaster.Proofs.Engine.DoorOperations`: the service, seen from one door

A `DoorView` is what the three dictionaries hold for one door, and `DoorView.step` is what a
step of the service does there. `view_step` shows that the service is one such system for
each door: a step at a door moves that door's view as `DoorView.step` says, and leaves the
views of the other doors.

The lemmas are in three groups: what a method of the service does to the view of its own door, that
it leaves the views of the others (`SameElsewhere`), and that it leaves the database. Later modules
use these lemmas and do not unfold the methods, so that a change in one method is a change in its
lemmas.

A method of the machine can throw in the middle, when a timer has a delay that `CreateTimer`
refuses. The view then has what was written before, and the method of the service ends there.
-/

set_option autoImplicit false

namespace CodeMaster.Proofs.Engine.DoorOperations

open CodeMaster.Core Data CodeMaster.Engine DoorOperationService Exec AutoLockMethods
open AutoLockStateMachine (onLockStateChanged onDoorContactChanged)

/-- What the service reports of a door, and the door's machine. -/
structure DoorView where
  lockState : LockState := .locked
  contactState : DoorContactState := .closed
  machine : Option AutoLockStateMachine := none
  deriving DecidableEq, Repr

/-- The view of the door. -/
def view (s : DoorOperationService) (d : String) : DoorView where
  lockState := s.getDoorLockStateAsync d
  contactState := s.getDoorContactStateAsync d
  machine := s.autoLockStateMachines d

namespace DoorView

/-- The door's machine gets a method call. -/
def call (v : DoorView) (method : AutoLockStateMachine.Method) : DoorView :=
  { v with machine := v.machine.map (after method) }

/-- The lock state of the door changes, and the machine, if there is one, is told so. -/
def reportLock (v : DoorView) (state : LockState) : DoorView :=
  { v with lockState := state }.call (onLockStateChanged state)

/-- The contact state of the door changes, and the machine, if there is one, is told so. -/
def reportContact (v : DoorView) (state : DoorContactState) : DoorView :=
  { v with contactState := state }.call (onDoorContactChanged state)

/-- The machine that an unlock command notifies: the door's own, or a new one, with the
duration of the command. -/
def notified (v : DoorView) (row : AccessPoint) (durationMinutes : Option (BitVec 32)) :
    AutoLockStateMachine :=
  after (setDuration durationMinutes) (v.machine.getD (.ofAccessPoint row))

/-- The door after an unlock that succeeds: there is a machine, which is told of the override and
then of the new lock state. -/
def unlocked (v : DoorView) (row : AccessPoint) (durationMinutes : Option (BitVec 32)) :
    DoorView :=
  { v with machine := some (v.notified row durationMinutes) }.reportLock .unlocked

/-- The report of the contact is reached when the report of the lock has not thrown. -/
def reportStates (v : DoorView) (lockState : Option LockState)
    (contactState : Option DoorContactState) : DoorView :=
  let v' := lockState.elim v v.reportLock
  if v.machine.all fun m => lockState.all fun state => completes (onLockStateChanged state) m then
    contactState.elim v' v'.reportContact
  else v'

/-- The lock has answered an attempt. `row` is the stored door. -/
def endLockAttempt (v : DoorView) (row : Option AccessPoint) (answer : LockAnswer) : DoorView :=
  if answer = .returned true ∧ row.isSome then
    (v.reportLock .locked).call (AutoLockStateMachine.endLockAttempt true)
  else v.call (AutoLockStateMachine.endLockAttempt false)

/-- What an event at the door does to the view. -/
def step (row : Option AccessPoint) (v : DoorView) : Event → DoorView
  | .unlock _ durationMinutes (.returned true) =>
    row.elim v fun row => v.unlocked row durationMinutes
  | .lock _ (.returned true) => row.elim v fun _ => v.reportLock .locked
  | .unlock _ _ _ | .lock _ _ => v
  | .updateDoorStates _ lockState contactState => v.reportStates lockState contactState
  | .countdownExpired _ => { v with machine := v.machine.map fun m => m.step .countdownExpired }
  | .retryExpired _ => { v with machine := v.machine.map fun m => m.step .retryExpired }
  | .lockAttemptEnded _ answer =>
    if v.machine.any fun m => 0 < m.attempts then v.endLockAttempt row answer else v

end DoorView

/-! ### What a program does at one door -/

variable {s : DoorOperationService} {d : String}

/-- A call of the door's machine. Without a machine nothing happens, and an exception of a timer
leaves what the method has written before. -/
theorem exec_callMachine (method : AutoLockStateMachine.Method) :
    (callMachine d method).exec s
      = match s.autoLockStateMachines d with
        | none => (.ok (), s)
        | some m =>
          (if completes method m then .ok () else .error .argumentOutOfRange,
            s.setMachine d (after method m)) := by
  unfold callMachine
  rw [exec]
  cases h : s.autoLockStateMachines d with
  | none => simp [ExceptT.run, StateT.run, h]
  | some m =>
    rcases hm : method.exec m with ⟨_ | _, m'⟩ <;>
      simp [ExceptT.run, StateT.run, h, hm, completes, after, Except.isOk, Except.toBool]

/-- The view of the door has the machine that is written. -/
@[simp] theorem view_setMachine (m : AutoLockStateMachine) :
    view (s.setMachine d m) d = { view s d with machine := some m } := by
  simp [view, setMachine, getDoorLockStateAsync, getDoorContactStateAsync]

/-- A call of the door's machine is the call in the view. -/
theorem view_callMachine (method : AutoLockStateMachine.Method) :
    view ((callMachine d method).exec s).2 d = (view s d).call method := by
  rw [exec_callMachine]
  cases h : s.autoLockStateMachines d with
  | none => simp [view, DoorView.call, h]
  | some m =>
    rw [view_setMachine]
    simp [view, DoorView.call, h]

/-- A call that does not throw goes on. -/
theorem exec_callMachine_of_completes {method : AutoLockStateMachine.Method}
    (h : ∀ m, (view s d).machine = some m → completes method m = true) :
    (callMachine d method).exec s = (.ok (), ((callMachine d method).exec s).2) := by
  rw [exec_callMachine]
  cases hm : s.autoLockStateMachines d with
  | none => rfl
  | some m => simp [h m hm]

/-- A call that throws stops with the state in which the method leaves the machine. -/
theorem exec_callMachine_of_throws {method : AutoLockStateMachine.Method}
    {m : AutoLockStateMachine} (hm : (view s d).machine = some m)
    (h : completes method m = false) :
    (callMachine d method).exec s
      = (.error .argumentOutOfRange, ((callMachine d method).exec s).2) := by
  rw [exec_callMachine, show s.autoLockStateMachines d = some m from hm]
  simp [h]

/-- The write of a lock state does not fail. -/
theorem exec_setLockState (state : LockState) :
    (setLockState d state).exec s = (.ok (), ((setLockState d state).exec s).2) := rfl

/-- The lookup of a machine does not fail, because it makes one when there is none. -/
theorem exec_getOrCreateStateMachine (door : AccessPoint) :
    (getOrCreateStateMachine door).exec s
      = (.ok (), ((getOrCreateStateMachine door).exec s).2) := rfl

/-- A new lock state is a new lock state in the view. -/
theorem view_setLockState (state : LockState) :
    view ((setLockState d state).exec s).2 d = { view s d with lockState := state } := by
  simp [setLockState, view, getDoorLockStateAsync, getDoorContactStateAsync]

/-- A new contact state is a new contact state in the view. -/
theorem view_setContactState (state : DoorContactState) :
    view ((setContactState d state).exec s).2 d = { view s d with contactState := state } := by
  simp [setContactState, view, getDoorLockStateAsync, getDoorContactStateAsync]

/-- After the lookup there is a machine in the view: the one of before, or a new one with the
settings of the door. -/
theorem view_getOrCreateStateMachine (door : AccessPoint) :
    view ((getOrCreateStateMachine door).exec s).2 door.id
      = { view s door.id with
          machine := some ((view s door.id).machine.getD (.ofAccessPoint door)) } := by
  rw [getOrCreateStateMachine, exec_modify, view_setMachine]
  rfl

/-- When the lock confirms, the machine of the door is notified last, with the duration set. -/
theorem exec_unlockDoorAsync_confirmed (durationMinutes : Option (BitVec 32)) {row : AccessPoint}
    (hrow : AccessPointRepository.getByIdAsync s.db d = some row) :
    ∃ s', view s' d = { view s d with
        lockState := .unlocked, machine := some ((view s d).notified row durationMinutes) }
      ∧ (unlockDoorAsync d durationMinutes (.returned true)).exec s
        = (do
            callMachine d (onLockStateChanged .unlocked)
            return true : Operation Bool).exec s' := by
  cases AccessPointRepository.getByIdAsync_id hrow
  have hexec : (unlockDoorAsync row.id durationMinutes (.returned true)).exec s = (do
      setLockState row.id .unlocked
      getOrCreateStateMachine row
      callMachine row.id (setDuration durationMinutes)
      callMachine row.id (onLockStateChanged .unlocked)
      return true : Operation Bool).exec s := by
    unfold unlockDoorAsync
    rw [exec_bind, exec_query, hrow]
    rfl
  -- The calls before the last one do not throw.
  have hduration : ∀ m, completes (setDuration durationMinutes) m = true := fun _ => rfl
  rw [exec_bind_of_ok (exec_setLockState _), exec_bind_of_ok (exec_getOrCreateStateMachine _),
    exec_bind_of_ok (exec_callMachine_of_completes fun m _ => hduration m)] at hexec
  refine ⟨_, ?_, hexec⟩
  rw [view_callMachine, view_getOrCreateStateMachine, view_setLockState]
  rfl

/-- An unlock of the door is the step of the view, in all its outcomes: the door is not stored, the
lock refuses or throws, and the lock confirms. -/
theorem view_unlockDoorAsync (durationMinutes : Option (BitVec 32)) (answer : LockAnswer) :
    view ((unlockDoorAsync d durationMinutes answer).exec s).2 d
      = (view s d).step (AccessPointRepository.getByIdAsync s.db d)
          (.unlock d durationMinutes answer) := by
  rcases answer with (_ | _) | _
  · unfold unlockDoorAsync
    rw [exec_bind, exec_query]
    cases AccessPointRepository.getByIdAsync s.db d <;> rfl
  · cases hrow : AccessPointRepository.getByIdAsync s.db d with
    | none =>
      unfold unlockDoorAsync
      rw [exec_bind, exec_query, hrow]
      rfl
    | some row =>
      obtain ⟨s', hs', hexec⟩ := exec_unlockDoorAsync_confirmed durationMinutes hrow
      rw [hexec, exec_bind_pure_state, view_callMachine, hs']
      rfl
  · unfold unlockDoorAsync
    rw [exec_bind, exec_query]
    cases AccessPointRepository.getByIdAsync s.db d <;> rfl

/-- `UnlockDoorAsync` returns true when the lock confirms and the machine does not throw. -/
theorem unlockDoorAsync_returns_true_iff {durationMinutes : Option (BitVec 32)}
    {answer : LockAnswer} {row : AccessPoint}
    (hrow : AccessPointRepository.getByIdAsync s.db d = some row) :
    ((unlockDoorAsync d durationMinutes answer).exec s).1 = .ok true
      ↔ answer = .returned true
          ∧ completes (onLockStateChanged .unlocked)
            ((view s d).notified row durationMinutes) = true := by
  rcases answer with (_ | _) | _
  · unfold unlockDoorAsync
    rw [exec_bind, exec_query, hrow]
    exact iff_of_false nofun nofun
  · obtain ⟨s', hs', hexec⟩ := exec_unlockDoorAsync_confirmed durationMinutes hrow
    rw [hexec, exec_bind]
    cases hok : completes (onLockStateChanged .unlocked) ((view s d).notified row durationMinutes)
    · rw [exec_callMachine_of_throws (by rw [hs']) hok]
      exact iff_of_false nofun nofun
    · rw [exec_callMachine_of_completes fun m hm => by rw [hs'] at hm; cases hm; exact hok]
      exact iff_of_true rfl ⟨rfl, rfl⟩
  · unfold unlockDoorAsync
    rw [exec_bind, exec_query, hrow]
    exact iff_of_false nofun nofun

/-- A lock of the door is the step of the view, in all its outcomes. -/
theorem view_lockDoorAsync (answer : LockAnswer) :
    view ((lockDoorAsync d answer).exec s).2 d
      = (view s d).step (AccessPointRepository.getByIdAsync s.db d) (.lock d answer) := by
  unfold lockDoorAsync
  rw [exec_bind, exec_query]
  cases AccessPointRepository.getByIdAsync s.db d with
  | none => rcases answer with (_ | _) | _ <;> rfl
  | some row =>
    rcases answer with (_ | _) | _
    · rfl
    · show view ((do
        setLockState d .locked
        callMachine d (onLockStateChanged .locked)
        return true : Operation Bool).exec s).2 d = _
      rw [exec_bind_of_ok (exec_setLockState _), exec_bind_pure_state, view_callMachine,
        view_setLockState]
      rfl
    · rfl

/-- A reported lock state is a report in the view. -/
theorem view_updateLockState (state : LockState) :
    view ((updateLockState d (some state)).exec s).2 d = (view s d).reportLock state := by
  show view ((callMachine d (onLockStateChanged state)).exec ((setLockState d state).exec s).2).2 d
    = _
  rw [view_callMachine, view_setLockState]
  rfl

/-- A reported contact state is a report in the view. -/
theorem view_updateContactState (contactState : Option DoorContactState) :
    view ((updateContactState d contactState).exec s).2 d
      = contactState.elim (view s d) (view s d).reportContact := by
  cases contactState with
  | none => rfl
  | some state =>
    show view ((callMachine d (onDoorContactChanged state)).exec
      ((setContactState d state).exec s).2).2 d = _
    rw [view_callMachine, view_setContactState]
    rfl

/-- Both reports, in the order in which the service passes them on. -/
theorem view_updateDoorStates (lockState : Option LockState)
    (contactState : Option DoorContactState) :
    view ((updateDoorStates d lockState contactState).exec s).2 d
      = (view s d).reportStates lockState contactState := by
  unfold updateDoorStates
  cases lockState with
  | none =>
    show view ((updateContactState d contactState).exec s).2 d = _
    rw [view_updateContactState]
    simp [DoorView.reportStates]
  | some state =>
    by_cases hok : (view s d).machine.all (completes (onLockStateChanged state)) = true
    · -- The report of the lock does not throw, so the one of the contact follows.
      have hcall : (updateLockState d (some state)).exec s
          = (.ok (), ((updateLockState d (some state)).exec s).2) :=
        exec_callMachine_of_completes fun m hm => (Option.all_eq_true _ _).mp hok m hm
      rw [exec_bind_of_ok hcall, view_updateContactState, view_updateLockState]
      simp [DoorView.reportStates, hok]
    · obtain ⟨m, hm, hthrows⟩ : ∃ m, (view s d).machine = some m
          ∧ completes (onLockStateChanged state) m = false := by
        cases h : (view s d).machine with
        | none => simp [h] at hok
        | some m => exact ⟨m, rfl, by simpa [h] using hok⟩
      have hcall : (updateLockState d (some state)).exec s
          = (.error .argumentOutOfRange, ((updateLockState d (some state)).exec s).2) :=
        exec_callMachine_of_throws hm hthrows
      rw [exec_bind, hcall]
      show view ((updateLockState d (some state)).exec s).2 d = _
      rw [view_updateLockState]
      simp [DoorView.reportStates, hm, hthrows]

/-- `LockDoorAsync` returns true when the door is stored and the lock confirms. -/
theorem exec_lockDoorAsync_confirmed
    (hdoor : (AccessPointRepository.getByIdAsync s.db d).isSome = true) :
    (lockDoorAsync d (.returned true)).exec s
      = (.ok true, ((lockDoorAsync d (.returned true)).exec s).2) := by
  obtain ⟨row, hrow⟩ := Option.isSome_iff_exists.mp hdoor
  have hlocked : ∀ m, completes (onLockStateChanged .locked) m = true := by
    intro m
    simp [completes_onLockStateChanged]
  have hexec : (lockDoorAsync d (.returned true)).exec s = (do
      setLockState d .locked
      callMachine d (onLockStateChanged .locked)
      return true : Operation Bool).exec s := by
    unfold lockDoorAsync
    rw [exec_bind, exec_query, hrow]
    rfl
  rw [hexec, exec_bind_of_ok (exec_setLockState _),
    exec_bind_of_ok (exec_callMachine_of_completes fun m _ => hlocked m)]
  rfl

/-- Otherwise it returns false or throws, and leaves the service. -/
theorem exec_lockDoorAsync_failed {answer : LockAnswer}
    (h : ¬ (answer = .returned true ∧ (AccessPointRepository.getByIdAsync s.db d).isSome)) :
    (lockDoorAsync d answer).exec s = (.ok false, s)
      ∨ (lockDoorAsync d answer).exec s = (.error .lockProvider, s) := by
  unfold lockDoorAsync
  rw [exec_bind, exec_query]
  cases hdoor : AccessPointRepository.getByIdAsync s.db d with
  | none => exact Or.inl rfl
  | some row =>
    rcases answer with (_ | _) | _
    · exact Or.inl rfl
    · exact absurd ⟨rfl, by rw [hdoor]; rfl⟩ h
    · exact Or.inr rfl

/-- The end of an attempt of the machine, with the lock state that the service writes before it
answers the machine. -/
theorem view_endLockAttempt (answer : LockAnswer) :
    view ((endLockAttempt d answer).exec s).2 d
      = (view s d).endLockAttempt (AccessPointRepository.getByIdAsync s.db d) answer := by
  unfold endLockAttempt DoorView.endLockAttempt
  rw [exec_bind, exec_tryCatch]
  by_cases h : answer = .returned true ∧ (AccessPointRepository.getByIdAsync s.db d).isSome
  · rw [if_pos h]
    obtain ⟨rfl, hdoor⟩ := h
    obtain ⟨row, hrow⟩ := Option.isSome_iff_exists.mp hdoor
    have hview := @view_lockDoorAsync s d (.returned true)
    rw [hrow] at hview
    rw [exec_lockDoorAsync_confirmed hdoor]
    show view ((callMachine d _).exec ((lockDoorAsync d (.returned true)).exec s).2).2 d = _
    rw [view_callMachine, hview]
    rfl
  · rw [if_neg h]
    -- A false and an exception both end the attempt as a failure.
    rcases exec_lockDoorAsync_failed h with hexec | hexec <;> rw [hexec] <;>
      exact view_callMachine _

/-! ### One step -/

/-- An expiry at the door is a step of the machine. -/
theorem view_expired {e : AutoLockStateMachine.Event} :
    view (if s.allows d e then ((callMachine d (AutoLockStateMachine.handle e)).exec s).2 else s) d
      = { view s d with machine := (view s d).machine.map fun m => m.step e } := by
  cases hm : s.autoLockStateMachines d with
  | none => simp [allows, hm, view]
  | some m =>
    by_cases h : m.enabled e = true
    · have hallows : s.allows d e = true := by simp [allows, hm, h]
      rw [if_pos hallows, view_callMachine]
      simp [DoorView.call, view, hm, AutoLockStateMachine.step, h, after]
    · simp [allows, hm, h, view, AutoLockStateMachine.step]

/-- A step at the door moves the door's view. -/
theorem view_step_self (e : Event) :
    view (s.step e) e.doorId
      = (view s e.doorId).step (AccessPointRepository.getByIdAsync s.db e.doorId) e := by
  cases e with
  | unlock doorId durationMinutes answer => exact view_unlockDoorAsync durationMinutes answer
  | lock doorId answer => exact view_lockDoorAsync answer
  | updateDoorStates doorId lockState contactState =>
    exact view_updateDoorStates lockState contactState
  | countdownExpired doorId => exact view_expired
  | retryExpired doorId => exact view_expired
  | lockAttemptEnded doorId answer =>
    show view (if (view s doorId).machine.any fun m => 0 < m.attempts then
        ((endLockAttempt doorId answer).exec s).2 else s) doorId
      = if (view s doorId).machine.any fun m => 0 < m.attempts then
          (view s doorId).endLockAttempt (AccessPointRepository.getByIdAsync s.db doorId) answer
        else view s doorId
    split
    · exact view_endLockAttempt answer
    · rfl

/-! ### What a step leaves alone

A method reads the store and does not write it, and it writes the entries of one door. -/

/-- The store, and what the service knows of the doors other than `d`, are as in `s`. -/
structure SameElsewhere (d : String) (s s' : DoorOperationService) : Prop where
  db : s'.db = s.db
  view : ∀ d', d' ≠ d → view s' d' = view s d'

/-- A lock state is written at its own door. -/
theorem setLockState_elsewhere (s : DoorOperationService) (d : String) (state : LockState) :
    Preserves (SameElsewhere d s) (setLockState d state) := by
  refine .modify fun s' h => ⟨h.db, fun d' hd => ?_⟩
  rw [← h.view d' hd]
  simp [view, getDoorLockStateAsync, getDoorContactStateAsync, hd]

/-- A contact state is written at its own door. -/
theorem setContactState_elsewhere (s : DoorOperationService) (d : String)
    (state : DoorContactState) : Preserves (SameElsewhere d s) (setContactState d state) := by
  refine .modify fun s' h => ⟨h.db, fun d' hd => ?_⟩
  rw [← h.view d' hd]
  simp [view, getDoorLockStateAsync, getDoorContactStateAsync, hd]

/-- A machine is written at its own door. -/
theorem setMachine_elsewhere {s s' : DoorOperationService} {d : String}
    (h : SameElsewhere d s s') (m : AutoLockStateMachine) :
    SameElsewhere d s (s'.setMachine d m) := by
  refine ⟨h.db, fun d' hd => ?_⟩
  rw [← h.view d' hd]
  simp [view, setMachine, getDoorLockStateAsync, getDoorContactStateAsync, hd]

/-- A call reaches the machine of its own door. -/
theorem callMachine_elsewhere (s : DoorOperationService) (d : String)
    (method : AutoLockStateMachine.Method) :
    Preserves (SameElsewhere d s) (callMachine d method) := by
  intro s' h
  rw [exec_callMachine]
  cases s'.autoLockStateMachines d with
  | none => exact h
  | some m => exact setMachine_elsewhere h _

/-- A call of the provider leaves all machines and states. -/
theorem callProvider_elsewhere (s : DoorOperationService) (d : String) (answer : LockAnswer) :
    Preserves (SameElsewhere d s) (callProvider answer) := by
  cases answer with
  | returned success => exact .pure _ _
  | threw => exact .throw _ _

/-- An unlock leaves every other door. -/
theorem unlockDoorAsync_elsewhere (s : DoorOperationService) (d : String)
    (durationMinutes : Option (BitVec 32)) (answer : LockAnswer) :
    Preserves (SameElsewhere d s) (unlockDoorAsync d durationMinutes answer) := by
  intro s' h
  unfold unlockDoorAsync
  rw [exec_bind, exec_query]
  cases hdoor : AccessPointRepository.getByIdAsync s'.db d with
  | none => exact h
  | some row =>
    cases AccessPointRepository.getByIdAsync_id hdoor
    refine Preserves.bind (callProvider_elsewhere s row.id answer) (fun success => ?_) s' h
    refine .ite ?_ (.pure _ _)
    exact (setLockState_elsewhere s row.id _).bind fun _ =>
      .bind (.modify fun _ h => setMachine_elsewhere h _) fun _ =>
        (callMachine_elsewhere s row.id _).bind fun _ =>
          (callMachine_elsewhere s row.id _).bind fun _ => .pure _ _

/-- A lock leaves every other door. -/
theorem lockDoorAsync_elsewhere (s : DoorOperationService) (d : String) (answer : LockAnswer) :
    Preserves (SameElsewhere d s) (lockDoorAsync d answer) := by
  refine .bind (.query _ _) fun door => ?_
  cases door with
  | none => exact .pure _ _
  | some row =>
    refine (callProvider_elsewhere s d answer).bind fun success => .ite ?_ (.pure _ _)
    exact (setLockState_elsewhere s d _).bind fun _ =>
      (callMachine_elsewhere s d _).bind fun _ => .pure _ _

/-- A report leaves every other door. -/
theorem updateDoorStates_elsewhere (s : DoorOperationService) (d : String)
    (lockState : Option LockState) (contactState : Option DoorContactState) :
    Preserves (SameElsewhere d s) (updateDoorStates d lockState contactState) := by
  refine .bind ?_ fun _ => ?_
  · cases lockState with
    | none => exact .pure _ _
    | some state =>
      exact (setLockState_elsewhere s d state).bind fun _ => callMachine_elsewhere s d _
  · cases contactState with
    | none => exact .pure _ _
    | some state =>
      exact (setContactState_elsewhere s d state).bind fun _ => callMachine_elsewhere s d _

/-- The end of an attempt leaves every other door. -/
theorem endLockAttempt_elsewhere (s : DoorOperationService) (d : String) (answer : LockAnswer) :
    Preserves (SameElsewhere d s) (endLockAttempt d answer) := by
  refine .bind (.tryCatch (lockDoorAsync_elsewhere s d answer) fun _ => .pure _ _) fun _ => ?_
  exact callMachine_elsewhere s d _

/-- A step writes nothing but what the service knows of the event's door. -/
theorem step_elsewhere (s : DoorOperationService) (e : Event) :
    SameElsewhere e.doorId s (s.step e) := by
  have hs : SameElsewhere e.doorId s s := ⟨rfl, fun _ _ => rfl⟩
  cases e with
  | unlock doorId durationMinutes answer =>
    exact unlockDoorAsync_elsewhere s doorId durationMinutes answer s hs
  | lock doorId answer => exact lockDoorAsync_elsewhere s doorId answer s hs
  | updateDoorStates doorId lockState contactState =>
    exact updateDoorStates_elsewhere s doorId lockState contactState s hs
  | countdownExpired doorId | retryExpired doorId =>
    simp only [DoorOperationService.step]
    split
    · exact callMachine_elsewhere s doorId _ s hs
    · exact hs
  | lockAttemptEnded doorId answer =>
    simp only [DoorOperationService.step]
    split
    · exact endLockAttempt_elsewhere s doorId answer s hs
    · exact hs

/-- The service is one `DoorView` system for each door. -/
theorem view_step (s : DoorOperationService) (e : Event) (d : String) :
    view (s.step e) d
      = if e.doorId = d then
          (view s d).step (AccessPointRepository.getByIdAsync s.db d) e
        else view s d := by
  split
  · rename_i h
    subst h
    exact view_step_self e
  · rename_i h
    exact (step_elsewhere s e).view d (Ne.symm h)

end CodeMaster.Proofs.Engine.DoorOperations
