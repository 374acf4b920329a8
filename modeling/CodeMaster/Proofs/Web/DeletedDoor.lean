import CodeMaster.Proofs.Engine.DoorStates
import CodeMaster.Proofs.Engine.NoStall
import CodeMaster.Web.AccessPointsController

/-!
# `CodeMaster.Proofs.Web.DeletedDoor`: is a deleted door left alone?

`Delete` removes the row of a door, and the door's machine stays in the service with its timers.
An attempt on the missing door fails, and a failure arms a retry, so the attempts go on. A report
about the deleted door reaches its machine, too.

`ArmsNothing` is the condition on a step that no timer of the machine is created. `armsNothing_iff`
shows that it is exact, and `deleted_left_alone` that after a deletion the steps that meet it start
no more attempts than there were timers.

The run after the deletion has reports, commands, timers and answers for all doors, and requests
that write doors. The door is not created again under its id. `stepAbsent` is what an event does to
the machine of a door whose row is gone: the service looks the row up for a command and finds
nothing, but it passes reports and timers on to the machine.

The measure is the number of timers that are armed. A timer that expires takes one away and starts
one attempt, and a step that arms nothing adds none.
-/

set_option autoImplicit false

namespace CodeMaster.Proofs.Web.DeletedDoor

open CodeMaster.Core Data CodeMaster.Engine CodeMaster.Web DoorOperationService Exec Transition
open Relational Engine.AutoLockMethods Engine.NoStall Engine.DoorOperations Engine.DoorStates
open Engine.AutoLock (armsRetry)
open AutoLockStateMachine (onLockStateChanged onDoorContactChanged supportsDelay)

/-! ### Timers of a door -/

/-- The machine with no timer armed. -/
def disarmed (m : AutoLockStateMachine) : AutoLockStateMachine :=
  { m with countdownTimer := none, retryTimer := none }

/-- The service with no timer of the door armed. No method reads a timer, so the timers that a step
leaves from here are those that it arms. -/
def withoutTimers (s : DoorOperationService) (d : String) : DoorOperationService :=
  { s with
    autoLockStateMachines :=
      Function.update s.autoLockStateMachines d ((s.autoLockStateMachines d).map disarmed) }

/-- The number of armed timers. -/
def timers (m : AutoLockStateMachine) : Nat :=
  m.countdownTimer.toList.length + m.retryTimer.toList.length

/-- The number of armed timers of the door. -/
def armedTimers (d : String) (s : DoorOperationService) : Nat :=
  (s.autoLockStateMachines d).elim 0 timers

/-! ### The condition -/

/-- The event arms no timer in the machine of a door that is not stored. A failed attempt must not
be repeated, nor a jam. A report must not leave the door unlocked and closed, unless the delay of
the countdown is not supported. -/
def ArmsNothing (m : AutoLockStateMachine) : Event → Prop
  | .lockAttemptEnded _ _ => 0 < m.attempts → armsRetry m = false
  | .updateDoorStates _ lockState contactState =>
    m.isEnabled = true →
      (lockState = some .jammed → armsRetry m = false)
        ∧ (lockState.isSome = true ∨ contactState.isSome = true →
          lockState.getD m.lockState = .unlocked →
            contactState.getD m.doorContactState = .closed → supportsDelay m.lockDelay = false)
  | _ => True

/-! ### The machine of a door that is not stored -/

/-- The reports of `UpdateDoorStates`. When the one of the lock throws, the one of the contact is
skipped. -/
def afterReports (lockState : Option LockState) (contactState : Option DoorContactState)
    (m : AutoLockStateMachine) : AutoLockStateMachine :=
  let m' := lockState.elim m fun state => after (onLockStateChanged state) m
  if lockState.all fun state => completes (onLockStateChanged state) m then
    contactState.elim m' fun state => after (onDoorContactChanged state) m'
  else m'

/-- What an event does to the machine. The commands do not reach it, and every attempt fails. -/
def stepAbsent (m : AutoLockStateMachine) : Event → AutoLockStateMachine
  | .unlock _ _ _ | .lock _ _ => m
  | .updateDoorStates _ lockState contactState => afterReports lockState contactState m
  | .countdownExpired _ => m.step .countdownExpired
  | .retryExpired _ => m.step .retryExpired
  | .lockAttemptEnded _ _ => m.step (.lockAttemptEnded false)

/-- Both reports reach the machine of the door, if there is one. -/
theorem machine_reportStates (v : DoorView) (lockState : Option LockState)
    (contactState : Option DoorContactState) :
    (v.reportStates lockState contactState).machine
      = v.machine.map (afterReports lockState contactState) := by
  obtain ⟨lock, contact, machine⟩ := v
  cases machine with
  | none =>
    unfold DoorView.reportStates
    cases lockState <;> cases contactState <;> rfl
  | some m =>
    simp only [DoorView.reportStates, afterReports, Option.all_some, Option.map_some]
    split
    · cases lockState <;> cases contactState <;> rfl
    · cases lockState <;> rfl

/-- With the row of the door gone, a step of the view is a step of its machine. -/
theorem machine_step (v : DoorView) (e : Event) :
    (v.step none e).machine = v.machine.map fun m => stepAbsent m e := by
  cases e with
  | unlock doorId durationMinutes answer =>
    rcases answer with (_ | _) | _ <;> exact Option.map_id'.symm
  | lock doorId answer => rcases answer with (_ | _) | _ <;> exact Option.map_id'.symm
  | updateDoorStates doorId lockState contactState =>
    exact machine_reportStates v lockState contactState
  | countdownExpired doorId | retryExpired doorId => rfl
  | lockAttemptEnded doorId answer =>
    obtain ⟨lock, contact, machine⟩ := v
    cases machine with
    | none => rfl
    | some m =>
      have hfail : DoorView.endLockAttempt ⟨lock, contact, some m⟩ none answer
          = DoorView.call ⟨lock, contact, some m⟩ (AutoLockStateMachine.endLockAttempt false) :=
        if_neg (by simp)
      simp only [DoorView.step, Option.any_some, hfail, stepAbsent, Option.map_some]
      by_cases hattempts : 0 < m.attempts
      · have henabled : m.enabled (.lockAttemptEnded false) = true := by
          simpa [AutoLockStateMachine.enabled] using hattempts
        rw [if_pos (decide_eq_true hattempts), step_of_enabled henabled]
        rfl
      · rw [if_neg (by simpa using hattempts), AutoLockStateMachine.step,
          if_neg (by simpa [AutoLockStateMachine.enabled] using hattempts)]

/-! ### Timers that a step arms -/

/-- Each timer of the second machine is one of the first. -/
structure Within (m m' : AutoLockStateMachine) : Prop where
  countdown : m'.countdownTimer = none ∨ m'.countdownTimer = m.countdownTimer
  retry : m'.retryTimer = none ∨ m'.retryTimer = m.retryTimer

section
variable {m m' : AutoLockStateMachine}

/-- A machine that is within another one has at most its timers. -/
theorem Within.timers_le (h : Within m m') : timers m' ≤ timers m := by
  unfold timers
  rcases h.countdown with hc | hc <;> rcases h.retry with hr | hr <;> rw [hc, hr] <;> simp

/-- What a report of the contact does to the two timers. -/
theorem timers_contact (hen : m.isEnabled = true) (newState : DoorContactState) :
    (after (onDoorContactChanged newState) m).retryTimer = m.retryTimer
      ∧ (after (onDoorContactChanged newState) m).countdownTimer
        = if m.lockState = .unlocked then
            if newState = .closed then armed m.lockDelay else none
          else m.countdownTimer := by
  rw [after_onDoorContactChanged, if_pos hen]
  split
  · cases newState <;> exact ⟨rfl, rfl⟩
  · exact ⟨rfl, rfl⟩

/-- What a report of the lock does to the two timers. -/
theorem timers_lock (hen : m.isEnabled = true) (newState : LockState) :
    (after (onLockStateChanged newState) m).retryTimer
        = (match newState with
          | .jammed => if m.retryOnFailure then armed m.retryDelaySeconds else none
          | .locked | .unlocked => none
          | .unknown => m.retryTimer)
      ∧ (after (onLockStateChanged newState) m).countdownTimer
        = match newState with
          | .unlocked => if m.doorContactState = .closed then armed m.lockDelay else none
          | .locked | .jammed => none
          | .unknown => m.countdownTimer := by
  rw [after_onLockStateChanged, if_pos hen]
  cases newState with
  | locked | unknown => exact ⟨rfl, rfl⟩
  | unlocked => cases hdoor : m.doorContactState <;> simp
  | jammed => cases m.retryOnFailure <;> exact ⟨rfl, rfl⟩

/-- A report of the lock leaves the settings. -/
theorem settings_lock (newState : LockState) :
    (after (onLockStateChanged newState) m).isEnabled = m.isEnabled
      ∧ (after (onLockStateChanged newState) m).lockDelay = m.lockDelay := by
  have hsettings := settings_onLockStateChanged m newState
  refine ⟨congrArg AutoLockStateMachine.Settings.isEnabled hsettings, ?_⟩
  exact congrArg (fun c : AutoLockStateMachine.Settings =>
    if c.isNight then c.nightSeconds else c.daySeconds) hsettings

/-- The retry after both reports. -/
theorem retryTimer_afterReports (hen : m.isEnabled = true) (lockState : Option LockState)
    (contactState : Option DoorContactState) :
    (afterReports lockState contactState m).retryTimer = match lockState with
      | some .jammed => if m.retryOnFailure then armed m.retryDelaySeconds else none
      | some .locked | some .unlocked => none
      | _ => m.retryTimer := by
  have hcontact : ∀ m' : AutoLockStateMachine, m'.isEnabled = true →
      (contactState.elim m' fun state => after (onDoorContactChanged state) m').retryTimer
        = m'.retryTimer := by
    intro m' hen'
    cases contactState with
    | none => rfl
    | some state => exact (timers_contact hen' state).1
  unfold afterReports
  cases lockState with
  | none => exact hcontact m hen
  | some state =>
    have hlock := (timers_lock hen state).1
    dsimp only [Option.elim_some, Option.all_some]
    split
    · rw [hcontact _ ((settings_lock state).1.trans hen), hlock]
      cases state <;> rfl
    · rw [hlock]
      cases state <;> rfl

/-- The countdown after both reports. -/
theorem countdownTimer_afterReports (hen : m.isEnabled = true) (lockState : Option LockState)
    (contactState : Option DoorContactState) :
    (afterReports lockState contactState m).countdownTimer =
      if (lockState.isSome = true ∨ contactState.isSome = true)
          ∧ lockState.getD m.lockState = .unlocked then
        if contactState.getD m.doorContactState = .closed then armed m.lockDelay else none
      else match lockState with
        | some .locked | some .jammed => none
        | _ => m.countdownTimer := by
  unfold afterReports
  cases lockState with
  | none =>
    cases contactState with
    | none => simp
    | some contact =>
      refine (timers_contact hen contact).2.trans ?_
      simp
  | some state =>
    obtain ⟨hen', hdelay⟩ := @settings_lock m state
    have hlock := (timers_lock hen state).2
    have hcontact := timers_contact (hen'.trans hen)
    rw [onLockStateChanged_lockState] at hcontact
    dsimp only [Option.elim_some, Option.all_some]
    cases contactState with
    | none => cases state <;> simp [hlock]
    | some contact =>
      split
      · refine (hcontact contact).2.trans ?_
        rw [hdelay, hlock]
        cases state <;> simp
      · -- The report of the lock has thrown, so the delay of the timer is not supported.
        rename_i hcompletes
        refine hlock.trans ?_
        rw [completes_onLockStateChanged] at hcompletes
        cases state with
        | unlocked =>
          have hthrown : m.doorContactState = .closed ∧ supportsDelay m.lockDelay = false := by
            simpa [hen] using hcompletes
          simp [hthrown, armed]
        | _ => simp

/-- A machine that is off arms nothing. -/
theorem timers_afterReports_of_off (hoff : m.isEnabled = false) (lockState : Option LockState)
    (contactState : Option DoorContactState) :
    Within m (afterReports lockState contactState m) := by
  have hlock : ∀ state, after (onLockStateChanged state) m
      = disabledBy m state m.doorContactState := fun state => by
    rw [after_onLockStateChanged, if_neg (by simp [hoff])]
  have hcontact : ∀ m' : AutoLockStateMachine, m'.isEnabled = false → Within m m' →
      Within m (contactState.elim m' fun state => after (onDoorContactChanged state) m') := by
    intro m' hoff' hm'
    cases contactState with
    | none => exact hm'
    | some state =>
      show Within m (after (onDoorContactChanged state) m')
      rw [after_onDoorContactChanged, if_neg (by simp [hoff'])]
      exact ⟨Or.inl rfl, Or.inl rfl⟩
  unfold afterReports
  cases lockState with
  | none => exact hcontact m hoff ⟨Or.inr rfl, Or.inr rfl⟩
  | some state =>
    have hwithin : Within m (after (onLockStateChanged state) m) := by
      rw [hlock]
      exact ⟨Or.inl rfl, Or.inl rfl⟩
    dsimp only [Option.elim_some, Option.all_some]
    split
    · exact hcontact _ ((settings_lock state).1.trans hoff) hwithin
    · exact hwithin

/-- Reports that arm nothing leave a machine within the one of before. -/
theorem within_afterReports {d : String} {lockState : Option LockState}
    {contactState : Option DoorContactState}
    (h : ArmsNothing m (.updateDoorStates d lockState contactState)) :
    Within m (afterReports lockState contactState m) := by
  cases hen : m.isEnabled with
  | false => exact timers_afterReports_of_off hen lockState contactState
  | true =>
    obtain ⟨hjam, hunlocked⟩ := h hen
    constructor
    · rw [countdownTimer_afterReports hen]
      split
      · rename_i hreported
        left
        split
        · rename_i hclosed
          rw [armed, if_neg (by simp [hunlocked hreported.1 hreported.2 hclosed])]
        · rfl
      · rcases lockState with _ | _ | _ | _ | _ <;> simp
    · rw [retryTimer_afterReports hen]
      rcases lockState with _ | _ | _ | _ | _ <;> simp
      have hnot := hjam rfl
      left
      intro hretry
      simpa [armsRetry, armed, hretry] using hnot

/-- Reports after which no timer is armed have armed nothing. -/
theorem armsNothing_of_afterReports {d : String} {lockState : Option LockState}
    {contactState : Option DoorContactState}
    (h : timers (afterReports lockState contactState m) = 0) :
    ArmsNothing m (.updateDoorStates d lockState contactState) := by
  intro hen
  obtain ⟨hcountdown, hretry⟩ : (afterReports lockState contactState m).countdownTimer = none
      ∧ (afterReports lockState contactState m).retryTimer = none := by simpa [timers] using h
  rw [countdownTimer_afterReports hen] at hcountdown
  rw [retryTimer_afterReports hen] at hretry
  constructor
  · rintro rfl
    dsimp only at hretry
    grind [armsRetry, armed]
  · intro hreported hlock hclosed
    rw [if_pos ⟨hreported, hlock⟩, if_pos hclosed] at hcountdown
    simpa [armed] using hcountdown

/-- A failed attempt arms the retry, if the machine retries and the delay is accepted. -/
theorem step_failed (m : AutoLockStateMachine) :
    (m.step (.lockAttemptEnded false)).countdownTimer
        = (if 0 < m.attempts ∧ m.retryOnFailure = false then none else m.countdownTimer)
      ∧ (m.step (.lockAttemptEnded false)).retryTimer
        = if 0 < m.attempts then if m.retryOnFailure then armed m.retryDelaySeconds else none
          else m.retryTimer := by
  by_cases hattempts : 0 < m.attempts
  · have hstep : m.step (.lockAttemptEnded false)
        = after (AutoLockStateMachine.endLockAttempt false) m :=
      step_of_enabled (by simpa [AutoLockStateMachine.enabled] using hattempts)
    rw [hstep, after_endLockAttempt]
    cases hretry : m.retryOnFailure <;> simp [hattempts]
  · have hstep : m.step (.lockAttemptEnded false) = m :=
      if_neg (by simpa [AutoLockStateMachine.enabled] using hattempts)
    simp [hstep, hattempts]

/-- An event meets the condition if and only if the timers that it leaves are none that it has
armed. -/
theorem armsNothing_iff (e : Event) : ArmsNothing m e ↔ timers (stepAbsent (disarmed m) e) = 0 := by
  cases e with
  | unlock | lock => exact iff_of_true trivial rfl
  | countdownExpired | retryExpired => exact iff_of_true trivial rfl
  | updateDoorStates doorId lockState contactState =>
    show ArmsNothing (disarmed m) (.updateDoorStates doorId lockState contactState) ↔ _
    exact ⟨fun h => Nat.le_zero.mp (within_afterReports h).timers_le, armsNothing_of_afterReports⟩
  | lockAttemptEnded doorId answer =>
    obtain ⟨hcountdown, hretry⟩ := step_failed (disarmed m)
    show (0 < m.attempts → armsRetry m = false)
      ↔ timers ((disarmed m).step (.lockAttemptEnded false)) = 0
    unfold timers
    rw [hcountdown, hretry]
    simp only [disarmed, armsRetry, armed]
    grind

/-- The event is the expiry of an armed timer. -/
def expires (m : AutoLockStateMachine) : Event → Bool
  | .countdownExpired _ => m.countdownTimer.isSome
  | .retryExpired _ => m.retryTimer.isSome
  | _ => false

/-- A start uses up a timer, and the other steps add none. -/
theorem timers_stepAbsent (e : Event) (h : ArmsNothing m e) :
    timers (stepAbsent m e) + (if expires m e then 1 else 0) ≤ timers m := by
  cases e with
  | unlock | lock => exact Nat.le_refl _
  | updateDoorStates doorId lockState contactState => exact (within_afterReports h).timers_le
  | countdownExpired =>
    show timers (m.step .countdownExpired) + (if m.countdownTimer.isSome then 1 else 0) ≤ timers m
    -- Only an armed timer expires, and its expiry starts the attempt that is counted here.
    cases htimer : m.countdownTimer with
    | none =>
      have hstep : m.step .countdownExpired = m :=
        if_neg (by simp [AutoLockStateMachine.enabled, htimer])
      simp [hstep]
    | some delay =>
      have hstep : m.step .countdownExpired
          = { m with countdownTimer := none, attempts := m.attempts + 1 } :=
        step_of_enabled (by simp [AutoLockStateMachine.enabled, htimer])
      rw [hstep]
      simp only [timers, htimer, Option.toList, List.length_nil, List.length_singleton,
        Option.isSome_some, if_true]
      omega
  | retryExpired =>
    show timers (m.step .retryExpired) + (if m.retryTimer.isSome then 1 else 0) ≤ timers m
    cases htimer : m.retryTimer with
    | none =>
      have hstep : m.step .retryExpired = m :=
        if_neg (by simp [AutoLockStateMachine.enabled, htimer])
      simp [hstep]
    | some delay =>
      have hstep : m.step .retryExpired
          = { m with retryTimer := none, attempts := m.attempts + 1 } :=
        step_of_enabled (by simp [AutoLockStateMachine.enabled, htimer])
      rw [hstep]
      simp only [timers, htimer, Option.toList, List.length_nil, List.length_singleton,
        Option.isSome_some, if_true]
      omega
  | lockAttemptEnded doorId answer =>
    obtain ⟨hcountdown, hretry⟩ := step_failed m
    have hwithin : Within m (stepAbsent m (.lockAttemptEnded doorId answer)) := by
      constructor
      · refine hcountdown ▸ ?_
        grind
      -- The condition on the step is what keeps a failed attempt from arming the retry timer.
      · refine hretry ▸ ?_
        have hfail : 0 < m.attempts → armsRetry m = false := h
        grind [armsRetry, armed]
    exact hwithin.timers_le

end

/-! ### Runs -/

/-- The service after a `Delete` of the door. -/
def afterDelete (d : String) (s : DoorOperationService) : DoorOperationService :=
  { s with db := ((AccessPointsController.delete d).exec s.db).2 }

/-- The step is the expiry of an armed timer of the door, so it starts a lock attempt. -/
def startsAttemptFor (d : String) (s : DoorOperationService) : AccessPointsController.Event → Bool
  | .operation (.countdownExpired d') => d' = d && s.allows d .countdownExpired
  | .operation (.retryExpired d') => d' = d && s.allows d .retryExpired
  | _ => false

/-- The step arms no timer of the deleted door: it is a request, or about another door, or the
door's machine meets `ArmsNothing`. -/
def LeavesAlone (d : String) (s : DoorOperationService) : AccessPointsController.Event → Prop
  | .operation e =>
    e.doorId = d → ∀ m, s.autoLockStateMachines d = some m → ArmsNothing m e
  | _ => True

/-- What a step does to the machine of the deleted door. -/
def stepAt (d : String) (m : AutoLockStateMachine) :
    AccessPointsController.Event → AutoLockStateMachine
  | .operation e => if e.doorId = d then stepAbsent m e else m
  | _ => m

/-! ### The store after the deletion -/

/-- The row of a deleted door is gone. -/
theorem getByIdAsync_afterDelete (s : DoorOperationService) (d : String) :
    AccessPointRepository.getByIdAsync (afterDelete d s).db d = none := by
  unfold afterDelete AccessPointsController.delete
  rw [exec_bind, exec_query]
  cases hrow : AccessPointRepository.getByIdAsync s.db d with
  | none => exact hrow
  | some door => exact AccessPointRepository.getByIdAsync_deleteAsync d s.db

/-- The insert of another door leaves the deleted door gone. -/
theorem getByIdAsync_insertAsync {d : String} {db db' : Db} {door : AccessPoint}
    (hrow : AccessPointRepository.getByIdAsync db d = none) (hid : door.id ≠ d)
    (h : AccessPointRepository.insertAsync door db = .ok db') :
    AccessPointRepository.getByIdAsync db' d = none := by
  unfold AccessPointRepository.insertAsync at h
  cases hinsert : db.accessPoints.insert? (AccessPointRepository.toRow door) with
  | none =>
    rw [hinsert] at h
    cases h
  | some accessPoints =>
    rw [hinsert] at h
    cases h
    refine Table.find?_eq_none_iff.mpr fun hmem => ?_
    obtain ⟨x, hx, hxid⟩ := Table.mem_keys.mp hmem
    rcases (Table.mem_insert? hinsert).mp hx with hold | rfl
    · exact Table.find?_eq_none_iff.mp hrow (Table.mem_keys.mpr ⟨x, hold, hxid⟩)
    · exact hid hxid

/-- An update writes stored rows only, and leaves the deleted door gone. -/
theorem getByIdAsync_updateAsync {d : String} {db : Db}
    (hrow : AccessPointRepository.getByIdAsync db d = none) (door : AccessPoint) :
    AccessPointRepository.getByIdAsync (AccessPointRepository.updateAsync door db) d = none := by
  refine Table.find?_eq_none_iff.mpr ?_
  unfold AccessPointRepository.updateAsync
  rw [Table.keys_update]
  exact Table.find?_eq_none_iff.mp hrow

/-! ### Requests and operations after the deletion -/

section
variable [Host]

/-- The step arms a timer of the door. -/
def armsTimer (d : String) (s : DoorOperationService) (e : AccessPointsController.Event) : Bool :=
  armedTimers d (AccessPointsController.step (withoutTimers s d) e) ≠ 0

/-- The step arms a retry of the door. -/
def armsRetryOf (d : String) (s : DoorOperationService) (e : AccessPointsController.Event) :
    Bool :=
  ((AccessPointsController.step (withoutTimers s d) e).autoLockStateMachines d).any
    fun m => m.retryTimer.isSome

/-- No more attempts are started for the door than it has timers armed, and no step arms a
retry. -/
structure LeftAlone (d : String) (s : DoorOperationService)
    (es : List AccessPointsController.Event) : Prop where
  attempts : countSteps AccessPointsController.step (startsAttemptFor d) s es ≤ armedTimers d s
  retries : ∀ pre e, pre ++ [e] <+: es →
    armsRetryOf d (pre.foldl AccessPointsController.step s) e = false

/-- The step does not create the door. -/
def NotCreated (d : String) (s : DoorOperationService) : AccessPointsController.Event → Prop
  | .create door utcNow =>
    ∀ created, ((AccessPointsController.create door utcNow).exec s.db).1 = .ok (.created created) →
      created.id ≠ d
  | _ => True

section
variable {s : DoorOperationService} {d : String}

/-- One event at the machine of a deleted door: the service looks the door up, and finds nothing. -/
theorem machine_step_at (hrow : AccessPointRepository.getByIdAsync s.db d = none)
    (e : AccessPointsController.Event) :
    (AccessPointsController.step s e).autoLockStateMachines d
      = (s.autoLockStateMachines d).map fun m => stepAt d m e := by
  cases e with
  | create door utcNow | update id door utcNow => exact Option.map_id'.symm
  | operation e =>
    have hview := congrArg DoorView.machine (view_step s e d)
    rw [hrow] at hview
    refine hview.trans ?_
    by_cases hd : e.doorId = d
    · simp only [stepAt, if_pos hd]
      exact machine_step (view s d) e
    · simp only [stepAt, if_neg hd]
      exact Option.map_id'.symm

/-- A step arms no timer of the deleted door if and only if it meets `LeavesAlone`. -/
theorem armsTimer_iff (hrow : AccessPointRepository.getByIdAsync s.db d = none)
    (e : AccessPointsController.Event) : armsTimer d s e = false ↔ LeavesAlone d s e := by
  have hmachine : (AccessPointsController.step (withoutTimers s d) e).autoLockStateMachines d
      = ((s.autoLockStateMachines d).map disarmed).map fun m => stepAt d m e := by
    rw [@machine_step_at _ (withoutTimers s d) d hrow e]
    simp [withoutTimers]
  unfold armsTimer armedTimers
  rw [hmachine, decide_eq_false_iff_not, not_not]
  cases hm : s.autoLockStateMachines d with
  | none =>
    refine iff_of_true rfl ?_
    cases e with
    | operation e => exact fun _ m hsome => by rw [hm] at hsome; cases hsome
    | _ => trivial
  | some m =>
    cases e with
    | create door utcNow | update id door utcNow => exact iff_of_true rfl trivial
    | operation e =>
      -- The machine is still there: only an event for its own door can arm a timer.
      show timers (if e.doorId = d then stepAbsent (disarmed m) e else disarmed m) = 0 ↔ _
      by_cases hd : e.doorId = d
      · rw [if_pos hd, ← armsNothing_iff]
        refine ⟨fun h _ m' hm' => ?_, fun h => h hd m hm⟩
        rw [hm] at hm'
        cases hm'
        exact h
      · rw [if_neg hd]
        exact iff_of_true rfl fun h => absurd h hd

/-- An event that arms no timer arms no retry. -/
theorem armsRetryOf_of_armsTimer {e : AccessPointsController.Event}
    (h : armsTimer d s e = false) : armsRetryOf d s e = false := by
  unfold armsRetryOf
  unfold armsTimer armedTimers at h
  cases hm : (AccessPointsController.step (withoutTimers s d) e).autoLockStateMachines d with
  | none => rfl
  | some m =>
    have hzero : timers m = 0 := by simpa [hm] using h
    have hretry : m.retryTimer = none := by
      unfold timers at hzero
      simpa using (Nat.eq_zero_of_add_eq_zero hzero).2
    simp [hretry]

/-- A start uses up an armed timer. -/
theorem armedTimers_step (hrow : AccessPointRepository.getByIdAsync s.db d = none)
    (e : AccessPointsController.Event) (h : LeavesAlone d s e) :
    armedTimers d (AccessPointsController.step s e) + (if startsAttemptFor d s e then 1 else 0)
      ≤ armedTimers d s := by
  unfold armedTimers
  rw [machine_step_at hrow]
  cases hm : s.autoLockStateMachines d with
  | none =>
    have hnot : startsAttemptFor d s e = false := by
      unfold startsAttemptFor
      split <;> simp [allows, hm]
    simp [hnot]
  | some m =>
    cases e with
    | create door utcNow | update id door utcNow => exact Nat.le_refl _
    | operation e =>
      by_cases hd : e.doorId = d
      · have hle := timers_stepAbsent e (h hd m hm)
        have hstarts : startsAttemptFor d s (.operation e) = expires m e := by
          cases e <;>
            simp_all [startsAttemptFor, expires, allows, AutoLockStateMachine.enabled, Event.doorId]
        simpa [stepAt, hd, hstarts] using hle
      · have hnot : startsAttemptFor d s (.operation e) = false := by
          cases e <;> simp_all [startsAttemptFor, Event.doorId]
        simp [stepAt, hd, hnot]

/-- `create` stores no row but the one that it returns. -/
theorem exec_create (db : Db) (door : AccessPoint) (utcNow : DateTime) :
    ((AccessPointsController.create door utcNow).exec db).2 = db
      ∨ ∃ created, AccessPointRepository.insertAsync created db
          = .ok ((AccessPointsController.create door utcNow).exec db).2
        ∧ ((AccessPointsController.create door utcNow).exec db).1 = .ok (.created created) := by
  unfold AccessPointsController.create
  rw [exec_ite]
  split
  · exact Or.inl rfl
  · rw [exec_bind_of_ok (exec_query _ _)]
    dsimp only
    generalize { door with
      id := if isNullOrWhiteSpace (some door.id) then db.newGuid else door.id
      createdAt := utcNow, updatedAt := utcNow } = created
    cases hinsert : AccessPointRepository.insertAsync created db with
    | error e =>
      left
      rw [exec_bind, exec_statement_of_error hinsert]
    | ok db' =>
      right
      rw [exec_bind_of_ok (exec_statement_of_ok hinsert)]
      exact ⟨created, hinsert, rfl⟩

/-- An event that does not create the door leaves it gone. -/
theorem getByIdAsync_step (hrow : AccessPointRepository.getByIdAsync s.db d = none)
    (e : AccessPointsController.Event) (h : NotCreated d s e) :
    AccessPointRepository.getByIdAsync (AccessPointsController.step s e).db d = none := by
  cases e with
  | create door utcNow =>
    rcases exec_create s.db door utcNow with hdb | ⟨created, hinsert, hcreated⟩
    · exact (congrArg (AccessPointRepository.getByIdAsync · d) hdb).trans hrow
    · exact getByIdAsync_insertAsync hrow (h created hcreated) hinsert
  | update id door utcNow =>
    show AccessPointRepository.getByIdAsync
      ((AccessPointsController.update id door utcNow).exec s.db).2 d = none
    unfold AccessPointsController.update
    rw [exec_bind_of_ok (exec_query _ _)]
    cases AccessPointRepository.getByIdAsync s.db id with
    | none => exact hrow
    | some existing => exact getByIdAsync_updateAsync hrow _
  | operation e =>
    show AccessPointRepository.getByIdAsync (s.step e).db d = none
    rw [(step_elsewhere s e).db]
    exact hrow

end

/-- After any run and a deletion of the door, if the door is not created again and every further
step arms no timer of it, then it is left alone. -/
theorem deleted_left_alone (db : Db) (es : List AccessPointsController.Event) (d : String)
    (later : List AccessPointsController.Event)
    (hgone : StepsMeet AccessPointsController.step (NotCreated d)
      (afterDelete d (es.foldl AccessPointsController.step (start db))) later)
    (hleaves : StepsMeet AccessPointsController.step (LeavesAlone d)
      (afterDelete d (es.foldl AccessPointsController.step (start db))) later) :
    LeftAlone d (afterDelete d (es.foldl AccessPointsController.step (start db)))
      later := by
  have hrow := getByIdAsync_afterDelete
    (es.foldl AccessPointsController.step (start db)) d
  generalize afterDelete d (es.foldl AccessPointsController.step (start db)) = s at *
  have hmeet : StepsMeet AccessPointsController.step
      (fun s e => NotCreated d s e ∧ LeavesAlone d s e) s later := by
    rw [stepsMeet_iff_forall] at hgone hleaves ⊢
    exact fun pre e hpre => ⟨hgone pre e hpre, hleaves pre e hpre⟩
  -- The row stays away, which is the invariant of both parts.
  have hkeep : ∀ s e, AccessPointRepository.getByIdAsync s.db d = none →
      NotCreated d s e ∧ LeavesAlone d s e →
        AccessPointRepository.getByIdAsync (AccessPointsController.step s e).db d = none :=
    fun s e hrow h => getByIdAsync_step hrow e h.1
  constructor
  · exact countSteps_le_of_stepsMeet hkeep (armedTimers d) (startsAttemptFor d)
      (fun s e hrow h => armedTimers_step hrow e h.2) later s hrow hmeet
  · intro pre e hpre
    obtain ⟨post, rfl⟩ := hpre
    have hlast := (stepsMeet_append s pre [e]).mp hmeet.of_prefix
    have hrow' := invariant_of_stepsMeet _ hkeep pre s hrow hlast.1
    exact armsRetryOf_of_armsTimer ((armsTimer_iff hrow' e).mpr hlast.2.1.2)

end

section
/-- The host of the samples. -/
local instance : Host := Host.sample

/-- The door is unlocked and deleted, and its countdown expires. -/
theorem deleted_left_alone_hall :
    LeftAlone "hall" (afterDelete "hall" ([AccessPointsController.Event.operation
        (.unlock "hall" none (.returned true))].foldl AccessPointsController.step (start hall)))
      [.operation (.countdownExpired "hall")] :=
  deleted_left_alone hall _ "hall" _ ⟨trivial, trivial⟩ ⟨fun _ _ _ => trivial, trivial⟩

/-- The attempt on the deleted door fails, although the lock would confirm, and a retry is armed. -/
theorem failed_attempt_arms_retry :
    ¬ ∀ (db : Db) (es : List AccessPointsController.Event) (d : String)
        (later : List AccessPointsController.Event),
      ((AccessPointsController.delete d).exec
          (es.foldl AccessPointsController.step (start db)).db).1 = .ok .noContent →
        StepsMeet AccessPointsController.step (NotCreated d)
            (afterDelete d (es.foldl AccessPointsController.step (start db))) later →
          LeftAlone d (afterDelete d (es.foldl AccessPointsController.step (start db))) later := by
  intro h
  have hleft := h hall [.operation (.unlock "hall" none (.returned true))] "hall"
    [.operation (.countdownExpired "hall"), .operation (.lockAttemptEnded "hall" (.returned true))]
    (by decide) ⟨trivial, trivial, trivial⟩
  have hnone := hleft.retries [.operation (.countdownExpired "hall")] _ List.prefix_rfl
  exact absurd hnone (by decide)

end

end CodeMaster.Proofs.Web.DeletedDoor
