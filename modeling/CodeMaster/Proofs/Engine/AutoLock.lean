import CodeMaster.Lib.Transition
import CodeMaster.Engine.AutoLockStateMachine

/-!
# `CodeMaster.Proofs.Engine.AutoLock`: when the bolt is driven, is the door closed?

`Clear` is the invariant: with the door open no timer is armed. Four kinds of step can break
it, and `KeepsClear` says when they do not. `clear_step_iff` is the step lemma, and the run
theorem follows from it: at every point of a run an armed timer finds the door closed exactly
when every step of the run meets `KeepsClear`.

The machine is on, and its settings stay as they are. The condition is on three kinds of events. A
report that the door opens leaves a pending retry and, unless the lock is unlocked, a countdown. A
report of a jammed lock and a failed attempt arm a retry without a look at the contact. For each
handler there is a lemma which says when the machine is clear afterwards, given that it was before.
-/

set_option autoImplicit false

namespace CodeMaster.Proofs.Engine.AutoLock

open CodeMaster.Core CodeMaster.Engine AutoLockStateMachine Exec Transition

/-! ### What the methods do to the contact and to the timers -/

/-- The status is written, and nothing else. -/
@[simp] theorem exec_setStatus (status : AutoLockStatus) (m : AutoLockStateMachine) :
    (setStatus status).exec m = (.ok (), { m with status }) := rfl

/-- The countdown is cancelled, and nothing else. -/
@[simp] theorem exec_cancelCountdownTimer (m : AutoLockStateMachine) :
    cancelCountdownTimer.exec m = (.ok (), { m with countdownTimer := none }) := rfl

/-- The retry is cancelled, and nothing else. -/
@[simp] theorem exec_cancelRetryTimer (m : AutoLockStateMachine) :
    cancelRetryTimer.exec m = (.ok (), { m with retryTimer := none }) := rfl

/-- Both timers are cancelled, and nothing else. -/
@[simp] theorem exec_cancelAllTimers (m : AutoLockStateMachine) :
    cancelAllTimers.exec m = (.ok (), { m with countdownTimer := none, retryTimer := none }) := rfl

/-- Arming the retry arms it exactly when the delay is supported. -/
theorem exec_armRetryTimer (m : AutoLockStateMachine) :
    armRetryTimer.exec m =
      if supportsDelay m.retryDelaySeconds then
        (.ok (), { m with retryTimer := some m.retryDelaySeconds })
      else (.error .dueTime, { m with retryTimer := none }) := by
  simp only [armRetryTimer, exec_bind, exec_cancelRetryTimer, exec_query, exec_ite,
    exec_modify, exec_throw]

/-! ### What the methods leave alone

The methods write the status, the lock state, the timers and the attempts. Only the report of
the contact writes the contact, and nothing writes the configuration. -/

/-- `I` does not depend on the fields that the methods write. -/
def Framed (I : AutoLockStateMachine → Prop) : Prop :=
  ∀ m status lockState countdownTimer retryTimer attempts, I m →
    I { m with status, lockState, countdownTimer, retryTimer, attempts }

/-- Nothing but a report of the contact writes the contact state. -/
theorem framed_contact (c : DoorContactState) : Framed fun m => m.doorContactState = c :=
  fun _ _ _ _ _ _ h => h

/-- No method of the machine switches it on or off. -/
theorem framed_isEnabled : Framed fun m => m.isEnabled = true := fun _ _ _ _ _ _ h => h

section Frame
variable {I : AutoLockStateMachine → Prop} (hI : Framed I)
include hI

/-- The status is not part of the frame. -/
theorem setStatus_frame (status : AutoLockStatus) : Preserves I (setStatus status) :=
  .modify fun m => hI m status _ _ _ _

/-- The countdown is not part of the frame. -/
theorem cancelCountdownTimer_frame : Preserves I cancelCountdownTimer :=
  .modify fun m => hI m _ _ none _ _

/-- The retry is not part of the frame. -/
theorem cancelRetryTimer_frame : Preserves I cancelRetryTimer :=
  .modify fun m => hI m _ _ _ none _

/-- The timers are not part of the frame. -/
theorem cancelAllTimers_frame : Preserves I cancelAllTimers :=
  (cancelCountdownTimer_frame hI).bind fun _ => cancelRetryTimer_frame hI

/-- The countdown is not part of the frame, whether the delay is accepted or not. -/
theorem armCountdownTimer_frame : Preserves I armCountdownTimer :=
  (cancelCountdownTimer_frame hI).bind fun _ => .bind (.query _ _) fun delay =>
    .ite (.modify fun m => hI m _ _ (some delay) _ _) (.throw _ _)

/-- The retry is not part of the frame, whether the delay is accepted or not. -/
theorem armRetryTimer_frame : Preserves I armRetryTimer :=
  (cancelRetryTimer_frame hI).bind fun _ => .bind (.query _ _) fun delay =>
    .ite (.modify fun m => hI m _ _ _ (some delay) _) (.throw _ _)

/-- A report of the lock keeps the frame, in each of its branches. -/
theorem onLockStateChanged_frame (newState : LockState) :
    Preserves I (onLockStateChanged newState) := by
  have hcancel := cancelAllTimers_frame hI
  have hstatus := setStatus_frame hI
  refine .bind (.modify fun m => hI m _ newState _ _ _) fun _ => .bind (.get _) fun m =>
    .ite ?_ (hcancel.bind fun _ => hstatus _)
  cases newState with
  | locked => exact hcancel.bind fun _ => hstatus _
  | unlocked =>
    refine (cancelRetryTimer_frame hI).bind fun _ => .ite ?_ ?_
    · exact (cancelCountdownTimer_frame hI).bind fun _ => hstatus _
    · exact (armCountdownTimer_frame hI).bind fun _ => hstatus _
  | jammed =>
    refine (cancelCountdownTimer_frame hI).bind fun _ => .ite ?_ ?_
    · exact (hstatus _).bind fun _ => armRetryTimer_frame hI
    · exact hcancel.bind fun _ => hstatus _
  | unknown => exact .pure _ _

/-- A report of the contact keeps the frame of the machine with the new contact state. -/
theorem onDoorContactChanged_frame (newState : DoorContactState) {m : AutoLockStateMachine}
    (hm : I { m with doorContactState := newState }) :
    I ((onDoorContactChanged newState).exec m).2 := by
  have hstatus := setStatus_frame hI
  unfold onDoorContactChanged
  rw [exec_bind, exec_modify]
  -- Only the state with the new contact matters from here on.
  revert hm
  generalize { m with doorContactState := newState } = m'
  revert m'
  refine Preserves.bind (.get _) fun m' => .ite (.ite ?_ (.pure _ _)) ?_
  · cases newState with
    | closed => exact (armCountdownTimer_frame hI).bind fun _ => hstatus _
    | «open» => exact (cancelCountdownTimer_frame hI).bind fun _ => hstatus _
  · exact (cancelAllTimers_frame hI).bind fun _ => hstatus _

/-- The end of an attempt keeps the frame. -/
theorem endLockAttempt_frame (success : Bool) : Preserves I (endLockAttempt success) := by
  have hcancel := cancelAllTimers_frame hI
  have hstatus := setStatus_frame hI
  refine .bind (.modify fun m => hI m _ _ _ _ (m.attempts - 1)) fun _ => ?_
  refine .ite ?_ (.bind (.get _) fun m => .ite ?_ ?_)
  · exact hcancel.bind fun _ => .bind (.modify fun m => hI m _ .locked _ _ _) fun _ => hstatus _
  · exact (hstatus _).bind fun _ => armRetryTimer_frame hI
  · exact hcancel.bind fun _ => hstatus _

/-- A step keeps what the methods leave alone, once the reported contact is stored. -/
theorem step_frame {m : AutoLockStateMachine} (hm : I m) (e : Event)
    (hcontact : ∀ newState, e = .doorContactChanged newState →
      I { m with doorContactState := newState }) : I (step m e) := by
  unfold step
  split
  · cases e with
    | lockStateChanged newState => exact onLockStateChanged_frame hI newState m hm
    | doorContactChanged newState => exact onDoorContactChanged_frame hI newState (hcontact _ rfl)
    | countdownExpired => exact hI m _ _ none _ (m.attempts + 1) hm
    | retryExpired => exact hI m _ _ _ none (m.attempts + 1) hm
    | lockAttemptEnded success => exact endLockAttempt_frame hI success m hm
  · exact hm

end Frame

/-- No step disables the object. -/
theorem step_isEnabled (m : AutoLockStateMachine) (e : Event) (hm : m.isEnabled = true) :
    (step m e).isEnabled = true :=
  step_frame framed_isEnabled hm e fun _ _ => hm

/-- The contact that the sensor last reported in a run. Before the first report it counts as
closed. -/
def lastContact : List Event → DoorContactState :=
  List.foldl (fun c e => match e with
    | .doorContactChanged newState => newState
    | _ => c) .closed

/-- The contact state after an event is the reported one, or the one of before. -/
theorem step_contact (m : AutoLockStateMachine) (e : Event) :
    (step m e).doorContactState = match e with
      | .doorContactChanged newState => newState
      | _ => m.doorContactState := by
  cases e with
  | doorContactChanged newState => exact onDoorContactChanged_frame (framed_contact newState) _ rfl
  | _ => exact step_frame (framed_contact _) rfl _ nofun

/-- After a run the object holds the contact that was last reported. -/
theorem run_contact {m : AutoLockStateMachine} (hm : m.doorContactState = .closed)
    (es : List Event) : (es.foldl step m).doorContactState = lastContact es := by
  unfold lastContact
  rw [← hm]
  clear hm
  induction es generalizing m with
  | nil => rfl
  | cons e es ih => rw [List.foldl_cons, List.foldl_cons, ih, step_contact]

/-! ### The step lemma -/

/-- With the door open no timer is armed. -/
def Clear (m : AutoLockStateMachine) : Prop :=
  m.doorContactState = .open → m.countdownTimer = none ∧ m.retryTimer = none

/-- A failure that the object answers by arming the retry timer. -/
def armsRetry (m : AutoLockStateMachine) : Bool :=
  m.retryOnFailure && supportsDelay m.retryDelaySeconds

/-- The steps that leave no timer armed over an open door. The door may open only when no
retry is pending, and with a pending countdown only when the lock is known to be unlocked. A
jam and a failed attempt must not arm a retry while the door is open. -/
def KeepsClear (m : AutoLockStateMachine) : Event → Prop
  | .doorContactChanged .open =>
    m.retryTimer = none ∧ (m.lockState = .unlocked ∨ m.countdownTimer = none)
  | .lockStateChanged .jammed => armsRetry m = true → m.doorContactState ≠ .open
  | .lockAttemptEnded false =>
    0 < m.attempts → armsRetry m = true → m.doorContactState ≠ .open
  | _ => True

/-- The condition on a step is decidable. -/
instance (m : AutoLockStateMachine) (e : Event) : Decidable (KeepsClear m e) := by
  unfold KeepsClear
  split <;> infer_instance

/-! ### The step lemma, one handler after the other -/

variable {m : AutoLockStateMachine}

/-- Over a closed door everything may be armed. -/
theorem clear_of_closed (h : m.doorContactState = .closed) : Clear m := by
  intro hopen
  rw [h] at hopen
  cases hopen

/-- Which reports of the lock keep a timer from running over an open door. -/
theorem onLockStateChanged_clear_iff (hen : m.isEnabled = true) (hm : Clear m)
    (newState : LockState) :
    Clear ((onLockStateChanged newState).exec m).2 ↔ KeepsClear m (.lockStateChanged newState) := by
  cases newState with
  | locked => simp [onLockStateChanged, hen, Clear, KeepsClear]
  | unlocked =>
    cases hdoor : m.doorContactState with
    | closed =>
      -- The countdown is armed, or `CreateTimer` throws. Either way the contact stays closed.
      refine iff_of_true (clear_of_closed ?_) trivial
      exact onLockStateChanged_frame (framed_contact _) .unlocked m hdoor
    | «open» => simp [onLockStateChanged, hen, hdoor, Clear, KeepsClear]
  | jammed =>
    cases hretry : m.retryOnFailure
    · simp [onLockStateChanged, hen, hretry, Clear, KeepsClear, armsRetry]
    · simp [onLockStateChanged, hen, hretry, Clear, KeepsClear, armsRetry, exec_armRetryTimer]
      split <;> simp_all
  | unknown => simpa [onLockStateChanged, hen, Clear, KeepsClear] using hm

/-- Which reports of the contact do. -/
theorem onDoorContactChanged_clear_iff (hen : m.isEnabled = true) (newState : DoorContactState) :
    Clear ((onDoorContactChanged newState).exec m).2
      ↔ KeepsClear m (.doorContactChanged newState) := by
  cases newState with
  | closed =>
    refine iff_of_true (clear_of_closed ?_) trivial
    exact onDoorContactChanged_frame (framed_contact _) .closed rfl
  | «open» =>
    by_cases hlock : m.lockState = .unlocked
    · simp [onDoorContactChanged, hen, hlock, Clear, KeepsClear]
    · -- The handler has returned early, so both timers are as before.
      simp [onDoorContactChanged, hen, hlock, Clear, KeepsClear, and_comm]

/-- Which answers of the lock do: a failure over an open door must not arm the retry. -/
theorem endLockAttempt_clear_iff (hm : Clear m) (success : Bool) (hattempts : 0 < m.attempts) :
    Clear ((endLockAttempt success).exec m).2 ↔ KeepsClear m (.lockAttemptEnded success) := by
  cases success with
  | true => simp [endLockAttempt, Clear, KeepsClear]
  | false =>
    cases hretry : m.retryOnFailure
    · simp [endLockAttempt, hretry, Clear, KeepsClear, armsRetry]
    · simp [endLockAttempt, hretry, Clear, KeepsClear, armsRetry, exec_armRetryTimer]
      split <;> simp_all [Clear]

/-- A step that keeps the object clear of an armed timer over an open door is one that meets
`KeepsClear`, and conversely. -/
theorem clear_step_iff (hen : m.isEnabled = true) (hm : Clear m) (e : Event) :
    Clear (step m e) ↔ KeepsClear m e := by
  unfold step
  cases e with
  | lockStateChanged newState => exact onLockStateChanged_clear_iff hen hm newState
  | doorContactChanged newState => exact onDoorContactChanged_clear_iff hen newState
  | countdownExpired =>
    split
    · simp [handle, triggerCountdownExpired, startLockAttempt, Clear, KeepsClear]
      intro h
      exact (hm h).2
    · exact iff_of_true hm trivial
  | retryExpired =>
    split
    · simp [handle, triggerRetryExpired, startLockAttempt, Clear, KeepsClear]
      intro h
      exact (hm h).1
    · exact iff_of_true hm trivial
  | lockAttemptEnded success =>
    split
    · rename_i h
      exact endLockAttempt_clear_iff hm success (by simpa [enabled] using h)
    · -- Without an attempt in flight the event does nothing.
      rename_i h
      have : ¬ 0 < m.attempts := by simpa [enabled] using h
      cases success <;> simp [KeepsClear, this, hm]

/-! ### Runs -/

/-- The event is the expiry of an armed timer, so it starts a lock attempt. -/
def startsAttempt (m : AutoLockStateMachine) : Event → Bool
  | .countdownExpired => m.countdownTimer.isSome
  | .retryExpired => m.retryTimer.isSome
  | _ => false

/-- At every point of the run, a timer that expires there finds the door closed. -/
def DoorClosedAtExpiry (m : AutoLockStateMachine) (es : List Event) : Prop :=
  ∀ pre, pre <+: es → ∀ e, startsAttempt (pre.foldl step m) e = true → lastContact pre = .closed

/-- No timer is armed unless `P` holds, exactly when `P` holds wherever an attempt can start. -/
theorem unarmed_unless_iff {P : Prop} :
    (¬P → m.countdownTimer = none ∧ m.retryTimer = none)
      ↔ ∀ e, startsAttempt m e = true → P := by
  constructor
  · intro hm e he
    by_contra hP
    obtain ⟨hcountdown, hretry⟩ := hm hP
    cases e <;> simp [startsAttempt, hcountdown, hretry] at he
  · intro h hP
    have hnot : ∀ e, startsAttempt m e ≠ true := fun e he => hP (h e he)
    exact ⟨by simpa [startsAttempt] using hnot .countdownExpired,
      by simpa [startsAttempt] using hnot .retryExpired⟩

/-- What the invariant is for: an attempt starts over a closed door. -/
theorem clear_iff_startsAttempt :
    Clear m ↔ ∀ e, startsAttempt m e = true → m.doorContactState = .closed := by
  have hopen : m.doorContactState = .open ↔ ¬ m.doorContactState = .closed := by
    cases m.doorContactState <;> decide
  rw [← unarmed_unless_iff, Clear, hopen]

/-- An enabled object, in any configuration, as its constructor leaves it. -/
def start (timeoutSeconds : Int) (nightSeconds : Option Int) (retryOnFailure : Bool)
    (retryDelaySeconds : Int) (isNight : Bool) : AutoLockStateMachine :=
  { new timeoutSeconds nightSeconds retryOnFailure retryDelaySeconds with isNight }

/-- A timer that expires finds the door closed, at every point of a run, if and only if every
step of the run meets `KeepsClear`. -/
theorem doorClosedAtExpiry_iff (timeoutSeconds : Int) (nightSeconds : Option Int)
    (retryOnFailure : Bool) (retryDelaySeconds : Int) (isNight : Bool) (es : List Event) :
    DoorClosedAtExpiry
        (start timeoutSeconds nightSeconds retryOnFailure retryDelaySeconds isNight) es
      ↔ StepsMeet step KeepsClear
          (start timeoutSeconds nightSeconds retryOnFailure retryDelaySeconds isNight) es := by
  have hstep : ∀ (m : AutoLockStateMachine) (e : Event), m.isEnabled = true ∧ Clear m →
      ((step m e).isEnabled = true ∧ Clear (step m e) ↔ KeepsClear m e) := by
    rintro m e ⟨hen, hm⟩
    rw [clear_step_iff hen hm]
    exact and_iff_right (step_isEnabled m e hen)
  have hstart : Clear
      (start timeoutSeconds nightSeconds retryOnFailure retryDelaySeconds isNight) :=
    fun _ => ⟨rfl, rfl⟩
  -- Both sides are about every point of the run, where `Clear` is what an expiry needs.
  rw [← stepsMeet_iff hstep es _ ⟨rfl, hstart⟩]
  refine forall₂_congr fun pre _ => ?_
  have hcontact : (pre.foldl step (start timeoutSeconds nightSeconds retryOnFailure
      retryDelaySeconds isNight)).doorContactState = lastContact pre := run_contact rfl pre
  rw [← hcontact, ← clear_iff_startsAttempt]
  exact (and_iff_right (foldl_invariant step _ step_isEnabled pre _ rfl)).symm

/-- The lock reports a jam, the door opens, and the retry timer expires: the object starts a
lock attempt over the open door. -/
theorem retry_drives_bolt_of_open_door :
    ¬ ∀ es : List Event, DoorClosedAtExpiry (start 60 none true 15 false) es := by
  intro h
  have hclosed := h [.lockStateChanged .jammed, .doorContactChanged .open] _ List.prefix_rfl
    .retryExpired (by decide)
  exact absurd hclosed (by decide)

end CodeMaster.Proofs.Engine.AutoLock
