import CodeMaster.Engine.AutoLockClock
import CodeMaster.Proofs.Engine.NoStall

/-!
# `CodeMaster.Proofs.Engine.AutoLockView`: when the timers of a machine are due

`View` is the abstract view of a machine on a clock, in a fixed configuration: the contact, whether
a closed door starts a countdown, the attempts in flight, when the two timers are due, and the
start times so far. `View.handle` says in terms of due times what an arrival does, and
`View.advanceTo` what the passing of time does.

The machine refines its view (`view_handleAt`, `view_advanceTo`, `view_run`). So two machines with
the same view start attempts at the same times from there on.
-/

set_option autoImplicit false

namespace CodeMaster.Proofs.Engine.AutoLockView

open CodeMaster.Core CodeMaster.Engine AutoLockStateMachine AutoLockClock Exec
open AutoLock AutoLockMethods NoStall

/-! ### The view -/

/-- What the timing of the machine depends on: the contact state, whether it counts down, the
attempts in flight, when the two timers are due, and when the attempts have started. -/
@[ext] structure View where
  contact : DoorContactState
  countsDown : Bool
  attempts : Nat
  countdownDue : Option Int
  retryDue : Option Int
  starts : List Int
  deriving DecidableEq

/-- The delay of the countdown in the configuration. -/
def delayOf (c : Settings) : Int := if c.isNight then c.nightSeconds else c.daySeconds

/-- When a timer with the delay is due that is created now. -/
def dueAfter (now delay : Int) : Option Int :=
  if supportsDelay delay then some (now + delay * 1000) else none

namespace View

/-- What an arrival does to the view. -/
def handle (c : Settings) (now : Int) (v : View) : Arrival → View
  | .report (.lock .locked) =>
    { v with countsDown := false, countdownDue := none, retryDue := none }
  | .report (.lock .unlocked) =>
    { v with
      countsDown := supportsDelay (delayOf c)
      countdownDue := if v.contact = .open then none else dueAfter now (delayOf c)
      retryDue := none }
  | .report (.lock .jammed) =>
    { v with
      countsDown := false, countdownDue := none
      retryDue := if c.retryOnFailure then dueAfter now c.retryDelaySeconds else none }
  | .report (.lock .unknown) => { v with countsDown := false }
  | .report (.contact newState) =>
    { v with
      contact := newState
      countdownDue :=
        if v.countsDown then
          if newState = .open then none else dueAfter now (delayOf c)
        else v.countdownDue }
  | .lockAnswered success =>
    if v.attempts = 0 then v
    else if success then
      { v with
        attempts := v.attempts - 1, countsDown := false, countdownDue := none, retryDue := none }
    else
      { v with
        attempts := v.attempts - 1
        countdownDue := if c.retryOnFailure then v.countdownDue else none
        retryDue := if c.retryOnFailure then dueAfter now c.retryDelaySeconds else none }

/-- The starts until the time, in their order. -/
def startsBy (now : Int) (v : View) : List Int :=
  match v.countdownDue.filter (· ≤ now), v.retryDue.filter (· ≤ now) with
  | none, none => []
  | some c, none => [c]
  | none, some r => [r]
  | some c, some r => if c ≤ r then [c, r] else [r, c]

/-- The time goes on, and every timer that is due by then has started its attempt. -/
def advanceTo (now : Int) (v : View) : View :=
  { v with
    attempts := v.attempts + (startsBy now v).length
    countdownDue := v.countdownDue.filter (now < ·)
    retryDue := v.retryDue.filter (now < ·)
    starts := v.starts ++ startsBy now v }

/-- One input at its time. -/
def receive (c : Settings) (v : View) (input : Int × Arrival) : View :=
  handle c input.1 (advanceTo input.1 v) input.2

end View

/-- The view of a machine on a clock. With a delay that no timer supports, a closed door starts no
countdown. -/
def view (s : AutoLockClock) : View where
  contact := s.machine.doorContactState
  countsDown := s.machine.lockState = .unlocked && supportsDelay s.machine.lockDelay
  attempts := s.machine.attempts
  countdownDue := s.countdownDue
  retryDue := s.retryDue
  starts := s.starts

/-- An enabled machine with the configuration, whose countdown has a supported delay. -/
structure Configured (c : Settings) (s : AutoLockClock) : Prop where
  settings : settings s.machine = c
  isEnabled : s.machine.isEnabled = true
  supported : supportsDelay (delayOf c) = false → s.machine.countdownTimer = none

section
variable {c : Settings} {s : AutoLockClock} {now : Int}

/-- The delay of a configured machine is the one of its settings. -/
theorem Configured.lockDelay (h : Configured c s) : s.machine.lockDelay = delayOf c := by
  rw [← h.settings]
  rfl

/-- The retry delay of a configured machine is the one of its settings. -/
theorem Configured.retryDelaySeconds (h : Configured c s) :
    s.machine.retryDelaySeconds = c.retryDelaySeconds := by
  rw [← h.settings]
  rfl

/-- Whether a configured machine retries is in its settings. -/
theorem Configured.retryOnFailure (h : Configured c s) :
    s.machine.retryOnFailure = c.retryOnFailure := by
  rw [← h.settings]
  rfl

end

/-! ### Timers under the handlers -/

/-- What a handler does to a timer. -/
inductive TimerOp where
  | keep
  | cancel
  | create
  deriving DecidableEq

/-- The timer after the operation. -/
def TimerOp.after (delay : Int) (timer : Option Int) : TimerOp → Option Int
  | .keep => timer
  | .cancel => none
  | .create => armed delay

/-- What an arrival does to the countdown of a machine that is on. -/
def countdownOp (m : AutoLockStateMachine) : Arrival → TimerOp
  | .report (.lock .locked) => .cancel
  | .report (.lock .unlocked) => if m.doorContactState = .open then .cancel else .create
  | .report (.lock .jammed) => .cancel
  | .report (.lock .unknown) => .keep
  | .report (.contact newState) =>
    if m.lockState = .unlocked then if newState = .open then .cancel else .create else .keep
  | .lockAnswered success =>
    if m.attempts = 0 then .keep
    else if success then .cancel
    else if m.retryOnFailure then .keep else .cancel

/-- What an arrival does to the retry of a machine that is on. -/
def retryOp (m : AutoLockStateMachine) : Arrival → TimerOp
  | .report (.lock .locked) => .cancel
  | .report (.lock .unlocked) => .cancel
  | .report (.lock .jammed) => if m.retryOnFailure then .create else .cancel
  | .report (.lock .unknown) => .keep
  | .report (.contact _) => .keep
  | .lockAnswered success =>
    if m.attempts = 0 then .keep
    else if success then .cancel
    else if m.retryOnFailure then .create else .cancel

section
variable {m : AutoLockStateMachine}

/-- The timers after an arrival. -/
theorem step_timers (hen : m.isEnabled = true) (a : Arrival) :
    (m.step a.event).countdownTimer = (countdownOp m a).after m.lockDelay m.countdownTimer
      ∧ (m.step a.event).retryTimer = (retryOp m a).after m.retryDelaySeconds m.retryTimer := by
  cases a with
  | report r =>
    cases r with
    | lock newState =>
      rw [show m.step (Arrival.report (.lock newState)).event
        = AutoLockMethods.after (onLockStateChanged newState) m from rfl,
        after_onLockStateChanged, if_pos hen]
      cases newState with
      | locked => exact ⟨rfl, rfl⟩
      | unlocked =>
        cases hdoor : m.doorContactState <;> simp [countdownOp, retryOp, hdoor, TimerOp.after]
      | jammed =>
        cases hretry : m.retryOnFailure <;> simp [countdownOp, retryOp, hretry, TimerOp.after]
      | unknown => exact ⟨rfl, rfl⟩
    | contact newState =>
      rw [show m.step (Arrival.report (.contact newState)).event
        = AutoLockMethods.after (onDoorContactChanged newState) m from rfl,
        after_onDoorContactChanged, if_pos hen]
      by_cases hlock : m.lockState = .unlocked
      · cases newState <;> simp [countdownOp, retryOp, hlock, TimerOp.after]
      · simp [countdownOp, retryOp, hlock, TimerOp.after]
  | lockAnswered success =>
    -- An answer with no attempt in flight is not enabled and changes nothing.
    by_cases hattempts : m.attempts = 0
    · have hnot : m.enabled (Arrival.lockAnswered success).event = false := by
        simp [enabled, Arrival.event, hattempts]
      rw [AutoLockStateMachine.step, if_neg (by simp [hnot])]
      simp [countdownOp, retryOp, hattempts, TimerOp.after]
    · have hpos : m.enabled (Arrival.lockAnswered success).event = true := by
        simp [enabled, Arrival.event]
        omega
      rw [step_of_enabled hpos,
        show AutoLockMethods.after (handle (Arrival.lockAnswered success).event) m
          = AutoLockMethods.after (endLockAttempt success) m from rfl, after_endLockAttempt]
      cases success <;> cases hretry : m.retryOnFailure <;>
        simp [countdownOp, retryOp, hattempts, hretry, TimerOp.after]

end

/-- When the timer is due after the operation. -/
def TimerOp.due (now delay : Int) (old : Option Int) : TimerOp → Option Int
  | .keep => old
  | .cancel => none
  | .create => dueAfter now delay

/-- A timer and its time of creation, after a handler that finds the old timer and after one that
finds no timer, give the due time of the operation. -/
theorem due_of_op (op : TimerOp) (now delay from_ : Int) (timer : Option Int) :
    ((op.after delay timer).map fun d => (if (op.after delay none).isSome then now else from_)
        + d * 1000)
      = op.due now delay (timer.map fun d => from_ + d * 1000) := by
  cases op with
  | keep => rfl
  | cancel => rfl
  | create =>
    cases h : supportsDelay delay <;> simp [TimerOp.after, TimerOp.due, armed, dueAfter, h]

/-- The timers that a handler creates. -/
theorem created_timers {m : AutoLockStateMachine} (hen : m.isEnabled = true) (a : Arrival) :
    (created m a.event).countdownTimer = (countdownOp m a).after m.lockDelay none
      ∧ (created m a.event).retryTimer = (retryOp m a).after m.retryDelaySeconds none := by
  have h := @step_timers { m with countdownTimer := none, retryTimer := none } hen a
  exact h

section
variable {s : AutoLockClock}

/-- When the countdown is due after an arrival. -/
theorem countdownDue_handleAt (now : Int) (hen : s.machine.isEnabled = true) (a : Arrival) :
    (handleAt now s a).countdownDue
      = (countdownOp s.machine a).due now s.machine.lockDelay s.countdownDue := by
  unfold AutoLockClock.countdownDue
  rw [← due_of_op, ← (created_timers hen a).1, ← (step_timers hen a).1]
  rfl

/-- When the retry is due after an arrival. -/
theorem retryDue_handleAt (now : Int) (hen : s.machine.isEnabled = true) (a : Arrival) :
    (handleAt now s a).retryDue
      = (retryOp s.machine a).due now s.machine.retryDelaySeconds s.retryDue := by
  unfold AutoLockClock.retryDue
  rw [← due_of_op, ← (created_timers hen a).2, ← (step_timers hen a).2]
  rfl

end

/-! ### The machine refines its view -/

section
variable {c : Settings} {s : AutoLockClock}

/-- An arrival keeps the settings. -/
theorem Configured.handleAt (h : Configured c s) (now : Int) (a : Arrival) :
    Configured c (handleAt now s a) where
  settings := (settings_step s.machine a.event).trans h.settings
  isEnabled := step_isEnabled s.machine a.event h.isEnabled
  supported hdelay := by
    show (s.machine.step a.event).countdownTimer = none
    rw [(step_timers h.isEnabled a).1, h.lockDelay]
    cases countdownOp s.machine a with
    | keep => exact h.supported hdelay
    | cancel => rfl
    | create => exact if_neg (by simp [hdelay])

/-- A timer that expires keeps the settings. -/
theorem Configured.expire (h : Configured c s) (at_ : Int) {e : Event}
    (he : e = .countdownExpired ∨ e = .retryExpired) : Configured c (expire s (at_, e)) where
  settings := (settings_step s.machine e).trans h.settings
  isEnabled := step_isEnabled s.machine e h.isEnabled
  supported hdelay := by
    have hnone := h.supported hdelay
    show (s.machine.step e).countdownTimer = none
    unfold AutoLockStateMachine.step
    split
    · rcases he with rfl | rfl
      · rfl
      · exact hnone
    · exact hnone

/-- A report of the lock writes the lock state, and leaves the contact state and the attempts. -/
theorem step_lock (m : AutoLockStateMachine) (newState : LockState) :
    (m.step (.lockStateChanged newState)).lockState = newState
      ∧ (m.step (.lockStateChanged newState)).doorContactState = m.doorContactState
      ∧ (m.step (.lockStateChanged newState)).attempts = m.attempts := by
  rw [step_of_enabled rfl]
  refine ⟨onLockStateChanged_lockState m newState, onLockStateChanged_contact m newState, ?_⟩
  show (after (onLockStateChanged newState) m).attempts = m.attempts
  rw [after_onLockStateChanged]
  split
  · cases newState with
    | locked | unknown => rfl
    | unlocked | jammed => dsimp only; split <;> rfl
  · rfl

/-- A report of the contact writes the contact state, and leaves the lock state and the attempts. -/
theorem step_door (m : AutoLockStateMachine) (newState : DoorContactState) :
    (m.step (.doorContactChanged newState)).lockState = m.lockState
      ∧ (m.step (.doorContactChanged newState)).doorContactState = newState
      ∧ (m.step (.doorContactChanged newState)).attempts = m.attempts := by
  rw [step_of_enabled rfl]
  refine ⟨onDoorContactChanged_lockState m newState, onDoorContactChanged_contact m newState, ?_⟩
  show (after (onDoorContactChanged newState) m).attempts = m.attempts
  rw [after_onDoorContactChanged]
  split
  · split
    · cases newState <;> rfl
    · rfl
  · rfl

/-- An answer of the lock ends an attempt, and writes the lock state only after a success. -/
theorem step_answer (m : AutoLockStateMachine) (success : Bool) :
    (m.step (.lockAttemptEnded success)).lockState
        = (if m.attempts = 0 then m.lockState else if success then .locked else m.lockState)
      ∧ (m.step (.lockAttemptEnded success)).doorContactState = m.doorContactState
      ∧ (m.step (.lockAttemptEnded success)).attempts = m.attempts - 1 := by
  by_cases hattempts : m.attempts = 0
  · have hnot : m.enabled (.lockAttemptEnded success) = false := by
      simp [enabled, hattempts]
    rw [AutoLockStateMachine.step, if_neg (by simp [hnot]), if_pos hattempts]
    exact ⟨rfl, rfl, by omega⟩
  · have hpos : m.enabled (.lockAttemptEnded success) = true := by
      simp [enabled]
      omega
    rw [step_of_enabled hpos, if_neg hattempts]
    show (after (endLockAttempt success) m).lockState = _
      ∧ (after (endLockAttempt success) m).doorContactState = _
      ∧ (after (endLockAttempt success) m).attempts = _
    rw [after_endLockAttempt]
    cases success <;> cases m.retryOnFailure <;> exact ⟨rfl, rfl, rfl⟩

/-- The view after an arrival. -/
theorem view_handleAt (h : Configured c s) (now : Int) (a : Arrival) :
    view (handleAt now s a) = View.handle c now (view s) a := by
  have hcountdown := countdownDue_handleAt now h.isEnabled a
  have hretry := retryDue_handleAt now h.isEnabled a
  rw [h.lockDelay] at hcountdown
  rw [h.retryDelaySeconds] at hretry
  have hdelay : (handleAt now s a).machine.lockDelay = delayOf c := (h.handleAt now a).lockDelay
  unfold view
  rw [hcountdown, hretry, hdelay, h.lockDelay]
  cases a with
  | report r =>
    cases r with
    | lock newState =>
      obtain ⟨hlock, hcontact, hattempts⟩ := step_lock s.machine newState
      show View.mk (s.machine.step (.lockStateChanged newState)).doorContactState
        ((s.machine.step (.lockStateChanged newState)).lockState = .unlocked
          && supportsDelay (delayOf c))
        (s.machine.step (.lockStateChanged newState)).attempts _ _ s.starts = _
      rw [hlock, hcontact, hattempts]
      cases newState with
      | locked => rfl
      | unlocked => cases hdoor : s.machine.doorContactState <;>
          simp [View.handle, countdownOp, retryOp, TimerOp.due, hdoor]
      | jammed =>
        have hon := h.retryOnFailure
        cases hretry : s.machine.retryOnFailure <;> rw [hretry] at hon <;>
          simp [View.handle, countdownOp, retryOp, TimerOp.due, hretry, ← hon]
      | unknown => rfl
    | contact newState =>
      obtain ⟨hlock, hcontact, hattempts⟩ := step_door s.machine newState
      show View.mk (s.machine.step (.doorContactChanged newState)).doorContactState
        ((s.machine.step (.doorContactChanged newState)).lockState = .unlocked
          && supportsDelay (delayOf c))
        (s.machine.step (.doorContactChanged newState)).attempts _ _ s.starts = _
      rw [hlock, hcontact, hattempts]
      by_cases hunlocked : s.machine.lockState = .unlocked
      · cases hsupported : supportsDelay (delayOf c) with
        | true =>
          cases newState <;>
            simp [View.handle, countdownOp, retryOp, TimerOp.due, hunlocked]
        | false =>
          -- No countdown is armed, so the early return of the source leaves none either.
          have hnone : s.countdownDue = none := by
            rw [AutoLockClock.countdownDue, h.supported hsupported]
            rfl
          cases newState <;>
            simp [View.handle, countdownOp, retryOp, TimerOp.due, hunlocked, hnone, dueAfter,
              hsupported]
      · simp [View.handle, countdownOp, retryOp, TimerOp.due, hunlocked]
  | lockAnswered success =>
    obtain ⟨hlock, hcontact, hattempts⟩ := step_answer s.machine success
    show View.mk (s.machine.step (.lockAttemptEnded success)).doorContactState
      ((s.machine.step (.lockAttemptEnded success)).lockState = .unlocked
        && supportsDelay (delayOf c))
      (s.machine.step (.lockAttemptEnded success)).attempts _ _ s.starts = _
    rw [hlock, hcontact, hattempts]
    have hon := h.retryOnFailure
    by_cases hnone : s.machine.attempts = 0
    · simp [View.handle, countdownOp, retryOp, TimerOp.due, hnone]
    · cases success <;> cases hretry : s.machine.retryOnFailure <;> rw [hretry] at hon <;>
        simp [View.handle, countdownOp, retryOp, TimerOp.due, hnone, hretry, ← hon]

/-- The view after the countdown has expired. -/
theorem view_expire_countdown {due : Int} (hdue : s.countdownDue = some due) (at_ : Int) :
    view (expire s (at_, .countdownExpired))
      = { view s with
          attempts := s.machine.attempts + 1
          countdownDue := none
          starts := s.starts ++ [at_] } := by
  have henabled : s.machine.enabled .countdownExpired = true := by
    obtain ⟨delay, hdelay, -⟩ := Option.map_eq_some_iff.mp hdue
    simp [enabled, hdelay]
  unfold expire
  rw [step_of_enabled henabled]
  rfl

/-- The view after the retry has expired. -/
theorem view_expire_retry {due : Int} (hdue : s.retryDue = some due) (at_ : Int) :
    view (expire s (at_, .retryExpired))
      = { view s with
          attempts := s.machine.attempts + 1
          retryDue := none
          starts := s.starts ++ [at_] } := by
  have henabled : s.machine.enabled .retryExpired = true := by
    obtain ⟨delay, hdelay, -⟩ := Option.map_eq_some_iff.mp hdue
    simp [enabled, hdelay]
  unfold expire
  rw [step_of_enabled henabled]
  rfl

/-- A timer that is due by now is among those that expire, and is not left. -/
theorem filter_le_of_le {due now : Int} (h : due ≤ now) :
    (some due).filter (· ≤ now) = some due ∧ (some due).filter (now < ·) = none := by
  simp [Option.filter, h]

/-- A timer that is due later does not expire, and is left. -/
theorem filter_le_of_lt {due now : Int} (h : now < due) :
    (some due).filter (· ≤ now) = none ∧ (some due).filter (now < ·) = some due := by
  simp [Option.filter, h]

/-- The view after both timers have expired. -/
theorem view_expire_both {c r : Int} (hc : s.countdownDue = some c) (hr : s.retryDue = some r)
    (at_ at' : Int) :
    view (expire (expire s (at_, .countdownExpired)) (at', .retryExpired))
        = { view s with
            attempts := s.machine.attempts + 2
            countdownDue := none
            retryDue := none
            starts := s.starts ++ [at_, at'] }
      ∧ view (expire (expire s (at_, .retryExpired)) (at', .countdownExpired))
        = { view s with
            attempts := s.machine.attempts + 2
            countdownDue := none
            retryDue := none
            starts := s.starts ++ [at_, at'] } := by
  have hfirst := view_expire_countdown hc at_
  have hfirst' := view_expire_retry hr at_
  -- The expiry of one timer leaves the other one as it was.
  have hr' : (expire s (at_, .countdownExpired)).retryDue = some r :=
    (congrArg View.retryDue hfirst).trans hr
  have hc' : (expire s (at_, .retryExpired)).countdownDue = some c :=
    (congrArg View.countdownDue hfirst').trans hc
  have hattempts : (expire s (at_, .countdownExpired)).machine.attempts = s.machine.attempts + 1 :=
    congrArg View.attempts hfirst
  have hattempts' : (expire s (at_, .retryExpired)).machine.attempts = s.machine.attempts + 1 :=
    congrArg View.attempts hfirst'
  have hstarts : (s.starts ++ [at_]) ++ [at'] = s.starts ++ [at_, at'] := by simp
  constructor
  · rw [view_expire_retry hr', hfirst, hattempts]
    exact congrArg (View.mk _ _ _ _ _) hstarts
  · rw [view_expire_countdown hc', hfirst', hattempts']
    exact congrArg (View.mk _ _ _ _ _) hstarts

/-- The view after some time. -/
theorem view_advanceTo (now : Int) (s : AutoLockClock) :
    view (advanceTo now s) = View.advanceTo now (view s) := by
  have hcview : (view s).countdownDue = s.countdownDue := rfl
  have hrview : (view s).retryDue = s.retryDue := rfl
  unfold AutoLockClock.advanceTo expiries View.advanceTo View.startsBy
  rw [hcview, hrview]
  rcases hc : s.countdownDue with _ | c <;> rcases hr : s.retryDue with _ | r
  · ext1 <;> simp [hcview, hrview, hc, hr]
  · rcases Int.lt_or_le now r with hlt | hle
    · simp only [filter_le_of_lt hlt, Option.filter_none]
      ext1 <;> simp [hcview, hrview, hc, hr]
    · simp only [filter_le_of_le hle, Option.filter_none, List.foldl_cons, List.foldl_nil,
        view_expire_retry hr]
      ext1 <;> simp [hc, view]
  · rcases Int.lt_or_le now c with hlt | hle
    · simp only [filter_le_of_lt hlt, Option.filter_none]
      ext1 <;> simp [hcview, hrview, hc, hr]
    · simp only [filter_le_of_le hle, Option.filter_none, List.foldl_cons, List.foldl_nil,
        view_expire_countdown hc]
      ext1 <;> simp [hr, view]
  · rcases Int.lt_or_le now c with hclt | hcle <;> rcases Int.lt_or_le now r with hrlt | hrle
    · simp only [filter_le_of_lt hclt, filter_le_of_lt hrlt]
      ext1 <;> simp [hcview, hrview, hc, hr]
    · simp only [filter_le_of_lt hclt, filter_le_of_le hrle, List.foldl_cons, List.foldl_nil,
        view_expire_retry hr]
      ext1 <;> simp [hc, view]
    · simp only [filter_le_of_le hcle, filter_le_of_lt hrlt, List.foldl_cons, List.foldl_nil,
        view_expire_countdown hc]
      ext1 <;> simp [hr, view]
    · simp only [filter_le_of_le hcle, filter_le_of_le hrle]
      -- Both expire, and the earlier one first.
      by_cases horder : c ≤ r
      · simp only [if_pos horder, List.foldl_cons, List.foldl_nil, (view_expire_both hc hr c r).1]
        ext1 <;> simp [view]
      · simp only [if_neg horder, List.foldl_cons, List.foldl_nil, (view_expire_both hc hr r c).2]
        ext1 <;> simp [view]

/-- The time keeps the settings: it only lets timers expire. -/
theorem Configured.advanceTo (h : Configured c s) (now : Int) : Configured c (advanceTo now s) := by
  unfold AutoLockClock.advanceTo expiries
  split
  · exact h
  · exact h.expire _ (Or.inl rfl)
  · exact h.expire _ (Or.inr rfl)
  · split
    · exact (h.expire _ (Or.inl rfl)).expire _ (Or.inr rfl)
    · exact (h.expire _ (Or.inr rfl)).expire _ (Or.inl rfl)

/-- The run lemma: the machine refines its view. -/
theorem view_run (h : Configured c s) (inputs : List (Int × Arrival)) :
    Configured c (inputs.foldl receive s)
      ∧ view (inputs.foldl receive s) = inputs.foldl (View.receive c) (view s) := by
  induction inputs generalizing s with
  | nil => exact ⟨h, rfl⟩
  | cons input inputs ih =>
    have hadvanced := h.advanceTo input.1
    obtain ⟨hconfigured, hview⟩ := ih (hadvanced.handleAt input.1 input.2)
    refine ⟨hconfigured, hview.trans ?_⟩
    rw [view_handleAt hadvanced, view_advanceTo]
    rfl

end

/-! ### The clock of the view -/

namespace View

variable {c : Settings} {v : View} {now : Int}

/-- Is the timer due by the time? -/
def dueCount (now : Int) (due : Option Int) : Nat := if due.any (· ≤ now) then 1 else 0

/-- The attempts that start by now are one for each timer that is due. -/
theorem length_startsBy (now : Int) (v : View) :
    (startsBy now v).length = dueCount now v.countdownDue + dueCount now v.retryDue := by
  obtain ⟨contact, countsDown, attempts, countdownDue, retryDue, starts⟩ := v
  rcases countdownDue with _ | c <;> rcases retryDue with _ | r <;>
    simp only [startsBy, dueCount, Option.filter, Option.any] <;> grind

/-- No timer of the view is due by the time. -/
def Advanced (now : Int) (v : View) : Prop :=
  (∀ due, v.countdownDue = some due → now < due) ∧ ∀ due, v.retryDue = some due → now < due

/-- After the time has gone on, no timer is overdue. -/
theorem advanced_advanceTo (now : Int) (v : View) : Advanced now (advanceTo now v) := by
  constructor <;>
    exact fun due hdue => of_decide_eq_true (Option.filter_eq_some_iff.mp hdue).2

/-- A clock that starts no attempt up to the time is as it was. -/
theorem advanceTo_of_starts (h : (advanceTo now v).starts = v.starts) : advanceTo now v = v := by
  have hnone : startsBy now v = [] := List.append_right_eq_self.mp h
  have hcount := length_startsBy now v
  rw [hnone, List.length_nil] at hcount
  have hkeep : ∀ due : Option Int, dueCount now due = 0 → due.filter (now < ·) = due := by
    intro due hdue
    rcases due with _ | d
    · rfl
    · simp only [dueCount, Option.any, Option.filter] at hdue ⊢
      grind
  ext1
  · rfl
  · rfl
  · show v.attempts + (startsBy now v).length = v.attempts
    rw [hnone]
    rfl
  · exact hkeep v.countdownDue (by omega)
  · exact hkeep v.retryDue (by omega)
  · exact h

/-- When no timer is due, the time changes nothing. -/
theorem advanceTo_of_advanced (h : Advanced now v) : advanceTo now v = v := by
  obtain ⟨contact, countsDown, attempts, countdownDue, retryDue, starts⟩ := v
  obtain ⟨hcountdown, hretry⟩ := h
  refine advanceTo_of_starts (List.append_right_eq_self.mpr (List.length_eq_zero_iff.mp ?_))
  rw [length_startsBy]
  rcases countdownDue with _ | c <;> rcases retryDue with _ | r <;>
    simp_all [dueCount, Option.any]

/-- An arrival starts no attempt itself. -/
theorem starts_handle (c : Settings) (now : Int) (v : View) (a : Arrival) :
    (handle c now v a).starts = v.starts := by
  cases a with
  | report r =>
    cases r with
    | lock newState => cases newState <;> rfl
    | contact newState => rfl
  | lockAnswered success =>
    simp only [handle]
    split
    · rfl
    · split <;> rfl

/-- The attempts that have started stay on record, at any input. -/
theorem starts_receive (c : Settings) (v : View) (input : Int × Arrival) :
    v.starts <+: (receive c v input).starts := by
  rw [receive, starts_handle]
  exact List.prefix_append ..

/-- The attempts that have started stay on record, in any run. -/
theorem starts_run (c : Settings) (v : View) (inputs : List (Int × Arrival)) :
    v.starts <+: (inputs.foldl (receive c) v).starts := by
  induction inputs generalizing v with
  | nil => exact List.prefix_refl _
  | cons input inputs ih => exact (starts_receive c v input).trans (ih _)

/-- The start times up to the time, seen from the view. -/
def startsUntil (c : Settings) (now : Int) (v : View) (inputs : List (Int × Arrival)) : List Int :=
  (advanceTo now (inputs.foldl (receive c) v)).starts

end View

/-- The start times of a machine are those of its view. -/
theorem startsUntil_eq {c : Settings} {s : AutoLockClock} (h : Configured c s) (later : Int)
    (inputs : List (Int × Arrival)) :
    AutoLockClock.startsUntil later s inputs = View.startsUntil c later (view s) inputs := by
  have hview : view (advanceTo later (inputs.foldl receive s))
      = View.advanceTo later (inputs.foldl (View.receive c) (view s)) := by
    rw [view_advanceTo, (view_run h inputs).2]
  exact congrArg View.starts hview

end CodeMaster.Proofs.Engine.AutoLockView
