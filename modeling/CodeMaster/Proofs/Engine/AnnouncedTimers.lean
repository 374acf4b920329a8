import CodeMaster.Proofs.Engine.NoStall

/-!
# `CodeMaster.Proofs.Engine.AnnouncedTimers`: does the status announce the armed timer?

`Announced` is the invariant, wherever no attempt is in flight: a countdown is armed only while
the machine counts down, and a retry only while it waits for one. A report of the lock cancels
the other timer. A report of the contact leaves a pending retry, and a failed attempt leaves a
countdown that was armed while it ran. `KeepsAnnounced` says when these two find nothing to leave.

The status is what the user interface and Home Assistant are told, so that a timer without its
status is one that nobody sees. With an attempt in flight nothing is asked, because the status is
then about the attempt.

The run theorem is for machines that are on and retry, with any delays. The condition is on an event
and on the machine before it.
-/

set_option autoImplicit false

namespace CodeMaster.Proofs.Engine.AnnouncedTimers

open CodeMaster.Core CodeMaster.Engine AutoLockStateMachine Transition
open AutoLock (start)
open AutoLockMethods (after armed after_onLockStateChanged after_onDoorContactChanged
  after_endLockAttempt settings_step)
open NoStall (StaysOn step_of_enabled)

/-- Each armed timer is the one that the status announces. -/
structure Announced (m : AutoLockStateMachine) : Prop where
  countdown : m.countdownTimer.isSome = true → m.status = .countingDown
  retry : m.retryTimer.isSome = true → m.status = .jammedRetry

/-- What the status says about the timers while no attempt is in flight: each armed timer has its
status, so that at most one is armed, and none in a status that waits for no timer. -/
structure Coherent (m : AutoLockStateMachine) : Prop extends Announced m where
  notBoth : ¬(m.countdownTimer.isSome = true ∧ m.retryTimer.isSome = true)
  noneArmed : m.status = .locked ∨ m.status = .idle ∨ m.status = .pausedDoorOpen →
    m.countdownTimer = none ∧ m.retryTimer = none

section
variable {m : AutoLockStateMachine}

/-- The status and the timers are coherent when the timers are announced. -/
theorem coherent_iff_announced : Coherent m ↔ Announced m := by
  refine ⟨Coherent.toAnnounced, fun h => { h with notBoth := ?_, noneArmed := ?_ }⟩
  · rintro ⟨hcountdown, hretry⟩
    have hstatus := (h.countdown hcountdown).symm.trans (h.retry hretry)
    cases hstatus
  · intro hstatus
    have hcountdown : ¬m.countdownTimer.isSome = true := by
      intro harmed
      simp [h.countdown harmed] at hstatus
    have hretry : ¬m.retryTimer.isSome = true := by
      intro harmed
      simp [h.retry harmed] at hstatus
    exact ⟨by simpa using hcountdown, by simpa using hretry⟩

/-- The steps that leave no timer behind. With no attempt in flight, the contact of an unlocked
door may change only when no retry is pending, unless the countdown's delay is refused. The last
attempt in flight may fail only when no countdown is armed. -/
def KeepsAnnounced (m : AutoLockStateMachine) : Event → Prop
  | .doorContactChanged newState =>
    m.attempts = 0 → m.lockState = .unlocked →
      newState = .open ∨ supportsDelay m.lockDelay = true → m.retryTimer = none
  | .lockAttemptEnded false => m.attempts = 1 → m.countdownTimer = none
  | _ => True

/-! ### The step lemma, one handler after the other -/

/-- Without a timer there is nothing to announce. -/
theorem announced_of_none (hcountdown : m.countdownTimer = none) (hretry : m.retryTimer = none) :
    Announced m :=
  ⟨by simp [hcountdown], by simp [hretry]⟩

/-- A report of the lock writes the status together with the timers. -/
theorem announced_onLockStateChanged (hon : StaysOn (settings m)) (h : Announced m)
    (newState : LockState) : Announced (after (onLockStateChanged newState) m) := by
  have hen : m.isEnabled = true := hon.isEnabled
  have hretry : m.retryOnFailure = true := hon.retryOnFailure
  rw [after_onLockStateChanged, if_pos hen]
  cases newState with
  | locked => exact announced_of_none rfl rfl
  | unlocked =>
    dsimp only
    split
    · exact announced_of_none rfl rfl
    · cases hdelay : supportsDelay m.lockDelay with
      | true => exact ⟨fun _ => rfl, by simp⟩
      | false => exact announced_of_none (by simp [armed, hdelay]) rfl
  | jammed =>
    dsimp only
    rw [if_pos hretry]
    exact ⟨by simp, fun _ => rfl⟩
  | unknown => exact ⟨h.countdown, h.retry⟩

/-- The handler of the contact cancels or arms the countdown, and leaves the retry. -/
theorem announced_onDoorContactChanged_iff (hon : StaysOn (settings m)) (h : Announced m)
    (hattempts : m.attempts = 0) (newState : DoorContactState) :
    Announced (after (onDoorContactChanged newState) m)
      ↔ KeepsAnnounced m (.doorContactChanged newState) := by
  have hen : m.isEnabled = true := hon.isEnabled
  rw [after_onDoorContactChanged, if_pos hen]
  by_cases hlock : m.lockState = .unlocked
  · rw [if_pos hlock]
    cases newState with
    | «open» =>
      simp only [KeepsAnnounced, hattempts, hlock, true_implies, true_or]
      constructor
      · intro hleft
        by_contra hretry
        have hstatus := hleft.retry (Option.isSome_iff_ne_none.mpr hretry)
        cases hstatus
      · exact fun hretry => announced_of_none rfl hretry
    | closed =>
      cases hdelay : supportsDelay m.lockDelay with
      | true =>
        simp only [KeepsAnnounced, hattempts, hlock, hdelay, true_implies, or_true]
        constructor
        · intro hleft
          by_contra hretry
          have hstatus := hleft.retry (Option.isSome_iff_ne_none.mpr hretry)
          cases hstatus
        · exact fun hretry => ⟨fun _ => rfl, by simp [hretry]⟩
      | false =>
        -- `CreateTimer` throws before the status is set, so a pending retry keeps its status.
        refine iff_of_true ⟨by simp [armed, hdelay], h.retry⟩ ?_
        simp [KeepsAnnounced, hdelay]
  · rw [if_neg hlock]
    exact iff_of_true ⟨h.countdown, h.retry⟩ fun _ hunlocked => absurd hunlocked hlock

/-- A failed attempt arms the retry, and leaves the countdown. -/
theorem announced_endLockAttempt_iff (hon : StaysOn (settings m)) (hattempts : m.attempts = 1)
    (success : Bool) :
    Announced (after (endLockAttempt success) m)
      ↔ KeepsAnnounced m (.lockAttemptEnded success) := by
  have hretry : m.retryOnFailure = true := hon.retryOnFailure
  rw [after_endLockAttempt]
  cases success with
  | true => exact iff_of_true (announced_of_none rfl rfl) trivial
  | false =>
    rw [if_neg Bool.false_ne_true, if_pos hretry]
    simp only [KeepsAnnounced, hattempts, true_implies]
    constructor
    · intro hleft
      by_contra hcountdown
      have hstatus := hleft.countdown (Option.isSome_iff_ne_none.mpr hcountdown)
      cases hstatus
    · exact fun hcountdown => ⟨by simp [hcountdown], fun _ => rfl⟩

/-! ### The step lemma -/

/-- A report of the lock leaves the attempts. -/
theorem attempts_onLockStateChanged (newState : LockState) :
    (after (onLockStateChanged newState) m).attempts = m.attempts := by
  rw [after_onLockStateChanged]
  split
  · cases newState with
    | unlocked => dsimp only; split <;> rfl
    | jammed => dsimp only; split <;> rfl
    | _ => rfl
  · rfl

/-- A report of the contact leaves the attempts. -/
theorem attempts_onDoorContactChanged (newState : DoorContactState) :
    (after (onDoorContactChanged newState) m).attempts = m.attempts := by
  rw [after_onDoorContactChanged]
  split
  · split
    · cases newState <;> rfl
    · rfl
  · rfl

/-- The end of an attempt takes one attempt away. -/
theorem attempts_endLockAttempt (success : Bool) :
    (after (endLockAttempt success) m).attempts = m.attempts - 1 := by
  rw [after_endLockAttempt]
  split
  · rfl
  · split <;> rfl

/-- The invariant of a run. It says nothing while an attempt is in flight. -/
def AnnouncedAtRest (m : AutoLockStateMachine) : Prop := m.attempts = 0 → Announced m

/-- With an attempt in flight nothing is asked. -/
theorem announcedAtRest_of_pos (hpos : 0 < m.attempts) : AnnouncedAtRest m := by
  intro hnone
  omega

/-- Without an attempt in flight the timers are announced. -/
theorem announcedAtRest_iff (hnone : m.attempts = 0) : AnnouncedAtRest m ↔ Announced m :=
  imp_iff_right hnone

/-- A step keeps the invariant exactly when it leaves no timer behind. -/
theorem announcedAtRest_step_iff (hon : StaysOn (settings m)) (h : AnnouncedAtRest m) (e : Event) :
    AnnouncedAtRest (m.step e) ↔ KeepsAnnounced m e := by
  by_cases henabled : m.enabled e = true
  · rw [step_of_enabled henabled]
    cases e with
    | lockStateChanged newState =>
      refine iff_of_true (fun hnone => ?_) trivial
      rw [handle, attempts_onLockStateChanged] at hnone
      exact announced_onLockStateChanged hon (h hnone) newState
    | doorContactChanged newState =>
      have hattempts := @attempts_onDoorContactChanged m newState
      by_cases hnone : m.attempts = 0
      · rw [handle, announcedAtRest_iff (hattempts.trans hnone)]
        exact announced_onDoorContactChanged_iff hon (h hnone) hnone newState
      · refine iff_of_true (announcedAtRest_of_pos ?_) fun hzero => absurd hzero hnone
        show 0 < (after (onDoorContactChanged newState) m).attempts
        omega
    | countdownExpired | retryExpired =>
      exact iff_of_true (announcedAtRest_of_pos (Nat.succ_pos m.attempts)) trivial
    | lockAttemptEnded success =>
      have hattempts := @attempts_endLockAttempt m success
      have hpos : 0 < m.attempts := by simpa [enabled] using henabled
      by_cases hone : m.attempts = 1
      · rw [announcedAtRest_iff (show _ = 0 by rw [handle, hattempts, hone])]
        exact announced_endLockAttempt_iff hon hone success
      · -- Another attempt is still in flight.
        refine iff_of_true (announcedAtRest_of_pos ?_) ?_
        · show 0 < (after (endLockAttempt success) m).attempts
          omega
        · cases success with
          | true => trivial
          | false => exact fun hzero => absurd hzero hone
  · rw [step, if_neg henabled]
    refine iff_of_true h ?_
    cases e with
    | lockAttemptEnded success =>
      have hnone : m.attempts = 0 := by simpa [enabled] using henabled
      cases success with
      | true => trivial
      | false => exact fun hone => by omega
    | doorContactChanged newState => exact absurd rfl henabled
    | lockStateChanged | countdownExpired | retryExpired => trivial

end

/-! ### Runs -/

/-- At every point of the run at which no attempt is in flight, the status announces the armed
timer, if any. -/
def CoherentAtRest (m : AutoLockStateMachine) (es : List Event) : Prop :=
  ∀ pre, pre <+: es → (pre.foldl step m).attempts = 0 → Coherent (pre.foldl step m)

/-- With auto-lock on and failures retried, the timers agree with the status throughout a run if
and only if every step of the run leaves no timer behind. -/
theorem coherentAtRest_iff (timeoutSeconds : Int) (nightSeconds : Option Int)
    (retryDelaySeconds : Int) (isNight : Bool) (es : List Event) :
    CoherentAtRest (start timeoutSeconds nightSeconds true retryDelaySeconds isNight) es
      ↔ StepsMeet step KeepsAnnounced
          (start timeoutSeconds nightSeconds true retryDelaySeconds isNight) es := by
  have hcontext : ∀ (m : AutoLockStateMachine) (e : Event), StaysOn (settings m) →
      StaysOn (settings (step m e)) := by
    intro m e hon
    rw [settings_step]
    exact hon
  have hstep : ∀ (m : AutoLockStateMachine) (e : Event), StaysOn (settings m) →
      AnnouncedAtRest m → (AnnouncedAtRest (step m e) ↔ KeepsAnnounced m e) :=
    fun m e hon h => announcedAtRest_step_iff hon h e
  refine Iff.trans ?_
    (stepsMeet_iff_of_context hcontext hstep es _ ⟨rfl, rfl⟩ fun _ => announced_of_none rfl rfl)
  exact forall₂_congr fun pre _ => imp_congr_right fun _ => coherent_iff_announced

/-- The door is unlocked, the countdown expires, the attempt fails, and the door opens: the machine
is paused, and the retry is still armed. -/
theorem retry_armed_over_pause :
    ¬∀ es : List Event, CoherentAtRest (start 60 none true 15 false) es := by
  intro h
  have hcoherent := h [.lockStateChanged .unlocked, .countdownExpired, .lockAttemptEnded false,
    .doorContactChanged .open] _ List.prefix_rfl (by decide)
  have hnone := (hcoherent.noneArmed (Or.inr (Or.inr (by decide)))).2
  exact absurd hnone (by decide)

end CodeMaster.Proofs.Engine.AnnouncedTimers
