import Mathlib.Data.List.Induction
import CodeMaster.Proofs.Engine.NoStall

/-!
# `CodeMaster.Proofs.Engine.StaleAttempt`: reports that overtake a lock attempt

A lock attempt runs outside the object's monitor. `latestReportHolds_iff` compares the end of the
attempt with the reports that came in while it was in flight: when does the last report still
hold right after the end? A success overwrites an `Unlocked` report, and a failure arms a retry
after a `Locked` report.

`Overtaken` is what the reports leave before the end: the lock state is the last report, and an
unlocked machine over a closed door counts down.

The arrivals during the attempt are reports and timers, in any number. The attempt is the only one:
a timer that expires while it is in flight would start another one, and this one's end would then
not be the last word.

`Overtaken` is kept by every arrival, by one lemma for each kind. The end of the attempt is then a
case analysis of the last report and the answer.
-/

set_option autoImplicit false

namespace CodeMaster.Proofs.Engine.StaleAttempt

open CodeMaster.Core CodeMaster.Engine AutoLockStateMachine Exec Transition
open AutoLock AutoLockMethods NoStall

/-- What can arrive while the attempt is in flight: `Locked`, `Unlocked`, a report of the contact,
or the expiry of a timer. -/
def arrives : Event → Bool
  | .lockStateChanged newState => newState = .locked ∨ newState = .unlocked
  | .doorContactChanged _ | .countdownExpired | .retryExpired => true
  | .lockAttemptEnded _ => false

/-- The last report of the lock. -/
def lastReport (during : List Event) : Option LockState :=
  during.foldl (fun last e => match e with
    | .lockStateChanged newState => some newState
    | _ => last) none

/-- The last report of the contact, or the contact that was known before. -/
def contactAfter (contact : DoorContactState) (during : List Event) : DoorContactState :=
  during.foldl (fun c e => match e with
    | .doorContactChanged newState => newState
    | _ => c) contact

/-- The attempt is the only one in flight, at every point. -/
def OnlyAttempt (m : AutoLockStateMachine) (during : List Event) : Prop :=
  ∀ pre, pre <+: during → (pre.foldl step m).attempts = 1

/-- The report still holds: the lock state is the reported one, no retry is armed for a locked
door, and a timer is armed for an unlocked one that is closed and has to be locked again. -/
structure ReportHolds (reported : LockState) (m : AutoLockStateMachine) : Prop where
  lockState : m.lockState = reported
  locked : reported = .locked → m.retryTimer = none
  unlocked : reported = .unlocked → m.retryOnFailure = true → m.doorContactState = .closed →
    m.countdownTimer.isSome = true ∨ m.retryTimer.isSome = true

/-- A success agrees with `Locked` only. A failure agrees with `Locked` when it arms no retry, and
with `Unlocked` when a retry or the countdown can be armed. -/
def Agrees (m : AutoLockStateMachine) (contact : DoorContactState) (reported : LockState) :
    Bool → Prop
  | true => reported = .locked
  | false => (reported = .locked → armsRetry m = false) ∧
    (reported = .unlocked → m.retryOnFailure = true → contact = .closed →
      supportsDelay m.retryDelaySeconds = true ∨ supportsDelay m.lockDelay = true)

/-- A timer is armed when its delay is supported. -/
theorem isSome_armed_iff {delay : Int} :
    (armed delay).isSome = true ↔ supportsDelay delay = true := by
  unfold armed
  split <;> simp_all

/-- A timer is not armed when its delay is not supported. -/
theorem armed_eq_none_iff {delay : Int} : armed delay = none ↔ supportsDelay delay = false := by
  unfold armed
  split <;> simp_all

/-! ### While the attempt is in flight -/

/-- What the reports leave before the attempt ends. -/
structure Overtaken (m0 : AutoLockStateMachine) (during : List Event)
    (m : AutoLockStateMachine) : Prop where
  settings : settings m = settings m0
  contact : m.doorContactState = contactAfter m0.doorContactState during
  reported : ∀ state, lastReport during = some state → m.lockState = state
  countdown : lastReport during = some .unlocked → m.doorContactState = .closed →
    m.countdownTimer = armed m0.lockDelay

section
variable {m0 m : AutoLockStateMachine} {during : List Event}

/-- The delay of the countdown is in the settings. -/
theorem lockDelay_congr {c c' : AutoLockStateMachine} (h : settings c = settings c') :
    c.lockDelay = c'.lockDelay := by
  have hday : c.daySeconds = c'.daySeconds := congrArg Settings.daySeconds h
  have hnight : c.nightSeconds = c'.nightSeconds := congrArg Settings.nightSeconds h
  have hisNight : c.isNight = c'.isNight := congrArg Settings.isNight h
  unfold AutoLockStateMachine.lockDelay
  rw [hday, hnight, hisNight]

/-- Without a report of the lock, nothing is asked of the machine but its contact. -/
theorem overtaken_nil (m0 : AutoLockStateMachine) : Overtaken m0 [] m0 where
  settings := rfl
  contact := rfl
  reported state h := by cases h
  countdown h := by cases h

/-- A report of the lock during the attempt: the answer of the attempt does not know of it. -/
theorem Overtaken.lockStateChanged (h : Overtaken m0 during m) (hen : m0.isEnabled = true)
    {newState : LockState} (harrives : arrives (.lockStateChanged newState) = true) :
    Overtaken m0 (during ++ [.lockStateChanged newState])
      (step m (.lockStateChanged newState)) := by
  have hlast : lastReport (during ++ [.lockStateChanged newState]) = some newState := by
    simp [lastReport]
  have hcontact : contactAfter m0.doorContactState (during ++ [.lockStateChanged newState])
      = contactAfter m0.doorContactState during := by
    simp [contactAfter]
  have hmen : m.isEnabled = true := (congrArg Settings.isEnabled h.settings).trans hen
  rw [step_of_enabled rfl]
  show Overtaken m0 _ (after (onLockStateChanged newState) m)
  refine ⟨(settings_onLockStateChanged m newState).trans h.settings, ?_, fun state hstate => ?_,
    fun hunlocked hclosed => ?_⟩
  · rw [onLockStateChanged_contact, h.contact, hcontact]
  · rw [hlast] at hstate
    cases hstate
    exact onLockStateChanged_lockState m newState
  · rw [hlast] at hunlocked
    cases hunlocked
    rw [onLockStateChanged_contact] at hclosed
    rw [after_onLockStateChanged, if_pos hmen]
    simp only [hclosed, reduceCtorEq, if_false]
    rw [lockDelay_congr h.settings]

/-- A report of the contact during the attempt. -/
theorem Overtaken.doorContactChanged (h : Overtaken m0 during m) (hen : m0.isEnabled = true)
    (newState : DoorContactState) :
    Overtaken m0 (during ++ [.doorContactChanged newState])
      (step m (.doorContactChanged newState)) := by
  have hlast : lastReport (during ++ [.doorContactChanged newState]) = lastReport during := by
    simp [lastReport]
  have hcontact : contactAfter m0.doorContactState (during ++ [.doorContactChanged newState])
      = newState := by
    simp [contactAfter]
  have hmen : m.isEnabled = true := (congrArg Settings.isEnabled h.settings).trans hen
  rw [step_of_enabled rfl]
  show Overtaken m0 _ (after (onDoorContactChanged newState) m)
  refine ⟨(settings_onDoorContactChanged m newState).trans h.settings, ?_, fun state hstate => ?_,
    fun hunlocked hclosed => ?_⟩
  · rw [onDoorContactChanged_contact, hcontact]
  · rw [onDoorContactChanged_lockState]
    exact h.reported state (hlast ▸ hstate)
  · rw [onDoorContactChanged_contact] at hclosed
    subst hclosed
    have hlock := h.reported .unlocked (hlast ▸ hunlocked)
    rw [after_onDoorContactChanged, if_pos hmen, if_pos hlock]
    exact congrArg armed (lockDelay_congr h.settings)

/-- An expiry of an armed timer would start a second attempt. -/
theorem step_expired_of_attempts {e : Event} (he : e = .countdownExpired ∨ e = .retryExpired)
    (hattempts : (step m e).attempts = m.attempts) : step m e = m := by
  unfold step at hattempts ⊢
  split
  · rename_i henabled
    rw [if_pos henabled] at hattempts
    rcases he with rfl | rfl
    · exact absurd hattempts (Nat.succ_ne_self m.attempts)
    · exact absurd hattempts (Nat.succ_ne_self m.attempts)
  · rfl

/-- A timer that expires during the attempt starts another one. -/
theorem Overtaken.expired (h : Overtaken m0 during m) {e : Event}
    (he : e = .countdownExpired ∨ e = .retryExpired)
    (hattempts : (step m e).attempts = m.attempts) : Overtaken m0 (during ++ [e]) (step m e) := by
  have hlast : lastReport (during ++ [e]) = lastReport during := by
    rcases he with rfl | rfl <;> simp [lastReport]
  have hcontact : contactAfter m0.doorContactState (during ++ [e])
      = contactAfter m0.doorContactState during := by
    rcases he with rfl | rfl <;> simp [contactAfter]
  rw [step_expired_of_attempts he hattempts]
  exact ⟨h.settings, h.contact.trans hcontact.symm, fun state hstate =>
    h.reported state (hlast ▸ hstate), fun hunlocked => h.countdown (hlast ▸ hunlocked)⟩

/-- The run lemma, by induction on the events from the last one. -/
theorem overtaken (hen : m0.isEnabled = true) (harrives : ∀ e ∈ during, arrives e = true)
    (honly : OnlyAttempt m0 during) : Overtaken m0 during (during.foldl step m0) := by
  induction during using List.reverseRecOn with
  | nil => exact overtaken_nil m0
  | append_singleton during e ih =>
    have hpre : OnlyAttempt m0 during := fun pre h => honly pre (h.trans (List.prefix_append ..))
    have hovertaken := ih (fun e' h => harrives e' (List.mem_append_left _ h)) hpre
    have he := harrives e (List.mem_append_right _ (List.mem_singleton.mpr rfl))
    have hafter := honly (during ++ [e]) (List.prefix_refl _)
    rw [List.foldl_append, List.foldl_cons, List.foldl_nil] at hafter ⊢
    have hattempts : (step (during.foldl step m0) e).attempts
        = (during.foldl step m0).attempts :=
      hafter.trans (hpre during (List.prefix_refl _)).symm
    cases e with
    | lockStateChanged newState => exact hovertaken.lockStateChanged hen he
    | doorContactChanged newState => exact hovertaken.doorContactChanged hen newState
    | countdownExpired => exact hovertaken.expired (Or.inl rfl) hattempts
    | retryExpired => exact hovertaken.expired (Or.inr rfl) hattempts
    | lockAttemptEnded success => cases he

/-! ### The end of the attempt -/

/-- The last report still holds after the attempt if and only if the outcome agrees with it. -/
theorem Overtaken.reportHolds_iff (h : Overtaken m0 during m) {reported : LockState}
    (hlast : lastReport during = some reported) (hattempts : m.attempts = 1) (success : Bool) :
    ReportHolds reported (step m (.lockAttemptEnded success))
      ↔ Agrees m0 (contactAfter m0.doorContactState during) reported success := by
  have hretry : m.retryOnFailure = m0.retryOnFailure :=
    congrArg Settings.retryOnFailure h.settings
  have hdelay : m.retryDelaySeconds = m0.retryDelaySeconds :=
    congrArg Settings.retryDelaySeconds h.settings
  have henabled : m.enabled (.lockAttemptEnded success) = true := by
    simp [enabled, hattempts]
  rw [step_of_enabled henabled]
  show ReportHolds reported (after (endLockAttempt success) m) ↔ _
  rw [after_endLockAttempt]
  cases success with
  | true =>
    rw [if_pos rfl]
    constructor
    · exact fun hholds => hholds.lockState.symm
    · intro hlocked
      have hreported : reported = .locked := hlocked
      subst hreported
      exact ⟨rfl, fun _ => rfl, fun hunlocked => by cases hunlocked⟩
  | false =>
    have hlock := h.reported reported hlast
    simp only [Bool.false_eq_true, if_false]
    by_cases hon : m.retryOnFailure = true
    · rw [if_pos hon]
      constructor
      · intro hholds
        refine ⟨fun hlocked => ?_, fun hunlocked _ hclosed => ?_⟩
        · have hnone : armed m.retryDelaySeconds = none := hholds.locked hlocked
          rw [armsRetry, ← hretry, ← hdelay, hon, Bool.true_and]
          exact armed_eq_none_iff.mp hnone
        · subst hunlocked
          have hdoor : m.doorContactState = .closed := h.contact.trans hclosed
          have harmed := hholds.unlocked rfl hon hdoor
          rw [h.countdown hlast hdoor, isSome_armed_iff, isSome_armed_iff, hdelay] at harmed
          exact harmed.symm
      · rintro ⟨hlocked, hunlocked⟩
        refine ⟨hlock, fun hreported => ?_, fun hreported _ hclosed => ?_⟩
        · have hnot := hlocked hreported
          rw [armsRetry, ← hretry, ← hdelay, hon, Bool.true_and] at hnot
          exact armed_eq_none_iff.mpr hnot
        · have hdoor : m.doorContactState = .closed := hclosed
          have hdelays := hunlocked hreported (hretry ▸ hon) (h.contact.symm.trans hdoor)
          rw [h.countdown (hreported ▸ hlast) hdoor, isSome_armed_iff, isSome_armed_iff, hdelay]
          exact hdelays.symm
    · -- Without retries a failure cancels both timers, and leaves the reports as they are.
      rw [if_neg hon]
      have hoff : m0.retryOnFailure = false := by simpa [hretry] using hon
      refine iff_of_true ⟨hlock, fun _ => rfl, fun _ h' => absurd h' hon⟩
        ⟨fun _ => ?_, fun _ h' => ?_⟩
      · rw [armsRetry, hoff, Bool.false_and]
      · rw [hoff] at h'
        cases h'

end

/-! ### Runs -/

/-- A report that came in while the only attempt in flight was under way still holds right after
its end if and only if the outcome agrees with it. -/
theorem latestReportHolds_iff (m : AutoLockStateMachine) (hen : m.isEnabled = true)
    (during : List Event) (harrives : ∀ e ∈ during, arrives e = true)
    (honly : OnlyAttempt m during) (reported : LockState)
    (hlast : lastReport during = some reported) (success : Bool) :
    ReportHolds reported (step (during.foldl step m) (.lockAttemptEnded success))
      ↔ Agrees m (contactAfter m.doorContactState during) reported success :=
  (overtaken hen harrives honly).reportHolds_iff hlast (honly during (List.prefix_refl _)) success

/-- The door is unlocked, and the countdown has started an attempt. -/
def attempting : AutoLockStateMachine :=
  [Event.lockStateChanged .unlocked, .countdownExpired].foldl step (start 60 none true 15 false)

/-- One event during the attempt leaves it the only one when it starts no other. -/
theorem onlyAttempt_singleton {m : AutoLockStateMachine} {e : Event} (hm : m.attempts = 1)
    (he : (step m e).attempts = 1) : OnlyAttempt m [e] := by
  intro pre hpre
  cases pre with
  | nil => exact hm
  | cons e' pre =>
    obtain ⟨rfl, hrest⟩ := List.cons_prefix_cons.mp hpre
    rw [List.prefix_nil.mp hrest]
    exact he

/-- The lock reports `Locked`, and the attempt succeeds. -/
theorem latestReportHolds_attempting :
    ReportHolds .locked (step ([.lockStateChanged .locked].foldl step attempting)
      (.lockAttemptEnded true)) :=
  (latestReportHolds_iff attempting (by decide) [.lockStateChanged .locked] (by decide)
    (onlyAttempt_singleton (by decide) (by decide)) .locked (by decide) true).mpr rfl

/-- Someone unlocks the door while the attempt is under way, and its success overwrites that. -/
theorem success_overwrites_unlocked :
    ¬ ∀ (es during : List Event) (reported : LockState) (success : Bool),
      (∀ e ∈ during, arrives e = true) →
      OnlyAttempt (es.foldl step (start 60 none true 15 false)) during →
      lastReport during = some reported →
      ReportHolds reported
        (step (during.foldl step (es.foldl step (start 60 none true 15 false)))
          (.lockAttemptEnded success)) := by
  intro h
  have hholds := h [.lockStateChanged .unlocked, .countdownExpired] [.lockStateChanged .unlocked]
    .unlocked true (by decide) (onlyAttempt_singleton (by decide) (by decide)) (by decide)
  exact absurd hholds.lockState (by decide)

end CodeMaster.Proofs.Engine.StaleAttempt
