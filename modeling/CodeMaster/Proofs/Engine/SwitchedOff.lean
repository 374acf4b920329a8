import CodeMaster.Proofs.Engine.NoStall

/-!
# `CodeMaster.Proofs.Engine.SwitchedOff`: is a machine that is off quiet?

`IsEnabled` has a plain setter. The reports look at it and cancel both timers, but the setter
does not, and neither the expiry of a timer nor the end of an attempt looks at it.

`Quiet` is the invariant: a machine that is off has no timer armed. `quiet_receive_iff` is the step
lemma, and `onAtExpiry_iff` the run theorem.

The inputs are the events of the machine and the assignments of its settings, in any order. Two of
them can break `Quiet`: an assignment that switches the machine off while a timer is armed, and a
failed attempt of a machine that is off, which arms the retry without a look at the switch.

For a run, each of whose steps meets the condition, the machine is quiet in every state that is
reached, and a timer that expires finds the machine on. The condition is on the input and on the
state before it.
-/

set_option autoImplicit false

namespace CodeMaster.Proofs.Engine.SwitchedOff

open CodeMaster.Core CodeMaster.Engine AutoLockStateMachine Exec Transition
open AutoLock AutoLockMethods NoStall

/-- A machine that is off has no timer armed. -/
def Quiet (m : AutoLockStateMachine) : Prop :=
  m.isEnabled = false → m.countdownTimer = none ∧ m.retryTimer = none

/-- The inputs that leave no timer armed on a machine that is off. It may be switched off only when
no timer is armed, and an attempt that fails while it is off must not arm a retry. -/
def KeepsQuiet (m : AutoLockStateMachine) : Input → Prop
  | .set c => c.isEnabled = false → m.countdownTimer = none ∧ m.retryTimer = none
  | .event (.lockAttemptEnded false) =>
    0 < m.attempts → m.isEnabled = false → armsRetry m = false
  | .event _ => True

/-- At every point of the run, a timer that expires there finds the machine on. -/
def OnAtExpiry (m : AutoLockStateMachine) (inputs : List Input) : Prop :=
  ∀ pre, pre <+: inputs → ∀ e, startsAttempt (pre.foldl receive m) e = true →
    (pre.foldl receive m).isEnabled = true

section
variable {m : AutoLockStateMachine}

/-- A machine that is on has nothing to be quiet about. -/
theorem quiet_of_enabled (hen : m.isEnabled = true) : Quiet m := by
  intro hoff
  rw [hen] at hoff
  cases hoff

/-- What the invariant is for: an attempt is started by a machine that is on. -/
theorem quiet_iff_startsAttempt :
    Quiet m ↔ ∀ e, startsAttempt m e = true → m.isEnabled = true := by
  rw [← unarmed_unless_iff, Quiet, Bool.not_eq_true]

/-! ### The step lemma -/

/-- No event switches the machine. -/
theorem step_isEnabled_eq (e : Event) : (step m e).isEnabled = m.isEnabled :=
  congrArg Settings.isEnabled (settings_step m e)

/-- The end of an attempt keeps a machine that is off quiet, unless it arms a retry. -/
theorem quiet_endLockAttempt_iff (hoff : m.isEnabled = false) (hm : Quiet m) (success : Bool) :
    Quiet (after (endLockAttempt success) m) ↔ (success = false → armsRetry m = false) := by
  obtain ⟨hcountdown, -⟩ := hm hoff
  rw [after_endLockAttempt]
  unfold Quiet armsRetry
  cases success with
  | true => simp
  | false =>
    cases hretry : m.retryOnFailure with
    | false => simp
    | true => cases h : supportsDelay m.retryDelaySeconds <;> simp [hoff, hcountdown, armed, h]

/-- An event keeps a machine that is off quiet, unless it is a failure that arms a retry. -/
theorem quiet_step_iff (hm : Quiet m) (e : Event) :
    Quiet (step m e) ↔ KeepsQuiet m (.event e) := by
  cases hen : m.isEnabled with
  | true =>
    refine iff_of_true (quiet_of_enabled ((step_isEnabled_eq e).trans hen)) ?_
    unfold KeepsQuiet
    split <;> simp_all
  | false =>
    obtain ⟨hcountdown, hretry⟩ := hm hen
    by_cases he : m.enabled e = true
    · rw [step_of_enabled he]
      cases e with
      | lockStateChanged newState =>
        show Quiet (after (onLockStateChanged newState) m) ↔ True
        rw [after_onLockStateChanged, if_neg (by simp [hen])]
        exact iff_of_true (fun _ => ⟨rfl, rfl⟩) trivial
      | doorContactChanged newState =>
        show Quiet (after (onDoorContactChanged newState) m) ↔ True
        rw [after_onDoorContactChanged, if_neg (by simp [hen])]
        exact iff_of_true (fun _ => ⟨rfl, rfl⟩) trivial
      | countdownExpired | retryExpired =>
        -- Without an armed timer there is no expiry.
        simp [enabled, hcountdown, hretry] at he
      | lockAttemptEnded success =>
        have hattempts : 0 < m.attempts := by simpa [enabled] using he
        refine (quiet_endLockAttempt_iff hen hm success).trans ?_
        cases success <;> simp [KeepsQuiet, hattempts, hen]
    · rw [step, if_neg he]
      refine iff_of_true hm ?_
      cases e with
      | lockAttemptEnded success =>
        have hattempts : ¬ 0 < m.attempts := by simpa [enabled] using he
        cases success with
        | true => trivial
        | false => exact fun h => absurd h hattempts
      | _ => trivial

/-- Exactly when an input leaves the machine quiet. The step lemma. -/
theorem quiet_receive_iff (hm : Quiet m) (input : Input) :
    Quiet (receive m input) ↔ KeepsQuiet m input := by
  cases input with
  | event e => exact quiet_step_iff hm e
  | set c => exact Iff.rfl

end

/-- From a machine as its constructors leave it, a timer that expires finds the machine on, at
every point of a run, if and only if every input of the run meets `KeepsQuiet`. -/
theorem onAtExpiry_iff (timeoutSeconds : Int) (nightSeconds : Option Int) (retryOnFailure : Bool)
    (retryDelaySeconds : Int) (isEnabled : Bool) (inputs : List Input) :
    OnAtExpiry
        (create timeoutSeconds nightSeconds retryOnFailure retryDelaySeconds isEnabled) inputs
      ↔ StepsMeet receive KeepsQuiet
          (create timeoutSeconds nightSeconds retryOnFailure retryDelaySeconds isEnabled)
          inputs := by
  have hstart : Quiet
      (create timeoutSeconds nightSeconds retryOnFailure retryDelaySeconds isEnabled) :=
    fun _ => ⟨rfl, rfl⟩
  rw [← stepsMeet_iff (I := Quiet) (fun m input hm => quiet_receive_iff hm input) inputs _ hstart]
  exact forall₂_congr fun pre _ => quiet_iff_startsAttempt.symm

/-- The door is unlocked, auto-lock is switched off, and the countdown goes on to its end. -/
theorem countdown_outlives_auto_lock :
    ¬ ∀ inputs : List Input, OnAtExpiry (create 60 none true 15 true) inputs := by
  intro h
  have hon := h [.event (.lockStateChanged .unlocked), .set ⟨false, 60, 60, true, 15, false⟩] _
    List.prefix_rfl .countdownExpired (by decide)
  exact absurd hon (by decide)

end CodeMaster.Proofs.Engine.SwitchedOff
