import CodeMaster.Proofs.Engine.AutoLockMethods

/-!
# `CodeMaster.Proofs.Engine.NoStall`: something always drives the machine on

A machine that counts down or waits for a retry has the timer armed or a lock attempt in
flight, and so has an unlocked machine over a closed door. `Driven` and `DrivenToLock` are
the invariants. The step lemmas need the delays to be ones that the timer accepts, and the
second one a machine that is enabled and retries. The properties may be set at any point.

Any number of attempts may be in flight, because an attempt that waits for the lock does not keep
the machine from arming a timer that starts another one. So the properties are about counts of
attempts, not about a flag.

The run lemma is for runs of events and of new settings. A new setting can only be one with
supported delays, and for the second property one that leaves the machine on and retrying.
`never_stalls` has both properties for every such run.
-/

set_option autoImplicit false

namespace CodeMaster.Proofs.Engine.NoStall

open CodeMaster.Core CodeMaster.Engine AutoLockStateMachine Exec Transition
open AutoLock AutoLockMethods

/-- The delays are ones that `CreateTimer` supports. -/
structure AcceptsDelays (c : Settings) : Prop where
  day : supportsDelay c.daySeconds = true
  night : supportsDelay c.nightSeconds = true
  retry : supportsDelay c.retryDelaySeconds = true

/-- Auto-lock is on, and a failed attempt is repeated. -/
structure StaysOn (c : Settings) : Prop where
  isEnabled : c.isEnabled = true
  retryOnFailure : c.retryOnFailure = true

/-- A status that waits for something has it pending. -/
structure Driven (m : AutoLockStateMachine) : Prop where
  countingDown : m.status = .countingDown → m.countdownTimer.isSome = true ∨ 0 < m.attempts
  jammedRetry : m.status = .jammedRetry → m.retryTimer.isSome = true ∨ 0 < m.attempts

/-- An unlocked machine over a closed door has a timer armed or an attempt in flight. -/
def DrivenToLock (m : AutoLockStateMachine) : Prop :=
  m.lockState = .unlocked → m.doorContactState = .closed →
    m.countdownTimer.isSome = true ∨ m.retryTimer.isSome = true ∨ 0 < m.attempts

section
variable {m : AutoLockStateMachine}

/-- A machine with supported delays accepts its countdown, by day and by night. -/
theorem AcceptsDelays.lockDelay (h : AcceptsDelays (settings m)) :
    supportsDelay m.lockDelay = true := by
  unfold AutoLockStateMachine.lockDelay
  split
  · exact h.night
  · exact h.day

/-- A timer with a supported delay is armed. -/
theorem isSome_armed {delay : Int} (h : supportsDelay delay = true) :
    (armed delay).isSome = true := by
  rw [armed, if_pos h]
  rfl

/-! ### The reports -/

/-- A report of the lock leaves the machine driven: a status that waits has just been given what it
waits for. -/
theorem driven_onLockStateChanged (hacc : AcceptsDelays (settings m)) (h : Driven m)
    (newState : LockState) : Driven (after (onLockStateChanged newState) m) := by
  rw [after_onLockStateChanged]
  cases m.isEnabled with
  | false => exact ⟨nofun, nofun⟩
  | true =>
    simp only [if_true]
    cases newState with
    | locked => exact ⟨nofun, nofun⟩
    | unlocked =>
      dsimp only
      split
      · exact ⟨nofun, nofun⟩
      · rw [if_pos hacc.lockDelay]
        exact ⟨fun _ => Or.inl (isSome_armed hacc.lockDelay), nofun⟩
    | jammed =>
      dsimp only
      split
      · exact ⟨nofun, fun _ => Or.inl (isSome_armed hacc.retry)⟩
      · exact ⟨nofun, nofun⟩
    | unknown => exact ⟨h.countingDown, h.jammedRetry⟩

/-- A report of the contact leaves the machine driven. -/
theorem driven_onDoorContactChanged (hacc : AcceptsDelays (settings m)) (h : Driven m)
    (newState : DoorContactState) : Driven (after (onDoorContactChanged newState) m) := by
  rw [after_onDoorContactChanged]
  split
  · split
    · cases newState with
      | «open» => exact ⟨nofun, nofun⟩
      | closed =>
        dsimp only
        rw [if_pos hacc.lockDelay]
        exact ⟨fun _ => Or.inl (isSome_armed hacc.lockDelay), nofun⟩
    · exact ⟨h.countingDown, h.jammedRetry⟩
  · exact ⟨nofun, nofun⟩

/-- A report of the lock leaves the machine driven to lock. -/
theorem drivenToLock_onLockStateChanged (hacc : AcceptsDelays (settings m))
    (hon : StaysOn (settings m)) (newState : LockState) :
    DrivenToLock (after (onLockStateChanged newState) m) := by
  intro hlock hdoor
  rw [onLockStateChanged_lockState] at hlock
  rw [onLockStateChanged_contact] at hdoor
  subst hlock
  have hen : m.isEnabled = true := hon.isEnabled
  rw [after_onLockStateChanged]
  simp [hen, hdoor, isSome_armed hacc.lockDelay]

/-- A report of the contact leaves the machine driven to lock. -/
theorem drivenToLock_onDoorContactChanged (hacc : AcceptsDelays (settings m))
    (hon : StaysOn (settings m)) (newState : DoorContactState) :
    DrivenToLock (after (onDoorContactChanged newState) m) := by
  intro hlock hdoor
  rw [onDoorContactChanged_lockState] at hlock
  rw [onDoorContactChanged_contact] at hdoor
  subst hdoor
  have hen : m.isEnabled = true := hon.isEnabled
  rw [after_onDoorContactChanged]
  simp [hen, hlock, isSome_armed hacc.lockDelay]

/-! ### The end of an attempt -/

/-- The end of an attempt leaves the machine driven. -/
theorem driven_endLockAttempt (hacc : AcceptsDelays (settings m)) (success : Bool) :
    Driven (after (endLockAttempt success) m) := by
  rw [after_endLockAttempt]
  split
  · exact ⟨nofun, nofun⟩
  · split
    · exact ⟨nofun, fun _ => Or.inl (isSome_armed hacc.retry)⟩
    · exact ⟨nofun, nofun⟩

/-- The end of an attempt leaves the machine driven to lock: a failure arms the retry. -/
theorem drivenToLock_endLockAttempt (hacc : AcceptsDelays (settings m))
    (hon : StaysOn (settings m)) (success : Bool) :
    DrivenToLock (after (endLockAttempt success) m) := by
  have hretry : m.retryOnFailure = true := hon.retryOnFailure
  rw [after_endLockAttempt]
  split
  · exact nofun
  · exact fun _ _ => Or.inr (Or.inl (isSome_armed hacc.retry))

/-! ### The step lemmas -/

/-- An event other than an expiry leaves what its handler leaves. -/
theorem step_of_enabled {e : Event} (he : m.enabled e = true) :
    m.step e = after (handle e) m := by
  rw [step, if_pos he]
  rfl

/-- The step lemma for `Driven`. -/
theorem driven_step (hacc : AcceptsDelays (settings m)) (h : Driven m) (e : Event) :
    Driven (m.step e) := by
  by_cases he : m.enabled e = true
  · rw [step_of_enabled he]
    cases e with
    | lockStateChanged newState => exact driven_onLockStateChanged hacc h newState
    | doorContactChanged newState => exact driven_onDoorContactChanged hacc h newState
    | countdownExpired | retryExpired =>
      have : 0 < m.attempts + 1 := Nat.succ_pos m.attempts
      exact ⟨fun _ => Or.inr this, fun _ => Or.inr this⟩
    | lockAttemptEnded success => exact driven_endLockAttempt hacc success
  · rw [step, if_neg he]
    exact h

/-- The step lemma for `DrivenToLock`. -/
theorem drivenToLock_step (hacc : AcceptsDelays (settings m)) (hon : StaysOn (settings m))
    (h : DrivenToLock m) (e : Event) : DrivenToLock (m.step e) := by
  by_cases he : m.enabled e = true
  · rw [step_of_enabled he]
    cases e with
    | lockStateChanged newState => exact drivenToLock_onLockStateChanged hacc hon newState
    | doorContactChanged newState => exact drivenToLock_onDoorContactChanged hacc hon newState
    | countdownExpired | retryExpired =>
      exact fun _ _ => Or.inr (Or.inr (Nat.succ_pos m.attempts))
    | lockAttemptEnded success => exact drivenToLock_endLockAttempt hacc hon success
  · rw [step, if_neg he]
    exact h

end

/-! ### Runs -/

/-- Every value that the inputs give to the properties satisfies `P`. -/
def SetsOnly (P : Settings → Prop) (inputs : List Input) : Prop := ∀ c, .set c ∈ inputs → P c

/-- What every event keeps for settings that satisfy `P` holds after a run in which the
settings satisfy `P` throughout. -/
theorem run_invariant {P : Settings → Prop} {I : AutoLockStateMachine → Prop}
    (hevent : ∀ m e, P (settings m) → I m → I (m.step e)) (hset : ∀ m c, I m → I (m.set c))
    {m : AutoLockStateMachine} (hP : P (settings m)) (hI : I m) {inputs : List Input}
    (hinputs : SetsOnly P inputs) : I (inputs.foldl receive m) := by
  have hstep : ∀ (m : AutoLockStateMachine) (input : Input), P (settings m) ∧ I m →
      (∀ c, input = .set c → P c) → P (settings (receive m input)) ∧ I (receive m input) := by
    rintro m input ⟨hP, hI⟩ hok
    cases input with
    | event e =>
      refine ⟨?_, hevent m e hP hI⟩
      show P (settings (m.step e))
      rw [settings_step]
      exact hP
    | set c => exact ⟨hok c rfl, hset m c hI⟩
  refine (invariant_of_stepsMeet _ hstep inputs m ⟨hP, hI⟩ ?_).2
  refine stepsMeet_of_forall_mem (fun input hmem _ c hc => hinputs c ?_) m
  rw [← hc]
  exact hmem

/-- The object as its constructors leave it. -/
def create (timeoutSeconds : Int) (nightSeconds : Option Int) (retryOnFailure : Bool)
    (retryDelaySeconds : Int) (isEnabled : Bool) : AutoLockStateMachine :=
  { new timeoutSeconds nightSeconds retryOnFailure retryDelaySeconds with isEnabled }

/-- After every run with delays that the timer accepts, a countdown and a retry have their
timer armed or an attempt in flight. If auto-lock and retries stay on, so has an unlocked
machine over a closed door. -/
theorem never_stalls (timeoutSeconds : Int) (nightSeconds : Option Int) (retryOnFailure : Bool)
    (retryDelaySeconds : Int) (isEnabled : Bool) (inputs : List Input)
    (hacc : AcceptsDelays (settings
      (create timeoutSeconds nightSeconds retryOnFailure retryDelaySeconds isEnabled)))
    (hsets : SetsOnly AcceptsDelays inputs) :
    Driven (inputs.foldl receive
        (create timeoutSeconds nightSeconds retryOnFailure retryDelaySeconds isEnabled))
      ∧ (isEnabled = true → retryOnFailure = true → SetsOnly StaysOn inputs →
        DrivenToLock (inputs.foldl receive
          (create timeoutSeconds nightSeconds retryOnFailure retryDelaySeconds isEnabled))) := by
  constructor
  · exact run_invariant (fun m e hm h => driven_step hm h e)
      (fun m c h => ⟨h.countingDown, h.jammedRetry⟩) hacc ⟨nofun, nofun⟩ hsets
  · intro hen hretry hon
    have hboth : SetsOnly (fun c => AcceptsDelays c ∧ StaysOn c) inputs := fun c hc =>
      ⟨hsets c hc, hon c hc⟩
    refine @run_invariant _ DrivenToLock (fun m e hm h => drivenToLock_step hm.1 hm.2 h e)
      (fun m c h => h) _ ⟨hacc, hen, hretry⟩ (fun hlock => ?_) inputs hboth
    cases hlock

/-- The door is unlocked, the countdown expires, the retry delay is changed during the attempt,
and the attempt fails. -/
def jam : List Input :=
  [.event (.lockStateChanged .unlocked), .event .countdownExpired,
    .set ⟨true, 60, 60, true, 5, false⟩, .event (.lockAttemptEnded false)]

/-- A run of the sample: the door jams, and the machine is still driven. -/
theorem never_stalls_jam :
    Driven (jam.foldl receive (create 60 none true 15 true))
      ∧ DrivenToLock (jam.foldl receive (create 60 none true 15 true)) := by
  have hset : ∀ c, Input.set c ∈ jam → c = ⟨true, 60, 60, true, 5, false⟩ := by
    intro c hc
    simpa [jam] using hc
  have h := never_stalls 60 none true 15 true jam ⟨by decide, by decide, by decide⟩
    fun c hc => by rw [hset c hc]; exact ⟨by decide, by decide, by decide⟩
  exact ⟨h.1, h.2 rfl rfl fun c hc => by rw [hset c hc]; exact ⟨rfl, rfl⟩⟩

end CodeMaster.Proofs.Engine.NoStall
