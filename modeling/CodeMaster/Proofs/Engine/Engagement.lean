import CodeMaster.Proofs.Engine.DoorStates

/-!
# `CodeMaster.Proofs.Engine.Engagement`: does auto-lock engage however the door was unlocked?

A machine is engaged when a timer is armed or a lock attempt is in flight. `Engaged` says that
a door which the service reports as unlocked and closed has an engaged machine. Two kinds of
step break it: a report that leaves a door without a machine unlocked and closed, and an
arming of the countdown with a delay that `CreateTimer` does not support. `engaged_step_iff`
shows that there is no other.

The settings of the door stay as they are during the run, and auto-lock and its retry are on. Runs
in which the settings change are the subject of `DoorSettings`.

The exact form has a step lemma for each operation: an unlock creates the machine when there is
none, and then arms the countdown; a report of the lock reaches the machine only when there is one;
a failed attempt arms the retry. For each of them the lemma says exactly when the door is engaged
afterwards. The run theorem puts the steps together with `Transition.stepsMeet_iff`.
-/

set_option autoImplicit false

namespace CodeMaster.Proofs.Engine.Engagement

open CodeMaster.Core Data CodeMaster.Engine DoorOperationService Exec Transition
open AutoLockMethods DoorOperations DoorStates
open AutoLockStateMachine (onLockStateChanged onDoorContactChanged supportsDelay Settings settings)

/-- A timer is armed, or a lock attempt is in flight. -/
def engaged (m : AutoLockStateMachine) : Bool :=
  m.countdownTimer.isSome || m.retryTimer.isSome || decide (0 < m.attempts)

/-- A door that is reported as unlocked and closed has an engaged machine. -/
def Engaged (v : DoorView) : Prop :=
  v.lockState = .unlocked → v.contactState = .closed → v.machine.any engaged = true

/-- The settings of a machine that was created for a door with auto-lock and retries on. -/
structure Retries (m : AutoLockStateMachine) : Prop where
  isEnabled : m.isEnabled = true
  retryOnFailure : m.retryOnFailure = true
  retryDelaySeconds : m.retryDelaySeconds = 15

/-- Whether a machine retries is in its settings. -/
theorem Retries.of_settings_eq {m m' : AutoLockStateMachine} (h : Retries m)
    (heq : settings m' = settings m) : Retries m' :=
  ⟨(congrArg Settings.isEnabled heq).trans h.isEnabled,
    (congrArg Settings.retryOnFailure heq).trans h.retryOnFailure,
    (congrArg Settings.retryDelaySeconds heq).trans h.retryDelaySeconds⟩

/-- The countdown can be armed, or an attempt is in flight anyway. -/
def CanEngage (m : AutoLockStateMachine) : Prop :=
  supportsDelay m.lockDelay = true ∨ 0 < m.attempts

/-- The report leaves the door reported as unlocked and closed with the countdown as the only
timer that it can have armed. -/
def reliesOnCountdown (v : DoorView) (m : AutoLockStateMachine) (lockState : Option LockState)
    (contactState : Option DoorContactState) : Bool :=
  match lockState with
  | none => contactState = some .closed && v.lockState = .unlocked && m.retryTimer.isNone
  | some .unlocked =>
    -- When the report of the lock throws, the one of the contact is skipped.
    if m.doorContactState = .closed then v.contactState = .closed else contactState = some .closed
  | some _ => false

/-- The steps that leave the machine of a door engaged which they leave reported as unlocked
and closed. -/
def KeepsEngaged (row : AccessPoint) (v : DoorView) : Event → Prop
  | .unlock _ durationMinutes (.returned true) =>
    v.contactState = .closed → CanEngage (v.notified row durationMinutes)
  | .updateDoorStates _ lockState contactState =>
    match v.machine with
    | none =>
      ¬ (lockState.getD v.lockState = .unlocked ∧ contactState.getD v.contactState = .closed)
    | some m => reliesOnCountdown v m lockState contactState = true → CanEngage m
  | _ => True

/-! ### When a method leaves the machine engaged -/

section
variable {m : AutoLockStateMachine}

/-- A timer is armed when its delay is accepted. -/
@[simp] theorem isSome_armed (delay : Int) : (armed delay).isSome = supportsDelay delay := by
  unfold armed
  split <;> simp_all

/-- A machine is engaged when a timer is armed or an attempt is in flight. -/
theorem engaged_iff :
    engaged m = true ↔ m.countdownTimer.isSome = true ∨ m.retryTimer.isSome = true
      ∨ 0 < m.attempts := by
  simp [engaged, or_assoc]

/-- An unlock over a closed door engages the machine, if it can be engaged at all. -/
theorem engaged_of_unlocked (hen : m.isEnabled = true) (hdoor : m.doorContactState = .closed) :
    engaged (after (onLockStateChanged .unlocked) m) = true ↔ CanEngage m := by
  simp [after_onLockStateChanged, hen, hdoor, engaged_iff, CanEngage]

/-- A door that closes while it is unlocked engages the machine, if it can be engaged, and a retry
that is armed stays. -/
theorem engaged_of_closed (hen : m.isEnabled = true) (hlock : m.lockState = .unlocked) :
    engaged (after (onDoorContactChanged .closed) m) = true
      ↔ CanEngage m ∨ m.retryTimer.isSome = true := by
  simp only [after_onDoorContactChanged, hen, hlock, if_true, engaged_iff, isSome_armed, CanEngage]
  tauto

/-- A failed attempt arms the retry. -/
theorem engaged_of_failure (hm : Retries m) :
    engaged (after (AutoLockStateMachine.endLockAttempt false) m) = true := by
  rw [after_endLockAttempt, if_neg Bool.false_ne_true, if_pos hm.retryOnFailure, engaged_iff,
    hm.retryDelaySeconds]
  exact Or.inr (Or.inl (show (armed 15).isSome = true by decide))

/-- An expiry starts an attempt. -/
theorem engaged_step_of_expiry {e : AutoLockStateMachine.Event} (hm : engaged m = true)
    (he : e = .countdownExpired ∨ e = .retryExpired) : engaged (m.step e) = true := by
  unfold AutoLockStateMachine.step
  split
  · rcases he with rfl | rfl
    · exact engaged_iff.mpr (Or.inr (Or.inr (Nat.succ_pos m.attempts)))
    · exact engaged_iff.mpr (Or.inr (Or.inr (Nat.succ_pos m.attempts)))
  · exact hm

end

/-! ### The step lemma -/

/-- What every run keeps of a door that is stored with auto-lock and retries on. -/
structure Configured (v : DoorView) : Prop where
  tracks : Tracks v
  retries : ∀ m, v.machine = some m → Retries m

section
variable {row : AccessPoint} {v : DoorView}

/-- The machine that an unlock command notifies has the door's settings, and an open door only
where the service reports one. -/
theorem Configured.notified (h : Configured v) (hen : row.autoLockEnabled = true)
    (hretry : row.retryOnFailure = true) (durationMinutes : Option (BitVec 32)) :
    Retries (v.notified row durationMinutes)
      ∧ (v.contactState = .closed → (v.notified row durationMinutes).doorContactState = .closed) := by
  obtain ⟨day, night, hnotified⟩ :=
    exists_after_setDuration durationMinutes (v.machine.getD (.ofAccessPoint row))
  rw [DoorView.notified, hnotified]
  cases hm : v.machine with
  | none => exact ⟨⟨hen, hretry, rfl⟩, fun _ => rfl⟩
  | some m =>
    obtain ⟨h1, h2, h3⟩ := h.retries m hm
    refine ⟨⟨h1, h2, h3⟩, fun hclosed => ?_⟩
    cases hdoor : m.doorContactState with
    | closed => exact hdoor
    | «open» =>
      have := h.tracks.contactState m hm hdoor
      rw [hclosed] at this
      cases this

/-- Whether the machine is engaged after an unlock: over an open door nothing is asked, and over a
closed one the machine must accept the delay. -/
theorem engaged_unlocked_iff (h : Configured v) (hen : row.autoLockEnabled = true)
    (hretry : row.retryOnFailure = true) (durationMinutes : Option (BitVec 32)) :
    Engaged (v.unlocked row durationMinutes)
      ↔ (v.contactState = .closed → CanEngage (v.notified row durationMinutes)) := by
  obtain ⟨hretries, hclosed⟩ := h.notified hen hretry durationMinutes
  constructor
  · intro hafter hc
    exact (engaged_of_unlocked hretries.isEnabled (hclosed hc)).mp (hafter rfl hc)
  · intro hcan _ hc
    exact (engaged_of_unlocked hretries.isEnabled (hclosed hc)).mpr (hcan hc)

/-- Without a machine the reports are stored, and that is all. -/
theorem reportStates_of_none (hm : v.machine = none) (lockState : Option LockState)
    (contactState : Option DoorContactState) :
    v.reportStates lockState contactState
      = { lockState := lockState.getD v.lockState
          contactState := contactState.getD v.contactState, machine := none } := by
  obtain ⟨lock, contact, machine⟩ := v
  cases (show machine = none from hm)
  cases lockState <;> cases contactState <;> rfl

/-- A report of the contact alone. -/
theorem engaged_reportContact_iff (h : Configured v) {m : AutoLockStateMachine}
    (hm : v.machine = some m) :
    Engaged (v.reportContact .closed)
      ↔ (v.lockState = .unlocked → CanEngage m ∨ m.retryTimer.isSome = true) := by
  have hmachine : (v.reportContact .closed).machine
      = some (after (onDoorContactChanged .closed) m) := by
    rw [DoorView.reportContact, DoorView.call, hm]
    rfl
  unfold Engaged
  rw [hmachine, Option.any_some]
  constructor
  · intro hafter hlock
    exact (engaged_of_closed (h.retries m hm).isEnabled
      ((h.tracks.lockState m hm).trans hlock)).mp (hafter hlock rfl)
  · intro hcan hlock _
    exact (engaged_of_closed (h.retries m hm).isEnabled
      ((h.tracks.lockState m hm).trans hlock)).mpr (hcan hlock)

/-- A report keeps the settings of the machine. -/
theorem Configured.reportLock (h : Configured v) (state : LockState) :
    Configured (v.reportLock state) := by
  refine ⟨holds_reportLock h.tracks.contactState state, fun m hm => ?_⟩
  obtain ⟨m', hm', rfl⟩ := Option.map_eq_some_iff.mp hm
  exact (h.retries m' hm').of_settings_eq (settings_onLockStateChanged m' state)

/-- A report of the lock leaves whether the machine can be engaged. -/
theorem canEngage_unlocked {m : AutoLockStateMachine} (hen : m.isEnabled = true) :
    CanEngage (after (onLockStateChanged .unlocked) m) ↔ CanEngage m := by
  rw [after_onLockStateChanged, if_pos hen]
  dsimp only
  split <;> rfl

/-- The machine after a report of the lock. -/
theorem machine_reportLock {m : AutoLockStateMachine} (hm : v.machine = some m)
    (state : LockState) :
    (v.reportLock state).machine = some (after (onLockStateChanged state) m) := by
  rw [DoorView.reportLock, DoorView.call, hm]
  rfl

/-- When the machine does not throw at the lock state, the contact is reported after it. -/
theorem reportStates_of_completes {m : AutoLockStateMachine} (hm : v.machine = some m)
    {state : LockState} (hcompletes : completes (onLockStateChanged state) m = true)
    (contactState : Option DoorContactState) :
    v.reportStates (some state) contactState
      = contactState.elim (v.reportLock state) (v.reportLock state).reportContact := by
  simp [DoorView.reportStates, hm, hcompletes]

/-- The lock is reported as unlocked to a machine that takes the door for closed: the countdown
is armed, or `CreateTimer` throws and the contact is not reported. -/
theorem engaged_reportUnlocked_closed_iff (h : Configured v) {m : AutoLockStateMachine}
    (hm : v.machine = some m) (hdoor : m.doorContactState = .closed)
    (contactState : Option DoorContactState) :
    Engaged (v.reportStates (some .unlocked) contactState)
      ↔ (v.contactState = .closed → CanEngage m) := by
  have hen := (h.retries m hm).isEnabled
  have hmachine := machine_reportLock hm .unlocked
  have hcompletes : completes (onLockStateChanged .unlocked) m = supportsDelay m.lockDelay := by
    simp [completes_onLockStateChanged, hen, hdoor]
  have hreport : Engaged (v.reportLock .unlocked) ↔ (v.contactState = .closed → CanEngage m) := by
    unfold Engaged
    rw [hmachine, Option.any_some, engaged_of_unlocked hen hdoor]
    exact ⟨fun hall => hall rfl, fun hall _ => hall⟩
  cases hdelay : supportsDelay m.lockDelay with
  | false =>
    rw [hdelay] at hcompletes
    have : v.reportStates (some .unlocked) contactState = v.reportLock .unlocked := by
      simp [DoorView.reportStates, hm, hcompletes]
    rw [this, hreport]
  | true =>
    rw [hdelay] at hcompletes
    have hcan : CanEngage m := Or.inl hdelay
    rw [reportStates_of_completes hm hcompletes]
    refine iff_of_true ?_ fun _ => hcan
    rcases contactState with _ | _ | _
    · exact hreport.mpr fun _ => hcan
    · exact (engaged_reportContact_iff (h.reportLock .unlocked) hmachine).mpr fun _ =>
        Or.inl ((canEngage_unlocked hen).mpr hcan)
    · exact fun _ hc => by cases hc

/-- The lock is reported as unlocked to a machine that takes the door for open: no timer is
armed, unless the contact is reported as closed with it. -/
theorem engaged_reportUnlocked_open_iff (h : Configured v) {m : AutoLockStateMachine}
    (hm : v.machine = some m) (hdoor : m.doorContactState = .open)
    (contactState : Option DoorContactState) :
    Engaged (v.reportStates (some .unlocked) contactState)
      ↔ (contactState = some .closed → CanEngage m) := by
  have hen := (h.retries m hm).isEnabled
  have hmachine := machine_reportLock hm .unlocked
  have hretry : (after (onLockStateChanged .unlocked) m).retryTimer = none := by
    rw [after_onLockStateChanged, if_pos hen]
    dsimp only
    rw [if_pos hdoor]
  have hcompletes : completes (onLockStateChanged .unlocked) m = true := by
    simp [completes_onLockStateChanged, hen, hdoor]
  rw [reportStates_of_completes hm hcompletes]
  rcases contactState with _ | _ | _
  · -- The service reports the door as open, too.
    refine iff_of_true (fun _ hclosed => ?_) fun hc => by cases hc
    have hopen := h.tracks.contactState m hm hdoor
    rw [show v.contactState = .closed from hclosed] at hopen
    cases hopen
  · refine (engaged_reportContact_iff (h.reportLock .unlocked) hmachine).trans ?_
    rw [hretry, canEngage_unlocked hen]
    simp [DoorView.reportLock, DoorView.call]
  · exact iff_of_true (fun _ hc => by cases hc) fun hc => by cases hc

/-- The lock state after both reports. -/
theorem reportStates_lockState (v : DoorView) (lockState : Option LockState)
    (contactState : Option DoorContactState) :
    (v.reportStates lockState contactState).lockState = lockState.getD v.lockState := by
  unfold DoorView.reportStates
  dsimp only
  split
  · cases lockState <;> cases contactState <;> rfl
  · cases lockState <;> rfl

/-- Exactly when both reports leave the door engaged. -/
theorem engaged_reportStates_iff (h : Configured v) (hv : Engaged v)
    (lockState : Option LockState) (contactState : Option DoorContactState) :
    Engaged (v.reportStates lockState contactState)
      ↔ match v.machine with
        | none =>
          ¬ (lockState.getD v.lockState = .unlocked ∧ contactState.getD v.contactState = .closed)
        | some m => reliesOnCountdown v m lockState contactState = true → CanEngage m := by
  cases hm : v.machine with
  | none =>
    rw [reportStates_of_none hm]
    simp [Engaged]
  | some m =>
    have hother : ∀ state, state ≠ .unlocked →
        Engaged (v.reportStates (some state) contactState) := by
      intro state hne hlock
      rw [reportStates_lockState] at hlock
      exact absurd hlock hne
    rcases lockState with _ | _ | _ | _ | _
    · -- The contact alone is reported.
      have hcontact : v.reportStates none contactState
          = contactState.elim v v.reportContact := by simp [DoorView.reportStates]
      rw [hcontact]
      rcases contactState with _ | _ | _
      · exact iff_of_true hv fun hc => by cases hc
      · refine (engaged_reportContact_iff h hm).trans ?_
        simp only [reliesOnCountdown]
        cases m.retryTimer <;> simp
      · exact iff_of_true (fun _ hc => by cases hc) fun hc => by cases hc
    · exact iff_of_true (hother .locked (by decide)) fun hc => by cases hc
    · cases hdoor : m.doorContactState with
      | closed =>
        rw [engaged_reportUnlocked_closed_iff h hm hdoor]
        simp [reliesOnCountdown, hdoor]
      | «open» =>
        rw [engaged_reportUnlocked_open_iff h hm hdoor]
        simp [reliesOnCountdown, hdoor]
    · exact iff_of_true (hother .jammed (by decide)) fun hc => by cases hc
    · exact iff_of_true (hother .unknown (by decide)) fun hc => by cases hc

/-- Every event keeps the settings of the door's row, or takes them over from the row. -/
theorem Configured.step (h : Configured v) (hen : row.autoLockEnabled = true)
    (hretry : row.retryOnFailure = true) (e : Event) : Configured (v.step (some row) e) := by
  refine ⟨Tracks.step h.tracks (some row) e, fun m hm => ?_⟩
  by_cases he : ∃ d durationMinutes, e = .unlock d durationMinutes (.returned true)
  · obtain ⟨d, durationMinutes, rfl⟩ := he
    cases hm
    exact (h.notified hen hretry durationMinutes).1.of_settings_eq
      (settings_onLockStateChanged _ .unlocked)
  · -- The other steps keep the settings.
    have hsame := sameSettings_step v (some row) e fun d durationMinutes heq =>
      he ⟨d, durationMinutes, heq⟩
    obtain ⟨m', hm', heq⟩ := hsame.settings_eq hm
    exact (h.retries m' hm').of_settings_eq heq

/-- An expiry starts an attempt, so it leaves the door engaged. -/
theorem Engaged.expired (hv : Engaged v) {e : AutoLockStateMachine.Event}
    (he : e = .countdownExpired ∨ e = .retryExpired) :
    Engaged { v with machine := v.machine.map fun m => m.step e } := by
  intro hlock hclosed
  obtain ⟨m, hm, hengaged⟩ := (Option.any_eq_true _ _).mp (hv hlock hclosed)
  show (v.machine.map fun m => m.step e).any engaged = true
  rw [hm]
  exact engaged_step_of_expiry hengaged he

/-- A step keeps the door engaged if and only if it meets `KeepsEngaged`. -/
theorem engaged_step_iff (h : Configured v) (hv : Engaged v) (hen : row.autoLockEnabled = true)
    (hretry : row.retryOnFailure = true) (e : Event) :
    Engaged (v.step (some row) e) ↔ KeepsEngaged row v e := by
  cases e with
  | unlock doorId durationMinutes answer =>
    rcases answer with (_ | _) | _
    · exact iff_of_true hv trivial
    · exact engaged_unlocked_iff h hen hretry durationMinutes
    · exact iff_of_true hv trivial
  | lock doorId answer =>
    refine iff_of_true ?_ trivial
    rcases answer with (_ | _) | _
    · exact hv
    · exact fun hlock => by cases hlock
    · exact hv
  | updateDoorStates doorId lockState contactState =>
    exact engaged_reportStates_iff h hv lockState contactState
  | countdownExpired doorId => exact iff_of_true (hv.expired (Or.inl rfl)) trivial
  | retryExpired doorId => exact iff_of_true (hv.expired (Or.inr rfl)) trivial
  | lockAttemptEnded doorId answer =>
    refine iff_of_true ?_ trivial
    simp only [DoorView.step, DoorView.endLockAttempt]
    split
    · rename_i hattempt
      obtain ⟨m, hm, -⟩ := (Option.any_eq_true _ _).mp hattempt
      -- A success locks the door; a failure arms the retry timer.
      split
      · exact fun hlock => by cases hlock
      · intro _ _
        show (v.machine.map _).any engaged = true
        rw [hm]
        exact engaged_of_failure (h.retries m hm)
    · exact hv

end

/-! ### Runs -/

/-- At every point of the run, the door has an engaged machine if the service reports it as
unlocked and closed. -/
def AlwaysEngaged (d : String) (s : DoorOperationService) (es : List Event) : Prop :=
  ∀ pre, pre <+: es → (pre.foldl step s).getDoorLockStateAsync d = .unlocked →
    (pre.foldl step s).getDoorContactStateAsync d = .closed →
      ∃ m, (pre.foldl step s).autoLockStateMachines d = some m
        ∧ (m.countdownTimer.isSome = true ∨ m.retryTimer.isSome = true ∨ 0 < m.attempts)

/-- The step meets `KeepsEngaged` at the door `d`, which is stored as `row`. -/
def KeepsEngagedAt (d : String) (row : AccessPoint) (s : DoorOperationService) (e : Event) : Prop :=
  e.doorId = d → KeepsEngaged row (view s d) e

/-- The store is as at the start of the run, and the door as every run keeps it. -/
structure Kept (db : Db) (d : String) (s : DoorOperationService) : Prop where
  db : s.db = db
  configured : Configured (view s d)

/-- The start keeps the database and the settings. -/
theorem kept_start (db : Db) (d : String) : Kept db d (start db) := by
  refine ⟨rfl, holds_of_none rfl, fun m hm => ?_⟩
  cases hm

section
variable {db : Db} {d : String} {row : AccessPoint} {s : DoorOperationService}

/-- A step at another door leaves the view. -/
theorem Kept.view_step (h : Kept db d s) (hrow : AccessPointRepository.getByIdAsync db d = some row)
    (e : Event) :
    view (s.step e) d = if e.doorId = d then (view s d).step (some row) e else view s d := by
  rw [DoorOperations.view_step, h.db, hrow]

/-- Every event keeps the database and the settings. The step lemma. -/
theorem Kept.step (h : Kept db d s) (hrow : AccessPointRepository.getByIdAsync db d = some row)
    (hen : row.autoLockEnabled = true) (hretry : row.retryOnFailure = true) (e : Event) :
    Kept db d (s.step e) := by
  refine ⟨(step_elsewhere s e).db.trans h.db, ?_⟩
  rw [h.view_step hrow]
  split
  · exact h.configured.step hen hretry e
  · exact h.configured

/-- Exactly when an event leaves the door engaged. The step lemma of the exact form. -/
theorem Kept.engaged_step_iff (h : Kept db d s)
    (hrow : AccessPointRepository.getByIdAsync db d = some row)
    (hen : row.autoLockEnabled = true) (hretry : row.retryOnFailure = true)
    (hs : Engaged (view s d)) (e : Event) :
    Engaged (view (s.step e) d) ↔ KeepsEngagedAt d row s e := by
  rw [h.view_step hrow, KeepsEngagedAt]
  split
  · rename_i hd
    rw [Engagement.engaged_step_iff h.configured hs hen hretry e]
    exact ⟨fun hok _ => hok, fun hok => hok hd⟩
  · rename_i hd
    exact iff_of_true hs fun h => absurd h hd

end

/-- A door that is stored with auto-lock and retries on has an engaged machine at every point
of a run at which the service reports it as unlocked and closed, if and only if every step of
the run meets `KeepsEngaged` at the door. -/
theorem alwaysEngaged_iff (db : Db) (d : String) (row : AccessPoint) (es : List Event)
    (hrow : AccessPointRepository.getByIdAsync db d = some row)
    (hen : row.autoLockEnabled = true) (hretry : row.retryOnFailure = true) :
    AlwaysEngaged d (start db) es ↔ StepsMeet step (KeepsEngagedAt d row) (start db) es := by
  have hkept : ∀ s e, Kept db d s → Kept db d (step s e) := fun s e h => h.step hrow hen hretry e
  have hstep : ∀ s e, Kept db d s ∧ Engaged (view s d) →
      (Kept db d (step s e) ∧ Engaged (view (step s e) d) ↔ KeepsEngagedAt d row s e) := by
    rintro s e ⟨h, hs⟩
    rw [← h.engaged_step_iff hrow hen hretry hs e]
    exact and_iff_right (hkept s e h)
  have hstart : Engaged (view (start db) d) := fun hlock => by cases hlock
  rw [← stepsMeet_iff hstep es (start db) ⟨kept_start db d, hstart⟩]
  refine forall₂_congr fun pre _ => ?_
  rw [and_iff_right (foldl_invariant step _ hkept pre (start db) (kept_start db d))]
  generalize pre.foldl step (start db) = s
  refine forall₂_congr fun _ _ => ?_
  rw [Option.any_eq_true]
  exact exists_congr fun m => and_congr_right fun _ => engaged_iff.symm

/-- Whether a machine can be engaged is decidable. -/
instance (m : AutoLockStateMachine) : Decidable (CanEngage m) :=
  inferInstanceAs (Decidable (_ ∨ _))

/-- The condition on an event is decidable. -/
instance (row : AccessPoint) (v : DoorView) : ∀ e : Event, Decidable (KeepsEngaged row v e)
  | .unlock _ durationMinutes (.returned true) =>
    inferInstanceAs
      (Decidable (v.contactState = .closed → CanEngage (v.notified row durationMinutes)))
  | .unlock _ _ (.returned false) => isTrue trivial
  | .unlock _ _ .threw => isTrue trivial
  | .lock _ _ => isTrue trivial
  | .updateDoorStates _ lockState contactState =>
    match h : v.machine with
    | none => decidable_of_iff
        (¬ (lockState.getD v.lockState = .unlocked ∧ contactState.getD v.contactState = .closed))
        (by rw [KeepsEngaged, h])
    | some m => decidable_of_iff
        (reliesOnCountdown v m lockState contactState = true → CanEngage m)
        (by rw [KeepsEngaged, h])
  | .countdownExpired _ => isTrue trivial
  | .retryExpired _ => isTrue trivial
  | .lockAttemptEnded _ _ => isTrue trivial

/-- The condition on an event at any door is decidable. -/
instance (d : String) (row : AccessPoint) (s : DoorOperationService) (e : Event) :
    Decidable (KeepsEngagedAt d row s e) :=
  inferInstanceAs (Decidable (e.doorId = d → KeepsEngaged row (view s d) e))

/-- A command unlocks the door, the countdown expires, and the lock fails. -/
theorem alwaysEngaged_hall : AlwaysEngaged "hall" (start hall)
    [.unlock "hall" none (.returned true), .countdownExpired "hall",
      .lockAttemptEnded "hall" .threw] :=
  (alwaysEngaged_iff hall "hall" hallDoor _ rfl rfl rfl).mpr (by decide)

/-- The door is unlocked by hand before any command has created its machine. -/
theorem manual_unlock_is_not_locked_again :
    ¬ ∀ (db : Db) (d : String) (row : AccessPoint) (es : List Event),
      AccessPointRepository.getByIdAsync db d = some row → row.autoLockEnabled = true →
        row.retryOnFailure = true → 0 < row.autoLockDaySeconds → 0 < row.autoLockNightSeconds →
          AlwaysEngaged d (start db) es := by
  intro h
  have hengaged := h hall "hall" hallDoor [.updateDoorStates "hall" (some .unlocked) none]
    rfl rfl rfl (by decide) (by decide) _ List.prefix_rfl rfl rfl
  obtain ⟨m, hm, -⟩ := hengaged
  cases hm

end CodeMaster.Proofs.Engine.Engagement
