import CodeMaster.Proofs.Web.DoorSettings

/-!
# `CodeMaster.Proofs.Web.UnlockDuration`: is the requested duration the one that is used?

A duration comes in as a number of minutes and is not validated. `UnlockDoorAsync` multiplies it by
60 in 32 bits, after the lock has confirmed, and `CreateTimer` has a range of its own. A product
that wraps around never comes back to the requested duration, and one that does not wrap is
supported up to 71582 minutes. A machine that is off arms nothing. `usesDuration_iff` shows that
there is no other obstacle.

The run before the command is arbitrary, and the door is closed and stored with auto-lock on. The
product of the minutes and 60 is a multiplication of `BitVec 32`, read as a signed number. The bound
comes from two sides: 71582 minutes are below the largest delay of a timer, and 71583 minutes are
above it, and from 35791395 minutes on the product wraps around to a number that is not the one
meant.
-/

set_option autoImplicit false

namespace CodeMaster.Proofs.Web.UnlockDuration

open CodeMaster.Core Data CodeMaster.Engine CodeMaster.Web DoorOperationService Exec Transition
open Engine.AutoLockMethods Engine.DoorOperations Engine.DoorStates DoorSettings
open AutoLockStateMachine (onLockStateChanged supportsDelay)

/-- The unlock command with the duration returns true, and it leaves a countdown of as many
minutes. -/
def UsesDuration (s : DoorOperationService) (d : String) (minutes : BitVec 32) : Prop :=
  ((unlockDoorAsync d (some minutes) (.returned true)).exec s).1 = .ok true
    ∧ ∃ m, ((unlockDoorAsync d (some minutes) (.returned true)).exec s).2.autoLockStateMachines d
        = some m ∧ m.countdownTimer = some (minutes.toInt * 60)

/-! ### The arithmetic -/

section
variable {minutes : BitVec 32}

/-- The product of a number of minutes that fits is the number of seconds. -/
theorem durationSeconds_of_le (hpos : 0 < minutes.toInt) (hle : minutes.toInt ≤ 35791394) :
    durationSeconds minutes = minutes.toInt * 60 := by
  unfold durationSeconds
  rw [BitVec.toInt_mul]
  show Int.bmod (minutes.toInt * 60) (2 ^ 32) = minutes.toInt * 60
  exact Int.bmod_eq_of_le (by omega) (by omega)

/-- The durations that are used as they are. -/
theorem supported_iff (hpos : 0 < minutes.toInt) :
    (durationSeconds minutes = minutes.toInt * 60
        ∧ supportsDelay (durationSeconds minutes) = true)
      ↔ minutes.toInt ≤ 71582 := by
  constructor
  · rintro ⟨heq, hsupported⟩
    rw [heq] at hsupported
    simp only [supportsDelay, decide_eq_true_eq] at hsupported
    omega
  · intro hle
    have heq := durationSeconds_of_le hpos (by omega)
    refine ⟨heq, ?_⟩
    rw [heq]
    simp only [supportsDelay, decide_eq_true_eq]
    omega

end

/-! ### The notified machine -/

/-- The unlock notifies a machine with the duration, over a closed door. It is on when the door's
own machine is, or the door is stored with auto-lock on and has no machine yet. -/
theorem notified_of_closed {v : DoorView} {row : AccessPoint} {minutes : BitVec 32}
    (htracks : Tracks v) (hclosed : v.contactState = .closed)
    (hen : row.autoLockEnabled = true) (hpos : 0 < minutes.toInt) :
    (v.notified row (some minutes)).doorContactState = .closed
      ∧ (v.notified row (some minutes)).lockDelay = durationSeconds minutes
      ∧ ((v.notified row (some minutes)).isEnabled = true
        ↔ ∀ m, v.machine = some m → m.isEnabled = true) := by
  have hnotified : v.notified row (some minutes)
      = { v.machine.getD (.ofAccessPoint row) with
          daySeconds := durationSeconds minutes, nightSeconds := durationSeconds minutes } := by
    simp [DoorView.notified, after, setDuration, hpos]
  rw [hnotified]
  refine ⟨?_, ite_self _, ?_⟩
  · cases hm : v.machine with
    | none => rfl
    | some m =>
      show m.doorContactState = .closed
      cases hdoor : m.doorContactState with
      | closed => rfl
      | «open» =>
        -- The service would report the door as open, too.
        have hopen := htracks.contactState m hm hdoor
        rw [hclosed] at hopen
        cases hopen
  · cases hm : v.machine with
    | none => exact iff_of_true hen fun m hm => by cases hm
    | some m => exact ⟨fun h m' hm' => by cases hm'; exact h, fun h => h m rfl⟩

/-- A machine over a closed door counts down from its delay if and only if it is on and the delay
is supported. -/
theorem counts_iff {m : AutoLockStateMachine} (hdoor : m.doorContactState = .closed) (delay : Int) :
    (completes (onLockStateChanged .unlocked) m = true
        ∧ (after (onLockStateChanged .unlocked) m).countdownTimer = some delay)
      ↔ m.isEnabled = true ∧ m.lockDelay = delay ∧ supportsDelay m.lockDelay = true := by
  have hcompletes : completes (onLockStateChanged .unlocked) m
      = !(m.isEnabled && !supportsDelay m.lockDelay) := by
    rw [completes_onLockStateChanged]
    simp [hdoor]
  constructor
  · rintro ⟨hok, hcountdown⟩
    rw [countdown_unlocked hdoor hok] at hcountdown
    split at hcountdown
    · rename_i hen
      rw [hcompletes, hen] at hok
      exact ⟨hen, Option.some.inj hcountdown, by simpa using hok⟩
    · cases hcountdown
  · rintro ⟨hen, rfl, hsupported⟩
    have hok : completes (onLockStateChanged .unlocked) m = true := by
      rw [hcompletes, hsupported]
      simp
    refine ⟨hok, ?_⟩
    rw [countdown_unlocked hdoor hok, if_pos hen]

/-! ### The command -/

/-- The duration is used when the minutes, counted in seconds, fit into 32 bits and into a timer,
and the machine of the door, if there is one, is on. The service and the machine agree on the
contact state. -/
theorem usesDuration_iff_of_tracks {s : DoorOperationService} {d : String} {row : AccessPoint}
    {minutes : BitVec 32} (hrow : AccessPointRepository.getByIdAsync s.db d = some row)
    (htracks : Tracks (view s d)) (hclosed : s.getDoorContactStateAsync d = .closed)
    (hen : row.autoLockEnabled = true) (hpos : 0 < minutes.toInt) :
    UsesDuration s d minutes
      ↔ minutes.toInt ≤ 71582 ∧ ∀ m, s.autoLockStateMachines d = some m → m.isEnabled = true := by
  obtain ⟨hdoor, hdelay, henabled⟩ := notified_of_closed htracks hclosed hen hpos
  have hview := @view_unlockDoorAsync s d (some minutes) (.returned true)
  rw [hrow] at hview
  have hmachine : ((unlockDoorAsync d (some minutes) (.returned true)).exec s
      ).2.autoLockStateMachines d
        = some (after (onLockStateChanged .unlocked) ((view s d).notified row (some minutes))) :=
    congrArg DoorView.machine hview
  unfold UsesDuration
  rw [unlockDoorAsync_returns_true_iff hrow, and_iff_right rfl, hmachine]
  simp only [Option.some.injEq, exists_eq_left']
  rw [counts_iff hdoor, hdelay, supported_iff hpos, henabled, and_comm]
  rfl

/-- After any run, over a closed door that is stored with auto-lock on, the unlock command uses a
positive duration if and only if it is at most 71582 minutes and the door's machine, if there is
one, is on. -/
theorem usesDuration_iff [Host] (db : Db) (es : List AccessPointsController.Event) (d : String)
    (row : AccessPoint) (minutes : BitVec 32)
    (hrow : AccessPointRepository.getByIdAsync
      (es.foldl AccessPointsController.step (start db)).db d = some row)
    (hen : row.autoLockEnabled = true)
    (hclosed : (es.foldl AccessPointsController.step (start db)).getDoorContactStateAsync d
      = .closed)
    (hpos : 0 < minutes.toInt) :
    UsesDuration (es.foldl AccessPointsController.step (start db)) d minutes
      ↔ minutes.toInt ≤ 71582
        ∧ ∀ m, (es.foldl AccessPointsController.step (start db)).autoLockStateMachines d = some m →
          m.isEnabled = true := by
  have htracks : ∀ d, Tracks (view (es.foldl AccessPointsController.step (start db)) d) :=
    foldl_invariant _ _ tracks_step es (start db) fun _ => holds_of_none rfl
  exact usesDuration_iff_of_tracks hrow (htracks d) hclosed hen hpos

section
/-- The host of the samples. -/
local instance : Host := Host.sample

/-- The hall is closed and has no machine yet. -/
theorem usesDuration_iff_hall :
    UsesDuration (start hall) "hall" 5
      ↔ (5 : BitVec 32).toInt ≤ 71582
        ∧ ∀ m, (start hall).autoLockStateMachines "hall" = some m → m.isEnabled = true :=
  usesDuration_iff hall [] "hall" _ 5 rfl rfl rfl (by decide)

/-- A duration of 71583 minutes is refused after the door has been unlocked. -/
theorem long_duration_throws :
    ¬ ∀ (db : Db) (es : List AccessPointsController.Event) (d : String) (row : AccessPoint)
        (minutes : BitVec 32),
      AccessPointRepository.getByIdAsync (es.foldl AccessPointsController.step (start db)).db d
          = some row → row.autoLockEnabled = true →
        (es.foldl AccessPointsController.step (start db)).getDoorContactStateAsync d = .closed →
          0 < minutes.toInt →
            UsesDuration (es.foldl AccessPointsController.step (start db)) d minutes := by
  intro h
  have hused := (h hall [] "hall" hallDoor 71583 rfl rfl rfl (by decide)).1
  exact absurd hused (by decide)

end

end CodeMaster.Proofs.Web.UnlockDuration
