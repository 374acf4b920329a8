import CodeMaster.Proofs.Engine.DoorStates
import CodeMaster.Web.AccessPointsController

/-!
# `CodeMaster.Proofs.Web.DoorSettings`: does auto-lock use the stored settings?

The settings of a door are stored in its row and copied into its machine when the machine is
created. A later request writes the row only, and a duration writes the machine only.
`Current` says that the two agree on what an unlock arms, and `armsAsStored_iff` that an
unlock of a closed door arms what the row says exactly when they do.

The run starts with a service without machines and has requests that write doors, operations of the
service, reports and timers, in any order. The condition is on the state before the unlock and about
the machine of the door, if there is one: it is on when the row says so, and it counts down as long
as the row says.
-/

set_option autoImplicit false

namespace CodeMaster.Proofs.Web.DoorSettings

open CodeMaster.Core Data CodeMaster.Engine CodeMaster.Web DoorOperationService Exec Transition
open Engine.AutoLockMethods Engine.DoorOperations Engine.DoorStates
open AutoLockStateMachine (onLockStateChanged supportsDelay Settings settings)

/-- The delay that is stored for the door. -/
def storedDelay (row : AccessPoint) (isNight : Bool) : Int :=
  if isNight then row.autoLockNightSeconds else row.autoLockDaySeconds

/-- The countdown that the stored settings ask for. -/
def storedCountdown (row : AccessPoint) (isNight : Bool) : Option Int :=
  if row.autoLockEnabled then some (storedDelay row isNight) else none

/-- The step is not an unlock without a duration that succeeds over a closed door, or it leaves
the countdown that the stored settings ask for. -/
def ArmsAsStored (s : DoorOperationService) : AccessPointsController.Event → Prop
  | .operation (.unlock d none answer) =>
    ∀ row, AccessPointRepository.getByIdAsync s.db d = some row →
      s.getDoorContactStateAsync d = .closed →
        ((unlockDoorAsync d none answer).exec s).1 = .ok true →
          ∃ m, ((unlockDoorAsync d none answer).exec s).2.autoLockStateMachines d = some m
            ∧ m.countdownTimer = storedCountdown row m.isNight
  | _ => True

/-- The machine and the row agree on what an unlock arms. -/
structure Current (m : AutoLockStateMachine) (row : AccessPoint) : Prop where
  isEnabled : m.isEnabled = row.autoLockEnabled
  lockDelay : m.isEnabled = true → m.lockDelay = storedDelay row m.isNight

/-- Whether a machine has the settings of the row is decidable. -/
instance (m : AutoLockStateMachine) (row : AccessPoint) : Decidable (Current m row) :=
  decidable_of_iff (m.isEnabled = row.autoLockEnabled
      ∧ (m.isEnabled = true → m.lockDelay = storedDelay row m.isNight))
    ⟨fun h => ⟨h.1, h.2⟩, fun h => ⟨h.1, h.2⟩⟩

/-- An unlock without a duration of a closed door finds no machine, or one with the settings
that are stored now. A machine whose delay `CreateTimer` rejects makes the unlock throw. -/
def FindsCurrentSettings (s : DoorOperationService) : AccessPointsController.Event → Prop
  | .operation (.unlock d none (.returned true)) =>
    ∀ row, AccessPointRepository.getByIdAsync s.db d = some row →
      s.getDoorContactStateAsync d = .closed →
        ∀ m, s.autoLockStateMachines d = some m →
          (m.isEnabled = true → supportsDelay m.lockDelay = true) → Current m row
  | _ => True

/-! ### What an unlock arms -/

section
variable {m : AutoLockStateMachine} {row : AccessPoint}

/-- The countdown that an unlock arms in a machine that takes the door for closed. -/
theorem countdown_unlocked (hdoor : m.doorContactState = .closed)
    (hok : completes (onLockStateChanged .unlocked) m = true) :
    (after (onLockStateChanged .unlocked) m).countdownTimer
      = if m.isEnabled then some m.lockDelay else none := by
  rw [completes_onLockStateChanged] at hok
  rw [after_onLockStateChanged]
  cases hen : m.isEnabled with
  | false => rfl
  | true =>
    have hdelay : supportsDelay m.lockDelay = true := by simpa [hen, hdoor] using hok
    simp [hdoor, armed, hdelay]

/-- A machine that has just been created agrees with the row. -/
theorem current_ofAccessPoint (row : AccessPoint) : Current (.ofAccessPoint row) row :=
  ⟨rfl, fun _ => rfl⟩

/-- A machine has the settings of the row when it counts down as the row says, or not at all. -/
theorem current_iff :
    Current m row ↔ (if m.isEnabled then some m.lockDelay else none)
      = storedCountdown row m.isNight := by
  unfold storedCountdown
  constructor
  · intro h
    rw [← h.isEnabled]
    split
    · rename_i hen
      rw [h.lockDelay hen]
    · rfl
  · intro h
    cases hen : m.isEnabled <;> cases hrow : row.autoLockEnabled <;> simp [hen, hrow] at h
    · exact ⟨hen.trans hrow.symm, fun h => by rw [hen] at h; cases h⟩
    · exact ⟨hen.trans hrow.symm, fun _ => h⟩

end

/-- A machine that takes the door for closed is left with the countdown of the row, if and only
if it agrees with the row. -/
theorem after_unlocked_iff {m : AutoLockStateMachine} {row : AccessPoint}
    (hdoor : m.doorContactState = .closed) :
    (completes (onLockStateChanged .unlocked) m = true →
        (after (onLockStateChanged .unlocked) m).countdownTimer
          = storedCountdown row (after (onLockStateChanged .unlocked) m).isNight)
      ↔ ((m.isEnabled = true → supportsDelay m.lockDelay = true) → Current m row) := by
  have hnight : (after (onLockStateChanged .unlocked) m).isNight = m.isNight :=
    congrArg Settings.isNight (settings_onLockStateChanged m .unlocked)
  have hcompletes : completes (onLockStateChanged .unlocked) m = true
      ↔ (m.isEnabled = true → supportsDelay m.lockDelay = true) := by
    rw [completes_onLockStateChanged, hdoor]
    cases m.isEnabled <;> simp
  rw [hnight, ← hcompletes]
  refine forall_congr' fun hok => ?_
  rw [countdown_unlocked hdoor hok, current_iff]

/-- An unlock of a closed door arms what the row says, if and only if the machine that it
finds, if any, agrees with the row or throws. -/
theorem armsAsStored_unlock_iff {s : DoorOperationService} {d : String} {row : AccessPoint}
    (hrow : AccessPointRepository.getByIdAsync s.db d = some row) (htracks : Tracks (view s d))
    (hclosed : s.getDoorContactStateAsync d = .closed) :
    (((unlockDoorAsync d none (.returned true)).exec s).1 = .ok true →
        ∃ m, ((unlockDoorAsync d none (.returned true)).exec s).2.autoLockStateMachines d = some m
          ∧ m.countdownTimer = storedCountdown row m.isNight)
      ↔ ∀ m, s.autoLockStateMachines d = some m →
          (m.isEnabled = true → supportsDelay m.lockDelay = true) → Current m row := by
  have hview := @view_unlockDoorAsync s d none (.returned true)
  rw [hrow] at hview
  have hmachine : ((unlockDoorAsync d none (.returned true)).exec s).2.autoLockStateMachines d
      = some (after (onLockStateChanged .unlocked) ((view s d).notified row none)) :=
    congrArg DoorView.machine hview
  rw [unlockDoorAsync_returns_true_iff hrow, hmachine, and_iff_right rfl]
  simp only [Option.some.injEq, exists_eq_left']
  cases hm : s.autoLockStateMachines d with
  | none =>
    -- The unlock creates the machine, with the settings of the row.
    have hnotified : (view s d).notified row none = .ofAccessPoint row := by
      show after (setDuration none) ((s.autoLockStateMachines d).getD _) = _
      rw [hm]
      rfl
    rw [hnotified]
    exact iff_of_true ((after_unlocked_iff rfl).mpr fun _ => current_ofAccessPoint row)
      fun m hm => by cases hm
  | some m =>
    have hnotified : (view s d).notified row none = m := by
      show after (setDuration none) ((s.autoLockStateMachines d).getD _) = _
      rw [hm]
      rfl
    have hdoor : m.doorContactState = .closed := by
      cases hc : m.doorContactState with
      | closed => rfl
      | «open» =>
        have hopen := htracks.contactState m hm hc
        rw [show (view s d).contactState = .closed from hclosed] at hopen
        cases hopen
    rw [hnotified, after_unlocked_iff hdoor]
    simp

/-! ### Runs -/

/-- A request that writes a door leaves the dictionaries alone. -/
theorem tracks_step [Host] (s : DoorOperationService) (e : AccessPointsController.Event)
    (h : ∀ d, Tracks (view s d)) : ∀ d, Tracks (view (AccessPointsController.step s e) d) := by
  intro d
  cases e with
  | create door utcNow => exact h d
  | update id door utcNow => exact h d
  | operation e =>
    show Tracks (view (s.step e) d)
    rw [view_step]
    split
    · exact (h d).step _ e
    · exact h d

/-- In every run of requests and operations, the unlocks without a duration arm the countdown
that is stored at that moment, if and only if each of them finds current settings. -/
theorem armsAsStored_iff [Host] (db : Db) (es : List AccessPointsController.Event) :
    (∀ pre e, pre ++ [e] <+: es →
        ArmsAsStored (pre.foldl AccessPointsController.step (start db)) e)
      ↔ StepsMeet AccessPointsController.step FindsCurrentSettings (start db) es := by
  rw [stepsMeet_iff_forall]
  refine forall_congr' fun pre => forall_congr' fun e => imp_congr_right fun _ => ?_
  have htracks : ∀ d, Tracks (view (pre.foldl AccessPointsController.step (start db)) d) :=
    foldl_invariant _ _ tracks_step pre (start db) fun _ => holds_of_none rfl
  revert htracks
  generalize pre.foldl AccessPointsController.step (start db) = s
  intro htracks
  rcases e with _ | _ | ⟨⟨d, _ | _, (_ | _) | _⟩ | _ | _ | _ | _ | _⟩ <;> try exact Iff.rfl
  · -- The lock has returned false.
    refine iff_of_true (fun row hrow _ htrue => ?_) trivial
    exact nomatch ((unlockDoorAsync_returns_true_iff hrow).mp htrue).1
  · refine forall_congr' fun row => forall₂_congr fun hrow hclosed => ?_
    exact armsAsStored_unlock_iff hrow (htracks d) hclosed
  · -- The lock has thrown.
    refine iff_of_true (fun row hrow _ htrue => ?_) trivial
    exact nomatch ((unlockDoorAsync_returns_true_iff hrow).mp htrue).1

section
/-- The host of the samples. -/
local instance : Host := Host.sample

/-- The door's own settings are shortened between two unlocks: the second one counts down from
the old ones. -/
theorem machine_keeps_old_settings :
    ¬ ∀ (db : Db) (es pre : List AccessPointsController.Event) (e : AccessPointsController.Event),
      pre ++ [e] <+: es → ArmsAsStored (pre.foldl AccessPointsController.step (start db)) e := by
  intro h
  let unlock : AccessPointsController.Event := .operation (.unlock "hall" none (.returned true))
  let shorten : AccessPointsController.Event :=
    .update "hall" { hallDoor with autoLockDaySeconds := 30 } { ticks := 0 }
  let s := [unlock, shorten].foldl AccessPointsController.step (start hall)
  obtain ⟨row, hrow, hday, hnight⟩ : ∃ row,
      AccessPointRepository.getByIdAsync s.db "hall" = some row
      ∧ row.autoLockDaySeconds = 30 ∧ row.autoLockNightSeconds = 60 :=
    ⟨_, rfl, by decide, by decide⟩
  obtain ⟨m, hm, hcountdown⟩ := h hall [unlock, shorten, unlock] [unlock, shorten] unlock
    List.prefix_rfl row hrow rfl rfl
  have hold : (((unlockDoorAsync "hall" none (.returned true)).exec s).2.autoLockStateMachines
      "hall").bind (fun m => m.countdownTimer) = some 300 := by decide
  rw [show ((unlockDoorAsync "hall" none (.returned true)).exec s).2.autoLockStateMachines "hall"
    = some m from hm, Option.bind_some, hcountdown] at hold
  unfold storedCountdown storedDelay at hold
  rw [hday, hnight] at hold
  split at hold
  · split at hold <;> cases hold
  · cases hold

end

end CodeMaster.Proofs.Web.DoorSettings
