import CodeMaster.Proofs.Engine.DoorOperations

/-!
# `CodeMaster.Proofs.Engine.DoorStates`: do the service and the machine agree?

The lock state and the contact of a door are kept twice, in the service's dictionaries and in
the door's machine. `tracks_step` is what every step keeps: the two lock states are equal, and
a machine that holds an open door is a machine whose door the service reports as open. The
converse fails where a machine is created over an open door, and `agrees_step_iff` shows that
it fails nowhere else.

`DoorView` is the part of the service that a step at a door reads and writes. The lemmas about views
say what each operation does to the view of its own door, and that it leaves the views of all other
ones. The step lemmas are about views, and the run lemmas about the service follow from them for all
doors at once.

A machine that is created over an open door takes the door for closed until the next report of the
contact. This is the only way for the two states to differ, which the exact form states for runs of
any length.
-/

set_option autoImplicit false

namespace CodeMaster.Proofs.Engine.DoorStates

open CodeMaster.Core Data CodeMaster.Engine DoorOperationService Exec Transition
open AutoLockMethods DoorOperations
open AutoLockStateMachine (onLockStateChanged onDoorContactChanged settings)

/-! ### The step lemma -/

/-- The machine holds the lock state that the service reports, and a contact that is in the
relation `R` to the reported one. -/
structure Holds (R : DoorContactState → DoorContactState → Prop) (v : DoorView) : Prop where
  lockState : ∀ m, v.machine = some m → m.lockState = v.lockState
  contactState : ∀ m, v.machine = some m → R m.doorContactState v.contactState

section
variable {R : DoorContactState → DoorContactState → Prop} {v : DoorView}

/-- There is nothing to hold without a machine. -/
theorem holds_of_none (h : v.machine = none) : Holds R v := by
  constructor <;> intro m hm <;> rw [h] at hm <;> cases hm

/-- A report of the lock writes both lock states. -/
theorem holds_reportLock (hcontact : ∀ m, v.machine = some m → R m.doorContactState v.contactState)
    (state : LockState) : Holds R (v.reportLock state) := by
  constructor <;> intro m hm <;> obtain ⟨m', hm', rfl⟩ := Option.map_eq_some_iff.mp hm
  · exact onLockStateChanged_lockState m' state
  · rw [onLockStateChanged_contact]
    exact hcontact m' hm'

/-- A report of the contact keeps a relation between states that every state has with itself. -/
theorem Holds.reportContact (hR : ∀ c, R c c) (h : Holds R v) (state : DoorContactState) :
    Holds R (v.reportContact state) := by
  constructor <;> intro m hm <;> obtain ⟨m', hm', rfl⟩ := Option.map_eq_some_iff.mp hm
  · rw [onDoorContactChanged_lockState]
    exact h.lockState m' hm'
  · rw [onDoorContactChanged_contact]
    exact hR state

/-- A method that leaves the lock state and the contact alone. -/
theorem Holds.map (h : Holds R v) {f : AutoLockStateMachine → AutoLockStateMachine}
    (hlock : ∀ m, v.machine = some m → (f m).lockState = m.lockState)
    (hcontact : ∀ m, (f m).doorContactState = m.doorContactState) :
    Holds R { v with machine := v.machine.map f } := by
  constructor <;> intro m hm <;> obtain ⟨m', hm', rfl⟩ := Option.map_eq_some_iff.mp hm
  · rw [hlock m' hm']
    exact h.lockState m' hm'
  · rw [hcontact]
    exact h.contactState m' hm'

/-- The end of an attempt keeps the relation: it writes no contact state. -/
theorem Holds.endLockAttempt (h : Holds R v) (row : Option AccessPoint) (answer : LockAnswer) :
    Holds R (v.endLockAttempt row answer) := by
  have hcontact : ∀ success m, (after (AutoLockStateMachine.endLockAttempt success) m
      ).doorContactState = m.doorContactState := fun success m =>
    AutoLock.endLockAttempt_frame (AutoLock.framed_contact _) success m rfl
  unfold DoorView.endLockAttempt
  split
  · -- The lock state is locked already when the attempt ends.
    have hlocked : Holds R (v.reportLock .locked) := holds_reportLock h.contactState .locked
    refine hlocked.map (fun m hm => ?_) (hcontact true)
    rw [hlocked.lockState m hm, after_endLockAttempt]
    rfl
  · refine h.map (fun m _ => ?_) (hcontact false)
    rw [after_endLockAttempt, if_neg Bool.false_ne_true]
    split <;> rfl

/-- Both reports keep the relation. -/
theorem Holds.reportStates (hR : ∀ c, R c c) (h : Holds R v) (lockState : Option LockState)
    (contactState : Option DoorContactState) : Holds R (v.reportStates lockState contactState) := by
  have hlock : Holds R (lockState.elim v v.reportLock) := by
    cases lockState with
    | none => exact h
    | some state => exact holds_reportLock h.contactState state
  unfold DoorView.reportStates
  dsimp only
  split
  · cases contactState with
    | none => exact hlock
    | some state => exact hlock.reportContact hR state
  · exact hlock

/-- A duration writes the two delays and nothing else. -/
theorem exists_after_setDuration (durationMinutes : Option (BitVec 32))
    (m : AutoLockStateMachine) :
    ∃ day night, after (setDuration durationMinutes) m
      = { m with daySeconds := day, nightSeconds := night } := by
  cases durationMinutes with
  | none => exact ⟨m.daySeconds, m.nightSeconds, rfl⟩
  | some minutes =>
    by_cases h : 0 < minutes.toInt
    · exact ⟨durationSeconds minutes, durationSeconds minutes, by simp [after, setDuration, h]⟩
    · exact ⟨m.daySeconds, m.nightSeconds, by simp [after, setDuration, h]⟩

/-- A successful unlock keeps the relation, unless it creates the machine over a contact that
is not related to a closed one. -/
theorem holds_unlocked_iff (h : Holds R v) (row : AccessPoint)
    (durationMinutes : Option (BitVec 32)) :
    Holds R (v.unlocked row durationMinutes)
      ↔ (v.machine = none → R .closed v.contactState) := by
  obtain ⟨day, night, hnotified⟩ :=
    exists_after_setDuration durationMinutes (v.machine.getD (.ofAccessPoint row))
  have hcontact : (v.notified row durationMinutes).doorContactState
      = (v.machine.getD (.ofAccessPoint row)).doorContactState := by
    rw [DoorView.notified, hnotified]
  have hiff : Holds R (v.unlocked row durationMinutes)
      ↔ R (v.notified row durationMinutes).doorContactState v.contactState := by
    constructor
    · intro hafter
      have := hafter.contactState _ rfl
      rwa [onLockStateChanged_contact] at this
    · intro hrel
      refine holds_reportLock (fun m hm => ?_) .unlocked
      cases hm
      exact hrel
  rw [hiff, hcontact]
  cases hm : v.machine with
  | none => exact ⟨fun hrel _ => hrel, fun hrel => hrel rfl⟩
  | some m => exact ⟨fun _ => nofun, fun _ => h.contactState m hm⟩

/-- A step keeps the relation, unless it is a successful unlock that creates the machine over
a contact that is not related to a closed one. -/
theorem holds_step_iff (hR : ∀ c, R c c) (h : Holds R v) (row : Option AccessPoint) (e : Event) :
    Holds R (v.step row e) ↔ match e with
      | .unlock _ _ (.returned true) =>
        row.isSome = true → v.machine = none → R .closed v.contactState
      | _ => True := by
  cases e with
  | unlock doorId durationMinutes answer =>
    rcases answer with (_ | _) | _
    · exact iff_of_true h trivial
    · cases row with
      | none => exact iff_of_true h nofun
      -- Only an unlock creates a machine, and then with a closed contact.
      | some row => exact (holds_unlocked_iff h row durationMinutes).trans (by simp)
    · exact iff_of_true h trivial
  | lock doorId answer =>
    refine iff_of_true ?_ trivial
    rcases answer with (_ | _) | _
    · exact h
    · cases row with
      | none => exact h
      | some row => exact holds_reportLock h.contactState .locked
    · exact h
  | updateDoorStates doorId lockState contactState =>
    exact iff_of_true (h.reportStates hR lockState contactState) trivial
  | countdownExpired doorId | retryExpired doorId =>
    refine iff_of_true (h.map (fun m _ => ?_) fun m => AutoLock.step_contact m _) trivial
    unfold AutoLockStateMachine.step
    split <;> rfl
  | lockAttemptEnded doorId answer =>
    refine iff_of_true ?_ trivial
    simp only [DoorView.step]
    split
    · exact h.endLockAttempt row answer
    · exact h

end

/-! ### The settings of the machine

A machine gets its settings when it is created, and a duration writes two of them. Nothing
else does: the later steps map the machine and keep its settings. -/

/-- The door has the same machine up to what the methods write. -/
def SameSettings (v v' : DoorView) : Prop :=
  ∃ f : AutoLockStateMachine → AutoLockStateMachine,
    v'.machine = v.machine.map f ∧ ∀ m, settings (f m) = settings m

/-- A view has the settings of itself. -/
theorem SameSettings.refl (v : DoorView) : SameSettings v v := ⟨id, by simp, fun _ => rfl⟩

/-- The settings of a view through two steps. -/
theorem SameSettings.trans {v v' v'' : DoorView} (h : SameSettings v v')
    (h' : SameSettings v' v'') : SameSettings v v'' := by
  obtain ⟨f, hf, hset⟩ := h
  obtain ⟨g, hg, hset'⟩ := h'
  refine ⟨fun m => g (f m), ?_, fun m => (hset' _).trans (hset m)⟩
  rw [hg, hf, Option.map_map]
  rfl

/-- A method that keeps the settings of every machine keeps those of the door's machine. -/
theorem SameSettings.map {v v' : DoorView} {f : AutoLockStateMachine → AutoLockStateMachine}
    (hv : v'.machine = v.machine.map f) (hf : ∀ m, settings (f m) = settings m) :
    SameSettings v v' := ⟨f, hv, hf⟩

/-- A machine with the settings of before was there before. -/
theorem SameSettings.settings_eq {v v' : DoorView} (h : SameSettings v v')
    {m' : AutoLockStateMachine} (hm' : v'.machine = some m') :
    ∃ m, v.machine = some m ∧ settings m' = settings m := by
  obtain ⟨f, hf, hset⟩ := h
  rw [hf] at hm'
  obtain ⟨m, hm, rfl⟩ := Option.map_eq_some_iff.mp hm'
  exact ⟨m, hm, hset m⟩

section
variable (v : DoorView)

/-- A report of the lock leaves the settings. -/
theorem sameSettings_reportLock (state : LockState) : SameSettings v (v.reportLock state) :=
  .map rfl (settings_onLockStateChanged · state)

/-- A report of the contact leaves the settings. -/
theorem sameSettings_reportContact (state : DoorContactState) :
    SameSettings v (v.reportContact state) :=
  .map rfl (settings_onDoorContactChanged · state)

/-- Both reports leave the settings. -/
theorem sameSettings_reportStates (lockState : Option LockState)
    (contactState : Option DoorContactState) :
    SameSettings v (v.reportStates lockState contactState) := by
  have hlock : SameSettings v (lockState.elim v v.reportLock) := by
    cases lockState with
    | none => exact .refl v
    | some state => exact sameSettings_reportLock v state
  unfold DoorView.reportStates
  dsimp only
  split
  · cases contactState with
    | none => exact hlock
    | some state => exact hlock.trans (sameSettings_reportContact _ state)
  · exact hlock

/-- Only a successful unlock writes settings. -/
theorem sameSettings_step (row : Option AccessPoint) (e : Event)
    (he : ∀ d durationMinutes, e ≠ .unlock d durationMinutes (.returned true)) :
    SameSettings v (v.step row e) := by
  cases e with
  | unlock doorId durationMinutes answer =>
    rcases answer with (_ | _) | _
    · exact .refl v
    · exact absurd rfl (he doorId durationMinutes)
    · exact .refl v
  | lock doorId answer =>
    rcases answer with (_ | _) | _
    · exact .refl v
    · cases row with
      | none => exact .refl v
      | some row => exact sameSettings_reportLock v .locked
    · exact .refl v
  | updateDoorStates doorId lockState contactState =>
    exact sameSettings_reportStates v lockState contactState
  | countdownExpired doorId => exact .map rfl (settings_step · .countdownExpired)
  | retryExpired doorId => exact .map rfl (settings_step · .retryExpired)
  | lockAttemptEnded doorId answer =>
    simp only [DoorView.step, DoorView.endLockAttempt]
    split
    · split
      · exact (sameSettings_reportLock v .locked).trans (.map rfl (settings_endLockAttempt · true))
      · exact .map rfl (settings_endLockAttempt · false)
    · exact .refl v

end

/-! ### Runs -/

/-- What every run keeps of the door: the two lock states are equal, and a machine that holds
an open door is one whose door the service reports as open. -/
abbrev Tracks : DoorView → Prop := Holds fun c c' => c = .open → c' = .open

/-- The machine holds what the service reports. -/
abbrev Agrees : DoorView → Prop := Holds Eq

/-- The service and the machine go on to have the same contact state, once they have. The step
lemma. -/
theorem Tracks.step {v : DoorView} (h : Tracks v) (row : Option AccessPoint) (e : Event) :
    Tracks (v.step row e) := by
  refine (holds_step_iff (fun _ hopen => hopen) h row e).mpr ?_
  -- A machine is created with a closed contact.
  split
  · exact fun _ _ => nofun
  · trivial

/-- A machine is created only over a door that the service reports as closed. -/
def CreatesOverClosedDoor (s : DoorOperationService) : Event → Prop
  | .unlock d _ (.returned true) =>
    (AccessPointRepository.getByIdAsync s.db d).isSome = true → s.autoLockStateMachines d = none →
      s.getDoorContactStateAsync d = .closed
  | _ => True

/-- The condition on a step is decidable. -/
instance (s : DoorOperationService) (e : Event) : Decidable (CreatesOverClosedDoor s e) := by
  unfold CreatesOverClosedDoor
  split <;> infer_instance

/-- Exactly when an event keeps the two contact states equal at every door. -/
theorem agrees_step_iff (s : DoorOperationService) (e : Event) (h : ∀ d, Agrees (view s d)) :
    (∀ d, Agrees (view (s.step e) d)) ↔ CreatesOverClosedDoor s e := by
  have hdoor := holds_step_iff (fun _ => rfl) (h e.doorId)
    (AccessPointRepository.getByIdAsync s.db e.doorId) e
  have hiff : (∀ d, Agrees (view (s.step e) d)) ↔ Agrees (view (s.step e) e.doorId) := by
    refine ⟨fun hall => hall _, fun hd d => ?_⟩
    by_cases hid : e.doorId = d
    · exact hid ▸ hd
    · rw [view_step, if_neg hid]
      exact h d
  rw [hiff, view_step, if_pos rfl]
  refine hdoor.trans ?_
  unfold CreatesOverClosedDoor
  rcases e with ⟨d, durationMinutes, (_ | _) | _⟩ | _ | _ | _ | _ | _ <;> try exact Iff.rfl
  exact ⟨fun hc hrow hm => (hc hrow hm).symm, fun hc hrow hm => (hc hrow hm).symm⟩

/-- The service as the process starts it: the dictionaries are empty. -/
def start (db : Db) : DoorOperationService := { db }

/-- At every point of the run, every machine holds what the service reports of its door. -/
def StatesAgree (s : DoorOperationService) (es : List Event) : Prop :=
  ∀ pre, pre <+: es → ∀ d m, (pre.foldl step s).autoLockStateMachines d = some m →
    m.doorContactState = (pre.foldl step s).getDoorContactStateAsync d
      ∧ m.lockState = (pre.foldl step s).getDoorLockStateAsync d

/-- The service and the machines agree at every point of a run if and only if every machine of
the run is created over a door that the service reports as closed. -/
theorem statesAgree_iff (db : Db) (es : List Event) :
    StatesAgree (start db) es ↔ StepsMeet step CreatesOverClosedDoor (start db) es := by
  have hstart : ∀ d, Agrees (view (start db) d) := fun d => holds_of_none rfl
  rw [← stepsMeet_iff (fun s e h => agrees_step_iff s e h) es (start db) hstart]
  refine forall₂_congr fun pre _ => forall_congr' fun d => ?_
  generalize pre.foldl step (start db) = s
  constructor
  · exact fun h => ⟨fun m hm => (h m hm).2, fun m hm => (h m hm).1⟩
  · exact fun h m hm => ⟨h.contactState m hm, h.lockState m hm⟩

/-- What holds of every door in every run, whatever the machines are created over. -/
theorem run_tracks (db : Db) (es : List Event) (d : String) :
    Tracks (view (es.foldl step (start db)) d) := by
  have hstep : ∀ s e, (∀ d, Tracks (view s d)) → ∀ d, Tracks (view (step s e) d) := by
    intro s e h d
    rw [view_step]
    split
    · exact (h d).step _ e
    · exact h d
  exact foldl_invariant step _ hstep es (start db) (fun _ => holds_of_none rfl) d

/-! ### A door for runs on fixed inputs -/

/-- A door with the default settings. -/
def hallDoor : AccessPoint where
  id := "hall"
  createdAt := { ticks := 0 }
  updatedAt := { ticks := 0 }

/-- A database with one door, the hall. -/
def hall : Db where
  accessPoints := .ofList [hallDoor] (by decide)

/-- The sensor reports the door as open, and then a command unlocks it: the new machine counts
down as if the door were closed. -/
theorem machine_misses_open_door : ¬ ∀ (db : Db) (es : List Event), StatesAgree (start db) es := by
  intro h
  obtain ⟨m, hm, hcontact⟩ : ∃ m,
      ([.updateDoorStates "hall" none (some .open), .unlock "hall" none (.returned true)].foldl
        step (start hall)).autoLockStateMachines "hall" = some m ∧ m.doorContactState = .closed :=
    ⟨_, rfl, by decide⟩
  have hagree := (h hall _ _ List.prefix_rfl "hall" m hm).1
  rw [hcontact] at hagree
  exact absurd hagree (by decide)

end CodeMaster.Proofs.Engine.DoorStates
