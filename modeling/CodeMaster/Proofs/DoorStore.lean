import Mathlib.Data.List.Perm.Basic
import CodeMaster.Lib.Transition
import CodeMaster.Ui.DoorStore

/-!
# `CodeMaster.Proofs.DoorStore`: the buttons and the countdown of a door's card

Two results about a browser, for every sequence of actions and with the answers of the server in any
order.

* The buttons of a card are disabled while a command of the door is in flight, and at no other time.
  So a browser never has two commands of one door in flight (`commands_exclusive`). A door whose id
  is the name of an inherited member is the exception: the record of the commands under way has a
  value for this id from the start, the buttons are always disabled, and no command is ever sent.
* The countdown of a card is what was last written for the door, less the seconds since
  (`countdown_after`). Everything else that happens in between, at this door or at other ones,
  leaves it.

`Known` is the invariant of the first result. It counts the commands of a door among the requests in
flight, and compares the number with the door's own flag. A command starts only from a card, hence
only while the flag is not set, and the answer takes the command and the flag away together.

For the second one, `writesCountdown` says what an input writes to the countdown of a door. What the
countdown is after an input is either this or what a second leaves of it (`countdown_step`).
-/

set_option autoImplicit false

namespace CodeMaster.Proofs.DoorStore

open CodeMaster.Ui DoorState DoorSystem Transition

/-! ### The commands in flight -/

/-- The door that the request is a command for. -/
def commandOf : DoorRequest → Option String
  | .unlock id | .lock id => some id
  | _ => none

/-- The commands of the door that are in flight. -/
def inFlight (s : DoorSystem) (id : String) : Nat := (s.pending.filterMap commandOf).count id

/-- The store knows of the commands in flight. -/
structure Known (s : DoorSystem) : Prop where
  counted : ∀ id, inFlight s id = if s.state.isOperating.own id = some true then 1 else 0
  inherits : s.state.isOperating.inherits = true
  /-- No command has started for an id that is the name of an inherited member. -/
  unwritten : ∀ id ∈ ObjectRecord.inheritedNames, s.state.isOperating.own id = none

section
variable {s : DoorSystem}

/-- A request that is no command, and a store that knows of the same commands. -/
theorem Known.start_other (h : Known s) {state : DoorState} {request : DoorRequest}
    (hrequest : commandOf request = none) (hstate : state.isOperating = s.state.isOperating) :
    Known (s.start state request) where
  counted id := by
    have hnone : [request].filterMap commandOf = [] := by
      rw [List.filterMap_cons_none hrequest, List.filterMap_nil]
    show ((s.pending ++ [request]).filterMap commandOf).count id
      = if state.isOperating.own id = some true then 1 else 0
    rw [List.filterMap_append, hnone, List.append_nil, hstate]
    exact h.counted id
  inherits := (congrArg ObjectRecord.inherits hstate).trans h.inherits
  unwritten id hid := by
    show state.isOperating.own id = none
    rw [hstate]
    exact h.unwritten id hid

/-- A card lets a command start only when its door has none under way. A door with an inherited name
looks as if it always had one. -/
theorem Known.idle_of_canOperate (h : Known s) {id : String} (hcard : s.state.canOperate id = true) :
    s.state.isOperating.own id ≠ some true ∧ id ∉ ObjectRecord.inheritedNames := by
  obtain ⟨-, hidle⟩ := Bool.and_eq_true_iff.mp hcard
  have hread : s.state.isCurrentOperating id = false := by simpa using hidle
  constructor
  · intro hown
    simp [isCurrentOperating, ObjectRecord.get_of_own hown] at hread
  · intro hname
    have hget := ObjectRecord.get_of_inherited (h.unwritten id hname) h.inherits hname
    simp [isCurrentOperating, hget] at hread

/-- A command starts and its flag is set. The flags and the commands of the other doors stay. -/
theorem Known.start_command (h : Known s) {request : DoorRequest} {doorId : String}
    (hrequest : commandOf request = some doorId) (hcard : s.state.canOperate doorId = true) :
    Known (s.start (s.state.startCommand doorId) request) := by
  obtain ⟨hidle, hname⟩ := h.idle_of_canOperate hcard
  refine ⟨fun id => ?_, rfl, fun id hid => ?_⟩
  · have hone : [request].filterMap commandOf = [doorId] := by
      rw [List.filterMap_cons_some hrequest, List.filterMap_nil]
    have hold := h.counted id
    show ((s.pending ++ [request]).filterMap commandOf).count id
      = if (s.state.isOperating.withProperty doorId true).own id = some true then 1 else 0
    rw [List.filterMap_append, hone, List.count_append]
    unfold inFlight at hold
    by_cases hid : id = doorId
    · subst hid
      rw [if_neg hidle] at hold
      rw [hold, ObjectRecord.own_withProperty_self, if_pos rfl, List.count_singleton_self]
    · have hother : [doorId].count id = 0 := List.count_eq_zero.mpr (by simpa using hid)
      rw [hold, ObjectRecord.own_withProperty_of_ne _ _ _ hid, hother, Nat.add_zero]
  · show (s.state.isOperating.withProperty doorId true).own id = none
    have hne : id ≠ doorId := by
      rintro rfl
      exact hname hid
    rw [ObjectRecord.own_withProperty_of_ne _ _ _ hne]
    exact h.unwritten id hid

/-- The answer to a command ends it for the store, and no other answer does. -/
theorem isOperating_settle {state state' : DoorState} {request : DoorRequest} {answer : DoorAnswer}
    (h : settle state request answer = some state') :
    state'.isOperating
      = (commandOf request).elim state.isOperating (state.isOperating.withProperty · false) := by
  cases request with
  | unlock doorId | lock doorId =>
    cases answer with
    | done | error message => cases h; rfl
    | doors | door => cases h
  | list =>
    cases answer with
    | doors | error => cases h; rfl
    | _ => cases h
  | create | update =>
    cases answer with
    | door | error => cases h; rfl
    | _ => cases h
  | delete =>
    cases answer with
    | done | error => cases h; rfl
    | _ => cases h

/-- The commands of a door, less the one that has its answer. -/
theorem count_eraseIdx {requests : List DoorRequest} {place : Nat} {request : DoorRequest}
    (h : requests[place]? = some request) (id : String) :
    (requests.filterMap commandOf).count id
      = ((requests.eraseIdx place).filterMap commandOf).count id
        + if commandOf request = some id then 1 else 0 := by
  obtain ⟨hlt, rfl⟩ := List.getElem?_eq_some_iff.mp h
  have hperm := (List.getElem_cons_eraseIdx_perm hlt).filterMap commandOf
  rw [← hperm.count_eq id]
  cases hcommand : commandOf requests[place] with
  | none => simp [List.filterMap_cons_none hcommand]
  | some doorId =>
    rw [List.filterMap_cons_some hcommand, List.count_cons]
    by_cases hid : doorId = id <;> simp [hid]

/-- An answer takes its request out of those in flight. When the request was a command, the flag of
its door goes with it. -/
theorem Known.answer (h : Known s) (place : Nat) (answer : DoorAnswer) :
    Known (s.step (.answer place answer)) := by
  cases hplace : s.pending[place]? with
  | none => rwa [step_answer_of_none hplace]
  | some request =>
    rw [step_answer_of_some hplace]
    cases hsettle : settle s.state request answer with
    | none => exact h
    | some state =>
      have hoperating := isOperating_settle hsettle
      have hcount := count_eraseIdx hplace
      cases hcommand : commandOf request with
      | none =>
        rw [hcommand, Option.elim_none] at hoperating
        refine ⟨fun id => ?_, (congrArg _ hoperating).trans h.inherits, fun id hid => ?_⟩
        · have hold := h.counted id
          have hid := hcount id
          rw [hcommand, if_neg nofun, Nat.add_zero] at hid
          show ((s.pending.eraseIdx place).filterMap commandOf).count id
            = if state.isOperating.own id = some true then 1 else 0
          rw [hoperating, ← hold, ← hid]
          rfl
        · show state.isOperating.own id = none
          rw [hoperating]
          exact h.unwritten id hid
      | some doorId =>
        -- This was the command of the door.
        rw [hcommand, Option.elim_some] at hoperating
        have hdoor := hcount doorId
        rw [hcommand, if_pos rfl] at hdoor
        have hflag : s.state.isOperating.own doorId = some true ∧
            ((s.pending.eraseIdx place).filterMap commandOf).count doorId = 0 := by
          have hold := h.counted doorId
          unfold inFlight at hold
          split at hold
          · rename_i hown
            exact ⟨hown, by omega⟩
          · omega
        refine ⟨fun id => ?_, congrArg _ hoperating, fun id hid => ?_⟩
        · show ((s.pending.eraseIdx place).filterMap commandOf).count id
            = if state.isOperating.own id = some true then 1 else 0
          rw [hoperating]
          by_cases hid : id = doorId
          · subst hid
            rw [hflag.2, ObjectRecord.own_withProperty_self, if_neg (by simp)]
          · have hold := h.counted id
            have hother := hcount id
            rw [hcommand, if_neg (by simpa using Ne.symm hid), Nat.add_zero] at hother
            rw [ObjectRecord.own_withProperty_of_ne _ _ _ hid, ← hold, ← hother]
            rfl
        · show state.isOperating.own id = none
          have hne : id ≠ doorId := by
            rintro rfl
            exact absurd (h.unwritten id hid) (by simp [hflag.1])
          rw [hoperating, ObjectRecord.own_withProperty_of_ne _ _ _ hne]
          exact h.unwritten id hid

/-- The step lemma. -/
theorem Known.step (h : Known s) (input : DoorInput) : Known (s.step input) := by
  cases input with
  | fetchDoors | createDoor | updateDoor | deleteDoor => exact h.start_other rfl rfl
  | unlockDoor id | lockDoor id =>
    show Known (if s.state.canOperate id then _ else s)
    split
    · rename_i hcard
      exact h.start_command rfl hcard
    · exact h
  | selectDoor | updateDoorState | tickCountdowns => exact ⟨h.counted, h.inherits, h.unwritten⟩
  | answer place answer => exact h.answer place answer

/-- The buttons of a door are disabled while a command is in flight, or for ever. -/
theorem Known.isCurrentOperating_iff (h : Known s) (id : String) :
    s.state.isCurrentOperating id = true
      ↔ inFlight s id = 1 ∨ id ∈ ObjectRecord.inheritedNames := by
  have hcount := h.counted id
  cases hown : s.state.isOperating.own id with
  | none =>
    rw [hown, if_neg nofun] at hcount
    have hnone : ¬inFlight s id = 1 := by omega
    by_cases hname : id ∈ ObjectRecord.inheritedNames
    · have hget := ObjectRecord.get_of_inherited hown h.inherits hname
      exact iff_of_true (by simp [isCurrentOperating, hget]) (Or.inr hname)
    · have hget := ObjectRecord.get_of_not_mem hown hname
      exact iff_of_false (by simp [isCurrentOperating, hget]) (by simp [hnone, hname])
  | some operating =>
    have hname : id ∉ ObjectRecord.inheritedNames := fun hname => by
      simp [h.unwritten id hname] at hown
    have hget := ObjectRecord.get_of_own hown
    rw [hown] at hcount
    cases operating with
    | true => exact iff_of_true (by simp [isCurrentOperating, hget]) (Or.inl hcount)
    | false =>
      have hnone : inFlight s id = 0 := hcount
      exact iff_of_false (by simp [isCurrentOperating, hget]) (by simp [hnone, hname])

/-- **One command at a time**: whatever the user does and in whatever order the answers come, at
most one command of a door is in flight, and the buttons of its card are disabled if and only if one
is, or the id of the door is the name of an inherited member. A door with such an id has no command
in flight at any time. -/
theorem commands_exclusive (inputs : List DoorInput) (id : String) :
    let s := inputs.foldl DoorSystem.step {}
    inFlight s id ≤ 1
      ∧ (s.state.isCurrentOperating id = true
          ↔ inFlight s id = 1 ∨ id ∈ ObjectRecord.inheritedNames)
      ∧ (id ∈ ObjectRecord.inheritedNames → inFlight s id = 0) := by
  have hstart : Known {} := ⟨fun _ => rfl, rfl, fun _ _ => rfl⟩
  have hknown : Known (inputs.foldl DoorSystem.step {}) :=
    foldl_invariant DoorSystem.step Known (fun _ input h => h.step input) inputs {} hstart
  intro s
  refine ⟨?_, hknown.isCurrentOperating_iff id, fun hname => ?_⟩
  · have hcount : inFlight s id = if s.state.isOperating.own id = some true then 1 else 0 :=
      hknown.counted id
    rw [hcount]
    split
    · exact Nat.le_refl 1
    · exact Nat.zero_le 1
  · have hcount : inFlight s id = if s.state.isOperating.own id = some true then 1 else 0 :=
      hknown.counted id
    have hown : s.state.isOperating.own id = none := hknown.unwritten id hname
    rw [hcount, hown, if_neg nofun]

end

/-! ### The countdown -/

/-- What the input writes to the countdown of the door. -/
def writesCountdown (s : DoorSystem) (id : String) : DoorInput → Option (Option Int)
  | .updateDoorState doorId _ _ countdown => if doorId = id then countdown.map some else none
  | .answer place answer =>
    match s.pending[place]?, answer with
    | some .list, .doors doors => (countdownsOf doors).own id
    | some (.unlock doorId), .done =>
      if doorId = id then some (some (unlockCountdown s.state.doors doorId)) else none
    | some (.lock doorId), .done => if doorId = id then some (some 0) else none
    | _, _ => none
  | _ => none

/-- The input is a second that passes. -/
def isTick : DoorInput → Bool
  | .tickCountdowns => true
  | _ => false

/-- A countdown after some seconds. Only a positive number counts down. -/
def left (countdown : Int) (seconds : Nat) : Int :=
  if countdown > 0 then max 0 (countdown - seconds) else countdown

/-- Nothing is taken off before a second has passed. -/
theorem left_zero (countdown : Int) : left countdown 0 = countdown := by
  unfold left
  split <;> omega

/-- One second more is one second less. -/
theorem tick_left (countdown : Int) (seconds : Nat) :
    tick (some (left countdown seconds)) = some (left countdown (seconds + 1)) := by
  show some (if left countdown seconds > 0 then left countdown seconds - 1
    else left countdown seconds) = _
  congr 1
  unfold left
  split
  · split <;> omega
  · rfl

section
variable {s : DoorSystem} {id : String}

/-- A countdown that is written to one door, as another door sees it. -/
theorem own_countdown (c : Countdowns) (doorId : String) (value : Option Int) :
    (c.withProperty doorId value).own id
      = (if doorId = id then some value else none).or (c.own id) := by
  by_cases hid : id = doorId
  · subst hid
    simp
  · rw [ObjectRecord.own_withProperty_of_ne _ _ _ hid, if_neg (Ne.symm hid), Option.none_or]

/-- The answer to a request writes the countdown, or leaves it. -/
theorem countdown_settle {place : Nat} {request : DoorRequest} {answer : DoorAnswer}
    {state : DoorState} (hplace : s.pending[place]? = some request)
    (h : settle s.state request answer = some state) :
    state.autoLockCountdowns.own id
      = (writesCountdown s id (.answer place answer)).or (s.state.autoLockCountdowns.own id) := by
  simp only [writesCountdown, hplace]
  cases request with
  | list =>
    cases answer with
    | doors | error => cases h; rfl
    | _ => cases h
  | unlock | lock =>
    -- The success of a command writes the countdown of its door, and no other one.
    cases answer with
    | done =>
      cases h
      exact own_countdown _ _ _
    | error =>
      cases h
      rfl
    | _ => cases h
  | create | update =>
    cases answer with
    | door | error => cases h; rfl
    | _ => cases h
  | delete =>
    cases answer with
    | done | error => cases h; rfl
    | _ => cases h

/-- An answer without effect writes nothing. -/
theorem writesCountdown_of_settle_none {place : Nat} {request : DoorRequest} {answer : DoorAnswer}
    (hplace : s.pending[place]? = some request) (h : settle s.state request answer = none) :
    writesCountdown s id (.answer place answer) = none := by
  simp only [writesCountdown, hplace]
  cases request <;> cases answer <;> first | rfl | cases h

/-- The step lemma. -/
theorem countdown_step (s : DoorSystem) (id : String) (input : DoorInput) :
    (s.step input).state.autoLockCountdowns.own id
      = (writesCountdown s id input).or
          (if isTick input then (s.state.autoLockCountdowns.own id).map tick
            else s.state.autoLockCountdowns.own id) := by
  cases input with
  | fetchDoors | createDoor | updateDoor | deleteDoor | selectDoor | tickCountdowns => rfl
  | unlockDoor doorId | lockDoor doorId =>
    show (if s.state.canOperate doorId then _ else s).state.autoLockCountdowns.own id = _
    split <;> rfl
  | updateDoorState doorId lockState contactState countdown =>
    cases countdown with
    | none =>
      -- A report without a countdown leaves the record as it is.
      show s.state.autoLockCountdowns.own id = (if doorId = id then none else none).or _
      rw [ite_self, Option.none_or]
      rfl
    | some seconds => exact own_countdown _ _ _
  | answer place answer =>
    cases hplace : s.pending[place]? with
    | none =>
      rw [step_answer_of_none hplace]
      simp [writesCountdown, hplace, isTick]
    | some request =>
      rw [step_answer_of_some hplace]
      cases hsettle : settle s.state request answer with
      | none =>
        rw [writesCountdown_of_settle_none hplace hsettle]
        rfl
      | some state => exact countdown_settle hplace hsettle

/-- The run lemma: only the seconds change a countdown that nothing writes. -/
theorem countdown_run (inputs : List DoorInput) {value : Option Int} {seconds : Nat}
    (hvalue : s.state.autoLockCountdowns.own id = some (value.map (left · seconds)))
    (hquiet : StepsMeet DoorSystem.step (fun s input => writesCountdown s id input = none)
      s inputs) :
    (inputs.foldl DoorSystem.step s).state.autoLockCountdowns.own id
      = some (value.map (left · (seconds + inputs.countP isTick))) := by
  -- The induction carries the seconds that have been ticked so far.
  induction inputs generalizing s seconds with
  | nil => exact hvalue
  | cons input inputs ih =>
    obtain ⟨hnone, hrest⟩ := hquiet
    have hstep := countdown_step s id input
    rw [hnone, Option.none_or, hvalue] at hstep
    rw [List.foldl_cons, List.countP_cons]
    cases htick : isTick input with
    | false =>
      rw [htick, if_neg Bool.false_ne_true] at hstep
      rw [if_neg Bool.false_ne_true, Nat.add_zero]
      exact ih hstep hrest
    | true =>
      rw [htick, if_pos rfl, Option.map_some] at hstep
      have hticked : tick (value.map (left · seconds)) = value.map (left · (seconds + 1)) := by
        cases value with
        | none => rfl
        | some n => exact tick_left n seconds
      rw [hticked] at hstep
      rw [if_pos rfl, Nat.add_comm (inputs.countP isTick) 1, ← Nat.add_assoc]
      exact ih hstep hrest

/-- **The countdown of a card counts seconds**: take any state and any input that writes the
countdown of a door, a number or a `null`. After any further inputs that write it no more, the card
of the door shows what is `left` of the number: a positive number less the seconds that have passed,
but not less than zero, and any other number as it was written. After a `null` it shows what the
record of the door says, or zero. -/
theorem countdown_after (s : DoorSystem) {input : DoorInput} {value : Option Int}
    (hwrites : writesCountdown s id input = some value) (inputs : List DoorInput)
    (hquiet : StepsMeet DoorSystem.step (fun s input => writesCountdown s id input = none)
      (s.step input) inputs) (door : AccessPoint) (hdoor : door.id = id) :
    (inputs.foldl DoorSystem.step (s.step input)).state.countdown door
      = .seconds (((value.map (left · (inputs.countP isTick))).or
          door.remainingCountdownSeconds.join).getD 0) := by
  have hstart : (s.step input).state.autoLockCountdowns.own id
      = some (value.map (left · 0)) := by
    rw [countdown_step, hwrites, Option.some_or]
    simp [left_zero]
  have hrun := countdown_run inputs hstart hquiet
  rw [Nat.zero_add] at hrun
  unfold DoorState.countdown
  rw [hdoor, ObjectRecord.get_of_own hrun]
  cases value with
  | none => rfl
  | some n => rfl

end

/-! ### A door that is unlocked and locks itself -/

/-- The door of the samples. -/
def frontDoor : AccessPoint where
  id := "front"
  name := "Front"
  lockProviderType := "AugustZWave"
  lockConfigJson := "\x7b\x7d"
  autoLockEnabled := true
  autoLockDaySeconds := 3
  autoLockNightSeconds := 60
  retryOnFailure := true

/-- The door is loaded, and its card unlocks it. -/
def unlocking : DoorSystem :=
  [.fetchDoors, .answer 0 (.doors [frontDoor]), .unlockDoor "front"].foldl DoorSystem.step {}

/-- Two seconds after the door was unlocked, its card shows one second. -/
theorem countdown_after_sample :
    ([.tickCountdowns, .fetchDoors, .tickCountdowns].foldl DoorSystem.step
        (unlocking.step (.answer 0 .done))).state.countdown frontDoor
      = .seconds ((((some 3 : Option Int).map (left · 2)).or
          frontDoor.remainingCountdownSeconds.join).getD 0) :=
  countdown_after unlocking (by decide) [.tickCountdowns, .fetchDoors, .tickCountdowns]
    ⟨rfl, rfl, rfl, trivial⟩ frontDoor rfl

end CodeMaster.Proofs.DoorStore
