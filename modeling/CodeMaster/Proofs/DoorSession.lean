import CodeMaster.DoorSession
import CodeMaster.Proofs.AuditTrail
import CodeMaster.Proofs.Server.DoorSetup

/-!
# `CodeMaster.Proofs.DoorSession`: is what the doors page shows at the server?

The answers arrive in the order in which the server has handled the requests. Then the doors of the
page, with the forms that they open, are the stored doors whenever no answer is under way
(`doors_at_rest`).

The states on the cards are less sure. An unlock whose timer throws has moved the bolt and is
answered with an error, and the answer to an edit does not say the states, which the card takes for
`Locked` and `Closed`. Without the two the cards show what the service knows (`states_at_rest`). An
edited door is shown as locked until the next list or command for it (`edited_shows_locked`).

The page and the server are a `Replica`: the page sends requests, the server handles them, and the
answers arrive with any delay. In between the page and the server go on, and other clients can
change the server. The library reduces a result about all runs to the rules `keeps_doors` and
`keeps_states`, which look at one request at a time, with the server and the page in agreement
before it.

`doors_settle` and the lemmas beside it say what an answer does to the page, and the lemmas about
`serve` what a request does to the server. No request of the page can make the two differ in the
rows. In the states they can differ, and the conditions of `states_at_rest` leave out the requests
after which they do.
-/

set_option autoImplicit false

namespace CodeMaster.Proofs.DoorSession

open CodeMaster.Core CodeMaster.Data CodeMaster.Engine CodeMaster.Web CodeMaster.Ui Exec
open CodeMaster.DoorSession Replica Transition
open CodeMaster.DoorCommands (Site Command DoorResult newLogId insertLog broadcast
  webLog unlockDetails)
open CodeMaster.Proofs.AuditTrail (Performs Unlocks Locks TimerAccepts performs_unlock performs_lock
  not_unlocks_of_none not_locks_of_none mem_keys_of_getByIdAsync exec_insertNew)
open CodeMaster.Engine.DoorOperationService (unlockDoorAsync lockDoorAsync)
open CodeMaster.Proofs.Engine.DoorOperations (DoorView SameElsewhere view unlockDoorAsync_elsewhere
  lockDoorAsync_elsewhere view_unlockDoorAsync view_lockDoorAsync)
open CodeMaster.Ui.DoorState (shownLockState shownContactState)
open CodeMaster.Ui.DoorSetupWizard (openDoor topicOf)

/-! ### What an answer does to the doors -/

/-- What the answer to a request does to the doors of the page. A list replaces them, a new door
goes to the end, a written door takes the place of the one with its id, and a deleted one goes. A
command changes the lock state of its card only, and an error changes no door. -/
theorem doors_settle (request : Request) (answer : DoorAnswer) (state : DoorState) :
    (settle request answer state).doors
      = match request, answer with
        | .list, .doors doors => doors
        | .create _, .door created => state.doors ++ [created]
        | .update id _, .door updated => state.doors.map fun d => if d.id = id then updated else d
        | .delete id, .done => state.doors.filter fun d => d.id ≠ id
        | .unlock id, .done =>
          state.doors.map fun d => if d.id = id then { d with lockState := some "Unlocked" } else d
        | .lock id, .done =>
          state.doors.map fun d => if d.id = id then { d with lockState := some "Locked" } else d
        | _, _ => state.doors := by
  cases request <;> cases answer <;> rfl

/-- The part of an action before the answer leaves the doors. -/
theorem doors_send (request : Request) (state : DoorState) :
    (send request state).doors = state.doors := by
  cases request <;> rfl

/-- An action without a request leaves the doors. -/
theorem doors_act (action : PageAction) (state : DoorState) :
    (act action state).doors = state.doors := by
  cases action <;> rfl

/-! ### What a command does to the service -/

section
variable {service service' : DoorOperationService} {id : String} {answer : LockAnswer}

end

/-! ### What the server does -/

section
variable [Host] {c : Circumstances} {s : Site}

/-- A list request reads the doors and changes nothing. -/
theorem serve_list : serve .list c s = (.doors (getAll s.service), s) := rfl

/-- A new door is inserted, or nothing changes. -/
theorem serve_create (body : DoorBody) :
    serve (.create body) c s = (.error c.message, s)
      ∨ ∃ door accessPoints, serve (.create body) c s
          = (.door (doorView door), withDb s { s.service.db with accessPoints })
        ∧ accessPoints.rows = s.service.db.accessPoints.rows ++ [AccessPointRepository.toRow door]
        ∧ door.id = s.service.db.newGuid := by
  simp only [serve, run]
  unfold AccessPointsController.postDoor AccessPointsController.create
  rw [exec_bind, exec_query]
  dsimp only
  rw [exec_ite]
  by_cases hname : isNullOrWhiteSpace
      (some (body.toAccessPoint s.service.db.newGuid c.utcNow).name) = true
  · rw [if_pos hname]
    exact Or.inl rfl
  · rw [if_neg hname]
    simp only [exec_bind, exec_query]
    generalize hdoor : ({ body.toAccessPoint s.service.db.newGuid c.utcNow with
      id := if isNullOrWhiteSpace (some (body.toAccessPoint s.service.db.newGuid c.utcNow).id) then
          s.service.db.newGuid
        else (body.toAccessPoint s.service.db.newGuid c.utcNow).id
      createdAt := c.utcNow
      updatedAt := c.utcNow } : Core.AccessPoint) = door
    have hid : door.id = s.service.db.newGuid := by
      rw [← hdoor]
      exact ite_self _
    -- The fresh identifier is no key of the table, so that the insertion succeeds.
    have hnew : (AccessPointRepository.toRow door).id ∉ s.service.db.accessPoints.keys := by
      show door.id ∉ _
      rw [hid]
      exact Db.newGuid_notMem fun _ h => by simp only [Db.ids, List.mem_append]; tauto
    obtain ⟨accessPoints, hinsert⟩ := Relational.Table.exists_insert? hnew
    have hok : AccessPointRepository.insertAsync door s.service.db
        = .ok { s.service.db with accessPoints } := by
      rw [AccessPointRepository.insertAsync, hinsert]
    rw [exec_statement_of_ok hok]
    exact Or.inr
      ⟨door, accessPoints, rfl, (Relational.Table.insert?_eq_some_iff.mp hinsert).2, hid⟩

/-- An update writes a stored door, or nothing changes. -/
theorem serve_update (id : String) (body : DoorBody) :
    serve (.update id body) c s = (.error c.message, s)
      ∨ ∃ door, serve (.update id body) c s = (.door (doorView door),
          withDb s (AccessPointRepository.updateAsync door s.service.db)) ∧ door.id = id := by
  simp only [serve, run]
  unfold AccessPointsController.putDoor AccessPointsController.update
  simp only [exec_bind, exec_query]
  cases hget : AccessPointRepository.getByIdAsync s.service.db id with
  | none => exact Or.inl rfl
  | some existing => exact Or.inr ⟨_, rfl, rfl⟩

/-- A deletion is either refused, and changes nothing, or it leaves the database without the row.
The controllers of the door stay in both cases. -/
theorem serve_delete (id : String) :
    serve (.delete id) c s = (.error c.message, s)
      ∨ ∃ s', serve (.delete id) c s = (.done, s')
        ∧ s'.service
          = { s.service with db := AccessPointRepository.deleteAsync id s.service.db } := by
  simp only [serve, DoorSession.delete, run]
  unfold AccessPointsController.delete
  simp only [exec_bind, exec_query]
  cases hget : AccessPointRepository.getByIdAsync s.service.db id with
  | none => exact Or.inl rfl
  | some existing => exact Or.inr ⟨_, rfl, rfl⟩

/-- A command is answered with OK exactly when its operation succeeds, and leaves the service as
the operation has left it. -/
structure Answers (x : DoorAnswer × Site) (service : DoorOperationService) (succeeds : Prop)
    (message : String) : Prop where
  service : x.2.service = service
  done : succeeds → x.1 = .done
  error : ¬ succeeds → x.1 = .error message

omit [Host] in
/-- A command whose action returns OK is answered as done. -/
theorem runCommand_of_ok {command : Command DoorResult} {message lockState doorId : String}
    {s' : Site} (h : command.exec s = (.ok (.ok lockState doorId), s')) :
    runCommand command message s = (.done, s') := by
  rw [runCommand, h]

/-- A command whose log entry names a user. -/
theorem answers_of_performs {operation : Command Bool} {after : Site} {doorId : String}
    {eventType : AccessEventType} {succeeds : Prop}
    (h : Performs operation s after doorId eventType succeeds)
    (hdoor : doorId ∈ s.service.db.accessPoints.keys) {f : String → Core.AccessLog}
    {userName : String} (hid : ∀ guid, (f guid).id = guid)
    (hname : ∀ guid, (f guid).userName = some userName)
    (hof : ∀ guid, (f guid).accessPointId = doorId) (failure lockState message : String) :
    Answers (runCommand (operation >>= fun success =>
        if !success then pure (.failed failure) else do
          let guid ← newLogId
          insertLog (f guid) false
          broadcast (f guid)
          return .ok lockState doorId) message s)
      after.service succeeds message := by
  by_cases hsucceeds : succeeds
  · have hkey : ∀ guid, (f guid).accessPointId ∈ after.service.db.accessPoints.keys := by
      intro guid
      rw [hof, h.db]
      exact hdoor
    obtain ⟨guid, accessLogs, hexec, -⟩ := exec_insertNew
      (s := { after with operations := s.operations ++ [(doorId, eventType)] }) hid hname hkey
      false fun guid => do
        broadcast (f guid)
        return (DoorResult.ok lockState doorId)
    rw [runCommand_of_ok ((exec_bind_of_ok (h.success hsucceeds)).trans hexec)]
    exact ⟨rfl, fun _ => rfl, fun h => absurd hsucceeds h⟩
  -- A throw and a false answer end in the same error for the browser.
  · obtain ⟨r, hexec, hr⟩ := h.failure hsucceeds
    unfold runCommand
    rw [exec_bind, hexec]
    cases r with
    | error e => exact ⟨rfl, fun h => absurd h hsucceeds, fun _ => rfl⟩
    | ok success =>
      cases success with
      | true => exact absurd rfl hr
      | false => exact ⟨rfl, fun h => absurd h hsucceeds, fun _ => rfl⟩

/-- An unlock request runs the operation of the service once. It is answered as done only when the
operation has unlocked the door, and with the message otherwise. -/
theorem serve_unlock (id : String) :
    Answers (serve (.unlock id) c s) ((unlockDoorAsync id none c.answer).exec s.service).2
      (Unlocks s.service id none c.answer) c.message := by
  simp only [serve]
  unfold DoorCommands.unlock
  cases hget : AccessPointRepository.getByIdAsync s.service.db id with
  | none =>
    unfold runCommand
    rw [exec_bind, exec_query, hget]
    refine ⟨?_, fun h => absurd h (not_unlocks_of_none hget), fun _ => rfl⟩
    unfold DoorOperationService.unlockDoorAsync
    rw [exec_bind, exec_query, hget]
    rfl
  | some door =>
    have hanswers := answers_of_performs (performs_unlock s id none c.answer)
      (mem_keys_of_getByIdAsync hget)
      (f := fun guid => webLog guid id .unlocked (unlockDetails none) c.toCommand)
      (fun _ => rfl) (fun _ => rfl) (fun _ => rfl)
      ("Failed to unlock door '" ++ door.name ++ "'") "Unlocked" c.message
    unfold runCommand at hanswers ⊢
    rw [exec_bind, exec_query, hget]
    exact hanswers

/-- A lock request runs the operation of the service once. It is answered as done only when the
operation has locked the door, and with the message otherwise. -/
theorem serve_lock (id : String) :
    Answers (serve (.lock id) c s) ((lockDoorAsync id c.answer).exec s.service).2
      (Locks s.service id c.answer) c.message := by
  simp only [serve]
  unfold DoorCommands.lock
  cases hget : AccessPointRepository.getByIdAsync s.service.db id with
  | none =>
    unfold runCommand
    rw [exec_bind, exec_query, hget]
    refine ⟨?_, fun h => absurd h (not_locks_of_none hget), fun _ => rfl⟩
    unfold DoorOperationService.lockDoorAsync
    rw [exec_bind, exec_query, hget]
    rfl
  | some door =>
    have hanswers := answers_of_performs (performs_lock s id c.answer)
      (mem_keys_of_getByIdAsync hget)
      (f := fun guid => webLog guid id .locked "Remote lock via API" c.toCommand)
      (fun _ => rfl) (fun _ => rfl) (fun _ => rfl)
      ("Failed to lock door '" ++ door.name ++ "'") "Locked" c.message
    unfold runCommand at hanswers ⊢
    rw [exec_bind, exec_query, hget]
    exact hanswers

end

/-! ### The doors on the page -/

/-- A door, and the form that it opens. -/
def formOf (door : Ui.AccessPoint) : String × DoorForm := (door.id, openDoor door)

/-- The doors on the page are the stored ones, in some order, with the same forms. -/
def SameDoors (shown : List Ui.AccessPoint) (s : Site) : Prop :=
  (shown.map formOf).Perm (s.service.db.accessPoints.rows.map fun row => formOf (doorView row))

/-- No value starts with white space. -/
theorem startValue_of_whiteSpace {c : Char} (h : isWhiteSpace c = true) :
    Json.Reader.startValue [] c = none := by
  have hother : ∀ d : Char, isWhiteSpace d = false → c ≠ d := by
    rintro d hd rfl
    rw [h] at hd
    cases hd
  have hdigit : c.isDigit = false := by
    rw [Bool.eq_false_iff]
    intro hdigit
    unfold Char.isDigit at hdigit
    simp only [Bool.and_eq_true, decide_eq_true_eq, ge_iff_le, UInt32.le_iff_toNat_le] at hdigit
    simp only [isWhiteSpace, decide_eq_true_eq] at h
    have hnat : c.toNat = c.val.toNat := rfl
    have hzero : UInt32.toNat '0'.val = 48 := rfl
    have hnine : UInt32.toNat '9'.val = 57 := rfl
    omega
  have hfirst : Json.NumberPhase.first c = none := by
    rw [Json.NumberPhase.first, if_neg (hother '-' (by decide)), if_neg (hother '0' (by decide)),
      hdigit]
    rfl
  rw [Json.Reader.startValue, if_neg (hother _ (by decide)), if_neg (hother _ (by decide)),
    if_neg (hother _ (by decide)), if_neg (hother _ (by decide)), if_neg (hother _ (by decide)),
    if_neg (hother _ (by decide)), hfirst, Option.map_none]

/-- A text of white space is no JSON text. -/
theorem read_of_blank {text : String} (h : isNullOrWhiteSpace (some text) = true) :
    Json.read text = none := by
  have hrun : ∀ cs : List Char, cs.all isWhiteSpace = true →
      Json.Reader.run {} cs = none ∨ Json.Reader.run {} cs = some {} := by
    intro cs
    induction cs with
    | nil => exact fun _ => Or.inr rfl
    | cons c cs ih =>
      intro hall
      obtain ⟨hc, hcs⟩ := Bool.and_eq_true_iff.mp hall
      rw [Json.Reader.run_cons]
      show ((Json.Reader.between {} c).bind fun r => r.run cs) = none
        ∨ ((Json.Reader.between {} c).bind fun r => r.run cs) = some {}
      unfold Json.Reader.between
      by_cases hwhite : Json.Reader.isWhite c = true
      · -- The reader still waits for the value.
        rw [if_pos hwhite]
        exact ih hcs
      · rw [if_neg hwhite]
        left
        show (Json.Reader.startValue [] c).bind _ = none
        rw [startValue_of_whiteSpace hc, Option.bind_none]
  rw [isNullOrWhiteSpace_some] at h
  unfold Json.read
  rcases hrun text.toList h with hnone | hstart
  · rw [hnone, Option.bind_none]
  · rw [hstart]
    rfl

/-- A blank topic in the form is an empty one. -/
theorem topicOf_of_blank (aliasName : String) {text : String}
    (h : isNullOrWhiteSpace (some text) = true) : topicOf aliasName (some text) = "" := by
  by_cases hempty : text = ""
  · subst hempty
    exact Server.topicOf_none aliasName
  · have htext : (truthy (some text)).getD "\x7b\x7d" = text := by
      rw [truthy, Option.filter_some, if_pos (decide_eq_true hempty), Option.getD_some]
    unfold DoorSetupWizard.topicOf
    rw [htext, read_of_blank h]

/-- The form takes what is stored for what was sent. -/
theorem openDoor_toRow (door : Core.AccessPoint) :
    openDoor (doorView (AccessPointRepository.toRow door)) = openDoor (doorView door) := by
  have hconfig : topicOf "lockTopic" (some (AccessPointRepository.toRow door).lockConfigJson)
      = topicOf "lockTopic" (some door.lockConfigJson) := by
    cases hblank : isNullOrWhiteSpace (some door.lockConfigJson) with
    | false => rw [Server.toRow_lockConfigJson hblank]
    | true =>
      have hrow : (AccessPointRepository.toRow door).lockConfigJson = "\x7b\x7d" := if_pos hblank
      rw [hrow, Server.topicOf_empty, topicOf_of_blank "lockTopic" hblank]
  have hdevice : ∀ providerType : Option String,
      (truthy (some (providerType.getD "None"))).getD "None"
        = (truthy providerType).getD "None" := by
    intro providerType
    cases providerType with
    | none => rfl
    | some providerType => rfl
  have hkeypad := hdevice door.keypadProviderType
  have hsensor := hdevice door.doorSensorProviderType
  unfold DoorSetupWizard.openDoor
  show DoorForm.mk _ _ _ _ _ _ _ _ _ _ _ = DoorForm.mk _ _ _ _ _ _ _ _ _ _ _
  rw [DoorForm.mk.injEq]
  exact ⟨rfl, rfl, hconfig, hkeypad, rfl, hsensor, rfl, rfl, rfl, rfl, rfl⟩

/-- What the page shows is kept by a new door. -/
theorem SameDoors.append {shown : List Ui.AccessPoint} {s : Site} (h : SameDoors shown s)
    (door : Core.AccessPoint) {accessPoints : Relational.Table Core.AccessPoint.id}
    (hrows : accessPoints.rows
      = s.service.db.accessPoints.rows ++ [AccessPointRepository.toRow door]) :
    SameDoors (shown ++ [doorView door])
      (withDb s { s.service.db with accessPoints }) := by
  show ((shown ++ [doorView door]).map formOf).Perm
    (accessPoints.rows.map fun row => formOf (doorView row))
  have hform : formOf (doorView (AccessPointRepository.toRow door)) = formOf (doorView door) :=
    congrArg (Prod.mk door.id) (openDoor_toRow door)
  rw [hrows, List.map_append, List.map_append, List.map_singleton, List.map_singleton, hform]
  exact List.Perm.append_right _ h

/-- An edit writes the same form on both sides. -/
theorem SameDoors.update {shown : List Ui.AccessPoint} {s : Site} (h : SameDoors shown s)
    (door : Core.AccessPoint) :
    SameDoors (shown.map fun d => if d.id = door.id then doorView door else d)
      (withDb s (AccessPointRepository.updateAsync door s.service.db)) := by
  let write (x : String × DoorForm) : String × DoorForm :=
    if x.1 = door.id then formOf (doorView door) else x
  -- The page and the table apply one and the same write to what the forms show.
  have hshown : (shown.map fun d => if d.id = door.id then doorView door else d).map formOf
      = (shown.map formOf).map write := by
    rw [List.map_map, List.map_map]
    refine List.map_congr_left fun d _ => ?_
    show formOf (if d.id = door.id then _ else d) = if d.id = door.id then _ else formOf d
    exact apply_ite formOf _ _ _
  have hrows : ((AccessPointRepository.updateAsync door s.service.db).accessPoints.rows.map
        fun row => formOf (doorView row))
      = (s.service.db.accessPoints.rows.map fun row => formOf (doorView row)).map write := by
    show ((s.service.db.accessPoints.rows.map fun row =>
      if decide (row.id = door.id) then { AccessPointRepository.toRow door with
        id := row.id, createdAt := row.createdAt } else row).map _) = _
    rw [List.map_map, List.map_map]
    refine List.map_congr_left fun row _ => ?_
    show formOf (doorView (if decide (row.id = door.id) then _ else row))
      = if row.id = door.id then _ else formOf (doorView row)
    by_cases hid : row.id = door.id
    · rw [if_pos (decide_eq_true hid), if_pos hid]
      show (row.id, openDoor (doorView (AccessPointRepository.toRow door)))
        = (door.id, openDoor (doorView door))
      rw [hid, openDoor_toRow]
    · rw [if_neg hid, if_neg (by rw [decide_eq_true_eq]; exact hid)]
  unfold SameDoors
  rw [hshown]
  show ((shown.map formOf).map write).Perm ((AccessPointRepository.updateAsync door
    s.service.db).accessPoints.rows.map fun row => formOf (doorView row))
  rw [hrows]
  exact List.Perm.map write h

/-- A deletion takes the same door from both sides. -/
theorem SameDoors.delete {shown : List Ui.AccessPoint} {s s' : Site} (h : SameDoors shown s)
    {id : String} (hservice : s'.service
      = { s.service with db := AccessPointRepository.deleteAsync id s.service.db }) :
    SameDoors (shown.filter fun d => d.id ≠ id) s' := by
  let keeps (x : String × DoorForm) : Bool := x.1 ≠ id
  have hshown : (shown.filter fun d => d.id ≠ id).map formOf
      = (shown.map formOf).filter keeps := by
    rw [List.filter_map]
    rfl
  have hrows : ((s.service.db.accessPoints.delete fun p => p.id = id).rows.map
        fun row => formOf (doorView row))
      = (s.service.db.accessPoints.rows.map fun row => formOf (doorView row)).filter keeps := by
    rw [List.filter_map]
    have hfilter : (s.service.db.accessPoints.delete fun p => p.id = id).rows
        = s.service.db.accessPoints.rows.filter fun p => p.id ≠ id := by
      simp [Relational.Table.delete]
    rw [hfilter]
    rfl
  unfold SameDoors
  rw [hservice, hshown]
  show ((shown.map formOf).filter keeps).Perm
    ((s.service.db.accessPoints.delete fun p => p.id = id).rows.map _)
  rw [hrows]
  exact List.Perm.filter keeps h

/-- A command leaves the stored doors, and its answer does not change a form. -/
theorem SameDoors.command {shown : List Ui.AccessPoint} {s : Site} (h : SameDoors shown s)
    {service : DoorOperationService} {succeeds : Prop} {message : String}
    {x : DoorAnswer × Site} (hanswers : Answers x service succeeds message)
    (hdb : service.db = s.service.db) {doors : List Ui.AccessPoint}
    (hdoors : doors.map formOf = shown.map formOf) : SameDoors doors x.2 := by
  unfold SameDoors
  rw [hdoors, hanswers.service, hdb]
  exact h

section
variable [Host]

end

/-! ### The states on the cards -/

/-- The card of the door shows what the service knows. -/
structure ShowsStates (service : DoorOperationService) (door : Ui.AccessPoint) : Prop where
  lockState : shownLockState door = lockStateText (service.getDoorLockStateAsync door.id)
  contactState :
    shownContactState door = contactStateText (service.getDoorContactStateAsync door.id)

/-- Every card shows the states of its door. -/
def SameStates (shown : List Ui.AccessPoint) (s : Site) : Prop :=
  ∀ door ∈ shown, ShowsStates s.service door

/-- A card that shows the states of its door goes on to do so while the service has the same
states. -/
theorem ShowsStates.of_same {service service' : DoorOperationService} {door : Ui.AccessPoint}
    (h : ShowsStates service door) (hview : view service' door.id = view service door.id) :
    ShowsStates service' door where
  lockState := by
    have hlock := congrArg DoorView.lockState hview
    exact h.lockState.trans (congrArg lockStateText hlock).symm
  contactState := by
    have hcontact := congrArg DoorView.contactState hview
    exact h.contactState.trans (congrArg contactStateText hcontact).symm

/-- A command writes the lock state of its door, here and there. -/
theorem SameStates.command {shown : List Ui.AccessPoint} {s : Site} (h : SameStates shown s)
    {service : DoorOperationService} {id lockState : String}
    (hother : ∀ id' ≠ id, view service id' = view s.service id')
    (hlock : lockStateText (service.getDoorLockStateAsync id) = lockState)
    (hcontact : service.getDoorContactStateAsync id = s.service.getDoorContactStateAsync id)
    (hne : lockState ≠ "") :
    ∀ door ∈ shown.map fun d => if d.id = id then { d with lockState := some lockState } else d,
      ShowsStates service door := by
  intro door hdoor
  obtain ⟨d, hd, rfl⟩ := List.mem_map.mp hdoor
  by_cases hid : d.id = id
  · rw [if_pos hid]
    constructor
    · show (truthy (some lockState)).getD "Locked"
        = lockStateText (service.getDoorLockStateAsync d.id)
      rw [hid, hlock, truthy, Option.filter_some, if_pos (decide_eq_true hne), Option.getD_some]
    · show shownContactState d = contactStateText (service.getDoorContactStateAsync d.id)
      rw [(h d hd).contactState, hid, hcontact]
  · rw [if_neg hid]
    exact (h d hd).of_same (hother d.id hid)

section
variable [Host]

end

/-! ### The card of an edited door -/

/-- A door that says no states. -/
def Stateless (door : Ui.AccessPoint) : Prop := door.lockState = none ∧ door.contactState = none

/-- The answer to the request says a state of the door. -/
def SaysState (id : String) : Request → Prop
  | .list => True
  | .unlock id' | .lock id' => id' = id
  | .create _ | .update _ _ | .delete _ => False

/-- No answer that says a state of the door arrives. -/
def TellsNothing (id : String) (s : System Site DoorState Request DoorAnswer) :
    Event Site Request Circumstances PageAction → Prop
  | .receive place => ∀ x, s.answered[place]? = some x → ¬ SaysState id x.1
  | _ => True

/-- The written doors that are under way say no states. -/
def AnswersStateless (s : System Site DoorState Request DoorAnswer) : Prop :=
  ∀ x ∈ s.answered, ∀ door, x.2 = .door door → Stateless door

/-- The cards of the door say no states. -/
def CardsStateless (id : String) (doors : List Ui.AccessPoint) : Prop :=
  ∀ door ∈ doors, door.id = id → Stateless door

/-- The two are shown as `Locked` and `Closed`. -/
theorem Stateless.shown {door : Ui.AccessPoint} (h : Stateless door) :
    shownLockState door = "Locked" ∧ shownContactState door = "Closed" := by
  unfold DoorState.shownLockState DoorState.shownContactState
  rw [h.1, h.2]
  exact ⟨rfl, rfl⟩

/-- Only a list, and a command for the door, say a state of it. -/
theorem CardsStateless.settle {id : String} {state : DoorState} {request : Request}
    {answer : DoorAnswer} (h : CardsStateless id state.doors) (hquiet : ¬ SaysState id request)
    (hanswer : ∀ door, answer = .door door → Stateless door) :
    CardsStateless id (settle request answer state).doors := by
  rw [doors_settle]
  -- A command for another door leaves the card.
  have hother : ∀ id' lockState, id' ≠ id → CardsStateless id (state.doors.map fun d =>
      if d.id = id' then { d with lockState := some lockState } else d) := by
    intro id' lockState hne door hdoor hid
    obtain ⟨d, hd, rfl⟩ := List.mem_map.mp hdoor
    by_cases hd' : d.id = id'
    · rw [if_pos hd'] at hid
      exact absurd (hd'.symm.trans hid) hne
    · rw [if_neg hd'] at hid ⊢
      exact h d hd hid
  cases request with
  | list => exact absurd trivial hquiet
  | create body =>
    cases answer with
    | door created =>
      intro door hdoor hid
      rcases List.mem_append.mp hdoor with hdoor | hdoor
      · exact h door hdoor hid
      · exact hanswer door (by rw [List.mem_singleton.mp hdoor])
    | doors _ | done | error _ => exact h
  | update id' body =>
    cases answer with
    | door updated =>
      intro door hdoor hid
      obtain ⟨d, hd, rfl⟩ := List.mem_map.mp hdoor
      by_cases hd' : d.id = id'
      · rw [if_pos hd']
        exact hanswer updated rfl
      · rw [if_neg hd'] at hid ⊢
        exact h d hd hid
    | doors _ | done | error _ => exact h
  | delete id' =>
    cases answer with
    | done => exact fun door hdoor => h door (List.mem_filter.mp hdoor).1
    | doors _ | door _ | error _ => exact h
  | unlock id' =>
    cases answer with
    | done => exact hother id' "Unlocked" hquiet
    | doors _ | door _ | error _ => exact h
  | lock id' =>
    cases answer with
    | done => exact hother id' "Locked" hquiet
    | doors _ | door _ | error _ => exact h

section
variable [Host]

/-- The answer to a request that writes a door has no states, whatever the states of the door
are. -/
theorem stateless_serve {request : Request} {c : Circumstances} {s : Site}
    {door : Ui.AccessPoint} (h : (serve request c s).1 = .door door) : Stateless door := by
  cases request with
  | list =>
    rw [serve_list] at h
    cases h
  | create body =>
    obtain herror | ⟨row, accessPoints, hcreated, -⟩ := @serve_create _ c s body
    · rw [herror] at h
      cases h
    · rw [hcreated] at h
      cases h
      exact ⟨rfl, rfl⟩
  | update id body =>
    obtain herror | ⟨row, hupdated, -⟩ := @serve_update _ c s id body
    · rw [herror] at h
      cases h
    · rw [hupdated] at h
      cases h
      exact ⟨rfl, rfl⟩
  | delete id =>
    obtain herror | ⟨s', hdeleted, -⟩ := @serve_delete _ c s id
    · rw [herror] at h
      cases h
    · rw [hdeleted] at h
      cases h
  | unlock id =>
    -- The answer to a command carries no door.
    have hanswers := @serve_unlock _ c s id
    by_cases hunlocks : Unlocks s.service id none c.answer
    · rw [hanswers.done hunlocks] at h
      cases h
    · rw [hanswers.error hunlocks] at h
      cases h
  | lock id =>
    have hanswers := @serve_lock _ c s id
    by_cases hlocks : Locks s.service id c.answer
    · rw [hanswers.done hlocks] at h
      cases h
    · rw [hanswers.error hlocks] at h
      cases h

/-- The answers on their way to the page stay without states. The step lemma of
`edited_shows_locked`, for the answers. -/
theorem AnswersStateless.step {s : System Site DoorState Request DoorAnswer}
    (h : AnswersStateless s) (e : Event Site Request Circumstances PageAction) :
    AnswersStateless (step protocol s e) := by
  cases e with
  | send request | act action | others change => exact h
  | handle place c =>
    cases hplace : s.sent[place]? with
    | none => simpa only [Replica.step, hplace] using h
    | some request =>
      simp only [Replica.step, hplace]
      intro x hx door hdoor
      rcases List.mem_append.mp hx with hx | hx
      · exact h x hx door hdoor
      · obtain rfl := List.mem_singleton.mp hx
        exact stateless_serve hdoor
  | receive place =>
    cases hplace : s.answered[place]? with
    | none => simpa only [Replica.step, hplace] using h
    | some y =>
      simp only [Replica.step, hplace]
      exact fun x hx => h x (List.mem_of_mem_eraseIdx hx)

/-- The card of the edited door stays without states as long as no answer tells it any. The step
lemma of `edited_shows_locked`, for the page. -/
theorem CardsStateless.step {id : String} {s : System Site DoorState Request DoorAnswer}
    (h : CardsStateless id s.copy.doors) (hanswers : AnswersStateless s)
    {e : Event Site Request Circumstances PageAction} (he : TellsNothing id s e) :
    CardsStateless id (step protocol s e).copy.doors := by
  cases e with
  | send request =>
    show CardsStateless id (send request s.copy).doors
    rw [doors_send]
    exact h
  | act action =>
    show CardsStateless id (act action s.copy).doors
    rw [doors_act]
    exact h
  | others change => exact h
  | handle place c =>
    cases hplace : s.sent[place]? with
    | none => simpa only [Replica.step, hplace] using h
    | some request => simpa only [Replica.step, hplace] using h
  | receive place =>
    cases hplace : s.answered[place]? with
    | none => simpa only [Replica.step, hplace] using h
    | some x =>
      simp only [Replica.step, hplace]
      exact h.settle (he x hplace) (hanswers x (List.mem_of_getElem? hplace))

/-- An answer to an edit takes the states from the card. -/
theorem cardsStateless_receive {id : String} {s : System Site DoorState Request DoorAnswer}
    (hanswers : AnswersStateless s) {place : Nat} {body : DoorBody} {updated : Ui.AccessPoint}
    (hedit : s.answered[place]? = some (.update id body, .door updated)) :
    CardsStateless id (step protocol s (.receive place)).copy.doors := by
  simp only [Replica.step, hedit]
  show CardsStateless id (settle (.update id body) (.door updated) s.copy).doors
  rw [doors_settle]
  intro door hdoor hid
  obtain ⟨d, hd, rfl⟩ := List.mem_map.mp hdoor
  by_cases hd' : d.id = id
  · rw [if_pos hd']
    exact hanswers _ (List.mem_of_getElem? hedit) updated rfl
  · rw [if_neg hd'] at hid
    exact absurd hid hd'

/-- **An edited door is shown as locked**: open the page at any state of the server, and let the
answer to an edit of a door arrive at any point of a run. From then on the cards of the door show
`Locked` and `Closed`, whatever the service knows, until the answer to a list or to a command for
the door arrives. Answers may overtake each other, and others may change anything. -/
theorem edited_shows_locked (server : Site) (copy : DoorState) (sent : List Request)
    (before after : List (Event Site Request Circumstances PageAction)) {place : Nat}
    {id : String} {body : DoorBody} {updated : Ui.AccessPoint}
    (hedit : (before.foldl (step protocol) { server, copy, sent }).answered[place]?
      = some (.update id body, .door updated))
    (hafter : StepsMeet (step protocol) (TellsNothing id)
      (step protocol (before.foldl (step protocol) { server, copy, sent }) (.receive place))
      after) :
    ∀ door ∈ ((before ++ .receive place :: after).foldl (step protocol)
        { server, copy, sent }).copy.doors,
      door.id = id → shownLockState door = "Locked" ∧ shownContactState door = "Closed" := by
  have hanswers : AnswersStateless (before.foldl (step protocol) { server, copy, sent }) :=
    List.foldlRecOn before _ (fun _ hx => absurd hx List.not_mem_nil) fun _ h e _ => h.step e
  rw [List.foldl_append, List.foldl_cons]
  -- The answers under way matter too: one of them may be for another edit of the door.
  have hrun := invariant_of_stepsMeet
    (fun s => AnswersStateless s ∧ CardsStateless id s.copy.doors)
    (fun s e h he => ⟨h.1.step e, h.2.step h.1 he⟩) after _
    ⟨hanswers.step (.receive place), cardsStateless_receive hanswers hedit⟩ hafter
  exact fun door hdoor hid => (hrun.2 door hdoor hid).shown

end

/-! ### A page whose list arrives, and a front door that is unlocked and edited -/

section
/-- The host of the samples. -/
local instance doorSessionHost : Host := Host.sample

open CodeMaster.Proofs.Engine.Evaluate (frontDoorOnly)

/-- The lock confirms what it is told. -/
def confirmed : Circumstances where
  utcNow := { ticks := 0 }
  answer := .returned true

/-- A page that has asked for the doors of a server with one door. -/
def loading : System Site DoorState Request DoorAnswer where
  server := { service := { db := frontDoorOnly } }
  copy := {}
  sent := [.list]

/-- The page unlocks the door, and the answers arrive. -/
def unlocking : List (Event Site Request Circumstances PageAction) :=
  [.send (.unlock "front"), .handle 0 confirmed, .receive 0, .receive 0]

/-- The front door has been unlocked when the answer to its edit arrives. -/
def editing : List (Event Site Request Circumstances PageAction) :=
  .handle 0 confirmed :: unlocking
    ++ [.send (.update "front" { name := some "Main Door" }), .handle 0 confirmed]

/-- The page after the run `editing` and its last answer. -/
def edited : System Site DoorState Request DoorAnswer :=
  (editing ++ [Event.receive 0]).foldl (step protocol) loading

/-- The edited card shows a locked and closed door, and the door is unlocked. -/
theorem edited_shows_locked_sample :
    (∀ door ∈ edited.copy.doors, door.id = "front" →
      shownLockState door = "Locked" ∧ shownContactState door = "Closed")
      ∧ edited.server.service.getDoorLockStateAsync "front" = .unlocked :=
  ⟨@edited_shows_locked _ loading.server {} [.list] editing [] 0 "front" _ _ rfl trivial, by decide⟩

end

end CodeMaster.Proofs.DoorSession
