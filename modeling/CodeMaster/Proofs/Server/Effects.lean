import Mathlib.Logic.Relation
import CodeMaster.Proofs.Engine.Agreement
import CodeMaster.Proofs.GuestWindow
import CodeMaster.Server

/-!
# `CodeMaster.Proofs.Server.Effects`: what can an event write?

`Effect e s0` is the relation of one write to the next: a statement of a repository that succeeds,
an entry of the audit log, or a code in a lock. Its constructors say with which data the event `e`
at the server `s0` makes the write. `step_effects` says that an event does nothing else: the server
after it is reached by such writes.

So an invariant of a run is a case analysis of `Effect`, and no request is looked at again.

The requests are put together from statements with the rules of `Exec`. For each of them there is
one lemma which says that it preserves `Reached`: the database is one that effects of this event
lead to. A request that fails in the middle has had its first effects, and the lemma covers it. The
passes are treated in the same way over the world of a pass, whose lock is a part of the server.
-/

set_option autoImplicit false

namespace CodeMaster.Proofs.Server

open CodeMaster.Core CodeMaster.Data CodeMaster.Engine CodeMaster.Web CodeMaster.Mcp Exec Relation
open CodeMaster.Server (Event)
open CodeMaster.Administration (PolicyChange)
open CodeMaster.Engine.HardwareSlotSyncWorker (isPinWithValue pinCode reconcileDoorSlotsAsync
  removeObsolete addOrUpdate allocateSlotAsync desiredAssignments)

variable [Host]

/-! ### The data of an event -/

/-- The id of the user that the request creates. -/
def createdId (db : Db) (request : CreateUserRequest) : String :=
  if isNullOrWhiteSpace request.id then db.newGuid else request.id.getD ""

/-- The event tries to insert the user. A creation needs a name, and a guest needs arguments that
`parseGuestPin` accepts. Whether the insert succeeds depends on the tables. -/
def Creates (s : Server) (user : User) : Event → Prop
  | .administration (.create request _) =>
    user.id = createdId s.db request ∧ user.groupId = request.groupId
      ∧ isNullOrWhiteSpace (some request.name) = false
  | .createGuestPin arguments _ =>
    user.id = s.db.newGuid ∧ user.groupId = none
      ∧ ∃ args, DoorTools.parseGuestPin arguments = .ok (.ok args)
  | _ => False

/-- The event asks to store the PIN for the user. The request can fail: `StoredBy` says of an event
that it has stored a credential of the PIN. -/
def SetsPin (s : Server) (userId pin : String) : Event → Prop
  | .administration (.create request _) =>
    createdId s.db request = userId ∧ request.pin = some pin
  | .administration (.setPin id request _) => id = userId ∧ request.pin = pin
  | .createGuestPin arguments _ =>
    s.db.newGuid = userId
      ∧ ∃ args, DoorTools.parseGuestPin arguments = .ok (.ok args) ∧ args.pin = pin
  | _ => False

/-- The event asks to write the user as active. The update needs a stored user and a stored group. -/
def Activates (user : User) : Event → Prop
  | .administration (.update id body _) =>
    user.id = id ∧ user.groupId = body.groupId ∧ body.isActive = true
  | _ => False

/-- The event writes the row of a stored door, or deletes it. -/
def ChangesDoor (accessPointId : String) : Event → Prop
  | .updateDoor id _ _ => id = accessPointId
  | .deleteDoor id => id = accessPointId
  | _ => False

/-- The event is a pass over the door. -/
def PassesOver (accessPointId : String) : Event → Prop
  | .administration (.reconcile id _) => id = accessPointId
  | .pass id _ _ => id = accessPointId
  | _ => False

/-- A pass over the door can program the credential for the user. -/
structure Programs (e : Event) (s : Server) (accessPointId : String) (user : User)
    (credential : Credential) : Prop where
  pass : PassesOver accessPointId e
  userStored : user ∈ s.db.users.rows
  active : user.isActive = true
  stored : credential ∈ s.db.credentials.rows
  owner : credential.userId = user.id
  pin : isPinWithValue credential = true

/-! ### The writes of an event -/

/-- A write of the event `e`, which started at `s0`. A new user, and an update that makes a user
active, are the first write of their event. -/
inductive Effect (e : Event) (s0 : Server) : Server → Server → Prop where
  | insertUser {s : Server} {db : Db} {user : User}
      (hinsert : UserRepository.insertAsync user s.db = .ok db)
      (hcreates : Creates s0 user e) (hfirst : s.db = s0.db) : Effect e s0 s { s with db }
  | updateUser {s : Server} {db : Db} {user : User}
      (hupdate : UserRepository.updateAsync user s.db = .ok db)
      (hactive : user.isActive = true → Activates user e ∧ s.db = s0.db) :
      Effect e s0 s { s with db }
  | deleteUser {s : Server} (id : String) :
      Effect e s0 s { s with db := UserRepository.deleteAsync id s.db }
  | insertCredential {s : Server} {db : Db} {credential : Credential} {pin : String}
      (hinsert : CredentialRepository.insertAsync credential s.db = .ok db)
      (hsets : SetsPin s0 credential.userId pin e)
      (hblank : isNullOrWhiteSpace (some pin) = false)
      (htype : credential.type = .pin) (hvalue : credential.encryptedValue = some pin)
      (hhash : credential.hashedValue = Host.sha256Hex pin) : Effect e s0 s { s with db }
  | deleteCredential {s : Server} (id : String) :
      Effect e s0 s { s with db := CredentialRepository.deleteAsync id s.db }
  | changePolicy {s : Server} {db : Db} (change : PolicyChange)
      (hchange : change.statement s.db = .ok db) : Effect e s0 s { s with db }
  | insertDoor {s : Server} {db : Db} {door : AccessPoint}
      (hinsert : AccessPointRepository.insertAsync door s.db = .ok db) :
      Effect e s0 s { s with db }
  | updateDoor {s : Server} (door : AccessPoint) (hchanges : ChangesDoor door.id e) :
      Effect e s0 s { s with db := AccessPointRepository.updateAsync door s.db }
  | deleteDoor {s : Server} (id : String) (hchanges : ChangesDoor id e) :
      Effect e s0 s { s with
        db := AccessPointRepository.deleteAsync id s.db
        accessLogs := s.accessLogs.delete fun row => row.accessPointId = id }
  | updateSlotSyncStatus {s : Server} (slotId : String) (status : SlotSyncStatus) :
      Effect e s0 s
        { s with db := HardwareSlotRepository.updateSlotSyncStatusAsync slotId status s.db }
  | clearSlot {s : Server} (slotId : String) :
      Effect e s0 s { s with db := HardwareSlotRepository.clearSlotAsync slotId s.db }
  /-- The row is for a credential that is stored, and that the pass programs. -/
  | upsert {s : Server} {db : Db} {accessPointId : String} {slotNumber : Int} {user : User}
      {credential : Credential}
      (hupsert : HardwareSlotRepository.upsert accessPointId user.id credential.id slotNumber s.db
        = .ok db)
      (hstored : credential ∈ s.db.credentials.rows)
      (hprograms : Programs e s0 accessPointId user credential) : Effect e s0 s { s with db }
  | setCode {s : Server} {accessPointId : String} (slotNumber : Int) {user : User}
      {credential : Credential} (hprograms : Programs e s0 accessPointId user credential) :
      Effect e s0 s { s with
        locks := Function.update s.locks accessPointId
          (Function.update (s.locks accessPointId) slotNumber (some (pinCode credential))) }
  | clearCode {s : Server} (accessPointId : String) (slotNumber : Int) :
      Effect e s0 s { s with
        locks := Function.update s.locks accessPointId
          (Function.update (s.locks accessPointId) slotNumber none) }
  | insertLog {s : Server} {accessLogs : AccessLogs} {log : AccessLog}
      (hinsert : AuditLogRepository.insertAsync log s.db s.accessLogs = .ok accessLogs) :
      Effect e s0 s { s with accessLogs }

omit [Host] in
/-- A change of policies or assignments leaves users, credentials, slots and doors. -/
theorem statement_frame {change : PolicyChange} {db db' : Db} (h : change.statement db = .ok db') :
    db'.users = db.users ∧ db'.credentials = db.credentials
      ∧ db'.hardwareSlots = db.hardwareSlots ∧ db'.accessPoints = db.accessPoints := by
  cases change with
  | insert policy =>
    obtain ⟨accessPolicies, -, rfl⟩ := AccessPolicyRepository.insertAsync_eq_ok h
    exact ⟨rfl, rfl, rfl, rfl⟩
  | update policy =>
    cases h
    exact ⟨rfl, rfl, rfl, rfl⟩
  | delete id =>
    cases h
    exact ⟨rfl, rfl, rfl, rfl⟩
  | assign assignment =>
    simp only [PolicyChange.statement, AccessPolicyRepository.assignPolicyAsync] at h
    split at h
    · cases h
    · split at h
      · cases h
        exact ⟨rfl, rfl, rfl, rfl⟩
      · cases h
  | removeAssignment assignmentId =>
    cases h
    exact ⟨rfl, rfl, rfl, rfl⟩

omit [Host] in
/-- The insert of a door leaves the users, the credentials and the slots. -/
theorem insertDoor_frame {door : AccessPoint} {db db' : Db}
    (h : AccessPointRepository.insertAsync door db = .ok db') :
    db'.users = db.users ∧ db'.credentials = db.credentials
      ∧ db'.hardwareSlots = db.hardwareSlots := by
  unfold AccessPointRepository.insertAsync at h
  split at h
  · cases h
  · cases h
    exact ⟨rfl, rfl, rfl⟩

/-- The writes of the event lead from its start to the server `s`. -/
abbrev Effects (e : Event) (s0 s : Server) : Prop := ReflTransGen (Effect e s0) s0 s

/-- The writes lead to the server `s0` with the database `db`. -/
def Reached (e : Event) (s0 : Server) (db : Db) : Prop := Effects e s0 { s0 with db }

variable {e : Event} {s0 : Server}

/-- An event that writes nothing so far has reached the database that it started from. -/
theorem reached_start : Reached e s0 s0.db := ReflTransGen.refl

/-! ### The statements of a request -/

/-- The insert of a user, at the start of the event. A refused insert writes nothing. -/
theorem reached_insertUser {user : User} (hcreates : Creates s0 user e) :
    Reached e s0 ((statement (UserRepository.insertAsync user)).exec s0.db).2 := by
  cases hinsert : UserRepository.insertAsync user s0.db with
  | error error =>
    rw [exec_statement_of_error hinsert]
    exact reached_start
  | ok db =>
    rw [exec_statement_of_ok hinsert]
    exact reached_start.tail (.insertUser hinsert hcreates rfl)

/-- The update of a user, at the start of the event. -/
theorem reached_updateUser {user : User} (hactive : user.isActive = true → Activates user e) :
    Reached e s0 ((statement (UserRepository.updateAsync user)).exec s0.db).2 := by
  cases hupdate : UserRepository.updateAsync user s0.db with
  | error error =>
    rw [exec_statement_of_error hupdate]
    exact reached_start
  | ok db =>
    rw [exec_statement_of_ok hupdate]
    exact reached_start.tail (.updateUser hupdate fun h => ⟨hactive h, rfl⟩)

/-- The insert of a PIN credential, by an event that sets this PIN for the owner. -/
theorem preserves_insertCredential {credential : Credential} {pin : String}
    (hsets : SetsPin s0 credential.userId pin e) (hblank : isNullOrWhiteSpace (some pin) = false)
    (htype : credential.type = .pin) (hvalue : credential.encryptedValue = some pin)
    (hhash : credential.hashedValue = Host.sha256Hex pin) :
    Preserves (Reached e s0) (statement (CredentialRepository.insertAsync credential)) :=
  Preserves.statement fun _ _ h hinsert =>
    h.tail (.insertCredential hinsert hsets hblank htype hvalue hhash)

/-- A statement about policies leaves the four tables. -/
theorem preserves_changePolicy (change : PolicyChange) :
    Preserves (Reached e s0) (statement change.statement) :=
  Preserves.statement fun _ _ h hchange => h.tail (.changePolicy change hchange)

/-! ### The requests -/

/-- The policy of a new user goes into the tables of policies and assignments. -/
theorem preserves_createPolicy (user : User) (request : CreateUserRequest) :
    Preserves (Reached e s0) (UsersController.createPolicy user request) := by
  unfold UsersController.createPolicy
  cases request.policy with
  | none => exact Preserves.pure _ _
  | some body =>
    refine (Preserves.query _ _).bind fun guid => ?_
    refine (preserves_changePolicy (.insert _)).bind fun _ => Preserves.forM (fun doorId => ?_) _
    exact (Preserves.query _ _).bind fun guid => preserves_changePolicy (.assign _)

/-- The PIN of a new user, if the request has one, is a credential that the event sets. -/
theorem preserves_createCredential {user : User} {request : CreateUserRequest} (utcNow : DateTime)
    (hsets : ∀ pin, request.pin = some pin → SetsPin s0 user.id pin e) :
    Preserves (Reached e s0) (UsersController.createCredential user request utcNow) := by
  unfold UsersController.createCredential
  cases hblank : isNullOrWhiteSpace request.pin with
  | true => exact Preserves.pure _ _
  | false =>
    refine (Preserves.query _ _).bind fun guid => ?_
    cases hpin : request.pin with
    | none =>
      rw [hpin] at hblank
      cases hblank
    | some pin =>
      rw [hpin] at hblank
      exact preserves_insertCredential (hsets pin hpin) hblank rfl rfl rfl

/-- The creation of a user writes the user first, then the PIN and the policy. A failure in between
keeps what was written. -/
theorem reached_create {request : CreateUserRequest} {utcNow : DateTime}
    (he : e = .administration (.create request utcNow)) :
    Reached e s0 ((UsersController.create request utcNow).exec s0.db).2 := by
  subst he
  unfold UsersController.create
  split
  case isTrue => exact reached_start
  case isFalse hname =>
    rw [exec_bind, exec_query]
    refine Preserves.bind_at (reached_insertUser ?_) fun _ => Preserves.bind ?_ fun _ =>
      (preserves_createPolicy _ request).bind fun _ => Preserves.pure _ _
    · exact ⟨rfl, rfl, eq_false_of_ne_true hname⟩
    · exact preserves_createCredential utcNow fun pin hpin => ⟨rfl, hpin⟩

/-- `SetPin` inserts a credential with the PIN, and leaves those of before. -/
theorem preserves_setPin {id : String} {request : SetPinRequest} {utcNow : DateTime}
    (he : e = .administration (.setPin id request utcNow)) :
    Preserves (Reached e s0) (UsersController.setPin id request utcNow) := by
  subst he
  unfold UsersController.setPin
  refine (Preserves.query _ _).bind fun existing => ?_
  cases existing with
  | none => exact Preserves.pure _ _
  | some existing =>
    dsimp only
    split
    case isTrue => exact Preserves.pure _ _
    case isFalse hblank =>
      refine (Preserves.query _ _).bind fun guid => Preserves.bind ?_ fun _ => Preserves.pure _ _
      exact preserves_insertCredential ⟨rfl, rfl⟩ (eq_false_of_ne_true hblank) rfl rfl rfl

/-- An update writes the row of a stored user, and may activate the user. -/
theorem reached_update {id : String} {user : User} {utcNow : DateTime}
    (he : e = .administration (.update id user utcNow)) :
    Reached e s0 ((UsersController.update id user utcNow).exec s0.db).2 := by
  subst he
  unfold UsersController.update
  rw [exec_bind, exec_query]
  cases UserRepository.getByIdAsync s0.db id with
  | none => exact reached_start
  | some existing =>
    refine Preserves.bind_at (reached_updateUser ?_) fun _ => Preserves.pure _ _
    exact fun hactive => ⟨rfl, rfl, hactive⟩

/-- A deletion takes the rows of the user with it. None is added. -/
theorem preserves_delete (id : String) :
    Preserves (Reached e s0) (UsersController.delete id) := by
  unfold UsersController.delete
  refine (Preserves.query _ _).bind fun existing => ?_
  cases existing with
  | none => exact Preserves.pure _ _
  | some existing =>
    exact (Preserves.modify fun _ h => h.tail (.deleteUser id)).bind fun _ => Preserves.pure _ _

/-- The deletion of a credential adds nothing. -/
theorem preserves_deleteCredential (id credentialId : String) :
    Preserves (Reached e s0) (UsersController.deleteCredential id credentialId) :=
  (Preserves.modify fun _ h => h.tail (.deleteCredential credentialId)).bind fun _ =>
    Preserves.pure _ _

/-- `SavePolicy` writes the tables of policies and assignments. -/
theorem preserves_savePolicy (id : String) (policy : AccessPolicy) :
    Preserves (Reached e s0) (UsersController.savePolicy id policy) := by
  unfold UsersController.savePolicy
  refine (Preserves.query _ _).bind fun existing => ?_
  cases existing with
  | none => exact Preserves.pure _ _
  | some existing =>
    refine Preserves.ite ?_ ?_
    · refine (Preserves.query _ _).bind fun guid => ?_
      exact (preserves_changePolicy (.insert _)).bind fun _ => Preserves.pure _ _
    · refine (Preserves.modify fun _ h => ?_).bind fun _ => Preserves.pure _ _
      exact h.tail (.changePolicy (.update policy) rfl)

/-- The creation of a door adds a door, and no user, credential or slot. -/
theorem preserves_createDoor (door : AccessPoint) (utcNow : DateTime) :
    Preserves (Reached e s0) (AccessPointsController.create door utcNow) := by
  unfold AccessPointsController.create
  refine Preserves.ite (Preserves.pure _ _) ((Preserves.query _ _).bind fun guid => ?_)
  refine Preserves.bind (Preserves.statement fun _ _ h hinsert => ?_) fun _ => Preserves.pure _ _
  exact h.tail (.insertDoor hinsert)

/-- An update of a door writes this door, which the event may change. -/
theorem preserves_updateDoor {id : String} (hchanges : ChangesDoor id e) (door : AccessPoint)
    (utcNow : DateTime) :
    Preserves (Reached e s0) (AccessPointsController.update id door utcNow) := by
  unfold AccessPointsController.update
  refine (Preserves.query _ _).bind fun existing => ?_
  cases existing with
  | none => exact Preserves.pure _ _
  | some existing =>
    exact (Preserves.modify fun _ h => h.tail (.updateDoor _ hchanges)).bind fun _ =>
      Preserves.pure _ _

/-! ### The tools -/

omit [Host] in
/-- A statement of a tool writes what the statement writes. Only its exception is another one. -/
theorem state_execute (f : Db → Except SqliteException Db) (db : Db) :
    ((DoorTools.execute f).exec db).2 = ((statement f).exec db).2 := by
  cases hdb : f db with
  | error error => rw [DoorTools.execute_of_error hdb, exec_statement_of_error hdb]
  | ok db' => rw [DoorTools.execute_of_ok hdb, exec_statement_of_ok hdb]

omit [Host] in
/-- So a statement of a tool keeps what the statement keeps. -/
theorem preserves_execute {I : Db → Prop} {f : Db → Except SqliteException Db}
    (hf : Preserves I (statement f)) : Preserves I (DoorTools.execute f) := by
  intro db h
  rw [state_execute]
  exact hf db h

/-- The guest tool writes a user, a credential with the PIN, a policy, and an assignment for each
door. -/
theorem reached_createGuestPin {arguments : Option JsonElement} {utcNow : DateTime}
    (he : e = .createGuestPin arguments utcNow) :
    Reached e s0 (DoorTools.createGuestPin arguments utcNow s0.db).2 := by
  subst he
  rw [DoorTools.createGuestPin, DoorTools.runTool_snd, DoorTools.createGuestPinAsync]
  rcases hparse : DoorTools.parseGuestPin arguments with error | text | args
  · exact reached_start
  · exact reached_start
  · have hpin := GuestWindow.pin_not_blank hparse
    unfold DoorTools.provisionGuest
    dsimp only
    rw [exec_bind, exec_query]
    refine Preserves.bind_at ?_ fun _ => ?_
    · rw [state_execute]
      exact reached_insertUser ⟨rfl, rfl, args, hparse⟩
    refine (Preserves.query _ _).bind fun guid => ?_
    refine Preserves.bind (preserves_execute ?_) fun _ => (Preserves.query _ _).bind fun guid => ?_
    · exact preserves_insertCredential ⟨rfl, args, hparse, rfl⟩ hpin rfl rfl rfl
    refine Preserves.bind (preserves_execute (preserves_changePolicy (.insert _))) fun _ => ?_
    refine Preserves.bind (Preserves.forM (fun doorId => ?_) _) fun _ => Preserves.pure _ _
    refine (Preserves.query _ _).bind fun guid => ?_
    exact preserves_execute (preserves_changePolicy (.assign _))

/-- The loop over the doors clears slots of the user, and adds none. -/
theorem reached_clearUserSlots {db : Db} (h : Reached e s0 db) (userId : String)
    (doors : List AccessPoint) : Reached e s0 (DoorTools.clearUserSlots userId doors db).2 := by
  unfold DoorTools.clearUserSlots
  refine List.foldlRecOn (motive := fun p : Nat × Db => Reached e s0 p.2) doors _ h
    fun p hp d _ => ?_
  exact List.foldlRecOn (motive := fun q : Nat × Db => Reached e s0 q.2) _ _ hp
    fun q hq slot _ => hq.tail (.clearSlot slot.id)

/-- The revocation writes the user as inactive and clears slots. -/
theorem preserves_revokeUserAsync (arguments : Option JsonElement) (utcNow : DateTime) :
    Preserves (Reached e s0) (DoorTools.revokeUserAsync arguments utcNow) := by
  unfold DoorTools.revokeUserAsync
  rcases DoorTools.parseRevoke arguments with error | text | userId
  · exact Preserves.throw _ _
  · exact Preserves.pure _ _
  · refine (Preserves.query _ _).bind fun existing => ?_
    cases existing with
    | none => exact Preserves.pure _ _
    | some user =>
      refine Preserves.bind (preserves_execute (Preserves.statement fun _ _ h hupdate => ?_))
        fun _ => ?_
      · -- The user is written as inactive.
        exact h.tail (.updateUser hupdate fun h => absurd h Bool.false_ne_true)
      refine (Preserves.query _ _).bind fun doors => (Preserves.query _ _).bind fun count => ?_
      refine (Preserves.modify fun _ h => ?_).bind fun _ => Preserves.pure _ _
      exact reached_clearUserSlots h userId doors

/-! ### A pass -/

/-- The writes of a pass over the door lead to the database and the lock of `w`. -/
structure Passing (e : Event) (s0 : Server) (accessPointId : String) (w : World) : Prop where
  effects : Effects e s0
    { s0 with db := w.db, locks := Function.update s0.locks accessPointId w.lock }
  credentials : w.db.credentials = s0.db.credentials

variable {accessPointId : String}

/-- A pass starts with what the event has reached. -/
theorem passing_start (outcomes : List Bool) :
    Passing e s0 accessPointId { db := s0.db, lock := s0.locks accessPointId, outcomes } where
  effects := by
    show Effects e s0 { s0 with
      db := s0.db, locks := Function.update s0.locks accessPointId (s0.locks accessPointId) }
    rw [Function.update_eq_self]
  credentials := rfl

/-- A new status leaves who has the slot. -/
theorem preserves_updateSlotSyncStatus (slotId : String) (status : SlotSyncStatus) :
    Preserves (Passing e s0 accessPointId)
      (World.update (HardwareSlotRepository.updateSlotSyncStatusAsync slotId status)) :=
  Preserves.modify fun _ h => ⟨h.effects.tail (.updateSlotSyncStatus slotId status), h.credentials⟩

/-- A cleared slot has nobody. -/
theorem preserves_clearSlot (slotId : String) :
    Preserves (Passing e s0 accessPointId)
      (World.update (HardwareSlotRepository.clearSlotAsync slotId)) :=
  Preserves.modify fun _ h => ⟨h.effects.tail (.clearSlot slotId), h.credentials⟩

omit [Host] in
/-- A new code in a slot of the lock. -/
theorem update_lock (s : Server) (lock : Int → Option String) (slotNumber : Int)
    (code : Option String) :
    Function.update (Function.update s.locks accessPointId lock) accessPointId
        (Function.update (Function.update s.locks accessPointId lock accessPointId) slotNumber code)
      = Function.update s.locks accessPointId (Function.update lock slotNumber code) := by
  rw [Function.update_idem, Function.update_self]

/-- A call that clears the code of a slot leaves the tables. When it succeeds, the lock has no code
in the slot. -/
theorem preserves_clearSlotCodeAsync (slotNumber : Int) :
    Preserves (Passing e s0 accessPointId) (clearSlotCodeAsync slotNumber) := by
  intro w h
  show Passing e s0 accessPointId (w.callProvider slotNumber none).2
  unfold World.callProvider
  cases w.outcomes.headD true with
  | false => exact ⟨h.effects, h.credentials⟩
  | true =>
    have hclear := h.effects.tail (.clearCode accessPointId slotNumber)
    rw [update_lock] at hclear
    exact ⟨hclear, h.credentials⟩

/-- A call that writes a code to a slot leaves the tables. When it succeeds, the lock has the code
of a credential that the pass programs. -/
theorem preserves_setSlotCodeAsync (slotNumber : Int) {user : User} {credential : Credential}
    (hprograms : Programs e s0 accessPointId user credential) :
    Preserves (Passing e s0 accessPointId)
      (setSlotCodeAsync slotNumber (pinCode credential) user.name) := by
  intro w h
  show Passing e s0 accessPointId (w.callProvider slotNumber (some (pinCode credential))).2
  unfold World.callProvider
  cases w.outcomes.headD true with
  | false => exact ⟨h.effects, h.credentials⟩
  | true =>
    have hset := h.effects.tail (.setCode slotNumber hprograms)
    rw [update_lock] at hset
    exact ⟨hset, h.credentials⟩

/-- The first loop of a pass clears slots that are no longer wanted, in the lock and in the
table. -/
theorem preserves_removeObsolete (desired : List (User × Credential)) (slot : HardwareSlot) :
    Preserves (Passing e s0 accessPointId) (removeObsolete desired slot) := by
  unfold removeObsolete
  refine Preserves.ite ?_ (Preserves.pure _ _)
  refine (preserves_updateSlotSyncStatus _ _).bind fun _ => ?_
  refine (preserves_clearSlotCodeAsync _).bind fun cleared => Preserves.ite ?_ ?_
  · exact (preserves_clearSlot _).bind fun _ => preserves_updateSlotSyncStatus _ _
  · exact preserves_updateSlotSyncStatus _ _

/-- The upsert of a slot leaves the credentials. -/
theorem upsert_credentials {userId credentialId : String} {slotNumber : Int} {db db' : Db}
    (h : HardwareSlotRepository.upsert accessPointId userId credentialId slotNumber db = .ok db') :
    db'.credentials = db.credentials := by
  unfold HardwareSlotRepository.upsert at h
  split at h
  · cases h
  · split at h
    · cases h
      rfl
    · split at h
      · cases h
      · cases h
        rfl

/-- A slot is allocated to a user and a credential that the pass programs. -/
theorem preserves_allocateSlotAsync (slotNumber : Int) {user : User} {credential : Credential}
    (hprograms : Programs e s0 accessPointId user credential) :
    Preserves (Passing e s0 accessPointId)
      (allocateSlotAsync accessPointId user.id credential.id slotNumber) := by
  refine Preserves.bind (Preserves.statement fun w w' h hstatement => ?_) fun _ =>
    Preserves.query _ _
  cases hupsert : HardwareSlotRepository.upsert accessPointId user.id credential.id slotNumber
    w.db with
  | error error =>
    rw [hupsert] at hstatement
    cases hstatement
  | ok db =>
    rw [hupsert] at hstatement
    cases hstatement
    refine ⟨h.effects.tail (.upsert hupsert ?_ hprograms), ?_⟩
    · exact h.credentials ▸ hprograms.stored
    · exact (upsert_credentials hupsert).trans h.credentials

/-- The second loop of a pass, for one wanted credential: it is there already, or gets a free slot,
or there is none. -/
theorem preserves_addOrUpdate {accessPoint : AccessPoint} (currentSlots : List HardwareSlot)
    {d : User × Credential} (hprograms : Programs e s0 accessPoint.id d.1 d.2) :
    Preserves (Passing e s0 accessPoint.id) (addOrUpdate accessPoint currentSlots d) := by
  unfold addOrUpdate
  dsimp only
  split
  · -- The pair has a slot.
    refine Preserves.ite ?_ (Preserves.pure _ _)
    refine (preserves_updateSlotSyncStatus _ _).bind fun _ => ?_
    refine (preserves_setSlotCodeAsync _ hprograms).bind fun _ => ?_
    exact (preserves_updateSlotSyncStatus _ _).bind fun _ => Preserves.pure _ _
  · split
    · exact Preserves.pure _ _
    · refine (preserves_allocateSlotAsync _ hprograms).bind fun allocated => ?_
      cases allocated with
      | none => exact Preserves.pure _ _
      | some slot =>
        refine (preserves_updateSlotSyncStatus _ _).bind fun _ => ?_
        refine (preserves_setSlotCodeAsync _ hprograms).bind fun setOk => Preserves.ite ?_ ?_
        · exact (preserves_updateSlotSyncStatus _ _).bind fun _ => Preserves.pure _ _
        · exact (preserves_updateSlotSyncStatus _ _).bind fun _ => Preserves.pure _ _

/-- A desired pair is a stored active user with a credential of this user. -/
theorem programs_of_desired {accessPoint : AccessPoint} {now : DateTime} {d : User × Credential}
    (hpass : PassesOver accessPoint.id e) (hd : d ∈ desiredAssignments s0.db accessPoint now) :
    Programs e s0 accessPoint.id d.1 d.2 := by
  obtain ⟨huser, hactive, -, hfind⟩ := Engine.Agreement.mem_desiredAssignments.mp hd
  obtain ⟨hstored, howner⟩ :=
    CredentialRepository.mem_getByUserIdAsync.mp (List.mem_of_find?_eq_some hfind)
  exact ⟨hpass, huser, hactive, hstored, howner, List.find?_some hfind⟩

/-- A pass programs the pairs that are desired at its start. -/
theorem passing_reconcileDoorSlotsAsync {accessPoint : AccessPoint}
    (hpass : PassesOver accessPoint.id e) (capabilities : LockCapabilities) (now : DateTime)
    (outcomes : List Bool) :
    Passing e s0 accessPoint.id ((reconcileDoorSlotsAsync accessPoint capabilities now).exec
      { db := s0.db, lock := s0.locks accessPoint.id, outcomes }).2 := by
  have hstart : Passing e s0 accessPoint.id
      { db := s0.db, lock := s0.locks accessPoint.id, outcomes } := passing_start outcomes
  unfold reconcileDoorSlotsAsync
  split
  · rw [exec_bind, exec_query]
    refine ((Preserves.query _ _).bind fun currentSlots => ?_) _ hstart
    refine (Preserves.forM (preserves_removeObsolete _) _).bind fun _ => ?_
    refine (Preserves.query _ _).bind fun currentSlots => ?_
    refine (Preserves.foldlM currentSlots fun slots d hd => ?_).discard
    exact preserves_addOrUpdate slots (programs_of_desired hpass hd)
  · exact hstart

/-! ### The step -/

/-- What a pass over a door does to the server is one of the effects. -/
theorem effects_pass {capabilities : String → LockCapabilities} (outcomes : List Bool)
    (now : DateTime) (hpass : PassesOver accessPointId e) :
    Effects e s0 (s0.pass capabilities accessPointId outcomes now) := by
  unfold Server.pass
  cases hfind : s0.db.accessPoints.find? accessPointId with
  | none => exact ReflTransGen.refl
  | some accessPoint =>
    obtain ⟨-, rfl⟩ := Relational.Table.find?_eq_some_iff.mp hfind
    exact (passing_reconcileDoorSlotsAsync hpass _ now outcomes).effects

omit [Host] in
/-- A pass without failures is the pass of `Administration`. -/
theorem pass_nil [Host] (capabilities : String → LockCapabilities) (now : DateTime) (s : Server) :
    s.pass capabilities accessPointId [] now
      = { s with toSite := s.toSite.reconcile capabilities accessPointId now } := by
  unfold Server.pass Administration.Site.reconcile
  cases s.db.accessPoints.find? accessPointId <;> rfl

/-- What a request or tool of the administration does to the server is one of the effects. -/
theorem effects_administration (capabilities : String → LockCapabilities)
    (e : Administration.Event) :
    Effects (.administration e) s0 { s0 with toSite := s0.toSite.step capabilities e } := by
  cases e with
  | create request utcNow => exact reached_create rfl
  | update id user utcNow => exact reached_update rfl
  | delete id => exact preserves_delete id s0.db reached_start
  | setPin id request utcNow => exact preserves_setPin rfl s0.db reached_start
  | deleteCredential id credentialId =>
    exact preserves_deleteCredential id credentialId s0.db reached_start
  | revokeUser arguments utcNow =>
    show Reached _ s0 (DoorTools.revokeUser arguments utcNow s0.db).2
    rw [DoorTools.revokeUser, DoorTools.runTool_snd]
    exact preserves_revokeUserAsync arguments utcNow s0.db reached_start
  | changePolicy change => exact preserves_changePolicy change s0.db reached_start
  | reconcile accessPointId now =>
    have hpass : PassesOver accessPointId (.administration (.reconcile accessPointId now)) := rfl
    have heffects := @effects_pass _ _ s0 _ capabilities [] now hpass
    rwa [pass_nil] at heffects

/-- An evaluation writes back at most the policy that it has used. -/
theorem reached_evaluateAsync (keypadEvent : KeypadEventDto) (accessPoint : AccessPoint)
    (evaluationTimeUtc : Option DateTime) :
    Reached e s0 (AccessPolicyEvaluator.evaluateAsync keypadEvent accessPoint evaluationTimeUtc
      s0.db).2 := by
  obtain ⟨-, hdb⟩ | ⟨u, p, hdecides⟩ :=
    Engine.Evaluate.denied_or_decides keypadEvent accessPoint evaluationTimeUtc s0.db
  · rw [hdb]
    exact reached_start
  · rw [Engine.Evaluate.evaluateAsync_of_decides hdecides]
    split
    · exact reached_start.tail (.changePolicy (.update _) rfl)
    · exact reached_start

/-- **What an event writes**: the server after an event is reached by the writes of `Effect`. -/
theorem step_effects (capabilities : String → LockCapabilities) (s0 : Server) (e : Event) :
    Effects e s0 (s0.step capabilities e) := by
  cases e with
  | administration e => exact effects_administration capabilities e
  | savePolicy id policy => exact preserves_savePolicy id policy s0.db reached_start
  | createGuestPin arguments utcNow => exact reached_createGuestPin rfl
  | createDoor door utcNow => exact preserves_createDoor door utcNow s0.db reached_start
  | updateDoor id door utcNow =>
    have hchanges : ChangesDoor id (.updateDoor id door utcNow) := rfl
    exact preserves_updateDoor hchanges door utcNow s0.db reached_start
  | deleteDoor id =>
    show Effects _ s0 (s0.deleteDoor id)
    unfold Server.deleteDoor
    cases hfind : s0.db.accessPoints.find? id with
    | none => exact ReflTransGen.refl
    | some door =>
      have hdelete : ((AccessPointsController.delete id).exec s0.db).2
          = AccessPointRepository.deleteAsync id s0.db := by
        have hget : AccessPointRepository.getByIdAsync s0.db id = some door := hfind
        simp [AccessPointsController.delete, hget]
      simp only [Server.run, hdelete]
      exact ReflTransGen.single (.deleteDoor id rfl)
  | evaluate keypadEvent accessPoint evaluationTimeUtc =>
    exact reached_evaluateAsync keypadEvent accessPoint evaluationTimeUtc
  | insertLog log =>
    show Effects _ s0 (s0.insertLog log)
    unfold Server.insertLog
    cases hinsert : AuditLogRepository.insertAsync log s0.db s0.accessLogs with
    | error error => exact ReflTransGen.refl
    | ok accessLogs => exact ReflTransGen.single (.insertLog hinsert)
  | pass accessPointId outcomes now => exact effects_pass outcomes now rfl

/-- What every write of an event keeps holds after the event. -/
theorem step_invariant {I : Server → Prop} {e : Event}
    (hI : ∀ s s', I s → Effect e s0 s s' → I s') (h : I s0)
    (capabilities : String → LockCapabilities) : I (s0.step capabilities e) := by
  have hreach : ∀ s, Effects e s0 s → I s := by
    intro s heffects
    induction heffects with
    | refl => exact h
    | tail _ heffect ih => exact hI _ _ ih heffect
  exact hreach _ (step_effects capabilities s0 e)

end CodeMaster.Proofs.Server
