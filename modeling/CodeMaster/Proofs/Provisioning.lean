import CodeMaster.Web.UsersController
import CodeMaster.Mcp.DoorTools
import CodeMaster.Proofs.Engine.VerifyPin

/-!
# `CodeMaster.Proofs.Provisioning`: what a failed provisioning leaves behind

`CreateGuestPinAsync` and `Create` insert a user, a credential, a policy and one assignment
after the other, and no transaction spans the inserts. `Adds` says which rows a database has
in addition to another one. The results say exactly which rows are left when one of the
inserts fails: those of the inserts before it, while every row that was there stays.

Each method is a sequence of statements, and the proof follows it with the rules of `Exec`. A
statement that fails leaves the database as it is, so that what remains is what the statements
before it have added. The new ids are new, so that an insert of the guest tool can fail at one point
only: at the assignment to a door that is not stored. `Create` takes ids from its body, and has more
such points.

The results hold for every request and every database. That a cancelled request can stop between two
statements is left out.
-/

set_option autoImplicit false

namespace CodeMaster.Proofs.Provisioning

open CodeMaster.Core Data CodeMaster.Web CodeMaster.Mcp Exec
open Engine.VerifyPin (StoresPin)

/-- The second database has the given rows in addition to those of the first one. -/
structure Adds (db db' : Db) (users : List User) (credentials : List Credential)
    (policies : List AccessPolicy) (assignments : List AccessAssignment) : Prop where
  users : db'.users.rows = db.users.rows ++ users
  credentials : db'.credentials.rows = db.credentials.rows ++ credentials
  accessPolicies : db'.accessPolicies.rows = db.accessPolicies.rows ++ policies
  accessAssignments : db'.accessAssignments.rows = db.accessAssignments.rows ++ assignments
  userGroups : db'.userGroups = db.userGroups
  accessPoints : db'.accessPoints = db.accessPoints
  hardwareSlots : db'.hardwareSlots = db.hardwareSlots

/-- The four tables that a provisioning writes are the same. -/
structure SameTables (db db' : Db) : Prop where
  users : db'.users = db.users
  credentials : db'.credentials = db.credentials
  accessPolicies : db'.accessPolicies = db.accessPolicies
  accessAssignments : db'.accessAssignments = db.accessAssignments

/-- The assignments give the user the policy at the doors, in this order. -/
structure Assigns (userId policyId : String) (doorIds : List String)
    (assignments : List AccessAssignment) : Prop where
  doors : assignments.map AccessAssignment.accessPointId = doorIds
  user : ∀ a ∈ assignments, a.userId = some userId
  policy : ∀ a ∈ assignments, a.policyId = policyId

section
variable [Host]

/-! ### The loop over the doors -/

/-- The assignment that both operations build for a door. -/
def newAssignment (userId policyId doorId : String) (db : Db) : Except SqliteException Db :=
  AccessPolicyRepository.assignPolicyAsync
    (UsersController.assignment db.newGuid userId policyId doorId) db

/-- The database is `db` with assignments for the doors. -/
def Assigned (db : Db) (userId policyId : String) (doorIds : List String) (db' : Db) : Prop :=
  ∃ accessAssignments assignments, db' = { db with accessAssignments }
    ∧ accessAssignments.rows = db.accessAssignments.rows ++ assignments
    ∧ Assigns userId policyId doorIds assignments

/-- One pass of the loop: a stored door gets its assignment, and another door stops it. -/
theorem newAssignment_of_assigned {db db1 : Db} {userId policyId doorId : String}
    {done : List String} (huser : userId ∈ db.users.keys)
    (hpolicy : policyId ∈ db.accessPolicies.keys)
    (h1 : Assigned db userId policyId done db1) :
    if doorId ∈ db.accessPoints.keys then
      ∃ db2, newAssignment userId policyId doorId db1 = .ok db2
        ∧ Assigned db userId policyId (done ++ [doorId]) db2
    else newAssignment userId policyId doorId db1 = .error .foreignKey := by
  obtain ⟨accessAssignments, assignments, hdb1, hrows, hassigns⟩ := h1
  have hpoints : db1.accessPoints = db.accessPoints := by rw [hdb1]
  have huser1 : userId ∈ db1.users.keys := by rw [hdb1]; exact huser
  have hpolicy1 : policyId ∈ db1.accessPolicies.keys := by rw [hdb1]; exact hpolicy
  have hnew : if doorId ∈ db1.accessPoints.keys then
      ∃ table, newAssignment userId policyId doorId db1
          = .ok { db1 with accessAssignments := table }
        ∧ table.rows = db1.accessAssignments.rows
            ++ [UsersController.assignment db1.newGuid userId policyId doorId]
      else newAssignment userId policyId doorId db1 = .error .foreignKey :=
    @AccessPolicyRepository.assignPolicyAsync_of_new
      (UsersController.assignment db1.newGuid userId policyId doorId) db1 userId
      db1.newGuid_notMem_accessAssignments rfl huser1 rfl hpolicy1
  rw [← hpoints]
  split at hnew
  · rename_i hdoor
    rw [if_pos hdoor]
    obtain ⟨table, heq, htable⟩ := hnew
    refine ⟨_, heq, table, assignments
      ++ [UsersController.assignment db1.newGuid userId policyId doorId], by rw [hdb1], ?_, ?_⟩
    · rw [htable, hdb1, ← List.append_assoc, ← hrows]
    · refine ⟨?_, fun a ha => ?_, fun a ha => ?_⟩
      · rw [List.map_append, hassigns.doors]
        rfl
      · rcases List.mem_append.mp ha with ha | ha
        · exact hassigns.user a ha
        · rw [List.mem_singleton.mp ha]
          rfl
      · rcases List.mem_append.mp ha with ha | ha
        · exact hassigns.policy a ha
        · rw [List.mem_singleton.mp ha]
          rfl
  · -- The door is not stored: the foreign key fails, and nothing is added.
    rename_i hdoor
    rw [if_neg hdoor]
    exact hnew

/-- The loop assigns the doors one after the other, and stops at the first one that is not
stored. `wrap` is what the caller makes of the exception. -/
theorem forM_newAssignment {ε : Type} (wrap : SqliteException → ε) {db db' : Db}
    {userId policyId : String} {r : Except ε PUnit} (huser : userId ∈ db.users.keys)
    (hpolicy : policyId ∈ db.accessPolicies.keys) (doorIds : List String)
    (h : (forM doorIds fun doorId =>
      statement fun db => (newAssignment userId policyId doorId db).mapError wrap).exec db
        = (r, db')) :
    (r = .ok () ∧ Assigned db userId policyId doorIds db')
      ∨ ∃ done doorId rest, doorIds = done ++ doorId :: rest ∧ r = .error (wrap .foreignKey)
          ∧ doorId ∉ db.accessPoints.keys ∧ Assigned db userId policyId done db' := by
  have hstart : Assigned db userId policyId [] db :=
    ⟨db.accessAssignments, [], rfl, (List.append_nil _).symm, rfl, nofun, nofun⟩
  -- What one pass does, read off the result of the statement.
  have hpass : ∀ done doorId db1 db2 (r1 : Except ε PUnit), Assigned db userId policyId done db1 →
      (statement fun db => (newAssignment userId policyId doorId db).mapError wrap).exec db1
        = (r1, db2) →
      (r1 = .ok () ∧ Assigned db userId policyId (done ++ [doorId]) db2)
        ∨ (r1 = .error (wrap .foreignKey) ∧ doorId ∉ db.accessPoints.keys
            ∧ Assigned db userId policyId done db2) := by
    intro done doorId db1 db2 r1 h1 hexec
    have hcases := @newAssignment_of_assigned _ db db1 userId policyId doorId done huser hpolicy h1
    split at hcases
    · obtain ⟨db3, hok, h3⟩ := hcases
      rw [exec_statement, hok] at hexec
      cases hexec
      exact Or.inl ⟨rfl, h3⟩
    · rename_i hdoor
      rw [exec_statement, hcases] at hexec
      cases hexec
      exact Or.inr ⟨rfl, hdoor, h1⟩
  have hrule := @forM_rule ε Db String
    (fun doorId => statement fun db => (newAssignment userId policyId doorId db).mapError wrap)
    (fun done db1 => Assigned db userId policyId done db1)
    (fun done doorId e db1 => e = wrap .foreignKey ∧ doorId ∉ db.accessPoints.keys
      ∧ Assigned db userId policyId done db1)
    doorIds [] db db' r
    (fun done doorId _ db1 db2 h1 hexec => by
      rcases hpass done doorId db1 db2 _ h1 hexec with ⟨-, h2⟩ | ⟨herror, -⟩
      · exact h2
      · cases herror)
    (fun done doorId _ e db1 db2 h1 hexec => by
      rcases hpass done doorId db1 db2 _ h1 hexec with ⟨hok, -⟩ | ⟨herror, hrest⟩
      · cases hok
      · cases herror
        exact ⟨rfl, hrest⟩)
    hstart h
  rcases hrule with hend | ⟨done, doorId, rest, e, hdoors, hr, rfl, hdoor, hassigned⟩
  · exact Or.inl hend
  · exact Or.inr ⟨done, doorId, rest, hdoors, hr, hdoor, hassigned⟩

/-! ### `CreateGuestPinAsync` -/

/-- `args` were accepted, and the loop over their doors stopped at a door that is not stored.
The user, the PIN, the policy and the assignments of the doors before that one are left. -/
def HalfProvisionedGuest (db db' : Db) (args : DoorTools.GuestPinArguments) : Prop :=
  ∃ user credential policy assignments done doorId rest,
    args.doorIds = done ++ doorId :: rest ∧ doorId ∉ db.accessPoints.keys
      ∧ Adds db db' [user] [credential] [policy] assignments
      ∧ user.name = args.name ∧ user.isActive = true
      ∧ credential.userId = user.id ∧ StoresPin args.pin credential
      ∧ Assigns user.id policy.id done assignments

/-- The rows that `CreateGuestPinAsync` builds for a guest. -/
structure GuestRows (args : DoorTools.GuestPinArguments) (user : User) (credential : Credential)
    (policy : AccessPolicy) : Prop where
  name : user.name = args.name
  isActive : user.isActive = true
  groupId : user.groupId = none
  owner : credential.userId = user.id
  pin : StoresPin args.pin credential
  isEnabled : policy.isEnabled = true
  scheduleType : policy.scheduleType = .dateRange
  window : policy.startTime = none ∧ policy.endTime = none
  validFrom : policy.validFrom = some args.validFrom.toUniversalTime
  validUntil : policy.validUntil = some args.validUntil.toUniversalTime

/-- The object that the operation answers with when every door has its assignment. -/
def guestPin (args : DoorTools.GuestPinArguments) (user : User) (credential : Credential)
    (policy : AccessPolicy) : GuestPin :=
  { userId := user.id
    userName := user.name
    credentialId := credential.id
    policyId := policy.id
    validFrom := args.validFrom.toUniversalTime
    validUntil := args.validUntil.toUniversalTime
    doors := args.doorIds }

/-- The inserts before the loop have new ids and stored references, so they succeed: the
operation returns, or it stops in the loop at a door that is not stored. -/
theorem provisionGuest_cases {db db' : Db} {args : DoorTools.GuestPinArguments}
    {utcNow : DateTime} {r : Except ToolException McpToolCallResult}
    (h : (DoorTools.provisionGuest args utcNow).exec db = (r, db')) :
    ∃ user credential policy assignments done,
      user.id = db.newGuid ∧ GuestRows args user credential policy
        ∧ Adds db db' [user] [credential] [policy] assignments
        ∧ Assigns user.id policy.id done assignments
        ∧ ((r = .ok (.guestPin (guestPin args user credential policy)) ∧ done = args.doorIds)
          ∨ ∃ e doorId rest, r = .error e ∧ args.doorIds = done ++ doorId :: rest
              ∧ doorId ∉ db.accessPoints.keys) := by
  simp only [DoorTools.provisionGuest, exec_bind, exec_query] at h
  obtain ⟨users, hinsert, husers⟩ := @UserRepository.insertAsync_of_new
    { id := db.newGuid, name := args.name, role := .guest
      createdAt := utcNow, updatedAt := utcNow }
    db db.newGuid_notMem_users rfl
  rw [DoorTools.execute_of_ok hinsert] at h
  -- The databases after the inserts get names, so that each insert is read off its own.
  generalize hdb1 : ({ db with users } : Db) = db1 at h
  have huser1 : db.newGuid ∈ db1.users.keys := by
    rw [← hdb1]
    exact Relational.Table.mem_keys_of_append husers
  simp only at h
  obtain ⟨credentials, hinsert1, hcredentials⟩ := @CredentialRepository.insertAsync_of_new
    { id := db1.newGuid, userId := db.newGuid, type := .pin, encryptedValue := some args.pin
      hashedValue := Host.sha256Hex args.pin, pinLength := utf16Length args.pin
      label := some "Guest PIN", createdAt := utcNow }
    db1 db1.newGuid_notMem_credentials huser1
  rw [DoorTools.execute_of_ok hinsert1] at h
  generalize hdb2 : ({ db1 with credentials } : Db) = db2 at h
  simp only at h
  obtain ⟨accessPolicies, hinsert2, hpolicies⟩ := @AccessPolicyRepository.insertAsync_of_new
    { id := db2.newGuid, name := args.name ++ " Guest Window", scheduleType := .dateRange
      validFrom := some args.validFrom.toUniversalTime
      validUntil := some args.validUntil.toUniversalTime, isEnabled := true }
    db2 db2.newGuid_notMem_accessPolicies
  rw [DoorTools.execute_of_ok hinsert2] at h
  generalize hdb3 : ({ db2 with accessPolicies } : Db) = db3 at h
  simp only at h
  have huser3 : db.newGuid ∈ db3.users.keys := by rw [← hdb3, ← hdb2]; exact huser1
  have hpolicy3 : db2.newGuid ∈ db3.accessPolicies.keys := by
    rw [← hdb3]
    exact Relational.Table.mem_keys_of_append hpolicies
  rcases hloop : (forM args.doorIds fun doorId => statement fun db' =>
      (newAssignment db.newGuid db2.newGuid doorId db').mapError ToolException.sqlite).exec db3
    with ⟨r', db4⟩
  have hloop' : (forM args.doorIds fun doorId => do
      let guid ← query Db.newGuid
      DoorTools.execute (AccessPolicyRepository.assignPolicyAsync
        { id := guid, accessPointId := doorId, userId := some db.newGuid
          policyId := db2.newGuid })).exec db3 = (r', db4) := hloop
  rw [hloop'] at h
  rcases forM_newAssignment ToolException.sqlite huser3 hpolicy3 args.doorIds hloop with
    ⟨rfl, table, assignments, rfl, hrows, hassigns⟩
    | ⟨done, doorId, rest, hdoors, rfl, hdoor, table, assignments, rfl, hrows, hassigns⟩
  · cases h
    subst hdb3 hdb2 hdb1
    exact ⟨_, _, _, assignments, args.doorIds, rfl,
      ⟨rfl, rfl, rfl, rfl, ⟨rfl, rfl⟩, rfl, rfl, ⟨rfl, rfl⟩, rfl, rfl⟩,
      ⟨husers, hcredentials, hpolicies, hrows, rfl, rfl, rfl⟩, hassigns, Or.inl ⟨rfl, rfl⟩⟩
  · cases h
    subst hdb3 hdb2 hdb1
    exact ⟨_, _, _, assignments, done, rfl,
      ⟨rfl, rfl, rfl, rfl, ⟨rfl, rfl⟩, rfl, rfl, ⟨rfl, rfl⟩, rfl, rfl⟩,
      ⟨husers, hcredentials, hpolicies, hrows, rfl, rfl, rfl⟩, hassigns,
      Or.inr ⟨_, doorId, rest, rfl, hdoors, hdoor⟩⟩

/-- A guest tool that throws leaves a guest who is half provisioned. -/
theorem provisionGuest_error {db db' : Db} {args : DoorTools.GuestPinArguments}
    {utcNow : DateTime} {e : ToolException}
    (h : (DoorTools.provisionGuest args utcNow).exec db = (.error e, db')) :
    HalfProvisionedGuest db db' args := by
  obtain ⟨user, credential, policy, assignments, done, -, hrows, hadds, hassigns, hend⟩ :=
    provisionGuest_cases h
  rcases hend with ⟨hok, -⟩ | ⟨e, doorId, rest, -, hdoors, hdoor⟩
  · cases hok
  · exact ⟨user, credential, policy, assignments, done, doorId, rest, hdoors, hdoor, hadds,
      hrows.name, hrows.isActive, hrows.owner, hrows.pin, hassigns⟩

/-- When the operation returns, the rows of the guest and one assignment for each door are
there. -/
theorem provisionGuest_ok {db db' : Db} {args : DoorTools.GuestPinArguments}
    {utcNow : DateTime} {result : McpToolCallResult}
    (h : (DoorTools.provisionGuest args utcNow).exec db = (.ok result, db')) :
    ∃ user credential policy assignments,
      user.id = db.newGuid ∧ GuestRows args user credential policy
        ∧ Adds db db' [user] [credential] [policy] assignments
        ∧ Assigns user.id policy.id args.doorIds assignments
        ∧ result = .guestPin (guestPin args user credential policy) := by
  obtain ⟨user, credential, policy, assignments, done, hid, hrows, hadds, hassigns, hend⟩ :=
    provisionGuest_cases h
  rcases hend with ⟨hok, rfl⟩ | ⟨e, doorId, rest, herror, -⟩
  · cases hok
    exact ⟨user, credential, policy, assignments, hid, hrows, hadds, hassigns, rfl⟩
  · cases herror

/-- A guest tool that does not throw reports no error. -/
theorem provisionGuest_returns (args : DoorTools.GuestPinArguments) (utcNow : DateTime) :
    Returns (fun result => result.isError = false) (DoorTools.provisionGuest args utcNow) :=
  Returns.bind fun _ => Returns.bind fun _ => Returns.bind fun _ => Returns.bind fun _ =>
    Returns.bind fun _ => Returns.bind fun _ => Returns.bind fun _ => Returns.pure rfl

/-! ### `Create` -/

/-- The PIN step does not stop. It adds the PIN of the request, or nothing without one. -/
theorem exec_createCredential {db : Db} {user : User} (huser : user.id ∈ db.users.keys)
    (request : CreateUserRequest) (utcNow : DateTime) :
    ∃ table credentials, (UsersController.createCredential user request utcNow).exec db
        = (.ok (), { db with credentials := table })
      ∧ table.rows = db.credentials.rows ++ credentials
      ∧ if isNullOrWhiteSpace request.pin then credentials = []
        else ∃ c, credentials = [c] ∧ c.userId = user.id ∧ StoresPin (request.pin.getD "") c := by
  cases hpin : isNullOrWhiteSpace request.pin with
  | true =>
    refine ⟨db.credentials, [], ?_, (List.append_nil _).symm, rfl⟩
    simp [UsersController.createCredential, hpin]
  | false =>
    obtain ⟨table, hinsert, hrows⟩ := @CredentialRepository.insertAsync_of_new
      (UsersController.pinCredential db.newGuid user.id (request.pin.getD "") request.pinLabel
        utcNow) db db.newGuid_notMem_credentials huser
    refine ⟨table, _, ?_, hrows, _, rfl, rfl, rfl, rfl⟩
    simp [UsersController.createCredential, hpin, exec_statement_of_ok hinsert]

/-- When the policy step stops, it has added nothing because the id of the policy is taken, or
it has added the policy and the assignments of the doors before one that is not stored. -/
theorem createPolicy_error {db db' : Db} {user : User} {request : CreateUserRequest}
    {e : SqliteException} (huser : user.id ∈ db.users.keys)
    (h : (UsersController.createPolicy user request).exec db = (.error e, db')) :
    (db' = db ∧ ∃ body, request.policy = some body ∧ body.id ∈ db.accessPolicies.keys)
      ∨ ∃ policy policies assignments table done doorId rest,
          request.doorIds.getD [] = done ++ doorId :: rest ∧ doorId ∉ db.accessPoints.keys
            ∧ db' = { db with accessPolicies := policies, accessAssignments := table }
            ∧ policies.rows = db.accessPolicies.rows ++ [policy]
            ∧ table.rows = db.accessAssignments.rows ++ assignments
            ∧ Assigns user.id policy.id done assignments := by
  unfold UsersController.createPolicy at h
  cases hbody : request.policy with
  | none =>
    rw [hbody] at h
    cases h
  | some body =>
    rw [hbody] at h
    simp only [exec_bind, exec_query] at h
    generalize hpolicy : (if isNullOrWhiteSpace (some body.id) then
      { body with id := db.newGuid } else body) = policy at h
    by_cases hid : policy.id ∈ db.accessPolicies.keys
    · -- Only a given id can be taken, and then the insert fails.
      have hnone : db.accessPolicies.insert? (AccessPolicyRepository.toRow policy) = none :=
        Relational.Table.insert?_eq_none_iff.mpr hid
      have hinsert : AccessPolicyRepository.insertAsync policy db
          = .error (.unique "AccessPolicies.Id") := by
        rw [AccessPolicyRepository.insertAsync, hnone]
      rw [exec_statement_of_error hinsert] at h
      cases h
      refine Or.inl ⟨rfl, body, rfl, ?_⟩
      split at hpolicy
      · rw [← hpolicy] at hid
        exact absurd hid db.newGuid_notMem_accessPolicies
      · rw [hpolicy]
        exact hid
    · obtain ⟨policies, hinsert, hpolicies⟩ := AccessPolicyRepository.insertAsync_of_new hid
      rw [exec_statement_of_ok hinsert] at h
      simp only at h
      have hpolicy1 : (AccessPolicyRepository.toRow policy).id ∈ policies.keys :=
        Relational.Table.mem_keys_of_append hpolicies
      generalize hdb1 : ({ db with accessPolicies := policies } : Db) = db1 at h
      have huser1 : user.id ∈ db1.users.keys := by rw [← hdb1]; exact huser
      have hpolicy2 : policy.id ∈ db1.accessPolicies.keys := by rw [← hdb1]; exact hpolicy1
      -- The action throws the exception of the statement as it is.
      have hbody : (fun doorId => do
          let guid ← query Db.newGuid
          statement (AccessPolicyRepository.assignPolicyAsync
            (UsersController.assignment guid user.id policy.id doorId)))
          = fun doorId => (statement fun db =>
            (newAssignment user.id policy.id doorId db).mapError id
              : Exec SqliteException Db Unit) := by
        funext doorId db2
        show (statement (newAssignment user.id policy.id doorId)).exec db2
          = (statement fun db => (newAssignment user.id policy.id doorId db).mapError id).exec db2
        rw [exec_statement, exec_statement]
        cases newAssignment user.id policy.id doorId db2 <;> rfl
      rw [hbody] at h
      rcases forM_newAssignment id huser1 hpolicy2 (request.doorIds.getD []) h with
        ⟨hok, -⟩ | ⟨done, doorId, rest, hdoors, -, hdoor, table, assignments, hdb', hrows, hassigns⟩
      · cases hok
      · subst hdb1
        exact Or.inr ⟨AccessPolicyRepository.toRow policy, policies, assignments, table, done,
          doorId, rest, hdoors, hdoor, hdb', hpolicies, hrows, hassigns⟩

/-- `Create` stopped after its first insert: the user is left, with the PIN of the request if
there is one. The id of the policy body is taken, or the loop over the doors stopped at a door
that is not stored, and then the policy and the assignments before that door are left too. -/
def HalfCreated (db db' : Db) (request : CreateUserRequest) : Prop :=
  ∃ user credentials policies assignments,
    Adds db db' [user] credentials policies assignments
      ∧ user.name = request.name ∧ user.isActive = true
      ∧ (if isNullOrWhiteSpace request.pin then credentials = []
        else ∃ c, credentials = [c] ∧ c.userId = user.id ∧ StoresPin (request.pin.getD "") c)
      ∧ ((policies = [] ∧ assignments = []
            ∧ ∃ body, request.policy = some body ∧ body.id ∈ db.accessPolicies.keys)
          ∨ ∃ policy done doorId rest, policies = [policy]
              ∧ request.doorIds.getD [] = done ++ doorId :: rest
              ∧ doorId ∉ db.accessPoints.keys ∧ Assigns user.id policy.id done assignments)

/-- The user that `Create` builds cannot be inserted: its id is taken, or its group is not
stored. -/
def UserRejected (db : Db) (request : CreateUserRequest) : Prop :=
  (isNullOrWhiteSpace request.id = false ∧ request.id.getD "" ∈ db.users.keys)
    ∨ UserRepository.groupExists db request.groupId = false

/-- Only a given id can be taken: a generated one is new. -/
theorem userRejected_of_new {db : Db} {request : CreateUserRequest}
    (h : (if isNullOrWhiteSpace request.id then db.newGuid else request.id.getD "") ∈ db.users.keys
      ∨ UserRepository.groupExists db request.groupId = false) : UserRejected db request := by
  rcases h with hid | hgroup
  · split at hid
    · exact absurd hid db.newGuid_notMem_users
    · rename_i hblank
      exact Or.inl ⟨Bool.eq_false_iff.mpr hblank, hid⟩
  · exact Or.inr hgroup

/-- A creation that throws has written nothing, or leaves a user who is half created. -/
theorem create_error {db db' : Db} {request : CreateUserRequest} {utcNow : DateTime}
    {e : SqliteException}
    (h : (UsersController.create request utcNow).exec db = (.error e, db')) :
    (db' = db ∧ UserRejected db request) ∨ HalfCreated db db' request := by
  unfold UsersController.create at h
  rw [exec_ite] at h
  split at h
  · cases h
  · simp only [exec_bind, exec_query] at h
    generalize huser : ({
      id := if isNullOrWhiteSpace request.id then db.newGuid else request.id.getD ""
      name := request.name
      role := request.role
      groupId := request.groupId
      isActive := true
      createdAt := utcNow
      updatedAt := utcNow } : User) = user at h
    rcases UserRepository.insertAsync_cases user db with
      ⟨e, hinsert, hreject⟩ | ⟨users, hinsert, husers⟩
    · rw [exec_statement_of_error hinsert] at h
      cases h
      subst huser
      exact Or.inl ⟨rfl, userRejected_of_new hreject⟩
    · rw [exec_statement_of_ok hinsert] at h
      simp only at h
      have hkey : user.id ∈ ({ db with users } : Db).users.keys :=
        Relational.Table.mem_keys_of_append husers
      obtain ⟨table, credentials, hcredential, hcredentials, hpin⟩ :=
        exec_createCredential hkey request utcNow
      rw [hcredential] at h
      simp only at h
      -- The user and the PIN are stored, so only the policy step can stop.
      rcases hpolicy : (UsersController.createPolicy user request).exec
        { db with users, credentials := table } with ⟨_ | _, db1⟩
      · rw [hpolicy] at h
        cases h
        refine Or.inr ?_
        have hkey1 : user.id ∈ ({ db with users, credentials := table } : Db).users.keys := hkey
        rcases createPolicy_error hkey1 hpolicy with ⟨rfl, hbody⟩ |
          ⟨policy, policies, assignments, rows, done, doorId, rest, hdoors, hdoor, rfl, hpolicies,
            hrows, hassigns⟩
        · refine ⟨user, credentials, [], [], ?_, by rw [← huser], by rw [← huser], hpin,
            Or.inl ⟨rfl, rfl, hbody⟩⟩
          exact ⟨husers, hcredentials, (List.append_nil _).symm, (List.append_nil _).symm, rfl,
            rfl, rfl⟩
        · refine ⟨user, credentials, [policy], assignments, ?_, by rw [← huser], by rw [← huser],
            hpin, Or.inr ⟨policy, done, doorId, rest, rfl, hdoors, hdoor, hassigns⟩⟩
          exact ⟨husers, hcredentials, hpolicies, hrows, rfl, rfl, rfl⟩
      · rw [hpolicy] at h
        cases h

/-! ### What a failure leaves -/

/-- A failed provisioning keeps every row, and adds none or the rows of its first inserts. -/
theorem failed_provisioning (db : Db) (utcNow : DateTime) :
    (∀ arguments, (DoorTools.createGuestPin arguments utcNow db).1.isError = true →
      (DoorTools.createGuestPin arguments utcNow db).2 = db
        ∨ ∃ args, DoorTools.parseGuestPin arguments = .ok (.ok args)
            ∧ HalfProvisionedGuest db (DoorTools.createGuestPin arguments utcNow db).2 args)
    ∧ ∀ request e db', (UsersController.create request utcNow).exec db = (.error e, db') →
        (db' = db ∧ UserRejected db request) ∨ HalfCreated db db' request := by
  refine ⟨fun arguments herror => ?_, fun request e db' h => create_error h⟩
  unfold DoorTools.createGuestPin DoorTools.runTool at herror ⊢
  rcases hexec : (DoorTools.createGuestPinAsync arguments utcNow).exec db with ⟨r, db'⟩
  rw [hexec] at herror
  unfold DoorTools.createGuestPinAsync at hexec
  rcases hparse : DoorTools.parseGuestPin arguments with e | text | args <;> rw [hparse] at hexec
  · -- An argument of the wrong type throws before the first insert.
    cases hexec
    exact Or.inl rfl
  · cases hexec
    exact Or.inl rfl
  · cases r with
    | error e => exact Or.inr ⟨args, rfl, provisionGuest_error hexec⟩
    | ok result =>
      rw [provisionGuest_returns args utcNow db result db' hexec] at herror
      cases herror

end

section
/-- The host of the samples. -/
local instance : Host := Host.sample

/-- A request for a door that is not stored. -/
def atticGuest : JsonElement := .object
  [("name", .string "Visitor"), ("pin", .string "1234"),
    ("validFrom", .string "2026-01-01T00:00:00Z"), ("validUntil", .string "2026-01-02T00:00:00Z"),
    ("doorIds", .array [.string "attic"])]

/-- The guest of the attic, whose door is not stored. -/
theorem createGuestPin_atticGuest :
    (DoorTools.createGuestPin (some atticGuest) { ticks := 0 } {}).1.isError = true
      ∧ (DoorTools.createGuestPin (some atticGuest) { ticks := 0 } {}).2.users.rows.length = 1 := by
  decide +kernel

/-- The request fails at its door, and its user stays. -/
theorem failed_provisioning_atticGuest :
    ∃ args, DoorTools.parseGuestPin (some atticGuest) = .ok (.ok args)
      ∧ HalfProvisionedGuest {}
          (DoorTools.createGuestPin (some atticGuest) { ticks := 0 } {}).2 args := by
  obtain ⟨herror, hone⟩ := createGuestPin_atticGuest
  rcases (failed_provisioning {} { ticks := 0 }).1 (some atticGuest) herror with hsame | hhalf
  · rw [hsame] at hone
    cases hone
  · exact hhalf

/-- A failed provisioning is not undone. -/
theorem provisioning_not_atomic :
    ¬ ∀ (db : Db) (utcNow : DateTime),
        (∀ arguments, (DoorTools.createGuestPin arguments utcNow db).1.isError = true →
          SameTables db (DoorTools.createGuestPin arguments utcNow db).2)
        ∧ ∀ request e db', (UsersController.create request utcNow).exec db = (.error e, db') →
            SameTables db db' := by
  intro hatomic
  obtain ⟨herror, hone⟩ := createGuestPin_atticGuest
  have hsame := (hatomic {} { ticks := 0 }).1 (some atticGuest) herror
  rw [hsame.users] at hone
  cases hone

end

end CodeMaster.Proofs.Provisioning
