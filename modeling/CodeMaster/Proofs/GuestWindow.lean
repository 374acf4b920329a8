import CodeMaster.Proofs.Engine.DoorScoping
import CodeMaster.Proofs.Provisioning

/-!
# `CodeMaster.Proofs.GuestWindow`: a guest PIN opens its doors exactly in its window

A successful `CreateGuestPinAsync` has added a user with a new id, so the assignments of the
request are the only ones for that user: the keypad decides about the guest under the one
policy of the request (`mem_policiesOf_guest`), whatever else the store holds. That policy is
active exactly in the window (`isActiveAt_guestPolicy`).

The instants of the request are given with an offset from UTC and stored as UTC. What the database
gives back is assumed to have the ticks that were stored, which is the one assumption about the
host. With it the policy is active from the first instant of the window to the last one, both
included, and at no other time.

The PIN must not be the PIN of another user. Otherwise the search of the keypad can stop at the
other user, which is the subject of `LockedOut`.
-/

set_option autoImplicit false

namespace CodeMaster.Proofs.GuestWindow

open CodeMaster.Core Data CodeMaster.Mcp CodeMaster.Engine AccessPolicyEvaluator Exec
open AccessPolicyRepository
open Engine.Evaluate Engine.DoorScoping Engine.VerifyPin Provisioning

section
variable [Host] {db db' : Db} {args : DoorTools.GuestPinArguments} {user : User}
  {credential : Credential} {policy : AccessPolicy} {assignments : List AccessAssignment}

/-- A guest's policy is active from the start to the end of the window. -/
theorem isActiveAt_guestPolicy (hrows : GuestRows args user credential policy)
    (hread : ∀ t, (Host.readDateTime t).ticks = t.ticks) (t : DateTime) :
    (ofRow policy).isActiveAt t = true
      ↔ args.validFrom.toUniversalTime.ticks ≤ t.ticks
          ∧ t.ticks ≤ args.validUntil.toUniversalTime.ticks := by
  have hfrom : (ofRow policy).validFrom
      = some (Host.readDateTime args.validFrom.toUniversalTime) := by
    show policy.validFrom.map Host.readDateTime = _
    rw [hrows.validFrom]
    rfl
  have huntil : (ofRow policy).validUntil
      = some (Host.readDateTime args.validUntil.toUniversalTime) := by
    show policy.validUntil.map Host.readDateTime = _
    rw [hrows.validUntil]
    rfl
  have henabled : (ofRow policy).isEnabled = true := hrows.isEnabled
  have htype : (ofRow policy).scheduleType = .dateRange := hrows.scheduleType
  have hwindow : (ofRow policy).isTimeWindowActive t = true := by
    have hstart : (ofRow policy).startTime = none := hrows.window.1
    have hend : (ofRow policy).endTime = none := hrows.window.2
    simp [AccessPolicy.isTimeWindowActive, hstart, hend]
  simp only [AccessPolicy.isActiveAt, henabled, hfrom, huntil, htype, hwindow, Option.any_some,
    hread, Bool.not_true, Bool.false_eq_true, if_false, decide_eq_true_eq]
  split
  · simp
    omega
  · split
    · simp
      omega
    · simp
      omega

omit [Host] in
/-- The guest is stored. -/
theorem mem_users_guest (hadds : Adds db db' [user] [credential] [policy] assignments) :
    user ∈ db'.users.rows := by
  rw [hadds.users]
  exact List.mem_append_right _ List.mem_cons_self

omit [Host] in
/-- The policy of the request is stored. -/
theorem mem_policies_guest (hadds : Adds db db' [user] [credential] [policy] assignments) :
    policy ∈ db'.accessPolicies.rows := by
  rw [hadds.accessPolicies]
  exact List.mem_append_right _ List.mem_cons_self

/-- An assignment for the guest is one of the request. -/
theorem mem_assignments_of_isFor (hid : user.id = db.newGuid)
    (hrows : GuestRows args user credential policy)
    (hadds : Adds db db' [user] [credential] [policy] assignments) {a : AccessAssignment}
    (ha : a ∈ db'.accessAssignments.rows) (hfor : IsFor a user) : a ∈ assignments := by
  rw [hadds.accessAssignments] at ha
  rcases List.mem_append.mp ha with hold | hnew
  · rcases hfor with huser | ⟨g, -, hgroup⟩
    · -- The rows that were there do not know the new id.
      rw [hid] at huser
      exact absurd huser (db.newGuid_ne_userId hold)
    · rw [hrows.groupId] at hgroup
      cases hgroup
  · exact hnew

/-- The guest has the one policy of the request. -/
theorem mem_getByUserIdAsync_guest (hid : user.id = db.newGuid)
    (hrows : GuestRows args user credential policy)
    (hadds : Adds db db' [user] [credential] [policy] assignments)
    (hassigns : Assigns user.id policy.id args.doorIds assignments) {p : AccessPolicy}
    (hp : p ∈ getByUserIdAsync db' user.id) : p = ofRow policy := by
  have hpolicy := mem_policies_guest hadds
  obtain ⟨row, hrow, rfl, a, ha, hrowid, hfor⟩ :=
    (mem_getByUserIdAsync (mem_users_guest hadds)).mp hp
  have hnew := mem_assignments_of_isFor hid hrows hadds ha hfor
  have heq : row.id = policy.id := hrowid.symm.trans (hassigns.policy a hnew)
  rw [db'.accessPolicies.eq_of_key_eq hrow hpolicy heq]

/-- At a door of the request, the keypad decides under the policy of the request. -/
theorem mem_policiesOf_guest (hid : user.id = db.newGuid)
    (hrows : GuestRows args user credential policy)
    (hadds : Adds db db' [user] [credential] [policy] assignments)
    (hassigns : Assigns user.id policy.id args.doorIds assignments) {doorId : String}
    (hdoor : doorId ∈ args.doorIds) {p : AccessPolicy} :
    p ∈ policiesOf db' doorId user ↔ p = ofRow policy := by
  have huser := mem_users_guest hadds
  have hpolicy := mem_policies_guest hadds
  -- The assignment of the door puts the policy into the intersection.
  rw [← hassigns.doors] at hdoor
  obtain ⟨a, ha, hplace⟩ := List.mem_map.mp hdoor
  have ha' : a ∈ db'.accessAssignments.rows := by
    rw [hadds.accessAssignments]
    exact List.mem_append_right _ ha
  have hown : ofRow policy ∈ getByUserIdAsync db' user.id :=
    (mem_getByUserIdAsync huser).mpr
      ⟨policy, hpolicy, rfl, a, ha', hassigns.policy a ha, Or.inl (hassigns.user a ha)⟩
  have hassigned : ofRow policy ∈ policiesAssignedAt db' doorId user :=
    List.mem_filter.mpr ⟨hown, assignedAt_iff.mpr ⟨a, ha', hplace, hassigns.policy a ha⟩⟩
  rw [policiesOf_eq huser, if_pos (List.ne_nil_of_mem hassigned)]
  constructor
  · intro hp
    exact mem_getByUserIdAsync_guest hid hrows hadds hassigns (List.mem_filter.mp hp).1
  · rintro rfl
    exact hassigned

/-- The search by PIN finds the guest, when no other user's credential accepts the PIN. -/
theorem firstHolder_guest (hrows : GuestRows args user credential policy)
    (hadds : Adds db db' [user] [credential] [policy] assignments) (hpin : args.pin ≠ "")
    (hother : ∀ c ∈ db'.credentials.rows, c.userId ≠ user.id → verifyPin args.pin c = false) :
    FirstHolder db' args.pin user := by
  have hmem : user ∈ UserRepository.getAllAsync db' :=
    UserRepository.mem_getAllAsync.mpr (mem_users_guest hadds)
  obtain ⟨before, after, hall⟩ := List.append_of_mem hmem
  refine ⟨before, after, hall, ⟨credential, ?_, verifyPin_self hrows.pin hpin⟩, ?_⟩
  · refine CredentialRepository.mem_getByUserIdAsync.mpr ⟨?_, hrows.owner⟩
    rw [hadds.credentials]
    exact List.mem_append_right _ List.mem_cons_self
  · intro v hv c hc
    obtain ⟨hc, howner⟩ := CredentialRepository.mem_getByUserIdAsync.mp hc
    refine hother c hc ?_
    -- Another user before the guest has another id.
    have hnodup := UserRepository.getAllAsync_nodup db'
    rw [hall, List.map_append, List.map_cons, List.nodup_append] at hnodup
    intro heq
    exact hnodup.2.2 v.id (List.mem_map_of_mem hv) user.id List.mem_cons_self
      (howner.symm.trans heq)

omit [Host] in
/-- A required text that was read is not blank. -/
theorem requiredString_not_blank {name value : String} {e : JsonElement}
    (h : DoorTools.requiredString name e = .ok (some value)) :
    isNullOrWhiteSpace (some value) = false := by
  obtain ⟨property, -, h⟩ := bind_eq_ok.mp h
  cases property with
  | none => cases h
  | some property =>
    obtain ⟨text, -, h⟩ := bind_eq_ok.mp h
    split at h
    · cases h
    · rename_i hblank
      cases h
      exact Bool.eq_false_iff.mpr hblank

/-- A request is accepted with a PIN that is not blank only. -/
theorem pin_not_blank {arguments : Option JsonElement}
    (hargs : DoorTools.parseGuestPin arguments = .ok (.ok args)) :
    isNullOrWhiteSpace (some args.pin) = false := by
  unfold DoorTools.parseGuestPin at hargs
  cases arguments with
  | none => cases hargs
  | some e =>
    -- Each check has passed, in the order of the source.
    obtain ⟨_ | name, -, hargs⟩ := bind_eq_ok.mp hargs
    · cases hargs
    obtain ⟨_ | pin, hpin, hargs⟩ := bind_eq_ok.mp hargs
    · cases hargs
    obtain ⟨_ | validFrom, -, hargs⟩ := bind_eq_ok.mp hargs
    · cases hargs
    obtain ⟨_ | validUntil, -, hargs⟩ := bind_eq_ok.mp hargs
    · cases hargs
    obtain ⟨doors, -, hargs⟩ := bind_eq_ok.mp hargs
    split at hargs
    · obtain ⟨doorIds, -, hargs⟩ := bind_eq_ok.mp hargs
      split at hargs
      · cases hargs
      · cases hargs
        exact requiredString_not_blank hpin
    · cases hargs

/-- A parsed request without an error has added the rows of the guest. -/
theorem createGuestPin_ok {arguments : Option JsonElement} {utcNow : DateTime}
    {result : GuestPin} (hargs : DoorTools.parseGuestPin arguments = .ok (.ok args))
    (hcreate : DoorTools.createGuestPin arguments utcNow db = (.guestPin result, db')) :
    ∃ user credential policy assignments,
      user.id = db.newGuid ∧ GuestRows args user credential policy
        ∧ Adds db db' [user] [credential] [policy] assignments
        ∧ Assigns user.id policy.id args.doorIds assignments
        ∧ result.userId = user.id := by
  have hexec : (DoorTools.provisionGuest args utcNow).exec db = (.ok (.guestPin result), db') := by
    unfold DoorTools.createGuestPin DoorTools.runTool DoorTools.createGuestPinAsync at hcreate
    rw [hargs] at hcreate
    dsimp only at hcreate
    rcases hr : (DoorTools.provisionGuest args utcNow).exec db with ⟨e | result', db1⟩
    · rw [hr] at hcreate
      cases hcreate
    · rw [hr] at hcreate
      cases hcreate
      rfl
  obtain ⟨user, credential, policy, assignments, hid, hrows, hadds, hassigns, hresult⟩ :=
    provisionGuest_ok hexec
  cases hresult
  exact ⟨user, credential, policy, assignments, hid, hrows, hadds, hassigns, rfl⟩

/-- After a successful `CreateGuestPinAsync`, the PIN opens each door of the request for the new
guest exactly from the start to the end of the window. -/
theorem guestPin_opens_iff {arguments : Option JsonElement} {utcNow : DateTime}
    {result : GuestPin}
    (hread : ∀ t, (Host.readDateTime t).ticks = t.ticks)
    (hargs : DoorTools.parseGuestPin arguments = .ok (.ok args))
    (hcreate : DoorTools.createGuestPin arguments utcNow db = (.guestPin result, db'))
    (hother : ∀ c ∈ db'.credentials.rows, c.userId ≠ result.userId →
      verifyPin args.pin c = false)
    (keypadEvent : KeypadEventDto) (hpin : keypadEvent.pin = some args.pin)
    (accessPoint : AccessPoint) (hdoor : accessPoint.id ∈ args.doorIds)
    (evaluationTimeUtc : Option DateTime) :
    ∃ guest, UserRepository.getByIdAsync db' result.userId = some guest
      ∧ (((evaluateAsync keypadEvent accessPoint evaluationTimeUtc db').1.isValid = true
            ∧ (evaluateAsync keypadEvent accessPoint evaluationTimeUtc db').1.user = some guest)
        ↔ args.validFrom.toUniversalTime.ticks
              ≤ (evaluationTimeUtc.getD keypadEvent.timestamp).ticks
          ∧ (evaluationTimeUtc.getD keypadEvent.timestamp).ticks
              ≤ args.validUntil.toUniversalTime.ticks) := by
  obtain ⟨user, credential, policy, assignments, hid, hrows, hadds, hassigns, hresult⟩ :=
    createGuestPin_ok hargs hcreate
  rw [hresult] at hother ⊢
  have hnotBlank : isNullOrWhiteSpace (some args.pin) = false := pin_not_blank hargs
  -- No credential of another user opens for the PIN, so that the guest is its first holder.
  have hholder : FirstHolder db' args.pin user :=
    firstHolder_guest hrows hadds (ne_empty_of_not_isNullOrWhiteSpace hnotBlank) hother
  refine ⟨user, UserRepository.getByIdAsync_eq_some_iff.mpr ⟨mem_users_guest hadds, rfl⟩, ?_⟩
  rw [evaluateAsync_isValid_iff, hpin, ← isActiveAt_guestPolicy hrows hread]
  constructor
  · rintro ⟨-, -, -, p, hp, hactive⟩
    rwa [(mem_policiesOf_guest hid hrows hadds hassigns hdoor).mp hp] at hactive
  · intro hactive
    exact ⟨hnotBlank, hholder, hrows.isActive, ofRow policy,
      (mem_policiesOf_guest hid hrows hadds hassigns hdoor).mpr rfl, hactive⟩

end

section
/-- The host of the samples. -/
local instance : Host := Host.sample

/-- The door of the sample. -/
def atticDoor : AccessPoint where
  id := "attic"
  createdAt := { ticks := 0 }
  updatedAt := { ticks := 0 }

/-- A store with one door, and nobody who may open it. -/
def attic : Db where
  accessPoints := .ofList [atticDoor] (by decide)

/-- The arguments of the sample are complete. -/
theorem parseGuestPin_atticGuest : DoorTools.parseGuestPin (some atticGuest) = .ok (.ok
    { name := "Visitor", pin := "1234", validFrom := { ticks := 639028224000000000 }
      validUntil := { ticks := 639029088000000000 }, doorIds := ["attic"] }) := rfl

/-- The guest of the attic enters the PIN at the first instant of the window. -/
theorem guestPin_opens_iff_attic :
    ∃ result guest, (DoorTools.createGuestPin (some atticGuest) { ticks := 0 } attic).1
        = .guestPin result
      ∧ UserRepository.getByIdAsync
          (DoorTools.createGuestPin (some atticGuest) { ticks := 0 } attic).2 result.userId
        = some guest
      ∧ (((evaluateAsync { pin := some "1234", timestamp := ⟨639028224000000000, .utc⟩ } atticDoor
            none (DoorTools.createGuestPin (some atticGuest) { ticks := 0 } attic).2).1.isValid
              = true
          ∧ (evaluateAsync { pin := some "1234", timestamp := ⟨639028224000000000, .utc⟩ } atticDoor
            none (DoorTools.createGuestPin (some atticGuest) { ticks := 0 } attic).2).1.user
              = some guest)
        ↔ (639028224000000000 : Int) ≤ 639028224000000000
          ∧ (639028224000000000 : Int) ≤ 639029088000000000) := by
  obtain ⟨result, hresult⟩ : ∃ result,
      (DoorTools.createGuestPin (some atticGuest) { ticks := 0 } attic).1 = .guestPin result :=
    ⟨_, rfl⟩
  have hcreate : DoorTools.createGuestPin (some atticGuest) { ticks := 0 } attic
      = (.guestPin result, (DoorTools.createGuestPin (some atticGuest) { ticks := 0 } attic).2) :=
    Prod.ext hresult rfl
  -- The guest's own credential is the only one.
  have hother : ∀ c ∈ (DoorTools.createGuestPin (some atticGuest)
      { ticks := 0 } attic).2.credentials.rows, c.userId ≠ result.userId →
        verifyPin "1234" c = false := by
    obtain ⟨user, credential, _, _, -, hrows, hadds, -, hid⟩ :=
      createGuestPin_ok parseGuestPin_atticGuest hcreate
    intro c hc hne
    rw [hadds.credentials] at hc
    rw [List.mem_singleton.mp hc, hid] at hne
    exact absurd hrows.owner hne
  obtain ⟨guest, hguest, hopens⟩ := guestPin_opens_iff (fun _ => rfl) parseGuestPin_atticGuest
    hcreate hother { pin := some "1234", timestamp := ⟨639028224000000000, .utc⟩ } rfl atticDoor
    List.mem_cons_self none
  exact ⟨result, guest, hresult, hguest, hopens⟩

end

end CodeMaster.Proofs.GuestWindow
