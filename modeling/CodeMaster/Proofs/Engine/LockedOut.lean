import CodeMaster.Proofs.Engine.DoorScoping

/-!
# `CodeMaster.Proofs.Engine.LockedOut`: can someone else's record lock a user out?

The search by PIN stops at the first user, in the order of names, with a credential that
accepts the PIN, and only then looks at that user's activity and policies. So an entitled user
is let in if and only if that first holder is the user, or is active and has an active policy
at the door, too (`entitled_isValid_iff`): only another user's records can lock an entitled
user out.

Users who have the same PIN are possible, because nothing checks a new PIN against the others. The
order of the names decides then, and for equal names the order in which the database gives the rows.

The proof takes the evaluation apart at the first holder. When it is the user, the evaluation is
about the user's own rows. When it is someone else, it is about this user's rows, and the entitled
user is let in, under the wrong name, when this one would be.
-/

set_option autoImplicit false

namespace CodeMaster.Proofs.Engine.LockedOut

open CodeMaster.Core Data CodeMaster.Engine AccessPolicyEvaluator AccessPolicyRepository
open Evaluate DoorScoping

section
variable [Host]

/-- The user is active, holds a credential that accepts the PIN, and has an assignment at the
door, in person or through the group, to an enabled policy that is active at the time. -/
structure Entitled (db : Db) (accessPointId pin : String) (t : DateTime) (u : User) : Prop where
  stored : u ∈ db.users.rows
  isActive : u.isActive = true
  holds : ∃ c ∈ db.credentials.rows, c.userId = u.id ∧ verifyPin pin c = true
  policy : ∃ a ∈ db.accessAssignments.rows, a.accessPointId = accessPointId ∧ IsFor a u
    ∧ ∃ row ∈ db.accessPolicies.rows, row.id = a.policyId ∧ (ofRow row).isEnabled = true
      ∧ (ofRow row).isActiveAt t = true

/-- A policy of the user that is assigned at the door is active. When none of them is assigned
there, the policies of the fallback count. -/
def Opens (db : Db) (accessPointId : String) (u : User) (t : DateTime) : Prop :=
  if policiesAssignedAt db accessPointId u ≠ [] then
    ∃ p ∈ policiesAssignedAt db accessPointId u, p.isActiveAt t = true
  else ∃ p ∈ fallbackPolicies db accessPointId u, p.isActiveAt t = true

variable {db : Db} {accessPointId pin : String} {t : DateTime} {u v : User}

/-- An entitled user has an active policy at the door. -/
theorem Entitled.opens (h : Entitled db accessPointId pin t u) : Opens db accessPointId u t := by
  obtain ⟨a, ha, hdoor, hfor, row, hrow, hid, -, hactive⟩ := h.policy
  have hown : ofRow row ∈ getByUserIdAsync db u.id :=
    (mem_getByUserIdAsync h.stored).mpr ⟨row, hrow, rfl, a, ha, hid.symm, hfor⟩
  have hassigned : ofRow row ∈ policiesAssignedAt db accessPointId u :=
    List.mem_filter.mpr ⟨hown, assignedAt_iff.mpr ⟨a, ha, hdoor, hid.symm⟩⟩
  rw [Opens, if_pos (List.ne_nil_of_mem hassigned)]
  exact ⟨ofRow row, hassigned, hactive⟩

/-- A door opens for a user when one of the user's policies at the door is active. -/
theorem opens_iff (hv : v ∈ db.users.rows) :
    Opens db accessPointId v t ↔ ∃ p ∈ policiesOf db accessPointId v, p.isActiveAt t = true := by
  rw [policiesOf_eq hv, Opens]
  split <;> rfl

/-- Some user is the first holder of a PIN that a stored user holds. -/
theorem exists_firstHolder (hu : u ∈ db.users.rows)
    (hholds : ∃ c ∈ db.credentials.rows, c.userId = u.id ∧ verifyPin pin c = true) :
    ∃ v, FirstHolder db pin v := by
  obtain ⟨c, hc, howner, hverify⟩ := hholds
  have hown : ((CredentialRepository.getByUserIdAsync db u.id).find? fun cred =>
      verifyPin pin cred).isSome = true :=
    List.find?_isSome.mpr
      ⟨c, CredentialRepository.mem_getByUserIdAsync.mpr ⟨hc, howner⟩, hverify⟩
  have hsome : (matchCredential db pin).isSome = true := by
    refine List.findSome?_isSome_iff.mpr ⟨u, UserRepository.mem_getAllAsync.mpr hu, ?_⟩
    rw [Option.isSome_map]
    exact hown
  obtain ⟨⟨v, c'⟩, hmatch⟩ := Option.isSome_iff_exists.mp hsome
  exact ⟨v, exists_matchCredential_iff.mp ⟨c', hmatch⟩⟩

/-- There is one first holder. -/
theorem firstHolder_unique {w : User} (hv : FirstHolder db pin v) (hw : FirstHolder db pin w) :
    v = w := by
  obtain ⟨c, hc⟩ := exists_matchCredential_iff.mpr hv
  obtain ⟨c', hc'⟩ := exists_matchCredential_iff.mpr hw
  rw [hc] at hc'
  cases hc'
  rfl

/-- The answer is about the first holder. -/
theorem isValid_iff_of_firstHolder {keypadEvent : KeypadEventDto} {accessPoint : AccessPoint}
    {evaluationTimeUtc : Option DateTime} (hpin : isNullOrWhiteSpace keypadEvent.pin = false)
    (hv : FirstHolder db (keypadEvent.pin.getD "") v) :
    (evaluateAsync keypadEvent accessPoint evaluationTimeUtc db).1.isValid = true
      ↔ v.isActive = true
          ∧ Opens db accessPoint.id v (evaluationTimeUtc.getD keypadEvent.timestamp) := by
  rw [opens_iff hv.mem]
  constructor
  · intro h
    obtain ⟨w, p, hdecides⟩ := exists_decides_of_isValid h
    cases firstHolder_unique hv hdecides.holder
    refine ⟨hdecides.active, p, List.mem_of_find?_eq_some hdecides.find, ?_⟩
    exact isActive_eq_true_iff.mp (List.find?_some hdecides.find)
  · rintro ⟨hactive, hpolicy⟩
    exact (evaluateAsync_isValid_iff.mpr ⟨hpin, hv, hactive, hpolicy⟩).1

/-- An entitled user's PIN opens if and only if the user is the first holder of the PIN, in the
order of names, or the first holder is active and has an active policy at the door. -/
theorem entitled_isValid_iff (keypadEvent : KeypadEventDto) (accessPoint : AccessPoint)
    (evaluationTimeUtc : Option DateTime) (hpin : isNullOrWhiteSpace keypadEvent.pin = false)
    (hu : Entitled db accessPoint.id (keypadEvent.pin.getD "")
      (evaluationTimeUtc.getD keypadEvent.timestamp) u) :
    (evaluateAsync keypadEvent accessPoint evaluationTimeUtc db).1.isValid = true
      ↔ ∀ v, FirstHolder db (keypadEvent.pin.getD "") v →
          v = u ∨ (v.isActive = true
            ∧ Opens db accessPoint.id v (evaluationTimeUtc.getD keypadEvent.timestamp)) := by
  obtain ⟨v, hv⟩ := exists_firstHolder hu.stored hu.holds
  rw [isValid_iff_of_firstHolder hpin hv]
  constructor
  · intro h w hw
    rw [← firstHolder_unique hv hw]
    exact Or.inr h
  · intro h
    rcases h v hv with rfl | hopens
    · exact ⟨hu.isActive, hu.opens⟩
    · exact hopens

end

/-! ### Two users with one PIN -/

section
/-- The host of the samples. -/
local instance : Host := Host.sample

/-- A tenant who has moved out: inactive, with the PIN 1234. -/
def formerTenant : User where
  id := "former"
  name := "Ada"
  isActive := false
  createdAt := { ticks := 0 }
  updatedAt := { ticks := 0 }

/-- The user of the sample. -/
def tenant : User where
  id := "tenant"
  name := "Ben"
  createdAt := { ticks := 0 }
  updatedAt := { ticks := 0 }

/-- Both hold the PIN 1234, and the policy of the second one is assigned at the front door. -/
def sharedPin : Db where
  users := .ofList [formerTenant, tenant] (by decide)
  credentials := .ofList [
    { guestPin with id := "formerPin", userId := "former" },
    { guestPin with id := "tenantPin", userId := "tenant" }] (by decide)
  accessPoints := .ofList [frontDoor] (by decide)
  accessPolicies := .ofList [{ id := "home" }] (by decide)
  accessAssignments := .ofList [
    { id := "b", accessPointId := "front", userId := some "tenant", policyId := "home" }]
    (by decide)

/-- The tenant is entitled to open the door with the shared PIN. -/
theorem entitled_tenant : Entitled sharedPin "front" "1234" { ticks := 0 } tenant where
  stored := List.mem_cons_of_mem _ List.mem_cons_self
  isActive := rfl
  holds := ⟨_, List.mem_cons_of_mem _ List.mem_cons_self, rfl, by decide⟩
  policy := ⟨_, List.mem_cons_self, rfl, Or.inl rfl, _, List.mem_cons_self, rfl, rfl, by decide⟩

/-- The guest of the front door is the first and only holder of the PIN. -/
theorem entitled_isValid_frontDoor :
    (evaluateAsync { pin := some "1234", timestamp := { ticks := 0 } } frontDoor none
      frontDoorOnly).1.isValid = true := by
  have hguest : Entitled frontDoorOnly "front" "1234" { ticks := 0 } guest :=
    ⟨List.mem_cons_self, rfl, ⟨guestPin, List.mem_cons_self, rfl, by decide⟩,
      ⟨_, List.mem_cons_self, rfl, Or.inl rfl, _, List.mem_cons_self, rfl, rfl, by decide⟩⟩
  refine (entitled_isValid_iff { pin := some "1234", timestamp := { ticks := 0 } } frontDoor none
    (by decide) hguest).mpr ?_
  intro v hv
  exact Or.inl (List.mem_singleton.mp hv.mem)

/-- The tenant who has moved out comes first by name, and locks the other one out. -/
theorem former_tenant_locks_out :
    ¬ ∀ (db : Db) (keypadEvent : KeypadEventDto) (accessPoint : AccessPoint)
        (evaluationTimeUtc : Option DateTime) (u : User),
      isNullOrWhiteSpace keypadEvent.pin = false →
        Entitled db accessPoint.id (keypadEvent.pin.getD "")
          (evaluationTimeUtc.getD keypadEvent.timestamp) u →
        (evaluateAsync keypadEvent accessPoint evaluationTimeUtc db).1.isValid = true := by
  intro h
  have hvalid := h sharedPin { pin := some "1234", timestamp := { ticks := 0 } } frontDoor none
    tenant (by decide) entitled_tenant
  exact absurd hvalid (by decide)

end

end CodeMaster.Proofs.Engine.LockedOut
