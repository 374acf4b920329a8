import CodeMaster.Proofs.Engine.Evaluate

/-!
# `CodeMaster.Proofs.Engine.DoorScoping`: is a grant backed by an assignment at the door?

A grant is backed when one row of `AccessAssignments` joins the door, the policy and the user
or the user's group. The evaluator reads the policies of the user and those of the door with
two queries and intersects them by id, and it falls back to one of the lists when the
intersection is empty. `ScopedAt` is the condition on the stored rows under which the policy
that it picks is backed, and `evaluateAsync_backed_iff` shows that it is exact.

The proof follows the evaluation. A grant comes from a user, who is the first holder of the PIN, and
from the first active policy among the policies of the evaluation. These are the intersection of the
two lists, if it is not empty, and otherwise one of the lists. So a policy among them is backed
exactly when it is assigned at the door, and this is decided by the stored rows and by whether the
intersection is empty.

Everything is about one evaluation over any database. What an evaluation writes does not matter
here, because the decision is made before the write.
-/

set_option autoImplicit false

namespace CodeMaster.Proofs.Engine.DoorScoping

open CodeMaster.Core Data CodeMaster.Engine AccessPolicyEvaluator AccessPolicyRepository Evaluate

/-- One assignment joins the door, the policy, and the user or the user's group. -/
def Backed (db : Db) (accessPointId : String) (u : User) (policyId : String) : Prop :=
  ∃ a ∈ db.accessAssignments.rows,
    a.accessPointId = accessPointId ∧ a.policyId = policyId ∧ IsFor a u

/-- The policy is assigned at the door, to whomever. -/
def assignedAt (db : Db) (accessPointId : String) (p : AccessPolicy) : Bool :=
  db.accessAssignments.rows.any fun a => a.accessPointId = accessPointId ∧ a.policyId = p.id

/-- A policy is assigned at the door when some assignment says so. -/
theorem assignedAt_iff {db : Db} {accessPointId : String} {p : AccessPolicy} :
    assignedAt db accessPointId p = true
      ↔ ∃ a ∈ db.accessAssignments.rows, a.accessPointId = accessPointId ∧ a.policyId = p.id := by
  simp [assignedAt]

/-- A policy that backs a user at the door is assigned at the door. -/
theorem Backed.assignedAt {db : Db} {accessPointId : String} {u : User} {p : AccessPolicy}
    (h : Backed db accessPointId u p.id) : assignedAt db accessPointId p = true := by
  obtain ⟨a, ha, hdoor, hpolicy, -⟩ := h
  exact assignedAt_iff.mpr ⟨a, ha, hdoor, hpolicy⟩

section
variable [Host] {db : Db} {accessPointId : String} {u : User}

/-- The user's policies that are assigned at the door, in the order of the query. -/
def policiesAssignedAt (db : Db) (accessPointId : String) (u : User) : List AccessPolicy :=
  (getByUserIdAsync db u.id).filter (assignedAt db accessPointId)

/-- The policies that the evaluator falls back to: those of the user, or those of the door
when the user has none. -/
def fallbackPolicies (db : Db) (accessPointId : String) (u : User) : List AccessPolicy :=
  if getByUserIdAsync db u.id ≠ [] then getByUserIdAsync db u.id
  else getByAccessPointIdAsync db accessPointId

/-- The stored rows keep the user's grants at the door scoped at the time `t`. Where no policy
of the user is assigned at the door, no policy of the fallback is active. Otherwise an active
policy without an assignment that joins the door and the user comes after an active policy
with one. -/
structure ScopedAt (db : Db) (accessPointId : String) (u : User) (t : DateTime) : Prop where
  fallback : policiesAssignedAt db accessPointId u = [] →
    ∀ p ∈ fallbackPolicies db accessPointId u, p.isActiveAt t = false
  order : ∀ before p after, policiesAssignedAt db accessPointId u = before ++ p :: after →
    p.isActiveAt t = true → ¬ Backed db accessPointId u p.id →
      ∃ q ∈ before, q.isActiveAt t = true ∧ Backed db accessPointId u q.id

/-- The intersection by id is the set of the user's policies that are assigned at the door. -/
theorem sharedPolicies_eq (hu : u ∈ db.users.rows) :
    sharedPolicies (getByUserIdAsync db u.id) (getByAccessPointIdAsync db accessPointId)
      = policiesAssignedAt db accessPointId u := by
  refine List.filter_congr fun p hp => ?_
  obtain ⟨row, hrow, rfl, -⟩ := (mem_getByUserIdAsync hu).mp hp
  rw [Bool.eq_iff_iff, List.any_eq_true, assignedAt_iff]
  constructor
  · rintro ⟨dp, hdp, hid⟩
    -- The door's policy may be another row of the query, but it has the same id.
    obtain ⟨row', hrow', rfl, a, ha, hpolicy, hdoor⟩ := mem_getByAccessPointIdAsync.mp hdp
    exact ⟨a, ha, hdoor, hpolicy.trans (of_decide_eq_true hid)⟩
  · rintro ⟨a, ha, hdoor, hpolicy⟩
    exact ⟨ofRow row, mem_getByAccessPointIdAsync.mpr ⟨row, hrow, rfl, a, ha, hpolicy, hdoor⟩,
      by simp⟩

/-- The evaluator decides on the assigned policies, or on the fallback when there are none. -/
theorem policiesOf_eq (hu : u ∈ db.users.rows) :
    policiesOf db accessPointId u
      = if policiesAssignedAt db accessPointId u ≠ [] then policiesAssignedAt db accessPointId u
        else fallbackPolicies db accessPointId u := by
  rw [policiesOf, policiesAt_eq, sharedPolicies_eq hu]
  rfl

/-- A policy of the user that is backed at the door is among the assigned ones, so no policy
of the fallback is backed. -/
theorem not_backed_of_fallback (hu : u ∈ db.users.rows)
    (hnone : policiesAssignedAt db accessPointId u = []) {p : AccessPolicy}
    (hp : p ∈ fallbackPolicies db accessPointId u) : ¬ Backed db accessPointId u p.id := by
  intro hbacked
  have hmem : ∀ p ∈ getByUserIdAsync db u.id, ¬ Backed db accessPointId u p.id := by
    intro p hp hbacked
    have hassigned : p ∈ policiesAssignedAt db accessPointId u :=
      List.mem_filter.mpr ⟨hp, hbacked.assignedAt⟩
    rw [hnone] at hassigned
    cases hassigned
  unfold fallbackPolicies at hp
  split at hp
  · exact hmem p hp hbacked
  · rename_i hempty
    -- The door's policy is backed, so it is also one of the user's policies.
    obtain ⟨row, hrow, rfl, -⟩ := mem_getByAccessPointIdAsync.mp hp
    obtain ⟨a, ha, -, hpolicy, hfor⟩ := hbacked
    have huser : ofRow row ∈ getByUserIdAsync db u.id :=
      (mem_getByUserIdAsync hu).mpr ⟨row, hrow, rfl, a, ha, hpolicy, hfor⟩
    exact hempty (List.ne_nil_of_mem huser)

/-- The first active policy is backed exactly when the stored rows are scoped. -/
theorem find_backed_iff (hu : u ∈ db.users.rows) (t : DateTime) :
    (∀ p, (policiesOf db accessPointId u).find? (isActive t) = some p →
        Backed db accessPointId u p.id)
      ↔ ScopedAt db accessPointId u t := by
  rw [policiesOf_eq hu]
  by_cases hnone : policiesAssignedAt db accessPointId u = []
  · rw [if_neg (not_not_intro hnone)]
    constructor
    · intro h
      refine ⟨fun _ p hp => ?_, fun before p after heq => ?_⟩
      · rw [Bool.eq_false_iff]
        -- An active policy of the fallback would be granted, and none of them is backed.
        intro hactive
        obtain ⟨q, hq⟩ := Option.isSome_iff_exists.mp
          (List.find?_isSome.mpr ⟨p, hp, isActive_eq_true_iff.mpr hactive⟩)
        exact not_backed_of_fallback hu hnone (List.mem_of_find?_eq_some hq) (h q hq)
      · rw [hnone] at heq
        exact absurd heq (by simp)
    · intro h p hp
      have hactive := isActive_eq_true_iff.mp (List.find?_some hp)
      rw [h.fallback hnone p (List.mem_of_find?_eq_some hp)] at hactive
      cases hactive
  · rw [if_pos hnone]
    constructor
    · intro h
      refine ⟨fun hempty => absurd hempty hnone, fun before p after heq hactive hnot => ?_⟩
      -- The first active policy is backed. It is not `p`, so it comes before `p`.
      obtain ⟨q, hq⟩ := Option.isSome_iff_exists.mp (List.find?_isSome.mpr
        ⟨p, heq ▸ List.mem_append_right _ List.mem_cons_self, isActive_eq_true_iff.mpr hactive⟩)
      have hbacked := h q hq
      have hqactive := isActive_eq_true_iff.mp (List.find?_some hq)
      rw [heq, List.find?_append] at hq
      cases hbefore : before.find? (isActive t) with
      | some q' =>
        rw [hbefore] at hq
        cases hq
        exact ⟨q, List.mem_of_find?_eq_some hbefore, hqactive, hbacked⟩
      | none =>
        rw [hbefore, Option.none_or,
          List.find?_cons_of_pos (isActive_eq_true_iff.mpr hactive)] at hq
        cases hq
        exact absurd hbacked hnot
    · intro h p hp
      obtain ⟨hactive, before, after, heq, hbefore⟩ := List.find?_eq_some_iff_append.mp hp
      -- Else an active policy would come before the first active one.
      by_contra hnot
      obtain ⟨q, hq, hqactive, -⟩ :=
        h.order before p after heq (isActive_eq_true_iff.mp hactive) hnot
      have hq' := hbefore q hq
      rw [isActive_eq_true_iff.mpr hqactive] at hq'
      cases hq'

/-- Every grant of `EvaluateAsync` is backed by one assignment that joins the door, the policy
and the user, if and only if the stored rows are scoped for the active first holder of the
entered PIN. -/
theorem evaluateAsync_backed_iff (keypadEvent : KeypadEventDto) (accessPoint : AccessPoint)
    (evaluationTimeUtc : Option DateTime) (db : Db) :
    (∀ u q, Grants (evaluateAsync keypadEvent accessPoint evaluationTimeUtc db).1 u q →
        Backed db accessPoint.id u q.id)
      ↔ ∀ u, isNullOrWhiteSpace keypadEvent.pin = false →
          FirstHolder db (keypadEvent.pin.getD "") u → u.isActive = true →
          ScopedAt db accessPoint.id u (evaluationTimeUtc.getD keypadEvent.timestamp) := by
  constructor
  · intro h u hpin hholder hactive
    refine (find_backed_iff hholder.mem _).mp fun p hp => ?_
    have hgrant := h u (spent p) (evaluateAsync_grants_iff.mpr
      ⟨hpin, hholder, hactive, p, hp, rfl⟩)
    rwa [spent_id] at hgrant
  · intro h u q hgrant
    obtain ⟨hpin, hholder, hactive, p, hp, rfl⟩ := evaluateAsync_grants_iff.mp hgrant
    rw [spent_id]
    exact (find_backed_iff hholder.mem _).mpr (h u hpin hholder hactive) p hp

end

/-! ### A grant at a door without an assignment -/

section
/-- The host of the samples. -/
local instance : Host := Host.sample

/-- The guest's PIN, entered at the side door. -/
theorem side_door_opens :
    ¬ ∀ (db : Db) (keypadEvent : KeypadEventDto) (accessPoint : AccessPoint)
        (evaluationTimeUtc : Option DateTime) (u : User) (q : AccessPolicy),
      Grants (evaluateAsync keypadEvent accessPoint evaluationTimeUtc db).1 u q →
        Backed db accessPoint.id u q.id := by
  intro h
  obtain ⟨a, ha, hdoor, -⟩ := h frontDoorOnly { pin := some "1234", timestamp := ⟨0, .utc⟩ }
    sideDoor none guest { id := "always" } ⟨by decide, by decide, by decide⟩
  cases List.mem_singleton.mp ha
  exact absurd hdoor (by decide)

end

end CodeMaster.Proofs.Engine.DoorScoping
