import CodeMaster.Web.UsersController
import CodeMaster.Proofs.Engine.Evaluate

/-!
# `CodeMaster.Proofs.Web.SavePolicy`: does a saved schedule take effect?

`SavePolicy` answers with the policy it was given. A following `GetPolicies` shows a policy of
that value only when the save updated a stored policy that is assigned to the user, and when
the stored text of its times keeps their values. `TakesEffect` is that condition, and
`savedPolicy_listed_iff` shows that it is exact.

The condition has three parts, each of which is needed. The policy must have the id of a stored row,
because an insert of `SavePolicy` makes no assignment. This row must be assigned to the user,
because the update takes no notice of whose policy it writes. And the times must survive the
columns: times of day are stored in whole seconds, and instants as texts, which are read back as
local times.

A body that leaves the id out is given a new one before the action looks at it, so that the update
finds no row. Only a body with a blank id takes the branch of the insert.
-/

set_option autoImplicit false

namespace CodeMaster.Proofs.Web.SavePolicy

open CodeMaster.Core Data CodeMaster.Web UsersController Exec AccessPolicyRepository
open CodeMaster.Proofs.Engine.Evaluate (guest frontDoorOnly)

/-- Equal policies, field by field. `DateTime` values are equal when their ticks are. -/
structure SameValue (p q : AccessPolicy) : Prop where
  id : p.id = q.id
  name : p.name = q.name
  scheduleType : p.scheduleType = q.scheduleType
  daysOfWeek : p.daysOfWeek = q.daysOfWeek
  startTime : p.startTime = q.startTime
  endTime : p.endTime = q.endTime
  validFrom : p.validFrom.map DateTime.ticks = q.validFrom.map DateTime.ticks
  validUntil : p.validUntil.map DateTime.ticks = q.validUntil.map DateTime.ticks
  remainingUses : p.remainingUses = q.remainingUses
  isEnabled : p.isEnabled = q.isEnabled

/-! ### What the database keeps of a policy -/

/-- A bound of a window survives the database when it is a whole second. -/
theorem map_toSeconds_eq_iff (time : Option TimeOnly) :
    time.map TimeOnly.toSeconds = time ↔ ∀ t, time = some t → t.IsWholeSecond := by
  cases time with
  | none => simp
  | some t => simp [TimeOnly.toSeconds_eq_self_iff]

section
variable [Host] {db : Db} {u : User}

/-- The database keeps the value: the times of day are whole seconds, and the bounds come back
at the ticks at which they were written. -/
structure Storable (p : AccessPolicy) : Prop where
  startTime : ∀ t, p.startTime = some t → t.IsWholeSecond
  endTime : ∀ t, p.endTime = some t → t.IsWholeSecond
  validFrom : ∀ t, p.validFrom = some t → (Host.readDateTime t).ticks = t.ticks
  validUntil : ∀ t, p.validUntil = some t → (Host.readDateTime t).ticks = t.ticks

/-- A bound of a policy survives the database when it is read back as the instant that was
stored. -/
theorem map_readDateTime_ticks_iff (time : Option DateTime) :
    (time.map Host.readDateTime).map DateTime.ticks = time.map DateTime.ticks
      ↔ ∀ t, time = some t → (Host.readDateTime t).ticks = t.ticks := by
  cases time with
  | none => simp
  | some t => simp

/-- Writing and reading back keeps the value of exactly the storable policies. -/
theorem sameValue_ofRow_toRow_iff (p : AccessPolicy) :
    SameValue (ofRow (toRow p)) p ↔ Storable p := by
  constructor
  · intro h
    exact ⟨(map_toSeconds_eq_iff _).mp h.startTime, (map_toSeconds_eq_iff _).mp h.endTime,
      (map_readDateTime_ticks_iff _).mp h.validFrom,
      (map_readDateTime_ticks_iff _).mp h.validUntil⟩
  · intro h
    exact ⟨rfl, rfl, rfl, rfl, (map_toSeconds_eq_iff _).mpr h.startTime,
      (map_toSeconds_eq_iff _).mpr h.endTime, (map_readDateTime_ticks_iff _).mpr h.validFrom,
      (map_readDateTime_ticks_iff _).mpr h.validUntil, rfl, rfl⟩

/-! ### The two branches of `SavePolicy` -/

/-- A blank id: the policy is inserted under a new id, and no assignment changes. -/
theorem exec_savePolicy_of_blank (hu : u ∈ db.users.rows) {p : AccessPolicy}
    (hp : isNullOrWhiteSpace (some p.id) = true) :
    ∃ accessPolicies, (savePolicy u.id p).exec db
      = (.ok (.ok { p with id := db.newGuid }), { db with accessPolicies }) := by
  have hget : UserRepository.getByIdAsync db u.id = some u :=
    UserRepository.getByIdAsync_eq_some_iff.mpr ⟨hu, rfl⟩
  obtain ⟨accessPolicies, hinsert⟩ : ∃ t,
      db.accessPolicies.insert? (toRow { p with id := db.newGuid }) = some t :=
    Relational.Table.exists_insert? db.newGuid_notMem_accessPolicies
  refine ⟨accessPolicies, ?_⟩
  simp [savePolicy, hget, hp, exec_statement, insertAsync, hinsert]

/-- Another id: the row with that id is updated, if there is one. -/
theorem exec_savePolicy_of_not_blank (hu : u ∈ db.users.rows) {p : AccessPolicy}
    (hp : isNullOrWhiteSpace (some p.id) = false) :
    (savePolicy u.id p).exec db = (.ok (.ok p), updateAsync p db) := by
  have hget : UserRepository.getByIdAsync db u.id = some u :=
    UserRepository.getByIdAsync_eq_some_iff.mpr ⟨hu, rfl⟩
  simp [savePolicy, hget, hp]

/-- `GetPolicies` shows a policy of the given value. -/
def Listed (db : Db) (u : User) (q : AccessPolicy) : Prop :=
  ∃ ps, (getPolicies u.id).exec db = (.ok (.ok ps), db) ∧ ∃ p ∈ ps, SameValue p q

/-- A policy is listed when a row with its values is assigned to the user. -/
theorem listed_iff (hu : u ∈ db.users.rows) {q : AccessPolicy} :
    Listed db u q
      ↔ ∃ row ∈ db.accessPolicies.rows, SameValue (ofRow row) q
          ∧ ∃ a ∈ db.accessAssignments.rows, a.policyId = q.id ∧ IsFor a u := by
  constructor
  · rintro ⟨ps, hps, p, hp, hsame⟩
    cases hps
    obtain ⟨row, hrow, rfl, a, ha, hpolicy, hfor⟩ := (mem_getByUserIdAsync hu).mp hp
    exact ⟨row, hrow, hsame, a, ha, hpolicy.trans hsame.id, hfor⟩
  · rintro ⟨row, hrow, hsame, a, ha, hpolicy, hfor⟩
    have hmem : ofRow row ∈ getByUserIdAsync db u.id := (mem_getByUserIdAsync hu).mpr
      ⟨row, hrow, rfl, a, ha, hpolicy.trans hsame.id.symm, hfor⟩
    exact ⟨getByUserIdAsync db u.id, rfl, ofRow row, hmem, hsame⟩

/-- The save updates a stored policy that is assigned to the user or to the user's group, and
the database keeps its value. -/
structure TakesEffect (db : Db) (u : User) (p : AccessPolicy) : Prop where
  stored : p.id ∈ db.accessPolicies.keys
  assigned : ∃ a ∈ db.accessAssignments.rows, a.policyId = p.id ∧ IsFor a u
  storable : Storable p

/-- After an update the policy is listed exactly when the update takes effect. -/
theorem listed_updateAsync_iff (hu : u ∈ db.users.rows) (p : AccessPolicy) :
    Listed (updateAsync p db) u p ↔ TakesEffect db u p := by
  have husers : u ∈ (updateAsync p db).users.rows := hu
  rw [listed_iff husers]
  constructor
  · rintro ⟨row', hrow', hsame, hassigned⟩
    obtain ⟨row, hrow, rfl⟩ := mem_updateAsync.mp hrow'
    -- Another row keeps its id, so it is not the policy.
    have hid : row.id = p.id := by
      by_contra hne
      rw [if_neg hne] at hsame
      exact hne hsame.id
    rw [if_pos hid, show ({ toRow p with id := row.id } : AccessPolicy) = toRow p by rw [hid]; rfl]
      at hsame
    exact ⟨Relational.Table.mem_keys.mpr ⟨row, hrow, hid⟩, hassigned,
      (sameValue_ofRow_toRow_iff p).mp hsame⟩
  · intro h
    obtain ⟨row, hrow, hid⟩ := Relational.Table.mem_keys.mp h.stored
    refine ⟨toRow p, mem_updateAsync.mpr ⟨row, hrow, ?_⟩,
      (sameValue_ofRow_toRow_iff p).mpr h.storable, h.assigned⟩
    rw [if_pos hid, hid]
    rfl

/-- A policy under a new id is not listed: no assignment refers to it. -/
theorem not_listed_of_newGuid (hu : u ∈ db.users.rows)
    {accessPolicies : Relational.Table AccessPolicy.id} {q : AccessPolicy}
    (hq : q.id = db.newGuid) : ¬ Listed { db with accessPolicies } u q := by
  have husers : u ∈ ({ db with accessPolicies } : Db).users.rows := hu
  rw [listed_iff husers]
  rintro ⟨-, -, -, a, ha, hpolicy, -⟩
  exact db.newGuid_ne_policyId ha (hpolicy.trans hq)

/-- The saved policy is listed if and only if its id is not blank and the save takes effect. -/
theorem listed_savePolicy_iff (hu : u ∈ db.users.rows) (p : AccessPolicy) :
    (∀ q db', (savePolicy u.id p).exec db = (.ok (.ok q), db') → Listed db' u q)
      ↔ isNullOrWhiteSpace (some p.id) = false ∧ TakesEffect db u p := by
  cases hblank : isNullOrWhiteSpace (some p.id) with
  | true =>
    -- The policy is inserted under a new id, which no assignment names.
    obtain ⟨accessPolicies, hexec⟩ := exec_savePolicy_of_blank hu hblank
    rw [hexec]
    refine iff_of_false (fun h => ?_) (by simp)
    exact not_listed_of_newGuid hu rfl (h _ _ rfl)
  | false =>
    rw [exec_savePolicy_of_not_blank hu hblank]
    constructor
    · intro h
      exact ⟨rfl, (listed_updateAsync_iff hu p).mp (h _ _ rfl)⟩
    · rintro ⟨-, htakes⟩ q db' heq
      cases heq
      exact (listed_updateAsync_iff hu p).mpr htakes

/-- For a stored user: a policy that `POST {id}/policies` answers with is listed by a following
`GetPolicies` if and only if the JSON has a non-blank id and the save under that id takes
effect. -/
theorem savedPolicy_listed_iff (db : Db) (u : User) (body : PolicyBody)
    (hu : u ∈ db.users.rows) :
    (∀ q db', (postPolicy u.id body).exec db = (.ok (.ok q), db') → Listed db' u q)
      ↔ ∃ id, body.id = some id ∧ isNullOrWhiteSpace (some id) = false
          ∧ TakesEffect db u (body.toPolicy id) := by
  have hpost : (postPolicy u.id body).exec db
      = (savePolicy u.id (body.toPolicy db.newGuid)).exec db := by
    simp only [postPolicy, exec_bind, exec_query]
  rw [hpost, listed_savePolicy_iff hu]
  cases hid : body.id with
  | none =>
    -- The initializer's id is new, so no stored policy has it.
    have hnew : (body.toPolicy db.newGuid).id = db.newGuid := by
      rw [PolicyBody.toPolicy, hid]
      rfl
    refine iff_of_false (fun h => ?_) (by simp)
    exact db.newGuid_notMem_accessPolicies (hnew ▸ h.2.stored)
  | some id =>
    have hgiven : body.toPolicy db.newGuid = body.toPolicy id := by
      rw [PolicyBody.toPolicy, PolicyBody.toPolicy, hid]
      rfl
    have hpid : (body.toPolicy id).id = id := by
      rw [PolicyBody.toPolicy, hid]
      rfl
    rw [hgiven, hpid]
    constructor
    · intro h
      exact ⟨id, rfl, h⟩
    · rintro ⟨id', hid', h⟩
      cases hid'
      exact h

end

section
/-- The host of the samples. -/
local instance : Host := Host.sample

/-- The guest's policy, saved under its id. -/
theorem savedPolicy_listed_iff_always :
    (∀ q db', (postPolicy "guest" { id := some "always", name := some "Evenings" }).exec
        frontDoorOnly = (.ok (.ok q), db') → Listed db' guest q)
      ↔ ∃ id, some "always" = some id ∧ isNullOrWhiteSpace (some id) = false
          ∧ TakesEffect frontDoorOnly guest
            (PolicyBody.toPolicy { id := some "always", name := some "Evenings" } id) :=
  savedPolicy_listed_iff frontDoorOnly guest { id := some "always", name := some "Evenings" }
    (by decide)

/-- A new schedule without an id is answered with OK and never listed. -/
theorem new_policy_is_not_listed :
    ¬ ∀ (db : Db) (u : User) (body : PolicyBody) (q : AccessPolicy) (db' : Db),
      u ∈ db.users.rows → (postPolicy u.id body).exec db = (.ok (.ok q), db') →
        Listed db' u q := by
  intro h
  have hguest : guest ∈ frontDoorOnly.users.rows := by decide
  exact not_listed_of_newGuid hguest rfl
    (h frontDoorOnly guest { name := some "Evenings" } _ _ hguest rfl)

end

end CodeMaster.Proofs.Web.SavePolicy
