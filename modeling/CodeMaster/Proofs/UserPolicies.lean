import CodeMaster.Data.Repositories

/-!
# `CodeMaster.Proofs.UserPolicies`: which policies has a user?

The query of `GetByUserIdAsync` joins the policies with the assignments, and with the row of the
user if there is one. Its `WHERE` clause is an `OR` over nullable columns. `GivenTo` is the set
that the query is for, and `getByUserIdAsync_exact` says that it returns this set, with each
policy once.

An assignment is for the user when its user id is the user's, or when its group is there and is the
user's group. Both columns can be null, and in SQL a comparison with null is neither true nor false.
The model has this three-valued logic, and the lemma about the condition says that it comes to the
definition of `IsFor`.
-/

set_option autoImplicit false

namespace CodeMaster.Proofs.UserPolicies

open CodeMaster.Core Data Relational AccessPolicyRepository

variable {db : Db} {userId : String}

/-- An assignment without a user and without a group names nobody. -/
theorem not_names_of_null {a : AccessAssignment} (huser : a.userId = none)
    (hgroup : a.groupId = none) : ¬Names db userId a := by
  rintro (h | ⟨g, hg, -⟩)
  · rw [huser] at h
    cases h
  · rw [hgroup] at hg
    cases hg

/-- For an unknown user, and for one without a group, the direct assignments are left. -/
theorem names_iff_of_no_group {a : AccessAssignment}
    (h : ∀ user ∈ db.users.rows, user.id = userId → user.groupId = none) :
    Names db userId a ↔ a.userId = some userId := by
  constructor
  · rintro (hdirect | ⟨g, -, user, huser, hid, hgroup⟩)
    · exact hdirect
    · rw [h user huser hid] at hgroup
      cases hgroup
  · exact Or.inl

/-- `DISTINCT` leaves one row of each policy, whatever the number of its assignments. -/
theorem nodup_getByUserIdAsync [Host] (db : Db) (userId : String) :
    ((getByUserIdAsync db userId).map AccessPolicy.id).Nodup := by
  unfold getByUserIdAsync
  rw [List.map_map]
  show (List.map AccessPolicy.id (Host.scanOrder _)).Nodup
  refine ((Host.scanOrder_perm _).map AccessPolicy.id).nodup_iff.mpr ?_
  refine db.accessPolicies.nodup_map_key (List.nodup_dedup _) fun row hrow => ?_
  simp only [List.mem_dedup, List.mem_flatMap, List.mem_filterMap] at hrow
  obtain ⟨_, hp, a, -, joined, -, hif⟩ := hrow
  split at hif
  · cases hif
    exact hp
  · cases hif

/-- The query returns the policies that are given to the user id, each of them once. A user without
a row or without a group has the direct assignments only, and an assignment without a user and a
group is nobody's. -/
theorem getByUserIdAsync_exact [Host] (db : Db) (userId : String) :
    ((getByUserIdAsync db userId).map AccessPolicy.id).Nodup
      ∧ (∀ p, p ∈ getByUserIdAsync db userId
          ↔ ∃ row ∈ db.accessPolicies.rows, ofRow row = p ∧ GivenTo db userId row.id)
      ∧ ((∀ user ∈ db.users.rows, user.id = userId → user.groupId = none) →
          ∀ a, Names db userId a ↔ a.userId = some userId)
      ∧ ∀ a : AccessAssignment, a.userId = none → a.groupId = none → ¬Names db userId a :=
  ⟨nodup_getByUserIdAsync db userId, fun _ => mem_getByUserIdAsync_iff,
    fun h _ => names_iff_of_no_group h, fun _ huser hgroup => not_names_of_null huser hgroup⟩

end CodeMaster.Proofs.UserPolicies
