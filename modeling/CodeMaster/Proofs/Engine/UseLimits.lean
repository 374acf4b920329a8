import CodeMaster.Lib.Transition
import CodeMaster.Engine.ConcurrentEvaluation
import CodeMaster.Proofs.Engine.Evaluate

/-!
# `CodeMaster.Proofs.Engine.UseLimits`: how often a use-limited policy is spent

One call takes one use off the counter that it read, and writes the result back as an
absolute value. `UseLimit` is the invariant that the grants so far and the stored counter add
up to the limit. A step keeps it when the call that writes still finds the counter it read,
and `grantsUnder_le` is the bound for runs of such steps.

`solo_eq_evaluateAsync` connects the steps to `evaluateAsync`: a call that runs alone returns
what the function returns.

The calls are those of `ConcurrentEvaluation`: a step is one access of one call to the database, and
the accesses of any number of calls interleave in any order. Between two accesses of one call
another one can read the same counter, and then two grants write the same value. The condition on a
step is that a call which writes still finds the counter that it has read. It is a condition on the
state before the write.

The proof counts grants. With the condition, each grant takes one from the counter, and the counter
is never below zero, so that the grants are at most as many as the limit.
-/

set_option autoImplicit false

namespace CodeMaster.Proofs.Engine.UseLimits

open CodeMaster.Core Data CodeMaster.Engine AccessPolicyEvaluator ConcurrentEvaluation Transition
open AccessPolicyRepository HardwareSlotSyncWorker Evaluate

/-- The policies of an evaluation are among those of the user and those of the door. -/
theorem mem_policiesAt {userPolicies doorPolicies : List AccessPolicy} {p : AccessPolicy}
    (hp : p ∈ policiesAt userPolicies doorPolicies) : p ∈ userPolicies ∨ p ∈ doorPolicies := by
  rw [policiesAt_eq] at hp
  split at hp
  · exact Or.inl (List.mem_of_mem_filter hp)
  · split at hp
    · exact Or.inl hp
    · exact Or.inr hp

/-! ### Grants, and the condition on a write -/

/-- The call has returned and granted access under the policy. -/
def grantedUnder (policyId : String) (c : Call) : Bool :=
  match c.phase with
  | .done result => result.isValid && result.policy.any fun p => p.id = policyId
  | _ => false

/-- The number of calls that have granted access under the policy. -/
def grantsUnder (policyId : String) (s : System) : Nat := s.calls.countP (grantedUnder policyId)

/-- When the step writes the policy, the stored counter is still the one that the call read:
one more than what it writes. -/
def WritesFresh (policyId : String) (s : System) (i : Nat) : Prop :=
  match s.calls[i]? with
  | some ⟨_, .readyToWrite p _⟩ => p.id = policyId →
    ∀ row ∈ s.db.accessPolicies.rows, row.id = policyId →
      p.remainingUses = row.remainingUses.map fun uses => uses - 1
  | _ => True

/-- The condition on a write is decidable. -/
instance (policyId : String) (s : System) (i : Nat) : Decidable (WritesFresh policyId s i) := by
  unfold WritesFresh
  split <;> infer_instance

/-! ### The invariant -/

/-- What a call knows about the policy: it has only read it as a one-time policy, and what it
is about to write is the one-time policy it grants access under, with a counter. -/
def Knows (policyId : String) : Phase → Prop
  | .userPoliciesRead _ userPolicies =>
    ∀ p ∈ userPolicies, p.id = policyId → p.scheduleType = .oneTime
  | .readyToWrite p result =>
    result.isValid = true ∧ result.policy = some p ∧ p.scheduleType = .oneTime
      ∧ ∃ uses, p.remainingUses = some uses ∧ 0 ≤ uses
  | _ => True

/-- The policy is stored as a one-time policy, its counter and the grants so far add up to the
limit, and every call has read it as such. -/
structure UseLimit (policyId : String) (limit : Int) (s : System) : Prop where
  stored : ∃ row ∈ s.db.accessPolicies.rows, row.id = policyId ∧ row.scheduleType = .oneTime
    ∧ ∃ uses, row.remainingUses = some uses ∧ 0 ≤ uses
      ∧ (grantsUnder policyId s : Int) + uses = limit
  knows : ∀ c ∈ s.calls, Knows policyId c.phase

variable {policyId : String} {limit : Int} {s : System}

/-- The grants after one call has moved. -/
theorem grantsUnder_set (policyId : String) {i : Nat} {c : Call} (hc : s.calls[i]? = some c)
    (db : Db) (phase : Phase) :
    grantsUnder policyId { db, calls := s.calls.set i { c with phase } }
        + (if grantedUnder policyId c then 1 else 0)
      = grantsUnder policyId s + if grantedUnder policyId { c with phase } then 1 else 0 := by
  obtain ⟨hi, rfl⟩ := List.getElem?_eq_some_iff.mp hc
  have hle : (if grantedUnder policyId s.calls[i] then 1 else 0) ≤ grantsUnder policyId s := by
    split
    · rename_i hgranted
      exact List.countP_pos_iff.mpr ⟨_, List.getElem_mem hi, hgranted⟩
    · exact Nat.zero_le _
  unfold grantsUnder at hle ⊢
  rw [List.countP_set hi]
  omega

/-- After a call has moved, the calls know what they knew, and the moved one what its new
phase says. -/
theorem UseLimit.knows_set (h : UseLimit policyId limit s) (i : Nat) {c : Call}
    (hc : Knows policyId c.phase) : ∀ d ∈ s.calls.set i c, Knows policyId d.phase := by
  intro d hd
  rcases List.mem_or_eq_of_mem_set hd with hd | rfl
  · exact h.knows d hd
  · exact hc

/-- A step that grants nothing under the policy and does not write keeps the invariant. -/
theorem UseLimit.of_read (h : UseLimit policyId limit s) {i : Nat} {c : Call} {phase : Phase}
    (hc : s.calls[i]? = some c) (hbefore : grantedUnder policyId c = false)
    (hafter : grantedUnder policyId { c with phase } = false) (hknows : Knows policyId phase) :
    UseLimit policyId limit { db := s.db, calls := s.calls.set i { c with phase } } := by
  obtain ⟨row, hrow, hid, htype, uses, huses, hnonneg, hsum⟩ := h.stored
  have hcount := grantsUnder_set policyId hc s.db phase
  -- The call counts neither before nor after.
  rw [hbefore, hafter] at hcount
  refine ⟨⟨row, hrow, hid, htype, uses, huses, hnonneg, ?_⟩, h.knows_set i hknows⟩
  simp only [Bool.false_eq_true, if_false, Nat.add_zero] at hcount
  rw [hcount]
  exact hsum

/-- The write of another policy keeps the invariant. -/
theorem UseLimit.of_write_other (h : UseLimit policyId limit s) {i : Nat} {r : Request}
    {p : AccessPolicy} {result : AccessEvaluationResult}
    (hc : s.calls[i]? = some ⟨r, .readyToWrite p result⟩) (hp : p.id ≠ policyId) :
    UseLimit policyId limit
      { db := updateAsync p s.db, calls := s.calls.set i ⟨r, .done result⟩ } := by
  obtain ⟨row, hrow, hid, htype, uses, huses, hnonneg, hsum⟩ := h.stored
  obtain ⟨-, hpolicy, -⟩ := h.knows _ (List.mem_of_getElem? hc)
  have hrow' : row ∈ (updateAsync p s.db).accessPolicies.rows :=
    mem_updateAsync.mpr ⟨row, hrow, by rw [if_neg (hid ▸ Ne.symm hp)]⟩
  have hcount := grantsUnder_set policyId hc (updateAsync p s.db) (.done result)
  simp only [grantedUnder, hpolicy, Option.any_some, decide_eq_false hp, Bool.and_false] at hcount
  refine ⟨⟨row, hrow', hid, htype, uses, huses, hnonneg, ?_⟩, h.knows_set i trivial⟩
  simp only [Bool.false_eq_true, if_false, Nat.add_zero] at hcount
  rw [hcount]
  exact hsum

/-- The write of the policy itself moves one use from the counter to the grants, when the
stored counter is the one that the call read. -/
theorem UseLimit.of_write (h : UseLimit policyId limit s) {i : Nat} {r : Request}
    {p : AccessPolicy} {result : AccessEvaluationResult}
    (hc : s.calls[i]? = some ⟨r, .readyToWrite p result⟩) (hp : p.id = policyId)
    (hfresh : ∀ row ∈ s.db.accessPolicies.rows, row.id = policyId →
      p.remainingUses = row.remainingUses.map fun uses => uses - 1) :
    UseLimit policyId limit
      { db := updateAsync p s.db, calls := s.calls.set i ⟨r, .done result⟩ } := by
  obtain ⟨row, hrow, hid, -, uses, huses, -, hsum⟩ := h.stored
  obtain ⟨hvalid, hpolicy, htype, written, hwritten, hnonneg⟩ :=
    h.knows _ (List.mem_of_getElem? hc)
  -- The write is fresh: it takes one use off the counter that is stored.
  have heq : written = uses - 1 := by
    have := hfresh row hrow hid
    rw [hwritten, huses] at this
    exact Option.some.inj this
  have hrow' : { toRow p with id := row.id } ∈ (updateAsync p s.db).accessPolicies.rows :=
    mem_updateAsync.mpr ⟨row, hrow, by rw [if_pos (hid.trans hp.symm)]⟩
  have hcount := grantsUnder_set policyId hc (updateAsync p s.db) (.done result)
  simp only [grantedUnder, hpolicy, hvalid, hp, Option.any_some, decide_true, Bool.and_self,
    if_true, Bool.false_eq_true, if_false] at hcount
  refine ⟨⟨_, hrow', hid, htype, written, hwritten, hnonneg, ?_⟩, h.knows_set i trivial⟩
  rw [← hsum, heq]
  omega

/-- Before the first step nothing is granted. -/
theorem useLimit_init {db : Db} {p : AccessPolicy} {uses : Int}
    (hp : p ∈ db.accessPolicies.rows) (htype : p.scheduleType = .oneTime)
    (huses : p.remainingUses = some uses) (hnonneg : 0 ≤ uses) (requests : List Request) :
    UseLimit p.id uses (System.init db requests) := by
  have hstart : ∀ c ∈ (System.init db requests).calls, c.phase = .start := by
    intro c hc
    obtain ⟨r, -, rfl⟩ := List.mem_map.mp hc
    rfl
  refine ⟨⟨p, hp, rfl, htype, uses, huses, hnonneg, ?_⟩, fun c hc => ?_⟩
  · -- No call has returned.
    have hzero : grantsUnder p.id (System.init db requests) = 0 := by
      refine List.countP_eq_zero.mpr fun c hc => ?_
      rw [grantedUnder, hstart c hc]
      exact Bool.false_ne_true
    rw [hzero]
    exact Int.zero_add uses
  · rw [hstart c hc]
    trivial

section
variable [Host]

/-! ### A call that runs alone -/

/-- The call is the only one of the system. -/
def alone (r : Request) (phase : Phase) (db : Db) : System := { db, calls := [⟨r, phase⟩] }

/-- A call that is alone moves like a call by itself. -/
theorem step_alone (r : Request) (phase : Phase) (db : Db) :
    (alone r phase db).step 0
      = alone r (Call.advance ⟨r, phase⟩ db).1 (Call.advance ⟨r, phase⟩ db).2 := rfl

/-- A call that has returned stays as it is. -/
theorem step_done (r : Request) (result : AccessEvaluationResult) (db : Db) :
    (alone r (.done result) db).step 0 = alone r (.done result) db := rfl

/-- After four steps alone, a call has returned what `EvaluateAsync` returns, and the store is
what `EvaluateAsync` leaves. -/
theorem solo_eq_evaluateAsync (db : Db) (r : Request) :
    [0, 0, 0, 0].foldl System.step (System.init db [r])
      = alone r (.done (evaluateAsync r.keypadEvent r.accessPoint r.evaluationTimeUtc db).1)
          (evaluateAsync r.keypadEvent r.accessPoint r.evaluationTimeUtc db).2 := by
  show ((((alone r .start db).step 0).step 0).step 0).step 0 = _
  rw [step_alone r .start]
  simp only [Call.advance, Request.matchUser, evaluateAsync]
  cases isNullOrWhiteSpace r.keypadEvent.pin with
  | true => rfl
  | false =>
    cases matchCredential db (r.keypadEvent.pin.getD "") with
    | none => rfl
    | some found =>
      obtain ⟨user, cred⟩ := found
      cases hactive : user.isActive with
      | false => simp only [hactive, Bool.false_eq_true, if_false, step_done]
      | true =>
        simp only [hactive, Bool.false_eq_true, if_false, if_true, step_alone, Call.advance,
          Request.decide, Request.checkTime]
        rcases decideAccess user (getByUserIdAsync db user.id)
          (getByAccessPointIdAsync db r.accessPoint.id)
          (r.evaluationTimeUtc.getD r.keypadEvent.timestamp) with ⟨result, _ | policy⟩ <;> rfl

/-! ### The step lemma -/

/-- A read of the policy returns a one-time policy. -/
theorem UseLimit.oneTime_of_read (h : UseLimit policyId limit s) {row p : AccessPolicy}
    (hrow : row ∈ s.db.accessPolicies.rows) (hp : ofRow row = p) (hid : p.id = policyId) :
    p.scheduleType = .oneTime := by
  obtain ⟨row', hrow', hid', htype, -⟩ := h.stored
  -- The policy has one row.
  have : row = row' := by
    refine s.db.accessPolicies.eq_of_key_eq hrow hrow' ?_
    rw [hid', ← hid, ← hp, ofRow_id]
  subst this
  rw [← hp]
  exact htype

/-- The decision of a call knows about the policy what the call has read. -/
theorem knows_decide (h : UseLimit policyId limit s) {user : User}
    {userPolicies : List AccessPolicy} (r : Request)
    (hread : ∀ p ∈ userPolicies, p.id = policyId → p.scheduleType = .oneTime) :
    Knows policyId (r.decide user userPolicies s.db)
      ∧ grantedUnder policyId ⟨r, r.decide user userPolicies s.db⟩ = false := by
  unfold Request.decide
  cases hfind : (policiesAt userPolicies (getByAccessPointIdAsync s.db r.accessPoint.id)).find?
      (isActive r.checkTime) with
  | none =>
    obtain ⟨hvalid, hwrite⟩ := @decideAccess_of_find_eq_none user _ _ _ hfind
    rcases hd : decideAccess user userPolicies (getByAccessPointIdAsync s.db r.accessPoint.id)
      r.checkTime with ⟨result, write⟩
    rw [hd] at hvalid hwrite
    cases hwrite
    exact ⟨trivial, by simp [grantedUnder, show result.isValid = false from hvalid]⟩
  | some p =>
    rw [decideAccess_of_find hfind]
    by_cases htype : p.scheduleType = .oneTime
    · rw [if_pos htype, spent, if_pos htype]
      exact ⟨⟨rfl, rfl, htype, _, rfl, Int.le_max_left _ _⟩, rfl⟩
    · -- A policy that is not a one-time policy is another one.
      have hid : p.id ≠ policyId := by
        intro hid
        refine htype ?_
        rcases mem_policiesAt (List.mem_of_find?_eq_some hfind) with hp | hp
        · exact hread p hp hid
        · obtain ⟨row, hrow, hrowp, -⟩ := mem_getByAccessPointIdAsync.mp hp
          exact h.oneTime_of_read hrow hrowp hid
      rw [if_neg htype, spent, if_neg htype]
      exact ⟨trivial, by simp [grantedUnder, hid]⟩

/-- The step lemma: a step that meets `WritesFresh` keeps the invariant. -/
theorem useLimit_step (h : UseLimit policyId limit s) (i : Nat)
    (hfresh : WritesFresh policyId s i) : UseLimit policyId limit (s.step i) := by
  unfold System.step
  cases hc : s.calls[i]? with
  | none => exact h
  | some c =>
    obtain ⟨r, phase⟩ := c
    have hknows := h.knows _ (List.mem_of_getElem? hc)
    cases phase with
    | start =>
      refine h.of_read hc rfl ?_ ?_ <;> simp only [Call.advance, Request.matchUser]
      · split
        · rfl
        · split
          · rfl
          · split <;> rfl
      · split
        · trivial
        · split
          · trivial
          · split <;> trivial
    | matched user =>
      refine h.of_read hc rfl rfl fun p hp hid => ?_
      obtain ⟨row, hrow, hrowp⟩ := exists_row_of_mem_getByUserIdAsync hp
      exact h.oneTime_of_read hrow hrowp hid
    | userPoliciesRead user userPolicies =>
      obtain ⟨hknows', hgranted⟩ := knows_decide h r hknows
      exact h.of_read hc rfl hgranted hknows'
    | readyToWrite p result =>
      by_cases hp : p.id = policyId
      · unfold WritesFresh at hfresh
        rw [hc] at hfresh
        exact h.of_write hc hp (hfresh hp)
      · exact h.of_write_other hc hp
    | done result =>
      -- A call that has returned does not move.
      have hsame : s.calls.set i ⟨r, .done result⟩ = s.calls := by
        obtain ⟨hi, heq⟩ := List.getElem?_eq_some_iff.mp hc
        rw [← heq, List.set_getElem_self]
      show UseLimit policyId limit { db := s.db, calls := s.calls.set i ⟨r, .done result⟩ }
      rw [hsame]
      exact h

/-! ### Runs -/

/-- In every run of concurrent calls in which each write of the one-time policy still finds
the counter that the call read, at most as many calls are granted access under the policy as
it had uses. -/
theorem grantsUnder_le (db : Db) (p : AccessPolicy) (uses : Int) (requests : List Request)
    (schedule : List Nat) (hp : p ∈ db.accessPolicies.rows) (htype : p.scheduleType = .oneTime)
    (huses : p.remainingUses = some uses) (hnonneg : 0 ≤ uses)
    (hfresh : StepsMeet System.step (WritesFresh p.id) (System.init db requests) schedule) :
    ∀ steps, steps <+: schedule →
      (grantsUnder p.id (steps.foldl System.step (System.init db requests)) : Int) ≤ uses := by
  rintro steps ⟨rest, rfl⟩
  have hrun : UseLimit p.id uses (steps.foldl System.step (System.init db requests)) :=
    invariant_of_stepsMeet (UseLimit p.id uses) (fun _ i h hok => useLimit_step h i hok) steps _
      (useLimit_init hp htype huses hnonneg requests) hfresh.of_prefix
  obtain ⟨-, -, -, -, left, -, hleft, hsum⟩ := hrun.stored
  omega

end

/-! ### Two keypads and one use -/

section
/-- The host of the samples. -/
local instance : Host := Host.sample

/-- The guest's policy has one use, and is assigned at both doors. -/
def oneUse : Db :=
  { frontDoorOnly with
    accessPolicies := .ofList [{ id := "once", scheduleType := .oneTime, remainingUses := some 1 }]
      (by decide)
    accessAssignments := .ofList [
      { id := "a", accessPointId := "front", userId := some "guest", policyId := "once" },
      { id := "b", accessPointId := "side", userId := some "guest", policyId := "once" }]
      (by decide) }

/-- The guest's PIN at a door. -/
def entry (accessPoint : AccessPoint) : Request where
  keypadEvent := { pin := some "1234", timestamp := { ticks := 0 } }
  accessPoint

/-- One call after the other spends the one use once. -/
theorem grantsUnder_le_oneUse :
    (grantsUnder "once" ([0, 0, 0, 0, 1, 1, 1].foldl System.step
      (System.init oneUse [entry frontDoor, entry sideDoor])) : Int) ≤ 1 :=
  grantsUnder_le oneUse { id := "once", scheduleType := .oneTime, remainingUses := some 1 } 1
    [entry frontDoor, entry sideDoor] [0, 0, 0, 0, 1, 1, 1] (by decide) rfl rfl (by decide)
    (by decide) _ List.prefix_rfl

/-- Both calls read the counter before either of them writes it: the one use is spent twice. -/
theorem one_use_is_spent_twice :
    ¬ ∀ (db : Db) (p : AccessPolicy) (uses : Int) (requests : List Request) (schedule : List Nat),
      p ∈ db.accessPolicies.rows → p.scheduleType = .oneTime → p.remainingUses = some uses →
        0 ≤ uses → (grantsUnder p.id (schedule.foldl System.step
          (System.init db requests)) : Int) ≤ uses := by
  intro h
  have hle := h oneUse { id := "once", scheduleType := .oneTime, remainingUses := some 1 } 1
    [entry frontDoor, entry sideDoor] [0, 1, 0, 1, 0, 1, 0, 1] (by decide) rfl rfl (by decide)
  exact absurd hle (by decide)

end

end CodeMaster.Proofs.Engine.UseLimits
