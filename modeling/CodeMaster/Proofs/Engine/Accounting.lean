import CodeMaster.Lib.Transition
import CodeMaster.Proofs.Engine.UseLimits

/-!
# `CodeMaster.Proofs.Engine.Accounting`: the uses of a one-time policy, call after call

`evaluateAsync_cases` says what one call of `EvaluateAsync` does to the store: nothing, or it
takes one use off the one-time policy that it grants access under (`setUses`). The `UPDATE`
writes the whole row. It is the identity on the other columns when they read back as they
were written (`ReadsBack`).

`limitedPasses` follows from it for every sequence of calls: the grants under a one-time
policy and the uses left in its row add up to the uses that it had.

The calls come one after the other, each over the database that the one before has left. This is the
sequential counterpart of `UseLimits`. A null counter counts as one use, as in the code. All other
tables stay, and of the table of policies all other rows and all other columns.
-/

set_option autoImplicit false

namespace CodeMaster.Proofs.Engine.Accounting

open CodeMaster.Core Data CodeMaster.Engine AccessPolicyEvaluator ConcurrentEvaluation
open AccessPolicyRepository HardwareSlotSyncWorker Evaluate

/-- The uses left: no counter counts as one use. -/
def uses (p : AccessPolicy) : Int := p.remainingUses.getD 1

/-- The store with one counter written. -/
def setUses (policyId : String) (left : Int) (db : Db) : Db :=
  { db with
    accessPolicies := db.accessPolicies.update (fun row => row.id = policyId)
      (fun row => { row with remainingUses := some left }) fun _ => rfl }

/-- The result grants access under the policy. -/
def grantedUnderId (policyId : String) (result : AccessEvaluationResult) : Bool :=
  result.isValid && result.policy.any fun p => p.id = policyId

/-- The policies after the number of uses was written. -/
theorem mem_setUses {policyId : String} {left : Int} {db : Db} {x : AccessPolicy} :
    x ∈ (setUses policyId left db).accessPolicies.rows
      ↔ ∃ row ∈ db.accessPolicies.rows,
          x = if row.id = policyId then { row with remainingUses := some left } else row := by
  have h := @Relational.Table.mem_update _ _ _ db.accessPolicies (fun row => row.id = policyId)
    (fun row => { row with remainingUses := some left }) (fun _ => rfl) x
  simp only [decide_eq_true_eq] at h
  exact h

/-- An active one-time policy has a use left. -/
theorem uses_pos_of_isActiveAt {p : AccessPolicy} {t : DateTime} (h : p.isActiveAt t = true)
    (htype : p.scheduleType = .oneTime) : 0 < uses p := by
  unfold AccessPolicy.isActiveAt at h
  rw [htype] at h
  unfold uses
  split at h
  · cases h
  · split at h
    · cases h
    · split at h
      · cases h
      · cases huses : p.remainingUses with
        | none => decide
        | some n =>
          rw [huses] at h
          simpa using h

section
variable [Host]

/-- The columns of every policy read back as they were written. -/
def ReadsBack (db : Db) : Prop := ∀ row ∈ db.accessPolicies.rows, ofRow row = row ∧ toRow row = row

/-- A new number of uses is read back like the one of before. -/
theorem readsBack_setUses {db : Db} (h : ReadsBack db) (policyId : String) (left : Int) :
    ReadsBack (setUses policyId left db) := by
  intro x hx
  obtain ⟨row, hrow, rfl⟩ := mem_setUses.mp hx
  obtain ⟨hread, hwrite⟩ := h row hrow
  split
  · -- Neither the read nor the write looks at the counter.
    have hread' : ofRow { row with remainingUses := some left }
        = { ofRow row with remainingUses := some left } := rfl
    have hwrite' : toRow { row with remainingUses := some left }
        = { toRow row with remainingUses := some left } := rfl
    rw [hread', hwrite', hread, hwrite]
    exact ⟨rfl, rfl⟩
  · exact ⟨hread, hwrite⟩

/-! ### One call -/

/-- A policy that decides about a user at a door is read from a row. -/
theorem exists_row_of_mem_policiesOf {db : Db} {accessPointId : String} {u : User}
    {p : AccessPolicy} (hp : p ∈ policiesOf db accessPointId u) :
    ∃ row ∈ db.accessPolicies.rows, ofRow row = p := by
  rcases UseLimits.mem_policiesAt hp with hp | hp
  · exact exists_row_of_mem_getByUserIdAsync hp
  · obtain ⟨row, hrow, hread, -⟩ := mem_getByAccessPointIdAsync.mp hp
    exact ⟨row, hrow, hread⟩

/-- It is that row, if rows read back. -/
theorem mem_rows_of_mem_policiesOf {db : Db} (h : ReadsBack db) {accessPointId : String}
    {u : User} {p : AccessPolicy} (hp : p ∈ policiesOf db accessPointId u) :
    p ∈ db.accessPolicies.rows := by
  obtain ⟨row, hrow, rfl⟩ := exists_row_of_mem_policiesOf hp
  rw [(h row hrow).1]
  exact hrow

/-- A one-time policy that decides has a use left. -/
theorem uses_pos_of_decides {keypadEvent : KeypadEventDto} {accessPoint : AccessPoint}
    {evaluationTimeUtc : Option DateTime} {db : Db} {u : User} {p : AccessPolicy}
    (h : Decides keypadEvent accessPoint evaluationTimeUtc db u p)
    (htype : p.scheduleType = .oneTime) : 0 < uses p :=
  uses_pos_of_isActiveAt (isActive_eq_true_iff.mp (List.find?_some h.find)) htype

/-- The `UPDATE` of the policy with one use taken off writes the counter only. -/
theorem updateAsync_spendUse {db : Db} (h : ReadsBack db) {p : AccessPolicy}
    (hp : p ∈ db.accessPolicies.rows) (huses : 0 < uses p) :
    updateAsync (spendUse p) db = setUses p.id (uses p - 1) db := by
  have hleft : max 0 (p.remainingUses.getD 1 - 1) = uses p - 1 := by
    unfold uses at huses ⊢
    omega
  unfold updateAsync setUses
  congr 1
  refine Relational.Table.update_congr fun row hrow hid => ?_
  -- The row that is written is the one that was read.
  have hid' : row.id = p.id := of_decide_eq_true hid
  have : row = p := db.accessPolicies.eq_of_key_eq hrow hp hid'
  subst this
  have hwrite : toRow (spendUse row) = spendUse (toRow row) := rfl
  rw [hwrite, (h row hrow).2, spendUse, hleft]

/-- A call denies access and leaves the store, or it grants access under a stored policy and
takes one use off it if it is a one-time policy. -/
theorem evaluateAsync_cases {db : Db} (h : ReadsBack db) (keypadEvent : KeypadEventDto)
    (accessPoint : AccessPoint) (evaluationTimeUtc : Option DateTime) :
    ((evaluateAsync keypadEvent accessPoint evaluationTimeUtc db).1.isValid = false
        ∧ (evaluateAsync keypadEvent accessPoint evaluationTimeUtc db).2 = db)
      ∨ ∃ p ∈ db.accessPolicies.rows, (p.scheduleType = .oneTime → 0 < uses p)
          ∧ (evaluateAsync keypadEvent accessPoint evaluationTimeUtc db).1.isValid = true
          ∧ (evaluateAsync keypadEvent accessPoint evaluationTimeUtc db).1.policy
              = some (spent p)
          ∧ (evaluateAsync keypadEvent accessPoint evaluationTimeUtc db).2
              = if p.scheduleType = .oneTime then setUses p.id (uses p - 1) db else db := by
  rcases denied_or_decides keypadEvent accessPoint evaluationTimeUtc db with
    hdenied | ⟨u, p, hdecides⟩
  · exact Or.inl hdenied
  · have hp := mem_rows_of_mem_policiesOf h (List.mem_of_find?_eq_some hdecides.find)
    refine Or.inr ⟨p, hp, uses_pos_of_decides hdecides, ?_⟩
    rw [evaluateAsync_of_decides hdecides]
    refine ⟨rfl, rfl, ?_⟩
    by_cases htype : p.scheduleType = .oneTime
    · rw [if_pos htype, if_pos htype]
      exact updateAsync_spendUse h hp (uses_pos_of_decides hdecides htype)
    · rw [if_neg htype, if_neg htype]
      rfl

/-! ### Calls one after the other -/

/-- What a call answers, with no other writer. -/
def answer (db : Db) (r : Request) : AccessEvaluationResult :=
  (evaluateAsync r.keypadEvent r.accessPoint r.evaluationTimeUtc db).1

/-- The store that a call leaves. -/
def after (db : Db) (r : Request) : Db :=
  (evaluateAsync r.keypadEvent r.accessPoint r.evaluationTimeUtc db).2

/-- The number of calls that are granted under the policy. -/
def grants (policyId : String) : Db → List Request → Nat
  | _, [] => 0
  | db, r :: rs =>
    (if grantedUnderId policyId (answer db r) then 1 else 0) + grants policyId (after db r) rs

/-- The row when so many calls are granted under its policy. -/
def rowAfter (row : AccessPolicy) (granted : Nat) : AccessPolicy :=
  if granted = 0 then row else { row with remainingUses := some (uses row - granted) }

/-- After an evaluation the policies are read back as before. -/
theorem readsBack_after {db : Db} (h : ReadsBack db) (r : Request) : ReadsBack (after db r) := by
  rcases evaluateAsync_cases h r.keypadEvent r.accessPoint r.evaluationTimeUtc with
    ⟨-, hdb⟩ | ⟨p, -, -, -, -, hdb⟩
  · rw [after, hdb]
    exact h
  · rw [after, hdb]
    split
    · exact readsBack_setUses h _ _
    · exact h

/-- The step lemma: a call is granted under a one-time policy and takes one of its uses, or it
is not and leaves the row. -/
theorem row_after {db : Db} (h : ReadsBack db) {row : AccessPolicy}
    (hrow : row ∈ db.accessPolicies.rows) (htype : row.scheduleType = .oneTime) (r : Request) :
    (grantedUnderId row.id (answer db r) = false ∧ row ∈ (after db r).accessPolicies.rows)
      ∨ (grantedUnderId row.id (answer db r) = true ∧ 0 < uses row
          ∧ rowAfter row 1 ∈ (after db r).accessPolicies.rows) := by
  rcases evaluateAsync_cases h r.keypadEvent r.accessPoint r.evaluationTimeUtc with
    ⟨hvalid, hdb⟩ | ⟨p, hp, hpos, hvalid, hpolicy, hdb⟩
  · refine Or.inl ⟨?_, ?_⟩
    · rw [grantedUnderId, answer, hvalid, Bool.false_and]
    · rw [after, hdb]
      exact hrow
  · have hgranted : grantedUnderId row.id (answer db r) = decide (p.id = row.id) := by
      rw [grantedUnderId, answer, hvalid, hpolicy, Bool.true_and, Option.any_some, spent_id]
    rw [hgranted, after, hdb]
    by_cases hid : p.id = row.id
    · -- The policy of the row is the one that the call is granted under.
      have : p = row := db.accessPolicies.eq_of_key_eq hp hrow hid
      subst this
      rw [if_pos htype]
      refine Or.inr ⟨decide_eq_true rfl, hpos htype, mem_setUses.mpr ⟨p, hrow, ?_⟩⟩
      rw [if_pos rfl]
      rfl
    · refine Or.inl ⟨decide_eq_false hid, ?_⟩
      split
      · exact mem_setUses.mpr ⟨row, hrow, by rw [if_neg (Ne.symm hid)]⟩
      · exact hrow

/-- The run lemma: the grants are at most the uses, and the row has lost as many. -/
theorem row_afterAll (requests : List Request) : ∀ {db : Db}, ReadsBack db →
    ∀ {row : AccessPolicy}, row ∈ db.accessPolicies.rows → row.scheduleType = .oneTime →
      0 ≤ uses row →
      (grants row.id db requests : Int) ≤ uses row
        ∧ rowAfter row (grants row.id db requests)
            ∈ (requests.foldl after db).accessPolicies.rows := by
  induction requests with
  | nil =>
    intro db _ row hrow _ hnonneg
    exact ⟨hnonneg, hrow⟩
  | cons r rs ih =>
    intro db h row hrow htype hnonneg
    have h' := readsBack_after h r
    rcases row_after h hrow htype r with ⟨hgranted, hrow'⟩ | ⟨hgranted, hpos, hrow'⟩
    · have hcount : grants row.id db (r :: rs) = grants row.id (after db r) rs := by
        show (if grantedUnderId row.id (answer db r) = true then 1 else 0)
          + grants row.id (after db r) rs = _
        rw [hgranted]
        exact Nat.zero_add _
      rw [hcount]
      exact ih h' hrow' htype hnonneg
    · have hcount : grants row.id db (r :: rs) = 1 + grants row.id (after db r) rs := by
        show (if grantedUnderId row.id (answer db r) = true then 1 else 0)
          + grants row.id (after db r) rs = _
        rw [hgranted]
        rfl
      -- The rest of the calls starts with one use less.
      have huses : uses (rowAfter row 1) = uses row - 1 := rfl
      obtain ⟨hle, hmem⟩ := ih h' hrow' htype (by omega)
      have hid : (rowAfter row 1).id = row.id := rfl
      rw [huses, hid] at hle
      rw [hid] at hmem
      refine ⟨by omega, ?_⟩
      have hrest : rowAfter row (grants row.id db (r :: rs))
          = rowAfter (rowAfter row 1) (grants row.id (after db r) rs) := by
        rw [hcount]
        generalize grants row.id (after db r) rs = granted
        cases granted with
        | zero => rfl
        | succ n =>
          show { row with remainingUses := some (uses row - ((1 + (n + 1) : Nat) : Int)) }
            = { row with remainingUses := some (uses row - 1 - ((n + 1 : Nat) : Int)) }
          have heq : uses row - ((1 + (n + 1) : Nat) : Int)
              = uses row - 1 - ((n + 1 : Nat) : Int) := by omega
          rw [heq]
      rw [hrest]
      exact hmem

/-- A call in the middle of a sequence changes nothing when it is denied. When it is granted,
it is under a stored policy, whose counter alone changes if it is a one-time policy; under
another type nothing changes. -/
structure Accounted (db : Db) (r : Request) : Prop where
  denied : (answer db r).isValid = false → after db r = db
  granted : (answer db r).isValid = true → ∃ p ∈ db.accessPolicies.rows,
    (answer db r).policy = some (spent p)
      ∧ after db r = if p.scheduleType = .oneTime then setUses p.id (uses p - 1) db else db

/-- One evaluation is accounted for: it takes a use from one policy, or none. -/
theorem accounted {db : Db} (h : ReadsBack db) (r : Request) : Accounted db r := by
  rcases evaluateAsync_cases h r.keypadEvent r.accessPoint r.evaluationTimeUtc with
    ⟨hvalid, hdb⟩ | ⟨p, hp, -, hvalid, hpolicy, hdb⟩
  · refine ⟨fun _ => hdb, fun hgranted => ?_⟩
    rw [answer, hvalid] at hgranted
    cases hgranted
  · refine ⟨fun hdenied => ?_, fun _ => ⟨p, hp, hpolicy, hdb⟩⟩
    rw [answer, hvalid] at hdenied
    cases hdenied

/-- For every sequence of calls, one after the other: the grants under a one-time policy are
at most its uses, its row has lost as many uses as there were grants, and each call changes
at most the counter of the one-time policy that it is granted under. -/
theorem limitedPasses (db : Db) (row : AccessPolicy) (requests : List Request)
    (hreads : ReadsBack db) (hrow : row ∈ db.accessPolicies.rows)
    (htype : row.scheduleType = .oneTime) (huses : ∀ n ∈ row.remainingUses, 0 ≤ n) :
    (grants row.id db requests : Int) ≤ uses row
      ∧ (requests.foldl after db).accessPolicies.find? row.id
          = some (rowAfter row (grants row.id db requests))
      ∧ ∀ before r rest, requests = before ++ r :: rest →
          Accounted (before.foldl after db) r := by
  have hnonneg : 0 ≤ uses row := by
    unfold uses
    cases hcounter : row.remainingUses with
    | none => decide
    | some n => exact huses n hcounter
  obtain ⟨hle, hmem⟩ := row_afterAll requests hreads hrow htype hnonneg
  refine ⟨hle, Relational.Table.find?_eq_some_iff.mpr ⟨hmem, ?_⟩, ?_⟩
  · unfold rowAfter
    split <;> rfl
  · rintro before r rest rfl
    exact accounted (Transition.foldl_invariant after ReadsBack
      (fun _ r h => readsBack_after h r) before db hreads) r

end

/-! ### One use, two entries -/

section
/-- The host of the samples. -/
local instance : Host := Host.sample

/-- The second entry finds no use left. -/
theorem limitedPasses_oneUse :
    (grants "once" UseLimits.oneUse
        [UseLimits.entry frontDoor, UseLimits.entry sideDoor] : Int) ≤ 1
      ∧ ([UseLimits.entry frontDoor, UseLimits.entry sideDoor].foldl after
            UseLimits.oneUse).accessPolicies.find? "once"
          = some { id := "once", scheduleType := .oneTime, remainingUses := some 0 } := by
  have h := limitedPasses UseLimits.oneUse
    { id := "once", scheduleType := .oneTime, remainingUses := some 1 }
    [UseLimits.entry frontDoor, UseLimits.entry sideDoor] (by unfold ReadsBack; decide)
    (by decide) rfl (by decide)
  have hgrants : grants "once" UseLimits.oneUse
      [UseLimits.entry frontDoor, UseLimits.entry sideDoor] = 1 := by decide
  exact ⟨h.1, h.2.1.trans (by rw [hgrants]; rfl)⟩

end

end CodeMaster.Proofs.Engine.Accounting
