import CodeMaster.Lib.Transition
import CodeMaster.Web.ConcurrentSavePolicy
import CodeMaster.Proofs.Engine.UseLimits

/-!
# `CodeMaster.Proofs.Web.StandingEdit`: an administrator's edit among keypad events

`EvaluateAsync` takes one use off a one-time policy by writing the whole row, from the policy
that it has read before. `EditStands` says that the row has the columns that `SavePolicy` wrote,
apart from the counter. It holds at every point of a run exactly when every evaluation that
writes the policy writes what the row has in these columns (`editStands_iff`).

`editStands_of_quiet` says when that is so: no evaluation has read policies and is still running
when `SavePolicy` writes.

The run interleaves one `SavePolicy` with any number of evaluations, access by access, in any order.
Before the save has written, nothing is asked. Afterwards the row has the columns of the edit until
an evaluation writes the row that it has read before. The condition is on the move that writes and
on the state before it, and it speaks of what the evaluation has read.
-/

set_option autoImplicit false

namespace CodeMaster.Proofs.Web.StandingEdit

open CodeMaster.Core Data CodeMaster.Engine CodeMaster.Web ConcurrentSavePolicy Transition
open CodeMaster.Proofs.Engine
open AccessPolicyEvaluator AccessPolicyRepository
open ConcurrentEvaluation (Call Request)

/-! ### The statement -/

/-- All calls have returned. -/
def Finished (s : System) : Prop :=
  (∃ result, s.save.phase = .done result)
    ∧ ∀ c ∈ s.evaluations.calls, ∃ result, c.phase = .done result

/-- The columns other than `RemainingUses`. -/
def otherColumns (p : AccessPolicy) : AccessPolicy := { p with remainingUses := none }

/-- `SavePolicy` has returned, and has written the policy. -/
def Written (policy : AccessPolicy) (s : System) : Prop :=
  s.save.phase = .done (.ok (.ok policy))

/-- The row of the policy has the columns that `SavePolicy` writes. -/
def HasColumns (policy : AccessPolicy) (db : Db) : Prop :=
  ∃ row ∈ db.accessPolicies.rows, row.id = policy.id
    ∧ otherColumns row = otherColumns (toRow policy)

/-- Once `SavePolicy` has written the policy, the row has its columns. -/
def EditStands (policy : AccessPolicy) (s : System) : Prop :=
  Written policy s → HasColumns policy s.db

/-- An evaluation that writes the policy after `SavePolicy` writes, apart from the counter, what
is stored. -/
def WritesStored (policy : AccessPolicy) (s : System) (c : Call) : Prop :=
  match c.phase with
  | .readyToWrite p _ => Written policy s → p.id = policy.id →
    ∀ row ∈ s.db.accessPolicies.rows, row.id = policy.id →
      otherColumns (toRow p) = otherColumns row
  | _ => True

/-- The condition on a step: a move of an evaluation writes what is stored. -/
def KeepsEdit (policy : AccessPolicy) (s : System) : Move → Prop
  | .save => True
  | .evaluation i => ∀ c ∈ s.evaluations.calls[i]?, WritesStored policy s c

/-- Whether the edit is written is decidable. -/
instance (policy : AccessPolicy) (s : System) : Decidable (Written policy s) :=
  inferInstanceAs (Decidable (s.save.phase = .done (.ok (.ok policy))))

/-- The condition on a call is decidable. -/
instance (policy : AccessPolicy) (s : System) (c : Call) : Decidable (WritesStored policy s c) := by
  unfold WritesStored
  split <;> infer_instance

/-- The condition on a move is decidable. -/
instance (policy : AccessPolicy) (s : System) (m : Move) : Decidable (KeepsEdit policy s m) :=
  match m with
  | .save => isTrue trivial
  | .evaluation i => inferInstanceAs (Decidable (∀ c ∈ s.evaluations.calls[i]?, _))

/-! ### One step -/

section
variable [Host] {policy : AccessPolicy} {s : System}

/-- The administrator's call is for the policy, and the policy is stored. -/
structure Editing (policy : AccessPolicy) (s : System) : Prop where
  call : s.save.policy = policy
  stored : ∃ row ∈ s.db.accessPolicies.rows, row.id = policy.id

omit [Host] in
/-- The `UPDATE` of a policy keeps the ids of the rows. -/
theorem exists_row_updateAsync {db : Db} {id : String} (p : AccessPolicy)
    (h : ∃ row ∈ db.accessPolicies.rows, row.id = id) :
    ∃ row ∈ (updateAsync p db).accessPolicies.rows, row.id = id := by
  obtain ⟨row, hrow, rfl⟩ := h
  refine ⟨_, mem_updateAsync.mpr ⟨row, hrow, rfl⟩, ?_⟩
  split
  · rfl
  · rfl

omit [Host] in
/-- After the `UPDATE` of another policy, the row has the columns that it had. -/
theorem hasColumns_updateAsync_of_ne {db : Db} {p : AccessPolicy} (hp : p.id ≠ policy.id)
    (h : HasColumns policy db) : HasColumns policy (updateAsync p db) := by
  obtain ⟨row, hrow, hid, hcolumns⟩ := h
  exact ⟨row, mem_updateAsync.mpr ⟨row, hrow, by rw [if_neg (hid ▸ Ne.symm hp)]⟩, hid, hcolumns⟩

omit [Host] in
/-- After the `UPDATE` of the policy, the row has the columns that are written. -/
theorem hasColumns_updateAsync_iff {db : Db} {p : AccessPolicy}
    (hstored : ∃ row ∈ db.accessPolicies.rows, row.id = policy.id) (hp : p.id = policy.id) :
    HasColumns policy (updateAsync p db)
      ↔ otherColumns (toRow p) = otherColumns (toRow policy) := by
  constructor
  · intro ⟨x, hx, hid, hcolumns⟩
    obtain ⟨row, hrow, rfl⟩ := mem_updateAsync.mp hx
    split at hid
    · rename_i hrowid
      rw [if_pos hrowid, hrowid] at hcolumns
      exact hcolumns
    · rename_i hrowid
      exact absurd (hid.trans hp.symm) hrowid
  · intro hcolumns
    obtain ⟨row, hrow, hid⟩ := hstored
    have hrowid : row.id = p.id := hid.trans hp.symm
    refine ⟨_, mem_updateAsync.mpr ⟨row, hrow, rfl⟩, ?_, ?_⟩
    · rw [if_pos hrowid]
      exact hid
    · rw [if_pos hrowid, hrowid]
      exact hcolumns

omit [Host] in
/-- The policy has one row. -/
theorem HasColumns.eq {db : Db} (h : HasColumns policy db) {row : AccessPolicy}
    (hrow : row ∈ db.accessPolicies.rows) (hid : row.id = policy.id) :
    otherColumns row = otherColumns (toRow policy) := by
  obtain ⟨row', hrow', hid', hcolumns⟩ := h
  rw [db.accessPolicies.eq_of_key_eq hrow hrow' (hid.trans hid'.symm)]
  exact hcolumns

/-- What a step of the administrator's call does: it leaves the store and does not report the
policy, it writes the policy, or it has returned before. -/
theorem step_save_cases (hcall : s.save.policy = policy)
    (hid : isNullOrWhiteSpace (some policy.id) = false) :
    ((s.step .save).db = s.db ∧ ¬ Written policy (s.step .save))
      ∨ (s.save.phase = .userFound ∧ (s.step .save).db = updateAsync policy s.db)
      ∨ s.step .save = s := by
  have hstep : ∀ {phase db}, s.save.advance s.db = (phase, db) →
      (s.step .save).db = db ∧ (s.step .save).save.phase = phase := by
    intro phase db hadvance
    show (s.save.advance s.db).2 = db ∧ (s.save.advance s.db).1 = phase
    rw [hadvance]
    exact ⟨rfl, rfl⟩
  cases hphase : s.save.phase with
  | start =>
    refine Or.inl ?_
    unfold Written
    cases hget : UserRepository.getByIdAsync s.db s.save.id with
    | none =>
      have hadvance : s.save.advance s.db
          = (.done (.ok (.notFound (UsersController.userNotFound s.save.id))), s.db) := by
        simp only [SaveCall.advance, hphase, hget]
      obtain ⟨hdb, hphase'⟩ := hstep hadvance
      exact ⟨hdb, by rw [hphase']; simp⟩
    | some user =>
      have hadvance : s.save.advance s.db = (.userFound, s.db) := by
        simp only [SaveCall.advance, hphase, hget]
      obtain ⟨hdb, hphase'⟩ := hstep hadvance
      exact ⟨hdb, by rw [hphase']; simp⟩
  | userFound =>
    -- The policy has an id, so the call updates and does not insert.
    have hadvance : s.save.advance s.db = (.done (.ok (.ok policy)), updateAsync policy s.db) := by
      simp [SaveCall.advance, hphase, hcall, hid]
    exact Or.inr (Or.inl ⟨rfl, (hstep hadvance).1⟩)
  | done result =>
    refine Or.inr (Or.inr ?_)
    obtain ⟨evaluations, id, p, phase⟩ := s
    cases hphase
    rfl

/-- What a move of an evaluation does to the store: it writes the policy that the call is ready to
write, or nothing. -/
theorem db_step_evaluation {i : Nat} {c : Call} (hc : s.evaluations.calls[i]? = some c) :
    (s.step (.evaluation i)).db
      = match c.phase with
        | .readyToWrite p _ => updateAsync p s.db
        | _ => s.db := by
  have hdb : (s.step (.evaluation i)).db = (c.advance s.db).2 := by
    simp [System.step, System.db, ConcurrentEvaluation.System.step, hc]
  rw [hdb]
  obtain ⟨r, phase⟩ := c
  cases phase <;> rfl

/-- An evaluation that is not there does not move. -/
theorem step_evaluation_of_none {i : Nat} (hc : s.evaluations.calls[i]? = none) :
    s.step (.evaluation i) = s := by
  simp [System.step, ConcurrentEvaluation.System.step, hc]

/-- Every step keeps the context. -/
theorem Editing.step (h : Editing policy s) (hid : isNullOrWhiteSpace (some policy.id) = false)
    (m : Move) : Editing policy (s.step m) := by
  cases m with
  | save =>
    refine ⟨h.call, ?_⟩
    rcases step_save_cases h.call hid with ⟨hdb, -⟩ | ⟨-, hdb⟩ | hsame
    · rw [hdb]
      exact h.stored
    · rw [hdb]
      exact exists_row_updateAsync policy h.stored
    · rw [hsame]
      exact h.stored
  | evaluation i =>
    refine ⟨h.call, ?_⟩
    cases hc : s.evaluations.calls[i]? with
    | none =>
      rw [step_evaluation_of_none hc]
      exact h.stored
    | some c =>
      rw [db_step_evaluation hc]
      split
      · exact exists_row_updateAsync _ h.stored
      · exact h.stored

/-- The step lemma: the edit stands after a step exactly when the step meets the condition. -/
theorem editStands_step_iff (h : Editing policy s) (hstands : EditStands policy s)
    (hid : isNullOrWhiteSpace (some policy.id) = false) (m : Move) :
    EditStands policy (s.step m) ↔ KeepsEdit policy s m := by
  cases m with
  | save =>
    refine iff_of_true ?_ trivial
    rcases step_save_cases h.call hid with ⟨-, hnot⟩ | ⟨-, hdb⟩ | hsame
    · exact fun hwritten => absurd hwritten hnot
    · intro _
      rw [hdb]
      exact (hasColumns_updateAsync_iff h.stored rfl).mpr rfl
    · rw [hsame]
      exact hstands
  | evaluation i =>
    cases hc : s.evaluations.calls[i]? with
    | none =>
      rw [step_evaluation_of_none hc]
      refine iff_of_true hstands fun c hmem => ?_
      rw [hc] at hmem
      cases hmem
    | some c =>
      have hkeeps : KeepsEdit policy s (.evaluation i) ↔ WritesStored policy s c := by
        simp [KeepsEdit, hc]
      rw [hkeeps]
      unfold EditStands
      rw [db_step_evaluation hc]
      obtain ⟨r, phase⟩ := c
      -- Only a call that is ready to write changes the store.
      cases phase with
      | readyToWrite p result =>
        constructor
        · intro hafter hwritten hp row hrow hrowid
          rw [(hasColumns_updateAsync_iff h.stored hp).mp (hafter hwritten),
            (hstands hwritten).eq hrow hrowid]
        · intro hwrites hwritten
          by_cases hp : p.id = policy.id
          · -- The row stood, and the write repeats its columns.
            obtain ⟨row, hrow, hrowid, hcolumns⟩ := hstands hwritten
            rw [hasColumns_updateAsync_iff h.stored hp, hwrites hwritten hp row hrow hrowid]
            exact hcolumns
          · exact hasColumns_updateAsync_of_ne hp (hstands hwritten)
      | _ => exact iff_of_true hstands trivial

/-! ### Runs -/

omit [Host] in
/-- Before the first move, the row of the policy is stored. -/
theorem editing_init {db : Db} (hstored : policy.id ∈ db.accessPolicies.keys) (id : String)
    (requests : List Request) : Editing policy (System.init db id policy requests) where
  call := rfl
  stored := Relational.Table.mem_keys.mp hstored

omit [Host] in
/-- Before the first move, the edit is not written. -/
theorem not_written_init {db : Db} {id : String} {requests : List Request} :
    ¬ Written policy (System.init db id policy requests) := by
  intro hwritten
  cases hwritten

/-- For a save of a stored policy among any number of evaluations: from the save on, the row has
the columns that `SavePolicy` wrote, at every point of the run, if and only if every evaluation
that writes the policy after the save writes in these columns what is stored. -/
theorem editStands_iff (db : Db) (id : String) (policy : AccessPolicy) (requests : List Request)
    (schedule : List Move) (hid : isNullOrWhiteSpace (some policy.id) = false)
    (hstored : policy.id ∈ db.accessPolicies.keys) :
    (∀ steps, steps <+: schedule →
        EditStands policy (steps.foldl System.step (System.init db id policy requests)))
      ↔ StepsMeet System.step (KeepsEdit policy) (System.init db id policy requests) schedule :=
  stepsMeet_iff_of_context (C := Editing policy) (I := EditStands policy)
    (fun _ m h => h.step hid m) (fun _ m h hstands => editStands_step_iff h hstands hid m)
    schedule _
    (editing_init hstored id requests) fun hwritten => absurd hwritten not_written_init

/-! ### When the condition is met -/

/-- What a call has read of the policy has the columns that `SavePolicy` writes. -/
def Knows (policy : AccessPolicy) : ConcurrentEvaluation.Phase → Prop
  | .userPoliciesRead _ userPolicies =>
    ∀ p ∈ userPolicies, p.id = policy.id → otherColumns (toRow p) = otherColumns (toRow policy)
  | .readyToWrite p _ => p.id = policy.id → otherColumns (toRow p) = otherColumns (toRow policy)
  | _ => True

/-- The call has not read policies, or it has returned. -/
def Idle : ConcurrentEvaluation.Phase → Prop
  | .userPoliciesRead _ _ => False
  | .readyToWrite _ _ => False
  | _ => True

/-- When `SavePolicy` writes, every evaluation is idle. -/
def WritesQuietly (s : System) (m : Move) : Prop :=
  m = .save → s.save.phase = .userFound → ∀ c ∈ s.evaluations.calls, Idle c.phase

omit [Host] in
/-- A call that is between two accesses has read nothing that is out of date. -/
theorem Idle.knows {phase : ConcurrentEvaluation.Phase} (h : Idle phase) : Knows policy phase := by
  cases phase with
  | userPoliciesRead user policies => exact h.elim
  | readyToWrite p result => exact h.elim
  | _ => trivial

/-- A read of the policy has the columns of its row. -/
theorem columns_ofRow (hread : toRow (ofRow (toRow policy)) = toRow policy) {db : Db}
    (h : HasColumns policy db) {row : AccessPolicy} (hrow : row ∈ db.accessPolicies.rows)
    (hid : (ofRow row).id = policy.id) :
    otherColumns (toRow (ofRow row)) = otherColumns (toRow policy) := by
  have hcolumns := h.eq hrow hid
  calc otherColumns (toRow (ofRow row))
      = toRow (ofRow (otherColumns row)) := rfl
    _ = toRow (ofRow (otherColumns (toRow policy))) := by rw [hcolumns]
    _ = otherColumns (toRow (ofRow (toRow policy))) := rfl
    _ = otherColumns (toRow policy) := by rw [hread]

/-- The decision of a call writes a policy that it has read. -/
theorem knows_decide (hread : toRow (ofRow (toRow policy)) = toRow policy) {db : Db}
    (h : HasColumns policy db) (r : Request) {user : User} {userPolicies : List AccessPolicy}
    (hknows : Knows policy (.userPoliciesRead user userPolicies)) :
    Knows policy (r.decide user userPolicies db) := by
  unfold Request.decide
  cases hfind : (HardwareSlotSyncWorker.policiesAt userPolicies
      (getByAccessPointIdAsync db r.accessPoint.id)).find? (Evaluate.isActive r.checkTime) with
  | none =>
    obtain ⟨-, hwrite⟩ := @Evaluate.decideAccess_of_find_eq_none user _ _ _ hfind
    rcases hd : decideAccess user userPolicies (getByAccessPointIdAsync db r.accessPoint.id)
      r.checkTime with ⟨result, write⟩
    rw [hd] at hwrite
    cases hwrite
    trivial
  | some p =>
    rw [Evaluate.decideAccess_of_find hfind]
    by_cases htype : p.scheduleType = .oneTime
    · rw [if_pos htype]
      -- Taking off a use leaves the other columns.
      show p.id = policy.id → otherColumns (toRow p) = otherColumns (toRow policy)
      intro hid
      cases UseLimits.mem_policiesAt (List.mem_of_find?_eq_some hfind) with
      | inl hp => exact hknows p hp hid
      | inr hp =>
        obtain ⟨row, hrow, rfl, -⟩ := mem_getByAccessPointIdAsync.mp hp
        exact columns_ofRow hread h hrow hid
    · rw [if_neg htype]
      trivial

/-- The next phase of a call, when the edit stands. -/
theorem knows_advance (hread : toRow (ofRow (toRow policy)) = toRow policy) {db : Db}
    (h : HasColumns policy db) {c : Call} (hknows : Knows policy c.phase) :
    Knows policy (c.advance db).1 := by
  obtain ⟨r, phase⟩ := c
  cases phase with
  | start =>
    refine Idle.knows ?_
    show Idle (r.matchUser db)
    unfold Request.matchUser
    split
    · trivial
    · split
      · trivial
      · split <;> trivial
  | matched user =>
    -- The read comes after the edit.
    intro p hp hid
    obtain ⟨row, hrow, rfl⟩ := exists_row_of_mem_getByUserIdAsync hp
    exact columns_ofRow hread h hrow hid
  | userPoliciesRead user userPolicies => exact knows_decide hread h r hknows
  | readyToWrite p result => trivial
  | done result => trivial

/-- The edit stands, and the calls have not read an older policy. -/
structure Settled (policy : AccessPolicy) (s : System) : Prop where
  editing : Editing policy s
  stands : EditStands policy s
  knows : Written policy s → ∀ c ∈ s.evaluations.calls, Knows policy c.phase

/-- The step lemma: the edit stands after a move that keeps it. -/
theorem Settled.step (h : Settled policy s) (hid : isNullOrWhiteSpace (some policy.id) = false)
    (hread : toRow (ofRow (toRow policy)) = toRow policy) (m : Move) (hm : WritesQuietly s m) :
    Settled policy (s.step m) := by
  cases m with
  | save =>
    refine ⟨h.editing.step hid .save,
      (editStands_step_iff h.editing h.stands hid .save).mpr trivial, fun hwritten => ?_⟩
    rcases step_save_cases h.editing.call hid with ⟨-, hnot⟩ | ⟨hphase, -⟩ | hsame
    · exact absurd hwritten hnot
    -- The write of the policy: every call has still to read.
    · exact fun c hc => (hm rfl hphase c hc).knows
    · rw [hsame] at hwritten ⊢
      exact h.knows hwritten
  | evaluation i =>
    have hkeeps : KeepsEdit policy s (.evaluation i) := by
      intro c hc
      have hknows := fun hwritten => h.knows hwritten c (List.mem_of_getElem? hc)
      unfold WritesStored
      split
      · rename_i p result hphase
        rw [hphase] at hknows
        exact fun hwritten hp row hrow hid =>
          (hknows hwritten hp).trans ((h.stands hwritten).eq hrow hid).symm
      · trivial
    refine ⟨h.editing.step hid _,
      (editStands_step_iff h.editing h.stands hid _).mpr hkeeps, fun hwritten c hc => ?_⟩
    cases hi : s.evaluations.calls[i]? with
    | none =>
      rw [step_evaluation_of_none hi] at hwritten hc
      exact h.knows hwritten c hc
    | some c' =>
      have hcalls : (s.step (.evaluation i)).evaluations.calls
          = s.evaluations.calls.set i { c' with phase := (c'.advance s.db).1 } := by
        simp [System.step, System.db, ConcurrentEvaluation.System.step, hi]
      rw [hcalls] at hc
      -- The calls that did not move know what they knew.
      cases List.mem_or_eq_of_mem_set hc with
      | inl hc => exact h.knows hwritten c hc
      | inr hc =>
        rw [hc]
        exact knows_advance hread (h.stands hwritten)
          (h.knows hwritten c' (List.mem_of_getElem? hi))

/-- An edit stands when it reads back as it was written, and no evaluation is between its read of
policies and its end when `SavePolicy` writes. -/
theorem editStands_of_quiet (db : Db) (id : String) (policy : AccessPolicy)
    (requests : List Request) (schedule : List Move)
    (hid : isNullOrWhiteSpace (some policy.id) = false)
    (hstored : policy.id ∈ db.accessPolicies.keys)
    (hread : toRow (ofRow (toRow policy)) = toRow policy)
    (hquiet : StepsMeet System.step WritesQuietly (System.init db id policy requests) schedule) :
    EditStands policy (schedule.foldl System.step (System.init db id policy requests)) := by
  have hrun := @invariant_of_stepsMeet _ _ System.step WritesQuietly (Settled policy)
    (fun _ m h hm => h.step hid hread m hm) schedule (System.init db id policy requests)
    ⟨editing_init hstored id requests, fun hwritten => absurd hwritten not_written_init,
      fun hwritten => absurd hwritten not_written_init⟩ hquiet
  exact hrun.stands

end

/-! ### A use of a policy that is being disabled -/

section
/-- The host of the samples. -/
local instance : Host := Host.sample

open UseLimits (entry oneUse)
open Evaluate (frontDoor)

/-- The policy of the one use, disabled. -/
def disabled : AccessPolicy where
  id := "once"
  scheduleType := .oneTime
  remainingUses := some 1
  isEnabled := false

/-- The keypad event comes after the edit, and the row has the columns of the edit. -/
theorem editStands_iff_disabled :
    HasColumns disabled
      ([Move.save, .save, .evaluation 0, .evaluation 0, .evaluation 0, .evaluation 0].foldl
        System.step (System.init oneUse "guest" disabled [entry frontDoor])).db :=
  (editStands_iff oneUse "guest" disabled [entry frontDoor]
    [.save, .save, .evaluation 0, .evaluation 0, .evaluation 0, .evaluation 0] (by decide)
    (by decide)).mpr (by decide) _ List.prefix_rfl (by decide)

/-- The evaluation reads the policy before the edit, and writes it afterwards. -/
def editBetween : List Move :=
  [.evaluation 0, .evaluation 0, .evaluation 0, .save, .save, .evaluation 0]

/-- The disabled policy is enabled again when all calls have returned. -/
theorem disabled_policy_is_enabled_again :
    ¬ ∀ (db : Db) (id : String) (policy : AccessPolicy) (requests : List Request)
        (schedule : List Move), isNullOrWhiteSpace (some policy.id) = false →
      policy.id ∈ db.accessPolicies.keys →
        Finished (schedule.foldl System.step (System.init db id policy requests)) →
          EditStands policy (schedule.foldl System.step (System.init db id policy requests)) := by
  intro h
  have hfinished : Finished
      (editBetween.foldl System.step (System.init oneUse "guest" disabled [entry frontDoor])) := by
    refine ⟨⟨_, rfl⟩, fun c hc => ?_⟩
    cases List.mem_singleton.mp hc
    exact ⟨_, rfl⟩
  have hstands := h oneUse "guest" disabled [entry frontDoor] editBetween (by decide) (by decide)
    hfinished (by decide)
  obtain ⟨row, hrow, -, hcolumns⟩ := hstands
  have henabled : ∀ row ∈ (editBetween.foldl System.step
      (System.init oneUse "guest" disabled [entry frontDoor])).db.accessPolicies.rows,
      row.isEnabled = true := by decide
  have hdisabled : row.isEnabled = false := congrArg AccessPolicy.isEnabled hcolumns
  rw [henabled row hrow] at hdisabled
  cases hdisabled

end

end CodeMaster.Proofs.Web.StandingEdit
