import CodeMaster.Proofs.Engine.Accounting

/-!
# `CodeMaster.Proofs.Engine.OpeningActions`: which keypad events spend a pass?

The schema says that the uses of a one-time policy are decremented on unlock. `EvaluateAsync` does
not look at the action of the event, so it takes a use off for every entry that it grants under
such a policy, also when the event locks or arms. `UnderOneTime` is the entry that spends, and
`SpendsOnOpening` the condition that it opens. No column but the counter matters, so nothing is
assumed about how the others read back.

A run is a sequence of evaluations, each over the database that the one before has left. The exact
form says of the whole sequence that the uses spent are those of the openings, and the condition is
on an entry and on the rows before it.
-/

set_option autoImplicit false

namespace CodeMaster.Proofs.Engine.OpeningActions

open CodeMaster.Core Data CodeMaster.Engine AccessPolicyEvaluator ConcurrentEvaluation Transition
open AccessPolicyRepository Evaluate
open Accounting (uses uses_pos_of_decides exists_row_of_mem_policiesOf grantedUnderId answer after)

/-- The event opens the door: an unlock or a disarm. -/
def opens (r : Request) : Bool :=
  r.keypadEvent.action = .unlock ∨ r.keypadEvent.action = .disarm

section
variable [Host]

/-- The policies decide about the user at the door of the request, and the first active one is a
one-time policy. -/
def DecidedByOneTime (db : Db) (r : Request) (u : User) : Prop :=
  ∃ p, (policiesOf db r.accessPoint.id u).find?
      (isActive (r.evaluationTimeUtc.getD r.keypadEvent.timestamp)) = some p
    ∧ p.scheduleType = .oneTime

/-- The PIN is that of an active user for whom a one-time policy decides. -/
def UnderOneTime (db : Db) (r : Request) : Prop :=
  isNullOrWhiteSpace r.keypadEvent.pin = false
    ∧ ∃ u, FirstHolder db (r.keypadEvent.pin.getD "") u ∧ u.isActive = true
      ∧ DecidedByOneTime db r u

/-- An entry under a one-time policy opens the door. -/
def SpendsOnOpening (db : Db) (r : Request) : Prop := UnderOneTime db r → opens r = true

variable {db : Db} {r : Request}

/-! ### One call -/

/-- The store after an entry under a one-time policy. -/
structure Spends (db : Db) (r : Request) (row : AccessPolicy) : Prop where
  stored : row ∈ db.accessPolicies.rows
  scheduleType : row.scheduleType = .oneTime
  uses_pos : 0 < uses row
  isValid : (answer db r).isValid = true
  policy : (answer db r).policy = some (spendUse (ofRow row))
  store : after db r = updateAsync (spendUse (ofRow row)) db

/-- An entry under a one-time policy takes one use off its row. -/
theorem exists_spends (h : UnderOneTime db r) : ∃ row, Spends db r row := by
  obtain ⟨hpin, u, hholder, hactive, p, hfind, htype⟩ := h
  have hdecides : Decides r.keypadEvent r.accessPoint r.evaluationTimeUtc db u p :=
    ⟨hpin, hholder, hactive, hfind⟩
  have hpos := uses_pos_of_decides hdecides htype
  have hspent : spent p = spendUse p := if_pos htype
  have heval := evaluateAsync_of_decides hdecides
  rw [if_pos htype, hspent] at heval
  obtain ⟨row, hrow, rfl⟩ := exists_row_of_mem_policiesOf (List.mem_of_find?_eq_some hfind)
  exact ⟨row, hrow, htype, hpos, by rw [answer, heval], by rw [answer, heval],
    by rw [after, heval]; rfl⟩

/-- Every other call leaves the store, and grants nothing under a one-time policy. -/
theorem kept_of_not_underOneTime (h : ¬UnderOneTime db r) :
    after db r = db ∧ ∀ row ∈ db.accessPolicies.rows, row.scheduleType = .oneTime →
      grantedUnderId row.id (answer db r) = false := by
  unfold after answer
  rcases denied_or_decides r.keypadEvent r.accessPoint r.evaluationTimeUtc db with
    ⟨hdenied, hstore⟩ | ⟨u, p, hdecides⟩
  · refine ⟨hstore, fun _ _ _ => ?_⟩
    rw [grantedUnderId, hdenied, Bool.false_and]
  · have htype : p.scheduleType ≠ .oneTime := fun htype =>
      h ⟨hdecides.pin, u, hdecides.holder, hdecides.active, p, hdecides.find, htype⟩
    rw [evaluateAsync_of_decides hdecides, if_neg htype]
    refine ⟨rfl, fun row hrow honeTime => ?_⟩
    -- The policy that grants has another row, because it has another type.
    obtain ⟨row', hrow', rfl⟩ :=
      exists_row_of_mem_policiesOf (List.mem_of_find?_eq_some hdecides.find)
    have hid : row'.id ≠ row.id := by
      intro hid
      rw [← db.accessPolicies.eq_of_key_eq hrow' hrow hid] at honeTime
      exact htype honeTime
    simp [grantedUnderId, hid]

/-! ### The counter of a row -/

/-- The one-time policy is stored with so many uses. -/
def HasLeft (db : Db) (policyId : String) (left : Int) : Prop :=
  ∃ row ∈ db.accessPolicies.rows, row.id = policyId ∧ row.scheduleType = .oneTime
    ∧ row.remainingUses = some left

/-- The call opens the door under the policy. -/
def opensUnder (policyId : String) (db : Db) (r : Request) : Bool :=
  opens r && grantedUnderId policyId (answer db r)

/-- The row that an entry writes. -/
theorem Spends.written {row : AccessPolicy} (h : Spends db r row) :
    { toRow (spendUse (ofRow row)) with id := row.id } ∈ (after db r).accessPolicies.rows := by
  rw [h.store]
  exact mem_updateAsync.mpr ⟨row, h.stored, (if_pos rfl).symm⟩

/-- The request that spends a use was granted under the policy of the row. -/
theorem Spends.grantedUnderId_eq {row : AccessPolicy} (h : Spends db r row) (policyId : String) :
    grantedUnderId policyId (answer db r) = decide (row.id = policyId) := by
  rw [grantedUnderId, h.isValid, h.policy, Bool.true_and, Option.any_some]
  rfl

/-- The step lemma: the counter falls by one if the call opens the door under the policy, and else
it stays. -/
theorem hasLeft_after {policyId : String} {left : Int} (hok : SpendsOnOpening db r)
    (h : HasLeft db policyId left) :
    HasLeft (after db r) policyId (left - if opensUnder policyId db r then 1 else 0) := by
  obtain ⟨row, hrow, rfl, htype, hleft⟩ := h
  by_cases hunder : UnderOneTime db r
  · obtain ⟨spentRow, hspends⟩ := exists_spends hunder
    rw [opensUnder, hok hunder, Bool.true_and, hspends.grantedUnderId_eq]
    by_cases hid : spentRow.id = row.id
    · have hrows := db.accessPolicies.eq_of_key_eq hspends.stored hrow hid
      subst hrows
      refine ⟨_, hspends.written, rfl, htype, ?_⟩
      have hpos := hspends.uses_pos
      unfold uses at hpos
      rw [hleft, Option.getD_some] at hpos
      show some (max 0 (spentRow.remainingUses.getD 1 - 1)) = _
      rw [hleft, Option.getD_some, decide_eq_true rfl, if_pos rfl]
      congr 1
      omega
    · refine ⟨row, ?_, rfl, htype, ?_⟩
      · rw [hspends.store]
        exact mem_updateAsync.mpr ⟨row, hrow, (if_neg fun heq => hid heq.symm).symm⟩
      · rw [decide_eq_false hid, if_neg Bool.false_ne_true, Int.sub_zero, hleft]
  · obtain ⟨hstore, hdenied⟩ := kept_of_not_underOneTime hunder
    rw [opensUnder, hdenied row hrow htype, Bool.and_false, if_neg Bool.false_ne_true,
      Int.sub_zero, hstore]
    exact ⟨row, hrow, rfl, htype, hleft⟩

/-- A call that does not open the door leaves the policies exactly if it spends nothing. -/
theorem accessPolicies_after_iff (hopens : opens r = false) :
    (after db r).accessPolicies = db.accessPolicies ↔ SpendsOnOpening db r := by
  constructor
  · intro hsame hunder
    obtain ⟨row, hspends⟩ := exists_spends hunder
    -- The written row would be the one that was read, with a use less.
    have hwritten := hspends.written
    rw [hsame] at hwritten
    have hrows := db.accessPolicies.eq_of_key_eq hwritten hspends.stored rfl
    have hcounter : some (max 0 (row.remainingUses.getD 1 - 1)) = row.remainingUses :=
      congrArg AccessPolicy.remainingUses hrows
    have hpos := hspends.uses_pos
    unfold uses at hpos
    cases hleft : row.remainingUses with
    | none =>
      rw [hleft] at hcounter
      cases hcounter
    | some n =>
      rw [hleft, Option.getD_some, Option.some.injEq] at hcounter
      rw [hleft, Option.getD_some] at hpos
      omega
  · intro hok
    have hunder : ¬UnderOneTime db r := by
      intro hunder
      rw [hok hunder] at hopens
      cases hopens
    rw [(kept_of_not_underOneTime hunder).1]

/-! ### Calls one after the other -/

/-- The run lemma for the counter. -/
theorem hasLeft_afterAll {policyId : String} (requests : List Request) :
    ∀ {db : Db} {left : Int}, StepsMeet after SpendsOnOpening db requests →
      HasLeft db policyId left →
        HasLeft (requests.foldl after db) policyId
          (left - countSteps after (opensUnder policyId) db requests) := by
  induction requests with
  | nil =>
    intro db left _ h
    simpa [countSteps] using h
  | cons r rs ih =>
    intro db left hok h
    have hrest := ih hok.2 (hasLeft_after hok.1 h)
    have hcount : left - ((countSteps after (opensUnder policyId) db (r :: rs) : Nat) : Int)
        = left - (if opensUnder policyId db r then 1 else 0)
          - countSteps after (opensUnder policyId) (after db r) rs := by
      show left - (((if opensUnder policyId db r then 1 else 0)
        + countSteps after (opensUnder policyId) (after db r) rs : Nat) : Int) = _
      split <;> omega
    rw [hcount]
    exact hrest

/-- Only opening actions spend a pass, in a sequence of calls: one with another action leaves the
policies, and at every point the counter of a one-time policy has fallen by the number of calls
that have opened a door under it. -/
structure OpeningsSpend (db : Db) (requests : List Request) : Prop where
  unchanged : ∀ before r, before ++ [r] <+: requests → opens r = false →
    (after (before.foldl after db) r).accessPolicies = (before.foldl after db).accessPolicies
  counted : ∀ before, before <+: requests → ∀ policyId left, HasLeft db policyId left →
    HasLeft (before.foldl after db) policyId
      (left - countSteps after (opensUnder policyId) db before)

/-- Only opening actions spend a pass if and only if no call of the sequence that does not open a
door is a valid entry under a one-time policy. -/
theorem openingsSpend_iff (db : Db) (requests : List Request) :
    OpeningsSpend db requests ↔ StepsMeet after SpendsOnOpening db requests := by
  constructor
  · intro h
    refine stepsMeet_iff_forall.mpr fun before r hbefore => ?_
    cases hopens : opens r with
    | true => exact fun _ => hopens
    | false => exact (accessPolicies_after_iff hopens).mp (h.unchanged before r hbefore hopens)
  · intro h
    refine ⟨fun before r hbefore hopens => ?_, fun before hbefore policyId left hleft => ?_⟩
    · exact (accessPolicies_after_iff hopens).mpr (stepsMeet_iff_forall.mp h before r hbefore)
    · obtain ⟨rest, rfl⟩ := hbefore
      exact hasLeft_afterAll before h.of_prefix hleft

end

section
/-- The host of the samples. -/
local instance : Host := Host.sample

/-- The guest arms the alarm with the PIN, and the one use is gone. -/
theorem arming_spends_pass :
    ¬∀ (db : Db) (requests : List Request), OpeningsSpend db requests := by
  intro h
  let arming : Request :=
    { keypadEvent := { action := .armAway, pin := some "1234", timestamp := { ticks := 0 } }
      accessPoint := frontDoor }
  have hsame := (h UseLimits.oneUse [arming]).unchanged [] arming List.prefix_rfl rfl
  exact absurd hsame (by decide)

end

end CodeMaster.Proofs.Engine.OpeningActions
