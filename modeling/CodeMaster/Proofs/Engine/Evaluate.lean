import CodeMaster.Engine.AccessPolicyEvaluator
import CodeMaster.Engine.HardwareSlotSyncWorker

/-!
# `CodeMaster.Proofs.Engine.Evaluate`: when the keypad grants access

The specification of `evaluateAsync` that the later modules use. `FirstHolder` says which user
the search by PIN finds, and `Decides` which policy lets that user in. Without one a call denies
access and leaves the store (`denied_or_decides`).

The keypad and the slot worker select the policies of a user at a door with two separate
pieces of code. `candidatePolicies_eq` and `policiesAt_eq` show that both take the shared
policies, or else all of the user's, or else all of the door's.

The later modules cite three lemmas and do not unfold the function again: `evaluateAsync_grants_iff`
for what a grant means, `denied_or_decides` for the two kinds of calls, and the lemmas about
`FirstHolder` for the search. The write of a one-time policy is kept apart from the decision.
-/

set_option autoImplicit false

namespace CodeMaster.Proofs.Engine.Evaluate

open CodeMaster.Core Data CodeMaster.Engine AccessPolicyEvaluator HardwareSlotSyncWorker

/-! ### The selection of the policies -/

/-- The user's policies whose id is also an id of a policy of the door. -/
def sharedPolicies (userPolicies doorPolicies : List AccessPolicy) : List AccessPolicy :=
  userPolicies.filter fun up => doorPolicies.any fun dp => dp.id = up.id

/-- The policies of an evaluation are the shared ones, or else those of the user, or else those of the
door. -/
theorem policiesAt_eq (userPolicies doorPolicies : List AccessPolicy) :
    policiesAt userPolicies doorPolicies
      = if sharedPolicies userPolicies doorPolicies ≠ [] then
          sharedPolicies userPolicies doorPolicies
        else if userPolicies ≠ [] then userPolicies else doorPolicies := by
  cases userPolicies with
  | nil => cases doorPolicies <;> simp [policiesAt, sharedPolicies]
  | cons up ups =>
    cases doorPolicies with
    | nil => simp [policiesAt, sharedPolicies]
    | cons dp dps => simp [policiesAt, sharedPolicies, List.length_pos_iff]

/-- The keypad selects what the slot worker selects, and denies access when that is empty. -/
theorem candidatePolicies_eq (userPolicies doorPolicies : List AccessPolicy) :
    candidatePolicies userPolicies doorPolicies
      = if policiesAt userPolicies doorPolicies = [] then none
        else some (policiesAt userPolicies doorPolicies) := by
  cases userPolicies with
  | nil => cases doorPolicies <;> simp [policiesAt, candidatePolicies]
  | cons up ups =>
    cases doorPolicies with
    | nil => simp [policiesAt, candidatePolicies]
    | cons dp dps =>
      -- Both lists have policies, so the intersection decides.
      have hcandidates : candidatePolicies (up :: ups) (dp :: dps)
          = if (sharedPolicies (up :: ups) (dp :: dps)).length > 0 then
              some (sharedPolicies (up :: ups) (dp :: dps))
            else some (up :: ups) := rfl
      rw [hcandidates, policiesAt_eq]
      by_cases hshared : sharedPolicies (up :: ups) (dp :: dps) = []
      · simp [hshared]
      · simp [hshared, List.length_pos_iff.mpr hshared]

/-- The test of both pieces of code on a candidate. -/
def isActive (checkTime : DateTime) (p : AccessPolicy) : Bool :=
  p.isEnabled && p.isActiveAt checkTime

/-- An active policy is active at the time of the check. -/
@[simp] theorem isActive_eq_true_iff {checkTime : DateTime} {p : AccessPolicy} :
    isActive checkTime p = true ↔ p.isActiveAt checkTime = true := by
  rw [isActive, Bool.and_eq_true]
  exact and_iff_right_of_imp AccessPolicy.isEnabled_of_isActiveAt

/-! ### The decision -/

/-- The policy under which access is granted, as the result reports it. -/
def spent (p : AccessPolicy) : AccessPolicy :=
  if p.scheduleType = .oneTime then spendUse p else p

/-- A policy that is spent keeps its id. -/
@[simp] theorem spent_id (p : AccessPolicy) : (spent p).id = p.id := by
  unfold spent
  split <;> rfl

/-- The decision grants access under the first active candidate. -/
theorem decideAccess_of_find {user : User} {userPolicies doorPolicies : List AccessPolicy}
    {checkTime : DateTime} {p : AccessPolicy}
    (h : (policiesAt userPolicies doorPolicies).find? (isActive checkTime) = some p) :
    decideAccess user userPolicies doorPolicies checkTime
      = ({ isValid := true, user := some user, policy := some (spent p) },
          if p.scheduleType = .oneTime then some (spendUse p) else none) := by
  have hne : policiesAt userPolicies doorPolicies ≠ [] := by
    intro hnil
    rw [hnil] at h
    cases h
  have hfind : (policiesAt userPolicies doorPolicies).find?
      (fun p => p.isEnabled && p.isActiveAt checkTime) = some p := h
  simp only [decideAccess, candidatePolicies_eq, if_neg hne, hfind, spent]
  split <;> rfl

/-- Without an active candidate access is denied, and nothing is written. -/
theorem decideAccess_of_find_eq_none {user : User}
    {userPolicies doorPolicies : List AccessPolicy} {checkTime : DateTime}
    (h : (policiesAt userPolicies doorPolicies).find? (isActive checkTime) = none) :
    (decideAccess user userPolicies doorPolicies checkTime).1.isValid = false
      ∧ (decideAccess user userPolicies doorPolicies checkTime).2 = none := by
  have hfind : (policiesAt userPolicies doorPolicies).find?
      (fun p => p.isEnabled && p.isActiveAt checkTime) = none := h
  by_cases hnil : policiesAt userPolicies doorPolicies = []
  · simp [decideAccess, candidatePolicies_eq, hnil]
  · simp [decideAccess, candidatePolicies_eq, hnil, hfind]

/-! ### The search by PIN -/

section
variable [Host]

/-- The credential of the user that the search tries the PIN against first and accepts it. -/
def acceptingCredential (db : Db) (pin : String) (u : User) : Option Credential :=
  (CredentialRepository.getByUserIdAsync db u.id).find? fun cred => verifyPin pin cred

/-- The user is the first one, in the order of names, who holds a credential that accepts the
PIN. -/
def FirstHolder (db : Db) (pin : String) (u : User) : Prop :=
  ∃ before after, UserRepository.getAllAsync db = before ++ u :: after
    ∧ (∃ c ∈ CredentialRepository.getByUserIdAsync db u.id, verifyPin pin c = true)
    ∧ ∀ v ∈ before, ∀ c ∈ CredentialRepository.getByUserIdAsync db v.id, verifyPin pin c = false

/-- The first holder of a PIN is stored. -/
theorem FirstHolder.mem {db : Db} {pin : String} {u : User} (h : FirstHolder db pin u) :
    u ∈ db.users.rows := by
  obtain ⟨before, after, hall, -⟩ := h
  have hu : u ∈ UserRepository.getAllAsync db := by
    rw [hall]
    exact List.mem_append_right _ List.mem_cons_self
  exact UserRepository.mem_getAllAsync.mp hu

/-- The credential that matches is one of the first holder. -/
theorem matchCredential_eq_some {db : Db} {pin : String} {u : User} {c : Credential}
    (h : matchCredential db pin = some (u, c)) :
    FirstHolder db pin u ∧ acceptingCredential db pin u = some c := by
  obtain ⟨before, v, after, hall, hv, hbefore⟩ := List.findSome?_eq_some_iff.mp h
  obtain ⟨c', hc', heq⟩ := Option.map_eq_some_iff.mp hv
  cases heq
  refine ⟨⟨before, after, hall, ⟨c, List.mem_of_find?_eq_some hc', ?_⟩, ?_⟩, hc'⟩
  · simpa using List.find?_some hc'
  · intro w hw c hc
    have hnone := Option.map_eq_none_iff.mp (hbefore w hw)
    simpa using List.find?_eq_none.mp hnone c hc

/-- The search by PIN finds exactly the first holder. -/
theorem exists_matchCredential_iff {db : Db} {pin : String} {u : User} :
    (∃ c, matchCredential db pin = some (u, c)) ↔ FirstHolder db pin u := by
  constructor
  · rintro ⟨c, h⟩
    exact (matchCredential_eq_some h).1
  · rintro ⟨before, after, hall, ⟨c, hc, hverify⟩, hbefore⟩
    -- The search passes over `before` and stops at `u`.
    have hsome : (acceptingCredential db pin u).isSome = true :=
      List.find?_isSome.mpr ⟨c, hc, hverify⟩
    obtain ⟨c', hc'⟩ := Option.isSome_iff_exists.mp hsome
    refine ⟨c', List.findSome?_eq_some_iff.mpr ⟨before, u, after, hall, ?_, ?_⟩⟩
    · exact Option.map_eq_some_iff.mpr ⟨c', hc', rfl⟩
    · intro v hv
      refine Option.map_eq_none_iff.mpr (List.find?_eq_none.mpr fun c hc => ?_)
      simp [hbefore v hv c hc]

/-! ### The answer of `EvaluateAsync` -/

/-- The policies that decide about the user at the door. -/
def policiesOf (db : Db) (accessPointId : String) (u : User) : List AccessPolicy :=
  policiesAt (AccessPolicyRepository.getByUserIdAsync db u.id)
    (AccessPolicyRepository.getByAccessPointIdAsync db accessPointId)

/-- The result lets the user in under the policy. -/
structure Grants (result : AccessEvaluationResult) (u : User) (q : AccessPolicy) : Prop where
  isValid : result.isValid = true
  user : result.user = some u
  policy : result.policy = some q

variable {keypadEvent : KeypadEventDto} {accessPoint : AccessPoint}
  {evaluationTimeUtc : Option DateTime} {db : Db} {u : User} {q : AccessPolicy}

/-- For the first holder, when active, the two policy lists decide. -/
theorem evaluateAsync_eq_of_firstHolder (hpin : isNullOrWhiteSpace keypadEvent.pin = false)
    (hholder : FirstHolder db (keypadEvent.pin.getD "") u) (hactive : u.isActive = true) :
    evaluateAsync keypadEvent accessPoint evaluationTimeUtc db
      = let decision := decideAccess u (AccessPolicyRepository.getByUserIdAsync db u.id)
          (AccessPolicyRepository.getByAccessPointIdAsync db accessPoint.id)
          (evaluationTimeUtc.getD keypadEvent.timestamp)
        (decision.1, writeBack decision.2 db) := by
  obtain ⟨c, hc⟩ := exists_matchCredential_iff.mpr hholder
  simp [evaluateAsync, hpin, hc, hactive]

/-- The PIN is that of the active user `u`, and `p` is the first active policy for `u` at the
door. -/
structure Decides (keypadEvent : KeypadEventDto) (accessPoint : AccessPoint)
    (evaluationTimeUtc : Option DateTime) (db : Db) (u : User) (p : AccessPolicy) : Prop where
  pin : isNullOrWhiteSpace keypadEvent.pin = false
  holder : FirstHolder db (keypadEvent.pin.getD "") u
  active : u.isActive = true
  find : (policiesOf db accessPoint.id u).find?
    (isActive (evaluationTimeUtc.getD keypadEvent.timestamp)) = some p

variable {p : AccessPolicy}

/-- Such a policy grants access, and a one-time policy is written back. -/
theorem evaluateAsync_of_decides (h : Decides keypadEvent accessPoint evaluationTimeUtc db u p) :
    evaluateAsync keypadEvent accessPoint evaluationTimeUtc db
      = ({ isValid := true, user := some u, policy := some (spent p) },
          writeBack (if p.scheduleType = .oneTime then some (spendUse p) else none) db) := by
  rw [evaluateAsync_eq_of_firstHolder h.pin h.holder h.active, decideAccess_of_find h.find]

/-- Without one, a call denies access and leaves the store. -/
theorem denied_or_decides (keypadEvent : KeypadEventDto) (accessPoint : AccessPoint)
    (evaluationTimeUtc : Option DateTime) (db : Db) :
    ((evaluateAsync keypadEvent accessPoint evaluationTimeUtc db).1.isValid = false
        ∧ (evaluateAsync keypadEvent accessPoint evaluationTimeUtc db).2 = db)
      ∨ ∃ u p, Decides keypadEvent accessPoint evaluationTimeUtc db u p := by
  cases hpin : isNullOrWhiteSpace keypadEvent.pin with
  | true => exact Or.inl (by simp [evaluateAsync, hpin])
  | false =>
    cases hmatch : matchCredential db (keypadEvent.pin.getD "") with
    | none => exact Or.inl (by simp [evaluateAsync, hpin, hmatch])
    | some found =>
      obtain ⟨v, c⟩ := found
      have hholder := (matchCredential_eq_some hmatch).1
      cases hactive : v.isActive with
      | false => exact Or.inl (by simp [evaluateAsync, hpin, hmatch, hactive])
      | true =>
        cases hfind : (policiesOf db accessPoint.id v).find?
            (isActive (evaluationTimeUtc.getD keypadEvent.timestamp)) with
        | none =>
          obtain ⟨hvalid, hwrite⟩ := @decideAccess_of_find_eq_none v _ _ _ hfind
          left
          rw [evaluateAsync_eq_of_firstHolder hpin hholder hactive]
          simp only [hwrite]
          exact ⟨hvalid, rfl⟩
        | some p => exact Or.inr ⟨v, p, hpin, hholder, hactive, hfind⟩

/-- A valid result has been decided by a user and a policy. -/
theorem exists_decides_of_isValid
    (h : (evaluateAsync keypadEvent accessPoint evaluationTimeUtc db).1.isValid = true) :
    ∃ u p, Decides keypadEvent accessPoint evaluationTimeUtc db u p :=
  (denied_or_decides keypadEvent accessPoint evaluationTimeUtc db).resolve_left fun hdenied =>
    Bool.false_ne_true (hdenied.1.symm.trans h)

/-- `EvaluateAsync` lets `u` in under `q` when the PIN is not blank, `u` is its first holder
and is active, and `q` is the first active policy with the use taken off. -/
theorem evaluateAsync_grants_iff :
    Grants (evaluateAsync keypadEvent accessPoint evaluationTimeUtc db).1 u q
      ↔ isNullOrWhiteSpace keypadEvent.pin = false
          ∧ FirstHolder db (keypadEvent.pin.getD "") u ∧ u.isActive = true
          ∧ ∃ p, (policiesOf db accessPoint.id u).find?
              (isActive (evaluationTimeUtc.getD keypadEvent.timestamp)) = some p
            ∧ spent p = q := by
  constructor
  · intro h
    -- The user of the result is the first holder, and its policy the first active one.
    obtain ⟨v, p, hdecides⟩ := exists_decides_of_isValid h.isValid
    rw [evaluateAsync_of_decides hdecides] at h
    cases Option.some.inj h.user
    cases Option.some.inj h.policy
    exact ⟨hdecides.pin, hdecides.holder, hdecides.active, p, hdecides.find, rfl⟩
  · rintro ⟨hpin, hholder, hactive, p, hfind, rfl⟩
    rw [evaluateAsync_of_decides ⟨hpin, hholder, hactive, hfind⟩]
    exact ⟨rfl, rfl, rfl⟩

/-- `EvaluateAsync` lets `u` in when the PIN is not blank, `u` is its first holder and is
active, and one of the policies is active. -/
theorem evaluateAsync_isValid_iff :
    (evaluateAsync keypadEvent accessPoint evaluationTimeUtc db).1.isValid = true
        ∧ (evaluateAsync keypadEvent accessPoint evaluationTimeUtc db).1.user = some u
      ↔ isNullOrWhiteSpace keypadEvent.pin = false
          ∧ FirstHolder db (keypadEvent.pin.getD "") u ∧ u.isActive = true
          ∧ ∃ p ∈ policiesOf db accessPoint.id u,
              p.isActiveAt (evaluationTimeUtc.getD keypadEvent.timestamp) = true := by
  constructor
  · rintro ⟨hvalid, huser⟩
    obtain ⟨v, p, hdecides⟩ := exists_decides_of_isValid hvalid
    rw [evaluateAsync_of_decides hdecides] at huser
    cases huser
    refine ⟨hdecides.pin, hdecides.holder, hdecides.active, p,
      List.mem_of_find?_eq_some hdecides.find, ?_⟩
    exact isActive_eq_true_iff.mp (List.find?_some hdecides.find)
  · rintro ⟨hpin, hholder, hactive, p, hp, hactiveAt⟩
    have hsome : ((policiesOf db accessPoint.id u).find?
        (isActive (evaluationTimeUtc.getD keypadEvent.timestamp))).isSome = true :=
      List.find?_isSome.mpr ⟨p, hp, isActive_eq_true_iff.mpr hactiveAt⟩
    obtain ⟨q, hfind⟩ := Option.isSome_iff_exists.mp hsome
    rw [evaluateAsync_of_decides ⟨hpin, hholder, hactive, hfind⟩]
    exact ⟨rfl, rfl⟩

end

/-! ### A store for runs on fixed inputs -/

/-- The user of the samples. -/
def guest : User where
  id := "guest"
  createdAt := { ticks := 0 }
  updatedAt := { ticks := 0 }

/-- The credential of the PIN 1234. -/
def guestPin : Credential where
  id := "pin"
  userId := "guest"
  encryptedValue := some "1234"
  hashedValue := "03ac674216f3e15c761ee1a5e255f067953623c8b388b4459e13f978d7c846f4"
  pinLength := 4
  createdAt := { ticks := 0 }

/-- The front door of the samples. -/
def frontDoor : AccessPoint where
  id := "front"
  createdAt := { ticks := 0 }
  updatedAt := { ticks := 0 }

/-- The side door of the samples. -/
def sideDoor : AccessPoint where
  id := "side"
  createdAt := { ticks := 0 }
  updatedAt := { ticks := 0 }

/-- Two doors, and a guest whose policy is assigned at the front door only. -/
def frontDoorOnly : Db where
  users := .ofList [guest] (by decide)
  credentials := .ofList [guestPin] (by decide)
  accessPoints := .ofList [frontDoor, sideDoor] (by decide)
  accessPolicies := .ofList [{ id := "always" }] (by decide)
  accessAssignments := .ofList [
    { id := "a", accessPointId := "front", userId := some "guest", policyId := "always" }]
    (by decide)

end CodeMaster.Proofs.Engine.Evaluate
