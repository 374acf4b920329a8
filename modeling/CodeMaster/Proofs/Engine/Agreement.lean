import CodeMaster.Proofs.Engine.VerifyPin
import CodeMaster.Proofs.Engine.Evaluate

/-!
# `CodeMaster.Proofs.Engine.Agreement`: the keypad and the slot worker agree

The slot worker goes from the users to their first PIN. The keypad goes from the entered PIN
to the first user that holds it. `mem_desiredAssignments` and `firstHolder_of_own` bring both
to the same question, whether one of the user's policies at the door is active.

The two pieces of code read the same rows. Their difference is in the search: several users can have
one PIN, and then the keypad finds only the first of them, while the worker programs the code for
each. The assumption of the result is that the PIN is the user's own.
-/

set_option autoImplicit false

namespace CodeMaster.Proofs.Engine.Agreement

open CodeMaster.Core Data CodeMaster.Engine AccessPolicyEvaluator HardwareSlotSyncWorker Evaluate

section
variable [Host] {db : Db} {u : User} {c : Credential}

/-- The pairs that the slot worker finds desired. -/
theorem mem_desiredAssignments {accessPoint : AccessPoint} {now : DateTime} :
    (u, c) ∈ desiredAssignments db accessPoint now
      ↔ u ∈ db.users.rows ∧ u.isActive = true
          ∧ (∃ p ∈ policiesOf db accessPoint.id u, p.isActiveAt now = true)
          ∧ (CredentialRepository.getByUserIdAsync db u.id).find? isPinWithValue = some c := by
  have hany : ∀ v : User,
      (policiesOf db accessPoint.id v).any (fun p => p.isEnabled && p.isActiveAt now) = true
        ↔ ∃ p ∈ policiesOf db accessPoint.id v, p.isActiveAt now = true := by
    intro v
    rw [List.any_eq_true]
    exact exists_congr fun p => and_congr_right fun _ => isActive_eq_true_iff
  simp only [desiredAssignments, List.mem_filterMap, List.mem_filter,
    UserRepository.mem_getAllAsync]
  constructor
  · rintro ⟨v, ⟨hv, hactive⟩, h⟩
    split at h
    · rename_i hpolicies
      obtain ⟨d, hd, heq⟩ := Option.map_eq_some_iff.mp h
      cases heq
      exact ⟨hv, hactive, (hany u).mp hpolicies, hd⟩
    · cases h
  · rintro ⟨hu, hactive, hpolicies, hc⟩
    refine ⟨u, ⟨hu, hactive⟩, ?_⟩
    rw [show policiesAt _ _ = policiesOf db accessPoint.id u from rfl,
      if_pos ((hany u).mpr hpolicies), hc]
    rfl

/-- A credential with a value accepts the code that the slot worker programs for it. -/
theorem verifyPin_pinCode (hc : isPinWithValue c = true) : verifyPin (pinCode c) c = true := by
  have hvalue : isNullOrEmpty c.encryptedValue = false ∨ c.hashedValue ≠ "" := by
    simpa [isPinWithValue] using (of_decide_eq_true hc).2
  cases hempty : isNullOrEmpty c.encryptedValue with
  | false =>
    -- The code is the plain PIN, which the last comparison accepts.
    obtain ⟨v, hv, hne⟩ := isNullOrEmpty_eq_false.mp hempty
    have hcode : pinCode c = v := by simp [pinCode, hv, hne]
    unfold verifyPin
    rw [hcode, hv, isNullOrEmpty_some, decide_eq_false hne]
    simp
  | true =>
    -- The code is the stored hash, which the first comparison accepts.
    have hne : c.hashedValue ≠ "" := hvalue.resolve_left (by simp [hempty])
    have hcode : pinCode c = c.hashedValue := by simp [pinCode, hempty]
    have hhash : verifyPinHash c.hashedValue c.hashedValue = true := by
      simp [verifyPinHash, hne]
    unfold verifyPin
    rw [hcode, hhash, isNullOrEmpty_some, decide_eq_false hne]
    rfl

/-- A user whose credential accepts a PIN that no other user's credential accepts is its first
holder. -/
theorem firstHolder_of_own {pin : String} (hu : u ∈ db.users.rows)
    (hc : c ∈ CredentialRepository.getByUserIdAsync db u.id) (hverify : verifyPin pin c = true)
    (hown : ∀ d ∈ db.credentials.rows, d.userId ≠ u.id → verifyPin pin d = false) :
    FirstHolder db pin u := by
  obtain ⟨before, after, hall⟩ :=
    List.append_of_mem (UserRepository.mem_getAllAsync.mpr hu)
  refine ⟨before, after, hall, ⟨c, hc, hverify⟩, fun v hv d hd => ?_⟩
  obtain ⟨hd, hdv⟩ := CredentialRepository.mem_getByUserIdAsync.mp hd
  refine hown d hd ?_
  rw [hdv]
  -- A user before `u` has another id.
  intro hid
  have hnodup := UserRepository.getAllAsync_nodup db
  rw [hall, List.map_append, List.map_cons, List.nodup_append] at hnodup
  exact hnodup.2.2 _ (List.mem_map.mpr ⟨v, hv, rfl⟩) _ List.mem_cons_self hid

/-- For an active user with a first PIN credential whose code is not blank and is accepted by
no other user's credential: the slot worker finds the pair desired at a door and a time if and
only if the keypad lets the user in with that code at the same door and time. -/
theorem desired_iff_evaluateAsync (db : Db) (accessPoint : AccessPoint) (now : DateTime)
    (keypadEvent : KeypadEventDto) (u : User) (c : Credential) (hu : u ∈ db.users.rows)
    (hactive : u.isActive = true)
    (hc : (CredentialRepository.getByUserIdAsync db u.id).find? isPinWithValue = some c)
    (hpin : keypadEvent.pin = some (pinCode c))
    (hblank : isNullOrWhiteSpace (some (pinCode c)) = false)
    (hown : ∀ d ∈ db.credentials.rows, d.userId ≠ u.id → verifyPin (pinCode c) d = false) :
    (u, c) ∈ desiredAssignments db accessPoint now
      ↔ (evaluateAsync keypadEvent accessPoint (some now) db).1.isValid = true
          ∧ (evaluateAsync keypadEvent accessPoint (some now) db).1.user = some u := by
  have hholder : FirstHolder db (keypadEvent.pin.getD "") u := by
    rw [hpin]
    exact firstHolder_of_own hu (List.mem_of_find?_eq_some hc)
      (verifyPin_pinCode (List.find?_some hc)) hown
  rw [mem_desiredAssignments, evaluateAsync_isValid_iff, hpin]
  constructor
  -- Both sides come down to an active policy among `policiesOf`.
  · rintro ⟨-, -, hpolicies, -⟩
    exact ⟨hblank, hpin ▸ hholder, hactive, hpolicies⟩
  · rintro ⟨-, -, -, hpolicies⟩
    exact ⟨hu, hactive, hpolicies, hc⟩

end

section
/-- The host of the samples. -/
local instance : Host := Host.sample

/-- The guest at the front door: desired by the slot worker, and let in by the keypad. -/
theorem desired_iff_evaluateAsync_frontDoorOnly :
    (guest, guestPin) ∈ desiredAssignments frontDoorOnly frontDoor ⟨0, .utc⟩
      ↔ (evaluateAsync { pin := some "1234", timestamp := ⟨0, .utc⟩ } frontDoor
            (some ⟨0, .utc⟩) frontDoorOnly).1.isValid = true
          ∧ (evaluateAsync { pin := some "1234", timestamp := ⟨0, .utc⟩ } frontDoor
            (some ⟨0, .utc⟩) frontDoorOnly).1.user = some guest :=
  desired_iff_evaluateAsync frontDoorOnly frontDoor ⟨0, .utc⟩
    { pin := some "1234", timestamp := ⟨0, .utc⟩ } guest guestPin (by decide) (by decide)
    (by decide) (by decide) (by decide) (by decide)

end

end CodeMaster.Proofs.Engine.Agreement
