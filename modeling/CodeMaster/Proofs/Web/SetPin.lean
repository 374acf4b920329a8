import CodeMaster.Web.UsersController
import CodeMaster.Proofs.Engine.Reconcile

/-!
# `CodeMaster.Proofs.Web.SetPin`: what a change of PIN replaces

`SetPin` adds a credential and takes none away. `PinReplaced` is what a sequence of changes
should reach: the keypad and the lock take the last PIN of the user and none of the others.
The keypad tries every credential of the user, so it takes all of them
(`evaluateAsync_setPins`). The slot worker programs the first one in the order of creation, so
the lock gets the oldest (`find?_setPins`). `pinReplaced_iff` puts the two together.

A sequence of changes can set a PIN again that was set before, or the PIN that is valid already. The
condition of the exact form is that it does nothing else: all PINs of the sequence are the last one,
and so is the PIN of the first credential that the user had before, if there is one.

The keypad and the lock are asked after the whole sequence and after one pass of the worker with
calls that succeed. The setting of the door lets the user in, so that the answers depend on the PIN
alone.
-/

set_option autoImplicit false

namespace CodeMaster.Proofs.Web.SetPin

open CodeMaster.Core Data CodeMaster.Engine CodeMaster.Web Exec
open AccessPolicyEvaluator HardwareSlotSyncWorker UsersController
open Engine.VerifyPin (StoresPin verifyPin_self)
open Engine.Reconcile

/-- A call of `SetPin`, and the time at which it runs. -/
structure PinChange where
  request : SetPinRequest
  utcNow : DateTime

section
variable [Host]

/-- The calls on the user, one after the other. -/
def setPins (id : String) (changes : List PinChange) (db : Db) : Db :=
  changes.foldl (fun db change => ((setPin id change.request change.utcNow).exec db).2) db

/-- The credential that a change adds. -/
structure IsPinOf (id : String) (change : PinChange) (c : Credential) : Prop where
  userId : c.userId = id
  type : c.type = .pin
  storesPin : StoresPin change.request.pin c
  createdAt : c.createdAt = change.utcNow

/-- A change adds one credential under an id that no slot row names, and nothing else. -/
theorem exec_setPin {db : Db} {id : String} {change : PinChange} (hid : id ∈ db.users.keys)
    (hpin : isNullOrWhiteSpace (some change.request.pin) = false) :
    ∃ credentials c, ((setPin id change.request change.utcNow).exec db).2 = { db with credentials }
      ∧ credentials.rows = db.credentials.rows ++ [c] ∧ IsPinOf id change c
      ∧ ∀ s ∈ db.hardwareSlots.rows, s.credentialId ≠ some c.id := by
  obtain ⟨u, hu⟩ : ∃ u, UserRepository.getByIdAsync db id = some u := by
    refine Option.ne_none_iff_exists'.mp fun hnone => ?_
    exact UserRepository.getByIdAsync_eq_none_iff.mp hnone hid
  obtain ⟨credentials, hinsert, hrows⟩ := @CredentialRepository.insertAsync_of_new
    (pinCredential db.newGuid id change.request.pin change.request.label change.utcNow) db
    db.newGuid_notMem_credentials hid
  refine ⟨credentials, _, ?_, hrows, ⟨rfl, rfl, ⟨rfl, rfl⟩, rfl⟩, fun s hs => ?_⟩
  · simp only [setPin, exec_bind, exec_query, hu, hpin, Bool.false_eq_true, if_false,
      exec_statement_of_ok hinsert, exec_pure]
  · exact db.newGuid_ne_credentialId hs

/-- The credentials that a sequence of changes adds. -/
structure AddsPins (id : String) (changes : List PinChange) (db : Db)
    (added : List Credential) : Prop where
  pin : ∀ change ∈ changes, ∃ c ∈ added, IsPinOf id change c
  change : ∀ c ∈ added, ∃ change ∈ changes, IsPinOf id change c
  slot : ∀ c ∈ added, ∀ s ∈ db.hardwareSlots.rows, s.credentialId ≠ some c.id

/-- The changes add their credentials, and nothing else. -/
theorem setPins_spec {id : String} : ∀ (changes : List PinChange) (db : Db), id ∈ db.users.keys →
    (∀ change ∈ changes, isNullOrWhiteSpace (some change.request.pin) = false) →
    ∃ credentials added, setPins id changes db = { db with credentials }
      ∧ credentials.rows = db.credentials.rows ++ added ∧ AddsPins id changes db added := by
  intro changes
  -- The induction is over the changes: the later ones find the database that the first one leaves.
  induction changes with
  | nil =>
    intro db _ _
    exact ⟨db.credentials, [], rfl, (List.append_nil _).symm, nofun, nofun, nofun⟩
  | cons change changes ih =>
    intro db hid hpins
    obtain ⟨table, c, hstep, hrows, hc, hslots⟩ :=
      exec_setPin hid (hpins change List.mem_cons_self)
    obtain ⟨credentials, added, hrest, hadded, hadds⟩ :=
      ih { db with credentials := table } hid
        fun change' hchange => hpins change' (List.mem_cons_of_mem _ hchange)
    refine ⟨credentials, c :: added, ?_, ?_, ⟨?_, ?_, ?_⟩⟩
    · rw [setPins, List.foldl_cons, hstep]
      exact hrest
    · rw [hadded, hrows, List.append_assoc, List.singleton_append]
    · intro change' hchange
      rcases List.mem_cons.mp hchange with rfl | hchange
      · exact ⟨c, List.mem_cons_self, hc⟩
      · obtain ⟨d, hd, hpin⟩ := hadds.pin change' hchange
        exact ⟨d, List.mem_cons_of_mem _ hd, hpin⟩
    · intro d hd
      rcases List.mem_cons.mp hd with rfl | hd
      · exact ⟨change, List.mem_cons_self, hc⟩
      · obtain ⟨change', hchange, hpin⟩ := hadds.change d hd
        exact ⟨change', List.mem_cons_of_mem _ hchange, hpin⟩
    · intro d hd
      rcases List.mem_cons.mp hd with rfl | hd
      · exact hslots
      · exact hadds.slot d hd

/-! ### The keypad -/

/-- A change's credential has a code, which is the PIN of the change. -/
theorem IsPinOf.pinCode {id : String} {change : PinChange} {c : Credential}
    (h : IsPinOf id change c) (hpin : change.request.pin ≠ "") :
    isPinWithValue c = true ∧ HardwareSlotSyncWorker.pinCode c = change.request.pin := by
  have hvalue := h.storesPin.encryptedValue
  constructor
  · simp [isPinWithValue, h.type, hvalue, hpin]
  · simp [HardwareSlotSyncWorker.pinCode, hvalue, hpin]

variable {db : Db} {accessPoint : AccessPoint} {now : DateTime} {u : User}
  {changes : List PinChange}

/-- An active user with an active policy at the door sets PINs that are not blank and that no
other user's credential accepts, and the creation times of the user's credentials increase. -/
structure Setting (db : Db) (accessPoint : AccessPoint) (now : DateTime) (u : User)
    (changes : List PinChange) : Prop where
  user : u ∈ db.users.rows
  isActive : u.isActive = true
  policy : ∃ p ∈ Engine.Evaluate.policiesOf db accessPoint.id u, p.isActiveAt now = true
  pin : ∀ change ∈ changes, isNullOrWhiteSpace (some change.request.pin) = false
  own : ∀ d ∈ db.credentials.rows, d.userId ≠ u.id → ∀ change ∈ changes,
    verifyPin change.request.pin d = false
  earlier : ∀ c ∈ db.credentials.rows, c.userId = u.id → ∀ change ∈ changes,
    c.createdAt.ticks < change.utcNow.ticks
  inOrder : ∀ c ∈ db.credentials.rows, ∀ c' ∈ db.credentials.rows, c.userId = u.id →
    c'.userId = u.id → c.createdAt.ticks = c'.createdAt.ticks → c = c'

/-- The keypad takes every PIN that was set. -/
theorem evaluateAsync_setPins (h : Setting db accessPoint now u changes) {change : PinChange}
    (hchange : change ∈ changes) {keypadEvent : KeypadEventDto}
    (hevent : keypadEvent.pin = some change.request.pin) :
    (evaluateAsync keypadEvent accessPoint (some now) (setPins u.id changes db)).1.isValid = true
      ∧ (evaluateAsync keypadEvent accessPoint (some now) (setPins u.id changes db)).1.user
        = some u := by
  obtain ⟨credentials, added, hdb, hrows, hadds⟩ :=
    setPins_spec changes db (Relational.Table.mem_keys.mpr ⟨u, h.user, rfl⟩) h.pin
  rw [hdb]
  obtain ⟨c, hc, hpin⟩ := hadds.pin change hchange
  have hne : change.request.pin ≠ "" := ne_empty_of_not_isNullOrWhiteSpace (h.pin change hchange)
  have hown : c ∈ CredentialRepository.getByUserIdAsync { db with credentials } u.id := by
    rw [CredentialRepository.mem_getByUserIdAsync]
    exact ⟨hrows ▸ List.mem_append_right _ hc, hpin.userId⟩
  -- A credential of another user was there before the changes.
  have hother : ∀ d ∈ credentials.rows, d.userId ≠ u.id →
      verifyPin change.request.pin d = false := by
    intro d hd hdu
    rw [hrows] at hd
    rcases List.mem_append.mp hd with hd | hd
    · exact h.own d hd hdu change hchange
    · obtain ⟨_, -, hd⟩ := hadds.change d hd
      exact absurd hd.userId hdu
  rw [Engine.Evaluate.evaluateAsync_isValid_iff, hevent]
  exact ⟨h.pin change hchange,
    Engine.Agreement.firstHolder_of_own h.user hown (verifyPin_self hpin.storesPin hne) hother,
    h.isActive, h.policy⟩

/-! ### The lock -/

/-- The slot worker programs the user's oldest PIN: an earlier one if there is any, else one of
those that were set. -/
theorem find?_setPins (h : Setting db accessPoint now u changes) (hchanges : changes ≠ []) :
    match (CredentialRepository.getByUserIdAsync db u.id).find? isPinWithValue with
    | some c =>
      (CredentialRepository.getByUserIdAsync (setPins u.id changes db) u.id).find? isPinWithValue
        = some c
    | none => ∃ c, ∃ change ∈ changes,
      (CredentialRepository.getByUserIdAsync (setPins u.id changes db) u.id).find? isPinWithValue
        = some c ∧ pinCode c = change.request.pin := by
  obtain ⟨credentials, added, hdb, hrows, hadds⟩ :=
    setPins_spec changes db (Relational.Table.mem_keys.mpr ⟨u, h.user, rfl⟩) h.pin
  rw [hdb]
  cases hfind : (CredentialRepository.getByUserIdAsync db u.id).find? isPinWithValue with
  | some c =>
    obtain ⟨hc, hcu⟩ :=
      CredentialRepository.mem_getByUserIdAsync.mp (List.mem_of_find?_eq_some hfind)
    refine find?_orderBy ?_ (List.find?_some hfind) fun d hd hvalue hne => ?_
    · exact List.mem_filter.mpr ⟨hrows ▸ List.mem_append_left _ hc, decide_eq_true hcu⟩
    · obtain ⟨hd, hdu⟩ := List.mem_filter.mp hd
      have hdu : d.userId = u.id := of_decide_eq_true hdu
      rw [hrows] at hd
      rcases List.mem_append.mp hd with hd | hd
      · -- An earlier credential: `c` was the oldest of them, and no two are of one time.
        have hle := key_le_of_find?_orderBy hfind
          (List.mem_filter.mpr ⟨hd, decide_eq_true hdu⟩) hvalue
        exact lt_of_le_of_ne hle fun heq => hne (h.inOrder c hc d hd hcu hdu heq).symm
      · -- A credential of a change is newer than `c`.
        obtain ⟨change, hchange, hpin⟩ := hadds.change d hd
        rw [hpin.createdAt]
        exact h.earlier c hc hcu change hchange
  | none =>
    obtain ⟨change, hchange⟩ := List.exists_mem_of_ne_nil changes hchanges
    obtain ⟨d, hd, hpin⟩ := hadds.pin change hchange
    have hdmem : d ∈ CredentialRepository.getByUserIdAsync { db with credentials } u.id := by
      rw [CredentialRepository.mem_getByUserIdAsync]
      exact ⟨hrows ▸ List.mem_append_right _ hd, hpin.userId⟩
    have hne : ∀ change ∈ changes, change.request.pin ≠ "" := fun change hchange =>
      ne_empty_of_not_isNullOrWhiteSpace (h.pin change hchange)
    obtain ⟨c, hc⟩ := Option.isSome_iff_exists.mp
      (List.find?_isSome.mpr ⟨d, hdmem, (hpin.pinCode (hne change hchange)).1⟩)
    obtain ⟨hcrow, hcu⟩ :=
      CredentialRepository.mem_getByUserIdAsync.mp (List.mem_of_find?_eq_some hc)
    have hcrow : c ∈ credentials.rows := hcrow
    rw [hrows] at hcrow
    rcases List.mem_append.mp hcrow with hold | hnew
    · -- There was no earlier PIN.
      have hmem := CredentialRepository.mem_getByUserIdAsync.mpr ⟨hold, hcu⟩
      exact absurd (List.find?_some hc) (List.find?_eq_none.mp hfind c hmem)
    · obtain ⟨change', hchange', hpin'⟩ := hadds.change c hnew
      exact ⟨c, change', hchange', hc, (hpin'.pinCode (hne change' hchange')).2⟩

/-- Where all PINs that were set are `pin`, and the first earlier one has that code, the oldest
PIN has it. -/
theorem exists_find?_setPins (h : Setting db accessPoint now u changes) (hchanges : changes ≠ [])
    {pin : String} (hall : ∀ change ∈ changes, change.request.pin = pin)
    (hearlier : ∀ c, (CredentialRepository.getByUserIdAsync db u.id).find? isPinWithValue = some c →
      pinCode c = pin) :
    ∃ c, (CredentialRepository.getByUserIdAsync (setPins u.id changes db) u.id).find?
        isPinWithValue = some c ∧ pinCode c = pin := by
  have hfirst := find?_setPins h hchanges
  cases hfind : (CredentialRepository.getByUserIdAsync db u.id).find? isPinWithValue with
  | some c =>
    rw [hfind] at hfirst
    exact ⟨c, hfirst, hearlier c hfind⟩
  | none =>
    rw [hfind] at hfirst
    obtain ⟨c, change, hchange, hc, hcode⟩ := hfirst
    exact ⟨c, hc, hcode.trans (hall change hchange)⟩

/-- The changes keep the agreement of the slot rows and the lock. -/
theorem slotsAgree_setPins {w : World} {door : String} {id : String}
    (hid : id ∈ w.db.users.keys)
    (hpins : ∀ change ∈ changes, isNullOrWhiteSpace (some change.request.pin) = false)
    (h : SlotsAgree door w) : SlotsAgree door { w with db := setPins id changes w.db } := by
  obtain ⟨credentials, added, hdb, hrows, hadds⟩ := setPins_spec changes w.db hid hpins
  rw [hdb]
  refine ⟨h.inRange, h.pairs, h.occupied, fun s hs huser hstatus c hc hcred => ?_⟩
  have hc : c ∈ credentials.rows := hc
  rw [hrows] at hc
  rcases List.mem_append.mp hc with hc | hc
  · exact h.synced s hs huser hstatus c hc hcred
  · exact absurd hcred (hadds.slot c hc s hs.1)

/-- The world after a pass over the door that follows the changes. -/
def afterPass (w : World) (accessPoint : AccessPoint) (capabilities : LockCapabilities)
    (now : DateTime) (id : String) (changes : List PinChange) : World :=
  ((reconcileDoorSlotsAsync accessPoint capabilities now).exec
    { w with db := setPins id changes w.db }).2

/-- What a pass needs: the lock has slots, which agree with the rows, and the desired pairs
fit. -/
structure Ready (w : World) (accessPoint : AccessPoint) (capabilities : LockCapabilities)
    (now : DateTime) (id : String) (changes : List PinChange) : Prop where
  capable : capabilities.hasFlag .userCodes = true
  door : accessPoint.id ∈ w.db.accessPoints.keys
  ids : ∀ v ∈ w.db.users.rows, v.id ≠ ""
  agree : SlotsAgree accessPoint.id w
  room : (desiredAssignments (setPins id changes w.db) accessPoint now).length ≤ 30
  succeed : ∀ report ∈ w.outcomes, report = true

/-- After the pass the user has a row, and the lock holds the code of the user's oldest PIN in
the slot of every row of the user. -/
theorem lock_afterPass {w : World} {capabilities : LockCapabilities} {c : Credential}
    (h : Setting w.db accessPoint now u changes)
    (hready : Ready w accessPoint capabilities now u.id changes)
    (hc : (CredentialRepository.getByUserIdAsync (setPins u.id changes w.db) u.id).find?
      isPinWithValue = some c) :
    (∃ s, RowOf accessPoint.id (afterPass w accessPoint capabilities now u.id changes) s
        ∧ s.userId = some u.id)
      ∧ ∀ s, RowOf accessPoint.id (afterPass w accessPoint capabilities now u.id changes) s →
          s.userId = some u.id →
            (afterPass w accessPoint capabilities now u.id changes).lock s.slotNumber
              = some (pinCode c) := by
  have hkey : u.id ∈ w.db.users.keys := Relational.Table.mem_keys.mpr ⟨u, h.user, rfl⟩
  obtain ⟨credentials, added, hdb, hrows, hadds⟩ := setPins_spec changes w.db hkey h.pin
  have hagree := slotsAgree_setPins hkey h.pin hready.agree
  obtain ⟨w', hexec, hconverged⟩ := reconcileDoorSlotsAsync_converges
    { w with db := setPins u.id changes w.db } accessPoint capabilities now hready.capable
    (by rw [hdb]; exact hready.door) (by rw [hdb]; exact hready.ids) hagree hready.room
    hready.succeed
  have hafter : afterPass w accessPoint capabilities now u.id changes = w' := by
    rw [afterPass, hexec]
  rw [hafter]
  have hdesired : (u, c) ∈ desiredAssignments (setPins u.id changes w.db) accessPoint now := by
    rw [Engine.Agreement.mem_desiredAssignments]
    refine ⟨?_, h.isActive, ?_, hc⟩
    · rw [hdb]
      exact h.user
    · rw [hdb]
      exact h.policy
  obtain ⟨s, hs, hpair, hunique, -, -, -, hlock⟩ := hconverged.pair _ hdesired
  refine ⟨⟨s, hs, (of_decide_eq_true hpair).1⟩, fun s' hs' huser => ?_⟩
  -- A row with the user is for a desired pair, and the user has only one.
  have hhas : HasUser s' := by
    rw [HasUser, huser, isNullOrEmpty_some]
    exact decide_eq_false (hready.ids u h.user)
  obtain ⟨d, hd, hdpair⟩ : ∃ d ∈ desiredAssignments (setPins u.id changes w.db) accessPoint now,
      holds d.1 d.2 s' = true := by
    by_contra hnone
    push Not at hnone
    exact hconverged.otherRow s' hs' (fun d hd => Bool.eq_false_iff.mpr (hnone d hd)) hhas
  obtain ⟨hdu, -, -, hdc⟩ := Engine.Agreement.mem_desiredAssignments.mp hd
  have hdid : d.1.id = u.id :=
    Option.some.inj ((of_decide_eq_true hdpair).1.symm.trans huser)
  rw [hdid, hc] at hdc
  have hsame : s' = s := by
    refine hunique s' hs' (decide_eq_true ⟨huser, ?_⟩)
    rw [Option.some.inj hdc]
    exact (of_decide_eq_true hdpair).2
  rw [hsame]
  exact hlock

/-! ### Both -/

/-- The last PIN has replaced the others: at the keypad, and in the lock after a pass. -/
structure PinReplaced (w : World) (accessPoint : AccessPoint) (capabilities : LockCapabilities)
    (now : DateTime) (u : User) (before : List PinChange) (last : PinChange) : Prop where
  keypad : ∀ keypadEvent, keypadEvent.pin = some last.request.pin →
    (evaluateAsync keypadEvent accessPoint (some now)
      (setPins u.id (before ++ [last]) w.db)).1.isValid = true
  keypadOthers : ∀ change ∈ before, change.request.pin ≠ last.request.pin →
    ∀ keypadEvent, keypadEvent.pin = some change.request.pin →
      (evaluateAsync keypadEvent accessPoint (some now)
        (setPins u.id (before ++ [last]) w.db)).1.isValid = false
  lock : ∃ s, RowOf accessPoint.id
      (afterPass w accessPoint capabilities now u.id (before ++ [last])) s
    ∧ s.userId = some u.id
    ∧ (afterPass w accessPoint capabilities now u.id (before ++ [last])).lock s.slotNumber
      = some last.request.pin
  lockOthers : ∀ s, RowOf accessPoint.id
      (afterPass w accessPoint capabilities now u.id (before ++ [last])) s →
    s.userId = some u.id → ∀ change ∈ before, change.request.pin ≠ last.request.pin →
      (afterPass w accessPoint capabilities now u.id (before ++ [last])).lock s.slotNumber
        ≠ some change.request.pin

/-- A sequence of changes replaces the PIN if and only if it changes nothing: all PINs are the
last one, and so is the first PIN that the user had before, if there is one. -/
theorem pinReplaced_iff (w : World) (accessPoint : AccessPoint) (capabilities : LockCapabilities)
    (now : DateTime) (u : User) (before : List PinChange) (last : PinChange)
    (h : Setting w.db accessPoint now u (before ++ [last]))
    (hready : Ready w accessPoint capabilities now u.id (before ++ [last])) :
    PinReplaced w accessPoint capabilities now u before last
      ↔ (∀ change ∈ before, change.request.pin = last.request.pin)
          ∧ ∀ c, (CredentialRepository.getByUserIdAsync w.db u.id).find? isPinWithValue = some c →
              pinCode c = last.request.pin := by
  have hchanges : before ++ [last] ≠ [] :=
    List.append_ne_nil_of_right_ne_nil _ (List.cons_ne_nil _ _)
  constructor
  · intro hreplaced
    constructor
    · -- The keypad takes every PIN that was set, so none differs from the last one.
      intro change hchange
      by_contra hne
      have hgrants := (@evaluateAsync_setPins _ _ _ _ _ _ h change
        (List.mem_append_left _ hchange) { pin := some change.request.pin, timestamp := now } rfl).1
      rw [hreplaced.keypadOthers change hchange hne _ rfl] at hgrants
      cases hgrants
    · -- The lock holds the oldest PIN.
      intro c hc
      have hfirst := find?_setPins h hchanges
      rw [hc] at hfirst
      obtain ⟨s, hs, huser, hlock⟩ := hreplaced.lock
      rw [(lock_afterPass h hready hfirst).2 s hs huser] at hlock
      exact Option.some.inj hlock
  · rintro ⟨hall, hearlier⟩
    have hsame : ∀ change ∈ before ++ [last], change.request.pin = last.request.pin := by
      intro change hchange
      rcases List.mem_append.mp hchange with hchange | hchange
      · exact hall change hchange
      · rw [List.mem_singleton.mp hchange]
    -- The oldest PIN is the last one.
    obtain ⟨c, hc, hcode⟩ := exists_find?_setPins h hchanges hsame hearlier
    obtain ⟨⟨s, hs, huser⟩, hlock⟩ := lock_afterPass h hready hc
    refine ⟨fun keypadEvent hevent => ?_,
      fun change hchange hne => absurd (hall change hchange) hne,
      ⟨s, hs, huser, (hlock s hs huser).trans (congrArg some hcode)⟩,
      fun _ _ _ change hchange hne => absurd (hall change hchange) hne⟩
    exact (evaluateAsync_setPins h (List.mem_append_right _ (List.mem_singleton.mpr rfl)) hevent).1

end

section
/-- The host of the samples. -/
local instance : Host := Host.sample

open Engine.Evaluate (guest frontDoor frontDoorOnly)

/-- The PIN that the guest has already. -/
def samePin : PinChange := ⟨{ pin := "1234" }, { ticks := 1 }⟩

/-- A change to the PIN `5678`. -/
def newPin : PinChange := ⟨{ pin := "5678" }, { ticks := 2 }⟩

/-- The same PIN is set again. -/
theorem setting_samePin : Setting frontDoorSlots.db frontDoor ⟨0, .utc⟩ guest [samePin] where
  user := by decide
  isActive := rfl
  policy := by decide
  pin := by decide
  own := by decide
  earlier := by decide
  inOrder := by decide

/-- The same PIN is set again, and then a new one. -/
theorem setting_newPin :
    Setting frontDoorSlots.db frontDoor ⟨0, .utc⟩ guest [samePin, newPin] where
  user := by decide
  isActive := rfl
  policy := by decide
  pin := by decide
  own := by decide
  earlier := by decide
  inOrder := by decide

/-- The slots are ready for the same PIN. -/
theorem ready_samePin : Ready frontDoorSlots frontDoor .userCodes ⟨0, .utc⟩ "guest" [samePin] where
  capable := by decide
  door := by decide
  ids := by decide
  agree := frontDoorSlots_agree
  room := by decide +kernel
  succeed := nofun

/-- The slots are ready for the same PIN and a new one. -/
theorem ready_newPin :
    Ready frontDoorSlots frontDoor .userCodes ⟨0, .utc⟩ "guest" [samePin, newPin] where
  capable := by decide
  door := by decide
  ids := by decide
  agree := frontDoorSlots_agree
  room := by decide +kernel
  succeed := nofun

/-- Setting the PIN that the guest has already. -/
theorem pinReplaced_samePin :
    PinReplaced frontDoorSlots frontDoor .userCodes ⟨0, .utc⟩ guest [] samePin :=
  (pinReplaced_iff frontDoorSlots frontDoor .userCodes ⟨0, .utc⟩ guest [] samePin setting_samePin
    ready_samePin).mpr ⟨nofun, by decide⟩

/-- After the guest has set a second PIN, the keypad still takes the first one. -/
theorem old_pin_is_not_replaced :
    ¬ ∀ (w : World) (accessPoint : AccessPoint) (capabilities : LockCapabilities)
        (now : DateTime) (u : User) (before : List PinChange) (last : PinChange),
        Setting w.db accessPoint now u (before ++ [last]) →
          Ready w accessPoint capabilities now u.id (before ++ [last]) →
            PinReplaced w accessPoint capabilities now u before last := by
  intro h
  have hreplaced := h frontDoorSlots frontDoor .userCodes ⟨0, .utc⟩ guest [samePin] newPin
    setting_newPin ready_newPin
  have hdenied := hreplaced.keypadOthers samePin List.mem_cons_self (by decide)
    { pin := some "1234", timestamp := ⟨0, .utc⟩ } rfl
  have hgranted := (@evaluateAsync_setPins _ _ _ _ _ ([samePin] ++ [newPin]) setting_newPin samePin
    List.mem_cons_self { pin := some "1234", timestamp := ⟨0, .utc⟩ } rfl).1
  rw [hgranted] at hdenied
  cases hdenied

end

end CodeMaster.Proofs.Web.SetPin
