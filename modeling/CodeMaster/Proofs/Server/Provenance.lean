import Mathlib.Data.List.Induction
import CodeMaster.Proofs.Server.Integrity

/-!
# `CodeMaster.Proofs.Server.Provenance`: where does a PIN that opens a door come from?

Take any run from the empty server. A credential that it leaves was stored by one event of the run,
which was asked to set this PIN for its user, and the user was not deleted since (`SetEarlier`). The
event has really stored it: the row was not there before the event, and was there after it
(`StoredBy`). A request that is refused sets nothing.

A code in a slot of a lock was written by one pass over the door of the lock (`Programmed`). The slot
did not hold the code before the pass, and held it after the pass. When the pass started, the code
was the PIN of a stored credential of an active user, and an earlier event had stored this
credential.

`Traced` says both, and holds after every run. The induction adds an event at the end: what the event
has written is new, and everything else is as old as the run says (`Adds`).

So a keypad grants access to a PIN that was set (`granted_setEarlier`), and a lock holds no code
that nobody has set (`code_programmed`).
-/

set_option autoImplicit false

namespace CodeMaster.Proofs.Server

open CodeMaster.Core CodeMaster.Data CodeMaster.Engine CodeMaster.Web CodeMaster.Mcp Exec Relation
open CodeMaster.Server (Event)
open CodeMaster.Engine.HardwareSlotSyncWorker (pinCode)
open Engine.VerifyPin (StoresPin)
open Relational

section
variable [Host]

/-- The server after the events, from the empty one. -/
def after (capabilities : String → LockCapabilities) (events : List Event) : Server :=
  events.foldl (Server.step capabilities) { db := {} }

/-- A credential for a PIN that is not blank. -/
structure PinCredential (pin : String) (c : Credential) : Prop where
  notBlank : isNullOrWhiteSpace (some pin) = false
  type : c.type = .pin
  stores : StoresPin pin c

/-- The event `e` after the events `pre` has stored the credential: it was asked to set the PIN for
the user of the credential, and the row is not there before and is there after. -/
structure StoredBy (capabilities : String → LockCapabilities) (pre : List Event) (e : Event)
    (c : Credential) (pin : String) : Prop where
  sets : SetsPin (after capabilities pre) c.userId pin e
  credential : PinCredential pin c
  before : c ∉ (after capabilities pre).db.credentials.rows
  stored : c ∈ (after capabilities (pre ++ [e])).db.credentials.rows

/-- An event of the run has stored the credential with the PIN, and its user was not deleted
since. -/
def SetEarlier (capabilities : String → LockCapabilities) (events : List Event) (c : Credential)
    (pin : String) : Prop :=
  ∃ pre e post, events = pre ++ e :: post ∧ StoredBy capabilities pre e c pin
    ∧ Event.administration (.delete c.userId) ∉ post

/-- A pass of the run over the door has written the code to the slot, which did not hold it before.
When the pass started, the code was the PIN of a stored credential of an active user, and an earlier
event had stored this credential. -/
def Programmed (capabilities : String → LockCapabilities) (events : List Event)
    (accessPointId : String) (slotNumber : Int) (code : String) : Prop :=
  ∃ pre pass post user credential, events = pre ++ pass :: post
    ∧ (after capabilities pre).locks accessPointId slotNumber ≠ some code
    ∧ (after capabilities (pre ++ [pass])).locks accessPointId slotNumber = some code
    ∧ Programs pass (after capabilities pre) accessPointId user credential
    ∧ pinCode credential = code ∧ SetEarlier capabilities pre credential code

variable {capabilities : String → LockCapabilities} {events : List Event} {e : Event}
  {userId pin accessPointId code : String} {slotNumber : Int} {c : Credential}

/-- One more event is one more step. -/
theorem after_snoc (capabilities : String → LockCapabilities) (events : List Event) (e : Event) :
    after capabilities (events ++ [e]) = (after capabilities events).step capabilities e := by
  simp [after]

/-- The code of a credential for a PIN is the PIN. -/
theorem PinCredential.pinCode {c : Credential} (h : PinCredential pin c) : pinCode c = pin := by
  have hne : pin ≠ "" := ne_empty_of_not_isNullOrWhiteSpace h.notBlank
  simp [HardwareSlotSyncWorker.pinCode, h.stores.encryptedValue, hne]

/-! ### What a longer run keeps -/

/-- Any event but the deletion of the user keeps the provenance of a credential. -/
theorem SetEarlier.snoc (h : SetEarlier capabilities events c pin)
    (he : e ≠ .administration (.delete c.userId)) :
    SetEarlier capabilities (events ++ [e]) c pin := by
  obtain ⟨pre, setter, post, rfl, hstored, hkept⟩ := h
  refine ⟨pre, setter, post ++ [e], by simp, hstored, fun hdelete => ?_⟩
  rcases List.mem_append.mp hdelete with hold | hnew
  · exact hkept hold
  · exact he (List.mem_singleton.mp hnew).symm

/-- The credential is one for the PIN. -/
theorem SetEarlier.credential (h : SetEarlier capabilities events c pin) : PinCredential pin c := by
  obtain ⟨_, _, _, _, hstored, _⟩ := h
  exact hstored.credential

/-- A credential that the last event has stored. -/
theorem setEarlier_of_last (h : StoredBy capabilities events e c pin) :
    SetEarlier capabilities (events ++ [e]) c pin :=
  ⟨events, e, [], rfl, h, List.not_mem_nil⟩

/-- Every event keeps the provenance of a code: it is about the past. -/
theorem Programmed.snoc (h : Programmed capabilities events accessPointId slotNumber code)
    (e : Event) : Programmed capabilities (events ++ [e]) accessPointId slotNumber code := by
  obtain ⟨pre, pass, post, user, credential, rfl, hrest⟩ := h
  exact ⟨pre, pass, post ++ [e], user, credential, by simp, hrest⟩

/-! ### The writes -/

/-- What the writes of an event add to the credentials and to the locks. -/
structure Adds (e : Event) (s0 s : Server) : Prop where
  credentials : ∀ c ∈ s.db.credentials.rows,
    c ∈ s0.db.credentials.rows ∨ ∃ pin, PinCredential pin c ∧ SetsPin s0 c.userId pin e
  codes : ∀ door n code, s.locks door n = some code → s0.locks door n = some code
    ∨ ∃ user credential, Programs e s0 door user credential ∧ pinCode credential = code

/-- Nothing is added at the start of an event. -/
theorem adds_start (e : Event) (s0 : Server) : Adds e s0 s0 where
  credentials _ hc := Or.inl hc
  codes _ _ _ hcode := Or.inl hcode

variable {s0 s s' : Server}

/-- A write of the other tables. -/
theorem Adds.of_same (h : Adds e s0 s) {db : Db}
    (hcredentials : ∀ c ∈ db.credentials.rows, c ∈ s.db.credentials.rows)
    (accessLogs : AccessLogs) : Adds e s0 { s with db, accessLogs } where
  credentials c hc := h.credentials c (hcredentials c hc)
  codes := h.codes

/-- A write of a slot of a lock. -/
theorem Adds.of_code (h : Adds e s0 s) (accessPointId : String) (slotNumber : Int)
    {code : Option String}
    (hcode : ∀ c, code = some c →
      ∃ user credential, Programs e s0 accessPointId user credential ∧ pinCode credential = c) :
    Adds e s0 { s with
      locks := Function.update s.locks accessPointId
        (Function.update (s.locks accessPointId) slotNumber code) } where
  credentials := h.credentials
  codes := by
    intro door n c hc
    by_cases hdoor : door = accessPointId
    · subst hdoor
      dsimp only at hc
      rw [Function.update_self] at hc
      by_cases hn : n = slotNumber
      · subst hn
        rw [Function.update_self] at hc
        exact Or.inr (hcode c hc)
      · rw [Function.update_of_ne hn] at hc
        exact h.codes door n c hc
    · dsimp only at hc
      rw [Function.update_of_ne hdoor] at hc
      exact h.codes door n c hc

/-- Each effect of an event adds what the event was asked for, or nothing. -/
theorem Adds.effect (h : Adds e s0 s) (heffect : Effect e s0 s s') : Adds e s0 s' := by
  cases heffect with
  | insertUser hinsert hcreates =>
    obtain ⟨users, -, -, rfl⟩ := UserRepository.insertAsync_eq_ok hinsert
    exact ⟨h.credentials, h.codes⟩
  | updateUser hupdate hactive =>
    obtain ⟨users, rfl, -, -⟩ := UserRepository.updateAsync_eq_ok hupdate
    exact ⟨h.credentials, h.codes⟩
  | deleteUser id => exact h.of_same (fun _ hc => (Table.mem_delete.mp hc).1) _
  | @insertCredential _ credential pin hinsert hsets hblank htype hvalue hhash =>
    -- The only effect that stores a credential, for a PIN that the event sets.
    obtain ⟨credentials, hc, -, rfl⟩ := CredentialRepository.insertAsync_eq_ok hinsert
    refine ⟨fun c hmem => ?_, h.codes⟩
    rcases (Table.mem_insert? hc).mp hmem with hold | rfl
    · exact h.credentials c hold
    · refine Or.inr ⟨pin, ⟨hblank, htype, ?_, hhash⟩, hsets⟩
      simp [CredentialRepository.toRow, hvalue]
  | deleteCredential id => exact h.of_same (fun _ hc => (Table.mem_delete.mp hc).1) _
  | changePolicy change hchange =>
    exact h.of_same (fun _ hc => (statement_frame hchange).2.1 ▸ hc) _
  | insertDoor hinsert => exact h.of_same (fun _ hc => (insertDoor_frame hinsert).2.1 ▸ hc) _
  | updateDoor door => exact ⟨h.credentials, h.codes⟩
  | deleteDoor id => exact ⟨h.credentials, h.codes⟩
  | updateSlotSyncStatus slotId status => exact ⟨h.credentials, h.codes⟩
  | clearSlot slotId => exact ⟨h.credentials, h.codes⟩
  | upsert hupsert hstored hprograms =>
    exact h.of_same (fun _ hc => upsert_credentials hupsert ▸ hc) _
  | @setCode accessPointId slotNumber user credential hprograms =>
    -- The only effect that writes a code to a lock, in a slot pass.
    exact h.of_code accessPointId slotNumber fun c hc =>
      ⟨user, credential, hprograms, Option.some.inj hc⟩
  | clearCode accessPointId slotNumber => exact h.of_code accessPointId slotNumber nofun
  | insertLog hinsert => exact ⟨h.credentials, h.codes⟩

/-! ### The runs -/

/-- Where the credentials and the codes of a run come from. -/
structure Traced (capabilities : String → LockCapabilities) (events : List Event) : Prop where
  intact : Intact (after capabilities events)
  credentials : ∀ c ∈ (after capabilities events).db.credentials.rows,
    ∃ pin, SetEarlier capabilities events c pin
  codes : ∀ door n code, (after capabilities events).locks door n = some code →
    Programmed capabilities events door n code

/-- After the deletion of a user, no credential is the user's. -/
theorem not_deleted (h : Intact s) {c : Credential}
    (hc : c ∈ (s.step capabilities e).db.credentials.rows) :
    e ≠ .administration (.delete c.userId) := by
  rintro rfl
  have huser := (h.step capabilities (.administration (.delete c.userId))).credentialUser c hc
  exact notMem_delete c.userId s.db huser

/-- The step lemma. -/
theorem Traced.snoc (h : Traced capabilities events) (e : Event) :
    Traced capabilities (events ++ [e]) := by
  have hadds : Adds e (after capabilities events)
      ((after capabilities events).step capabilities e) :=
    step_invariant (fun _ _ hs heffect => hs.effect heffect) (adds_start e _) capabilities
  refine ⟨?_, fun c hc => ?_, fun door n code hcode => ?_⟩
  · rw [after_snoc]
    exact h.intact.step capabilities e
  · by_cases hold : c ∈ (after capabilities events).db.credentials.rows
    · obtain ⟨pin, hearlier⟩ := h.credentials c hold
      rw [after_snoc] at hc
      exact ⟨pin, hearlier.snoc (not_deleted h.intact hc)⟩
    · -- The event has stored the credential.
      have hnew := hc
      rw [after_snoc] at hnew
      rcases hadds.credentials c hnew with hstored | ⟨pin, hpin, hsets⟩
      · exact absurd hstored hold
      · exact ⟨pin, setEarlier_of_last ⟨hsets, hpin, hold, hc⟩⟩
  · by_cases hold : (after capabilities events).locks door n = some code
    · exact (h.codes door n code hold).snoc e
    · -- The event has written the code, so it is a pass, which has found the credential.
      have hnew := hcode
      rw [after_snoc] at hnew
      rcases hadds.codes door n code hnew with hsame | ⟨user, credential, hprograms, hpinCode⟩
      · exact absurd hsame hold
      · obtain ⟨pin, hearlier⟩ := h.credentials credential hprograms.stored
        have hpin : pin = code := by
          rw [← hearlier.credential.pinCode, hpinCode]
        exact ⟨events, e, [], user, credential, rfl, hold, hcode, hprograms, hpinCode,
          hpin ▸ hearlier⟩

/-- The run lemma. -/
theorem traced (capabilities : String → LockCapabilities) (events : List Event) :
    Traced capabilities events := by
  induction events using List.reverseRecOn with
  | nil => exact ⟨intact_empty, fun c hc => absurd hc List.not_mem_nil, nofun⟩
  | append_singleton events e ih => exact ih.snoc e

/-- **No code that nobody has set**: take any run from the empty server, and a slot of a lock that
holds a code after it. Then a pass of the run over the door of the lock has written the code to this
slot. When this pass started, the code was the PIN of a stored credential of an active user. An event
before the pass has stored this credential, and the user was not deleted in between. -/
theorem code_programmed {door : String} {n : Int} {code : String}
    (hcode : (after capabilities events).locks door n = some code) :
    Programmed capabilities events door n code :=
  (traced capabilities events).codes door n code hcode

/-- The entered PIN opens for a credential of the PIN: it is the PIN, or has its hash, or is the
stored hash itself. -/
def Opens (entered pin : String) : Prop :=
  entered = pin ∨ Host.sha256Hex entered = Host.sha256Hex pin
    ∨ equalsOrdinalIgnoreCase entered (Host.sha256Hex pin) = true

/-- **No access without a PIN that was set**: take any run from the empty server, and an evaluation
after it that grants access to a user. Then the user has a stored credential, which an event of the
run has stored with its PIN, the user was not deleted since, and the entered PIN opens for it. -/
theorem granted_setEarlier {keypadEvent : KeypadEventDto} {accessPoint : AccessPoint}
    {evaluationTimeUtc : Option DateTime} {u : User} {q : AccessPolicy}
    (hgrants : Engine.Evaluate.Grants (AccessPolicyEvaluator.evaluateAsync keypadEvent accessPoint
      evaluationTimeUtc (after capabilities events).db).1 u q) :
    ∃ c ∈ (after capabilities events).db.credentials.rows, c.userId = u.id
      ∧ ∃ pin, SetEarlier capabilities events c pin ∧ Opens (keypadEvent.pin.getD "") pin := by
  obtain ⟨hblank, hholder, -, -⟩ := Engine.Evaluate.evaluateAsync_grants_iff.mp hgrants
  obtain ⟨-, -, -, ⟨c, hc, hverify⟩, -⟩ := hholder
  obtain ⟨hc, howner⟩ := CredentialRepository.mem_getByUserIdAsync.mp hc
  obtain ⟨pin, hearlier⟩ := (traced capabilities events).credentials c hc
  refine ⟨c, hc, howner, pin, hearlier, ?_⟩
  have hne : keypadEvent.pin.getD "" ≠ "" := by
    intro hempty
    rw [hempty, Engine.VerifyPin.verifyPin_empty] at hverify
    cases hverify
  have hopens := (Engine.VerifyPin.verifyPin_eq_true_iff hearlier.credential.stores hne).mp
    hverify
  obtain hhash | hsame | hpin := hopens
  · exact Or.inr (Or.inr hhash)
  · exact Or.inr (Or.inl hsame)
  · exact Or.inl hpin

end

section
/-- The host of the samples. -/
local instance provenanceHost : Host := Host.sample

/-- The code `1234` in the first slot of the front door was written by the pass of the sample
run. -/
theorem code_programmed_sample :
    Programmed (fun _ => .userCodes) sampleEvents "front" 1 "1234" :=
  @code_programmed _ (fun _ => .userCodes) sampleEvents "front" 1 "1234" (by decide +kernel)

/-- Ann as she is stored. -/
def ann : User where
  id := "ann"
  name := "Ann"
  createdAt := ⟨1, .utc⟩
  updatedAt := ⟨1, .utc⟩

/-- The keypad lets Ann in with the PIN that the sample run has stored. -/
theorem granted_setEarlier_sample :
    ∃ c ∈ (after (fun _ => .userCodes) sampleEvents).db.credentials.rows, c.userId = "ann"
      ∧ ∃ pin, SetEarlier (fun _ => .userCodes) sampleEvents c pin ∧ Opens "1234" pin :=
  @granted_setEarlier _ (fun _ => .userCodes) sampleEvents
    { pin := some "1234", timestamp := ⟨3, .utc⟩ } Engine.Evaluate.frontDoor none ann
    { id := "always" } ⟨by decide +kernel, by decide +kernel, by decide +kernel⟩

end

end CodeMaster.Proofs.Server
