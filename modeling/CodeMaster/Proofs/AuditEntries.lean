import CodeMaster.Proofs.Engine.DoorStates
import CodeMaster.Proofs.StoredPolicy
import CodeMaster.Data.AuditLogRepository

/-!
# `CodeMaster.Proofs.AuditEntries`: does an entry of the audit log read back as it was written?

The model class, the encoder and the schema disagree about missing values. A missing user name is
refused by the schema, and a missing credential type is stored as a PIN. The time is read back as
local time, whose ticks are those of the server's clock. `readsBackAs_iff` has all of it for any
comparison of the times, and the theorems after it compare the ticks and the instants.

An entry is inserted into any database and any log, and read back by its id. The condition of the
exact form is on the entry, on the rows before the insert, and on the host's offset from UTC. The
door of the entry is stored, which the schema asks for.
-/

set_option autoImplicit false

namespace CodeMaster.Proofs.AuditEntries

open CodeMaster.Core Data AuditLogRepository Relational Descending
open StoredPolicy (ReadsAsLocalTime)

/-- The entries are equal but for their times, which are related by `R`. -/
structure SameEntry (R : DateTime → DateTime → Prop) (read log : AccessLog) : Prop where
  fields : { read with timestamp := log.timestamp } = log
  timestamp : R read.timestamp log.timestamp

section
variable [Host]

/-- The insert succeeds, and the query with a large enough limit returns the entry. -/
def ReadsBackAs (R : DateTime → DateTime → Prop) (db : Db) (accessLogs : AccessLogs)
    (log : AccessLog) : Prop :=
  ∃ accessLogs', insertAsync log db accessLogs = .ok accessLogs'
    ∧ ∃ enough : Int, ∀ limit, enough ≤ limit →
      ∃ read ∈ getRecentLogsAsync log.accessPointId limit accessLogs', SameEntry R read log

/-- The entry is read back with the same ticks. -/
def ReadsBack : Db → AccessLogs → AccessLog → Prop := ReadsBackAs fun t t' => t.ticks = t'.ticks

/-- The entry is read back with the same instant, whatever its time zone. -/
def ReadsBackInstant : Db → AccessLogs → AccessLog → Prop :=
  ReadsBackAs fun t t' => t.toUniversalTime.ticks = t'.toUniversalTime.ticks

/-- A text that ends in `Z` is read as the server's local time, and the other texts give the ticks
that they were written from. -/
structure ReadsTimestamps : Prop where
  utc : ReadsAsLocalTime
  other : ∀ t : DateTime, t.kind ≠ .utc → (Host.readDateTime t).ticks = t.ticks

/-- With a large enough limit, the query returns the entries of all rows of the door. -/
theorem mem_getRecentLogsAsync {accessPointId : String} {limit : Int} {accessLogs : AccessLogs}
    (hlimit : accessLogs.rows.length ≤ limit) {read : AccessLog} :
    read ∈ getRecentLogsAsync accessPointId limit accessLogs
      ↔ ∃ row ∈ accessLogs.rows, row.accessPointId = accessPointId ∧ ofRow row = read := by
  have hlength : (newestFirst (accessLogs.rows.filter fun row =>
      row.accessPointId = accessPointId)).length ≤ limit.toNat := by
    have hfilter := List.length_filter_le (fun row : AccessLogRow =>
      row.accessPointId = accessPointId) accessLogs.rows
    unfold newestFirst
    rw [length_descending, (Host.scanOrder_perm _).length_eq]
    omega
  unfold getRecentLogsAsync limitTo
  rw [if_neg (by omega), List.take_of_length_le hlength, List.mem_map]
  unfold newestFirst
  simp [and_assoc]

/-- What is read back of a row that an entry was stored in. -/
theorem sameEntry_ofRow_iff {R : DateTime → DateTime → Prop} {log : AccessLog} {userName : String}
    (hname : log.userName = some userName) :
    SameEntry R (ofRow (toRow log userName)) log
      ↔ log.credentialType.isSome = true ∧ R (Host.readDateTime log.timestamp) log.timestamp := by
  have hfields : { ofRow (toRow log userName) with timestamp := log.timestamp }
      = { log with credentialType := some (log.credentialType.getD .pin) } := by
    unfold ofRow toRow
    rw [← hname]
  constructor
  · rintro ⟨hsame, htime⟩
    refine ⟨?_, htime⟩
    have hcredential := congrArg AccessLog.credentialType (hfields.symm.trans hsame)
    rw [← hcredential]
    rfl
  · rintro ⟨hcredential, htime⟩
    refine ⟨hfields.trans ?_, htime⟩
    obtain ⟨credentialType, hsome⟩ := Option.isSome_iff_exists.mp hcredential
    rw [hsome, Option.getD_some, ← hsome]

/-- An entry for a stored door is read back if and only if it has a user name, a credential type
and a new id, and its time is read back. -/
theorem readsBackAs_iff (R : DateTime → DateTime → Prop) {db : Db} {log : AccessLog}
    (hdoor : log.accessPointId ∈ db.accessPoints.keys) (accessLogs : AccessLogs) :
    ReadsBackAs R db accessLogs log
      ↔ log.userName.isSome = true ∧ log.credentialType.isSome = true
        ∧ log.id ∉ accessLogs.keys ∧ R (Host.readDateTime log.timestamp) log.timestamp := by
  constructor
  · rintro ⟨accessLogs', hinsert, enough, hall⟩
    obtain ⟨userName, hname, hid, -, hrows⟩ := insertAsync_eq_ok_iff.mp hinsert
    obtain ⟨read, hread, hsame⟩ :=
      hall (max enough accessLogs'.rows.length) (Int.le_max_left _ _)
    obtain ⟨row, hrow, -, rfl⟩ := (mem_getRecentLogsAsync (Int.le_max_right _ _)).mp hread
    -- The id tells the new row from the rows before.
    have hnew : row = toRow log userName := by
      rw [hrows] at hrow
      rcases List.mem_append.mp hrow with hold | hnew
      · have hkey : row.id = log.id := congrArg AccessLog.id hsame.fields
        exact absurd (Table.mem_keys.mpr ⟨row, hold, hkey⟩) hid
      · exact List.mem_singleton.mp hnew
    subst hnew
    obtain ⟨hcredential, htime⟩ := (sameEntry_ofRow_iff hname).mp hsame
    exact ⟨by rw [hname]; rfl, hcredential, hid, htime⟩
  · rintro ⟨hname, hcredential, hid, htime⟩
    obtain ⟨userName, hname⟩ := Option.isSome_iff_exists.mp hname
    obtain ⟨accessLogs', hinsert, hrows⟩ := insertAsync_of_new hname hid hdoor
    refine ⟨accessLogs', hinsert, accessLogs'.rows.length, fun limit hlimit => ?_⟩
    refine ⟨ofRow (toRow log userName), ?_, (sameEntry_ofRow_iff hname).mpr ⟨hcredential, htime⟩⟩
    refine (mem_getRecentLogsAsync hlimit).mpr ⟨toRow log userName, ?_, rfl, rfl⟩
    rw [hrows]
    exact List.mem_append_right _ (List.mem_singleton.mpr rfl)

/-- An entry for a stored door is read back if and only if it has a user name, a credential type
and a new id, and its time is not a UTC time on a server with another offset. -/
theorem readsBack_iff (hread : ReadsTimestamps) (db : Db) (accessLogs : AccessLogs)
    (log : AccessLog) (hdoor : log.accessPointId ∈ db.accessPoints.keys) :
    ReadsBack db accessLogs log
      ↔ log.userName.isSome = true ∧ log.credentialType.isSome = true
        ∧ log.id ∉ accessLogs.keys ∧ (log.timestamp.kind = .utc → Host.utcOffset = 0) := by
  have hticks : (Host.readDateTime log.timestamp).ticks = log.timestamp.ticks
      ↔ (log.timestamp.kind = .utc → Host.utcOffset = 0) := by
    by_cases hutc : log.timestamp.kind = .utc
    · rw [hread.utc log.timestamp hutc]
      constructor
      · intro h _
        omega
      · intro h
        have := h hutc
        omega
    · exact iff_of_true (hread.other log.timestamp hutc) fun h => absurd h hutc
  unfold ReadsBack
  rw [readsBackAs_iff _ hdoor, hticks]

/-- With the instants compared, the time makes no difference. -/
theorem readsBackInstant_iff
    (hread : ∀ t, (Host.readDateTime t).toUniversalTime.ticks = t.toUniversalTime.ticks)
    (db : Db) (accessLogs : AccessLogs) (log : AccessLog)
    (hdoor : log.accessPointId ∈ db.accessPoints.keys) :
    ReadsBackInstant db accessLogs log
      ↔ log.userName.isSome = true ∧ log.credentialType.isSome = true
        ∧ log.id ∉ accessLogs.keys := by
  unfold ReadsBackInstant
  rw [readsBackAs_iff _ hdoor]
  simp [hread]

end

section
/-- The host of the samples. -/
local instance : Host := Host.sample

/-- An unlock by a PIN. -/
def pinLog : AccessLog where
  id := "a"
  accessPointId := "hall"
  userName := some "Alice"
  credentialType := some .pin
  timestamp := { ticks := 638447616000000001 }

/-- The entry of the sample, a PIN at the keypad. -/
theorem readsBack_iff_pinLog :
    ReadsBack Engine.DoorStates.hall .empty pinLog
      ↔ pinLog.userName.isSome = true ∧ pinLog.credentialType.isSome = true
        ∧ pinLog.id ∉ (Table.empty : AccessLogs).keys
        ∧ (pinLog.timestamp.kind = .utc → Host.utcOffset = 0) :=
  readsBack_iff ⟨fun t _ => (Int.add_zero t.ticks).symm, fun _ _ => rfl⟩ Engine.DoorStates.hall
    .empty pinLog (by decide)

/-- An unlock from the web has no credential, and is read back as one by a PIN. -/
theorem missing_credential_reads_as_pin :
    ¬ ∀ (db : Db) (accessLogs : AccessLogs) (log : AccessLog),
      log.accessPointId ∈ db.accessPoints.keys → log.id ∉ accessLogs.keys →
        ReadsBack db accessLogs log := by
  intro h
  have hback := h Engine.DoorStates.hall .empty { pinLog with credentialType := none } (by decide)
    (by decide)
  have hcredential := ((readsBackAs_iff _ (by decide) _).mp hback).2.1
  exact absurd hcredential (by decide)

end

end CodeMaster.Proofs.AuditEntries
