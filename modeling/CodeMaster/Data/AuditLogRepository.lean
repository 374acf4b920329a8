import CodeMaster.Core.Calendar
import CodeMaster.Data.Schema
import CodeMaster.Lib.Descending

/-!
# `CodeMaster.Data.AuditLogRepository`: the entries of the audit log

An `AccessLog` is an entry as the code builds it, and an `AccessLogRow` is what `InsertAsync`
stores of it. The rows are a table of their own beside `Db`.

The column of the time is a text, the one that `ToString("O")` writes, and the queries sort by it.
Dapper builds an `AccessLog` from a row.
-/

set_option autoImplicit false

namespace CodeMaster.Core

/-- What an entry of the audit log is about. -/
inductive AccessEventType where
  | unlocked
  | locked
  | denied
  | jammed
  | autoLocked
  deriving DecidableEq, Repr

/-- How a door was operated. -/
inductive AccessMethod where
  | ringKeypad
  | builtInKeypad
  | zWaveKeypad
  | manual
  | rf
  | autoLock
  deriving DecidableEq, Repr

/-- An entry of the audit log. -/
structure AccessLog where
  id : String
  accessPointId : String := ""
  userId : Option String := none
  userName : Option String := none
  credentialType : Option CredentialType := none
  eventType : AccessEventType := .unlocked
  method : AccessMethod := .manual
  timestamp : DateTime
  details : Option String := none
  deriving DecidableEq, Repr

end CodeMaster.Core

namespace CodeMaster.Data

open CodeMaster.Core Relational

/-- A row of `AccessLogs`. `UserName` and `CredentialType` are `NOT NULL`. -/
structure AccessLogRow where
  id : String
  accessPointId : String
  userId : Option String
  userName : String
  credentialType : CredentialType
  eventType : AccessEventType
  method : AccessMethod
  timestamp : DateTime
  details : Option String
  deriving DecidableEq, Repr

/-- The table `AccessLogs`. -/
abbrev AccessLogs := Table AccessLogRow.id

/-- The constraints that the insert of an entry can violate. -/
inductive AuditLogException where
  | notNull (column : String)
  | sqlite (e : SqliteException)
  deriving DecidableEq, Repr

namespace AuditLogRepository

open Descending

/-- The row of an entry whose user has a name. A missing credential type is stored as `PIN`. -/
def toRow (log : AccessLog) (userName : String) : AccessLogRow where
  id := log.id
  accessPointId := log.accessPointId
  userId := log.userId
  userName := userName
  credentialType := log.credentialType.getD .pin
  eventType := log.eventType
  method := log.method
  timestamp := log.timestamp
  details := log.details

/-- The insert of an entry. The name must be there, the id must be new, and the door must be
stored. -/
def insertAsync (log : AccessLog) (db : Db) (accessLogs : AccessLogs) :
    Except AuditLogException AccessLogs :=
  match log.userName with
  -- The column is `NOT NULL`, and the repository has no default for it.
  | none => .error (.notNull "AccessLogs.UserName")
  | some userName =>
    match accessLogs.insert? (toRow log userName) with
    | none => .error (.sqlite (.unique "AccessLogs.Id"))
    | some accessLogs =>
      if log.accessPointId ∈ db.accessPoints.keys then .ok accessLogs
      else .error (.sqlite .foreignKey)

/-- The entry that Dapper builds from a row. -/
def ofRow [Host] (row : AccessLogRow) : AccessLog where
  id := row.id
  accessPointId := row.accessPointId
  userId := row.userId
  userName := some row.userName
  credentialType := some row.credentialType
  eventType := row.eventType
  method := row.method
  timestamp := Host.readDateTime row.timestamp
  details := row.details

/-- `ORDER BY Timestamp DESC`. -/
def newestFirst [Host] (rows : List AccessLogRow) : List AccessLogRow :=
  descending (fun row => row.timestamp.toRoundTrip) (Host.scanOrder rows)

/-- `LIMIT @Limit`: a negative limit is no limit. -/
def limitTo {α : Type} (limit : Int) (rows : List α) : List α :=
  if limit < 0 then rows else rows.take limit.toNat

/-- The latest entries of a door, the newest first. -/
def getRecentLogsAsync [Host] (accessPointId : String) (limit : Int) (accessLogs : AccessLogs) :
    List AccessLog :=
  (limitTo limit
    (newestFirst (accessLogs.rows.filter fun row => row.accessPointId = accessPointId))).map ofRow

/-- The latest entries of all doors, the newest first. -/
def getAllRecentLogsAsync [Host] (limit : Int) (accessLogs : AccessLogs) : List AccessLog :=
  (limitTo limit (newestFirst accessLogs.rows)).map ofRow

/-- The insert succeeds for an entry with a name and a new id, for a stored door, and it appends
the row of the entry. -/
theorem insertAsync_eq_ok_iff {log : AccessLog} {db : Db} {accessLogs accessLogs' : AccessLogs} :
    insertAsync log db accessLogs = .ok accessLogs'
      ↔ ∃ userName, log.userName = some userName ∧ log.id ∉ accessLogs.keys
        ∧ log.accessPointId ∈ db.accessPoints.keys
        ∧ accessLogs'.rows = accessLogs.rows ++ [toRow log userName] := by
  unfold insertAsync
  cases hname : log.userName with
  | none => simp
  | some userName =>
    dsimp only
    cases hinsert : accessLogs.insert? (toRow log userName) with
    | none =>
      have hkey : log.id ∈ accessLogs.keys := Table.insert?_eq_none_iff.mp hinsert
      simp [hkey]
    | some inserted =>
      have hspec := Table.insert?_eq_some_iff.mp hinsert
      have hkey : log.id ∉ accessLogs.keys := hspec.1
      dsimp only
      constructor
      · intro h
        split at h
        · rename_i hdoor
          cases h
          exact ⟨userName, rfl, hkey, hdoor, hspec.2⟩
        · cases h
      · rintro ⟨_, ⟨⟩, -, hdoor, hrows⟩
        rw [if_pos hdoor, Table.ext (hrows.trans hspec.2.symm)]

/-- An entry with a name and a new id, for a stored door, is appended. -/
theorem insertAsync_of_new {log : AccessLog} {userName : String} {db : Db}
    {accessLogs : AccessLogs} (hname : log.userName = some userName)
    (hid : log.id ∉ accessLogs.keys) (hdoor : log.accessPointId ∈ db.accessPoints.keys) :
    ∃ accessLogs', insertAsync log db accessLogs = .ok accessLogs'
      ∧ accessLogs'.rows = accessLogs.rows ++ [toRow log userName] := by
  obtain ⟨accessLogs', hinsert⟩ : ∃ t, accessLogs.insert? (toRow log userName) = some t :=
    Table.exists_insert? hid
  have hrows := (Table.insert?_eq_some_iff.mp hinsert).2
  exact ⟨accessLogs', insertAsync_eq_ok_iff.mpr ⟨userName, hname, hid, hdoor, hrows⟩, hrows⟩

/-- The id of a new entry. -/
def newGuid [Host] (db : Db) (accessLogs : AccessLogs) : String :=
  Host.newGuid (db.ids ++ accessLogs.keys)

/-- A new id is new in the audit log too. -/
theorem newGuid_notMem [Host] (db : Db) (accessLogs : AccessLogs) :
    newGuid db accessLogs ∉ accessLogs.keys :=
  fun h => Host.newGuid_fresh _ (List.mem_append_right _ h)

end AuditLogRepository

end CodeMaster.Data
