import CodeMaster.Data.AuditLogRepository
import CodeMaster.Proofs.Engine.DoorStates

/-!
# `CodeMaster.Proofs.RecentLogs`: are the recent entries the latest ones?

The database sorts the texts of the times. Over UTC times the texts compare as the times do
(`DateTime.toRoundTrip_le_iff`), so `newestFirst` sorts by time (`newestFirst_eq`). The entries that
have been inserted are in the table in any order, and the first ones of the sorted list are the
latest.

The order of the texts is the order of the characters, and the round-trip format has a fixed number
of digits in each place. So a comparison of texts is a comparison of lists of numbers from the year
down to the tick, and this is the order of the instants. The format ends with the kind of the time,
which is the same for all times in UTC.

The entries have different times. With equal times the order of two entries is the database's.
-/

set_option autoImplicit false

namespace CodeMaster.Proofs.RecentLogs

open CodeMaster.Core Data AuditLogRepository Relational Descending

/-- The rows have UTC times that a `DateTime` can hold, all of them different. -/
structure DifferentTimes (rows : List AccessLogRow) : Prop where
  utc : ∀ row ∈ rows, row.timestamp.kind = .utc
  inRange : ∀ row ∈ rows, row.timestamp.InRange
  nodup : (rows.map fun row => row.timestamp.ticks).Nodup

/-- Sorted by time, the latest first. -/
def latestFirst (rows : List AccessLogRow) : List AccessLogRow :=
  descending (fun row => row.timestamp.ticks) rows

section
variable [Host] {rows : List AccessLogRow}

omit [Host] in
/-- A part of the rows has different times too. -/
theorem DifferentTimes.sublist {rows' : List AccessLogRow} (h : DifferentTimes rows)
    (hsub : rows'.Sublist rows) : DifferentTimes rows' where
  utc row hrow := h.utc row (hsub.subset hrow)
  inRange row hrow := h.inRange row (hsub.subset hrow)
  nodup := h.nodup.sublist (hsub.map _)

/-- The database sorts by time. -/
theorem newestFirst_eq (h : DifferentTimes rows) : newestFirst rows = latestFirst rows := by
  have hperm := Host.scanOrder_perm rows
  have htext : newestFirst rows
      = descending (fun row => row.timestamp.ticks) (Host.scanOrder rows) :=
    descending_congr fun a ha b hb => by
      have ha' := mem_scanOrder.mp ha
      have hb' := mem_scanOrder.mp hb
      exact DateTime.toRoundTrip_le_iff (h.utc a ha') (h.utc b hb') (h.inRange a ha')
        (h.inRange b hb')
  exact htext.trans (descending_of_perm h.nodup hperm)

end

/-! ### Inserting -/

/-- Insert the entries one after the other. -/
def insertAll (db : Db) (logs : List AccessLog) (accessLogs : AccessLogs) :
    Except AuditLogException AccessLogs :=
  logs.foldlM (fun accessLogs log => insertAsync log db accessLogs) accessLogs

/-- The row of an entry that has been inserted. -/
def stored (log : AccessLog) : AccessLogRow := toRow log (log.userName.getD "")

/-- The rows after several inserts, all of which succeed. -/
theorem rows_of_insertAll {db : Db} {logs : List AccessLog} {accessLogs accessLogs' : AccessLogs}
    (h : insertAll db logs accessLogs = .ok accessLogs') :
    accessLogs'.rows = accessLogs.rows ++ logs.map stored := by
  induction logs generalizing accessLogs with
  | nil =>
    cases h
    simp
  | cons log logs ih =>
    obtain ⟨inserted, hinsert, hrest⟩ := Exec.bind_eq_ok.mp h
    obtain ⟨userName, hname, -, -, hrows⟩ := insertAsync_eq_ok_iff.mp hinsert
    have hstored : toRow log userName = stored log := by
      unfold stored
      rw [hname]
      rfl
    rw [ih hrest, hrows, hstored, List.append_assoc]
    rfl

/-- The entry that is read back. -/
def readBack [Host] (log : AccessLog) : AccessLog := ofRow (stored log)

/-- After any entries with pairwise different UTC times have been inserted in any order, the query
returns the latest ones of the door, the latest first. -/
theorem getRecentLogsAsync_latest [Host] (db : Db) (logs : List AccessLog) (accessLogs : AccessLogs)
    (hinsert : insertAll db logs .empty = .ok accessLogs)
    (hutc : ∀ log ∈ logs, log.timestamp.kind = .utc)
    (hrange : ∀ log ∈ logs, log.timestamp.InRange)
    (hnodup : (logs.map fun log => log.timestamp.ticks).Nodup) (accessPointId : String)
    (limit : Nat) :
    ∃ latest, IsTop (fun log => log.timestamp.ticks) limit
        (logs.filter fun log => log.accessPointId = accessPointId) latest
      ∧ getRecentLogsAsync accessPointId limit accessLogs = latest.map readBack := by
  have hrows : accessLogs.rows = logs.map stored := rows_of_insertAll hinsert
  -- Distinct instants of one kind have distinct texts, so that the text order decides.
  have htimes : DifferentTimes accessLogs.rows := by
    rw [hrows]
    refine ⟨?_, ?_, ?_⟩
    · intro row hrow
      obtain ⟨log, hlog, rfl⟩ := List.mem_map.mp hrow
      exact hutc log hlog
    · intro row hrow
      obtain ⟨log, hlog, rfl⟩ := List.mem_map.mp hrow
      exact hrange log hlog
    · rw [List.map_map]
      exact hnodup
  have hdoor : (accessLogs.rows.filter fun row => row.accessPointId = accessPointId)
      = (logs.filter fun log => log.accessPointId = accessPointId).map stored := by
    rw [hrows, List.filter_map]
    rfl
  refine ⟨_, isTop_take (hnodup.sublist (List.filter_sublist.map _)) limit, ?_⟩
  unfold getRecentLogsAsync limitTo
  rw [newestFirst_eq (htimes.sublist List.filter_sublist), hdoor, if_neg (by omega),
    Int.toNat_natCast, latestFirst, descending_map, ← List.map_take, List.map_map]
  rfl

section
/-- The host of the samples. -/
local instance : Host := Host.sample

/-- An entry of the hall, at the time. -/
def hallLog (id : String) (ticks : Int) : AccessLog where
  id := id
  accessPointId := "hall"
  userName := some "Web User"
  timestamp := { ticks }

/-- Two entries of the hall, the newer one inserted first. -/
theorem getRecentLogsAsync_latest_hall :
    ∃ latest, IsTop (fun log => log.timestamp.ticks) 1
        ([hallLog "b" 638447616000000002, hallLog "a" 638447616000000001].filter
          fun log => log.accessPointId = "hall") latest
      ∧ getRecentLogsAsync "hall" (1 : Nat) (.ofList
          [stored (hallLog "b" 638447616000000002), stored (hallLog "a" 638447616000000001)]
          (by decide)) = latest.map readBack :=
  getRecentLogsAsync_latest Engine.DoorStates.hall _ _ rfl (by decide) (by decide) (by decide)
    "hall" 1

end

end CodeMaster.Proofs.RecentLogs
