import CodeMaster.Proofs.Server.Integrity

/-!
# `CodeMaster.Proofs.Server.History`: is the audit log append-only?

The server appends entries, and takes entries out in one case only: with a door go the entries of
the door. `history_after` says this of every run: what the log held before stays in its order, less
the entries of the doors that the run deletes, and all that follows was inserted by the run.

`Extends` relates the rows before a run to the rows after it, and follows the run event by event.
Only two kinds of events touch the log, and every other one leaves it as it is. An insert that
SQLite refuses appends nothing.
-/

set_option autoImplicit false

namespace CodeMaster.Proofs.Server

open CodeMaster.Core CodeMaster.Data CodeMaster.Engine CodeMaster.Web CodeMaster.Mcp Exec Relation
open CodeMaster.Server (Event)
open Relational

section

/-- The event is the deletion of the door. -/
def deletes (accessPointId : String) : Event → Bool
  | .deleteDoor id => id = accessPointId
  | _ => false

/-- The row is the entry that the event inserts. -/
def Inserts (row : AccessLogRow) : Event → Prop
  | .insertLog log =>
    ∃ userName, log.userName = some userName ∧ row = AuditLogRepository.toRow log userName
  | _ => False

/-- The log `rows'` is the log `rows` without the doors that the events delete, followed by entries
that they insert. -/
def Extends (events : List Event) (rows rows' : List AccessLogRow) : Prop :=
  ∃ added, rows' = rows.filter (fun row => !events.any (deletes row.accessPointId)) ++ added
    ∧ ∀ row ∈ added, ∃ e ∈ events, Inserts row e

/-- A run without events extends the history by nothing. -/
theorem extends_nil (rows : List AccessLogRow) : Extends [] rows rows :=
  ⟨[], by simp, by simp⟩

/-- An event that leaves the log. -/
theorem extends_same {e : Event} (he : ∀ id, deletes id e = false) (rows : List AccessLogRow) :
    Extends [e] rows rows :=
  ⟨[], by simp [he], by simp⟩

/-- One event after the other. -/
theorem Extends.trans {events events' : List Event} {rows rows' rows'' : List AccessLogRow}
    (h : Extends events rows rows') (h' : Extends events' rows' rows'') :
    Extends (events ++ events') rows rows'' := by
  obtain ⟨added, rfl, hadded⟩ := h
  obtain ⟨added', rfl, hadded'⟩ := h'
  refine ⟨added.filter (fun row => !events'.any (deletes row.accessPointId)) ++ added', ?_, ?_⟩
  · rw [List.filter_append, List.filter_filter, List.append_assoc]
    congr 2
    funext row
    rw [List.any_append, Bool.not_or, Bool.and_comm]
  · intro row hrow
    rcases List.mem_append.mp hrow with hold | hnew
    · obtain ⟨e, he, hinserts⟩ := hadded row (List.mem_filter.mp hold).1
      exact ⟨e, List.mem_append_left _ he, hinserts⟩
    · obtain ⟨e, he, hinserts⟩ := hadded' row hnew
      exact ⟨e, List.mem_append_right _ he, hinserts⟩

end

section
variable {s : Server}

/-- A deletion that finds no door leaves the log, which has no entries of such a door. -/
theorem extends_deleteDoor (h : Intact s) (id : String) :
    Extends [.deleteDoor id] s.accessLogs.rows (s.deleteDoor id).accessLogs.rows := by
  refine ⟨[], ?_, by simp⟩
  unfold Server.deleteDoor
  cases hfind : s.db.accessPoints.find? id with
  | none =>
    have hother : ∀ row ∈ s.accessLogs.rows, row.accessPointId ≠ id := by
      rintro row hrow rfl
      exact Table.find?_eq_none_iff.mp hfind (h.logDoor row hrow)
    have hkept : s.accessLogs.rows.filter
        (fun row => !([Event.deleteDoor id].any (deletes row.accessPointId)))
          = s.accessLogs.rows := by
      refine List.filter_eq_self.mpr fun row hrow => ?_
      simp [deletes, (hother row hrow).symm]
    rw [hkept, List.append_nil]
  | some door =>
    show (s.accessLogs.delete _).rows = _
    rw [List.append_nil]
    refine List.filter_congr fun row _ => ?_
    simp [deletes, eq_comm]

/-- An insert extends the history by its row, or by nothing. -/
theorem extends_insertLog (log : AccessLog) :
    Extends [.insertLog log] s.accessLogs.rows (s.insertLog log).accessLogs.rows := by
  unfold Server.insertLog
  cases hinsert : AuditLogRepository.insertAsync log s.db s.accessLogs with
  | error e => exact extends_same (fun _ => rfl) _
  | ok accessLogs =>
    obtain ⟨userName, hname, -, -, hrows⟩ := AuditLogRepository.insertAsync_eq_ok_iff.mp hinsert
    refine ⟨[AuditLogRepository.toRow log userName], ?_, ?_⟩
    · simp [hrows, deletes]
    · intro row hrow
      exact ⟨_, List.mem_singleton_self _, userName, hname, List.mem_singleton.mp hrow⟩

variable [Host]

/-- The step lemma. -/
theorem extends_step (h : Intact s) (capabilities : String → LockCapabilities) (e : Event) :
    Extends [e] s.accessLogs.rows (s.step capabilities e).accessLogs.rows := by
  cases e with
  | deleteDoor id => exact extends_deleteDoor h id
  | insertLog log => exact extends_insertLog log
  | pass accessPointId outcomes now =>
    have hsame : (s.pass capabilities accessPointId outcomes now).accessLogs = s.accessLogs := by
      unfold Server.pass
      split <;> rfl
    show Extends _ _ (s.pass capabilities accessPointId outcomes now).accessLogs.rows
    rw [hsame]
    exact extends_same (fun _ => rfl) _
  | _ => exact extends_same (fun _ => rfl) _

/-- **The audit log is append-only**: whatever requests, tools, evaluations and passes a run has,
the entries that were there stay in their order, but for those of the doors that the run deletes,
and the entries after them were inserted by the run. -/
theorem history_after (capabilities : String → LockCapabilities) (events : List Event)
    (h : Intact s) :
    Extends events s.accessLogs.rows
      (events.foldl (Server.step capabilities) s).accessLogs.rows := by
  induction events generalizing s with
  | nil => exact extends_nil _
  | cons e events ih => exact (extends_step h capabilities e).trans (ih (h.step capabilities e))

end

section
/-- The host of the samples. -/
local instance historyHost : Host := Host.sample

/-- Ann's unlocking is logged, and another door is deleted. -/
def loggedEvents : List Event :=
  sampleEvents ++ [.insertLog
    { id := "entry", accessPointId := "front", userName := some "Ann", timestamp := ⟨4, .utc⟩ },
    .deleteDoor "back"]

/-- The history of the sample run. -/
theorem history_after_sample :
    Extends loggedEvents []
      (loggedEvents.foldl (Server.step fun _ => .userCodes) { db := {} }).accessLogs.rows :=
  history_after (fun _ => .userCodes) loggedEvents intact_empty

end

end CodeMaster.Proofs.Server
