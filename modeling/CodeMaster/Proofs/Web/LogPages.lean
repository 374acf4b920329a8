import Mathlib.Algebra.Group.Int.Defs
import CodeMaster.Proofs.RecentLogs
import CodeMaster.Web.AccessLogsController

/-!
# `CodeMaster.Proofs.Web.LogPages`: do the pages of the audit log enumerate the matching entries?

`getLogs` fetches the newest `limit * page` entries, and filters them afterwards. A page is right
when the fetched entries hold as many matching ones as the pages up to it need, and the number to
skip has not wrapped around. `getLogs_eq_page_iff` shows that this is exact, but for the pages
past the end.

A filter that drops one of the newest entries takes its place away from an older one. Two entries
of a door and a page of one entry are enough for that (`sparse_match_is_missed`).

The entries of the log have different times, so that their order is the same in every query. The
pages are compared with the pages of the matching entries: `matching` is the list of all entries
that pass the filters, the newest first, and page `n` should be its `n`-th piece.

The numbers are 32-bit integers, and their products can wrap around. A negative limit is no limit
for SQLite, and a negative number to skip skips nothing. Both are part of the model, and of the
condition.
-/

set_option autoImplicit false

namespace CodeMaster.Proofs.Web.LogPages

open CodeMaster.Core Data AuditLogRepository CodeMaster.Web AccessLogsController Relational
open Descending RecentLogs

/-- The query string of a request, but the page. -/
structure Query where
  doorId : Option String := none
  userId : Option String := none
  method : Option String := none
  eventType : Option String := none
  limit : BitVec 32

namespace Query
variable [Host]

/-- Each filter is blank, or it is the text of a value. -/
def Recognised (q : Query) : Prop :=
  (isNullOrWhiteSpace q.method ∨ (enumFilter accessMethodNames q.method).isSome)
    ∧ (isNullOrWhiteSpace q.eventType ∨ (enumFilter accessEventTypeNames q.eventType).isSome)

/-- The answer to the query for one page. -/
def getLogs (q : Query) (page : BitVec 32) (accessLogs : AccessLogs) : List AccessLog :=
  AccessLogsController.getLogs q.doorId q.userId q.method q.eventType q.limit page accessLogs

/-- The size of a page. -/
def size (q : Query) : Nat := (clampLimit q.limit).toNat

/-- The row is one of the door, or no door is given. -/
def ofDoor (q : Query) (row : AccessLogRow) : Bool :=
  isNullOrWhiteSpace q.doorId || row.accessPointId = q.doorId.getD ""

/-- The other filters. -/
def passes (q : Query) (row : AccessLogRow) : Bool :=
  matchesFilters q.userId q.method q.eventType (ofRow row)

/-- The rows that satisfy all filters, the newest first. -/
def matching (q : Query) (accessLogs : AccessLogs) : List AccessLogRow :=
  latestFirst (accessLogs.rows.filter fun row => q.ofDoor row && q.passes row)

/-- The rows that the query of the page fetches. -/
def fetched (q : Query) (page : BitVec 32) (accessLogs : AccessLogs) : List AccessLogRow :=
  limitTo (toInt32 (clampLimit q.limit * page.toInt))
    (latestFirst (accessLogs.rows.filter q.ofDoor))

/-- How many rows the page skips. -/
def skip (q : Query) (page : BitVec 32) : Nat :=
  (toInt32 ((page.toInt - 1) * clampLimit q.limit)).toNat

/-- The fetched rows hold the matching rows up to the end of the page, and the page skips those of
the pages before it. Or the page is past the end, and skips what has been fetched. -/
def Reaches (q : Query) (page : BitVec 32) (accessLogs : AccessLogs) : Prop :=
  let start := (page.toNat - 1) * q.size
  let count := ((q.fetched page accessLogs).filter q.passes).length
  let total := (q.matching accessLogs).length
  (total ≤ start ∧ count ≤ q.skip page)
    ∨ (q.skip page = start ∧ min count (start + q.size) = min total (start + q.size))

end Query

open Query

section
variable [Host] {q : Query} {page : BitVec 32} {accessLogs : AccessLogs}

/-! ### What is fetched -/

omit [Host] in
/-- The limited rows are the first ones. -/
theorem limitTo_initial {α : Type} (limit : Int) (rows : List α) : limitTo limit rows <+: rows := by
  unfold limitTo
  split
  · exact List.prefix_rfl
  · exact List.take_prefix _ _

omit [Host] in
/-- The clamped limit is the size of the page. -/
theorem size_eq (q : Query) : (q.size : Int) = clampLimit q.limit := by
  have hclamp : 1 ≤ clampLimit q.limit := le_max_left _ _
  unfold size
  omega

omit [Host] in
/-- A page has room for one entry at least. -/
theorem size_pos (q : Query) : 0 < q.size := by
  have hclamp : 1 ≤ clampLimit q.limit := le_max_left _ _
  unfold size
  omega

omit [Host] in
/-- A small number does not wrap around. -/
theorem toInt32_of_small {n : Int} (hnonneg : 0 ≤ n) (hsmall : n < 2 ^ 31) : toInt32 n = n :=
  BitVec.toInt_ofInt_eq_self (by omega) (by omega) hsmall

/-- The matching rows among the fetched ones are the first matching rows. -/
theorem filter_fetched_eq_take (htimes : DifferentTimes accessLogs.rows) (page : BitVec 32) :
    (q.fetched page accessLogs).filter q.passes
      = (q.matching accessLogs).take ((q.fetched page accessLogs).filter q.passes).length := by
  have hdoor : DifferentTimes (accessLogs.rows.filter q.ofDoor) :=
    htimes.sublist List.filter_sublist
  have hmatching : q.matching accessLogs
      = (latestFirst (accessLogs.rows.filter q.ofDoor)).filter q.passes := by
    unfold matching latestFirst
    rw [filter_descending hdoor.nodup, List.filter_filter]
    simp only [Bool.and_comm]
  rw [hmatching]
  exact List.prefix_iff_eq_take.mp ((limitTo_initial _ _).filter _)

/-- A page has no more entries than it has room for. -/
theorem length_filter_fetched_le (htimes : DifferentTimes accessLogs.rows) (page : BitVec 32) :
    ((q.fetched page accessLogs).filter q.passes).length ≤ (q.matching accessLogs).length := by
  rw [filter_fetched_eq_take htimes page]
  exact List.length_take_le' _ _

/-- The page is a slice of the matching rows that have been fetched. -/
theorem getLogs_eq (htimes : DifferentTimes accessLogs.rows) (hpage : 1 ≤ page.toInt) :
    q.getLogs page accessLogs
      = ((((q.fetched page accessLogs).filter q.passes).drop (q.skip page)).take q.size).map
          ofRow := by
  have hmax : max 1 page.toInt = page.toInt := max_eq_right hpage
  -- Both branches read the newest rows: of all doors when none is asked for, else of one.
  have hraw : (if isNullOrWhiteSpace q.doorId
        then getAllRecentLogsAsync (toInt32 (clampLimit q.limit * page.toInt)) accessLogs
        else getRecentLogsAsync (q.doorId.getD "")
          (toInt32 (clampLimit q.limit * page.toInt)) accessLogs)
      = (q.fetched page accessLogs).map ofRow := by
    unfold fetched
    split
    · rename_i hblank
      have hall : accessLogs.rows.filter q.ofDoor = accessLogs.rows := by
        simp [ofDoor, hblank]
      rw [hall, ← newestFirst_eq htimes]
      rfl
    · rename_i hblank
      have hone : accessLogs.rows.filter q.ofDoor
          = accessLogs.rows.filter fun row => row.accessPointId = q.doorId.getD "" :=
        List.filter_congr fun row _ => by simp [ofDoor, hblank]
      rw [hone, ← newestFirst_eq (htimes.sublist List.filter_sublist)]
      rfl
  unfold Query.getLogs AccessLogsController.getLogs
  dsimp only
  rw [hmax, hraw, List.filter_map, ← List.map_drop, ← List.map_take]
  rfl

/-- An entry matches once. -/
theorem nodup_matching (q : Query) (accessLogs : AccessLogs) : (q.matching accessLogs).Nodup :=
  (descending_perm _ _).nodup_iff.mpr (accessLogs.nodup.of_map.filter _)

/-- Every row that satisfies the filters is one of the matching rows. -/
theorem mem_matching {row : AccessLogRow} :
    row ∈ q.matching accessLogs
      ↔ row ∈ accessLogs.rows ∧ q.ofDoor row = true ∧ q.passes row = true := by
  simp [matching, latestFirst]

/-- A page is the page of the matching rows exactly when it reaches them. -/
theorem getLogs_eq_page_iff (htimes : DifferentTimes accessLogs.rows) (hpage : 1 ≤ page.toInt) :
    q.getLogs page accessLogs
        = (Descending.page q.size (page.toNat - 1) (q.matching accessLogs)).map ofRow
      ↔ q.Reaches page accessLogs := by
  have hrows : ∀ row ∈ q.matching accessLogs, row ∈ accessLogs.rows :=
    fun row hrow => (mem_matching.mp hrow).1
  have hfirst := filter_fetched_eq_take (q := q) htimes page
  have hslice := slice_take_eq_iff (nodup_matching q accessLogs) ((page.toNat - 1) * q.size)
    (q.skip page) (length_filter_fetched_le htimes page) (size_pos q)
  rw [← hfirst] at hslice
  rw [getLogs_eq htimes hpage, accessLogs.map_inj_of_key AccessLog.id fun _ => rfl]
  · exact hslice
  · intro row hrow
    rw [hfirst] at hrow
    exact hrows row (List.mem_of_mem_take (List.mem_of_mem_drop (List.mem_of_mem_take hrow)))
  · intro row hrow
    exact hrows row (List.mem_of_mem_drop (List.mem_of_mem_take hrow))

omit [Host] in
/-- The number of a page is positive. -/
theorem toInt_eq_toNat (hpage : 1 ≤ page.toInt) : page.toInt = page.toNat := by
  have hlt := page.isLt
  rw [BitVec.toInt_eq_toNat_cond] at hpage ⊢
  split at hpage <;> omega

/-- Where nothing wraps around, a page reaches its rows when enough of the fetched ones match. -/
theorem reaches_iff_of_small (htimes : DifferentTimes accessLogs.rows) (hpage : 1 ≤ page.toInt)
    (hsmall : page.toNat * q.size < 2 ^ 31) :
    q.Reaches page accessLogs
      ↔ (q.matching accessLogs).length ≤ (page.toNat - 1) * q.size
        ∨ min (q.matching accessLogs).length (page.toNat * q.size)
          ≤ ((q.fetched page accessLogs).filter q.passes).length := by
  have hnumber := toInt_eq_toNat hpage
  have hpred : page.toInt - 1 = ((page.toNat - 1 : Nat) : Int) := by omega
  have hend : (page.toNat - 1) * q.size + q.size = page.toNat * q.size := by
    rw [← Nat.succ_mul, Nat.succ_eq_add_one, Nat.sub_add_cancel (by omega)]
  have hskip : q.skip page = (page.toNat - 1) * q.size := by
    have hstart : (page.toNat - 1) * q.size < 2 ^ 31 :=
      lt_of_le_of_lt (Nat.mul_le_mul_right _ (Nat.sub_le _ _)) hsmall
    unfold skip
    rw [hpred, ← size_eq, ← Int.natCast_mul,
      toInt32_of_small (Int.natCast_nonneg _) (by exact_mod_cast hstart), Int.toNat_natCast]
  have hcount := length_filter_fetched_le (q := q) htimes page
  unfold Reaches
  dsimp only
  rw [hend, hskip]
  omega

/-- Without other filters than the door, the pages reach their rows as long as nothing wraps
around. -/
theorem reaches_of_unfiltered (htimes : DifferentTimes accessLogs.rows) (hpage : 1 ≤ page.toInt)
    (hsmall : page.toNat * q.size < 2 ^ 31)
    (hpasses : ∀ row ∈ accessLogs.rows, q.passes row = true) : q.Reaches page accessLogs := by
  have hmatching : (q.matching accessLogs).length = (accessLogs.rows.filter q.ofDoor).length := by
    unfold matching latestFirst
    rw [length_descending, ← List.filter_filter, List.filter_eq_self.mpr hpasses]
  have hlimit : toInt32 (clampLimit q.limit * page.toInt) = (page.toNat * q.size : Nat) := by
    rw [toInt_eq_toNat hpage, ← size_eq, ← Int.natCast_mul, Nat.mul_comm,
      toInt32_of_small (Int.natCast_nonneg _) (by exact_mod_cast hsmall)]
  have hfetched : q.fetched page accessLogs
      = (latestFirst (accessLogs.rows.filter q.ofDoor)).take (page.toNat * q.size) := by
    unfold fetched limitTo
    rw [hlimit, if_neg (by omega), Int.toNat_natCast]
  have hall : (q.fetched page accessLogs).filter q.passes = q.fetched page accessLogs := by
    refine List.filter_eq_self.mpr fun row hrow => hpasses row ?_
    rw [hfetched] at hrow
    exact (List.mem_filter.mp (mem_descending.mp (List.mem_of_mem_take hrow))).1
  rw [reaches_iff_of_small htimes hpage hsmall, hall, hfetched, List.length_take, latestFirst,
    length_descending]
  omega

/-- The pages that a caller reads, one after the other. -/
def readPages (q : Query) (n : Nat) (accessLogs : AccessLogs) : List AccessLog :=
  ((List.range n).map fun i => q.getLogs (BitVec.ofNat 32 (i + 1)) accessLogs).flatten

/-- A page is the page of the matching rows exactly when it reaches them. If all pages up to a
number do, then they enumerate the first matching rows. -/
theorem getLogs_enumerates_iff (q : Query) (accessLogs : AccessLogs)
    (htimes : DifferentTimes accessLogs.rows) :
    (∀ page : BitVec 32, 1 ≤ page.toInt →
      (q.getLogs page accessLogs
          = (Descending.page q.size (page.toNat - 1) (q.matching accessLogs)).map ofRow
        ↔ q.Reaches page accessLogs))
    ∧ ∀ n < 2 ^ 31, (∀ i < n, q.Reaches (BitVec.ofNat 32 (i + 1)) accessLogs) →
      readPages q n accessLogs = ((q.matching accessLogs).take (n * q.size)).map ofRow := by
  refine ⟨fun page hpage => getLogs_eq_page_iff htimes hpage, fun n hn hreaches => ?_⟩
  rw [← flatten_pages, List.map_flatten, List.map_map]
  refine congrArg List.flatten (List.map_congr_left fun i hi => ?_)
  have hi : i < n := List.mem_range.mp hi
  have hnumber : (BitVec.ofNat 32 (i + 1)).toNat = i + 1 := by
    rw [BitVec.toNat_ofNat]
    omega
  have hpage : 1 ≤ (BitVec.ofNat 32 (i + 1)).toInt := by
    rw [BitVec.toInt_eq_toNat_of_lt (by omega)]
    omega
  rw [(getLogs_eq_page_iff htimes hpage).mpr (hreaches i hi), hnumber]
  rfl

end

section
/-- The host of the samples. -/
local instance : Host := Host.sample

/-- An entry of the hall by hand, and an older one from the keypad. -/
def hallTable : AccessLogs := .ofList
  [stored { hallLog "a" 638447616000000001 with method := .ringKeypad },
    stored (hallLog "b" 638447616000000002)] (by decide)

/-- The entries of the sample have different times. -/
theorem hallTable_times : DifferentTimes hallTable.rows := ⟨by decide, by decide, by decide⟩

/-- The keypad's entries of the hall, one on a page. -/
def keypadEntries : Query where
  doorId := some "hall"
  method := some "RingKeypad"
  limit := 1

/-- The newest entry takes the place of the one that matches. -/
theorem sparse_match_is_missed :
    ¬ ∀ (q : Query) (page : BitVec 32) (accessLogs : AccessLogs), DifferentTimes accessLogs.rows →
      q.Recognised → 1 ≤ page.toInt → q.getLogs page accessLogs
        = (Descending.page q.size (page.toNat - 1) (q.matching accessLogs)).map ofRow := by
  intro h
  have hrecognised : keypadEntries.Recognised := ⟨.inr (by decide), .inl (by decide)⟩
  have hreaches := (getLogs_eq_page_iff hallTable_times (by decide)).mp
    (h keypadEntries 1 hallTable hallTable_times hrecognised (by decide))
  have hnot : ¬ keypadEntries.Reaches 1 hallTable := by
    unfold Reaches
    decide
  exact hnot hreaches

/-- Two pages of the whole table enumerate it. -/
theorem getLogs_enumerates_iff_hall :
    readPages { limit := 1 } 2 hallTable
      = ((Query.matching { limit := 1 } hallTable).take 2).map ofRow :=
  (getLogs_enumerates_iff { limit := 1 } hallTable hallTable_times).2 2 (by decide) fun i hi =>
    match i, hi with
    | 0, _ | 1, _ => reaches_of_unfiltered hallTable_times (by decide) (by decide) (by decide)

end

end CodeMaster.Proofs.Web.LogPages
