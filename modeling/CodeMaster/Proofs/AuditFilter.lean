import CodeMaster.Lib.Transition
import CodeMaster.Ui.AuditStore

/-!
# `CodeMaster.Proofs.AuditFilter`: does the activity list match the filter?

A response overwrites the entries whatever the filter has become, and a query says nothing of the
event type. `MatchesAtRest` is the invariant: with no fetch in flight every entry matches the
filter. Only the last response in flight can break it, and it cannot if its query has the fields
of the present filter (`Covers`). Which query that is depends on the order of the responses, and
not on what the server answers.

The server is any function that answers a query with entries which satisfy it (`Honest`). The
responses come in any order, at any time. The proof that the condition is exact builds a server
whose one entry satisfies the query of the last response and is as far from the filter as the query
allows (`avoiding`).

A live entry is checked against the filter before it is shown, so that the live feed cannot break
the invariant.
-/

set_option autoImplicit false

namespace CodeMaster.Proofs.AuditFilter

open CodeMaster.Ui AuditState AuditSystem Transition

/-! ### Queries and filters -/

/-- The entry is one that the query asks for. -/
structure Satisfies (query : LogQuery) (log : AccessLog) : Prop where
  doorId : ∀ value, query.doorId = some value → log.accessPointId = value
  userId : ∀ value, query.userId = some value → log.userId = some value
  method : ∀ value, query.method = some value → log.method = value

/-- The server answers every query with entries that it asks for. -/
def Honest (server : LogServer) : Prop :=
  ∀ number query, ∃ logs, server number query = .ok logs ∧ ∀ log ∈ logs, Satisfies query log

/-- The query asks for every field of the filter. It cannot ask for an event type. -/
structure Covers (query : LogQuery) (filter : AuditFilter) : Prop where
  doorId : ∀ value, truthy filter.doorId = some value → query.doorId = some value
  userId : ∀ value, truthy filter.userId = some value → query.userId = some value
  method : ∀ value, truthy filter.method = some value → query.method = some value
  eventType : truthy filter.eventType = none

/-- An entry matches the filter when it has each value that the filter asks for. -/
theorem matchesFilter_iff {filter : AuditFilter} {log : AccessLog} :
    matchesFilter filter log = true
      ↔ (∀ value, truthy filter.doorId = some value → log.accessPointId = value)
        ∧ (∀ value, truthy filter.userId = some value → log.userId = some value)
        ∧ (∀ value, truthy filter.method = some value → log.method = value)
        ∧ ∀ value, truthy filter.eventType = some value → log.eventType = value := by
  simp only [matchesFilter, Bool.and_eq_true, Option.all_eq_true, decide_eq_true_eq, and_assoc]

/-- When the query covers the filter, what satisfies the query matches the filter. -/
theorem Covers.matchesFilter {query : LogQuery} {filter : AuditFilter} {log : AccessLog}
    (h : Covers query filter) (hlog : Satisfies query log) : matchesFilter filter log = true := by
  refine matchesFilter_iff.mpr ⟨fun value hvalue => hlog.doorId value (h.doorId value hvalue),
    fun value hvalue => hlog.userId value (h.userId value hvalue),
    fun value hvalue => hlog.method value (h.method value hvalue), fun value hvalue => ?_⟩
  rw [h.eventType] at hvalue
  cases hvalue

/-- Another text than the one that is given. -/
def other (text : Option String) : String := text.getD "" ++ "x"

/-- The other text is another one. -/
theorem other_ne {text : Option String} {value : String} (h : truthy text = some value) :
    other text ≠ value := by
  obtain ⟨htext, -⟩ := Option.filter_eq_some_iff.mp h
  intro heq
  have hlength := congrArg String.length heq
  have hone : "x".length = 1 := rfl
  rw [other, htext, Option.getD_some, String.length_append] at hlength
  omega

/-- An entry that the query asks for, and that avoids the filter where the query leaves it open. -/
def avoiding (query : LogQuery) (filter : AuditFilter) : AccessLog where
  id := "log"
  accessPointId := query.doorId.getD (other filter.doorId)
  userId := some (query.userId.getD (other filter.userId))
  eventType := other filter.eventType
  method := query.method.getD (other filter.method)
  timestamp := ""

/-- There is an entry that satisfies the query and has none of the values that only the filter asks
for. -/
theorem satisfies_avoiding (query : LogQuery) (filter : AuditFilter) :
    Satisfies query (avoiding query filter) := by
  refine ⟨fun value hvalue => ?_, fun value hvalue => ?_, fun value hvalue => ?_⟩ <;>
    simp [avoiding, hvalue]

/-- Only a query that has the field makes the entry have it. -/
theorem eq_some_of_getD_other {asked field : Option String} {value : String}
    (hfield : truthy field = some value) (h : asked.getD (other field) = value) :
    asked = some value := by
  cases asked with
  | none => exact absurd h (other_ne hfield)
  | some text => rw [← h, Option.getD_some]

/-- When this entry matches the filter, the query covers the filter. -/
theorem covers_of_matchesFilter_avoiding {query : LogQuery} {filter : AuditFilter}
    (h : matchesFilter filter (avoiding query filter) = true) : Covers query filter := by
  obtain ⟨hdoor, huser, hmethod, hevent⟩ := matchesFilter_iff.mp h
  refine ⟨fun value hvalue => eq_some_of_getD_other hvalue (hdoor value hvalue),
    fun value hvalue => ?_, fun value hvalue => eq_some_of_getD_other hvalue (hmethod value hvalue),
    ?_⟩
  · exact eq_some_of_getD_other hvalue (Option.some.inj (huser value hvalue))
  · cases hfield : truthy filter.eventType with
    | none => rfl
    | some value => exact absurd (hevent value hfield) (other_ne hfield)

/-! ### What does not depend on the answers -/

/-- Both systems have the same filter and the same fetches in flight. -/
structure SameTraffic (s s' : AuditSystem) : Prop where
  filter : s.state.filter = s'.state.filter
  pending : s.pending = s'.pending
  started : s.started = s'.started

/-- An answer leaves the filter. -/
@[simp] theorem filter_receive (response : Except String (List AccessLog)) (state : AuditState) :
    (receive response state).filter = state.filter := by
  cases response <;> rfl

/-- A live entry leaves the filter. -/
@[simp] theorem filter_addLogEvent (event : AccessLog) (state : AuditState) :
    (addLogEvent event state).filter = state.filter := by
  unfold addLogEvent
  split <;> rfl

/-- The traffic does not depend on what the server answers. The step lemma. -/
theorem SameTraffic.step {s s' : AuditSystem} (h : SameTraffic s s') (server server' : LogServer)
    (input : AuditInput) : SameTraffic (step server s input) (step server' s' input) := by
  obtain ⟨hfilter, hpending, hstarted⟩ := h
  cases input with
  | fetchLogs | setFilter | clearFilter =>
    refine ⟨?_, ?_, ?_⟩ <;>
      simp [AuditSystem.step, start, fetchLogs, setFilter, clearFilter, hfilter, hpending, hstarted]
  | addLogEvent event => exact ⟨by simp [AuditSystem.step, hfilter], hpending, hstarted⟩
  | toggleLive enabled => exact ⟨hfilter, hpending, hstarted⟩
  | response place =>
    cases hfetch : s'.pending[place]? with
    | none =>
      rw [step_response_of_none (hpending ▸ hfetch), step_response_of_none hfetch]
      exact ⟨hfilter, hpending, hstarted⟩
    | some fetch =>
      rw [step_response_of_some (hpending ▸ hfetch), step_response_of_some hfetch]
      exact ⟨by simp [hfilter], by rw [hpending], hstarted⟩

/-- The traffic does not depend on what the server answers. The run lemma. -/
theorem sameTraffic_foldl (server server' : LogServer) (inputs : List AuditInput) :
    ∀ {s s' : AuditSystem}, SameTraffic s s' →
      SameTraffic (inputs.foldl (step server) s) (inputs.foldl (step server') s') := by
  induction inputs with
  | nil => exact fun h => h
  | cons input inputs ih => exact fun h => ih (h.step server server' input)

/-! ### The step lemma -/

/-- With no fetch in flight, every entry matches the filter. -/
def MatchesAtRest (s : AuditSystem) : Prop :=
  s.pending = [] → ∀ log ∈ s.state.logs, matchesFilter s.state.filter log = true

/-- The last response in flight is to a query that covers the filter. -/
def LastCovers (s : AuditSystem) : AuditInput → Prop
  | .response place => s.pending.length = 1 →
    ∀ fetch, s.pending[place]? = some fetch → Covers fetch.2 s.state.filter
  | _ => True

/-- With a request in flight nothing is asked of the shown entries. -/
theorem matchesAtRest_of_pending {s : AuditSystem} (h : s.pending ≠ []) : MatchesAtRest s :=
  fun hnil => absurd hnil h

/-- A live entry is shown only when it matches the filter. -/
theorem matchesFilter_of_mem_addLogEvent {state : AuditState} {event log : AccessLog}
    (h : ∀ log ∈ state.logs, matchesFilter state.filter log = true)
    (hlog : log ∈ (addLogEvent event state).logs) : matchesFilter state.filter log = true := by
  unfold addLogEvent at hlog
  split at hlog
  · next hmatches =>
    rcases List.mem_cons.mp (List.mem_of_mem_take hlog) with rfl | hold
    · exact hmatches
    · exact h log (List.mem_of_mem_filter hold)
  · exact h log hlog

/-- The step lemma. -/
theorem matchesAtRest_step {server : LogServer} (hserver : Honest server) (s : AuditSystem)
    (input : AuditInput) (h : MatchesAtRest s) (hok : LastCovers s input) :
    MatchesAtRest (step server s input) := by
  cases input with
  | fetchLogs | setFilter | clearFilter =>
    exact matchesAtRest_of_pending (by simp [AuditSystem.step, start])
  | addLogEvent event =>
    intro hpending log hlog
    show matchesFilter (addLogEvent event s.state).filter log = true
    rw [filter_addLogEvent]
    exact matchesFilter_of_mem_addLogEvent (h hpending) hlog
  | toggleLive enabled => exact h
  | response place =>
    cases hfetch : s.pending[place]? with
    | none =>
      rw [step_response_of_none hfetch]
      exact h
    | some fetch =>
      obtain ⟨logs, hlogs, hsatisfies⟩ := hserver fetch.1 fetch.2
      rw [step_response_of_some hfetch, hlogs]
      intro hpending log hlog
      -- It was the only one in flight.
      have hlast : s.pending.length = 1 := by
        obtain ⟨hplace, -⟩ := List.getElem?_eq_some_iff.mp hfetch
        have hlength := List.length_eraseIdx_of_lt hplace
        rw [show s.pending.eraseIdx place = [] from hpending, List.length_nil] at hlength
        omega
      exact (hok hlast fetch hfetch).matchesFilter (hsatisfies log hlog)

/-! ### Runs -/

/-- A server that answers one query with one entry, and the others with none. -/
def answering (query : LogQuery) (log : AccessLog) : LogServer := fun _ query' =>
  .ok (if query' = query then [log] else [])

/-- A server that has this one entry is honest. -/
theorem honest_answering {query : LogQuery} {log : AccessLog} (h : Satisfies query log) :
    Honest (answering query log) := by
  intro number query'
  refine ⟨_, rfl, fun log' hlog' => ?_⟩
  split at hlog'
  · next hquery =>
    rw [List.mem_singleton.mp hlog', hquery]
    exact h
  · cases hlog'

/-- A response to a query that does not cover the filter can bring an entry that does not match. -/
theorem covers_of_matchesAtRest {server : LogServer} {s : AuditSystem} {place : Nat}
    {fetch : Nat × LogQuery} (hlast : s.pending.length = 1)
    (hfetch : s.pending[place]? = some fetch)
    (hserver : server fetch.1 fetch.2 = .ok [avoiding fetch.2 s.state.filter])
    (h : MatchesAtRest (step server s (.response place))) : Covers fetch.2 s.state.filter := by
  rw [step_response_of_some hfetch, hserver] at h
  have hpending : s.pending.eraseIdx place = [] := by
    obtain ⟨hplace, -⟩ := List.getElem?_eq_some_iff.mp hfetch
    refine List.eq_nil_of_length_eq_zero ?_
    rw [List.length_eraseIdx_of_lt hplace, hlast]
  exact covers_of_matchesFilter_avoiding (h hpending _ List.mem_cons_self)

/-- Whatever an honest server answers, the entries match the filter whenever no fetch is in flight,
if and only if each response that comes last is to a query that covers the filter. -/
theorem logs_match_filter_iff (inputs : List AuditInput) :
    (∀ server, Honest server → ∀ before, before <+: inputs →
        MatchesAtRest (before.foldl (step server) {}))
      ↔ ∀ server, StepsMeet (step server) LastCovers {} inputs := by
  constructor
  · intro h server
    refine stepsMeet_iff_forall.mpr fun before input hbefore => ?_
    cases input with
    | response place =>
      intro hlast fetch hfetch
      -- With a server that answers what avoids the filter, the same fetches are in flight.
      let s := before.foldl (step server) {}
      let server' := answering fetch.2 (avoiding fetch.2 s.state.filter)
      have hsame : SameTraffic s (before.foldl (step server') {}) :=
        sameTraffic_foldl server server' before ⟨rfl, rfl, rfl⟩
      have hrest := h server' (honest_answering (satisfies_avoiding _ _)) _ hbefore
      rw [List.foldl_append] at hrest
      have hcovers := covers_of_matchesAtRest (hsame.pending ▸ hlast) (hsame.pending ▸ hfetch)
        (by rw [← hsame.filter]; simp [server', answering]) hrest
      rwa [← hsame.filter] at hcovers
    | fetchLogs | setFilter | clearFilter | addLogEvent | toggleLive => trivial
  · intro h server hserver before hbefore
    obtain ⟨rest, rfl⟩ := hbefore
    have hmeet := h server
    refine invariant_of_stepsMeet MatchesAtRest (matchesAtRest_step hserver) before {} ?_
      hmeet.of_prefix
    exact fun _ log hlog => absurd hlog List.not_mem_nil

/-- The user picks a type of events, and the response arrives. -/
def pickedType : List AuditInput :=
  [.setFilter { eventType := some (some "Unlocked") }, .response 0]

/-- The user picks one door after the other, and the first response arrives last. -/
def pickedDoors : List AuditInput :=
  [.setFilter { doorId := some (some "front") }, .setFilter { doorId := some (some "side") },
    .response 1, .response 0]

/-- An entry of the front door. -/
def lockedFront : AccessLog where
  id := "log"
  accessPointId := "front"
  eventType := "Locked"
  method := "AutoLock"
  timestamp := "2026-01-01T00:00:00Z"

/-- The query does not ask for the event type, and the late response brings the other door. -/
theorem logs_do_not_match_filter :
    (¬∀ server, Honest server → MatchesAtRest (pickedType.foldl (step server) {}))
      ∧ ¬∀ server, Honest server → MatchesAtRest (pickedDoors.foldl (step server) {}) := by
  constructor
  · intro h
    have hsatisfies : Satisfies { limit := some 100 } lockedFront := ⟨by simp, by simp, by simp⟩
    have hmatches := h _ (honest_answering hsatisfies) (by decide) lockedFront (by decide)
    exact absurd hmatches (by decide)
  · intro h
    have hsatisfies : Satisfies { doorId := some "front", limit := some 100 } lockedFront :=
      ⟨by simp [lockedFront], by simp, by simp⟩
    have hmatches := h _ (honest_answering hsatisfies) (by decide) lockedFront (by decide)
    exact absurd hmatches (by decide)

end CodeMaster.Proofs.AuditFilter
