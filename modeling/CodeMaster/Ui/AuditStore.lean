import CodeMaster.Core.Models

/-!
# `CodeMaster.Ui.AuditStore`: the activity list of the user interface

The store holds the log entries and the filter of the activity page. A fetch sends a query that it
makes of the filter when it starts, and its response overwrites the entries when it arrives.
`System` is the store with the fetches in flight, and one step for a call or for a response. The
responses can arrive in any order.

Fields that are missing, `undefined` or `null` are `none`. The unions of event types and methods are
texts, as they come from the server. The error that a failed request throws is its message.
-/

set_option autoImplicit false

namespace CodeMaster.Ui

/-! ### The entries and the filter -/

/-- An entry of the audit log, as the server sends it. -/
structure AccessLog where
  id : String
  accessPointId : String
  accessPointName : Option String := none
  userId : Option String := none
  userName : Option String := none
  credentialType : Option String := none
  eventType : String
  method : String
  timestamp : String
  details : Option String := none
  deriving DecidableEq, Repr

/-- The filter of the page. A missing value and an empty one ask for nothing. -/
structure AuditFilter where
  doorId : Option String := none
  userId : Option String := none
  method : Option String := none
  eventType : Option String := none
  limit : Option Int := none
  deriving DecidableEq, Repr

/-- `Partial<AuditFilter>`: a field that is present can still be `undefined`. -/
structure PartialFilter where
  doorId : Option (Option String) := none
  userId : Option (Option String) := none
  method : Option (Option String) := none
  eventType : Option (Option String) := none
  limit : Option (Option Int) := none
  deriving DecidableEq, Repr

/-- `{ ...filter, ...newFilter }`. -/
def AuditFilter.spread (filter : AuditFilter) (newFilter : PartialFilter) : AuditFilter where
  doorId := newFilter.doorId.getD filter.doorId
  userId := newFilter.userId.getD filter.userId
  method := newFilter.method.getD filter.method
  eventType := newFilter.eventType.getD filter.eventType
  limit := newFilter.limit.getD filter.limit

/-- The text, if it is truthy. -/
def truthy (text : Option String) : Option String := text.filter (· ≠ "")

/-- The number, if it is truthy. -/
def truthyNumber (number : Option Int) : Option Int := number.filter (· ≠ 0)

/-! ### The query -/

/-- The parameters of `GET /api/logs`. -/
structure LogQuery where
  doorId : Option String := none
  userId : Option String := none
  method : Option String := none
  limit : Option Int := none
  deriving DecidableEq, Repr

/-- The parameters that `logs.list` appends. -/
def list (filter : AuditFilter) : LogQuery where
  doorId := truthy filter.doorId
  userId := truthy filter.userId
  method := truthy filter.method
  limit := truthyNumber filter.limit

/-! ### The store -/

/-- The store of the page. -/
structure AuditState where
  logs : List AccessLog := []
  filter : AuditFilter := { limit := some 100 }
  isLoading : Bool := false
  isLive : Bool := true
  error : Option String := none
  deriving DecidableEq, Repr

namespace AuditState

/-- The part of `fetchLogs` before the response, and the query that it sends. -/
def fetchLogs (state : AuditState) : AuditState × LogQuery :=
  ({ state with isLoading := true, error := none }, list state.filter)

/-- The part of `fetchLogs` after the response. -/
def receive (response : Except String (List AccessLog)) (state : AuditState) : AuditState :=
  match response with
  | .ok logs => { state with logs, isLoading := false }
  | .error message => { state with error := some message, isLoading := false }

/-- A new filter is joined with the one of the page, and the entries are fetched again. -/
def setFilter (newFilter : PartialFilter) (state : AuditState) : AuditState × LogQuery :=
  fetchLogs { state with filter := state.filter.spread newFilter }

/-- The filter is dropped, and the entries are fetched again. -/
def clearFilter (state : AuditState) : AuditState × LogQuery :=
  fetchLogs { state with filter := { limit := some 100 } }

/-- The event matches the filter. -/
def matchesFilter (filter : AuditFilter) (event : AccessLog) : Bool :=
  (truthy filter.doorId).all (event.accessPointId = ·)
    && (truthy filter.userId).all (event.userId = some ·)
    && (truthy filter.method).all (event.method = ·)
    && (truthy filter.eventType).all (event.eventType = ·)

/-- A live entry is put in front when it matches the filter. An older one with its id goes. -/
def addLogEvent (event : AccessLog) (state : AuditState) : AuditState :=
  if matchesFilter state.filter event then
    { state with logs := (event :: state.logs.filter (·.id ≠ event.id)).take 200 }
  else state

/-- The live feed is switched on or off. -/
def toggleLive (enabled : Option Bool) (state : AuditState) : AuditState :=
  { state with isLive := enabled.getD !state.isLive }

end AuditState

/-! ### The fetches in flight -/

/-- A call of the store, or the response to the fetch at a place in the list of those in flight. -/
inductive AuditInput where
  | fetchLogs
  | setFilter (newFilter : PartialFilter)
  | clearFilter
  | addLogEvent (event : AccessLog)
  | toggleLive (enabled : Option Bool)
  | response (place : Nat)
  deriving DecidableEq, Repr

/-- What the server answers to the fetch with the number, for each query. -/
abbrev LogServer := Nat → LogQuery → Except String (List AccessLog)

/-- The store, and the fetches in flight with their numbers and queries. -/
structure AuditSystem where
  state : AuditState := {}
  pending : List (Nat × LogQuery) := []
  started : Nat := 0
  deriving DecidableEq, Repr

namespace AuditSystem

/-- A fetch starts. -/
def start (s : AuditSystem) (fetch : AuditState × LogQuery) : AuditSystem where
  state := fetch.1
  pending := s.pending ++ [(s.started, fetch.2)]
  started := s.started + 1

/-- One action of the user, one answer or one live entry. -/
def step (server : LogServer) (s : AuditSystem) : AuditInput → AuditSystem
  | .fetchLogs => s.start s.state.fetchLogs
  | .setFilter newFilter => s.start (s.state.setFilter newFilter)
  | .clearFilter => s.start s.state.clearFilter
  | .addLogEvent event => { s with state := s.state.addLogEvent event }
  | .toggleLive enabled => { s with state := s.state.toggleLive enabled }
  | .response place =>
    match s.pending[place]? with
    | none => s
    | some (number, query) =>
      { s with
        state := s.state.receive (server number query), pending := s.pending.eraseIdx place }

/-- An answer to no request changes nothing. -/
theorem step_response_of_none {server : LogServer} {s : AuditSystem} {place : Nat}
    (h : s.pending[place]? = none) : s.step server (.response place) = s := by
  simp only [step, h]

/-- The answer to a request at its place. -/
theorem step_response_of_some {server : LogServer} {s : AuditSystem} {place : Nat}
    {fetch : Nat × LogQuery} (h : s.pending[place]? = some fetch) :
    s.step server (.response place)
      = { s with
          state := s.state.receive (server fetch.1 fetch.2)
          pending := s.pending.eraseIdx place } := by
  simp only [step, h]

end AuditSystem

end CodeMaster.Ui
