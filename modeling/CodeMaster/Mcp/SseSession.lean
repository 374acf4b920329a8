import CodeMaster.Core.Text

/-!
# `CodeMaster.Mcp.SseSession`: an event stream of the MCP server

`HandleSseConnectionAsync` registers a channel, writes the endpoint, and then takes turns: each
starts a wait for a message and a wait for the 15-second timer, and the first of them to complete
decides what the turn writes. `HandlePostMessageAsync` writes its answers to the channel of the
session that the request names. A `Phase` is the point between two steps of the loop at which the
others can act.

The channel is an unbounded queue. The read wait of a turn that the timer ends is dropped: the next
`WaitToReadAsync` cancels it and loses nothing. The JSON text of an answer is a parameter. A
request that is answered with an error status writes to no channel and is left out.
-/

set_option autoImplicit false

namespace CodeMaster.Mcp

open CodeMaster.Core

/-- `PeriodicTimer`: a wait is pending, or a tick is kept for the next wait. -/
structure PeriodicTimer where
  activeWait : Bool := false
  signaled : Bool := false
  deriving DecidableEq, Repr

/-- `WaitForNextTickAsync`: is the new wait completed at once? There is no result when an earlier
wait is pending, which is an `InvalidOperationException`. -/
def PeriodicTimer.waitForNextTickAsync (t : PeriodicTimer) : Option (Bool × PeriodicTimer) :=
  if t.activeWait then none
  else if t.signaled then some (true, {})
  else some (false, { activeWait := true })

/-- The timer fires. -/
def PeriodicTimer.tick (t : PeriodicTimer) : PeriodicTimer :=
  if t.activeWait then {} else { signaled := true }

namespace SseSession

/-- What the loop writes to the response. -/
inductive Chunk where
  | endpoint
  | ping
  | message (sseEvent : String)
  deriving DecidableEq, Repr

/-- The text of a chunk in the session `sessionId`. -/
def Chunk.text (sessionId : String) : Chunk → String
  | .endpoint => "event: endpoint\ndata: /mcp/messages?sessionId=" ++ sessionId ++ "\n\n"
  | .ping => ": ping\n\n"
  | .message sseEvent => sseEvent

/-- The task that `Task.WhenAny` returns. -/
inductive CompletedTask where
  | readTask
  | timerTask
  deriving DecidableEq, Repr

/-- Where `HandleSseConnectionAsync` is. -/
inductive Phase where
  /-- Writing the endpoint. -/
  | opening
  /-- Before the two waits of a turn. -/
  | loopHead
  /-- In `Task.WhenAny`. -/
  | waiting (completed : Option CompletedTask)
  /-- Before `TryRead`. -/
  | reading
  /-- Writing a message that was read. -/
  | writing (msg : String)
  /-- Writing the keepalive comment. -/
  | pinging
  /-- After the `finally` block. -/
  | closed
  deriving DecidableEq, Repr

/-- What can happen next. -/
inductive Event where
  /-- The loop executes its next step. -/
  | run
  /-- A request with the answer `responseJson` is posted for a session. -/
  | postMessage (sessionId : Option String) (responseJson : String)
  /-- Fifteen seconds are over. -/
  | tick
  /-- The client goes away, which cancels the token of the connection. -/
  | disconnect
  deriving DecidableEq, Repr

end SseSession

/-- A session, with its connection. -/
structure SseSession where
  sessionId : String
  phase : SseSession.Phase := .opening
  channel : List String := []
  timer : PeriodicTimer := {}
  /-- The session is in `_activeSessions`. -/
  registered : Bool := true
  /-- What has been written to the response. -/
  stream : List SseSession.Chunk := []
  connected : Bool := true
  /-- Ghost state: every message that was written to the channel. -/
  posted : List String := []
  deriving DecidableEq, Repr

namespace SseSession

/-- The `finally` block. -/
def close (s : SseSession) : SseSession := { s with phase := .closed, registered := false }

/-- The start of a turn: both waits, and the task that is already completed, if any. -/
def startTurn (s : SseSession) : SseSession :=
  match s.timer.waitForNextTickAsync with
  -- The exception ends the loop, and the `finally` block follows.
  | none => s.close
  | some (ticked, timer) =>
    { s with
      timer
      phase := .waiting
        (if s.channel ≠ [] then some .readTask else if ticked then some .timerTask else none) }

/-- `TryRead`. -/
def tryRead (s : SseSession) : SseSession :=
  match s.channel with
  | [] => { s with phase := .loopHead }
  | msg :: rest => { s with channel := rest, phase := .writing msg }

/-- The next step of the loop. A canceled token ends it. -/
def run (s : SseSession) : SseSession :=
  if s.connected = false then s.close
  else
    match s.phase with
    | .opening => { s with stream := s.stream ++ [.endpoint], phase := .loopHead }
    | .loopHead => s.startTurn
    | .waiting none => s
    -- The timer's wait of this turn stays pending.
    | .waiting (some .readTask) => { s with phase := .reading }
    | .waiting (some .timerTask) => { s with phase := .pinging }
    | .reading => s.tryRead
    | .writing msg => { s with stream := s.stream ++ [.message msg], phase := .reading }
    | .pinging => { s with stream := s.stream ++ [.ping], phase := .loopHead }
    | .closed => s

/-- `TryWrite` on the channel of the session. -/
def tryWrite (s : SseSession) (msg : String) : SseSession :=
  { s with
    channel := s.channel ++ [msg]
    posted := s.posted ++ [msg]
    -- A message completes the read wait of a suspended turn.
    phase := if s.phase = .waiting none then .waiting (some .readTask) else s.phase }

/-- `HandlePostMessageAsync`, for a request with the answer `responseJson`. -/
def handlePostMessageAsync (s : SseSession) (sessionId : Option String) (responseJson : String) :
    SseSession :=
  if isNullOrWhiteSpace sessionId = false ∧ sessionId = some s.sessionId ∧ s.registered = true then
    s.tryWrite ("event: message\ndata: " ++ responseJson ++ "\n\n")
  else s

/-- The timer runs from the first turn until the session is closed. -/
def tick (s : SseSession) : SseSession :=
  if s.phase = .opening ∨ s.phase = .closed then s
  else
    { s with
      timer := s.timer.tick
      phase := if s.phase = .waiting none then .waiting (some .timerTask) else s.phase }

/-- One event. -/
def step (s : SseSession) : Event → SseSession
  | .run => s.run
  | .postMessage sessionId responseJson => s.handlePostMessageAsync sessionId responseJson
  | .tick => s.tick
  | .disconnect => { s with connected := false }

/-- The messages on the response, in order. -/
def messages (s : SseSession) : List String :=
  s.stream.filterMap fun
    | .message msg => some msg
    | _ => none

/-- The messages of the channel that are not on the response yet. -/
def unwritten (s : SseSession) : List String :=
  match s.phase with
  | .writing msg => msg :: s.channel
  | _ => s.channel

end SseSession

end CodeMaster.Mcp
