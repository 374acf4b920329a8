import CodeMaster.Lib.EventStream
import CodeMaster.Lib.Fanout
import CodeMaster.Data.AuditLogRepository

/-!
# `CodeMaster.Web.LiveFeed`: the live feed of access events

`AccessEventBroadcaster` has a channel for each subscriber, and `Broadcast` writes an entry to the
channels of the moment. `GET /api/logs/stream` writes a first comment, subscribes, and then writes
each entry that it reads from its channel. A connection is named by the `Guid` of its subscription,
which is a new one. A `Phase` is the point of a connection between two of its steps.

Requests that broadcast run at the same time. Each of them takes the channels when it starts, as
`ConcurrentDictionary.Values` does, and then writes to one after the other. The channels are
unbounded, so a write succeeds. The JSON text of an entry is a parameter.
-/

set_option autoImplicit false

namespace CodeMaster.Web

open CodeMaster.Core

/-- The subscribers with their channels. -/
abbrev AccessEventBroadcaster := Fanout String AccessLog

namespace AccessEventBroadcaster

/-- `Broadcast` up to its first write. -/
def broadcast (b : AccessEventBroadcaster) (log : AccessLog) : AccessEventBroadcaster :=
  b.publish log

/-- `TryWrite` of a broadcast that is under way. -/
def tryWrite (b : AccessEventBroadcaster) (number : Nat) (guid : String) :
    AccessEventBroadcaster := b.write number guid

/-- `_subscribers[id] = channel`. -/
def register (b : AccessEventBroadcaster) (guid : String) : AccessEventBroadcaster :=
  b.subscribe guid

/-- `_subscribers.TryRemove(id, out _)`. -/
def tryRemove (b : AccessEventBroadcaster) (guid : String) : AccessEventBroadcaster :=
  b.unsubscribe guid

end AccessEventBroadcaster

namespace LiveFeed

/-- Where `StreamLiveEvents` is, with the enumerator of `SubscribeAsync`. -/
inductive Phase where
  /-- Writing the first comment. -/
  | opening
  /-- Before the first `MoveNextAsync`. -/
  | subscribing
  /-- In `ReadAsync`. -/
  | reading
  /-- Writing an entry that was read. -/
  | writing (log : AccessLog)
  /-- After the `finally` block. -/
  | closed
  deriving DecidableEq, Repr

/-- What the action writes to the response. -/
inductive Frame where
  | connected
  | entry (log : AccessLog)
  deriving DecidableEq, Repr

/-- A frame in the event-stream format. -/
def Frame.chunk (serialize : AccessLog → String) : Frame → EventStream.Chunk
  | .connected => .comment "connected".toList
  | .entry log => .message none (serialize log).toList

/-- The text of a frame. -/
def Frame.text (serialize : AccessLog → String) : Frame → String
  | .connected => ": connected\n\n"
  | .entry log => "data: " ++ serialize log ++ "\n\n"

/-- The entry in a frame. -/
def Frame.log? : Frame → Option AccessLog
  | .connected => none
  | .entry log => some log

/-- A request for the stream. -/
structure Connection where
  phase : Phase := .opening
  /-- The client is there. If not, the token of the request is canceled. -/
  connected : Bool := true
  response : List Frame := []
  deriving DecidableEq, Repr

/-- The text that was written to the response. -/
def Connection.text (serialize : AccessLog → String) (c : Connection) : String :=
  c.response.foldl (fun text frame => text ++ frame.text serialize) ""

/-- The entries on the response, in order. -/
def Connection.entries (c : Connection) : List AccessLog := c.response.filterMap Frame.log?

/-- What happens next. -/
inductive Event where
  /-- A client asks for the stream. -/
  | connect (guid : String)
  /-- The next step of a connection. -/
  | run (guid : String)
  /-- A client goes away. -/
  | disconnect (guid : String)
  | broadcast (log : AccessLog)
  /-- The next write of a broadcast that is under way. -/
  | tryWrite (number : Nat) (guid : String)
  deriving DecidableEq, Repr

end LiveFeed

/-- The broadcaster and the requests for the stream. -/
structure LiveFeed where
  broadcaster : AccessEventBroadcaster := {}
  connections : String → Option LiveFeed.Connection := fun _ => none

namespace LiveFeed

/-- A step of the connection `guid`. -/
def run (s : LiveFeed) (guid : String) : LiveFeed :=
  match s.connections guid with
  | none => s
  | some c =>
    let set (c : Connection) := Function.update s.connections guid (some c)
    match c.phase with
    | .opening =>
      -- The write throws when the token is canceled. Nothing is subscribed yet.
      if c.connected = false then { s with connections := set { c with phase := .closed } }
      else
        { s with connections := set { c with
            response := c.response ++ [.connected], phase := .subscribing } }
    | .subscribing =>
      -- The enumerator registers its channel before it looks at the token.
      { s with
        broadcaster := s.broadcaster.register guid
        connections := set { c with phase := .reading } }
    | .reading =>
      if c.connected = false then
        { s with
          broadcaster := s.broadcaster.tryRemove guid
          connections := set { c with phase := .closed } }
      else
        match s.broadcaster.queue guid with
        | [] => s
        | log :: _ =>
          { s with
            broadcaster := s.broadcaster.take guid
            connections := set { c with phase := .writing log } }
    | .writing log =>
      -- A canceled write throws, and `await foreach` disposes the enumerator.
      if c.connected = false then
        { s with
          broadcaster := s.broadcaster.tryRemove guid
          connections := set { c with phase := .closed } }
      else
        { s with connections := set { c with
            response := c.response ++ [.entry log], phase := .reading } }
    | .closed => s

/-- One event. -/
def step (s : LiveFeed) : Event → LiveFeed
  | .connect guid =>
    -- `Guid.NewGuid` does not return a `Guid` again.
    if (s.connections guid).isSome then s
    else { s with connections := Function.update s.connections guid (some {}) }
  | .run guid => s.run guid
  | .disconnect guid =>
    { s with
      connections := Function.update s.connections guid
        ((s.connections guid).map fun c => { c with connected := false }) }
  | .broadcast log => { s with broadcaster := s.broadcaster.broadcast log }
  | .tryWrite number guid => { s with broadcaster := s.broadcaster.tryWrite number guid }

end LiveFeed

end CodeMaster.Web
