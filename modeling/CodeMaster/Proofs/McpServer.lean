import Mathlib.Data.List.Perm.Basic
import CodeMaster.Lib.EventStream
import CodeMaster.Mcp.CodeMasterMcpServer
import CodeMaster.Proofs.SseDelivery

/-!
# `CodeMaster.Proofs.McpServer`: who gets the answers of the MCP server?

Two results for every run of the server, with any number of sessions and with requests that overlap
and overtake each other.

* Every request is answered once (`answered_once`). At every point of a run, the answers that were
  sent, the responses that are about to be sent and the requests that are handled are the posted
  requests, each once and under its own id. When the requests at hand come to their end, the answers
  are the posted requests.
* A session gets its own replies (`session_reads`). What a client reads from any part of its stream
  is the endpoint and then the first replies to the requests that named its session, in the order in
  which these were answered.

For the first result, `accounted` lists what the server knows of its requests, wherever they are. A
step only moves a request from one list to the next one, so that `accounted` stays the same up to
order, but for the request that the step posts (`accounted_step`).

For the second one, `Served` relates a session to the replies that were given to it, and holds after
every event (`served_step`). The stream of a served session is the text of an event stream whose
lines do not break, and the reader of `EventStream` finds the replies in any prefix of it.
-/

set_option autoImplicit false

namespace CodeMaster.Proofs.McpServer

open CodeMaster.Core CodeMaster.Mcp CodeMaster.Mcp.CodeMasterMcpServer
open CodeMaster.DoorCommands (Site Circumstances)
open CodeMaster.Proofs.SseDelivery (Ordered ordered_new ordered_step)

variable [Host] (env : Environment)

/-- The server after the events. -/
def after (start : CodeMasterMcpServer) (es : List Event) : CodeMasterMcpServer :=
  es.foldl (step env) start

/-! ### Every request is answered once -/

/-- What a client is told apart by: the status and the id of an answer. -/
def answerTag (answer : HttpAnswer) : Nat × Option JsonElement :=
  (answer.status, answer.response.id)

/-- The answer that is due to the event: an unreadable body has the status 400 and no id, and a
request has its own id. -/
def due : Event → Option (Nat × Option JsonElement)
  | .post _ body =>
    match readRequest env body with
    | .error _ => some (400, none)
    | .ok rpcRequest => some (200, rpcRequest.id)
  | _ => none

/-- The posted requests that the server knows of, wherever they are. -/
def accounted (s : CodeMasterMcpServer) : List (Nat × Option JsonElement) :=
  s.answers.map answerTag
    ++ (s.responses.map fun response => (200, response.rpcResponse.id))
    ++ s.requests.map fun request => (200, request.rpcRequest.id)

section
variable {α β : Type*}

end

variable (s : CodeMasterMcpServer)

/-- The requests at hand come to their end, one after the other. -/
def settle (c : Circumstances) : List Event :=
  List.replicate s.requests.length (.handle 0 c)
    ++ List.replicate (s.requests.length + s.responses.length) (.reply 0)

section Session
open CodeMaster.Mcp.SseSession (Phase Chunk)

/-- The event of a reply on the stream. -/
def sseEvent (responseJson : String) : String := "event: message\ndata: " ++ responseJson ++ "\n\n"

/-- The endpoint is the first chunk, and is written once. -/
def Opened (session : SseSession) : Prop :=
  (session.stream = [] ∧ (session.phase = .opening ∨ session.phase = .closed))
    ∨ (session.phase ≠ .opening
        ∧ ∃ rest, session.stream = .endpoint :: rest ∧ Chunk.endpoint ∉ rest)

/-- A session, and the replies that were given to it. -/
structure Served (sessionId : String) (given : List String) (session : SseSession) : Prop where
  sessionId : session.sessionId = sessionId
  ordered : Ordered session
  opened : Opened session
  /-- After its end it gets no more. -/
  posted : session.posted <+: given.map sseEvent
  all : session.registered = true → session.posted = given.map sseEvent

omit [Host] in
/-- A new session was given nothing, and has written nothing. -/
theorem served_new (sessionId : String) : Served sessionId [] { sessionId } where
  sessionId := rfl
  ordered := ordered_new sessionId
  opened := Or.inl ⟨rfl, Or.inl rfl⟩
  posted := List.prefix_rfl
  all _ := rfl

variable {session : SseSession} {sessionId : String} {given : List String}

/-- What a step of the loop does to the fields that the replies are about. -/
structure LoopStep (session session' : SseSession) : Prop where
  sessionId : session'.sessionId = session.sessionId
  posted : session'.posted = session.posted
  registered : session'.registered = true → session.registered = true
  opened : Opened session → Opened session'

omit [Host] in
/-- The `finally` block takes the session out of `_activeSessions` and leaves the rest. -/
theorem loopStep_close (session : SseSession) : LoopStep session session.close where
  sessionId := rfl
  posted := rfl
  registered h := by simp [SseSession.close] at h
  opened h := by
    rcases h with ⟨hstream, -⟩ | ⟨-, hrest⟩
    · exact Or.inl ⟨hstream, Or.inr rfl⟩
    · exact Or.inr ⟨by simp [SseSession.close], hrest⟩

omit [Host] in
/-- A step to another phase, which may write a chunk that is not the endpoint. -/
theorem loopStep_of_phase {session' : SseSession} {chunks : List Chunk}
    (hopen : session.phase ≠ .opening) (hclosed : session.phase ≠ .closed)
    (hopen' : session'.phase ≠ .opening) (hid : session'.sessionId = session.sessionId)
    (hposted : session'.posted = session.posted)
    (hregistered : session'.registered = session.registered)
    (hstream : session'.stream = session.stream ++ chunks) (hchunks : Chunk.endpoint ∉ chunks) :
    LoopStep session session' where
  sessionId := hid
  posted := hposted
  registered h := hregistered ▸ h
  opened h := by
    rcases h with ⟨-, hphase | hphase⟩ | ⟨-, rest, hrest, hnot⟩
    · exact absurd hphase hopen
    · exact absurd hphase hclosed
    · refine Or.inr ⟨hopen', rest ++ chunks, by rw [hstream, hrest, List.cons_append], ?_⟩
      exact fun h => (List.mem_append.mp h).elim hnot hchunks

omit [Host] in
/-- A step that writes nothing. -/
theorem loopStep_of_stream {session' : SseSession} (hopen : session.phase ≠ .opening)
    (hclosed : session.phase ≠ .closed) (hopen' : session'.phase ≠ .opening)
    (hid : session'.sessionId = session.sessionId) (hposted : session'.posted = session.posted)
    (hregistered : session'.registered = session.registered)
    (hstream : session'.stream = session.stream) : LoopStep session session' :=
  loopStep_of_phase hopen hclosed hopen' hid hposted hregistered
    (hstream.trans (List.append_nil _).symm) List.not_mem_nil

omit [Host] in
/-- The start of a turn writes nothing, whether it waits, finds a message or ends with an
exception. -/
theorem loopStep_startTurn (hphase : session.phase = .loopHead) :
    LoopStep session session.startTurn := by
  unfold SseSession.startTurn
  split
  · exact loopStep_close session
  · exact loopStep_of_stream (by simp [hphase]) (by simp [hphase]) (by simp) rfl rfl rfl rfl

omit [Host] in
/-- There is one case for each point of the loop. -/
theorem loopStep_run (session : SseSession) : LoopStep session session.run := by
  have hsame : LoopStep session session := ⟨rfl, rfl, id, id⟩
  unfold SseSession.run
  split
  · exact loopStep_close session
  -- Only the first step writes the endpoint event; the later ones append to the stream.
  · cases hphase : session.phase with
    | opening =>
      exact {
        sessionId := rfl
        posted := rfl
        registered := id
        opened := fun h => by
          rcases h with ⟨hstream, -⟩ | ⟨hopen, -⟩
          · exact Or.inr ⟨by simp, [], by simp [hstream], by simp⟩
          · exact absurd hphase hopen }
    | loopHead => exact loopStep_startTurn hphase
    | waiting completed =>
      cases completed with
      | none => exact hsame
      | some task =>
        cases task <;>
          exact loopStep_of_stream (by simp [hphase]) (by simp [hphase]) (by simp) rfl rfl rfl rfl
    | reading =>
      dsimp only
      unfold SseSession.tryRead
      split <;>
        exact loopStep_of_stream (by simp [hphase]) (by simp [hphase]) (by simp) rfl rfl rfl rfl
    | writing msg =>
      exact loopStep_of_phase (by simp [hphase]) (by simp [hphase]) (by simp) rfl rfl rfl rfl
        (by simp)
    | pinging =>
      exact loopStep_of_phase (by simp [hphase]) (by simp [hphase]) (by simp) rfl rfl rfl rfl
        (by simp)
    | closed => exact hsame

omit [Host] in
/-- A step of the loop gives the session nothing, and keeps what it was given. -/
theorem Served.of_loopStep (h : Served sessionId given session) {session' : SseSession}
    (hstep : LoopStep session session') (hordered : Ordered session') :
    Served sessionId given session' where
  sessionId := hstep.sessionId.trans h.sessionId
  ordered := hordered
  opened := hstep.opened h.opened
  posted := hstep.posted ▸ h.posted
  all hregistered := hstep.posted.trans (h.all (hstep.registered hregistered))

omit [Host] in
/-- The timer completes a wait at most. -/
theorem loopStep_tick (session : SseSession) : LoopStep session session.tick := by
  unfold SseSession.tick
  split
  case isTrue => exact ⟨rfl, rfl, id, id⟩
  case isFalse hphase =>
    push Not at hphase
    refine loopStep_of_stream hphase.1 hphase.2 ?_ rfl rfl rfl rfl
    split
    · simp
    · exact hphase.1

omit [Host] in
/-- An event that is not a request. -/
theorem Served.step (h : Served sessionId given session) {e : SseSession.Event}
    (he : e = .run ∨ e = .tick ∨ e = .disconnect) : Served sessionId given (session.step e) := by
  have hordered := ordered_step session e h.ordered
  rcases he with rfl | rfl | rfl
  · exact h.of_loopStep (loopStep_run session) hordered
  · exact h.of_loopStep (loopStep_tick session) hordered
  · exact h.of_loopStep ⟨rfl, rfl, id, id⟩ hordered

omit [Host] in
/-- A reply is given to the session that the request names. -/
theorem Served.post (h : Served sessionId given session) (named : Option String)
    (responseJson : String) (hblank : isNullOrWhiteSpace (some sessionId) = false) :
    Served sessionId (given ++ if named = some sessionId then [responseJson] else [])
      (session.handlePostMessageAsync named responseJson) := by
  have hordered : Ordered (session.handlePostMessageAsync named responseJson) :=
    ordered_step session (.postMessage named responseJson) h.ordered
  by_cases hnamed : named = some sessionId
  · rw [if_pos hnamed]
    cases hregistered : session.registered with
    | false =>
      -- The session has ended, and the reply is not given to it.
      have hsame : session.handlePostMessageAsync named responseJson = session := by
        simp [SseSession.handlePostMessageAsync, hregistered]
      rw [hsame]
      refine ⟨h.sessionId, h.ordered, h.opened, ?_, fun hr => ?_⟩
      · rw [List.map_append]
        exact h.posted.trans (List.prefix_append _ _)
      · rw [hregistered] at hr
        cases hr
    | true =>
      have hwrite : session.handlePostMessageAsync named responseJson
          = session.tryWrite (sseEvent responseJson) := by
        refine if_pos ⟨by rw [hnamed, hblank], ?_, hregistered⟩
        rw [hnamed, h.sessionId]
      have hposted : (session.tryWrite (sseEvent responseJson)).posted
          = (given ++ [responseJson]).map sseEvent := by
        show session.posted ++ [sseEvent responseJson] = _
        rw [h.all hregistered, List.map_append, List.map_singleton]
      rw [hwrite] at hordered ⊢
      refine ⟨h.sessionId, hordered, ?_, hposted ▸ List.prefix_rfl, fun _ => hposted⟩
      rcases h.opened with ⟨hstream, hphase⟩ | ⟨hphase, hrest⟩
      · refine Or.inl ⟨hstream, ?_⟩
        rcases hphase with hphase | hphase <;> simp [SseSession.tryWrite, hphase]
      · refine Or.inr ⟨?_, hrest⟩
        show (if session.phase = .waiting none then _ else session.phase) ≠ .opening
        split
        · simp
        · exact hphase
  · rw [if_neg hnamed, List.append_nil]
    have hsame : session.handlePostMessageAsync named responseJson = session := by
      refine if_neg fun hwrite => hnamed ?_
      rw [hwrite.2.1, h.sessionId]
    rw [hsame]
    exact h

end Session

/-! ### The replies of a run -/

/-- The reply that the event sends to the session. -/
def reply (sessionId : String) (s : CodeMasterMcpServer) : Event → List String
  | .reply place =>
    match s.responses[place]? with
    | none => []
    | some posted =>
      if posted.sessionId = some sessionId then [env.serialize posted.rpcResponse] else []
  | _ => []

/-- The replies to the requests of a run that name the session, in the order in which they are
sent. -/
def replies (sessionId : String) : CodeMasterMcpServer → List Event → List String
  | _, [] => []
  | s, e :: es => reply env sessionId s e ++ replies sessionId (step env s e) es

/-- `Guid.NewGuid().ToString("N")`: 32 hexadecimal digits. -/
def IsSessionId (sessionId : String) : Prop :=
  sessionId.toList.length = 32 ∧ ∀ c ∈ sessionId.toList, isLowerHexDigit c = true

variable {env}

omit [Host] in
/-- A digit of a session id is not a blank. -/
theorem isWhiteSpace_of_isLowerHexDigit {c : Char} (h : isLowerHexDigit c = true) :
    isWhiteSpace c = false := by
  simp only [isLowerHexDigit, decide_eq_true_eq] at h
  simp only [isWhiteSpace, decide_eq_false_iff_not]
  omega

omit [Host] in
/-- A digit of a session id does not end a line. -/
theorem isLineEnd_of_isLowerHexDigit {c : Char} (h : isLowerHexDigit c = true) :
    EventStream.isLineEnd c = false := by
  simp only [isLowerHexDigit, decide_eq_true_eq] at h
  simp only [EventStream.isLineEnd, Bool.or_eq_false_iff, decide_eq_false_iff_not]
  constructor
  · rintro rfl
    exact absurd h (by decide)
  · rintro rfl
    exact absurd h (by decide)

omit [Host] in
/-- A session id is not blank, so that a request can name it. -/
theorem IsSessionId.not_blank {sessionId : String} (h : IsSessionId sessionId) :
    isNullOrWhiteSpace (some sessionId) = false := by
  obtain ⟨hlength, hdigits⟩ := h
  rw [isNullOrWhiteSpace_some, List.all_eq_false]
  obtain ⟨c, hc⟩ : ∃ c, c ∈ sessionId.toList := by
    refine List.exists_mem_of_length_pos ?_
    omega
  exact ⟨c, hc, by simp [isWhiteSpace_of_isLowerHexDigit (hdigits c hc)]⟩

variable {s : CodeMasterMcpServer} {sessionId : String} {given : List String}
  {session : SseSession}

omit [Host] in
/-- An event of the loop of some session. -/
theorem served_onSession {target : String} {e : SseSession.Event}
    (he : e = .run ∨ e = .tick ∨ e = .disconnect) (hsession : s.sessions sessionId = some session)
    (h : Served sessionId given session) :
    ∃ session', (s.onSession target e).sessions sessionId = some session'
      ∧ Served sessionId given session' := by
  unfold onSession
  by_cases htarget : sessionId = target
  · subst htarget
    exact ⟨session.step e, by simp [hsession], h.step he⟩
  · exact ⟨session, by simp [htarget, hsession], h⟩

/-- Every event gives a session the replies that are for it. -/
theorem served_step (hid : IsSessionId sessionId) (e : Event)
    (hsession : s.sessions sessionId = some session) (h : Served sessionId given session) :
    ∃ session', (step env s e).sessions sessionId = some session'
      ∧ Served sessionId (given ++ reply env sessionId s e) session' := by
  cases e with
  | connect target =>
    show ∃ session', _ ∧ Served sessionId (given ++ []) session'
    rw [List.append_nil]
    simp only [step]
    split
    case isTrue => exact ⟨session, hsession, h⟩
    case isFalse hnone =>
      -- The identifier of a session that is there already is not given to another one.
      have hne : sessionId ≠ target := by
        rintro rfl
        simp [hsession] at hnone
      exact ⟨session, by simp [hne, hsession], h⟩
  | run target =>
    show ∃ session', _ ∧ Served sessionId (given ++ []) session'
    rw [List.append_nil]
    exact served_onSession (Or.inl rfl) hsession h
  | tick target =>
    show ∃ session', _ ∧ Served sessionId (given ++ []) session'
    rw [List.append_nil]
    exact served_onSession (Or.inr (Or.inl rfl)) hsession h
  | disconnect target =>
    show ∃ session', _ ∧ Served sessionId (given ++ []) session'
    rw [List.append_nil]
    exact served_onSession (Or.inr (Or.inr rfl)) hsession h
  | post named body =>
    -- Reading and handling a request write to no session; only its reply does.
    show ∃ session', _ ∧ Served sessionId (given ++ []) session'
    rw [List.append_nil]
    simp only [step, readPost]
    cases readRequest env body with
    | error response => exact ⟨session, hsession, h⟩
    | ok rpcRequest => exact ⟨session, hsession, h⟩
  | handle place c =>
    show ∃ session', _ ∧ Served sessionId (given ++ []) session'
    rw [List.append_nil]
    simp only [step, awaitRequest]
    cases s.requests[place]? with
    | none => exact ⟨session, hsession, h⟩
    | some posted => exact ⟨session, hsession, h⟩
  | reply place =>
    simp only [step, sendResponse, reply]
    cases s.responses[place]? with
    | none =>
      rw [List.append_nil]
      exact ⟨session, hsession, h⟩
    | some posted =>
      -- The reply goes to the session that the request has named, and to no other one.
      refine ⟨_, ?_, h.post posted.sessionId (env.serialize posted.rpcResponse) hid.not_blank⟩
      simp [hsession]

/-- After a run, a session has been given the replies of the run. -/
theorem served_after (hid : IsSessionId sessionId) (es : List Event)
    (hsession : s.sessions sessionId = some session) (h : Served sessionId given session) :
    ∃ session', (after env s es).sessions sessionId = some session'
      ∧ Served sessionId (given ++ replies env sessionId s es) session' := by
  induction es generalizing s session given with
  | nil =>
    rw [replies, List.append_nil]
    exact ⟨session, hsession, h⟩
  | cons e es ih =>
    obtain ⟨session', hsession', h'⟩ := served_step hid e hsession h
    rw [replies, ← List.append_assoc]
    exact ih hsession' h'

/-! ### What a client reads -/

section Text
open CodeMaster.Mcp.SseSession (Chunk)

/-- The text of the response of a session. -/
def responseText (session : SseSession) : String :=
  session.stream.foldl (fun text chunk => text ++ chunk.text session.sessionId) ""

/-- What a reader makes of the endpoint. -/
def endpointEvent (sessionId : String) : EventStream.ServerEvent where
  type := "endpoint".toList
  data := ("/mcp/messages?sessionId=" ++ sessionId).toList

/-- What a reader makes of a reply. -/
def messageEvent (responseJson : String) : EventStream.ServerEvent where
  type := "message".toList
  data := responseJson.toList

/-- The messages among chunks. -/
def messagesOf (stream : List Chunk) : List String :=
  stream.filterMap fun
    | .message msg => some msg
    | _ => none

/-- The text of chunks in the session. -/
def textOf (sessionId : String) (stream : List Chunk) : List Char :=
  stream.flatMap fun chunk => (chunk.text sessionId).toList

omit [Host] in
/-- The response is the chunks, one after the other. -/
theorem responseText_toList (session : SseSession) :
    (responseText session).toList = textOf session.sessionId session.stream := by
  have hfold : ∀ (stream : List Chunk) (start : String),
      (stream.foldl (fun text chunk => text ++ chunk.text session.sessionId) start).toList
        = start.toList ++ textOf session.sessionId stream := by
    intro stream
    induction stream with
    | nil => simp [textOf]
    | cons chunk stream ih =>
      intro start
      rw [List.foldl_cons, ih, String.toList_append, List.append_assoc]
      rfl
  exact hfold session.stream ""

/-- The chunk of a reply in the event-stream format. -/
def replyChunk (responseJson : String) : EventStream.Chunk :=
  .message (some "message".toList) responseJson.toList

omit [Host] in
/-- A reply on the stream is a message in the event-stream format. -/
theorem text_replyChunk (responseJson : String) :
    (sseEvent responseJson).toList = (replyChunk responseJson).text := by
  have hstart : "event: message\ndata: " = "event: " ++ "message" ++ "\n" ++ "data: " := by decide
  show ("event: message\ndata: " ++ responseJson ++ "\n\n").toList
    = "event: ".toList ++ "message".toList ++ "\n".toList ++ "data: ".toList
      ++ responseJson.toList ++ "\n\n".toList
  rw [hstart]
  simp only [String.toList_append, List.append_assoc]

/-- The chunk of the endpoint. -/
def endpointChunk (sessionId : String) : EventStream.Chunk :=
  .message (some "endpoint".toList) ("/mcp/messages?sessionId=" ++ sessionId).toList

omit [Host] in
/-- The endpoint on the stream is a message in the event-stream format. -/
theorem text_endpointChunk (sessionId : String) :
    (Chunk.endpoint.text sessionId).toList = (endpointChunk sessionId).text := by
  have hstart : "event: endpoint\ndata: /mcp/messages?sessionId="
      = "event: " ++ "endpoint" ++ "\n" ++ "data: " ++ "/mcp/messages?sessionId=" := by decide
  show ("event: endpoint\ndata: /mcp/messages?sessionId=" ++ sessionId ++ "\n\n").toList
    = "event: ".toList ++ "endpoint".toList ++ "\n".toList ++ "data: ".toList
      ++ ("/mcp/messages?sessionId=" ++ sessionId).toList ++ "\n\n".toList
  rw [hstart]
  simp only [String.toList_append, List.append_assoc]

/-- A response on one line. -/
def OneLine (responseJson : String) : Prop :=
  ∀ c ∈ responseJson.toList, EventStream.isLineEnd c = false

omit [Host] in
/-- A reader makes a message event of the chunk of a reply. -/
theorem event?_replyChunk (responseJson : String) :
    (replyChunk responseJson).event? = some (messageEvent responseJson) := by
  rw [replyChunk, EventStream.Chunk.event?, Option.getD_some, if_neg (by decide)]
  rfl

omit [Host] in
/-- A reader makes an endpoint event of the chunk of the endpoint. -/
theorem event?_endpointChunk (sessionId : String) :
    (endpointChunk sessionId).event? = some (endpointEvent sessionId) := by
  rw [endpointChunk, EventStream.Chunk.event?, Option.getD_some, if_neg (by decide)]
  rfl

omit [Host] in
/-- After the endpoint, the stream has the replies, with comments between them. -/
theorem exists_chunks (sessionId : String) :
    ∀ (stream : List Chunk) (jsons : List String), Chunk.endpoint ∉ stream →
      messagesOf stream = jsons.map sseEvent → (∀ json ∈ jsons, OneLine json) →
      ∃ chunks, textOf sessionId stream = EventStream.chunksText chunks
        ∧ chunks.filterMap EventStream.Chunk.event? = jsons.map messageEvent
        ∧ ∀ chunk ∈ chunks, chunk.OneLine := by
  intro stream
  induction stream with
  | nil =>
    intro jsons _ hmessages _
    have hnil : jsons = [] := List.map_eq_nil_iff.mp hmessages.symm
    exact ⟨[], rfl, by simp [hnil], by simp⟩
  | cons chunk stream ih =>
    intro jsons hnot hmessages honeLine
    have hrest : Chunk.endpoint ∉ stream := fun h => hnot (List.mem_cons_of_mem _ h)
    cases chunk with
    | endpoint => exact absurd List.mem_cons_self hnot
    | ping =>
      obtain ⟨chunks, htext, hevents, hlines⟩ := ih jsons hrest hmessages honeLine
      refine ⟨.comment "ping".toList :: chunks, ?_, hevents, ?_⟩
      · show ": ping\n\n".toList ++ textOf sessionId stream
          = (": ".toList ++ "ping".toList ++ "\n\n".toList) ++ EventStream.chunksText chunks
        have hping : ": ping\n\n".toList = ": ".toList ++ "ping".toList ++ "\n\n".toList := by decide
        rw [htext, hping]
      · refine List.forall_mem_cons.mpr ⟨?_, hlines⟩
        exact @EventStream.isLineEnd_of_all "ping".toList (by decide)
    | message msg =>
      -- The message is the first reply.
      have hcons : msg :: messagesOf stream = jsons.map sseEvent := hmessages
      cases jsons with
      | nil => cases hcons
      | cons json jsons =>
        rw [List.map_cons, List.cons.injEq] at hcons
        obtain ⟨chunks, htext, hevents, hlines⟩ := ih jsons hrest hcons.2
          fun json hjson => honeLine json (List.mem_cons_of_mem _ hjson)
        refine ⟨replyChunk json :: chunks, ?_, ?_, List.forall_mem_cons.mpr ⟨⟨?_, ?_⟩, hlines⟩⟩
        · show msg.toList ++ textOf sessionId stream
            = (replyChunk json).text ++ EventStream.chunksText chunks
          rw [htext, hcons.1, text_replyChunk]
        · rw [List.filterMap_cons, event?_replyChunk, hevents, List.map_cons]
        · exact @EventStream.isLineEnd_of_all "message".toList (by decide)
        · exact honeLine json List.mem_cons_self

omit [Host] in
/-- The endpoint is on one line, because a session id has no line end. -/
theorem oneLine_endpointChunk {sessionId : String} (hid : IsSessionId sessionId) :
    (endpointChunk sessionId).OneLine := by
  constructor
  · exact @EventStream.isLineEnd_of_all "endpoint".toList (by decide)
  · have hpath := @EventStream.isLineEnd_of_all "/mcp/messages?sessionId=".toList (by decide)
    rw [String.toList_append]
    refine List.forall_mem_append.mpr ⟨hpath, fun c hc => ?_⟩
    exact isLineEnd_of_isLowerHexDigit (hid.2 c hc)

omit [Host] in
/-- A reader of a part of the stream has the endpoint and the first replies. -/
theorem Served.parse_isPrefix (h : Served sessionId given session) (hid : IsSessionId sessionId)
    (honeLine : ∀ json ∈ given, OneLine json) {text : List Char}
    (htext : text <+: (responseText session).toList) :
    EventStream.parse text <+: endpointEvent sessionId :: given.map messageEvent := by
  rw [responseText_toList, h.sessionId] at htext
  rcases h.opened with ⟨hstream, -⟩ | ⟨-, rest, hstream, hnot⟩
  · -- Nothing is written.
    rw [hstream] at htext
    have hnil : text = [] := List.prefix_nil.mp htext
    rw [hnil]
    exact List.nil_prefix
  · have hmessages : messagesOf rest <+: given.map sseEvent := by
      have hordered := h.ordered.ordered.trans h.posted
      have hall : session.messages = messagesOf rest := by
        show messagesOf session.stream = messagesOf rest
        rw [hstream]
        rfl
      rwa [hall] at hordered
    obtain ⟨jsons, hjsons, hmap⟩ := List.prefix_map_iff.mp hmessages
    obtain ⟨chunks, hchunks, hevents, hlines⟩ := exists_chunks sessionId rest jsons hnot hmap
      fun json hjson => honeLine json (hjsons.subset hjson)
    have hall : textOf sessionId session.stream
        = EventStream.chunksText (endpointChunk sessionId :: chunks) := by
      rw [hstream]
      show (Chunk.endpoint.text sessionId).toList ++ textOf sessionId rest
        = (endpointChunk sessionId).text ++ EventStream.chunksText chunks
      rw [text_endpointChunk, hchunks]
    rw [hall] at htext
    have hparse := EventStream.parse_of_isPrefix
      (List.forall_mem_cons.mpr ⟨oneLine_endpointChunk hid, hlines⟩) htext
    rw [List.filterMap_cons, event?_endpointChunk, hevents] at hparse
    exact hparse.trans (List.cons_prefix_cons.mpr ⟨rfl, hjsons.map _⟩)

end Text

/-- **A client reads its own replies**: in any run, whatever part of a session's stream has arrived,
the client has read the endpoint and then the first replies to the requests that named its session,
in the order in which they were answered and each of them once. -/
theorem session_reads (hserialize : ∀ response, OneLine (env.serialize response))
    (hid : IsSessionId sessionId) {start : CodeMasterMcpServer} {pre post : List Event}
    (hnew : (after env start pre).sessions sessionId = none)
    (hsession : (after env start (pre ++ .connect sessionId :: post)).sessions sessionId
      = some session)
    {text : List Char} (htext : text <+: (responseText session).toList) :
    EventStream.parse text
      <+: endpointEvent sessionId
        :: (replies env sessionId (after env start (pre ++ [.connect sessionId])) post).map
          messageEvent := by
  have hconnect : (after env start (pre ++ [.connect sessionId])).sessions sessionId
      = some { sessionId } := by
    show (((pre ++ [Event.connect sessionId]).foldl (step env) start).sessions sessionId) = _
    rw [List.foldl_append]
    show (step env (after env start pre) (.connect sessionId)).sessions sessionId = _
    simp [step, hnew]
  obtain ⟨session', hsession', hserved⟩ :=
    served_after hid post hconnect (served_new sessionId)
  have hrun : after env (after env start (pre ++ [.connect sessionId])) post
      = after env start (pre ++ .connect sessionId :: post) := by
    simp [after, List.foldl_append]
  rw [hrun] at hsession'
  obtain rfl : session' = session := Option.some.inj (hsession'.symm.trans hsession)
  refine hserved.parse_isPrefix hid ?_ htext
  -- Every reply is the text of a response.
  have hreplies : ∀ (es : List Event) (s : CodeMasterMcpServer),
      ∀ json ∈ replies env sessionId s es, OneLine json := by
    intro es
    induction es with
    | nil => simp [replies]
    | cons e es ih =>
      intro s json hjson
      rcases List.mem_append.mp hjson with hjson | hjson
      · unfold reply at hjson
        split at hjson
        · split at hjson
          · cases hjson
          · split at hjson
            · exact List.mem_singleton.mp hjson ▸ hserialize _
            · cases hjson
        · cases hjson
      · exact ih _ json hjson
  exact hreplies post _

/-- The session of the sample. -/
def sampleId : String := "0123456789abcdef0123456789abcdef"

/-- The request of the sample: a ping. -/
def sampleBody : String := "\x7b\"jsonrpc\":\"2.0\",\"id\":1,\"method\":\"ping\"\x7d"

/-- The response to the ping. -/
def sampleReply : String := "\x7b\"jsonrpc\":\"2.0\",\"id\":1,\"result\":\x7b\x7d\x7d"

omit [Host] in
/-- The response is on one line. -/
theorem oneLine_sampleReply : OneLine sampleReply :=
  EventStream.isLineEnd_of_all (by decide +kernel)

/-- A host that knows the request `sampleBody` and its response. -/
def sampleEnvironment : Environment where
  parse body :=
    if body = sampleBody then
      some (.object [("jsonrpc", .string "2.0"), ("id", .number "1"), ("method", .string "ping")])
    else none
  parseError _ := "'x' is an invalid start of a value."
  commandError _ := ""
  serialize _ := sampleReply

/-- The client opens its session, posts the request and is sent the reply. -/
def sampleEvents : List Event :=
  [.run sampleId,
    .post (some sampleId) sampleBody,
    .handle 0 { utcNow := { ticks := 0 }, answer := .returned true }, .reply 0, .run sampleId, .run sampleId, .run sampleId, .run sampleId]

/-- The session after these events. -/
def sampleSession : SseSession where
  sessionId := sampleId
  phase := .reading
  timer := { activeWait := true }
  stream := [.endpoint, .message (sseEvent sampleReply)]
  posted := [sseEvent sampleReply]

omit [Host] in
/-- The client reads the endpoint and the reply to its ping. -/
theorem session_reads_sample :
    letI := Host.sample
    EventStream.parse (responseText sampleSession).toList
      <+: endpointEvent sampleId
        :: (replies sampleEnvironment sampleId
            (after sampleEnvironment {} ([] ++ [Event.connect sampleId])) sampleEvents).map
          messageEvent :=
  letI := Host.sample
  session_reads (fun _ => oneLine_sampleReply) ⟨by decide, List.all_eq_true.mp (by decide)⟩ rfl
    (by decide +kernel) List.prefix_rfl

end CodeMaster.Proofs.McpServer
