import CodeMaster.Lib.Transition
import CodeMaster.Web.LiveFeed

/-!
# `CodeMaster.Proofs.Web.LiveFeed`: does a client of the live feed get every entry?

`Linked` is what every step keeps: the broadcaster accounts for its messages (`Fanout.Accounted`),
and each connection has written what it has taken from its channel, except for the entry that it is
writing.

Two results follow for every run, whatever the order of the steps. What a client reads from any part
of the response are entries that were broadcast since it subscribed, none twice, and in their order
without a gap unless two of these broadcasts overlap (`client_reads`). And nothing is lost: what is
in the channel of a connected client is on the response after two of its steps for each entry and one
more, for an entry that the connection is writing already. With no broadcast under way the response
then has all entries since the subscription (`client_gets_all`).

The broadcaster is an instance of `Fanout`: a broadcast numbers its message, and writes it to the
channel of each subscriber in a step of its own, so that two broadcasts can overlap, and so can a
broadcast and a subscription. A connection is a loop that reads its channel and writes a frame. The
text of a response is in the event-stream format, and what a reader makes of any prefix of it is
computed by the reader of `EventStream`.

The texts of the entries are assumed to be on one line, which is what a JSON serializer without
indentation makes.
-/

set_option autoImplicit false

namespace CodeMaster.Proofs.LiveFeed

open CodeMaster.Core CodeMaster.Web CodeMaster.Web.LiveFeed Transition

/-- The feed after the events. -/
def after (es : List Event) : Web.LiveFeed := es.foldl step {}

/-! ### What every step keeps -/

/-- The entry that a connection is writing. -/
def held (c : Connection) : List AccessLog :=
  match c.phase with
  | .writing log => [log]
  | _ => []

/-- The connection has subscribed, and has not left. -/
def Subscribed (c : Connection) : Prop := c.phase = .reading ∨ ∃ log, c.phase = .writing log

/-- A connection and its channel. -/
structure Attached (b : AccessEventBroadcaster) (guid : String) (c : Connection) : Prop where
  joined : c.phase = .opening ∨ c.phase = .subscribing → b.joined guid = none
  subscribed : Subscribed c → guid ∈ b.subscribers
  entries : c.phase ≠ .closed → b.taken guid = c.entries ++ held c
  closed : c.entries <+: b.taken guid

/-- The invariant of the feed. -/
structure Linked (s : Web.LiveFeed) : Prop where
  accounted : s.broadcaster.Accounted
  unused : ∀ guid, s.connections guid = none → s.broadcaster.joined guid = none
  attached : ∀ guid c, s.connections guid = some c → Attached s.broadcaster guid c

variable {s : Web.LiveFeed} {b b' : AccessEventBroadcaster} {guid : String} {c c' : Connection}

/-- A feed without connections. -/
theorem linked_empty : Linked {} where
  accounted := Fanout.accounted_empty
  unused _ _ := rfl
  attached _ _ h := by simp at h

/-- Without a subscription nothing was taken. -/
theorem taken_of_not_joined (h : b.Accounted) (hjoined : b.joined guid = none) :
    b.taken guid = [] := by
  have hcontents := h.contents guid
  rw [h.written_of_not_joined hjoined, List.map_nil, List.map_eq_nil_iff] at hcontents
  exact (List.append_eq_nil_iff.mp hcontents).1

/-- A new connection has read nothing and written nothing. -/
theorem attached_new (h : b.Accounted) (hjoined : b.joined guid = none) :
    Attached b guid {} where
  joined _ := hjoined
  subscribed h := by simp [Subscribed] at h
  entries _ := taken_of_not_joined h hjoined
  closed := List.nil_prefix

/-- The same connection beside another broadcaster. -/
theorem Attached.of_same (h : Attached b guid c) (hjoined : b'.joined guid = b.joined guid)
    (hsubscribers : guid ∈ b.subscribers → guid ∈ b'.subscribers)
    (htaken : b'.taken guid = b.taken guid) : Attached b' guid c where
  joined hphase := hjoined.trans (h.joined hphase)
  subscribed hphase := hsubscribers (h.subscribed hphase)
  entries hphase := htaken.trans (h.entries hphase)
  closed := htaken ▸ h.closed

/-- The first comment is no entry. -/
theorem entries_connected (c : Connection) (phase : Phase) :
    ({ c with response := c.response ++ [.connected], phase } : Connection).entries
      = c.entries := by
  simp [Connection.entries, Frame.log?]

/-- An entry that is written is the last of the entries on the response. -/
theorem entries_entry (c : Connection) (phase : Phase) (log : AccessLog) :
    ({ c with response := c.response ++ [.entry log], phase } : Connection).entries
      = c.entries ++ [log] := by
  simp [Connection.entries, Frame.log?]

/-- A step that replaces one connection, and touches the broadcaster for it only. -/
theorem Linked.of_update (h : Linked s) (hc : s.connections guid = some c)
    (haccounted : b'.Accounted) (hattached : Attached b' guid c')
    (hother : ∀ guid' ≠ guid, b'.joined guid' = s.broadcaster.joined guid'
      ∧ (guid' ∈ s.broadcaster.subscribers → guid' ∈ b'.subscribers)
      ∧ b'.taken guid' = s.broadcaster.taken guid') :
    Linked { broadcaster := b'
             connections := Function.update s.connections guid (some c') } where
  accounted := haccounted
  unused guid' hnone := by
    by_cases hguid : guid' = guid
    · subst hguid
      simp at hnone
    · rw [(hother guid' hguid).1]
      exact h.unused guid' (by simpa [Function.update_apply, hguid] using hnone)
  attached guid' c'' hc'' := by
    by_cases hguid : guid' = guid
    · subst hguid
      simp only [Function.update_self, Option.some.injEq] at hc''
      exact hc'' ▸ hattached
    · obtain ⟨hjoined, hsubscribers, htaken⟩ := hother guid' hguid
      have hold : s.connections guid' = some c'' := by
        simpa [Function.update_apply, hguid] using hc''
      exact (h.attached guid' c'' hold).of_same hjoined hsubscribers htaken

/-- A connection that does not touch the broadcaster. -/
theorem Linked.of_connection (h : Linked s) (hc : s.connections guid = some c)
    (hattached : Attached s.broadcaster guid c') :
    Linked { s with connections := Function.update s.connections guid (some c') } :=
  h.of_update hc h.accounted hattached fun _ _ => ⟨rfl, id, rfl⟩

/-- What a step of a connection does to it and to the broadcaster. -/
inductive Moves (b : AccessEventBroadcaster) (guid : String) (c : Connection) :
    AccessEventBroadcaster → Connection → Prop where
  | abort (hphase : c.phase = .opening) (hgone : c.connected = false) :
      Moves b guid c b { c with phase := .closed }
  | greet (hphase : c.phase = .opening) (hthere : c.connected = true) :
      Moves b guid c b { c with response := c.response ++ [.connected], phase := .subscribing }
  | subscribe (hphase : c.phase = .subscribing) :
      Moves b guid c (b.register guid) { c with phase := .reading }
  | close (hsubscribed : Subscribed c) (hgone : c.connected = false) :
      Moves b guid c (b.tryRemove guid) { c with phase := .closed }
  | read {log : AccessLog} {rest : List AccessLog} (hphase : c.phase = .reading)
      (hthere : c.connected = true) (hqueue : b.queue guid = log :: rest) :
      Moves b guid c (b.take guid) { c with phase := .writing log }
  | write {log : AccessLog} (hphase : c.phase = .writing log) (hthere : c.connected = true) :
      Moves b guid c b { c with response := c.response ++ [.entry log], phase := .reading }

/-- A step moves the connection. If it does not, there is no entry to read, or nothing to do. -/
theorem run_cases (s : Web.LiveFeed) (guid : String) :
    (s.run guid = s ∧ ∀ c, s.connections guid = some c → c.phase = .closed
        ∨ (c.phase = .reading ∧ c.connected = true ∧ s.broadcaster.queue guid = []))
      ∨ ∃ c b' c', s.connections guid = some c ∧ Moves s.broadcaster guid c b' c'
          ∧ s.run guid = { broadcaster := b'
                           connections := Function.update s.connections guid (some c') } := by
  unfold LiveFeed.run
  cases hc : s.connections guid with
  | none => exact Or.inl ⟨rfl, by simp⟩
  | some c =>
    have hthere : ¬ c.connected = false → c.connected = true := by simp
    dsimp only
    cases hphase : c.phase with
    | opening =>
      dsimp only
      split
      case isTrue hgone => exact Or.inr ⟨c, _, _, rfl, .abort hphase hgone, rfl⟩
      case isFalse h => exact Or.inr ⟨c, _, _, rfl, .greet hphase (hthere h), rfl⟩
    | subscribing => exact Or.inr ⟨c, _, _, rfl, .subscribe hphase, rfl⟩
    | reading =>
      dsimp only
      split
      case isTrue hgone => exact Or.inr ⟨c, _, _, rfl, .close (Or.inl hphase) hgone, rfl⟩
      case isFalse h =>
        cases hqueue : s.broadcaster.queue guid with
        | nil =>
          refine Or.inl ⟨rfl, fun c' hc' => Or.inr ?_⟩
          obtain rfl : c = c' := Option.some.inj hc'
          exact ⟨hphase, hthere h, rfl⟩
        | cons log rest => exact Or.inr ⟨c, _, _, rfl, .read hphase (hthere h) hqueue, rfl⟩
    | writing log =>
      dsimp only
      split
      case isTrue hgone => exact Or.inr ⟨c, _, _, rfl, .close (Or.inr ⟨log, hphase⟩) hgone, rfl⟩
      case isFalse h => exact Or.inr ⟨c, _, _, rfl, .write hphase (hthere h), rfl⟩
    | closed =>
      refine Or.inl ⟨rfl, fun c' hc' => Or.inl ?_⟩
      obtain rfl : c = c' := Option.some.inj hc'
      exact hphase

/-- The broadcaster after a step of a connection. -/
theorem Moves.accounted (hmoves : Moves b guid c b' c') (h : b.Accounted)
    (hattached : Attached b guid c) : b'.Accounted := by
  cases hmoves with
  | abort => exact h
  | greet => exact h
  | subscribe hphase => exact h.subscribe (hattached.joined (Or.inr hphase))
  | close => exact h.unsubscribe guid
  | read => exact h.take guid
  | write => exact h

/-- What a connection does with the broadcaster keeps the two in step. -/
theorem Moves.attached (hmoves : Moves b guid c b' c')
    (hattached : Attached b guid c) : Attached b' guid c' := by
  cases hmoves with
  | abort => exact ⟨by simp, by simp [Subscribed], by simp, hattached.closed⟩
  | greet hphase =>
    -- The greeting is no entry, so that what the client holds does not change.
    have hjoined := hattached.joined (Or.inl hphase)
    have hentries := hattached.entries (by simp [hphase])
    simp only [held, hphase, List.append_nil] at hentries
    exact {
      joined := fun _ => hjoined
      subscribed := by simp [Subscribed]
      entries := fun _ => by
        rw [entries_connected, hentries]
        simp [held]
      closed := by
        rw [entries_connected]
        exact hattached.closed }
  | subscribe hphase =>
    have hentries := hattached.entries (by simp [hphase])
    simp only [held, hphase, List.append_nil] at hentries
    exact {
      joined := by simp
      subscribed := fun _ => Fanout.mem_subscribers_subscribe.mpr (Or.inr rfl)
      entries := fun _ => hentries.trans (List.append_nil _).symm
      closed := hattached.closed }
  | close =>
    exact {
      joined := by simp
      subscribed := by simp [Subscribed]
      entries := fun hphase => absurd rfl hphase
      closed := by
        rw [AccessEventBroadcaster.tryRemove, Fanout.taken_unsubscribe]
        exact hattached.closed }
  | read hphase hthere hqueue =>
    -- The entry leaves the channel and is held until the next step writes it.
    have htake := (Fanout.take_of_queue hqueue).1
    have hentries := hattached.entries (by simp [hphase])
    simp only [held, hphase, List.append_nil] at hentries
    exact {
      joined := by simp
      subscribed := fun _ => by simpa using hattached.subscribed (Or.inl hphase)
      entries := fun _ => by
        rw [htake, hentries]
        rfl
      closed := by
        rw [htake, hentries]
        exact List.prefix_append _ _ }
  | @write log hphase =>
    -- The held entry is now the last one of the response.
    have hentries := hattached.entries (by simp [hphase])
    simp only [held, hphase] at hentries
    exact {
      joined := by simp
      subscribed := fun _ => hattached.subscribed (Or.inr ⟨log, hphase⟩)
      entries := fun _ => by
        rw [entries_entry, hentries]
        simp [held]
      closed := by
        rw [entries_entry, hentries] }

/-- The other connections do not notice. -/
theorem Moves.other (hmoves : Moves b guid c b' c') {guid' : String} (hguid : guid' ≠ guid) :
    b'.joined guid' = b.joined guid' ∧ (guid' ∈ b.subscribers → guid' ∈ b'.subscribers)
      ∧ b'.taken guid' = b.taken guid' := by
  cases hmoves with
  | abort => exact ⟨rfl, id, rfl⟩
  | greet => exact ⟨rfl, id, rfl⟩
  | subscribe =>
    exact ⟨Fanout.joined_subscribe_of_ne hguid,
      fun hmem => Fanout.mem_subscribers_subscribe.mpr (Or.inl hmem), rfl⟩
  | close =>
    refine ⟨by simp [AccessEventBroadcaster.tryRemove], fun hmem => ?_,
      by simp [AccessEventBroadcaster.tryRemove]⟩
    exact Fanout.mem_subscribers_unsubscribe.mpr ⟨hmem, hguid⟩
  | read => exact ⟨by simp, by simp, Fanout.taken_take_of_ne hguid⟩
  | write => exact ⟨rfl, id, rfl⟩

/-- A step of a connection's loop keeps all connections in step with the broadcaster. -/
theorem Linked.run (h : Linked s) (guid : String) : Linked (s.run guid) := by
  obtain ⟨hsame, -⟩ | ⟨c, b', c', hc, hmoves, hrun⟩ := run_cases s guid
  · rwa [hsame]
  · have hattached := h.attached guid c hc
    rw [hrun]
    exact h.of_update hc (hmoves.accounted h.accounted hattached)
      (hmoves.attached hattached) fun _ hguid => hmoves.other hguid

/-- The step lemma. -/
theorem linked_step (s : Web.LiveFeed) (e : Event) (h : Linked s) : Linked (step s e) := by
  cases e with
  | connect guid =>
    simp only [step]
    split
    case isTrue => exact h
    case isFalse hnone =>
      -- A new connection has a guid that no channel has had before.
      have hconnection : s.connections guid = none := by simpa using hnone
      exact {
        accounted := h.accounted
        unused := fun guid' hnone' => by
          by_cases hguid : guid' = guid
          · exact hguid ▸ h.unused guid hconnection
          · exact h.unused guid' (by simpa [Function.update_apply, hguid] using hnone')
        attached := fun guid' c hc => by
          by_cases hguid : guid' = guid
          · subst hguid
            simp only [Function.update_self, Option.some.injEq] at hc
            exact hc ▸ attached_new h.accounted (h.unused guid' hconnection)
          · exact h.attached guid' c (by simpa [Function.update_apply, hguid] using hc) }
  | run guid => exact h.run guid
  | disconnect guid =>
    simp only [step]
    cases hc : s.connections guid with
    | none =>
      have hsame : Function.update s.connections guid none = s.connections := by
        rw [← hc, Function.update_eq_self]
      simpa [hsame] using h
    | some c =>
      -- A disconnect is only seen by the next step of the loop, which then unsubscribes.
      have hattached := h.attached guid c hc
      exact h.of_connection hc ⟨hattached.joined, hattached.subscribed, hattached.entries,
        hattached.closed⟩
  | broadcast log =>
    exact {
      accounted := h.accounted.publish log
      unused := h.unused
      attached := fun guid c hc => (h.attached guid c hc).of_same rfl id rfl }
  | tryWrite number guid =>
    exact {
      accounted := h.accounted.write number guid
      unused := fun guid' hnone => by
        simpa [step, AccessEventBroadcaster.tryWrite] using h.unused guid' hnone
      attached := fun guid' c hc => by
        refine (h.attached guid' c hc).of_same ?_ ?_ ?_ <;>
          simp [step, AccessEventBroadcaster.tryWrite] }

/-- The run lemma. -/
theorem linked_after (es : List Event) : Linked (after es) :=
  foldl_invariant step Linked linked_step es _ linked_empty

/-! ### What a client reads -/

/-- The entries that were broadcast since the connection subscribed, until it left. -/
def sinceSubscription (s : Web.LiveFeed) (guid : String) : List AccessLog :=
  s.broadcaster.window guid

/-- No two of these broadcasts overlap. -/
def OneByOne (s : Web.LiveFeed) (guid : String) : Prop := s.broadcaster.Apart guid

/-- The entries that a run broadcasts, in order. -/
def broadcasts (es : List Event) : List AccessLog :=
  es.filterMap fun
    | .broadcast log => some log
    | _ => none

/-- A message is published by a broadcast, and by nothing else. -/
theorem published_step (s : Web.LiveFeed) (e : Event) :
    (step s e).broadcaster.published = s.broadcaster.published ++ broadcasts [e] := by
  cases e with
  | connect guid =>
    simp only [step]
    split <;> simp [broadcasts]
  | run guid =>
    simp only [step]
    obtain ⟨hsame, -⟩ | ⟨c, b', c', -, hmoves, hrun⟩ := run_cases s guid
    · simp [hsame, broadcasts]
    · rw [hrun]
      cases hmoves <;>
        simp [broadcasts, AccessEventBroadcaster.register, AccessEventBroadcaster.tryRemove,
          Fanout.subscribe]
  | disconnect guid => simp [step, broadcasts]
  | broadcast log => rfl
  | tryWrite number guid => simp [step, broadcasts, AccessEventBroadcaster.tryWrite]

/-- The broadcaster numbers the entries in the order of their broadcasts. -/
theorem published_after (es : List Event) :
    (after es).broadcaster.published = broadcasts es := by
  have hfold : ∀ (es : List Event) (s : Web.LiveFeed),
      (es.foldl step s).broadcaster.published = s.broadcaster.published ++ broadcasts es := by
    intro es
    induction es with
    | nil => simp [broadcasts]
    | cons e es ih =>
      intro s
      rw [List.foldl_cons, ih, published_step, List.append_assoc]
      simp [broadcasts, List.filterMap_cons]
      split <;> simp
  exact (hfold es {}).trans (List.nil_append _)

/-- A subscription is made once. -/
theorem joined_step (h : Linked s) (e : Event) {j : Nat}
    (hjoined : s.broadcaster.joined guid = some j) :
    (step s e).broadcaster.joined guid = some j := by
  cases e with
  | connect guid' =>
    simp only [step]
    split <;> exact hjoined
  | run guid' =>
    simp only [step]
    obtain ⟨hsame, -⟩ | ⟨c, b', c', hc, hmoves, hrun⟩ := run_cases s guid'
    · rw [hsame, hjoined]
    · rw [hrun]
      by_cases hguid : guid = guid'
      · subst hguid
        cases hmoves with
        | subscribe hphase =>
          have hnone := (h.attached guid c hc).joined (Or.inr hphase)
          rw [hnone] at hjoined
          cases hjoined
        | _ => simpa [AccessEventBroadcaster.tryRemove] using hjoined
      · exact (hmoves.other hguid).1.trans hjoined
  | disconnect guid' => exact hjoined
  | broadcast log => exact hjoined
  | tryWrite number guid' =>
    simpa [step, AccessEventBroadcaster.tryWrite] using hjoined

/-- While the connection is subscribed, these are the entries that were broadcast after the step
that subscribed it. -/
theorem sinceSubscription_eq {pre post : List Event} {c c' : Connection}
    (hc : (after pre).connections guid = some c) (hphase : c.phase = .subscribing)
    (hc' : (after (pre ++ .run guid :: post)).connections guid = some c')
    (hsubscribed : Subscribed c') :
    sinceSubscription (after (pre ++ .run guid :: post)) guid = broadcasts post := by
  have hlinked := linked_after (pre ++ .run guid :: post)
  have hmem := (hlinked.attached guid c' hc').subscribed hsubscribed
  have hleft := ((hlinked.accounted.mem_subscribers guid).mp hmem).2
  have hjoined : (after (pre ++ .run guid :: post)).broadcaster.joined guid
      = some (broadcasts pre).length := by
    have hfold : ∀ s, Linked s ∧ s.broadcaster.joined guid = some (broadcasts pre).length →
        (post.foldl step s).broadcaster.joined guid = some (broadcasts pre).length := by
      intro s hs
      refine (foldl_invariant step (fun s => Linked s
        ∧ s.broadcaster.joined guid = some (broadcasts pre).length) ?_ post s hs).2
      exact fun s e h => ⟨linked_step s e h.1, joined_step h.1 e h.2⟩
    rw [after, List.foldl_append, List.foldl_cons]
    refine hfold _ ⟨linked_step _ _ (linked_after pre), ?_⟩
    show ((after pre).run guid).broadcaster.joined guid = _
    simp [LiveFeed.run, hc, hphase, AccessEventBroadcaster.register, Fanout.subscribe,
      published_after]
  have hsplit : broadcasts (pre ++ .run guid :: post) = broadcasts pre ++ broadcasts post := by
    simp [broadcasts]
  rw [sinceSubscription, Fanout.window, hjoined, hleft, published_after, hsplit]
  dsimp only
  rw [Option.getD_none, List.take_length, List.drop_left]

/-- What a reader makes of an entry. -/
def serverEvent (serialize : AccessLog → String) (log : AccessLog) : EventStream.ServerEvent where
  type := "message".toList
  data := (serialize log).toList

/-- The text of a response is the text of its chunks in the event-stream format. -/
theorem text_toList (serialize : AccessLog → String) (c : Connection) :
    (c.text serialize).toList
      = EventStream.chunksText (c.response.map (Frame.chunk serialize)) := by
  have hframe : ∀ frame : Frame,
      (frame.text serialize).toList = (frame.chunk serialize).text := by
    intro frame
    cases frame with
    | connected =>
      show ": connected\n\n".toList = ": ".toList ++ "connected".toList ++ "\n\n".toList
      decide
    | entry log =>
      show ("data: " ++ serialize log ++ "\n\n").toList
        = "data: ".toList ++ (serialize log).toList ++ "\n\n".toList
      rw [String.toList_append, String.toList_append]
  have hfold : ∀ (frames : List Frame) (start : String),
      (frames.foldl (fun text frame => text ++ frame.text serialize) start).toList
        = start.toList ++ EventStream.chunksText (frames.map (Frame.chunk serialize)) := by
    intro frames
    induction frames with
    | nil => simp [EventStream.chunksText]
    | cons frame frames ih =>
      intro start
      rw [List.foldl_cons, ih, String.toList_append, hframe, List.append_assoc]
      rfl
  exact hfold c.response ""

/-- The events of the frames are the entries. -/
theorem filterMap_event? (serialize : AccessLog → String) (c : Connection) :
    (c.response.map (Frame.chunk serialize)).filterMap EventStream.Chunk.event?
      = c.entries.map (serverEvent serialize) := by
  rw [List.filterMap_map, Connection.entries, List.map_filterMap]
  refine List.filterMap_congr fun frame _ => ?_
  cases frame with
  | connected => rfl
  | entry log => rfl

/-- Each frame of a response is on one line, when the texts of the entries are. -/
theorem oneLine_chunk {serialize : AccessLog → String}
    (hserialize : ∀ log, ∀ ch ∈ (serialize log).toList, EventStream.isLineEnd ch = false)
    (frame : Frame) : (frame.chunk serialize).OneLine := by
  cases frame with
  | connected =>
    exact @EventStream.isLineEnd_of_all "connected".toList (by decide)
  | entry log => exact ⟨by simp, hserialize log⟩

/-- **What a client reads**: whatever part of the response has arrived, the client has read entries
that were broadcast since it subscribed, each of them once. Without overlapping broadcasts they are
the first ones, in order. -/
theorem client_reads {serialize : AccessLog → String}
    (hserialize : ∀ log, ∀ ch ∈ (serialize log).toList, EventStream.isLineEnd ch = false)
    {es : List Event} {guid : String} {c : Connection}
    (hc : (after es).connections guid = some c) {text : List Char}
    (htext : text <+: (c.text serialize).toList) :
    ∃ logs, EventStream.parse text = logs.map (serverEvent serialize)
      ∧ logs.Subperm (sinceSubscription (after es) guid)
      ∧ (OneByOne (after es) guid → logs <+: sinceSubscription (after es) guid) := by
  have hlinked := linked_after es
  have hread : EventStream.parse text <+: c.entries.map (serverEvent serialize) := by
    rw [text_toList] at htext
    rw [← filterMap_event?]
    refine EventStream.parse_of_isPrefix (fun chunk hchunk => ?_) htext
    obtain ⟨frame, -, rfl⟩ := List.mem_map.mp hchunk
    exact oneLine_chunk hserialize frame
  obtain ⟨logs, hlogs, hparse⟩ := List.prefix_map_iff.mp hread
  -- The entries on the response are the first ones that the channel got.
  have hgot : logs <+: (after es).broadcaster.taken guid ++ (after es).broadcaster.queue guid :=
    (hlogs.trans (hlinked.attached guid c hc).closed).trans (List.prefix_append _ _)
  refine ⟨logs, hparse, ?_, fun hapart => ?_⟩
  · exact hgot.sublist.subperm.trans (hlinked.accounted.subperm_window guid)
  · exact hgot.trans (hlinked.accounted.isPrefix_window hapart)

/-- The JSON text of the entry that the runs below broadcast. -/
def sampleJson : String :=
  "\x7b\"Id\":\"e1\",\"AccessPointId\":\"front\",\"UserId\":null,\"UserName\":\"Web User\",\"CredentialType\":null,"
    ++ "\"EventType\":0,\"Method\":3,\"Timestamp\":\"2026-01-01T00:00:00Z\",\"Details\":null\x7d"

/-- The entry of the sample. -/
def sampleLog : AccessLog where
  id := "e1"
  accessPointId := "front"
  userName := some "Web User"
  timestamp := { ticks := 639028224000000000 }

/-- A client subscribes, and the entry is broadcast and written to its response. -/
def sampleRun : List Event :=
  [.connect "a", .run "a", .run "a", .broadcast sampleLog, .tryWrite 0 "a", .run "a", .run "a"]

/-- The connection of this run. -/
def sampleConnection : Connection where
  phase := .reading
  response := [.connected, .entry sampleLog]

/-- The client of the sample reads the entry that was broadcast. -/
theorem client_reads_sample :
    ∃ logs, EventStream.parse (sampleConnection.text fun _ => sampleJson).toList
        = logs.map (serverEvent fun _ => sampleJson)
      ∧ logs.Subperm (sinceSubscription (after sampleRun) "a")
      ∧ (OneByOne (after sampleRun) "a" → logs <+: sinceSubscription (after sampleRun) "a") :=
  client_reads (c := sampleConnection)
    (fun _ => EventStream.isLineEnd_of_all (by decide +kernel)) (by decide) List.prefix_rfl

/-! ### Nothing is lost -/

/-- What the channel of a subscriber has got so far. -/
def got (s : Web.LiveFeed) (guid : String) : List AccessLog :=
  s.broadcaster.taken guid ++ s.broadcaster.queue guid

/-- The channel of a subscriber only gets more. -/
theorem got_isPrefix_step (h : Linked s) (e : Event) (guid : String) :
    got s guid <+: got (step s e) guid := by
  cases e with
  | connect guid' =>
    simp only [step]
    split <;> exact List.prefix_rfl
  | run guid' =>
    simp only [step]
    obtain ⟨hsame, -⟩ | ⟨c, b', c', hc, hmoves, hrun⟩ := run_cases s guid'
    · rw [hsame]
    · rw [hrun]
      cases hmoves with
      | abort => exact List.prefix_rfl
      | greet => exact List.prefix_rfl
      | subscribe hphase =>
        have hjoined := (h.attached guid' c hc).joined (Or.inr hphase)
        have hgets := @Fanout.Accounted.gets_subscribe _ _ _ _ _ guid h.accounted hjoined
        rw [got, hgets]
        exact List.prefix_rfl
      | close => simp [got, AccessEventBroadcaster.tryRemove]
      | read =>
        rw [got, got, Fanout.gets_take]
      | write => exact List.prefix_rfl
  | disconnect guid' => exact List.prefix_rfl
  | broadcast log => exact List.prefix_rfl
  | tryWrite number guid' => exact Fanout.gets_isPrefix_write

/-- Steps of the connection until `target` entries are on the response, while the client is there. -/
def remaining (guid : String) (target : Nat) (s : Web.LiveFeed) : Nat :=
  match s.connections guid with
  | none => 0
  | some c =>
    if c.connected = false then 0
    else
      match c.phase with
      | .reading => 2 * (target - c.entries.length)
      | .writing _ => 2 * (target - c.entries.length) - 1
      | _ => 0

/-- A connected client is subscribed, and its channel has got `target` entries. -/
structure Progressing (guid : String) (target : Nat) (s : Web.LiveFeed) : Prop where
  linked : Linked s
  target_le : target ≤ (got s guid).length
  subscribed : ∃ c, s.connections guid = some c ∧ (c.connected = true → Subscribed c)

variable {target : Nat}

/-- Only a step of the connection itself, or its client, changes it. -/
theorem connections_step_of_ne {e : Event} (hrun : e ≠ .run guid) (hdisconnect : e ≠ .disconnect guid)
    (hc : s.connections guid = some c) : (step s e).connections guid = some c := by
  cases e with
  | connect guid' =>
    simp only [step]
    split
    case isTrue => exact hc
    case isFalse hnone =>
      have hne : guid ≠ guid' := by
        rintro rfl
        simp [hc] at hnone
      simpa [Function.update_apply, hne] using hc
  | run guid' =>
    have hne : guid ≠ guid' := fun heq => hrun (heq ▸ rfl)
    simp only [step]
    obtain ⟨hsame, -⟩ | ⟨c₀, b', c', -, -, hmoved⟩ := run_cases s guid'
    · rw [hsame, hc]
    · rw [hmoved]
      simpa [Function.update_apply, hne] using hc
  | disconnect guid' =>
    have hne : guid ≠ guid' := fun heq => hdisconnect (heq ▸ rfl)
    simpa [step, Function.update_apply, hne] using hc
  | broadcast log => exact hc
  | tryWrite number guid' => exact hc

/-- The steps that remain depend on the connection of the client only. -/
theorem remaining_of_connection (guid : String) (target : Nat) {s' : Web.LiveFeed}
    (hc : s.connections guid = s'.connections guid) :
    remaining guid target s = remaining guid target s' := by
  rw [remaining, remaining, hc]

/-- Two steps remain for each missing entry, when the client is about to read. -/
theorem remaining_of_reading (hc : s.connections guid = some c) (hthere : c.connected = true)
    (hphase : c.phase = .reading) :
    remaining guid target s = 2 * (target - c.entries.length) := by
  simp [remaining, hc, hthere, hphase]

/-- One step less remains when the client is writing an entry. -/
theorem remaining_of_writing {log : AccessLog} (hc : s.connections guid = some c)
    (hthere : c.connected = true) (hphase : c.phase = .writing log) :
    remaining guid target s = 2 * (target - c.entries.length) - 1 := by
  simp [remaining, hc, hthere, hphase]

/-- A step of a connected client's own brings the target closer. -/
theorem remaining_run (h : Progressing guid target s) :
    remaining guid target (s.run guid) ≤ remaining guid target s - 1 := by
  obtain ⟨c, hc, hsubscribed⟩ := h.subscribed
  have hattached := h.linked.attached guid c hc
  obtain ⟨hsame, hidle⟩ | ⟨c₀, b', c', hc₀, hmoves, hrun⟩ := run_cases s guid
  · -- The connection waits at an empty channel, so that it has written all it has got.
    rw [hsame]
    suffices hzero : remaining guid target s = 0 by omega
    rcases hidle c hc with hclosed | ⟨hphase, hthere, hqueue⟩
    · simp [remaining, hc, hclosed]
    · have hentries := hattached.entries (by simp [hphase])
      have htarget := h.target_le
      simp only [held, hphase, List.append_nil] at hentries
      rw [got, hqueue, hentries, List.append_nil] at htarget
      simp [remaining, hc, hphase, Nat.sub_eq_zero_of_le htarget]
  · obtain rfl : c = c₀ := Option.some.inj (hc.symm.trans hc₀)
    have hafter : (s.run guid).connections guid = some c' := by simp [hrun]
    cases hmoves with
    | abort => simp [remaining, hafter]
    | greet => simp [remaining, hafter]
    | subscribe hphase =>
      -- A connected client has already subscribed.
      cases hthere : c.connected with
      | false => simp [remaining, hafter, hthere]
      | true =>
        rcases hsubscribed hthere with h | ⟨log, h⟩
        · rw [hphase] at h
          cases h
        · rw [hphase] at h
          cases h
    | close => simp [remaining, hafter]
    | read hphase hthere =>
      rw [remaining_of_writing hafter hthere rfl, remaining_of_reading hc hthere hphase]
      exact Nat.le_refl _
    | write hphase hthere =>
      rw [remaining_of_reading hafter hthere rfl, remaining_of_writing hc hthere hphase,
        entries_entry, List.length_append, List.length_singleton]
      omega

/-- A client that stays makes progress at every event. The step lemma for the stream. -/
theorem progressing_step (s : Web.LiveFeed) (e : Event) (h : Progressing guid target s) :
    Progressing guid target (step s e) where
  linked := linked_step s e h.linked
  target_le := Nat.le_trans h.target_le (got_isPrefix_step h.linked e guid).length_le
  subscribed := by
    obtain ⟨c, hc, hsubscribed⟩ := h.subscribed
    by_cases hrun : e = .run guid
    · subst hrun
      simp only [step]
      obtain ⟨hsame, -⟩ | ⟨c₀, b', c', hc₀, hmoves, hafter⟩ := run_cases s guid
      · exact ⟨c, by rw [hsame, hc], hsubscribed⟩
      · obtain rfl : c = c₀ := Option.some.inj (hc.symm.trans hc₀)
        refine ⟨c', by simp [hafter], ?_⟩
        cases hmoves with
        | abort _ hgone => exact fun hthere => absurd (hgone.symm.trans hthere) (by simp)
        | greet hphase hthere =>
          intro _
          rcases hsubscribed hthere with h | ⟨log, h⟩
          · rw [hphase] at h
            cases h
          · rw [hphase] at h
            cases h
        | subscribe => exact fun _ => Or.inl rfl
        | close _ hgone => exact fun hthere => absurd (hgone.symm.trans hthere) (by simp)
        | @read log => exact fun _ => Or.inr ⟨log, rfl⟩
        | write => exact fun _ => Or.inl rfl
    -- A step of another client or of a broadcast leaves this connection as it is.
    · by_cases hdisconnect : e = .disconnect guid
      · subst hdisconnect
        exact ⟨{ c with connected := false }, by simp [step, hc], by simp⟩
      · exact ⟨c, connections_step_of_ne hrun hdisconnect hc, hsubscribed⟩

/-- A step of the client's loop takes one from the remaining steps, and no event adds to them. The
step lemma for the number of steps. -/
theorem remaining_step (s : Web.LiveFeed) (e : Event) (h : Progressing guid target s) :
    remaining guid target (step s e)
      ≤ remaining guid target s - (if e == .run guid then 1 else 0) := by
  by_cases hrun : e = .run guid
  · subst hrun
    show remaining guid target (s.run guid) ≤ _
    simpa using remaining_run h
  · obtain ⟨c, hc, -⟩ := h.subscribed
    have hne : (e == .run guid) = false := by simpa using hrun
    rw [hne, if_neg Bool.false_ne_true, Nat.sub_zero]
    by_cases hdisconnect : e = .disconnect guid
    · subst hdisconnect
      simp [remaining, step, hc]
    · refine Nat.le_of_eq (remaining_of_connection guid target ?_)
      rw [connections_step_of_ne hrun hdisconnect hc, hc]

/-- A connected client with nothing remaining has the target on its response. -/
theorem Progressing.target_le_entries (h : Progressing guid target s)
    (hc : s.connections guid = some c) (hthere : c.connected = true)
    (hzero : remaining guid target s = 0) : target ≤ c.entries.length := by
  obtain ⟨c₀, hc₀, hsubscribed⟩ := h.subscribed
  obtain rfl : c = c₀ := Option.some.inj (hc.symm.trans hc₀)
  rcases hsubscribed hthere with hphase | ⟨log, hphase⟩
  · rw [remaining_of_reading hc hthere hphase] at hzero
    omega
  · rw [remaining_of_writing hc hthere hphase] at hzero
    omega

/-- A run in two parts. -/
theorem after_append (pre post : List Event) : after (pre ++ post) = post.foldl step (after pre) :=
  List.foldl_append

/-- What the channel of a subscriber has got is on the response after two steps for each entry. -/
theorem got_isPrefix_entries {pre post : List Event} {c c' : Connection}
    (hc : (after pre).connections guid = some c) (hsubscribed : Subscribed c)
    (hc' : (after (pre ++ post)).connections guid = some c') (hthere : c'.connected = true)
    (hruns : 2 * ((after pre).broadcaster.queue guid).length + 1 ≤ post.count (.run guid)) :
    got (after pre) guid <+: c'.entries := by
  have hlinked := linked_after pre
  have hattached := hlinked.attached guid c hc
  have hprogressing : Progressing guid (got (after pre) guid).length (after pre) :=
    ⟨hlinked, Nat.le_refl _, c, hc, fun _ => hsubscribed⟩
  have hall : StepsMeet step (fun _ _ => True) (after pre) post :=
    stepsMeet_of_forall_mem (fun _ _ _ => trivial) _
  have hlast : Progressing guid (got (after pre) guid).length (after (pre ++ post)) := by
    rw [after_append]
    exact foldl_invariant step _ progressing_step post _ hprogressing
  -- At first, the entries in the channel and the one that is being written are missing.
  have hfirst : remaining guid (got (after pre) guid).length (after pre)
      ≤ 2 * ((after pre).broadcaster.queue guid).length + 1 := by
    have hentries : (after pre).broadcaster.taken guid = c.entries ++ held c := by
      refine hattached.entries ?_
      rcases hsubscribed with h | ⟨log, h⟩ <;> simp [h]
    have hlength : (got (after pre) guid).length
        = c.entries.length + (held c).length + ((after pre).broadcaster.queue guid).length := by
      rw [got, hentries, List.length_append, List.length_append]
    cases hconnected : c.connected with
    | false => simp [remaining, hc, hconnected]
    | true =>
      rcases hsubscribed with hphase | ⟨log, hphase⟩
      · rw [remaining_of_reading hc hconnected hphase]
        simp only [held, hphase, List.length_nil] at hlength
        omega
      · rw [remaining_of_writing hc hconnected hphase]
        simp only [held, hphase, List.length_singleton] at hlength
        omega
  have hzero : remaining guid (got (after pre) guid).length (after (pre ++ post)) = 0 := by
    have hmeasure := measure_le_of_stepsMeet (fun s e h _ => progressing_step s e h) _
      (· == .run guid) (fun s e h _ => remaining_step s e h) post _ hprogressing hall
    rw [after_append]
    unfold List.count at hruns
    omega
  have hlength := hlast.target_le_entries hc' hthere hzero
  have hgot : got (after pre) guid <+: got (after (pre ++ post)) guid := by
    rw [after_append]
    refine (foldl_invariant step (fun s => Linked s ∧ got (after pre) guid <+: got s guid) ?_ post _
      ⟨hlinked, List.prefix_rfl⟩).2
    exact fun s e h => ⟨linked_step s e h.1, h.2.trans (got_isPrefix_step h.1 e guid)⟩
  have hentries : c'.entries <+: got (after (pre ++ post)) guid :=
    (hlast.linked.attached guid c' hc').closed.trans (List.prefix_append _ _)
  exact List.prefix_of_prefix_length_le hgot hentries hlength

/-- **A client gets every entry**: when no broadcast is on its way to a subscribed client, and the
client stays for two steps for each entry in its channel and for one more, its response begins with
every entry that was broadcast since it subscribed, in order unless broadcasts overlapped. The one
step more is for an entry that has left the channel and is not on the response yet. -/
theorem client_gets_all {pre post : List Event} {c c' : Connection}
    (hc : (after pre).connections guid = some c) (hsubscribed : Subscribed c)
    (hdone : ∀ number, ¬ (after pre).broadcaster.Pending guid number)
    (hc' : (after (pre ++ post)).connections guid = some c') (hthere : c'.connected = true)
    (hruns : 2 * ((after pre).broadcaster.queue guid).length + 1 ≤ post.count (.run guid)) :
    ∃ logs, logs <+: c'.entries ∧ logs.Perm (sinceSubscription (after pre) guid)
      ∧ (OneByOne (after pre) guid → logs = sinceSubscription (after pre) guid) := by
  have haccounted := (linked_after pre).accounted
  refine ⟨got (after pre) guid, got_isPrefix_entries hc hsubscribed hc' hthere hruns, ?_, ?_⟩
  · exact haccounted.perm_window hdone
  · exact haccounted.eq_window hdone

/-- The client of the sample stays for three steps, and has the entry. -/
theorem client_gets_all_sample :
    ∃ logs, logs <+: sampleConnection.entries
      ∧ logs.Perm (sinceSubscription (after (sampleRun.take 5)) "a")
      ∧ (OneByOne (after (sampleRun.take 5)) "a"
        → logs = sinceSubscription (after (sampleRun.take 5)) "a") := by
  have hdone : ∀ number, ¬ (after (sampleRun.take 5)).broadcaster.Pending "a" number := by
    rintro number ⟨s, hs, -⟩
    exact absurd hs (List.not_mem_nil (a := s))
  exact @client_gets_all "a" (sampleRun.take 5) [.run "a", .run "a", .run "a"]
    { phase := .reading, response := [.connected] } sampleConnection (by decide) (Or.inl rfl) hdone
    (by decide) rfl (by decide)

end CodeMaster.Proofs.LiveFeed
