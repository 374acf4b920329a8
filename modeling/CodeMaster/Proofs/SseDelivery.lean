import CodeMaster.Lib.Transition
import CodeMaster.Mcp.SseSession

/-!
# `CodeMaster.Proofs.SseDelivery`: does a session deliver every reply?

`Delivers` is the statement about a run: the session stays registered while the client is
connected, the response has the messages of the channel in order and each once, and the loop
writes each of them after a bounded number of its steps.

`Ordered` is what every step keeps, and `remaining` is the measure that each step of the loop
decreases. Only the start of a turn can end the session, when the timer's wait of an earlier turn
is still pending. So the session delivers exactly when no turn starts like that
(`delivers_iff_noPendingWait`). A turn that a message ends leaves such a wait behind, and a turn
that the timer ends does not.

The events are the steps of the loop, the messages that are posted, the timer and the client that
goes away, in any order. Each `Phase` of the loop is a case of its own in the step lemmas.

The bound for the loop counts two steps for each message that is missing, one to read it and one to
write it, and a few more for the turn around them. A step of the loop that changes nothing happens
only when nothing is missing: a loop that waits has no message in its channel, because a message
that is posted completes its wait.
-/

set_option autoImplicit false

namespace CodeMaster.Proofs.SseDelivery

open CodeMaster.Core CodeMaster.Mcp Transition
open SseSession (step run close startTurn tryRead tryWrite Event Phase)

/-! ### The statement -/

/-- The session `sessionId` after the events. -/
def after (sessionId : String) (es : List Event) : SseSession := es.foldl step { sessionId }

/-- The session keeps its registration and delivers its messages while the client is connected. -/
structure Delivers (sessionId : String) (es : List Event) : Prop where
  registered : ∀ pre, pre <+: es → (after sessionId pre).connected = true →
    (after sessionId pre).registered = true
  /-- In order, and each message once. -/
  ordered : ∀ pre, pre <+: es →
    (after sessionId pre).messages <+: (after sessionId pre).posted
  /-- The loop needs at most two steps for each message, and four to get to the first. -/
  written : ∀ pre post, pre ++ post <+: es → (after sessionId (pre ++ post)).connected = true →
    2 * (after sessionId pre).unwritten.length + 4 ≤ post.count .run →
    (after sessionId pre).posted <+: (after sessionId (pre ++ post)).messages

/-- No turn starts while the timer's wait of an earlier turn is pending. -/
def NoPendingWait (s : SseSession) : Event → Prop
  | .run => s.phase = .loopHead → s.connected = true → s.timer.activeWait = false
  | _ => True

/-- The condition on a step is decidable. -/
instance decidableNoPendingWait (s : SseSession) : ∀ e, Decidable (NoPendingWait s e)
  | .run =>
    inferInstanceAs
      (Decidable (s.phase = .loopHead → s.connected = true → s.timer.activeWait = false))
  | .postMessage _ _ => isTrue trivial
  | .tick => isTrue trivial
  | .disconnect => isTrue trivial

/-! ### What every step keeps -/

/-- An open session has lost no message, and a wait without a completed task is on an empty
channel. -/
structure Ordered (s : SseSession) : Prop where
  ordered : s.messages <+: s.posted
  complete : s.phase ≠ .closed → s.posted = s.messages ++ s.unwritten
  registered : s.registered = true ↔ s.phase ≠ .closed
  idle : s.phase = .waiting none → s.channel = []

variable {s : SseSession}

/-- A new session has written nothing and has nothing to write. -/
theorem ordered_new (sessionId : String) : Ordered { sessionId } where
  ordered := List.prefix_rfl
  complete _ := rfl
  registered := by simp
  idle h := by simp at h

/-- The `finally` block leaves the stream and the channel. -/
theorem Ordered.close (h : Ordered s) : Ordered s.close where
  ordered := h.ordered
  complete hphase := absurd rfl hphase
  registered := by simp [SseSession.close]
  idle hphase := by simp [SseSession.close] at hphase

/-- A step of the loop to an open phase that writes `chunks`, when the messages are as before. -/
theorem Ordered.of_messages (h : Ordered s) {s' : SseSession} (hopen : s.phase ≠ .closed)
    (hopen' : s'.phase ≠ .closed) (hregistered : s'.registered = s.registered)
    (hposted : s'.posted = s.posted)
    (hmessages : s'.messages ++ s'.unwritten = s.messages ++ s.unwritten)
    (hidle : s'.phase = .waiting none → s'.channel = []) : Ordered s' where
  ordered := by
    rw [hposted, h.complete hopen, ← hmessages]
    exact List.prefix_append _ _
  complete _ := by rw [hposted, h.complete hopen, hmessages]
  registered := by simp [hregistered, h.registered, hopen, hopen']
  idle := hidle

/-- The start of a turn leaves the stream and the channel. -/
theorem Ordered.startTurn (h : Ordered s) (hphase : s.phase = .loopHead) :
    Ordered s.startTurn := by
  have hopen : s.phase ≠ .closed := by simp [hphase]
  unfold SseSession.startTurn
  cases htimer : s.timer.waitForNextTickAsync with
  | none => exact h.close
  | some result =>
    refine h.of_messages hopen (by simp) rfl rfl (by simp [SseSession.messages,
      SseSession.unwritten, hphase]) fun hidle => ?_
    -- A channel with a message completes the read wait at once.
    by_contra hchannel
    simp_all

/-- A message that is read leaves the channel and is the next on the stream. -/
theorem Ordered.tryRead (h : Ordered s) (hphase : s.phase = .reading) : Ordered s.tryRead := by
  have hopen : s.phase ≠ .closed := by simp [hphase]
  unfold SseSession.tryRead
  cases hchannel : s.channel with
  | nil =>
    exact h.of_messages hopen (by simp) rfl rfl
      (by simp [SseSession.messages, SseSession.unwritten, hphase, hchannel]) (by simp)
  | cons msg rest =>
    exact h.of_messages hopen (by simp) rfl rfl
      (by simp [SseSession.messages, SseSession.unwritten, hphase, hchannel]) (by simp)

/-- A step of the loop keeps the order. There is one case for each point of the loop. -/
theorem Ordered.run (h : Ordered s) : Ordered s.run := by
  unfold SseSession.run
  split
  · exact h.close
  -- In each phase the messages are those before, only moved from the channel towards the stream.
  · cases hphase : s.phase with
    | opening =>
      exact h.of_messages (by simp [hphase]) (by simp) rfl rfl
        (by simp [SseSession.messages, SseSession.unwritten, hphase]) (by simp)
    | loopHead => exact h.startTurn hphase
    | waiting completed =>
      cases completed with
      | none => exact h
      | some task =>
        cases task with
        | readTask =>
          exact h.of_messages (by simp [hphase]) (by simp) rfl rfl
            (by simp [SseSession.messages, SseSession.unwritten, hphase]) (by simp)
        | timerTask =>
          exact h.of_messages (by simp [hphase]) (by simp) rfl rfl
            (by simp [SseSession.messages, SseSession.unwritten, hphase]) (by simp)
    | reading => exact h.tryRead hphase
    | writing msg =>
      exact h.of_messages (by simp [hphase]) (by simp) rfl rfl
        (by simp [SseSession.messages, SseSession.unwritten, hphase]) (by simp)
    | pinging =>
      exact h.of_messages (by simp [hphase]) (by simp) rfl rfl
        (by simp [SseSession.messages, SseSession.unwritten, hphase]) (by simp)
    | closed => exact h

/-- The timer leaves the stream and the channel. -/
theorem Ordered.tick (h : Ordered s) : Ordered s.tick := by
  unfold SseSession.tick
  split
  case isTrue => exact h
  case isFalse hphase =>
    push Not at hphase
    cases hwaiting : decide (s.phase = .waiting none) with
    | true =>
      have hnone : s.phase = .waiting none := of_decide_eq_true hwaiting
      exact h.of_messages hphase.2 (by simp [hnone]) rfl rfl
        (by simp [SseSession.messages, SseSession.unwritten, hnone]) (by simp [hnone])
    | false =>
      have hsome : s.phase ≠ .waiting none := of_decide_eq_false hwaiting
      exact h.of_messages hphase.2 (by simp [hsome, hphase.2]) rfl rfl
        (by simp [SseSession.messages, SseSession.unwritten, hsome]) (by simp [hsome])

/-- A message is added at the end of what is not written. -/
theorem unwritten_tryWrite (s : SseSession) (msg : String) :
    (s.tryWrite msg).unwritten = s.unwritten ++ [msg] := by
  cases hphase : s.phase with
  | waiting completed =>
    cases completed with
    | none => simp [SseSession.unwritten, SseSession.tryWrite, hphase]
    | some task => simp [SseSession.unwritten, SseSession.tryWrite, hphase]
  | _ => simp [SseSession.unwritten, SseSession.tryWrite, hphase]

/-- A message that is posted goes to the end of the channel. -/
theorem Ordered.tryWrite (h : Ordered s) (hopen : s.phase ≠ .closed) (msg : String) :
    Ordered (s.tryWrite msg) where
  ordered := h.ordered.trans (List.prefix_append _ _)
  complete _ := by
    rw [unwritten_tryWrite]
    show s.posted ++ [msg] = s.messages ++ (s.unwritten ++ [msg])
    rw [h.complete hopen, List.append_assoc]
  registered := by
    have hopen' : (s.tryWrite msg).phase ≠ .closed := by
      show (if s.phase = .waiting none then _ else s.phase) ≠ _
      split
      · simp
      · exact hopen
    exact iff_of_true (h.registered.mpr hopen) hopen'
  idle hphase := by
    have hne : (s.tryWrite msg).phase ≠ .waiting none := by
      show (if s.phase = .waiting none then _ else s.phase) ≠ _
      split
      case isTrue => simp
      case isFalse hphase => exact hphase
    exact absurd hphase hne

/-- The step lemma. -/
theorem ordered_step (s : SseSession) (e : Event) (h : Ordered s) : Ordered (s.step e) := by
  cases e with
  | run => exact h.run
  | postMessage sessionId responseJson =>
    simp only [step, SseSession.handlePostMessageAsync]
    split
    case isTrue hsession => exact h.tryWrite (h.registered.mp hsession.2.2) _
    case isFalse => exact h
  | tick => exact h.tick
  | disconnect => exact ⟨h.ordered, h.complete, h.registered, h.idle⟩

/-! ### The end of a session -/

/-- A connected client has a registered session. -/
def Open (s : SseSession) : Prop := s.connected = true → s.registered = true

/-- The loop does not reconnect, and does not disconnect. -/
theorem connected_run (s : SseSession) : s.run.connected = s.connected := by
  unfold run startTurn tryRead close
  repeat' (first | rfl | split)

/-- A turn ends the session exactly when an earlier wait for the timer is pending. -/
theorem registered_startTurn (h : s.registered = true) :
    s.startTurn.registered = true ↔ s.timer.activeWait = false := by
  unfold startTurn PeriodicTimer.waitForNextTickAsync
  cases hwait : s.timer.activeWait with
  | true => simp [close]
  | false => cases s.timer.signaled <;> simp [h]

/-- Only the start of a turn can end the session of a connected client. -/
theorem registered_run (hconnected : s.connected = true) (hphase : s.phase ≠ .loopHead) :
    s.run.registered = s.registered := by
  simp only [run, hconnected, Bool.true_eq_false, if_false]
  split
  case h_2 hhead => exact absurd hhead hphase
  case h_6 => unfold tryRead; split <;> rfl
  all_goals rfl

/-- A step keeps the session of a connected client unless it starts a turn on a pending wait. -/
theorem open_step_iff (s : SseSession) (e : Event) (hopen : Open s) :
    Open (s.step e) ↔ NoPendingWait s e := by
  cases e with
  | run =>
    cases hconnected : s.connected with
    | false => simp [Open, NoPendingWait, step, connected_run, hconnected]
    | true =>
      have hregistered := hopen hconnected
      simp only [Open, NoPendingWait, step, connected_run, hconnected, true_implies]
      -- At the loop head the timer decides, and elsewhere the session stays registered.
      cases hphase : decide (s.phase = .loopHead) with
      | true =>
        have hhead : s.phase = .loopHead := of_decide_eq_true hphase
        have hrun : s.run = s.startTurn := by simp [run, hconnected, hhead]
        simpa [hrun, hhead] using registered_startTurn hregistered
      | false =>
        have hother : s.phase ≠ .loopHead := of_decide_eq_false hphase
        simp [registered_run hconnected hother, hregistered, hother]
  | postMessage sessionId responseJson =>
    refine iff_of_true ?_ trivial
    simp only [step, SseSession.handlePostMessageAsync]
    split <;> exact hopen
  | tick =>
    refine iff_of_true ?_ trivial
    simp only [step, SseSession.tick]
    split <;> exact hopen
  | disconnect => exact iff_of_true (fun h => absurd h (by simp [step])) trivial

/-! ### Progress -/

/-- The number of messages, of the first `target` ones, that are not on the response. -/
def missing (target : Nat) (s : SseSession) : Nat := target - s.messages.length

/-- The steps of the loop until `missing` messages more are on the response. -/
def weight (missing : Nat) : Phase → Nat
  | .reading => 2 * missing
  | .writing _ => 2 * missing - 1
  | .waiting (some .readTask) => 2 * missing + 1
  | .loopHead => 2 * missing + 2
  | .pinging => 2 * missing + 3
  | .opening => 2 * missing + 3
  | .waiting (some .timerTask) => 2 * missing + 4
  | .waiting none => 0
  | .closed => 0

/-- The weight counts two steps for each missing message and a few for the turn around them. -/
theorem weight_le (missing : Nat) (phase : Phase) : weight missing phase ≤ 2 * missing + 4 := by
  unfold weight
  split <;> omega

/-- The measure: nothing remains when the messages are written or the client is gone. -/
def remaining (target : Nat) (s : SseSession) : Nat :=
  if s.connected = true ∧ missing target s ≠ 0 then weight (missing target s) s.phase else 0

/-- What the measure needs of a state. -/
structure Progressing (target : Nat) (s : SseSession) : Prop where
  ordered : Ordered s
  opened : Open s
  target_le : target ≤ s.posted.length

variable {target : Nat}

/-- While a message is missing, there is something to write. -/
theorem Progressing.unwritten_ne_nil (h : Progressing target s) (hopen : s.phase ≠ .closed)
    (hmissing : missing target s ≠ 0) : s.unwritten ≠ [] := by
  intro hnil
  -- Otherwise every posted message would be on the response.
  have hcomplete := h.ordered.complete hopen
  rw [hnil, List.append_nil] at hcomplete
  have htarget := h.target_le
  rw [hcomplete] at htarget
  exact hmissing (by unfold missing; omega)

/-- A connected session that progresses is not closed. -/
theorem Progressing.phase_ne_closed (h : Progressing target s) (hconnected : s.connected = true) :
    s.phase ≠ .closed := h.ordered.registered.mp (h.opened hconnected)

/-- A wait without a completed task has nothing to write. -/
theorem Progressing.not_idle (h : Progressing target s) (hmissing : missing target s ≠ 0) :
    s.phase ≠ .waiting none := by
  intro hidle
  have hunwritten := h.unwritten_ne_nil (by simp [hidle]) hmissing
  simp [SseSession.unwritten, hidle, h.ordered.idle hidle] at hunwritten

/-- What is on the stream stays there. -/
theorem messages_isPrefix_run (s : SseSession) : s.messages <+: s.run.messages := by
  unfold run startTurn tryRead close
  simp only [SseSession.messages]
  repeat' (first | exact List.prefix_rfl | split)
  all_goals simp

/-- The remaining steps are at most the weight of the missing messages. -/
theorem remaining_le_weight (target : Nat) (s : SseSession) :
    remaining target s ≤ weight (missing target s) s.phase := by
  unfold remaining
  split
  · exact Nat.le_refl _
  · exact Nat.zero_le _

/-- The measure of a state with the messages of `s`. -/
theorem remaining_le_of_messages {s' : SseSession} (hmessages : s'.messages = s.messages) :
    remaining target s' ≤ weight (missing target s) s'.phase := by
  have hle := remaining_le_weight target s'
  rwa [missing, hmessages] at hle

/-- A turn that starts with something to write ends in its `WhenAny` at once. -/
theorem startTurn_of_unwritten (hphase : s.phase = .loopHead) (hunwritten : s.unwritten ≠ [])
    (hpending : s.timer.activeWait = false) :
    s.startTurn.phase = .waiting (some .readTask) ∧ s.startTurn.messages = s.messages := by
  have hchannel : s.channel ≠ [] := by simpa [SseSession.unwritten, hphase] using hunwritten
  unfold startTurn PeriodicTimer.waitForNextTickAsync
  cases s.timer.signaled <;> simp [hpending, hchannel, SseSession.messages]

/-- When the client is gone or the messages are written, it is so after a step. -/
theorem remaining_run_of_inactive (h : ¬ (s.connected = true ∧ missing target s ≠ 0)) :
    remaining target s.run = 0 := by
  have hlength := (messages_isPrefix_run s).length_le
  refine if_neg fun hrun => h ⟨connected_run s ▸ hrun.1, ?_⟩
  have hmissing := hrun.2
  unfold missing at hmissing ⊢
  omega

/-- A step that writes no message, to a phase with less weight. -/
theorem remaining_run_of_eq {s' : SseSession} {phase : Phase} (hrun : s.run = s')
    (hmessages : s'.messages = s.messages)
    (hweight : weight (missing target s) s'.phase + 1 ≤ weight (missing target s) phase) :
    remaining target s.run + 1 ≤ weight (missing target s) phase := by
  rw [hrun]
  exact Nat.le_trans (Nat.succ_le_succ (remaining_le_of_messages hmessages)) hweight

/-- A step that writes a message. -/
theorem remaining_run_of_writing {msg : String} (hconnected : s.connected = true)
    (hphase : s.phase = .writing msg) (hmissing : missing target s ≠ 0) :
    remaining target s.run + 1 ≤ weight (missing target s) (.writing msg) := by
  have hrun : s.run = { s with stream := s.stream ++ [.message msg], phase := .reading } := by
    simp [run, hconnected, hphase]
  have hlength : s.run.messages.length = s.messages.length + 1 := by
    simp [hrun, SseSession.messages]
  have hle := remaining_le_weight target s.run
  rw [missing, hlength, hrun] at hle
  rw [hrun]
  unfold missing at hmissing ⊢
  simp only [weight] at hle ⊢
  omega

/-- While a message is missing, a step of the loop brings it closer. There is one case for each
point of the loop. -/
theorem remaining_run_of_active (h : Progressing target s) (hpending : NoPendingWait s .run)
    (hconnected : s.connected = true) (hmissing : missing target s ≠ 0) :
    remaining target s.run + 1 ≤ weight (missing target s) s.phase := by
  have hunwritten := h.unwritten_ne_nil (h.phase_ne_closed hconnected) hmissing
  cases hphase : s.phase with
  | opening =>
    have hrun : s.run = { s with stream := s.stream ++ [.endpoint], phase := .loopHead } := by
      simp [run, hconnected, hphase]
    exact remaining_run_of_eq hrun (by simp [SseSession.messages]) (by simp only [weight]; omega)
  | loopHead =>
    have hrun : s.run = s.startTurn := by simp [run, hconnected, hphase]
    have hturn := startTurn_of_unwritten hphase hunwritten (hpending hphase hconnected)
    refine remaining_run_of_eq hrun hturn.2 ?_
    rw [hturn.1]
    simp only [weight]
    omega
  | waiting completed =>
    cases completed with
    -- With something to read, a turn is not suspended.
    | none => exact absurd hphase (h.not_idle hmissing)
    | some task =>
      cases task with
      | readTask =>
        have hrun : s.run = { s with phase := .reading } := by simp [run, hconnected, hphase]
        exact remaining_run_of_eq hrun rfl (by simp only [weight]; omega)
      | timerTask =>
        have hrun : s.run = { s with phase := .pinging } := by simp [run, hconnected, hphase]
        exact remaining_run_of_eq hrun rfl (by simp only [weight]; omega)
  | reading =>
    cases hchannel : s.channel with
    | nil => simp [SseSession.unwritten, hphase, hchannel] at hunwritten
    | cons msg rest =>
      have hrun : s.run = { s with channel := rest, phase := .writing msg } := by
        simp [run, tryRead, hconnected, hphase, hchannel]
      exact remaining_run_of_eq hrun rfl (by simp only [weight]; omega)
  | writing msg => exact remaining_run_of_writing hconnected hphase hmissing
  | pinging =>
    have hrun : s.run = { s with stream := s.stream ++ [.ping], phase := .loopHead } := by
      simp [run, hconnected, hphase]
    exact remaining_run_of_eq hrun (by simp [SseSession.messages]) (by simp only [weight]; omega)
  | closed => exact absurd hphase (h.phase_ne_closed hconnected)

/-- A step of the loop brings the next message closer. -/
theorem remaining_run (h : Progressing target s) (hpending : NoPendingWait s .run) :
    remaining target s.run ≤ remaining target s - 1 := by
  by_cases hactive : s.connected = true ∧ missing target s ≠ 0
  · have hstep := remaining_run_of_active h hpending hactive.1 hactive.2
    have hbefore : remaining target s = weight (missing target s) s.phase := if_pos hactive
    omega
  · rw [remaining_run_of_inactive hactive]
    exact Nat.zero_le _

/-- The other events change neither the messages nor, while one is missing, the phase. -/
theorem remaining_le_of_phase {s' : SseSession} (hmessages : s'.messages = s.messages)
    (hconnected : s'.connected = true → s.connected = true)
    (hphase : missing target s ≠ 0 → s'.phase = s.phase) :
    remaining target s' ≤ remaining target s := by
  have hmissing : missing target s' = missing target s := by rw [missing, hmessages, missing]
  unfold remaining
  rw [hmissing]
  split
  case isTrue hactive =>
    exact Nat.le_of_eq (by rw [if_pos ⟨hconnected hactive.1, hactive.2⟩, hphase hactive.2])
  case isFalse => exact Nat.zero_le _

/-- A step of the loop takes one from the remaining steps, and no event adds to them, as long as no
wait is pending. -/
theorem remaining_step (s : SseSession) (e : Event) (h : Progressing target s)
    (hpending : NoPendingWait s e) :
    remaining target (s.step e) ≤ remaining target s - (if e == .run then 1 else 0) := by
  cases e with
  | run => exact remaining_run h hpending
  | postMessage sessionId responseJson =>
    simp only [step, SseSession.handlePostMessageAsync]
    split
    · refine remaining_le_of_phase rfl id fun hmissing => ?_
      exact if_neg (h.not_idle hmissing)
    · exact Nat.le_refl _
  | tick =>
    simp only [step, SseSession.tick]
    split
    · exact Nat.le_refl _
    · refine remaining_le_of_phase rfl id fun hmissing => ?_
      exact if_neg (h.not_idle hmissing)
  | disconnect => exact remaining_le_of_phase rfl (fun h => absurd h (by simp [step])) fun _ => rfl

/-- What was posted stays on record. -/
theorem posted_isPrefix_step (s : SseSession) (e : Event) : s.posted <+: (s.step e).posted := by
  cases e with
  | run =>
    simp only [step]
    unfold run startTurn tryRead close
    repeat' (first | exact List.prefix_rfl | split)
  | postMessage sessionId responseJson =>
    simp only [step, SseSession.handlePostMessageAsync]
    split
    · exact List.prefix_append _ _
    · exact List.prefix_rfl
  | tick =>
    simp only [step, SseSession.tick]
    split <;> exact List.prefix_rfl
  | disconnect => exact List.prefix_rfl

/-- A session goes on to progress, as long as no wait is pending. -/
theorem progressing_step (s : SseSession) (e : Event) (h : Progressing target s)
    (hpending : NoPendingWait s e) : Progressing target (s.step e) where
  ordered := ordered_step s e h.ordered
  opened := (open_step_iff s e h.opened).mpr hpending
  target_le := Nat.le_trans h.target_le (posted_isPrefix_step s e).length_le

/-- At first, what remains is bounded by what is not written. -/
theorem remaining_le_unwritten (h : Ordered s) :
    remaining s.posted.length s ≤ 2 * s.unwritten.length + 4 := by
  cases hclosed : decide (s.phase = .closed) with
  | true =>
    have hweight := remaining_le_weight s.posted.length s
    rw [of_decide_eq_true hclosed] at hweight
    exact Nat.le_trans hweight (Nat.zero_le _)
  | false =>
    have hlength := congrArg List.length (h.complete (of_decide_eq_false hclosed))
    have hbound := Nat.le_trans (remaining_le_weight s.posted.length s) (weight_le _ _)
    rw [List.length_append] at hlength
    unfold missing at hbound
    omega

/-- When nothing remains and the client is there, no message is missing. -/
theorem Progressing.missing_eq_zero (h : Progressing target s) (hconnected : s.connected = true)
    (hzero : remaining target s = 0) : missing target s = 0 := by
  by_contra hmissing
  have hopen := h.phase_ne_closed hconnected
  have hbusy := h.not_idle hmissing
  have hweight : weight (missing target s) s.phase = 0 := by
    simpa [remaining, hconnected, hmissing] using hzero
  unfold weight at hweight
  split at hweight
  case h_8 hidle => exact hbusy hidle
  case h_9 hclosed => exact hopen hclosed
  all_goals omega

/-! ### Every run -/

/-- A run in two parts. -/
theorem after_append (sessionId : String) (pre post : List Event) :
    after sessionId (pre ++ post) = post.foldl step (after sessionId pre) :=
  List.foldl_append

/-- The run lemma. -/
theorem ordered_after (sessionId : String) (es : List Event) : Ordered (after sessionId es) :=
  foldl_invariant step Ordered ordered_step es _ (ordered_new sessionId)

/-- A session is open at every point of a run exactly when no turn of the run finds a pending
wait. -/
theorem open_after_iff (sessionId : String) (es : List Event) :
    (∀ pre, pre <+: es → Open (after sessionId pre))
      ↔ StepsMeet step NoPendingWait { sessionId } es :=
  stepsMeet_iff open_step_iff es _ fun _ => rfl

/-- After enough steps of the loop, the messages of an earlier point are on the response. -/
theorem written_of_noPendingWait {sessionId : String} {pre post : List Event}
    (h : StepsMeet step NoPendingWait { sessionId } (pre ++ post))
    (hconnected : (after sessionId (pre ++ post)).connected = true)
    (hruns : 2 * (after sessionId pre).unwritten.length + 4 ≤ post.count .run) :
    (after sessionId pre).posted <+: (after sessionId (pre ++ post)).messages := by
  have hpost := ((stepsMeet_append _ pre post).mp h).2
  have hopen := (open_after_iff sessionId (pre ++ post)).mpr h pre (List.prefix_append _ _)
  have hordered := ordered_after sessionId pre
  have hprogressing : Progressing (after sessionId pre).posted.length (after sessionId pre) :=
    ⟨hordered, hopen, Nat.le_refl _⟩
  -- The steps of `post` bring the measure to zero.
  have hmeasure := measure_le_of_stepsMeet progressing_step _ (· == .run) remaining_step post _
    hprogressing hpost
  have hzero :
      remaining (after sessionId pre).posted.length (after sessionId (pre ++ post)) = 0 := by
    have hfirst := remaining_le_unwritten hordered
    rw [after_append]
    unfold List.count at hruns
    omega
  have hlast : Progressing (after sessionId pre).posted.length (after sessionId (pre ++ post)) := by
    rw [after_append]
    exact invariant_of_stepsMeet _ progressing_step post _ hprogressing hpost
  have hmissing := hlast.missing_eq_zero hconnected hzero
  -- Both are prefixes of what was posted until then.
  have hposted : (after sessionId pre).posted <+: (after sessionId (pre ++ post)).posted := by
    rw [after_append]
    refine foldl_invariant step (fun s => (after sessionId pre).posted <+: s.posted) ?_ post _
      List.prefix_rfl
    exact fun s e hprefix => hprefix.trans (posted_isPrefix_step s e)
  refine List.prefix_of_prefix_length_le hposted hlast.ordered.ordered ?_
  unfold missing at hmissing
  omega

/-- **A session delivers every reply** exactly when no turn of its loop starts while the timer's
wait of an earlier turn is still pending. -/
theorem delivers_iff_noPendingWait (sessionId : String) (es : List Event) :
    Delivers sessionId es ↔ StepsMeet step NoPendingWait { sessionId } es := by
  constructor
  · intro h
    exact (open_after_iff sessionId es).mp h.registered
  · intro h
    refine ⟨(open_after_iff sessionId es).mpr h, fun pre _ => (ordered_after sessionId pre).ordered,
      ?_⟩
    rintro pre post ⟨rest, rfl⟩ hconnected hruns
    exact written_of_noPendingWait h.of_prefix hconnected hruns

/-- The first reply is delivered. The timer's wait is still pending when the next turn starts,
which ends the session. -/
theorem first_reply_ends_session :
    ¬ Delivers "9f1b2c3d4e5f60718293a4b5c6d7e8f9"
      [.run, .run, .postMessage (some "9f1b2c3d4e5f60718293a4b5c6d7e8f9") "\x7b\x7d", .run, .run,
        .run, .run, .run] := by
  intro h
  have hregistered := h.registered _ List.prefix_rfl (by decide)
  exact absurd hregistered (by decide)

end CodeMaster.Proofs.SseDelivery
