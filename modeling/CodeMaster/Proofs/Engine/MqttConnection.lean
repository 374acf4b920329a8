import CodeMaster.Engine.MqttBackgroundService
import CodeMaster.Lib.Transition

/-!
# `CodeMaster.Proofs.Engine.MqttConnection`: does the broker loop hear while it waits?

`Listening` is what the wait should mean: on an uncompleted source the client is connected with
its subscription, and a completed source is only met without a connection. `Inv` is the invariant,
with one clause for each phase. Three kinds of step break it, and `Attended` excludes them:

* a disconnect after `SubscribeToTopicsAsync` and before the new source. Its notification goes to
  the old source, and the loop waits for it on the new one.
* the test of `IsConnected` on a connection that is up, as it is after a failed subscription or
  after a late notification. The loop then skips the branch that subscribes.
* a late notification between the new source and the wait.

`listening_of_attended` is the run theorem. `unattended_breaks` says that none of the three
conditions can be dropped: after a step that misses one, the loop by itself runs into a state
that is not `Listening`.

The phases are the points of `ExecuteAsync` between two awaits, at which the callbacks of the client
can run: a connection that is lost, its late notification, and a stop. The invariant has a clause
for each phase, and a step lemma goes through them.

The condition `Attended` is on a step and on the state before it. It excludes no loss of the
connection as such, but those at which the loop is not looking.
-/

set_option autoImplicit false

namespace CodeMaster.Proofs.Engine.MqttConnection

open CodeMaster.Engine Transition
open MqttBackgroundService (step run handleDisconnectedAsync onConnected onException Event)

/-! ### The statement -/

/-- `SubscribeAsync` has succeeded on the present connection, for the topics of the options. -/
def Subscribed (s : MqttBackgroundService) : Prop :=
  s.options.topicFilters ≠ [] → s.subscription = some s.options.topicFilters

/-- The loop does not wait while it is deaf, and it does not spin on a live connection. -/
structure Listening (s : MqttBackgroundService) : Prop where
  waiting : s.phase = .waiting → s.disconnectTcs = false → s.isConnected = true ∧ Subscribed s
  reached : s.phase = .beforeWait → s.disconnectTcs = true → s.isConnected = false

/-- The step is none of the three that the loop misses. -/
def Attended (s : MqttBackgroundService) : Event → Prop
  | .disconnected => s.phase = .replacing → s.stopping = true
  | .run => s.phase = .loopHead → s.isConnected = true → s.stopping = true
  | .lateNotification => s.phase = .beforeWait → s.isConnected = false
  | _ => True

/-- The condition on a step is decidable. -/
instance decidableAttended (s : MqttBackgroundService) : ∀ e, Decidable (Attended s e)
  | .disconnected => inferInstanceAs (Decidable (s.phase = .replacing → s.stopping = true))
  | .run =>
    inferInstanceAs (Decidable (s.phase = .loopHead → s.isConnected = true → s.stopping = true))
  | .lateNotification =>
    inferInstanceAs (Decidable (s.phase = .beforeWait → s.isConnected = false))
  | .connectSucceeded => isTrue trivial
  | .connectFailed => isTrue trivial
  | .subscribeSucceeded => isTrue trivial
  | .subscribeFailed => isTrue trivial
  | .delayElapsed => isTrue trivial
  | .stop => isTrue trivial

/-! ### The invariant -/

/-- There are topics, and the present connection has no subscription. -/
def Unsubscribed (s : MqttBackgroundService) : Prop :=
  s.options.topicFilters ≠ [] ∧ s.subscription = none

/-- What holds at each point of the loop. -/
def Inv (s : MqttBackgroundService) : Prop :=
  match s.phase with
  | .loopHead | .delaying => s.isConnected = true → s.disconnectTcs = false → Unsubscribed s
  | .connecting => s.isConnected = false
  | .subscribing => Unsubscribed s
  | .replacing => s.stopping = false → s.isConnected = true ∧ Subscribed s
  | .beforeWait =>
    (s.disconnectTcs = true → s.isConnected = false)
      ∧ (s.disconnectTcs = false → s.stopping = false → s.isConnected = true ∧ Subscribed s)
  | .waiting => s.disconnectTcs = false → s.isConnected = true ∧ Subscribed s
  | .ended => True

variable {s : MqttBackgroundService}

/-- What the invariant is for: a connected service listens. -/
theorem Inv.listening (h : Inv s) : Listening s where
  waiting hphase := by
    simp only [Inv, hphase] at h
    exact h
  reached hphase := by
    simp only [Inv, hphase] at h
    exact h.1

/-- A new service is not connected. -/
theorem inv_new (options : MqttOptions) : Inv (.new options) := by
  show false = true → _
  simp

/-- A statement of the loop, unless it finds a connection at the head of the loop. -/
theorem inv_run (h : Inv s) (hattended : Attended s .run) : Inv s.run := by
  unfold Inv at h
  cases hphase : s.phase with
  | loopHead =>
    simp only [run, hphase]
    cases hstopping : s.stopping with
    | true => simp [Inv]
    | false =>
      cases hconnected : s.isConnected with
      | true => simp [hattended hphase hconnected] at hstopping
      | false => simp [Inv]
  | connecting => simpa [run, Inv, hphase] using h
  | subscribing => simpa [run, Inv, hphase] using h
  | replacing =>
    -- The new source is not completed, and the connection is the one that was subscribed.
    simpa [run, Inv, hphase, Subscribed] using h
  | beforeWait =>
    simp only [run, hphase] at h ⊢
    cases hsource : s.disconnectTcs with
    | true => simp [Inv]
    | false =>
      cases hstopping : s.stopping with
      | true => simp [Inv]
      | false => simpa [Inv, Subscribed] using h.2 hsource hstopping
  | waiting =>
    simp only [run, hphase] at h ⊢
    cases hsource : s.disconnectTcs with
    | true => simp [Inv]
    | false =>
      cases hstopping : s.stopping with
      | true => simp [Inv]
      | false => simpa [Inv, hphase, Subscribed] using h
  | delaying =>
    simp only [run, hphase] at h ⊢
    cases hstopping : s.stopping with
    | true => simp [Inv]
    | false => simpa [Inv, hphase] using h
  | ended => simp [run, Inv, hphase]

/-- An exception in `ConnectAsync` or `SubscribeAsync`: the connection stays as it is, without
its subscription. -/
theorem inv_onException (h : s.isConnected = true → Unsubscribed s) : Inv s.onException := by
  unfold onException
  split
  · intro hconnected _
    exact h hconnected
  · trivial

/-- A connection subscribes to the topics. -/
theorem inv_onConnected (s : MqttBackgroundService) : Inv s.onConnected := by
  unfold onConnected
  cases hfilters : decide (s.options.topicFilters = []) with
  | true => simp_all [Inv, Subscribed]
  | false => simp_all [Inv, Unsubscribed]

/-- With a completed source, the head of the loop and the waits ask for nothing. -/
theorem inv_of_completed (hsource : s.disconnectTcs = true)
    (hconnecting : s.phase = .connecting → s.isConnected = false)
    (hsubscribing : s.phase = .subscribing → Unsubscribed s)
    (hreplacing : s.phase = .replacing → s.stopping = false → s.isConnected = true ∧ Subscribed s)
    (hbeforeWait : s.phase = .beforeWait → s.isConnected = false) : Inv s := by
  unfold Inv
  cases hphase : s.phase with
  | connecting => exact hconnecting hphase
  | subscribing => exact hsubscribing hphase
  | replacing => exact hreplacing hphase
  | beforeWait =>
    show (s.disconnectTcs = true → s.isConnected = false)
      ∧ (s.disconnectTcs = false → s.stopping = false → s.isConnected = true ∧ Subscribed s)
    exact ⟨fun _ => hbeforeWait hphase, fun h => absurd (hsource.symm.trans h) (by decide)⟩
  | _ => simp [hsource]

/-- The connection is down, and the source is completed. Only between the subscription and the
new source is this wrong, since that source will not know. -/
theorem inv_disconnected (h : Inv s) (hattended : Attended s .disconnected) :
    Inv (s.step .disconnected) := by
  refine inv_of_completed rfl (fun _ => rfl) (fun hphase => ?_) (fun hphase hstopping => ?_)
    fun _ => rfl
  · replace hphase : s.phase = .subscribing := hphase
    have hunsubscribed : Unsubscribed s := by simpa [Inv, hphase] using h
    exact ⟨hunsubscribed.1, rfl⟩
  · exact absurd ((hattended hphase).symm.trans hstopping) (by decide)

/-- A late notification keeps the invariant, as long as the loop attends to it. -/
theorem inv_lateNotification (h : Inv s) (hattended : Attended s .lateNotification) :
    Inv (s.step .lateNotification) := by
  unfold Inv at h
  refine inv_of_completed rfl (fun hphase => ?_) (fun hphase => ?_) (fun hphase hstopping => ?_)
    hattended
  · replace hphase : s.phase = .connecting := hphase
    simp only [hphase] at h
    exact h
  · replace hphase : s.phase = .subscribing := hphase
    simp only [hphase] at h
    exact h
  · replace hphase : s.phase = .replacing := hphase
    simp only [hphase] at h
    exact h hstopping

/-- A stop keeps the invariant. -/
theorem inv_stop (h : Inv s) : Inv (s.step .stop) := by
  unfold Inv at h ⊢
  cases hphase : s.phase with
  | replacing => simp [step, hphase]
  | beforeWait =>
    simp only [hphase] at h
    simpa [step, hphase] using h.1
  | ended => simp [step, hphase]
  | _ => simpa [step, hphase, Unsubscribed, Subscribed] using h

/-- The step lemma. -/
theorem inv_step (s : MqttBackgroundService) (e : Event) (h : Inv s) (hattended : Attended s e) :
    Inv (s.step e) := by
  cases e with
  | run => exact inv_run h hattended
  | connectSucceeded =>
    simp only [step]
    split
    · exact inv_onConnected s
    · exact h
  | connectFailed =>
    simp only [step]
    split
    case isTrue hphase =>
      -- While it connects, the client is not connected.
      refine inv_onException fun hconnected => ?_
      simp [Inv, hphase, hconnected] at h
    case isFalse => exact h
  | subscribeSucceeded =>
    simp only [step]
    split
    case isTrue hsubscribing => simp [Inv, Subscribed, hsubscribing.2]
    case isFalse => exact h
  | subscribeFailed =>
    simp only [step]
    split
    case isTrue hphase =>
      -- The connection may stay up, and then it has no subscription.
      refine inv_onException fun _ => ?_
      simpa [Inv, hphase] using h
    case isFalse => exact h
  | delayElapsed =>
    simp only [step]
    split
    case isTrue hphase => simpa [Inv, hphase, Unsubscribed] using h
    case isFalse => exact h
  | disconnected => exact inv_disconnected h hattended
  | lateNotification => exact inv_lateNotification h hattended
  | stop => exact inv_stop h

/-! ### Every run -/

/-- **The MQTT loop never waits while deaf**, in every run in which no connection is lost between
its subscription and the new source, no connection is kept after a failed subscription, and no
late notification comes just before the wait. -/
theorem listening_of_attended (options : MqttOptions) (es : List Event)
    (h : StepsMeet step Attended (.new options) es) :
    ∀ pre, pre <+: es → Listening (pre.foldl step (.new options)) := by
  rintro pre ⟨post, rfl⟩
  exact (invariant_of_stepsMeet Inv inv_step pre _ (inv_new options) h.of_prefix).listening

/-- Attempts that fail, a connection, its loss, and the next connection. -/
theorem listening_of_attended_reconnects :
    Listening ([.run, .connectFailed, .delayElapsed, .run, .connectSucceeded, .subscribeSucceeded,
      .run, .run, .disconnected, .run, .run, .connectSucceeded, .disconnected, .subscribeFailed,
      .delayElapsed, .run, .connectSucceeded, .subscribeSucceeded, .run, .run].foldl step
        (.new {})) := by
  refine listening_of_attended {} _ ?_ _ List.prefix_rfl
  decide

/-- The subscription fails and the connection stays up: the loop then waits on it, without a
subscription. -/
theorem waits_without_subscription :
    ¬ Listening ([.run, .connectSucceeded, .subscribeFailed, .delayElapsed, .run, .run].foldl step
      (.new {})) := by
  intro h
  have hwaiting := h.waiting (by decide) (by decide)
  exact absurd (hwaiting.2 (by decide)) (by decide)

/-! ### Each condition is needed -/

/-- After a step that misses the condition, the loop by itself reaches a state that is not
`Listening`, within two statements. -/
theorem unattended_step (h : Inv s) (hstopping : s.stopping = false) {e : Event}
    (hmiss : ¬ Attended s e) :
    ¬ Listening (s.step e) ∨ ¬ Listening (s.step e).run ∨ ¬ Listening (s.step e).run.run := by
  unfold Inv at h
  cases e with
  | run =>
    simp only [Attended, hstopping, not_forall] at hmiss
    obtain ⟨hphase, hconnected, -⟩ := hmiss
    simp only [hphase] at h
    cases hsource : s.disconnectTcs with
    | true =>
      -- The loop spins: it meets the old source with the connection up.
      refine .inl fun hlistening => ?_
      have hreached := hlistening.reached (by simp [step, run, hphase, hstopping, hconnected])
      simp [step, run, hphase, hstopping, hconnected, hsource] at hreached
    | false =>
      -- The loop waits on a connection without its subscription.
      obtain ⟨htopics, hnone⟩ := h hconnected hsource
      refine .inr (.inl fun hlistening => ?_)
      have hwaiting := hlistening.waiting
        (by simp [step, run, hphase, hstopping, hconnected, hsource])
        (by simp [step, run, hphase, hstopping, hconnected, hsource])
      have hsubscribed := hwaiting.2
      simp [Subscribed, step, run, hphase, hstopping, hconnected, hsource, htopics, hnone]
        at hsubscribed
  | disconnected =>
    simp only [Attended, hstopping, not_forall] at hmiss
    obtain ⟨hphase, -⟩ := hmiss
    -- The new source is not completed, and the connection is gone.
    refine .inr (.inr fun hlistening => ?_)
    have hwaiting := hlistening.waiting
      (by simp [step, handleDisconnectedAsync, run, hphase, hstopping])
      (by simp [step, handleDisconnectedAsync, run, hphase, hstopping])
    have hconnected := hwaiting.1
    simp [step, handleDisconnectedAsync, run, hphase, hstopping] at hconnected
  | lateNotification =>
    simp only [Attended, not_forall] at hmiss
    obtain ⟨hphase, hconnected⟩ := hmiss
    refine .inl fun hlistening => ?_
    have hreached := hlistening.reached hphase rfl
    exact hconnected hreached
  | _ => exact absurd trivial hmiss

/-- The same for a run: the first step that misses the condition leads the loop into a wait in
which it is deaf, or to a source that a live connection finds completed. -/
theorem unattended_breaks (options : MqttOptions) (es : List Event) (e : Event)
    (h : StepsMeet step Attended (.new options) es)
    (hstopping : (es.foldl step (.new options)).stopping = false)
    (hmiss : ¬ Attended (es.foldl step (.new options)) e) :
    ∃ n, ¬ Listening ((es ++ e :: List.replicate n .run).foldl step (.new options)) := by
  have hinv := invariant_of_stepsMeet Inv inv_step es _ (inv_new options) h
  rcases unattended_step hinv hstopping hmiss with h0 | h1 | h2
  · exact ⟨0, by rw [List.foldl_append]; exact h0⟩
  · exact ⟨1, by rw [List.foldl_append]; exact h1⟩
  · exact ⟨2, by rw [List.foldl_append]; exact h2⟩

/-! ### The delays -/

/-- The delay is between one second and the larger of the two bounds of the options. -/
def Delayed (s : MqttBackgroundService) : Prop :=
  1 ≤ s.reconnectDelay ∧ s.reconnectDelay ≤ max s.options.initialDelay s.options.maxDelay

/-- A statement of the loop only sets the delay after a subscription. -/
theorem reconnectDelay_run (s : MqttBackgroundService) :
    s.run.reconnectDelay = s.reconnectDelay
      ∨ s.run.reconnectDelay = s.options.initialDelay := by
  unfold run
  split
  case h_2 => exact .inr rfl
  case h_6 => exact .inl rfl
  all_goals
    left
    repeat' (first | rfl | split)

/-- An exception leaves the delay of the next attempt. -/
theorem reconnectDelay_onException (s : MqttBackgroundService) :
    s.onException.reconnectDelay = s.reconnectDelay := by
  unfold onException
  split <;> rfl

/-- The delay of the options, or one that the step leaves. -/
theorem Delayed.of_step {s' : MqttBackgroundService} (h : Delayed s)
    (hoptions : s'.options = s.options)
    (hdelay : s'.reconnectDelay = s.reconnectDelay
      ∨ s'.reconnectDelay = s.options.initialDelay) : Delayed s' := by
  unfold Delayed
  rw [hoptions]
  cases hdelay with
  | inl hdelay =>
    rw [hdelay]
    exact h
  | inr hdelay =>
    rw [hdelay]
    exact ⟨Int.le_max_left 1 _, Int.le_max_left _ _⟩

/-- The delay of the next attempt stays in its bounds. -/
theorem delayed_step (s : MqttBackgroundService) (e : Event) (h : Delayed s) :
    Delayed (s.step e) := by
  cases e with
  | run => exact h.of_step (MqttBackgroundService.options_run s) (reconnectDelay_run s)
  | delayElapsed =>
    simp only [step]
    split
    -- The doubled delay is cut at the largest one, which is at least a second.
    · have hmax : 1 ≤ s.options.maxDelay := Int.le_max_left 1 _
      show 1 ≤ min (s.reconnectDelay * 2) s.options.maxDelay
        ∧ min (s.reconnectDelay * 2) s.options.maxDelay
          ≤ max s.options.initialDelay s.options.maxDelay
      have hlow := h.1
      omega
    · exact h
  | connectFailed =>
    simp only [step]
    split
    · exact h.of_step (MqttBackgroundService.options_onException s)
        (.inl (reconnectDelay_onException s))
    · exact h
  | subscribeFailed =>
    simp only [step]
    split
    · exact h.of_step (MqttBackgroundService.options_onException s)
        (.inl (reconnectDelay_onException s))
    · exact h
  | connectSucceeded => simp only [step]; split <;> exact h
  | subscribeSucceeded => simp only [step]; split <;> exact h
  | _ => exact h

/-- In every run, the loop never retries without a pause, and it retries at the latest after the
larger of the two delays. -/
theorem reconnectDelay_bounds (options : MqttOptions) (es : List Event) :
    1 ≤ (es.foldl step (.new options)).reconnectDelay
      ∧ (es.foldl step (.new options)).reconnectDelay
        ≤ max options.initialDelay options.maxDelay := by
  have hdelayed := foldl_invariant step Delayed delayed_step es (.new options)
    ⟨Int.le_max_left 1 _, Int.le_max_left _ _⟩
  have hoptions := foldl_invariant step (fun s => s.options = options)
    (fun s e h => (MqttBackgroundService.options_step s e).trans h) es (.new options) rfl
  unfold Delayed at hdelayed
  rwa [hoptions] at hdelayed

end CodeMaster.Proofs.Engine.MqttConnection
