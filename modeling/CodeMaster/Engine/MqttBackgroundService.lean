import CodeMaster.Core.Text
import CodeMaster.Engine.AutoLockStateMachine

/-!
# `CodeMaster.Engine.MqttBackgroundService`: the loop that keeps the broker connection

The part of `MqttClientService` that runs in the background. `ExecuteAsync` connects, subscribes,
and waits on `_disconnectTcs` until the handler of `DisconnectedAsync` completes it. A `Phase` is
the point between two steps of the loop at which the client or the handler can act. An `Event` is
a step of the loop, an answer of the client, or a notification. An event that cannot happen in the
present phase changes nothing.

The client is a parameter. It is described by its answers to `ConnectAsync` and `SubscribeAsync`,
and a subscription can only succeed on a connection that is up. Messages and logging are left out.
-/

set_option autoImplicit false

namespace CodeMaster.Engine

open CodeMaster.Core

/-- The options that the loop reads. -/
structure MqttOptions where
  subscribedTopics : List String := ["zwave/#", "ring/#", "zigbee2mqtt/#", "homeassistant/#"]
  initialReconnectDelaySeconds : Int := 1
  maxReconnectDelaySeconds : Int := 30
  deriving DecidableEq, Repr

namespace MqttOptions

/-- The filters that `SubscribeToTopicsAsync` builds: the topics that are not blank. -/
def topicFilters (options : MqttOptions) : List String :=
  options.subscribedTopics.filter fun topic => !isNullOrWhiteSpace (some topic)

/-- The delay before the first attempt to connect again. -/
def initialDelay (options : MqttOptions) : Int := max 1 options.initialReconnectDelaySeconds

/-- The longest delay before an attempt. -/
def maxDelay (options : MqttOptions) : Int := max 1 options.maxReconnectDelaySeconds

end MqttOptions

/-- Where `ExecuteAsync` is. -/
inductive MqttBackgroundService.Phase where
  /-- Before the test of the stopping token and of `IsConnected`. -/
  | loopHead
  /-- In `ConnectAsync`. -/
  | connecting
  /-- In `SubscribeAsync`. -/
  | subscribing
  /-- `SubscribeToTopicsAsync` has returned, and `_disconnectTcs` is not yet replaced. -/
  | replacing
  /-- Before `_disconnectTcs.Task.WaitAsync`. -/
  | beforeWait
  /-- Suspended in that wait. -/
  | waiting
  /-- In `Task.Delay`. -/
  | delaying
  /-- The loop has ended. -/
  | ended
  deriving DecidableEq, Repr

/-- The service, with the state of its client. -/
structure MqttBackgroundService where
  options : MqttOptions
  phase : MqttBackgroundService.Phase := .loopHead
  isConnected : Bool := false
  /-- The filters with which `SubscribeAsync` succeeded on the present connection. -/
  subscription : Option (List String) := none
  /-- `_disconnectTcs` is completed. -/
  disconnectTcs : Bool := false
  reconnectDelay : Int
  /-- The stopping token is canceled. -/
  stopping : Bool := false
  deriving DecidableEq, Repr

namespace MqttBackgroundService

/-- What can happen next. -/
inductive Event where
  /-- The loop executes its next statement, or resumes when its wait is over. -/
  | run
  | connectSucceeded
  | connectFailed
  | subscribeSucceeded
  | subscribeFailed
  | delayElapsed
  /-- The connection is lost, or an attempt to connect is given up, and the handler runs. -/
  | disconnected
  /-- The handler runs for a disconnect from before the present connection. -/
  | lateNotification
  | stop
  deriving DecidableEq, Repr

/-- The service when `ExecuteAsync` starts. -/
def new (options : MqttOptions) : MqttBackgroundService :=
  { options, reconnectDelay := options.initialDelay }

/-- A statement of the loop. -/
def run (s : MqttBackgroundService) : MqttBackgroundService :=
  match s.phase with
  | .loopHead =>
    if s.stopping then { s with phase := .ended }
    -- A connection that is up is not subscribed again.
    else if s.isConnected then { s with phase := .beforeWait }
    else { s with phase := .connecting }
  | .replacing =>
    -- The new source is not completed, also when the connection is already lost.
    { s with
      reconnectDelay := s.options.initialDelay
      disconnectTcs := false
      phase := .beforeWait }
  | .beforeWait =>
    -- The wait on a completed source returns at once.
    if s.disconnectTcs then { s with phase := .loopHead }
    else if s.stopping then { s with phase := .ended }
    else { s with phase := .waiting }
  | .waiting =>
    if s.disconnectTcs then { s with phase := .loopHead }
    else if s.stopping then { s with phase := .ended }
    else s
  | .delaying => if s.stopping then { s with phase := .ended } else s
  | _ => s

/-- The `catch` blocks. With a canceled token, and with a delay that `Task.Delay` does not
support, the loop ends. -/
def onException (s : MqttBackgroundService) : MqttBackgroundService :=
  if s.stopping = false ∧ AutoLockStateMachine.supportsDelay s.reconnectDelay = true then
    { s with phase := .delaying }
  else { s with phase := .ended }

/-- `ConnectAsync` returns. With no filter, `SubscribeToTopicsAsync` returns at once. -/
def onConnected (s : MqttBackgroundService) : MqttBackgroundService :=
  { s with
    isConnected := true
    subscription := none
    phase := if s.options.topicFilters = [] then .replacing else .subscribing }

/-- `HandleDisconnectedAsync`. -/
def handleDisconnectedAsync (s : MqttBackgroundService) : MqttBackgroundService :=
  { s with disconnectTcs := true }

/-- One event. -/
def step (s : MqttBackgroundService) : Event → MqttBackgroundService
  | .run => s.run
  | .connectSucceeded => if s.phase = .connecting then s.onConnected else s
  | .connectFailed => if s.phase = .connecting then s.onException else s
  | .subscribeSucceeded =>
    if s.phase = .subscribing ∧ s.isConnected = true then
      { s with subscription := some s.options.topicFilters, phase := .replacing }
    else s
  | .subscribeFailed => if s.phase = .subscribing then s.onException else s
  | .delayElapsed =>
    if s.phase = .delaying then
      { s with
        reconnectDelay := min (s.reconnectDelay * 2) s.options.maxDelay
        phase := .loopHead }
    else s
  | .disconnected => { s with isConnected := false, subscription := none }.handleDisconnectedAsync
  | .lateNotification => s.handleDisconnectedAsync
  | .stop => { s with stopping := true }

/-- The loop does not change the options. -/
@[simp] theorem options_run (s : MqttBackgroundService) : s.run.options = s.options := by
  unfold run
  repeat' (first | rfl | split)

/-- An exception does not change the options. -/
@[simp] theorem options_onException (s : MqttBackgroundService) :
    s.onException.options = s.options := by
  unfold onException
  split <;> rfl

/-- No event changes the options. -/
@[simp] theorem options_step (s : MqttBackgroundService) (e : Event) :
    (s.step e).options = s.options := by
  cases e with
  | run => exact options_run s
  | connectSucceeded => simp only [step]; split <;> rfl
  | connectFailed => simp only [step]; split <;> simp
  | subscribeSucceeded => simp only [step]; split <;> rfl
  | subscribeFailed => simp only [step]; split <;> simp
  | delayElapsed => simp only [step]; split <;> rfl
  | disconnected => rfl
  | lateNotification => rfl
  | stop => rfl

end MqttBackgroundService

end CodeMaster.Engine
