import CodeMaster.Engine.AutoLockStateMachine

/-!
# `CodeMaster.Engine.AutoLockClock`: the auto-lock machine on a clock

`AutoLockStateMachine` leaves open when a timer expires. Here every input has a time, and a timer
expires when its delay has passed since it was created. Times are in milliseconds. A timer that is
due when an input comes in has expired before the input is handled.

The inputs are the reports of the lock and of the contact, and the answers of the lock to the
attempts that are in flight. `starts` are the times at which lock attempts have started.
-/

set_option autoImplicit false

namespace CodeMaster.Engine

open CodeMaster.Core

/-- A status report. -/
inductive Report where
  | lock (newState : LockState)
  | contact (newState : DoorContactState)
  deriving DecidableEq, Repr

/-- What comes in from outside: a report, or the answer to a lock attempt. -/
inductive Arrival where
  | report (r : Report)
  | lockAnswered (success : Bool)
  deriving DecidableEq, Repr

namespace Arrival

open AutoLockStateMachine

/-- The event of the machine that an arrival is. -/
def event : Arrival → Event
  | .report (.lock newState) => .lockStateChanged newState
  | .report (.contact newState) => .doorContactChanged newState
  | .lockAnswered success => .lockAttemptEnded success

end Arrival

/-- The machine, the times at which its timers were created, and the times at which it has started
lock attempts. -/
structure AutoLockClock where
  machine : AutoLockStateMachine
  countdownFrom : Int := 0
  retryFrom : Int := 0
  starts : List Int := []
  deriving DecidableEq, Repr

namespace AutoLockClock

open AutoLockStateMachine

/-- When the countdown expires, if it is armed. -/
def countdownDue (s : AutoLockClock) : Option Int :=
  s.machine.countdownTimer.map fun delay => s.countdownFrom + delay * 1000

/-- When the retry expires, if it is armed. -/
def retryDue (s : AutoLockClock) : Option Int :=
  s.machine.retryTimer.map fun delay => s.retryFrom + delay * 1000

/-- The machine after an input that finds no timer armed. No handler reads the timers, so the
timers of this machine are those that the handler creates. -/
def created (m : AutoLockStateMachine) (e : Event) : AutoLockStateMachine :=
  { m with countdownTimer := none, retryTimer := none }.step e

/-- Handle an input at the time. -/
def handleAt (now : Int) (s : AutoLockClock) (a : Arrival) : AutoLockClock :=
  { s with
    machine := s.machine.step a.event
    countdownFrom :=
      if (created s.machine a.event).countdownTimer.isSome then now else s.countdownFrom
    retryFrom := if (created s.machine a.event).retryTimer.isSome then now else s.retryFrom }

/-- The expiry of a timer, which starts an attempt. -/
def expire (s : AutoLockClock) (expiry : Int × Event) : AutoLockClock :=
  { s with
    machine := s.machine.step expiry.2
    starts := s.starts ++ [expiry.1] }

/-- The timers that are due by the time, in their order. An expiry creates no timer. -/
def expiries (now : Int) (s : AutoLockClock) : List (Int × Event) :=
  match s.countdownDue.filter (· ≤ now), s.retryDue.filter (· ≤ now) with
  | none, none => []
  | some c, none => [(c, .countdownExpired)]
  | none, some r => [(r, .retryExpired)]
  | some c, some r =>
    if c ≤ r then [(c, .countdownExpired), (r, .retryExpired)]
    else [(r, .retryExpired), (c, .countdownExpired)]

/-- Let the time pass. -/
def advanceTo (now : Int) (s : AutoLockClock) : AutoLockClock := (expiries now s).foldl expire s

/-- An input at its time. -/
def receive (s : AutoLockClock) (input : Int × Arrival) : AutoLockClock :=
  handleAt input.1 (advanceTo input.1 s) input.2

/-- The start times up to the time, in a run from the machine. -/
def startsUntil (now : Int) (s : AutoLockClock) (inputs : List (Int × Arrival)) : List Int :=
  (advanceTo now (inputs.foldl receive s)).starts

end AutoLockClock

end CodeMaster.Engine
