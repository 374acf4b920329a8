import Mathlib.Algebra.GroupWithZero.Nat
import CodeMaster.Proofs.Engine.AutoLockView

/-!
# `CodeMaster.Proofs.Engine.LockingDeadline`: how long can a closed door stay unlocked?

`Prompt` is the invariant of a run on the clock. Each armed timer is due within one delay, and an
unlocked machine over a closed door has a timer armed or an attempt in flight. So, without further
reports, an attempt starts within one delay (`attempt_in_time`).

`answers` are the answers of a lock that fails some times and then succeeds, each answer after some
time of its own. `locked_after_failures` says when each attempt starts, and that the machine is
locked after the last answer.

The proofs are about views (`AutoLockView`), which leave out the lock state and the status. The
clock is in milliseconds and the delays in seconds. A timer that is due at the time of an input
expires before this input.

The machine is enabled and retries, and its delays are such that `CreateTimer` accepts them. Without
the retry a failed attempt would be the last one, and with a delay out of range the machine would be
left without a timer.
-/

set_option autoImplicit false

namespace CodeMaster.Proofs.Engine.LockingDeadline

open CodeMaster.Core CodeMaster.Engine AutoLockClock
open AutoLockStateMachine hiding receive
open AutoLock NoStall AutoLockView

/-- The longer one of the two delays, in milliseconds. -/
def deadline (c : Settings) : Int := max (delayOf c) c.retryDelaySeconds * 1000

section
variable {c : Settings} {v : View} {now later : Int}

/-- The countdown is at most the deadline. -/
theorem countdown_le_deadline (c : Settings) : delayOf c * 1000 ≤ deadline c := by
  unfold deadline
  omega

/-- The retry is at most the deadline. -/
theorem retry_le_deadline (c : Settings) : c.retryDelaySeconds * 1000 ≤ deadline c := by
  unfold deadline
  omega

/-- The delay of the countdown is supported by day and by night. -/
theorem supported_delayOf (hacc : AcceptsDelays c) : supportsDelay (delayOf c) = true := by
  unfold delayOf
  split
  · exact hacc.night
  · exact hacc.day

/-- A timer with a supported delay is due after this delay. -/
theorem dueAfter_of_supported {delay : Int} (h : supportsDelay delay = true) (now : Int) :
    dueAfter now delay = some (now + delay * 1000) := if_pos h

/-! ### The invariant -/

/-- What holds at the time: the timers are due within the deadline, and something drives an
unlocked machine over a closed door. -/
structure Prompt (c : Settings) (now : Int) (v : View) : Prop where
  countdown : ∀ due, v.countdownDue = some due → due ≤ now + deadline c
  retry : ∀ due, v.retryDue = some due → due ≤ now + deadline c
  driven : v.countsDown = true → v.contact = .closed →
    v.countdownDue.isSome = true ∨ v.retryDue.isSome = true ∨ 0 < v.attempts

/-- A timer that has expired has started an attempt. -/
theorem dueCount_of_filter {due : Option Int} (h : due.isSome = true) :
    (due.filter (later < ·)).isSome = true ∨ 0 < View.dueCount later due := by
  obtain ⟨x, rfl⟩ := Option.isSome_iff_exists.mp h
  rcases Int.lt_or_le later x with hlt | hle
  · exact Or.inl (by simp [hlt])
  · exact Or.inr (by simp [View.dueCount, hle])

/-- The time keeps the machine prompt: a timer that is due starts an attempt. -/
theorem Prompt.advanceTo (h : Prompt c now v) (later : Int) :
    Prompt c now (View.advanceTo later v) where
  countdown due hdue := h.countdown due (Option.filter_eq_some_iff.mp hdue).1
  retry due hdue := h.retry due (Option.filter_eq_some_iff.mp hdue).1
  driven := by
    intro hcounts hclosed
    have hlength := View.length_startsBy later v
    show (v.countdownDue.filter (later < ·)).isSome = true
      ∨ (v.retryDue.filter (later < ·)).isSome = true
      ∨ 0 < v.attempts + (View.startsBy later v).length
    rcases h.driven hcounts hclosed with hcountdown | hretry | hattempts
    · rcases dueCount_of_filter hcountdown with hleft | hstarted
      · exact Or.inl hleft
      · exact Or.inr (Or.inr (by omega))
    · rcases dueCount_of_filter hretry with hleft | hstarted
      · exact Or.inr (Or.inl hleft)
      · exact Or.inr (Or.inr (by omega))
    · exact Or.inr (Or.inr (by omega))

/-- A machine that is not unlocked, with no timer armed. -/
theorem prompt_of_none (hcounts : v.countsDown = false) (hcountdown : v.countdownDue = none)
    (hretry : v.retryDue = none) : Prompt c now v where
  countdown due hdue := by simp [hcountdown] at hdue
  retry due hdue := by simp [hretry] at hdue
  driven h := by simp [hcounts] at h

/-- The step lemma, for an arrival that is not after `later`. -/
theorem Prompt.handle (h : Prompt c later v) (hacc : AcceptsDelays c) (hon : StaysOn c)
    (hnow : now ≤ later) (a : Arrival) : Prompt c later (View.handle c now v a) := by
  have hcountdown := dueAfter_of_supported (supported_delayOf hacc) now
  have hretry := dueAfter_of_supported hacc.retry now
  have hcle := countdown_le_deadline c
  have hrle := retry_le_deadline c
  -- A timer that is armed now is due within the longer one of the two delays.
  have hcreated : ∀ due, dueAfter now (delayOf c) = some due → due ≤ later + deadline c := by
    intro due hdue
    rw [hcountdown] at hdue
    cases hdue
    omega
  have hretried : ∀ due, dueAfter now c.retryDelaySeconds = some due →
      due ≤ later + deadline c := by
    intro due hdue
    rw [hretry] at hdue
    cases hdue
    omega
  cases a with
  | report r =>
    cases r with
    | lock newState =>
      cases newState with
      | locked => exact prompt_of_none rfl rfl rfl
      | unlocked =>
        refine ⟨fun due hdue => ?_, fun _ hdue => (by cases hdue), fun _ hclosed => Or.inl ?_⟩
        · simp only [View.handle] at hdue
          split at hdue
          · cases hdue
          · exact hcreated due hdue
        · have hclosed : v.contact = .closed := hclosed
          simp [View.handle, hclosed, hcountdown]
      | jammed =>
        -- A jam drops the countdown and arms the retry timer.
        refine ⟨fun _ hdue => (by cases hdue), fun due hdue => ?_, fun h => (by cases h)⟩
        simp only [View.handle, hon.retryOnFailure, if_true] at hdue
        exact hretried due hdue
      | unknown => exact ⟨h.countdown, h.retry, fun h => (by cases h)⟩
    | contact newState =>
      -- A contact report touches the countdown only while the lock counts down.
      refine ⟨fun due hdue => ?_, h.retry, fun hcounts hclosed => Or.inl ?_⟩
      · simp only [View.handle] at hdue
        split at hdue
        · split at hdue
          · cases hdue
          · exact hcreated due hdue
        · exact h.countdown due hdue
      · have hcounts : v.countsDown = true := hcounts
        have hclosed : newState = .closed := hclosed
        simp [View.handle, hcounts, hclosed, hcountdown]
  | lockAnswered success =>
    simp only [View.handle, hon.retryOnFailure, if_true]
    split
    · exact h
    · cases success with
      | true => exact prompt_of_none rfl rfl rfl
      -- The failed attempt leaves its retry behind.
      | false => exact ⟨h.countdown, hretried, fun _ _ => Or.inr (Or.inl (by simp [hretry]))⟩

/-- The run lemma: the arrivals are not after `later`. -/
theorem Prompt.run (h : Prompt c later v) (hacc : AcceptsDelays c) (hon : StaysOn c)
    (inputs : List (Int × Arrival)) (hinputs : ∀ i ∈ inputs, i.1 ≤ later) :
    Prompt c later (inputs.foldl (View.receive c) v) := by
  induction inputs generalizing v with
  | nil => exact h
  | cons i inputs ih =>
    have hstep : Prompt c later (View.receive c v i) :=
      (h.advanceTo i.1).handle hacc hon (hinputs i List.mem_cons_self) i.2
    exact ih hstep fun j hj => hinputs j (List.mem_cons_of_mem i hj)

/-! ### The first attempt -/

/-- A timer that starts an attempt was armed, and is due. -/
theorem mem_startsBy {t : Int} (ht : t ∈ View.startsBy now v) :
    (v.countdownDue = some t ∨ v.retryDue = some t) ∧ t ≤ now := by
  obtain ⟨contact, countsDown, attempts, countdownDue, retryDue, starts⟩ := v
  rcases countdownDue with _ | x <;> rcases retryDue with _ | y <;>
    simp only [View.startsBy, Option.filter] at ht <;> grind

/-- With no attempt in flight and nothing but answers, a timer that is due by `later` starts the
next attempt. The induction is on the answers: each finds the view as it is, or the attempt
started. -/
theorem starts_by (hattempts : v.attempts = 0) (hadvanced : v.Advanced now) {due : Int}
    (hdue : v.countdownDue = some due ∨ v.retryDue = some due) (hle : due ≤ later)
    (more : List (Int × Arrival))
    (hmore : ∀ i ∈ more, i.1 ≤ later ∧ ∃ success, i.2 = .lockAnswered success) :
    ∃ t, now < t ∧ t ≤ later ∧ v.starts ++ [t] <+: View.startsUntil c later v more := by
  -- An expiry by a time up to `later` starts the attempt.
  have hexpiry : ∀ time, time ≤ later → View.startsBy time v ≠ [] →
      ∃ t, now < t ∧ t ≤ later ∧ v.starts ++ [t] <+: (View.advanceTo time v).starts := by
    intro time htime hstarts
    obtain ⟨t, ts, hts⟩ := List.exists_cons_of_ne_nil hstarts
    obtain ⟨harmed, ht⟩ := mem_startsBy (hts ▸ List.mem_cons_self : t ∈ View.startsBy time v)
    refine ⟨t, harmed.elim (hadvanced.1 t) (hadvanced.2 t), Int.le_trans ht htime, ts, ?_⟩
    show v.starts ++ [t] ++ ts = v.starts ++ View.startsBy time v
    rw [hts, List.append_assoc, List.singleton_append]
  induction more with
  | nil =>
    refine hexpiry later (Int.le_refl later) fun hnone => ?_
    have hlength := View.length_startsBy later v
    rw [hnone, List.length_nil] at hlength
    have hcount : View.dueCount later (some due) = 1 := by
      simp [View.dueCount, hle]
    rcases hdue with hdue | hdue
    · rw [hdue, hcount] at hlength
      omega
    · rw [hdue, hcount] at hlength
      omega
  | cons i more ih =>
    obtain ⟨hi, success, hanswer⟩ := hmore i List.mem_cons_self
    by_cases hnone : View.startsBy i.1 v = []
    · -- The answer is to no attempt.
      have hsame : View.receive c v i = v := by
        rw [View.receive, View.advanceTo_of_starts (List.append_right_eq_self.mpr hnone), hanswer]
        exact if_pos hattempts
      have hrest := ih fun j hj => hmore j (List.mem_cons_of_mem i hj)
      rwa [View.startsUntil, List.foldl_cons, hsame]
    · obtain ⟨t, hlt, ht, hfirst⟩ := hexpiry i.1 hi hnone
      refine ⟨t, hlt, ht, hfirst.trans ?_⟩
      have hkept : (View.advanceTo i.1 v).starts = (View.receive c v i).starts :=
        (View.starts_handle c i.1 _ i.2).symm
      rw [hkept]
      exact (View.starts_run c _ more).trans (List.prefix_append ..)

/-! ### Repeated attempts -/

/-- The answers to an attempt that starts at `start` and to its repetitions: the attempts fail after
the `failures`, and the last one succeeds after `success` milliseconds. -/
def answers (c : Settings) (start : Int) (success : Nat) : List Nat → List (Int × Arrival)
  | [] => [(start + success, .lockAnswered true)]
  | failure :: failures =>
    (start + failure, .lockAnswered false)
      :: answers c (start + failure + c.retryDelaySeconds * 1000) success failures

/-- The start times of these attempts. -/
def startTimes (c : Settings) (start : Int) : List Nat → List Int
  | [] => [start]
  | failure :: failures =>
    start :: startTimes c (start + failure + c.retryDelaySeconds * 1000) failures

/-- The last attempt starts after all failures and as many retry delays. -/
theorem getLast?_startTimes (c : Settings) (start : Int) (failures : List Nat) :
    (startTimes c start failures).getLast?
      = some (start + failures.sum + failures.length * (c.retryDelaySeconds * 1000)) := by
  induction failures generalizing start with
  | nil => simp [startTimes]
  | cons failure failures ih =>
    have hne : startTimes c (start + failure + c.retryDelaySeconds * 1000) failures ≠ [] := by
      cases failures <;> exact List.cons_ne_nil _ _
    rw [startTimes, List.getLast?_cons_of_ne_nil hne, ih, List.sum_cons, List.length_cons,
      Int.natCast_succ, Int.add_mul, Int.one_mul]
    congr 1
    omega

/-- Exactly one timer is armed, and no attempt is in flight. -/
structure Awaits (start : Int) (v : View) : Prop where
  attempts : v.attempts = 0
  timer : v.countdownDue = some start ∧ v.retryDue = none
    ∨ v.countdownDue = none ∧ v.retryDue = some start

/-- The awaited attempt starts, and leaves no timer. -/
theorem Awaits.advanceTo {start : Int} (h : Awaits start v) (hle : start ≤ now) :
    View.advanceTo now v
      = { v with
          attempts := 1, countdownDue := none, retryDue := none, starts := v.starts ++ [start] } := by
  obtain ⟨hattempts, ⟨hcountdown, hretry⟩ | ⟨hcountdown, hretry⟩⟩ := h <;>
    · unfold View.advanceTo View.startsBy
      rw [hcountdown, hretry, (filter_le_of_le hle).1]
      simp [hattempts, hle]

/-- A failed attempt arms the retry, and nothing else. -/
theorem Awaits.failed {start : Int} (hacc : AcceptsDelays c) (hon : StaysOn c) (h : Awaits start v)
    (failure : Nat) :
    View.receive c v (start + failure, .lockAnswered false)
      = { v with
          attempts := 0, countdownDue := none
          retryDue := some (start + failure + c.retryDelaySeconds * 1000)
          starts := v.starts ++ [start] } := by
  have hstarted := h.advanceTo (Int.le_add_of_nonneg_right (Int.natCast_nonneg failure))
  show View.handle c _ (View.advanceTo (start + failure) v) (.lockAnswered false) = _
  rw [hstarted]
  simp [View.handle, hon.retryOnFailure, dueAfter_of_supported hacc.retry]

/-- After a failed answer the machine awaits the retry. -/
theorem Awaits.next {start : Int} (hacc : AcceptsDelays c) (hon : StaysOn c) (h : Awaits start v)
    (failure : Nat) :
    Awaits (start + failure + c.retryDelaySeconds * 1000)
      (View.receive c v (start + failure, .lockAnswered false)) := by
  rw [h.failed hacc hon]
  exact ⟨rfl, Or.inr ⟨rfl, rfl⟩⟩

/-- The run of the answers. The induction is on the failures: each arms the retry that starts the
next attempt. -/
theorem run_answers {start : Int} (hacc : AcceptsDelays c) (hon : StaysOn c) (h : Awaits start v)
    (success : Nat) (failures : List Nat) :
    (answers c start success failures).foldl (View.receive c) v
      = { v with
          countsDown := false, attempts := 0, countdownDue := none, retryDue := none
          starts := v.starts ++ startTimes c start failures } := by
  induction failures generalizing start v with
  | nil =>
    have hstarted := h.advanceTo (Int.le_add_of_nonneg_right (Int.natCast_nonneg success))
    show View.handle c _ (View.advanceTo (start + success) v) (.lockAnswered true) = _
    rw [hstarted]
    rfl
  | cons failure failures ih =>
    rw [answers, List.foldl_cons, ih (h.next hacc hon failure), h.failed hacc hon]
    simp [startTimes]

end

/-! ### The machine on the clock -/

section
variable {c : Settings} {s : AutoLockClock}

/-- A new machine with the configuration. -/
def create (c : Settings) : AutoLockClock where
  machine := ({} : AutoLockStateMachine).set c

/-- A new machine has its settings. -/
theorem configured_create (hon : StaysOn c) : Configured c (create c) where
  settings := rfl
  isEnabled := hon.isEnabled
  supported _ := rfl

/-- A new machine is prompt: the lock is locked. -/
theorem prompt_create (c : Settings) (now : Int) : Prompt c now (view (create c)) :=
  prompt_of_none rfl rfl rfl

/-- **A closed door does not stay unlocked for long**: take any run of reports and answers up to the
time `now`, after which the machine is unlocked over a closed door and no attempt is in flight.
Then, unless there is a report, an attempt starts within the longer one of the two delays. -/
theorem attempt_in_time (hacc : AcceptsDelays c) (hon : StaysOn c) {now : Int}
    (inputs more : List (Int × Arrival)) (hinputs : ∀ i ∈ inputs, i.1 ≤ now)
    (hmore : ∀ i ∈ more, i.1 ≤ now + deadline c ∧ ∃ success, i.2 = .lockAnswered success)
    (hs : s = advanceTo now (inputs.foldl receive (create c)))
    (hunlocked : s.machine.lockState = .unlocked) (hclosed : s.machine.doorContactState = .closed)
    (hnone : s.machine.attempts = 0) :
    ∃ t, now < t ∧ t ≤ now + deadline c
      ∧ s.starts ++ [t] <+: startsUntil (now + deadline c) s more := by
  subst hs
  obtain ⟨hconfigured, hview⟩ := view_run (configured_create hon) inputs
  have hconfigured := hconfigured.advanceTo now
  have hrun : Prompt c now (inputs.foldl (View.receive c) (view (create c))) :=
    (prompt_create c now).run hacc hon inputs hinputs
  generalize inputs.foldl receive (create c) = s at *
  rw [← hview] at hrun
  have hprompt : Prompt c now (view (advanceTo now s)) := by
    rw [view_advanceTo]
    exact hrun.advanceTo now
  have hadvanced : (view (advanceTo now s)).Advanced now := by
    rw [view_advanceTo]
    exact View.advanced_advanceTo now _
  have hcounts : (view (advanceTo now s)).countsDown = true := by
    show (decide ((advanceTo now s).machine.lockState = .unlocked)
      && supportsDelay (advanceTo now s).machine.lockDelay) = true
    rw [hunlocked, hconfigured.lockDelay, supported_delayOf hacc]
    rfl
  rw [startsUntil_eq hconfigured]
  rcases hprompt.driven hcounts hclosed with hcountdown | hretry | hattempts
  · obtain ⟨due, hdue⟩ := Option.isSome_iff_exists.mp hcountdown
    exact starts_by hnone hadvanced (Or.inl hdue) (hprompt.countdown due hdue) more hmore
  · obtain ⟨due, hdue⟩ := Option.isSome_iff_exists.mp hretry
    exact starts_by hnone hadvanced (Or.inr hdue) (hprompt.retry due hdue) more hmore
  · have hnone : (view (advanceTo now s)).attempts = 0 := hnone
    omega

/-- An answer of success to an attempt in flight locks the machine. -/
theorem step_success {m : AutoLockStateMachine} (h : m.attempts ≠ 0) :
    (m.step (.lockAttemptEnded true)).lockState = .locked
      ∧ (m.step (.lockAttemptEnded true)).status = .locked := by
  have henabled : m.enabled (.lockAttemptEnded true) = true := by
    simp [enabled]
    omega
  rw [step_of_enabled henabled]
  show (AutoLockMethods.after (endLockAttempt true) m).lockState = _
    ∧ (AutoLockMethods.after (endLockAttempt true) m).status = _
  rw [AutoLockMethods.after_endLockAttempt]
  exact ⟨rfl, rfl⟩

/-- What the machine itself says after the answers: it is locked. -/
theorem locked_run_answers {start : Int} (hacc : AcceptsDelays c) (hon : StaysOn c)
    (h : Configured c s) (hawaits : Awaits start (view s)) (success : Nat) (failures : List Nat) :
    ((answers c start success failures).foldl receive s).machine.lockState = .locked
      ∧ ((answers c start success failures).foldl receive s).machine.status = .locked := by
  induction failures generalizing start s with
  | nil =>
    have hstarted := hawaits.advanceTo (Int.le_add_of_nonneg_right (Int.natCast_nonneg success))
    rw [← view_advanceTo] at hstarted
    have hattempts : (advanceTo (start + success) s).machine.attempts = 1 :=
      congrArg View.attempts hstarted
    refine step_success ?_
    rw [hattempts]
    exact Nat.one_ne_zero
  | cons failure failures ih =>
    obtain ⟨hconfigured, hview⟩ := view_run h [(start + failure, .lockAnswered false)]
    refine ih hconfigured ?_
    have hnext := hawaits.next hacc hon failure
    exact hview.symm ▸ hnext

/-- **Failures only postpone the locking**: take any run after which exactly one timer is armed,
which is due at `start`, and no attempt is in flight. Let each attempt fail, after any time that the
lock takes, until one succeeds. Then an attempt starts at `start` and one retry delay after each
failure, and no other, and after the success the machine is locked and at rest. The last attempt
starts after all failures and as many retry delays. -/
theorem locked_after_failures (hacc : AcceptsDelays c) (hon : StaysOn c) {start : Int}
    (inputs : List (Int × Arrival)) (hs : s = inputs.foldl receive (create c))
    (hnone : s.machine.attempts = 0)
    (htimer : s.countdownDue = some start ∧ s.retryDue = none
      ∨ s.countdownDue = none ∧ s.retryDue = some start)
    (success : Nat) (failures : List Nat) :
    let s' := (answers c start success failures).foldl receive s
    s'.starts = s.starts ++ startTimes c start failures
      ∧ s'.starts.getLast?
        = some (start + failures.sum + failures.length * (c.retryDelaySeconds * 1000))
      ∧ s'.machine.lockState = .locked ∧ s'.machine.status = .locked
      ∧ s'.machine.attempts = 0 ∧ s'.countdownDue = none ∧ s'.retryDue = none := by
  subst hs
  have hconfigured := (view_run (configured_create hon) inputs).1
  have hawaits : Awaits start (view (inputs.foldl receive (create c))) := ⟨hnone, htimer⟩
  have hview := (view_run hconfigured (answers c start success failures)).2
  rw [run_answers hacc hon hawaits] at hview
  obtain ⟨hlock, hstatus⟩ := locked_run_answers hacc hon hconfigured hawaits success failures
  have hstarts := congrArg View.starts hview
  refine ⟨hstarts, ?_, hlock, hstatus, congrArg View.attempts hview,
    congrArg View.countdownDue hview, congrArg View.retryDue hview⟩
  have hlast := getLast?_startTimes c start failures
  exact (congrArg List.getLast? hstarts).trans (by rw [List.getLast?_append, hlast, Option.some_or])

end

/-! ### A door that is unlocked at noon -/

/-- A minute to lock, and a quarter of one to try again. -/
def minute : Settings where
  isEnabled := true
  daySeconds := 60
  nightSeconds := 60
  retryOnFailure := true
  retryDelaySeconds := 15
  isNight := false

/-- The machine of the sample is unlocked at the time 0, and the first attempt starts within the
deadline. -/
theorem attempt_in_time_sample :
    ∃ t, (0 : Int) < t ∧ t ≤ 0 + deadline minute
      ∧ (advanceTo 0 ([(0, .report (.lock .unlocked))].foldl receive (create minute))).starts
          ++ [t] <+: startsUntil (0 + deadline minute)
            (advanceTo 0 ([(0, .report (.lock .unlocked))].foldl receive (create minute))) [] :=
  attempt_in_time ⟨by decide, by decide, by decide⟩ ⟨rfl, rfl⟩ _ _ (by decide) (by simp) rfl
    (by decide) (by decide) (by decide)

/-- The machine of the sample locks after failures. -/
theorem locked_after_failures_sample :
    let s := [(0, Arrival.report (.lock .unlocked))].foldl receive (create minute)
    let s' := (answers minute 60000 300 [200, 450]).foldl receive s
    s'.starts = s.starts ++ startTimes minute 60000 [200, 450]
      ∧ s'.starts.getLast? = some (60000 + ([200, 450] : List Nat).sum
        + ([200, 450] : List Nat).length * (minute.retryDelaySeconds * 1000))
      ∧ s'.machine.lockState = .locked ∧ s'.machine.status = .locked
      ∧ s'.machine.attempts = 0 ∧ s'.countdownDue = none ∧ s'.retryDue = none :=
  locked_after_failures ⟨by decide, by decide, by decide⟩ ⟨rfl, rfl⟩ _ rfl (by decide)
    (Or.inl (by decide)) 300 [200, 450]

end CodeMaster.Proofs.Engine.LockingDeadline
