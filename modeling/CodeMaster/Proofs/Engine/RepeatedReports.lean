import CodeMaster.Proofs.Engine.AutoLockView

/-!
# `CodeMaster.Proofs.Engine.RepeatedReports`: what a repeated report does to the timers

A report that repeats the last one of its kind, with no start in between, can be left out of every
run if and only if it leaves the view of the machine (`unseen_iff`). `Settled` is what the earlier
report leaves until then. When the repetition changes the view, one of three continuations shows
the difference: no further report, the door opening, or the door closing.

The comparison is between two runs, one with the report and one without it, from the same view on.
The proof of the exact form looks at the three kinds of reports and finds for each difference of the
views a continuation in which the starts differ.
-/

set_option autoImplicit false

namespace CodeMaster.Proofs.Engine.RepeatedReports

open CodeMaster.Core CodeMaster.Engine AutoLockStateMachine AutoLockClock Exec
open AutoLock AutoLockView

/-! ### Between a report and its repetition -/

/-- Are both reports of the lock, or both of the contact? -/
def sameKind : Report → Arrival → Bool
  | .lock _, .report (.lock _) => true
  | .contact _, .report (.contact _) => true
  | _, _ => false

/-- What a report leaves until the next report of its kind, while no attempt starts. -/
def Settled (c : Settings) (v : View) : Report → Prop
  | .lock .locked => v.countdownDue = none ∧ v.countsDown = false
  | .lock .unlocked => (v.countsDown = false → v.countdownDue = none)
      ∧ (v.contact = .open → v.countdownDue = none)
  | .lock .jammed => v.countdownDue = none ∧ v.countsDown = false
      ∧ (c.retryOnFailure = false ∨ supportsDelay c.retryDelaySeconds = false → v.retryDue = none)
  | .lock .unknown => v.countsDown = false
  | .contact .open => v.contact = .open ∧ (v.countsDown = true → v.countdownDue = none)
  | .contact .closed => v.contact = .closed

section
variable {c : Settings} {v : View} {now : Int} {r : Report}

/-- A timer with a delay that is not supported is never due. -/
theorem dueAfter_eq_none {delay : Int} (h : supportsDelay delay = false) :
    dueAfter now delay = none := if_neg (by simp [h])

/-- After a report, the machine is settled with it. -/
theorem settled_report (c : Settings) (v : View) (now : Int) (r : Report) :
    Settled c (View.handle c now v (.report r)) r := by
  cases r with
  | lock newState =>
    cases newState with
    | locked => exact ⟨rfl, rfl⟩
    | unlocked =>
      refine ⟨fun h => ?_, fun h => if_pos h⟩
      show (if v.contact = .open then none else dueAfter now (delayOf c)) = none
      rw [dueAfter_eq_none h, ite_self]
    | jammed =>
      refine ⟨rfl, rfl, fun h => ?_⟩
      show (if c.retryOnFailure then dueAfter now c.retryDelaySeconds else none) = none
      rcases h with h | h
      · rw [h]
        rfl
      · rw [dueAfter_eq_none h, ite_self]
    | unknown => rfl
  | contact newState =>
    cases newState with
    | closed => rfl
    | «open» =>
      refine ⟨rfl, fun h => ?_⟩
      have hcounts : v.countsDown = true := h
      show (if v.countsDown then if DoorContactState.open = .open then none
        else dueAfter now (delayOf c) else v.countdownDue) = none
      rw [if_pos hcounts, if_pos rfl]

/-- Reports of the other kind, and answers, keep it. -/
theorem Settled.handle (h : Settled c v r) {a : Arrival} (ha : sameKind r a = false) (now : Int) :
    Settled c (View.handle c now v a) r := by
  have hretry : c.retryOnFailure = false ∨ supportsDelay c.retryDelaySeconds = false →
      (if c.retryOnFailure then dueAfter now c.retryDelaySeconds else none) = none := by
    rintro (h | h)
    · rw [h]
      rfl
    · rw [dueAfter_eq_none h, ite_self]
  cases a with
  | report r' =>
    cases r with
    | lock newState =>
      cases r' with
      | lock newState' => cases ha
      | contact newState' => cases newState <;> cases newState' <;> grind [Settled, View.handle]
    | contact newState =>
      cases r' with
      | lock newState' => cases newState <;> cases newState' <;> grind [Settled, View.handle]
      | contact newState' => cases ha
  | lockAnswered success =>
    cases r with
    | lock newState => cases newState <;> cases success <;> grind [Settled, View.handle]
    | contact newState => cases newState <;> cases success <;> grind [Settled, View.handle]

/-- The arrivals between the report and its repetition keep it, while no attempt starts. -/
theorem Settled.run (h : Settled c v r) {mid : List (Int × Arrival)}
    (hmid : ∀ i ∈ mid, sameKind r i.2 = false)
    (hstarts : (mid.foldl (View.receive c) v).starts = v.starts) :
    Settled c (mid.foldl (View.receive c) v) r := by
  induction mid generalizing v with
  | nil => exact h
  | cons i mid ih =>
    -- The starts only grow, so the first arrival finds the view without new starts.
    have hfirst : (View.receive c v i).starts = v.starts := by
      have hrest := (View.starts_run c (View.receive c v i) mid).length_le
      have hgrow := View.starts_receive c v i
      have hlength := congrArg List.length hstarts
      exact (hgrow.eq_of_length_le (by rw [← hlength]; exact hrest)).symm
    have hsame : View.advanceTo i.1 v = v := by
      refine View.advanceTo_of_starts ?_
      rw [← hfirst, View.receive, View.starts_handle]
    have hreceive : View.receive c v i = View.handle c i.1 v i.2 := by
      rw [View.receive, hsame]
    refine ih ?_ (fun j hj => hmid j (List.mem_cons_of_mem _ hj)) (hstarts.trans hfirst.symm)
    rw [hreceive]
    exact h.handle (hmid i List.mem_cons_self) i.1

/-! ### Continuations that show the difference -/

/-- The continuation and the end of the clock follow the time. -/
def Follows (now : Int) (post : List (Int × Arrival)) (later : Int) : Prop :=
  (now :: (post.map Prod.fst ++ [later])).Pairwise (· ≤ ·)

/-- Every continuation starts attempts at the same times from both views. -/
def SameStarts (c : Settings) (now : Int) (v w : View) : Prop :=
  ∀ post later, Follows now post later →
    View.startsUntil c later v post = View.startsUntil c later w post

/-- Nothing follows. -/
theorem follows_nil {later : Int} (h : now ≤ later) : Follows now [] later := by
  simp [Follows, h]

/-- One arrival follows. -/
theorem follows_singleton {later : Int} (h : now ≤ later) (a : Arrival) :
    Follows now [(now, a)] later := by
  simp [Follows, h]

/-- Two views with the same starts have as many attempts by any later time, after any arrivals that
follow. -/
theorem SameStarts.length {v w : View} {post : List (Int × Arrival)} {later : Int}
    (h : SameStarts c now v w) (hpost : Follows now post later) :
    (post.foldl (View.receive c) v).starts.length
        + (View.dueCount later (post.foldl (View.receive c) v).countdownDue
          + View.dueCount later (post.foldl (View.receive c) v).retryDue)
      = (post.foldl (View.receive c) w).starts.length
        + (View.dueCount later (post.foldl (View.receive c) w).countdownDue
          + View.dueCount later (post.foldl (View.receive c) w).retryDue) := by
  have hlength := congrArg List.length (h post later hpost)
  unfold View.startsUntil View.advanceTo at hlength
  rw [List.length_append, List.length_append, View.length_startsBy, View.length_startsBy] at hlength
  exact hlength

/-- Without further reports, the timers show in the number of starts. -/
theorem SameStarts.dueCount {v w : View} (h : SameStarts c now v w) (hstarts : v.starts = w.starts)
    {later : Int} (hlater : now ≤ later) :
    View.dueCount later v.countdownDue + View.dueCount later v.retryDue
      = View.dueCount later w.countdownDue + View.dueCount later w.retryDue := by
  have hlength := h.length (follows_nil hlater)
  simp only [List.foldl_nil, hstarts] at hlength
  omega

/-- Two timers that are due by the same times are due at the same time. -/
theorem eq_of_dueCount (now : Int) {a b : Option Int} (ha : ∀ due, a = some due → now ≤ due)
    (hb : ∀ due, b = some due → now ≤ due)
    (h : ∀ later, now ≤ later → View.dueCount later a = View.dueCount later b) : a = b := by
  rcases a with _ | x <;> rcases b with _ | y
  · rfl
  · have := h y (hb y rfl)
    simp [View.dueCount] at this
  · have := h x (ha x rfl)
    simp [View.dueCount] at this
  · have hx := h x (ha x rfl)
    have hy := h y (hb y rfl)
    simp only [View.dueCount, Option.any] at hx hy
    grind

/-- If one timer is due at the same time, then so is the other. -/
theorem SameStarts.retryDue_eq {v w : View} (h : SameStarts c now v w)
    (hstarts : v.starts = w.starts) (hcountdown : v.countdownDue = w.countdownDue)
    (hv : ∀ due, v.retryDue = some due → now ≤ due)
    (hw : ∀ due, w.retryDue = some due → now ≤ due) : v.retryDue = w.retryDue := by
  refine eq_of_dueCount now hv hw fun later hle => ?_
  have hcount := h.dueCount hstarts hle
  rw [hcountdown] at hcount
  exact Nat.add_left_cancel hcount

/-- Two views with the same starts, the same past and the same retry have the same countdown. -/
theorem SameStarts.countdownDue_eq {v w : View} (h : SameStarts c now v w)
    (hstarts : v.starts = w.starts) (hretry : v.retryDue = w.retryDue)
    (hv : ∀ due, v.countdownDue = some due → now ≤ due)
    (hw : ∀ due, w.countdownDue = some due → now ≤ due) : v.countdownDue = w.countdownDue := by
  refine eq_of_dueCount now hv hw fun later hle => ?_
  have hcount := h.dueCount hstarts hle
  rw [hretry] at hcount
  exact Nat.add_right_cancel hcount

/-- A timer that is armed now is due now at the earliest. -/
theorem le_of_dueAfter {delay due : Int} (h : dueAfter now delay = some due) : now ≤ due := by
  unfold dueAfter at h
  split at h
  · rename_i hdelay
    have : 0 ≤ delay * 1000 ∧ delay * 1000 ≤ 4294967294 := of_decide_eq_true hdelay
    cases h
    omega
  · cases h

/-- The door opens at the time: the countdown is cancelled, if it was running for the open door. -/
theorem run_opens {w : View} (hadvanced : w.Advanced now) :
    [(now, Arrival.report (.contact .open))].foldl (View.receive c) w
      = { w with
          contact := .open
          countdownDue := if w.countsDown then none else w.countdownDue } := by
  show View.handle c now (View.advanceTo now w) (.report (.contact .open)) = _
  rw [View.advanceTo_of_advanced hadvanced]
  rfl

/-- The door closes at the time: an unlocked door starts a countdown. -/
theorem run_closes {w : View} (hadvanced : w.Advanced now) :
    [(now, Arrival.report (.contact .closed))].foldl (View.receive c) w
      = { w with
          contact := .closed
          countdownDue := if w.countsDown then dueAfter now (delayOf c) else w.countdownDue } := by
  show View.handle c now (View.advanceTo now w) (.report (.contact .closed)) = _
  rw [View.advanceTo_of_advanced hadvanced]
  rfl

/-- A timer is due once at most. -/
theorem dueCount_le_one (later : Int) (due : Option Int) : View.dueCount later due ≤ 1 := by
  unfold View.dueCount
  split <;> omega

/-- A timer that is due by then is due once. -/
theorem dueCount_of_le {later due : Int} (h : due ≤ later) :
    View.dueCount later (some due) = 1 := by
  simp [View.dueCount, h]

/-- A timer that is due once by then is due by then. -/
theorem le_of_dueCount {later due : Int} (h : View.dueCount later (some due) = 1) :
    due ≤ later := by
  simp only [View.dueCount, Option.any] at h
  grind

/-- The view after `Unlocked`. -/
theorem handle_unlocked (c : Settings) (now : Int) (v : View) :
    View.handle c now v (.report (.lock .unlocked))
      = { v with
          countsDown := supportsDelay (delayOf c)
          countdownDue := if v.contact = .open then none else dueAfter now (delayOf c)
          retryDue := none } := rfl

/-- When only the kind of the timer differs, the door opening shows the difference: it cancels a
countdown, and no retry. -/
theorem not_sameStarts_of_kind {due : Int} (hdue : now < due)
    (hcounts : supportsDelay (delayOf c) = true)
    (hcountdown : (View.handle c now v (.report (.lock .unlocked))).countdownDue = some due)
    (hnone : v.countdownDue = none) (hretry : v.retryDue = some due) :
    ¬ SameStarts c now (View.handle c now v (.report (.lock .unlocked))) v := by
  intro h
  have hv : v.Advanced now := by
    refine ⟨fun due' h' => ?_, fun due' h' => ?_⟩
    · rw [hnone] at h'
      cases h'
    · rw [hretry] at h'
      cases h'
      exact hdue
  have hw : (View.handle c now v (.report (.lock .unlocked))).Advanced now := by
    refine ⟨fun due' h' => ?_, fun due' h' => by cases h'⟩
    rw [hcountdown] at h'
    cases h'
    exact hdue
  have hlength := h.length (follows_singleton (Int.le_of_lt hdue) (.report (.contact .open)))
  rw [run_opens hv, run_opens hw] at hlength
  simp [handle_unlocked, hcounts, hnone, hretry, View.dueCount] at hlength

/-- A countdown that `Unlocked` has created. -/
theorem of_countdownDue_unlocked {due : Int}
    (h : (View.handle c now v (.report (.lock .unlocked))).countdownDue = some due) :
    now ≤ due ∧ supportsDelay (delayOf c) = true := by
  rw [handle_unlocked] at h
  dsimp only at h
  split at h
  · cases h
  · refine ⟨le_of_dueAfter h, ?_⟩
    unfold dueAfter at h
    split at h
    · rename_i hdelay
      exact hdelay
    · cases h

/-- A repeated `Unlocked` that no continuation shows found no retry armed. -/
theorem retryDue_of_sameStarts (hadvanced : v.Advanced now)
    (h : SameStarts c now (View.handle c now v (.report (.lock .unlocked))) v) :
    v.retryDue = none := by
  have hcount : ∀ later, now ≤ later →
      View.dueCount later (View.handle c now v (.report (.lock .unlocked))).countdownDue
        = View.dueCount later v.countdownDue + View.dueCount later v.retryDue := fun later hle =>
    h.dueCount (View.starts_handle c now v (.report (.lock .unlocked))) hle
  cases hretry : v.retryDue with
  | none => rfl
  | some due =>
    exfalso
    have hdue : now < due := hadvanced.2 due hretry
    have hshown := hcount due (Int.le_of_lt hdue)
    rw [hretry, dueCount_of_le (Int.le_refl due)] at hshown
    cases hcountdown : (View.handle c now v (.report (.lock .unlocked))).countdownDue with
    | none =>
      rw [hcountdown] at hshown
      simp [View.dueCount] at hshown
    | some x =>
      obtain ⟨hx, hcounts⟩ := of_countdownDue_unlocked hcountdown
      -- The retry was alone, because the report leaves at most one timer.
      have hnone : v.countdownDue = none := by
        cases hv : v.countdownDue with
        | none => rfl
        | some y =>
          have hboth := hcount (max due y) (by omega)
          rw [hretry, hv, dueCount_of_le (Int.le_max_left due y),
            dueCount_of_le (Int.le_max_right due y)] at hboth
          have := dueCount_le_one (max due y)
            (View.handle c now v (.report (.lock .unlocked))).countdownDue
          omega
      -- The countdown after the report is due when the retry before it was.
      have hsame : x = due := by
        have hlow := hcount x hx
        rw [hcountdown, hretry, hnone, dueCount_of_le (Int.le_refl x)] at hlow
        rw [hcountdown, hnone] at hshown
        have hzero : ∀ later, View.dueCount later none = 0 := fun later => rfl
        rw [hzero, Nat.zero_add] at hlow hshown
        have := le_of_dueCount hlow.symm
        have := le_of_dueCount hshown
        omega
      subst hsame
      exact not_sameStarts_of_kind hdue hcounts hcountdown hnone hretry h

/-- An open door whose closing shows no difference counts down in both views, or in none. -/
theorem countsDown_of_sameStarts (hadvanced : v.Advanced now) (hopen : v.contact = .open)
    (hnone : v.countdownDue = none) (hretry : v.retryDue = none)
    (hcounts : supportsDelay (delayOf c) = true)
    (h : SameStarts c now (View.handle c now v (.report (.lock .unlocked))) v) :
    v.countsDown = true := by
  have hdue : dueAfter now (delayOf c) = some (now + delayOf c * 1000) := if_pos hcounts
  have hlate : now ≤ now + delayOf c * 1000 := le_of_dueAfter hdue
  have hw : (View.handle c now v (.report (.lock .unlocked))).Advanced now := by
    refine ⟨fun due h' => ?_, fun due h' => by cases h'⟩
    rw [handle_unlocked, hopen] at h'
    cases h'
  have hlength := h.length (follows_singleton hlate (.report (.contact .closed)))
  rw [run_closes hadvanced, run_closes hw] at hlength
  cases hv : v.countsDown with
  | true => rfl
  | false => simp [handle_unlocked, hcounts, hnone, hretry, hdue, hv, View.dueCount] at hlength

/-- An advanced view has a countdown that is not overdue. -/
theorem countdownDue_le (hadvanced : v.Advanced now) {due : Int} (h : v.countdownDue = some due) :
    now ≤ due := Int.le_of_lt (hadvanced.1 due h)

/-- An advanced view has a retry that is not overdue. -/
theorem retryDue_le (hadvanced : v.Advanced now) {due : Int} (h : v.retryDue = some due) :
    now ≤ due := Int.le_of_lt (hadvanced.2 due h)

/-- A repeated `Locked` that makes no difference to the starts makes none at all. -/
theorem handle_locked_of_sameStarts (hsettled : Settled c v (.lock .locked))
    (hadvanced : v.Advanced now)
    (h : SameStarts c now (View.handle c now v (.report (.lock .locked))) v) :
    View.handle c now v (.report (.lock .locked)) = v := by
  obtain ⟨hnone, hcounts⟩ := hsettled
  have hretryDue : none = v.retryDue :=
    h.retryDue_eq rfl hnone.symm (fun due hdue => by cases hdue) fun due => retryDue_le hadvanced
  ext1
  · rfl
  · exact hcounts.symm
  · rfl
  · exact hnone.symm
  · exact hretryDue
  · rfl

/-- A repeated `Unlocked` that makes no difference to the starts makes none at all. -/
theorem handle_unlocked_of_sameStarts (hsettled : Settled c v (.lock .unlocked))
    (hadvanced : v.Advanced now) (hdelay : v.countsDown = true → supportsDelay (delayOf c) = true)
    (h : SameStarts c now (View.handle c now v (.report (.lock .unlocked))) v) :
    View.handle c now v (.report (.lock .unlocked)) = v := by
  obtain ⟨hnone, hopen⟩ := hsettled
  have hretryDue : v.retryDue = none := retryDue_of_sameStarts hadvanced h
  have hcountdownDue : (if v.contact = .open then none else dueAfter now (delayOf c))
      = v.countdownDue :=
    h.countdownDue_eq rfl hretryDue.symm (fun due hdue => (of_countdownDue_unlocked hdue).1)
      fun due => countdownDue_le hadvanced
  have hcounts : supportsDelay (delayOf c) = v.countsDown := by
    cases hsupported : supportsDelay (delayOf c) with
    | false =>
      cases hv : v.countsDown with
      | false => rfl
      | true => exact absurd (hdelay hv) (by simp [hsupported])
    | true =>
      cases hdoor : v.contact with
      | «open» =>
        exact (countsDown_of_sameStarts hadvanced hdoor (hopen hdoor) hretryDue hsupported h).symm
      | closed =>
        -- The countdown is armed, so the view counts down.
        rw [hdoor, if_neg (by decide), dueAfter, if_pos hsupported] at hcountdownDue
        cases hv : v.countsDown with
        | true => rfl
        | false =>
          rw [hnone hv] at hcountdownDue
          cases hcountdownDue
  ext1
  · rfl
  · exact hcounts
  · rfl
  · exact hcountdownDue
  · exact hretryDue.symm
  · rfl

/-- A repeated `Jammed` that makes no difference to the starts makes none at all. -/
theorem handle_jammed_of_sameStarts (hsettled : Settled c v (.lock .jammed))
    (hadvanced : v.Advanced now)
    (h : SameStarts c now (View.handle c now v (.report (.lock .jammed))) v) :
    View.handle c now v (.report (.lock .jammed)) = v := by
  obtain ⟨hnone, hcounts, -⟩ := hsettled
  have hretryDue : (if c.retryOnFailure then dueAfter now c.retryDelaySeconds else none)
      = v.retryDue := by
    refine h.retryDue_eq rfl hnone.symm (fun due hdue => ?_) fun due => retryDue_le hadvanced
    have harmed : (if c.retryOnFailure then dueAfter now c.retryDelaySeconds else none)
        = some due := hdue
    split at harmed
    · exact le_of_dueAfter harmed
    · cases harmed
  ext1
  · rfl
  · exact hcounts.symm
  · rfl
  · exact hnone.symm
  · exact hretryDue
  · rfl

/-- A repeated `Closed` that makes no difference to the starts makes none at all. -/
theorem handle_closed_of_sameStarts (hsettled : Settled c v (.contact .closed))
    (hadvanced : v.Advanced now)
    (h : SameStarts c now (View.handle c now v (.report (.contact .closed))) v) :
    View.handle c now v (.report (.contact .closed)) = v := by
  have hcontact : v.contact = .closed := hsettled
  have hcountdownDue : (if v.countsDown then dueAfter now (delayOf c) else v.countdownDue)
      = v.countdownDue := by
    refine h.countdownDue_eq rfl rfl (fun due hdue => ?_) fun due => countdownDue_le hadvanced
    have harmed : (if v.countsDown then dueAfter now (delayOf c) else v.countdownDue)
        = some due := hdue
    split at harmed
    · exact le_of_dueAfter harmed
    · exact countdownDue_le hadvanced harmed
  ext1
  · exact hcontact.symm
  · rfl
  · rfl
  · exact hcountdownDue
  all_goals rfl

/-- A repeated report that no continuation shows leaves the view. -/
theorem handle_of_sameStarts (hsettled : Settled c v r) (hadvanced : v.Advanced now)
    (hdelay : v.countsDown = true → supportsDelay (delayOf c) = true)
    (h : SameStarts c now (View.handle c now v (.report r)) v) :
    View.handle c now v (.report r) = v := by
  cases r with
  | lock newState =>
    cases newState with
    | locked => exact handle_locked_of_sameStarts hsettled hadvanced h
    | unlocked => exact handle_unlocked_of_sameStarts hsettled hadvanced hdelay h
    | jammed => exact handle_jammed_of_sameStarts hsettled hadvanced h
    | unknown =>
      ext1
      · rfl
      · exact (show v.countsDown = false from hsettled).symm
      all_goals rfl
  | contact newState =>
    cases newState with
    | closed => exact handle_closed_of_sameStarts hsettled hadvanced h
    | «open» =>
      -- An open report needs no starts: whatever it drops, the first report has dropped.
      obtain ⟨hcontact, hnone⟩ := hsettled
      ext1
      · exact hcontact.symm
      · rfl
      · rfl
      · show (if v.countsDown then none else v.countdownDue) = v.countdownDue
        split
        · rename_i hcounts
          exact (hnone hcounts).symm
        · rfl
      all_goals rfl

end

/-! ### The theorem -/

/-- The repeated reports that leave the timers as they are, in the state that they find:

- `Locked` without an armed retry, which it would cancel;
- `Unlocked` without an armed retry, and, over a closed door, with a countdown that was created at
  this very time. Over an open door the machine must still take the lock for unlocked, because no
  attempt has succeeded since;
- `Jammed` with a retry that was created at this very time, if a retry can be armed;
- `Closed` with a countdown that was created at this very time, if the lock is unlocked;
- `Unknown`, and `Open`. -/
def Unseen (now : Int) (s : AutoLockClock) : Report → Prop
  | .lock .locked => s.machine.retryTimer = none
  | .lock .unlocked => s.machine.retryTimer = none ∧
    (supportsDelay s.machine.lockDelay = true →
      if s.machine.doorContactState = .open then s.machine.lockState = .unlocked
      else s.countdownDue = some (now + s.machine.lockDelay * 1000))
  | .lock .jammed => armsRetry s.machine = true →
    s.retryDue = some (now + s.machine.retryDelaySeconds * 1000)
  | .lock .unknown => True
  | .contact .closed => s.machine.lockState = .unlocked →
    supportsDelay s.machine.lockDelay = true →
    s.countdownDue = some (now + s.machine.lockDelay * 1000)
  | .contact .open => True

section
variable {c : Settings} {s : AutoLockClock} {now : Int} {r : Report}

/-- The clock has a retry exactly when the machine has one. -/
theorem retryDue_eq_none_iff : s.retryDue = none ↔ s.machine.retryTimer = none :=
  Option.map_eq_none_iff

/-- After `Unlocked`, the countdown tells whether the lock is still taken for unlocked. -/
theorem unlocked_eq_iff (now : Int) (h : Configured c s)
    (hsettled : Settled c (view s) (.lock .unlocked)) :
    (supportsDelay (delayOf c) = (view s).countsDown
        ∧ (if s.machine.doorContactState = .open then none else dueAfter now (delayOf c))
          = s.countdownDue)
      ↔ (supportsDelay (delayOf c) = true →
        if s.machine.doorContactState = .open then s.machine.lockState = .unlocked
        else s.countdownDue = some (now + delayOf c * 1000)) := by
  obtain ⟨hnone, hopen⟩ := hsettled
  have hcounts : (view s).countsDown
      = (s.machine.lockState = .unlocked && supportsDelay (delayOf c)) := by
    rw [← h.lockDelay]
    rfl
  cases hdelay : supportsDelay (delayOf c) with
  | false =>
    rw [hdelay, Bool.and_false] at hcounts
    have hdue : s.countdownDue = none := hnone hcounts
    simp [hcounts, hdue, dueAfter_eq_none hdelay]
  | true =>
    rw [hdelay, Bool.and_true] at hcounts
    have hdue : dueAfter now (delayOf c) = some (now + delayOf c * 1000) := if_pos hdelay
    cases hdoor : s.machine.doorContactState with
    | «open» =>
      have hcountdown : s.countdownDue = none := hopen hdoor
      simp [hcounts, hcountdown]
    | closed =>
      simp only [hcounts, hdue, reduceCtorEq, if_false, true_implies]
      refine ⟨fun heq => heq.2.symm, fun heq => ⟨?_, heq.symm⟩⟩
      by_contra hlock
      have hfalse : (view s).countsDown = false := hcounts.trans (by simpa using hlock)
      have hcountdown : s.countdownDue = none := hnone hfalse
      rw [hcountdown] at heq
      cases heq

/-- After `Jammed`, the retry tells when it was armed, if one can be armed. -/
theorem jammed_eq_iff (now : Int)
    (hretry : c.retryOnFailure = false ∨ supportsDelay c.retryDelaySeconds = false →
      s.retryDue = none) :
    (if c.retryOnFailure = true then dueAfter now c.retryDelaySeconds else none) = s.retryDue
      ↔ (c.retryOnFailure = true ∧ supportsDelay c.retryDelaySeconds = true →
        s.retryDue = some (now + c.retryDelaySeconds * 1000)) := by
  by_cases harms : c.retryOnFailure = true ∧ supportsDelay c.retryDelaySeconds = true
  · rw [if_pos harms.1, dueAfter, if_pos harms.2]
    exact ⟨fun heq _ => heq.symm, fun h' => (h' harms).symm⟩
  · have hdue : s.retryDue = none := by
      refine hretry ?_
      by_cases hon : c.retryOnFailure = true
      · exact Or.inr (by simpa [hon] using harms)
      · exact Or.inl (by simpa using hon)
    refine iff_of_true ?_ fun h' => absurd h' harms
    rw [hdue]
    split
    · rename_i hon
      exact dueAfter_eq_none (by simpa [hon] using harms)
    · rfl

/-- After `Closed`, the countdown tells when it was created, if one is created. -/
theorem closed_eq_iff (c : Settings) (s : AutoLockClock) (now : Int) :
    (if (decide (s.machine.lockState = .unlocked) && supportsDelay (delayOf c)) = true then
          dueAfter now (delayOf c)
        else s.countdownDue) = s.countdownDue
      ↔ (s.machine.lockState = .unlocked → supportsDelay (delayOf c) = true →
        s.countdownDue = some (now + delayOf c * 1000)) := by
  by_cases hlock : s.machine.lockState = .unlocked
  · cases hdelay : supportsDelay (delayOf c) with
    | true =>
      simp only [hlock, decide_true, Bool.and_self, if_true, true_implies, dueAfter, hdelay]
      exact eq_comm
    | false => simp [hlock]
  · simp [hlock]

/-- A repeated report leaves the view if and only if it is unseen. -/
theorem handle_eq_iff (now : Int) (h : Configured c s) (hsettled : Settled c (view s) r) :
    View.handle c now (view s) (.report r) = view s ↔ Unseen now s r := by
  have hcounts : (view s).countsDown
      = (s.machine.lockState = .unlocked && supportsDelay (delayOf c)) := by
    rw [← h.lockDelay]
    rfl
  cases r with
  | lock newState =>
    cases newState with
    | locked =>
      obtain ⟨hnone, hfalse⟩ := hsettled
      rw [View.ext_iff]
      simp only [View.handle, hnone, hfalse, Unseen, true_and, and_true, ← retryDue_eq_none_iff]
      exact eq_comm
    | unlocked =>
      -- What is left after the fields that the report sets anyway is `unlocked_eq_iff`.
      have hrest := unlocked_eq_iff now h hsettled
      rw [View.ext_iff]
      simp only [View.handle, true_and, and_true, Unseen, h.lockDelay, ← retryDue_eq_none_iff,
        ← hrest]
      constructor
      · rintro ⟨hcounts, hdue, hretry⟩
        exact ⟨hretry.symm, hcounts, hdue⟩
      · rintro ⟨hretry, hcounts, hdue⟩
        exact ⟨hcounts, hdue, hretry.symm⟩
    | jammed =>
      obtain ⟨hnone, hfalse, hretry⟩ := hsettled
      rw [View.ext_iff]
      simp only [View.handle, hnone, hfalse, true_and, and_true, Unseen, armsRetry,
        h.retryOnFailure, h.retryDelaySeconds, Bool.and_eq_true]
      exact jammed_eq_iff now hretry
    | unknown =>
      rw [View.ext_iff]
      simp [View.handle, show (view s).countsDown = false from hsettled, Unseen]
  | contact newState =>
    cases newState with
    | closed =>
      have hcontact : (view s).contact = .closed := hsettled
      rw [View.ext_iff]
      simp only [View.handle, hcontact, true_and, and_true, reduceCtorEq, if_false, hcounts, Unseen,
        h.lockDelay]
      exact closed_eq_iff c s now
    | «open» =>
      -- A second report of an open door finds no countdown: the first one has dropped it.
      obtain ⟨hcontact, hnone⟩ := hsettled
      rw [View.ext_iff]
      simp only [View.handle, hcontact, true_and, and_true, if_true, Unseen, iff_true]
      split
      · rename_i htrue
        exact (hnone htrue).symm
      · rfl

end

/-- An enabled machine that has just been created. -/
def startClock (timeoutSeconds : Int) (nightSeconds : Option Int) (retryOnFailure : Bool)
    (retryDelaySeconds : Int) (isNight : Bool) : AutoLockClock where
  machine := start timeoutSeconds nightSeconds retryOnFailure retryDelaySeconds isNight

/-- What holds when a report comes in again, after a run of its machine without a new start. -/
theorem at_repetition {c : Settings} {s : AutoLockClock} (h : Configured c s)
    {mid : List (Int × Arrival)} {r : Report} {earlier now : Int}
    (hmid : ∀ i ∈ mid, sameKind r i.2 = false)
    (hstarts : AutoLockClock.startsUntil now s ((earlier, .report r) :: mid)
      = (AutoLockClock.receive s (earlier, .report r)).starts) :
    View.advanceTo now (view (((earlier, Arrival.report r) :: mid).foldl AutoLockClock.receive s))
        = view (((earlier, Arrival.report r) :: mid).foldl AutoLockClock.receive s)
      ∧ Settled c
        (view (((earlier, Arrival.report r) :: mid).foldl AutoLockClock.receive s)) r := by
  have hview : view (((earlier, Arrival.report r) :: mid).foldl AutoLockClock.receive s)
      = mid.foldl (View.receive c) (View.receive c (view s) (earlier, .report r)) :=
    (view_run h ((earlier, .report r) :: mid)).2
  have hfirst : (AutoLockClock.receive s (earlier, .report r)).starts
      = (View.receive c (view s) (earlier, .report r)).starts :=
    congrArg View.starts (view_run h [(earlier, .report r)]).2
  rw [startsUntil_eq h, hfirst] at hstarts
  -- No attempt starts along the way, nor at the end of it.
  have hgrow := View.starts_run c (View.receive c (view s) (earlier, .report r)) mid
  have hend : (mid.foldl (View.receive c)
      (View.receive c (view s) (earlier, .report r))).starts
      <+: View.startsUntil c now (view s) ((earlier, .report r) :: mid) := List.prefix_append ..
  have hmiddle : (mid.foldl (View.receive c)
      (View.receive c (view s) (earlier, .report r))).starts
      = (View.receive c (view s) (earlier, .report r)).starts :=
    (hgrow.eq_of_length_le (by rw [← hstarts]; exact hend.length_le)).symm
  rw [hview]
  refine ⟨View.advanceTo_of_starts (hstarts.trans hmiddle.symm), ?_⟩
  exact (settled_report c _ earlier r).run hmid hmiddle

/-- The theorem for a run from the state that the earlier report finds. -/
theorem unseen_iff_of_configured {c : Settings} {s : AutoLockClock} (h : Configured c s)
    {mid : List (Int × Arrival)} {r : Report} {earlier now : Int}
    (hmid : ∀ i ∈ mid, sameKind r i.2 = false)
    (hstarts : AutoLockClock.startsUntil now s ((earlier, .report r) :: mid)
      = (AutoLockClock.receive s (earlier, .report r)).starts) :
    (∀ post later, Follows now post later →
      AutoLockClock.startsUntil later s ((earlier, .report r) :: mid ++ (now, .report r) :: post)
        = AutoLockClock.startsUntil later s ((earlier, .report r) :: mid ++ post)) ↔
      Unseen now
        (advanceTo now (((earlier, Arrival.report r) :: mid).foldl AutoLockClock.receive s)) r := by
  obtain ⟨hsame, hsettled⟩ := at_repetition h hmid hstarts
  have hrun := (view_run h ((earlier, .report r) :: mid)).1
  generalize hs1 : ((earlier, Arrival.report r) :: mid).foldl AutoLockClock.receive s = s1
    at hsame hsettled hrun
  have hview : view (advanceTo now s1) = view s1 := (view_advanceTo now s1).trans hsame
  have hadvanced : (view s1).Advanced now := hsame ▸ View.advanced_advanceTo now (view s1)
  -- Both runs go on from `s1`, and the first one handles the report before.
  have hwith : ∀ post later, AutoLockClock.startsUntil later s
      ((earlier, .report r) :: mid ++ (now, .report r) :: post)
      = View.startsUntil c later (View.handle c now (view s1) (.report r)) post := by
    intro post later
    have hreceive : view (AutoLockClock.receive s1 (now, .report r))
        = View.handle c now (view s1) (.report r) := by
      rw [AutoLockClock.receive, view_handleAt (hrun.advanceTo now), hview]
    have hnext := startsUntil_eq ((hrun.advanceTo now).handleAt now (.report r)) later post
    unfold AutoLockClock.startsUntil at hnext ⊢
    rw [List.foldl_append, hs1]
    exact hnext.trans (congrArg (View.startsUntil c later · post) hreceive)
  have hwithout : ∀ post later, AutoLockClock.startsUntil later s
      ((earlier, .report r) :: mid ++ post) = View.startsUntil c later (view s1) post := by
    intro post later
    rw [← startsUntil_eq hrun]
    unfold AutoLockClock.startsUntil
    rw [List.foldl_append, hs1]
  have hiff := handle_eq_iff now (hrun.advanceTo now) (hview.symm ▸ hsettled)
  rw [hview] at hiff
  rw [← hiff]
  constructor
  · intro hall
    refine handle_of_sameStarts hsettled hadvanced (fun hcounts => ?_) fun post later hpost => ?_
    · rw [← hrun.lockDelay]
      exact (Bool.and_eq_true_iff.mp hcounts).2
    · rw [← hwith, ← hwithout]
      exact hall post later hpost
  · intro heq post later _
    rw [hwith, hwithout, heq]

/-- A report `r` at `now` repeats the last report of its kind, and no attempt has started since. It
can be left out of the run, without a change to the start times in any continuation, if and only if
it is unseen. -/
theorem unseen_iff (timeoutSeconds : Int) (nightSeconds : Option Int) (retryOnFailure : Bool)
    (retryDelaySeconds : Int) (isNight : Bool) (before mid : List (Int × Arrival)) (r : Report)
    (earlier now : Int) (hmid : ∀ i ∈ mid, sameKind r i.2 = false)
    (hstarts : AutoLockClock.startsUntil now
        (startClock timeoutSeconds nightSeconds retryOnFailure retryDelaySeconds isNight)
        (before ++ (earlier, .report r) :: mid)
      = ((before ++ [(earlier, Arrival.report r)]).foldl AutoLockClock.receive
        (startClock timeoutSeconds nightSeconds retryOnFailure retryDelaySeconds isNight)).starts) :
    (∀ post later, Follows now post later →
      AutoLockClock.startsUntil later
          (startClock timeoutSeconds nightSeconds retryOnFailure retryDelaySeconds isNight)
          (before ++ (earlier, .report r) :: mid ++ (now, .report r) :: post)
        = AutoLockClock.startsUntil later
          (startClock timeoutSeconds nightSeconds retryOnFailure retryDelaySeconds isNight)
          (before ++ (earlier, .report r) :: mid ++ post)) ↔
      Unseen now (advanceTo now ((before ++ (earlier, Arrival.report r) :: mid).foldl
        AutoLockClock.receive (startClock timeoutSeconds nightSeconds retryOnFailure
          retryDelaySeconds isNight))) r := by
  have hstart : Configured (settings (start timeoutSeconds nightSeconds retryOnFailure
      retryDelaySeconds isNight)) (startClock timeoutSeconds nightSeconds retryOnFailure
      retryDelaySeconds isNight) := ⟨rfl, rfl, fun _ => rfl⟩
  have hbefore := (view_run hstart before).1
  unfold AutoLockClock.startsUntil at hstarts ⊢
  simp only [List.append_assoc, List.foldl_append, List.foldl_cons, List.foldl_nil] at hstarts ⊢
  have hiff := unseen_iff_of_configured hbefore hmid hstarts
  unfold AutoLockClock.startsUntil at hiff
  simp only [List.foldl_append, List.foldl_cons] at hiff
  exact hiff

/-- The door is unlocked and opened, and the sensor reports `Open` again before it is closed. -/
theorem unseen_iff_open :
    AutoLockClock.startsUntil 100000 (startClock 60 none true 15 false)
        [(0, .report (.lock .unlocked)), (1000, .report (.contact .open)),
          (2000, .report (.contact .open)), (3000, .report (.contact .closed))]
      = AutoLockClock.startsUntil 100000 (startClock 60 none true 15 false)
        [(0, .report (.lock .unlocked)), (1000, .report (.contact .open)),
          (3000, .report (.contact .closed))] :=
  (unseen_iff 60 none true 15 false [(0, .report (.lock .unlocked))] [] (.contact .open) 1000 2000
    (by decide) (by decide)).mpr trivial [(3000, .report (.contact .closed))] 100000 (by
      simp [Follows])

/-- The sensor of a closed door reports `Closed` again before the countdown is over, and the
countdown starts from the beginning. -/
theorem repeated_closed_postpones :
    ¬ ∀ (before mid : List (Int × Arrival)) (r : Report) (earlier now : Int)
      (post : List (Int × Arrival)) (later : Int),
      (∀ i ∈ mid, sameKind r i.2 = false) →
      AutoLockClock.startsUntil now (startClock 60 none true 15 false)
          (before ++ (earlier, .report r) :: mid)
        = ((before ++ [(earlier, Arrival.report r)]).foldl AutoLockClock.receive
          (startClock 60 none true 15 false)).starts →
      Follows now post later →
      AutoLockClock.startsUntil later (startClock 60 none true 15 false)
          (before ++ (earlier, .report r) :: mid ++ (now, .report r) :: post)
        = AutoLockClock.startsUntil later (startClock 60 none true 15 false)
          (before ++ (earlier, .report r) :: mid ++ post) := by
  intro h
  have hsame := h [(0, .report (.lock .unlocked))] [] (.contact .closed) 0 50000 [] 60000
    (by decide) (by decide) (follows_nil (by decide))
  exact absurd hsame (by decide)

end CodeMaster.Proofs.Engine.RepeatedReports
