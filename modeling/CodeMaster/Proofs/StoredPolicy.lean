import CodeMaster.Data.Repositories

/-!
# `CodeMaster.Proofs.StoredPolicy`: is a stored policy active when the given one is?

A write cuts the times of day to whole seconds, as their columns have them, and a read brings
the validity bounds back as local times. `isActiveAt_eq` splits the schedule check into the part
that no column changes, the bounds, and the window. `isActiveAt_readBack_iff` says exactly when
the two changes show.

The host decides how a stored instant is read back. The exact form is for the hosts that read it as
a local time (`ReadsAsLocalTime`), with any offset from UTC. The comparison of two instants in .NET
ignores their kinds, so that a bound is shifted by the offset. The cut to whole seconds shows only
for a window with a bound inside of a second.
-/

set_option autoImplicit false

namespace CodeMaster.Proofs.StoredPolicy

open CodeMaster.Core Data AccessPolicyRepository

/-! ### The parts of the schedule check -/

/-- The part of the check that does not depend on the times of the policy. -/
def otherwiseActive (p : AccessPolicy) (t : DateTime) : Bool :=
  p.isEnabled
    && match p.scheduleType with
      | .always | .dateRange => true
      | .oneTime => p.remainingUses.all fun uses => 0 < uses
      | .weeklyRecurring => p.isDayOfWeekActive t

/-- `t` is within the bounds when they are moved by `offset` ticks. -/
def withinBounds (offset : Int) (p : AccessPolicy) (t : DateTime) : Bool :=
  (p.validFrom.all fun validFrom => validFrom.ticks + offset ≤ t.ticks)
    && p.validUntil.all fun validUntil => t.ticks ≤ validUntil.ticks + offset

/-- `t` is within the window, where the schedule type has one. -/
def withinWindow (p : AccessPolicy) (t : DateTime) : Bool :=
  match p.scheduleType with
  | .always | .oneTime => true
  | .dateRange | .weeklyRecurring => p.isTimeWindowActive t

/-- A policy is active when its other conditions hold and the instant is inside of its bounds and
its window. -/
theorem isActiveAt_eq (p : AccessPolicy) (t : DateTime) :
    p.isActiveAt t = (otherwiseActive p t && withinBounds 0 p t && withinWindow p t) := by
  have hfrom : (p.validFrom.any fun validFrom => t.ticks < validFrom.ticks)
      = !p.validFrom.all fun validFrom => validFrom.ticks + 0 ≤ t.ticks := by
    cases p.validFrom <;> simp [← decide_not]
  have huntil : (p.validUntil.any fun validUntil => validUntil.ticks < t.ticks)
      = !p.validUntil.all fun validUntil => t.ticks ≤ validUntil.ticks + 0 := by
    cases p.validUntil <;> simp [← decide_not]
  rw [AccessPolicy.isActiveAt, hfrom, huntil, otherwiseActive, withinBounds, withinWindow]
  cases p.isEnabled with
  | false => rfl
  | true =>
    cases (p.validFrom.all fun validFrom => validFrom.ticks + 0 ≤ t.ticks) with
    | false => simp
    | true =>
      cases (p.validUntil.all fun validUntil => t.ticks ≤ validUntil.ticks + 0) with
      | false => simp
      | true => cases p.scheduleType <;> simp

/-- The policy with its times of day cut to whole seconds. -/
def cutToSeconds (p : AccessPolicy) : AccessPolicy :=
  { p with
    startTime := p.startTime.map TimeOnly.toSeconds
    endTime := p.endTime.map TimeOnly.toSeconds }

/-- Times of day that are whole seconds stay. -/
theorem cutToSeconds_eq_self {p : AccessPolicy} (hstart : ∀ s ∈ p.startTime, s.IsWholeSecond)
    (hend : ∀ s ∈ p.endTime, s.IsWholeSecond) : cutToSeconds p = p := by
  have hkeep : ∀ time : Option TimeOnly, (∀ s ∈ time, s.IsWholeSecond) →
      time.map TimeOnly.toSeconds = time := by
    intro time h
    cases time with
    | none => rfl
    | some s => exact congrArg some ((TimeOnly.toSeconds_eq_self_iff s).mpr (h s rfl))
  rw [cutToSeconds, hkeep _ hstart, hkeep _ hend]

/-! ### What is read back -/

section
variable [Host] {p q : AccessPolicy}

/-- `q` is read back by `GetByIdAsync` after `InsertAsync` or `UpdateAsync` has written `p`. -/
def ReadBack (p q : AccessPolicy) : Prop :=
  ∃ db db', (insertAsync p db = .ok db' ∨ updateAsync p db = db') ∧ getByIdAsync db' p.id = some q

/-- A text that ends in `Z` is read as the server's local time. -/
def ReadsAsLocalTime : Prop :=
  ∀ t : DateTime, t.kind = .utc → (Host.readDateTime t).ticks = t.ticks + Host.utcOffset

/-- The bounds of the policy are UTC times. -/
structure BoundsInUtc (p : AccessPolicy) : Prop where
  validFrom : ∀ t ∈ p.validFrom, t.kind = .utc
  validUntil : ∀ t ∈ p.validUntil, t.kind = .utc

/-- What is read back has the window of the cut policy, and the bounds moved by the server's
offset. -/
theorem isActiveAt_readBack (hread : ReadsAsLocalTime) (hutc : BoundsInUtc p)
    (hq : ReadBack p q) (t : DateTime) :
    q.isActiveAt t
      = (otherwiseActive p t && withinBounds Host.utcOffset p t
        && withinWindow (cutToSeconds p) t) := by
  obtain ⟨db, db', hwrite, hq⟩ := hq
  rw [getByIdAsync_of_written hwrite hq, isActiveAt_eq]
  have hbounds : withinBounds 0 (ofRow (toRow p)) t = withinBounds Host.utcOffset p t := by
    have hfrom := hutc.validFrom
    have huntil := hutc.validUntil
    show (((p.validFrom.map Host.readDateTime).all fun validFrom => validFrom.ticks + 0 ≤ t.ticks)
      && (p.validUntil.map Host.readDateTime).all fun validUntil =>
        t.ticks ≤ validUntil.ticks + 0) = _
    rw [withinBounds]
    congr 1
    · cases hp : p.validFrom with
      | none => rfl
      | some validFrom => simp [hread validFrom (hfrom validFrom hp)]
    · cases hp : p.validUntil with
      | none => rfl
      | some validUntil => simp [hread validUntil (huntil validUntil hp)]
  rw [hbounds]
  rfl

/-- The stored policy is active when the given one is, unless it matters at `t` that the window
is cut to whole seconds and that the bounds are moved. -/
theorem isActiveAt_readBack_iff (hread : ReadsAsLocalTime) (hutc : BoundsInUtc p)
    (hq : ReadBack p q) (t : DateTime) :
    q.isActiveAt t = p.isActiveAt t
      ↔ (otherwiseActive p t = true →
        (withinBounds Host.utcOffset p t && withinWindow (cutToSeconds p) t)
          = (withinBounds 0 p t && withinWindow p t)) := by
  rw [isActiveAt_readBack hread hutc hq, isActiveAt_eq p, Bool.and_assoc, Bool.and_assoc]
  cases otherwiseActive p t with
  | false => simp
  | true => simp

/-- On a server in UTC, or for a policy without bounds, the stored policy is active exactly when
the given one is with its times of day cut to whole seconds. -/
theorem isActiveAt_stored (hread : ReadsAsLocalTime) (hutc : BoundsInUtc p) (hq : ReadBack p q)
    (hbounds : Host.utcOffset = 0 ∨ (p.validFrom = none ∧ p.validUntil = none)) (t : DateTime) :
    q.isActiveAt t = (cutToSeconds p).isActiveAt t := by
  rw [isActiveAt_readBack hread hutc hq, isActiveAt_eq (cutToSeconds p)]
  have hsame : withinBounds Host.utcOffset p t = withinBounds 0 (cutToSeconds p) t := by
    rcases hbounds with hoffset | ⟨hfrom, huntil⟩
    · rw [hoffset]
      rfl
    · simp [withinBounds, cutToSeconds, hfrom, huntil]
  rw [hsame]
  rfl

end

/-! ### A server that is one hour ahead of UTC -/

section

/-- A host that is one hour ahead of UTC, and reads stored instants as local time. -/
@[reducible] def oneHourAhead : Host :=
  { Host.sample with
    readDateTime := fun t =>
      if t.kind = .utc then ⟨t.ticks + 36000000000, .localTime⟩ else t
    utcOffset := 36000000000 }

/-- The host of the samples. -/
local instance : Host := oneHourAhead

/-- The host reads stored instants as local time. -/
theorem readsAsLocalTime_oneHourAhead : ReadsAsLocalTime := by
  intro t ht
  show (if t.kind = .utc then (⟨t.ticks + 36000000000, .localTime⟩ : DateTime) else t).ticks
    = t.ticks + 36000000000
  rw [if_pos ht]

/-- From half a second past eight. -/
def pastEight : AccessPolicy where
  id := "evening"
  scheduleType := .dateRange
  startTime := some ⟨288005000000, by decide⟩

/-- The window is cut: the stored policy is active from eight o'clock. -/
theorem isActiveAt_stored_pastEight :
    (ofRow (toRow pastEight)).isActiveAt ⟨288000000000, .utc⟩
      = (cutToSeconds pastEight).isActiveAt ⟨288000000000, .utc⟩ :=
  isActiveAt_stored readsAsLocalTime_oneHourAhead ⟨by decide, by decide⟩
    ⟨{}, _, Or.inl rfl, rfl⟩ (Or.inr ⟨rfl, rfl⟩) _

/-- Without bounds the window is cut, and without a window the bounds are moved. -/
theorem storing_changes_activity :
    (¬ ∀ p q t, p.validFrom = none → p.validUntil = none → ReadBack p q →
      q.isActiveAt t = p.isActiveAt t)
    ∧ ¬ ∀ p q t, p.startTime = none → p.endTime = none → BoundsInUtc p → ReadBack p q →
      q.isActiveAt t = p.isActiveAt t := by
  constructor
  · intro h
    have hcut := h pastEight (ofRow (toRow pastEight)) ⟨288000000000, .utc⟩ rfl rfl
      ⟨{}, _, Or.inl rfl, rfl⟩
    exact absurd hcut (by decide)
  · intro h
    have hmoved := h { id := "stay", validFrom := some ⟨0, .utc⟩ }
      { id := "stay", validFrom := some ⟨36000000000, .localTime⟩ } ⟨0, .utc⟩ rfl rfl
      ⟨by decide, by decide⟩ ⟨{}, _, Or.inl rfl, rfl⟩
    exact absurd hmoved (by decide)

end

end CodeMaster.Proofs.StoredPolicy
