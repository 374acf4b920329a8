import Mathlib.Data.List.Basic

/-!
# `CodeMaster.Lib.Transition`: runs of a step function, and their invariants

A system is a step function `step : σ → ι → σ`. A run is a list of inputs, and the state
after the run is `List.foldl`. The rules:

* `foldl_invariant` takes a step lemma to a run lemma: what every step keeps holds after
  every run.
* `StepsMeet ok` says that every step of a run meets a condition on its input and on the
  state before it. `invariant_of_stepsMeet` is the run lemma for an invariant that only such
  steps keep.
* `stepsMeet_iff` is the exact form. When a step that misses the condition breaks the
  invariant, the invariant holds at every point of a run if and only if every step of the
  run meets the condition. `stepsMeet_iff_of_context` is the same with a second invariant that
  every step keeps.
* `measure_le_of_stepsMeet` is the rule for progress: a measure that some inputs decrease and no
  input increases is at most what it was less the number of these inputs.
* `countSteps` counts the steps of a run that satisfy a predicate of the state and the input, and
  `countSteps_le_of_stepsMeet` bounds their number by a measure that pays for each of them.
-/

set_option autoImplicit false

namespace Transition

universe u v

variable {σ : Type u} {ι : Type v} (step : σ → ι → σ)

/-- What every step keeps holds after every run. -/
theorem foldl_invariant (I : σ → Prop) (hstep : ∀ s e, I s → I (step s e)) :
    ∀ (es : List ι) (s : σ), I s → I (es.foldl step s) := by
  intro es
  induction es with
  | nil => exact fun s hs => hs
  | cons e es ih => exact fun s hs => ih (step s e) (hstep s e hs)

/-- Every step of the run meets `ok` on the state before the step and on its input. -/
def StepsMeet (ok : σ → ι → Prop) : σ → List ι → Prop
  | _, [] => True
  | s, e :: es => ok s e ∧ StepsMeet ok (step s e) es

variable {step} {ok : σ → ι → Prop}

/-- A run without inputs meets every condition. -/
@[simp] theorem stepsMeet_nil (s : σ) : StepsMeet step ok s [] := trivial

/-- A run meets the condition when its first step and the rest do. -/
@[simp] theorem stepsMeet_cons (s : σ) (e : ι) (es : List ι) :
    StepsMeet step ok s (e :: es) ↔ ok s e ∧ StepsMeet step ok (step s e) es := Iff.rfl

/-- A run in two parts meets the condition when both parts do. -/
theorem stepsMeet_append (s : σ) (es es' : List ι) :
    StepsMeet step ok s (es ++ es')
      ↔ StepsMeet step ok s es ∧ StepsMeet step ok (es.foldl step s) es' := by
  induction es generalizing s with
  | nil => simp
  | cons e es ih => simp [ih, and_assoc]

/-- Whether a run meets a decidable condition is decidable. -/
instance decidableStepsMeet [∀ s e, Decidable (ok s e)] :
    ∀ (s : σ) (es : List ι), Decidable (StepsMeet step ok s es)
  | _, [] => isTrue trivial
  | s, e :: es =>
    have := decidableStepsMeet (step s e) es
    inferInstanceAs (Decidable (ok s e ∧ StepsMeet step ok (step s e) es))

/-- The start of a run that meets the condition does so too. -/
theorem StepsMeet.of_prefix {s : σ} {pre post : List ι}
    (h : StepsMeet step ok s (pre ++ post)) : StepsMeet step ok s pre :=
  ((stepsMeet_append s pre post).mp h).1

/-- A condition on the inputs alone. -/
theorem stepsMeet_of_forall_mem {es : List ι} (h : ∀ e ∈ es, ∀ s, ok s e) (s : σ) :
    StepsMeet step ok s es := by
  induction es generalizing s with
  | nil => trivial
  | cons e es ih =>
    exact ⟨h e List.mem_cons_self s, ih (fun e' he' => h e' (List.mem_cons_of_mem e he')) _⟩

/-- Every step of the run, with the state that the steps before it reach. -/
theorem stepsMeet_iff_forall {s : σ} {es : List ι} :
    StepsMeet step ok s es ↔ ∀ pre e, pre ++ [e] <+: es → ok (pre.foldl step s) e := by
  constructor
  · intro h pre e hpre
    obtain ⟨post, rfl⟩ := hpre
    have hlast := ((stepsMeet_append s pre [e]).mp h.of_prefix).2
    exact hlast.1
  · induction es generalizing s with
    | nil => exact fun _ => trivial
    | cons e es ih =>
      intro h
      refine ⟨h [] e ⟨es, rfl⟩, ih fun pre e' hpre => ?_⟩
      exact h (e :: pre) e' (List.cons_prefix_cons.mpr ⟨rfl, hpre⟩)

/-- An invariant that the steps meeting `ok` keep holds after a run of such steps. -/
theorem invariant_of_stepsMeet (I : σ → Prop) (hstep : ∀ s e, I s → ok s e → I (step s e)) :
    ∀ (es : List ι) (s : σ), I s → StepsMeet step ok s es → I (es.foldl step s) := by
  intro es
  induction es with
  | nil => exact fun s hs _ => hs
  | cons e es ih => exact fun s hs h => ih (step s e) (hstep s e hs h.1) h.2

/-- The exact form: an invariant that is kept by a step if and only if the step meets `ok`
holds at every point of a run if and only if every step of the run meets `ok`. -/
theorem stepsMeet_iff {I : σ → Prop} (hstep : ∀ s e, I s → (I (step s e) ↔ ok s e)) :
    ∀ (es : List ι) (s : σ), I s →
      ((∀ pre, pre <+: es → I (pre.foldl step s)) ↔ StepsMeet step ok s es) := by
  intro es
  induction es with
  | nil =>
    intro s hs
    simp [hs]
  | cons e es ih =>
    intro s hs
    rw [stepsMeet_cons]
    constructor
    · intro h
      -- The invariant after the first step says that the step met the condition.
      have he : I (step s e) := h [e] (by simp)
      refine ⟨(hstep s e hs).mp he, (ih _ he).mp fun pre hpre => ?_⟩
      exact h (e :: pre) (List.cons_prefix_cons.mpr ⟨rfl, hpre⟩)
    · rintro ⟨hok, hrest⟩ pre hpre
      cases pre with
      | nil => exact hs
      | cons e' pre =>
        obtain ⟨rfl, hpre'⟩ := List.cons_prefix_cons.mp hpre
        exact (ih _ ((hstep s e' hs).mpr hok)).mpr hrest pre hpre'

/-- The exact form under a context that every step keeps. -/
theorem stepsMeet_iff_of_context {C I : σ → Prop} (hcontext : ∀ s e, C s → C (step s e))
    (hstep : ∀ s e, C s → I s → (I (step s e) ↔ ok s e)) (es : List ι) (s : σ) (hC : C s)
    (hI : I s) : (∀ pre, pre <+: es → I (pre.foldl step s)) ↔ StepsMeet step ok s es := by
  have hboth := @stepsMeet_iff _ _ step ok (fun s => C s ∧ I s)
    (fun s e h => (and_iff_right (hcontext s e h.1)).trans (hstep s e h.1 h.2)) es s ⟨hC, hI⟩
  rw [← hboth]
  refine forall₂_congr fun pre _ => (and_iff_right ?_).symm
  exact foldl_invariant step C hcontext pre s hC

/-- Progress: a measure that the inputs with `p` decrease, and that no input increases. -/
theorem measure_le_of_stepsMeet {I : σ → Prop} (hkeep : ∀ s e, I s → ok s e → I (step s e))
    (μ : σ → Nat) (p : ι → Bool)
    (hμ : ∀ s e, I s → ok s e → μ (step s e) ≤ μ s - (if p e then 1 else 0)) :
    ∀ (es : List ι) (s : σ), I s → StepsMeet step ok s es →
      μ (es.foldl step s) ≤ μ s - es.countP p := by
  intro es
  induction es with
  | nil => exact fun _ _ _ => Nat.le_refl _
  | cons e es ih =>
    intro s hs h
    have hstep := hμ s e hs h.1
    have hrest := ih (step s e) (hkeep s e hs h.1) h.2
    rw [List.foldl_cons, List.countP_cons]
    omega

/-- The number of steps of the run that satisfy `p`, on the state before the step and its input. -/
def countSteps (step : σ → ι → σ) (p : σ → ι → Bool) : σ → List ι → Nat
  | _, [] => 0
  | s, e :: es => (if p s e then 1 else 0) + countSteps step p (step s e) es

/-- A measure that pays for each counted step bounds their number. -/
theorem countSteps_le_of_stepsMeet {I : σ → Prop} (hkeep : ∀ s e, I s → ok s e → I (step s e))
    (μ : σ → Nat) (p : σ → ι → Bool)
    (hμ : ∀ s e, I s → ok s e → μ (step s e) + (if p s e then 1 else 0) ≤ μ s) :
    ∀ (es : List ι) (s : σ), I s → StepsMeet step ok s es → countSteps step p s es ≤ μ s := by
  intro es
  induction es with
  | nil => exact fun _ _ _ => Nat.zero_le _
  | cons e es ih =>
    intro s hs h
    have hstep := hμ s e hs h.1
    have hrest := ih (step s e) (hkeep s e hs h.1) h.2
    show (if p s e then 1 else 0) + countSteps step p (step s e) es ≤ μ s
    omega

end Transition
