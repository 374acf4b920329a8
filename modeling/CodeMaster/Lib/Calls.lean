import CodeMaster.Lib.Exec

/-!
# `CodeMaster.Lib.Calls`: programs that make calls, and the states between the calls

A `Calls C R α` is a program that makes calls `c : C`, goes on with the answers `R c`, and
returns an `α`. A handler performs each call as an `Exec` program, and `run` performs the
whole program. Unlike the result of `run`, the program also has the states between two calls:
`states` lists the state before each call and the last one, and `made` lists the calls with
the states before them.

`Exact` is a triple for an invariant `I` that some calls break. From a state with `I` and
`P`, the invariant holds in all states between the calls if and only if each call meets `ok`.
Then the end satisfies `Q`. The rules `Exact.make`, `Exact.bind`, `Exact.forM` and
`Exact.foldlM` follow the program.

`Logged` is a triple over the state and the log of the calls made so far. It has a condition
for the programs that stop, and its loop rules know the items that are done.
-/

set_option autoImplicit false

/-- A program that makes calls and returns an `α`. -/
inductive Calls (C : Type) (R : C → Type) (α : Type) where
  | done (a : α)
  | call (c : C) (next : R c → Calls C R α)

namespace Calls

open Exec

variable {C : Type} {R : C → Type} {ε σ α β : Type}

/-- Sequence: the second program follows the last call of the first one. -/
def bind : Calls C R α → (α → Calls C R β) → Calls C R β
  | done a, f => f a
  | call c next, f => call c fun r => (next r).bind f

/-- Trees of calls compose: the calls of the second tree come after those of the first. -/
instance : Monad (Calls C R) where
  pure := done
  bind := bind

/-- One call, whose answer is the value. -/
def make (c : C) : Calls C R (R c) := call c done

section
variable (h : (c : C) → Exec ε σ (R c))

/-- Perform the calls. -/
def run : Calls C R α → Exec ε σ α
  | done a => pure a
  | call c next => h c >>= fun r => run (next r)

/-- A tree without a call runs nothing. -/
@[simp] theorem run_pure (a : α) : run h (pure a : Calls C R α) = pure a := rfl

/-- A single call runs its handler. -/
@[simp] theorem run_make (c : C) : run h (make c) = h c := by
  show (h c >>= fun r => pure r) = h c
  rw [bind_pure]

/-- A composed tree runs one part after the other. -/
@[simp] theorem run_bind (m : Calls C R α) (f : α → Calls C R β) :
    run h (m >>= f) = run h m >>= fun a => run h (f a) := by
  induction m with
  | done a =>
    show run h (f a) = (pure a >>= fun a => run h (f a))
    rw [pure_bind]
  | call c next ih =>
    show (h c >>= fun r => run h (next r >>= f)) = (h c >>= fun r => run h (next r)) >>= _
    rw [bind_assoc]
    exact congrArg (h c >>= ·) (funext ih)

/-- A tree whose result is not used. -/
@[simp] theorem run_discard (m : Calls C R α) : run h (discard m) = discard (run h m) := by
  show run h (m >>= fun _ => pure PUnit.unit) = (fun _ => PUnit.unit) <$> run h m
  rw [run_bind, map_eq_pure_bind]
  rfl

/-- A branch of a tree is a branch of its run. -/
@[simp] theorem run_ite (c : Prop) [Decidable c] (m m' : Calls C R α) :
    run h (if c then m else m') = if c then run h m else run h m' := by
  split <;> rfl

/-- A loop of trees is a loop of runs. -/
theorem run_forM (f : β → Calls C R PUnit) (bs : List β) :
    run h (forM bs f) = forM bs fun b => run h (f b) := by
  induction bs with
  | nil => rfl
  | cons b bs ih => rw [List.forM_cons, List.forM_cons, run_bind, ih]

/-- A loop with an accumulator is a loop of runs. -/
theorem run_foldlM (f : α → β → Calls C R α) (bs : List β) (a : α) :
    run h (bs.foldlM f a) = bs.foldlM (fun a b => run h (f a b)) a := by
  induction bs generalizing a with
  | nil => rfl
  | cons b bs ih =>
    rw [List.foldlM_cons, List.foldlM_cons, run_bind]
    exact congrArg (run h (f a b) >>= ·) (funext ih)

/-! ### The states between the calls -/

/-- The states before each call, and the last one. -/
def states : Calls C R α → σ → List σ
  | done _, s => [s]
  | call c next, s => s :: match (h c).exec s with
    | (.ok r, s') => states (next r) s'
    | (.error _, s') => [s']

/-- The calls that are made, with the states before them. -/
def made : Calls C R α → σ → List (C × σ)
  | done _, _ => []
  | call c next, s => (c, s) :: match (h c).exec s with
    | (.ok r, s') => made (next r) s'
    | (.error _, _) => []

/-- The invariant holds in every state between the calls, and at the end. -/
def Always (I : σ → Prop) (m : Calls C R α) (s : σ) : Prop := ∀ t ∈ states h m s, I t

/-- Every call that is made meets the condition on the state before it. -/
def Meets (ok : C → σ → Prop) (m : Calls C R α) (s : σ) : Prop := ∀ e ∈ made h m s, ok e.1 e.2

variable {h} {I : σ → Prop} {ok : C → σ → Prop} {m : Calls C R α} {f : α → Calls C R β} {s : σ}

/-- The last state is the one that `run` leaves. -/
theorem state_mem_states (m : Calls C R α) (s : σ) : ((run h m).exec s).2 ∈ states h m s := by
  induction m generalizing s with
  | done a => exact List.mem_singleton.mpr rfl
  | call c next ih =>
    unfold run states
    rw [exec_bind]
    rcases (h c).exec s with ⟨e | r, s'⟩
    · exact List.mem_cons_of_mem _ (List.mem_singleton.mpr rfl)
    · exact List.mem_cons_of_mem _ (ih r s')

/-- At the end of a tree the state is the start. -/
theorem always_done {a : α} : Always h I (done a : Calls C R α) s ↔ I s := by
  simp [Always, states]

/-- The states of a tree that starts with a call, when the call succeeds: the start and the states
of the rest. -/
theorem always_call_of_ok {c : C} {next : R c → Calls C R α} {r : R c} {s' : σ}
    (hc : (h c).exec s = (.ok r, s')) :
    Always h I (call c next) s ↔ I s ∧ Always h I (next r) s' := by
  simp [Always, states, hc]

/-- The states of a tree that starts with a call, when the call throws: the start and the state
after the call. -/
theorem always_call_of_error {c : C} {next : R c → Calls C R α} {e : ε} {s' : σ}
    (hc : (h c).exec s = (.error e, s')) : Always h I (call c next) s ↔ I s ∧ I s' := by
  simp [Always, states, hc]

/-- A tree without a call meets every condition. -/
theorem meets_done {a : α} : Meets h ok (done a : Calls C R α) s := by
  simp [Meets, made]

/-- The condition on a tree that starts with a call, when the call succeeds. -/
theorem meets_call_of_ok {c : C} {next : R c → Calls C R α} {r : R c} {s' : σ}
    (hc : (h c).exec s = (.ok r, s')) :
    Meets h ok (call c next) s ↔ ok c s ∧ Meets h ok (next r) s' := by
  simp [Meets, made, hc]

/-- The condition on a tree that starts with a call, when the call throws. -/
theorem meets_call_of_error {c : C} {next : R c → Calls C R α} {e : ε} {s' : σ}
    (hc : (h c).exec s = (.error e, s')) : Meets h ok (call c next) s ↔ ok c s := by
  simp [Meets, made, hc]

/-- What always holds holds at the start. -/
theorem Always.start (hm : Always h I m s) : I s := by
  cases m with
  | done a => exact always_done.mp hm
  | call c next =>
    unfold Always states at hm
    exact hm s List.mem_cons_self

/-- What always holds holds at the end. -/
theorem Always.last (hm : Always h I m s) : I ((run h m).exec s).2 := hm _ (state_mem_states m s)

/-- A sequence of two programs, seen from the states. -/
theorem always_bind : Always h I (m >>= f) s ↔ Always h I m s
    ∧ ∀ a s', (run h m).exec s = (.ok a, s') → Always h I (f a) s' := by
  induction m generalizing s with
  | done a =>
    show Always h I (f a) s ↔ _
    rw [always_done]
    constructor
    · intro hf
      refine ⟨hf.start, fun b s' hb => ?_⟩
      cases hb
      exact hf
    · exact fun hf => hf.2 a s rfl
  | call c next ih =>
    show Always h I (call c fun r => next r >>= f) s ↔ _
    unfold run
    rcases hc : (h c).exec s with ⟨e | r, s1⟩
    · rw [always_call_of_error hc, always_call_of_error hc, exec_bind, hc]
      exact (and_iff_left fun a s' ha => by cases ha).symm
    · rw [always_call_of_ok hc, always_call_of_ok hc, ih, exec_bind_of_ok hc, and_assoc]

/-- A sequence of two programs, seen from the calls. -/
theorem meets_bind : Meets h ok (m >>= f) s ↔ Meets h ok m s
    ∧ ∀ a s', (run h m).exec s = (.ok a, s') → Meets h ok (f a) s' := by
  induction m generalizing s with
  | done a =>
    show Meets h ok (f a) s ↔ _
    constructor
    · intro hf
      refine ⟨meets_done, fun b s' hb => ?_⟩
      cases hb
      exact hf
    · exact fun hf => hf.2 a s rfl
  | call c next ih =>
    show Meets h ok (call c fun r => next r >>= f) s ↔ _
    unfold run
    rcases hc : (h c).exec s with ⟨e | r, s1⟩
    · rw [meets_call_of_error hc, meets_call_of_error hc, exec_bind, hc]
      exact (and_iff_left fun a s' ha => by cases ha).symm
    · rw [meets_call_of_ok hc, meets_call_of_ok hc, ih, exec_bind_of_ok hc, and_assoc]

/-! ### The exact triple -/

variable (h I ok) in
/-- From a state with `I` and `P`, the invariant `I` holds in all states of the program if and
only if each call meets `ok`, and then the program ends with `Q`. -/
structure Exact (P : σ → Prop) (m : Calls C R α) (Q : α → σ → Prop) : Prop where
  always_iff : ∀ s, I s → P s → (Always h I m s ↔ Meets h ok m s)
  post : ∀ s, I s → P s → Meets h ok m s → ∀ a s', (run h m).exec s = (.ok a, s') → Q a s'

variable {P P' : σ → Prop} {Q Q' : α → σ → Prop} {T : β → σ → Prop}

/-- The rule for a result. -/
theorem Exact.pure {a : α} (hQ : ∀ s, P s → Q a s) :
    Exact h I ok P (pure a : Calls C R α) Q where
  always_iff s hI _ := iff_of_true (always_done.mpr hI) meets_done
  post s _ hP _ b s' hb := by
    cases hb
    exact hQ s hP

/-- The rule for a call: it breaks the invariant exactly when it misses `ok`. -/
theorem Exact.make {c : C} {Q : R c → σ → Prop}
    (hI : ∀ s, I s → P s → (I ((h c).exec s).2 ↔ ok c s))
    (hQ : ∀ s r s', I s → P s → ok c s → (h c).exec s = (.ok r, s') → Q r s') :
    Exact h I ok P (make c) Q where
  always_iff s hs hP := by
    have hkept := hI s hs hP
    rcases hc : (h c).exec s with ⟨e | r, s1⟩ <;> rw [hc] at hkept
    · rw [Calls.make, always_call_of_error hc, meets_call_of_error hc, and_iff_right hs]
      exact hkept
    · rw [Calls.make, always_call_of_ok hc, meets_call_of_ok hc, always_done, and_iff_right hs,
        and_iff_left meets_done]
      exact hkept
  post s hs hP hm r s' hr := by
    rw [run_make] at hr
    refine hQ s r s' hs hP ?_ hr
    rw [Calls.make, meets_call_of_ok hr] at hm
    exact hm.1

/-- The rule for a composed tree. -/
theorem Exact.bind (hm : Exact h I ok P m Q) (hf : ∀ a, Exact h I ok (Q a) (f a) T) :
    Exact h I ok P (m >>= f) T where
  always_iff s hs hP := by
    rw [always_bind, meets_bind, hm.always_iff s hs hP]
    refine and_congr_right fun hmeets => ?_
    have halways := (hm.always_iff s hs hP).mpr hmeets
    refine forall_congr' fun a => forall_congr' fun s' => forall_congr' fun ha => ?_
    have hs' : I s' := by
      have hlast := halways.last
      rwa [ha] at hlast
    exact (hf a).always_iff s' hs' (hm.post s hs hP hmeets a s' ha)
  post s hs hP hmeets b s' hb := by
    obtain ⟨hmeets, hrest⟩ := meets_bind.mp hmeets
    have halways := (hm.always_iff s hs hP).mpr hmeets
    rw [run_bind, exec_bind] at hb
    rcases ha : (run h m).exec s with ⟨e | a, s1⟩ <;> rw [ha] at hb
    · cases hb
    · have hs1 : I s1 := by
        have hlast := halways.last
        rwa [ha] at hlast
      exact (hf a).post s1 hs1 (hm.post s hs hP hmeets a s1 ha) (hrest a s1 ha) b s' hb

/-- The rule of consequence. -/
theorem Exact.weaken (hm : Exact h I ok P m Q) (hP : ∀ s, P' s → P s)
    (hQ : ∀ a s, Q a s → Q' a s) : Exact h I ok P' m Q' where
  always_iff s hs hs' := hm.always_iff s hs (hP s hs')
  post s hs hs' hmeets a s' ha := hQ a s' (hm.post s hs (hP s hs') hmeets a s' ha)

/-- A part of the assumption that is not about the state is a hypothesis of the triple. -/
theorem Exact.and_left {φ : Prop} (hm : φ → Exact h I ok P m Q) :
    Exact h I ok (fun s => φ ∧ P s) m Q where
  always_iff s hs hP := (hm hP.1).always_iff s hs hP.2
  post s hs hP := (hm hP.1).post s hs hP.2

/-- The rule for a precondition with a witness. -/
theorem Exact.exists_left {γ : Type} {P : γ → σ → Prop} (hm : ∀ x, Exact h I ok (P x) m Q) :
    Exact h I ok (fun s => ∃ x, P x s) m Q where
  always_iff s hs := by
    rintro ⟨x, hP⟩
    exact (hm x).always_iff s hs hP
  post s hs := by
    rintro ⟨x, hP⟩
    exact (hm x).post s hs hP

/-- The rule for a branch. -/
theorem Exact.ite {c : Prop} [Decidable c] {m' : Calls C R α} (hm : c → Exact h I ok P m Q)
    (hm' : ¬ c → Exact h I ok P m' Q) : Exact h I ok P (if c then m else m') Q := by
  split
  · rename_i hc
    exact hm hc
  · rename_i hc
    exact hm' hc

/-- The rule for a loop. -/
theorem Exact.forM {f : β → Calls C R PUnit} {bs : List β}
    (hf : ∀ b ∈ bs, Exact h I ok P (f b) fun _ => P) :
    Exact h I ok P (forM bs f) fun _ => P := by
  induction bs with
  | nil => exact Exact.pure fun s hs => hs
  | cons b bs ih =>
    rw [List.forM_cons]
    exact (hf b List.mem_cons_self).bind fun _ =>
      ih fun b' hb' => hf b' (List.mem_cons_of_mem _ hb')

/-- The rule for a loop with an accumulator. -/
theorem Exact.foldlM {f : α → β → Calls C R α} {J : α → σ → Prop} {bs : List β}
    (hf : ∀ b ∈ bs, ∀ a, Exact h I ok (J a) (f a b) J) (a : α) :
    Exact h I ok (J a) (bs.foldlM f a) J := by
  induction bs generalizing a with
  | nil => exact Exact.pure fun s hs => hs
  | cons b bs ih =>
    rw [List.foldlM_cons]
    exact (hf b List.mem_cons_self a).bind fun a' =>
      ih (fun b' hb' => hf b' (List.mem_cons_of_mem _ hb')) a'

/-! ### The triple over the log -/

/-- The calls of a tree that starts with a call, when the call succeeds. -/
theorem made_call_of_ok {c : C} {next : R c → Calls C R α} {r : R c} {s' : σ}
    (hc : (h c).exec s = (.ok r, s')) :
    made h (call c next) s = (c, s) :: made h (next r) s' := by
  rw [made, hc]

/-- The calls of a tree that starts with a call, when the call throws. -/
theorem made_call_of_error {c : C} {next : R c → Calls C R α} {e : ε} {s' : σ}
    (hc : (h c).exec s = (.error e, s')) : made h (call c next) s = [(c, s)] := by
  rw [made, hc]

/-- The calls of a sequence are those of its parts. -/
theorem made_bind_of_ok {a : α} {s' : σ} (hm : (run h m).exec s = (.ok a, s')) :
    made h (m >>= f) s = made h m s ++ made h (f a) s' := by
  induction m generalizing s with
  | done b =>
    cases hm
    rfl
  | call c next ih =>
    show made h (call c fun r => next r >>= f) s = _
    unfold run at hm
    rw [exec_bind] at hm
    rcases hc : (h c).exec s with ⟨e | r, s1⟩ <;> rw [hc] at hm
    · cases hm
    · rw [made_call_of_ok hc, made_call_of_ok hc, ih r hm, List.cons_append]

/-- A tree that throws makes the calls of its first part only. -/
theorem made_bind_of_error {e : ε} {s' : σ} (hm : (run h m).exec s = (.error e, s')) :
    made h (m >>= f) s = made h m s := by
  induction m generalizing s with
  | done b => cases hm
  | call c next ih =>
    show made h (call c fun r => next r >>= f) s = _
    unfold run at hm
    rw [exec_bind] at hm
    rcases hc : (h c).exec s with ⟨e' | r, s1⟩ <;> rw [hc] at hm
    · rw [made_call_of_error hc, made_call_of_error hc]
    · rw [made_call_of_ok hc, made_call_of_ok hc, ih r hm]

variable (h) in
/-- From a log and a state with `P`, the program returns with `Q` of the longer log, or it
stops with `E` of it. -/
structure Logged (P : List (C × σ) → σ → Prop) (m : Calls C R α)
    (Q : α → List (C × σ) → σ → Prop) (E : List (C × σ) → σ → Prop) : Prop where
  returns : ∀ log s a s', P log s → (run h m).exec s = (.ok a, s') → Q a (log ++ made h m s) s'
  stops : ∀ log s e s', P log s → (run h m).exec s = (.error e, s') → E (log ++ made h m s) s'

section
variable {P P' : List (C × σ) → σ → Prop} {Q Q' : α → List (C × σ) → σ → Prop}
  {T : β → List (C × σ) → σ → Prop} {E : List (C × σ) → σ → Prop}

/-- The rule for a result. -/
theorem Logged.pure {a : α} (hQ : ∀ log s, P log s → Q a log s) :
    Logged h P (pure a : Calls C R α) Q E where
  returns log s b s' hP hb := by
    cases hb
    rw [show made h (Pure.pure a : Calls C R α) s = [] from rfl, List.append_nil]
    exact hQ log s hP
  stops log s e s' _ hb := by cases hb

/-- The rule for a call: it is appended to the log with the state before it. -/
theorem Logged.make {c : C} {Q : R c → List (C × σ) → σ → Prop}
    (hok : ∀ log s r s', P log s → (h c).exec s = (.ok r, s') → Q r (log ++ [(c, s)]) s')
    (herror : ∀ log s e s', P log s → (h c).exec s = (.error e, s') → E (log ++ [(c, s)]) s') :
    Logged h P (make c) Q E where
  returns log s r s' hP hr := by
    rw [run_make] at hr
    rw [Calls.make, made_call_of_ok hr, show made h (done r : Calls C R (R c)) s' = [] from rfl]
    exact hok log s r s' hP hr
  stops log s e s' hP he := by
    rw [run_make] at he
    rw [Calls.make, made_call_of_error he]
    exact herror log s e s' hP he

/-- The rule for a composed tree. -/
theorem Logged.bind (hm : Logged h P m Q E) (hf : ∀ a, Logged h (Q a) (f a) T E) :
    Logged h P (m >>= f) T E where
  returns log s b s' hP hb := by
    rw [run_bind, exec_bind] at hb
    rcases ha : (run h m).exec s with ⟨e | a, s1⟩ <;> rw [ha] at hb
    · cases hb
    · rw [made_bind_of_ok ha, ← List.append_assoc]
      exact (hf a).returns _ s1 b s' (hm.returns log s a s1 hP ha) hb
  stops log s e s' hP he := by
    rw [run_bind, exec_bind] at he
    rcases ha : (run h m).exec s with ⟨e' | a, s1⟩ <;> rw [ha] at he
    · cases he
      rw [made_bind_of_error ha]
      exact hm.stops log s e s' hP ha
    · rw [made_bind_of_ok ha, ← List.append_assoc]
      exact (hf a).stops _ s1 e s' (hm.returns log s a s1 hP ha) he

/-- The rule of consequence. -/
theorem Logged.weaken {E' : List (C × σ) → σ → Prop} (hm : Logged h P m Q E)
    (hP : ∀ log s, P' log s → P log s) (hQ : ∀ a log s, Q a log s → Q' a log s)
    (hE : ∀ log s, E log s → E' log s) : Logged h P' m Q' E' where
  returns log s a s' hs ha := hQ a _ s' (hm.returns log s a s' (hP log s hs) ha)
  stops log s e s' hs he := hE _ s' (hm.stops log s e s' (hP log s hs) he)

/-- The rule for two results about one tree. -/
theorem Logged.and {E' : List (C × σ) → σ → Prop} (hm : Logged h P m Q E)
    (hm' : Logged h P' m Q' E') :
    Logged h (fun log s => P log s ∧ P' log s) m (fun a log s => Q a log s ∧ Q' a log s)
      fun log s => E log s ∧ E' log s where
  returns log s a s' hP ha :=
    ⟨hm.returns log s a s' hP.1 ha, hm'.returns log s a s' hP.2 ha⟩
  stops log s e s' hP he := ⟨hm.stops log s e s' hP.1 he, hm'.stops log s e s' hP.2 he⟩

/-- A part of the assumption that is not about the log or the state is a hypothesis. -/
theorem Logged.and_left {φ : Prop} (hm : φ → Logged h P m Q E) :
    Logged h (fun log s => φ ∧ P log s) m Q E where
  returns log s a s' hP := (hm hP.1).returns log s a s' hP.2
  stops log s e s' hP := (hm hP.1).stops log s e s' hP.2

/-- The rule for a precondition with a witness. -/
theorem Logged.exists_left {γ : Type} {P : γ → List (C × σ) → σ → Prop}
    (hm : ∀ x, Logged h (P x) m Q E) : Logged h (fun log s => ∃ x, P x log s) m Q E where
  returns log s a s' := by
    intro ⟨x, hP⟩
    exact (hm x).returns log s a s' hP
  stops log s e s' := by
    intro ⟨x, hP⟩
    exact (hm x).stops log s e s' hP

/-- The rule for a branch. -/
theorem Logged.ite {c : Prop} [Decidable c] {m' : Calls C R α} (hm : c → Logged h P m Q E)
    (hm' : ¬ c → Logged h P m' Q E) : Logged h P (if c then m else m') Q E := by
  split
  · rename_i hc
    exact hm hc
  · rename_i hc
    exact hm' hc

/-- The rule for a loop. `J done` is the invariant after the items `done`. -/
theorem Logged.forM {f : β → Calls C R PUnit} {J : List β → List (C × σ) → σ → Prop} :
    ∀ (bs done : List β),
      (∀ pre b post, bs = pre ++ b :: post →
        Logged h (J (done ++ pre)) (f b) (fun _ => J (done ++ pre ++ [b])) E) →
      Logged h (J done) (forM bs f) (fun _ => J (done ++ bs)) E := by
  intro bs
  induction bs with
  | nil =>
    intro done _
    rw [List.append_nil]
    exact Logged.pure fun _ _ hJ => hJ
  | cons b bs ih =>
    intro done hf
    rw [List.forM_cons]
    have hhead := hf [] b bs rfl
    rw [List.append_nil] at hhead
    refine hhead.bind fun _ => ?_
    have htail := ih (done ++ [b]) fun pre c post hbs => by
      have hstep := hf (b :: pre) c post (by rw [hbs]; rfl)
      rwa [List.append_cons] at hstep
    rwa [List.append_assoc, List.singleton_append] at htail

/-- The rule for a loop with an accumulator. -/
theorem Logged.foldlM {f : α → β → Calls C R α}
    {J : List β → α → List (C × σ) → σ → Prop} :
    ∀ (bs done : List β) (a : α),
      (∀ pre b post a, bs = pre ++ b :: post →
        Logged h (J (done ++ pre) a) (f a b) (J (done ++ pre ++ [b])) E) →
      Logged h (J done a) (bs.foldlM f a) (J (done ++ bs)) E := by
  intro bs
  induction bs with
  | nil =>
    intro done a _
    rw [List.append_nil]
    exact Logged.pure fun _ _ hJ => hJ
  | cons b bs ih =>
    intro done a hf
    rw [List.foldlM_cons]
    have hhead := hf [] b bs a rfl
    rw [List.append_nil] at hhead
    refine hhead.bind fun a' => ?_
    have htail := ih (done ++ [b]) a' fun pre c post a hbs => by
      have hstep := hf (b :: pre) c post a (by rw [hbs]; rfl)
      rwa [List.append_cons] at hstep
    rwa [List.append_assoc, List.singleton_append] at htail

end

end

end Calls
