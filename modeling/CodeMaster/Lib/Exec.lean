import Mathlib.Logic.Basic

/-!
# `CodeMaster.Lib.Exec`: stateful programs whose failures keep the state

`Exec ε σ α` is a program over a state `σ` that returns an `α` or stops with an `ε`. A
program that stops leaves the state as the steps before the failure made it: this is how a
sequence of auto-committed statements behaves, and how an object behaves whose method
throws half way.

`exec m s` runs `m`, and the `exec_*` lemmas are its simp set. The rules:

* `Preserves I m`: `m` keeps the state predicate `I`, whether it returns or stops.
* `Returns Q m`: every value that `m` returns satisfies `Q`.
* `forM_rule` and `foldlM_rule`: a loop whose body keeps an invariant of the items done so
  far. The first also says what a loop leaves that stops half way.
-/

set_option autoImplicit false

/-- A program over the state `σ` that returns an `α` or stops with an `ε`. -/
abbrev Exec (ε σ α : Type) := ExceptT ε (StateM σ) α

namespace Exec

variable {ε σ α β : Type}

/-- Run the program. The state comes back also when the program stops. -/
def exec (m : Exec ε σ α) (s : σ) : Except ε α × σ := m.run.run s

/-- Read from the state. -/
def query (f : σ → α) : Exec ε σ α := do return f (← get)

/-- A statement that changes the state, or stops and leaves it. -/
def statement (f : σ → Except ε σ) : Exec ε σ Unit := fun s =>
  match f s with
  | .ok s' => (.ok (), s')
  | .error e => (.error e, s)

/-- A sequence of two checks returns when both return. -/
theorem bind_eq_ok {x : Except ε α} {f : α → Except ε β} {b : β} :
    x >>= f = .ok b ↔ ∃ a, x = .ok a ∧ f a = .ok b := by
  constructor
  · intro h
    cases x with
    | error e => cases h
    | ok a => exact ⟨a, rfl, h⟩
  · rintro ⟨a, rfl, h⟩
    exact h

/-- A result changes nothing. -/
@[simp] theorem exec_pure (a : α) (s : σ) : (pure a : Exec ε σ α).exec s = (.ok a, s) := rfl

/-- An exception changes nothing. -/
@[simp] theorem exec_throw (e : ε) (s : σ) :
    (throw e : Exec ε σ α).exec s = (.error e, s) := rfl

/-- A query changes nothing. -/
@[simp] theorem exec_query (f : σ → α) (s : σ) :
    (query f : Exec ε σ α).exec s = (.ok (f s), s) := rfl

/-- Reading the state changes nothing. -/
@[simp] theorem exec_get (s : σ) : (get : Exec ε σ σ).exec s = (.ok s, s) := rfl

/-- A write does not fail. -/
@[simp] theorem exec_modify (f : σ → σ) (s : σ) :
    (modify f : Exec ε σ PUnit).exec s = (.ok (), f s) := rfl

/-- A statement writes or throws. -/
theorem exec_statement (f : σ → Except ε σ) (s : σ) :
    (statement f).exec s
      = match f s with
        | .ok s' => (.ok (), s')
        | .error e => (.error e, s) := rfl

/-- A statement that succeeds. -/
theorem exec_statement_of_ok {f : σ → Except ε σ} {s s' : σ} (h : f s = .ok s') :
    (statement f).exec s = (.ok (), s') := by
  rw [exec_statement, h]

/-- A statement that throws leaves the state. -/
theorem exec_statement_of_error {f : σ → Except ε σ} {s : σ} {e : ε} (h : f s = .error e) :
    (statement f).exec s = (.error e, s) := by
  rw [exec_statement, h]

/-- One part and then the other, unless the first throws. -/
@[simp] theorem exec_bind (m : Exec ε σ α) (f : α → Exec ε σ β) (s : σ) :
    (m >>= f).exec s
      = match m.exec s with
        | (.ok a, s') => (f a).exec s'
        | (.error e, s') => (.error e, s') := by
  show (match m s with
    | (r, s') => (ExceptT.bindCont f r) s') = _
  cases h : m s with
  | mk r s' => cases r <;> simp only [exec, ExceptT.run, StateT.run, h] <;> rfl

/-- A result under a function. -/
@[simp] theorem exec_map (f : α → β) (m : Exec ε σ α) (s : σ) :
    (f <$> m).exec s
      = match m.exec s with
        | (.ok a, s') => (.ok (f a), s')
        | (.error e, s') => (.error e, s') := by
  rw [map_eq_pure_bind, exec_bind]
  rfl

/-- A handler runs on the state that the failed program has left. -/
@[simp] theorem exec_tryCatch (m : Exec ε σ α) (handler : ε → Exec ε σ α) (s : σ) :
    (tryCatch m handler).exec s
      = match m.exec s with
        | (.ok a, s') => (.ok a, s')
        | (.error e, s') => (handler e).exec s' := by
  show (match m s with
    | (r, s') => (match r with
      | .ok a => pure (Except.ok a)
      | .error e => handler e : StateM σ (Except ε α)) s') = _
  cases h : m s with
  | mk r s' =>
    simp only [exec, ExceptT.run, StateT.run, h]
    cases r <;> rfl

/-- A method whose result is not used. -/
@[simp] theorem exec_discard (m : Exec ε σ α) (s : σ) :
    (discard m).exec s
      = match m.exec s with
        | (.ok _, s') => (.ok (), s')
        | (.error e, s') => (.error e, s') := exec_map (fun _ => PUnit.unit) m s

/-- One part and then the other, when the first succeeds. -/
theorem exec_bind_of_ok {m : Exec ε σ α} {f : α → Exec ε σ β} {s s' : σ} {a : α}
    (h : m.exec s = (.ok a, s')) : (m >>= f).exec s = (f a).exec s' := by
  rw [exec_bind, h]

/-- A last step that only returns leaves the state. -/
theorem exec_bind_pure_state (m : Exec ε σ α) (b : β) (s : σ) :
    ((m >>= fun _ => pure b).exec s).2 = (m.exec s).2 := by
  rw [exec_bind]
  rcases m.exec s with ⟨_ | _, s'⟩ <;> rfl

/-- A statement that first reads is a statement. -/
theorem query_bind_statement (g : σ → α) (f : α → σ → Except ε σ) :
    (query g >>= fun a => statement (f a)) = statement fun s => f (g s) s := rfl

/-- A branch. -/
@[simp] theorem exec_ite (c : Prop) [Decidable c] (m m' : Exec ε σ α) (s : σ) :
    (if c then m else m').exec s = if c then m.exec s else m'.exec s := by
  split <;> rfl

/-! ### What a program keeps -/

/-- The program keeps `I`, whether it returns or stops. -/
def Preserves (I : σ → Prop) (m : Exec ε σ α) : Prop := ∀ s, I s → I (m.exec s).2

/-- A result preserves everything. -/
theorem Preserves.pure (I : σ → Prop) (a : α) : Preserves I (pure a : Exec ε σ α) :=
  fun _ h => h

/-- An exception preserves everything. -/
theorem Preserves.throw (I : σ → Prop) (e : ε) : Preserves I (throw e : Exec ε σ α) :=
  fun _ h => h

/-- A query preserves everything. -/
theorem Preserves.query (I : σ → Prop) (f : σ → α) : Preserves I (query f : Exec ε σ α) :=
  fun _ h => h

/-- Reading the state preserves everything. -/
theorem Preserves.get (I : σ → Prop) : Preserves I (get : Exec ε σ σ) := fun _ h => h

/-- A write preserves what its function keeps. -/
theorem Preserves.modify {I : σ → Prop} {f : σ → σ} (hf : ∀ s, I s → I (f s)) :
    Preserves I (modify f : Exec ε σ PUnit) := hf

/-- A branch preserves what both sides do. -/
theorem Preserves.ite {I : σ → Prop} {c : Prop} [Decidable c] {m m' : Exec ε σ α}
    (hm : Preserves I m) (hm' : Preserves I m') : Preserves I (if c then m else m') := by
  split
  · exact hm
  · exact hm'

/-- A statement preserves what its successful writes keep. -/
theorem Preserves.statement {I : σ → Prop} {f : σ → Except ε σ}
    (hf : ∀ s s', I s → f s = .ok s' → I s') : Preserves I (statement f) := by
  intro s hs
  rw [exec_statement]
  cases h : f s with
  | error e => exact hs
  | ok s' => exact hf s s' hs h

/-- `m` only has to keep `I` from the state at hand. -/
theorem Preserves.bind_at {I : σ → Prop} {m : Exec ε σ α} {f : α → Exec ε σ β} {s : σ}
    (hm : I (m.exec s).2) (hf : ∀ a, Preserves I (f a)) : I ((m >>= f).exec s).2 := by
  rw [exec_bind]
  rcases hr : m.exec s with ⟨_ | a, s'⟩ <;> rw [hr] at hm
  · exact hm
  · exact hf a s' hm

/-- Two parts preserve what each of them does. -/
theorem Preserves.bind {I : σ → Prop} {m : Exec ε σ α} {f : α → Exec ε σ β}
    (hm : Preserves I m) (hf : ∀ a, Preserves I (f a)) : Preserves I (m >>= f) :=
  fun s hs => bind_at (hm s hs) hf

/-- A handler preserves what the method and the handler do. -/
theorem Preserves.tryCatch {I : σ → Prop} {m : Exec ε σ α} {handler : ε → Exec ε σ α}
    (hm : Preserves I m) (hhandler : ∀ e, Preserves I (handler e)) :
    Preserves I (tryCatch m handler) := by
  intro s hs
  have hkept := hm s hs
  rw [exec_tryCatch]
  rcases hr : m.exec s with ⟨e | a, s'⟩ <;> rw [hr] at hkept
  · exact hhandler e s' hkept
  · exact hkept

/-- A loop preserves what its body does. The induction is on the list. -/
theorem Preserves.forM {I : σ → Prop} {f : β → Exec ε σ PUnit}
    (hf : ∀ b, Preserves I (f b)) : ∀ bs : List β, Preserves I (forM bs f) := by
  intro bs
  induction bs with
  | nil => exact Preserves.pure I _
  | cons b bs ih =>
    rw [List.forM_cons]
    exact (hf b).bind fun _ => ih

/-- The body only has to keep `I` at the items of the loop. -/
theorem Preserves.foldlM {I : σ → Prop} {f : α → β → Exec ε σ α} :
    ∀ {bs : List β} (a : α), (∀ a, ∀ b ∈ bs, Preserves I (f a b)) →
      Preserves I (bs.foldlM f a) := by
  intro bs
  induction bs with
  | nil => exact fun a _ => Preserves.pure I a
  | cons b bs ih =>
    intro a hf
    rw [List.foldlM_cons]
    exact (hf a b List.mem_cons_self).bind fun a' =>
      ih a' fun a b' hb' => hf a b' (List.mem_cons_of_mem b hb')

/-- A method preserves the same when its result is not used. -/
theorem Preserves.discard {I : σ → Prop} {m : Exec ε σ α} (hm : Preserves I m) :
    Preserves I (discard m) := by
  intro s hs
  have hkept := hm s hs
  rw [exec_discard]
  rcases hr : m.exec s with ⟨_ | a, s'⟩ <;> rw [hr] at hkept <;> exact hkept

/-! ### What a program returns -/

/-- Every value that the program returns satisfies `Q`. -/
def Returns (Q : α → Prop) (m : Exec ε σ α) : Prop := ∀ s a s', m.exec s = (.ok a, s') → Q a

/-- The rule for a result. -/
theorem Returns.pure {Q : α → Prop} {a : α} (ha : Q a) : Returns Q (pure a : Exec ε σ α) := by
  rintro s _ s' ⟨⟩
  exact ha

/-- Only the last step of a sequence matters for the value. -/
theorem Returns.bind {Q : β → Prop} {m : Exec ε σ α} {f : α → Exec ε σ β}
    (hf : ∀ a, Returns Q (f a)) : Returns Q (m >>= f) := by
  intro s b s' h
  rw [exec_bind] at h
  rcases hm : m.exec s with ⟨_ | a, s1⟩ <;> rw [hm] at h
  · cases h
  · exact hf a s1 b s' h

/-! ### Loops -/

/-- The rule for a loop. `I done s` is the invariant after the items `done`. When the body
stops at an item, `E` says what it leaves. -/
theorem forM_rule {f : β → Exec ε σ PUnit} {I : List β → σ → Prop}
    {E : List β → β → ε → σ → Prop} :
    ∀ (bs done : List β) (s s' : σ) (r : Except ε PUnit),
      (∀ done, ∀ b ∈ bs, ∀ s s', I done s → (f b).exec s = (.ok (), s') → I (done ++ [b]) s') →
      (∀ done, ∀ b ∈ bs, ∀ e s s', I done s → (f b).exec s = (.error e, s') → E done b e s') →
      I done s → (forM bs f).exec s = (r, s') →
      (r = .ok () ∧ I (done ++ bs) s')
        ∨ ∃ pre b post e, bs = pre ++ b :: post ∧ r = .error e ∧ E (done ++ pre) b e s' := by
  intro bs
  induction bs with
  | nil =>
    intro done s s' r _ _ hs h
    cases h
    exact Or.inl ⟨rfl, by rwa [List.append_nil]⟩
  | cons b bs ih =>
    intro done s s' r hok herror hs h
    rw [List.forM_cons, exec_bind] at h
    rcases hb : (f b).exec s with ⟨_ | _, s1⟩ <;> rw [hb] at h
    · -- The body stops at the first item.
      cases h
      refine Or.inr ⟨[], b, bs, _, rfl, rfl, ?_⟩
      rw [List.append_nil]
      exact herror done b List.mem_cons_self _ s _ hs hb
    · have hstep := ih (done ++ [b]) s1 s' r
        (fun done b' hb' => hok done b' (List.mem_cons_of_mem _ hb'))
        (fun done b' hb' => herror done b' (List.mem_cons_of_mem _ hb'))
        (hok done b List.mem_cons_self s s1 hs hb) h
      rw [List.append_assoc, List.singleton_append] at hstep
      rcases hstep with hend | ⟨pre, c, post, e, rfl, hr, he⟩
      · exact Or.inl hend
      · refine Or.inr ⟨b :: pre, c, post, e, rfl, hr, ?_⟩
        rwa [List.append_assoc, List.singleton_append] at he

/-- The rule for a loop with an accumulator whose body never stops. -/
theorem foldlM_rule {f : α → β → Exec ε σ α} {I : List β → α → σ → Prop} :
    ∀ (bs done : List β) (a : α) (s : σ),
      (∀ done, ∀ b ∈ bs, ∀ a s, I done a s → ∃ a' s', (f a b).exec s = (.ok a', s')
        ∧ I (done ++ [b]) a' s') →
      I done a s → ∃ a' s', (bs.foldlM f a).exec s = (.ok a', s') ∧ I (done ++ bs) a' s' := by
  intro bs
  induction bs with
  | nil =>
    intro done a s _ hs
    exact ⟨a, s, rfl, by rwa [List.append_nil]⟩
  | cons b bs ih =>
    intro done a s hstep hs
    obtain ⟨a1, s1, hb, hs1⟩ := hstep done b List.mem_cons_self a s hs
    have hrest := ih (done ++ [b]) a1 s1
      (fun done b' hb' => hstep done b' (List.mem_cons_of_mem _ hb')) hs1
    obtain ⟨a', s', hexec, hs'⟩ := hrest
    rw [List.append_assoc, List.singleton_append] at hs'
    refine ⟨a', s', ?_, hs'⟩
    rw [List.foldlM_cons, exec_bind, hb]
    exact hexec

/-- The rule for a loop with an accumulator that has returned. -/
theorem foldlM_returns_rule {f : α → β → Exec ε σ α} {I : List β → α → σ → Prop} :
    ∀ (bs done : List β) (a : α) (s : σ),
      (∀ done, ∀ b ∈ bs, ∀ a s a' s', I done a s → (f a b).exec s = (.ok a', s') →
        I (done ++ [b]) a' s') →
      I done a s → ∀ a' s', (bs.foldlM f a).exec s = (.ok a', s') → I (done ++ bs) a' s' := by
  intro bs
  induction bs with
  | nil =>
    intro done a s _ hs a' s' h
    cases h
    rwa [List.append_nil]
  | cons b bs ih =>
    intro done a s hstep hs a' s' h
    rw [List.foldlM_cons, exec_bind] at h
    rcases hb : (f a b).exec s with ⟨_ | a1, s1⟩ <;> rw [hb] at h
    · cases h
    · have hrest := ih (done ++ [b]) a1 s1
        (fun done b' hb' => hstep done b' (List.mem_cons_of_mem _ hb'))
        (hstep done b List.mem_cons_self a s a1 s1 hs hb) a' s' h
      rwa [List.append_assoc, List.singleton_append] at hrest

end Exec
