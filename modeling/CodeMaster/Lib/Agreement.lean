import CodeMaster.Lib.Exec

/-!
# `CodeMaster.Lib.Agreement`: two programs that agree up to a relation

`Agree R m m'`: from states that `R` relates, the two programs return the same or stop with the same
exception, and they leave states that `R` relates. The rules follow the construction of the two
programs, which have the same shape. When `R` ignores a part of the state, they say that this part,
and an input that only goes there, does not interfere with the rest.
-/

set_option autoImplicit false

namespace Exec

variable {ε σ α β : Type} {R : σ → σ → Prop}

/-- Two methods agree for a relation between states: from related states they come to equal results,
and to related states again. -/
def Agree (R : σ → σ → Prop) (m m' : Exec ε σ α) : Prop :=
  ∀ s t, R s t → (m.exec s).1 = (m'.exec t).1 ∧ R (m.exec s).2 (m'.exec t).2

/-- The rule for a result. -/
theorem Agree.pure (R : σ → σ → Prop) (a : α) : Agree R (pure a : Exec ε σ α) (pure a) :=
  fun _ _ h => ⟨rfl, h⟩

/-- The rule for an exception. -/
theorem Agree.throw (R : σ → σ → Prop) (e : ε) :
    Agree R (throw e : Exec ε σ α) (throw e) := fun _ _ h => ⟨rfl, h⟩

/-- The rule for a query. -/
theorem Agree.query {f f' : σ → α} (hf : ∀ s t, R s t → f s = f' t) :
    Agree R (query f : Exec ε σ α) (query f') :=
  fun s t h => ⟨congrArg Except.ok (hf s t h), h⟩

/-- The rule for a write. -/
theorem Agree.modify {f f' : σ → σ} (hf : ∀ s t, R s t → R (f s) (f' t)) :
    Agree R (modify f : Exec ε σ PUnit) (modify f') :=
  fun s t h => ⟨rfl, hf s t h⟩

/-- The rule for a branch, whose condition is the same on both sides. -/
theorem Agree.ite {c : Prop} [Decidable c] {m m' n n' : Exec ε σ α} (hm : Agree R m m')
    (hn : Agree R n n') : Agree R (if c then m else n) (if c then m' else n') := by
  split
  · exact hm
  · exact hn

/-- The statements are refused together, and with the same exception. -/
theorem Agree.statement {f f' : σ → Except ε σ}
    (hok : ∀ s t s', R s t → f s = .ok s' → ∃ t', f' t = .ok t' ∧ R s' t')
    (herror : ∀ s t e, R s t → f s = .error e → f' t = .error e) :
    Agree R (statement f) (statement f') := by
  intro s t h
  cases hf : f s with
  | error e =>
    rw [exec_statement_of_error hf, exec_statement_of_error (herror s t e h hf)]
    exact ⟨rfl, h⟩
  | ok s' =>
    obtain ⟨t', hf', ht'⟩ := hok s t s' h hf
    rw [exec_statement_of_ok hf, exec_statement_of_ok hf']
    exact ⟨rfl, ht'⟩

/-- The rule for two parts. -/
theorem Agree.bind {m m' : Exec ε σ α} {f f' : α → Exec ε σ β} (hm : Agree R m m')
    (hf : ∀ a, Agree R (f a) (f' a)) : Agree R (m >>= f) (m' >>= f') := by
  intro s t h
  obtain ⟨hvalue, hstate⟩ := hm s t h
  rw [exec_bind, exec_bind]
  rcases hs : m.exec s with ⟨r, s'⟩
  rcases ht : m'.exec t with ⟨r', t'⟩
  rw [hs, ht] at hvalue hstate
  -- The first parts stop together, or go on with the same value.
  cases hvalue
  cases r with
  | error e => exact ⟨rfl, hstate⟩
  | ok a => exact hf a s' t' hstate

end Exec
