import Mathlib.Data.List.Induction

/-!
# `CodeMaster.Lib.Replay`: what a log with gaps still says

Operations are applied to a memory, one after the other, and a log keeps only some of them.
A cell of the memory is read by `read`. Each operation either leaves the cell or writes it,
and the written value does not depend on the memory (`Cell`).

`Cell.carriedOut` is for systems that do not carry out every operation they are asked for.
`Cell.read_filter` says that the replay of the log gives the cell its true value when the log
has kept the last operation that writes the cell, whatever else it has lost.
-/

set_option autoImplicit false

namespace Replay

universe u v w

variable {μ : Type u} {ι : Type v} {β : Type w}

/-- The operations that satisfy `writes` determine the value of the cell, and the others
leave it. -/
structure Cell (apply : μ → ι → μ) (read : μ → β) (writes : ι → Bool) : Prop where
  frame : ∀ m i, writes i = false → read (apply m i) = read m
  write : ∀ m m' i, writes i = true → read (apply m i) = read (apply m' i)

/-- The last operation that satisfies `p`, if there is one, satisfies `keep`. -/
def LastKept (p keep : ι → Bool) (is : List ι) : Prop := (is.reverse.find? p).all keep = true

variable {apply : μ → ι → μ} {read : μ → β} {writes p p' keep : ι → Bool}

/-- The condition on the last input is decidable. -/
instance (is : List ι) : Decidable (LastKept p keep is) :=
  inferInstanceAs (Decidable ((is.reverse.find? p).all keep = true))

/-- One more input that writes is the last one. -/
theorem lastKept_append_of_pos {is : List ι} {i : ι} (hi : p i = true) :
    LastKept p keep (is ++ [i]) ↔ keep i = true := by
  simp [LastKept, hi]

/-- One more input that does not write leaves the last one. -/
theorem lastKept_append_of_neg {is : List ι} {i : ι} (hi : p i = false) :
    LastKept p keep (is ++ [i]) ↔ LastKept p keep is := by
  simp [LastKept, hi]

/-- Operations that are not carried out leave the memory. It is enough to know that the last one
of the kind is kept when all of the kind are carried out, or none. -/
theorem LastKept.carriedOut {is : List ι} (h : LastKept p keep is) {c : ι → Bool}
    (hc : (∀ i, p i = true → c i = true) ∨ (∀ i, p i = true → c i = false)) :
    LastKept (fun i => p i && c i) keep is := by
  rcases hc with hall | hnone
  · have heq : (fun i => p i && c i) = p := by
      funext i
      cases hi : p i with
      | true => rw [hall i hi]; rfl
      | false => rfl
    rwa [heq]
  · have heq : (fun i => p i && c i) = fun _ => false := by
      funext i
      cases hi : p i with
      | true => rw [hnone i hi]; rfl
      | false => rfl
    have hfind : is.reverse.find? (fun _ => false) = none := by
      simp [List.find?_eq_none]
    rw [heq, LastKept, hfind]
    rfl

/-- The inputs that are carried out write the cell like the inputs themselves. -/
theorem Cell.carriedOut {κ : Type v} (h : Cell apply read writes) (f : κ → ι) (c : κ → Bool) :
    Cell (fun m k => if c k then apply m (f k) else m) read (fun k => writes (f k) && c k) where
  frame m k hk := by
    cases hc : c k with
    | true =>
      rw [hc, Bool.and_true] at hk
      simpa using h.frame m (f k) hk
    | false => rfl
  write m m' k hk := by
    obtain ⟨hwrites, hc⟩ := Bool.and_eq_true_iff.mp hk
    simpa [hc] using h.write m m' (f k) hwrites

/-- Dropping inputs does not matter for a cell whose last write is kept. The induction is from the
end of the list. -/
theorem Cell.read_filter (h : Cell apply read writes) (m : μ) (is : List ι)
    (hlast : LastKept writes keep is) :
    read ((is.filter keep).foldl apply m) = read (is.foldl apply m) := by
  induction is using List.reverseRecOn with
  | nil => rfl
  | append_singleton is i ih =>
    rw [List.filter_append, List.foldl_append, List.foldl_append]
    cases hi : writes i with
    | true =>
      have hkeep : keep i = true := (lastKept_append_of_pos hi).mp hlast
      rw [List.filter_cons_of_pos hkeep]
      exact h.write _ _ i hi
    | false =>
      -- The operation leaves the cell, in the log or not.
      have hstep := ih ((lastKept_append_of_neg hi).mp hlast)
      show _ = read (apply (is.foldl apply m) i)
      rw [h.frame _ i hi, ← hstep]
      cases hkeep : keep i with
      | true =>
        rw [List.filter_cons_of_pos hkeep]
        exact h.frame _ i hi
      | false =>
        rw [List.filter_cons_of_neg (by simp [hkeep])]
        rfl

end Replay
