import Mathlib.Data.Int.Order.Basic
import Mathlib.Data.List.Basic

/-!
# `CodeMaster.Lib.FirstFree`: the first free number of a range

`firstFree lo n occupied` scans the `n` numbers from `lo` on and returns the first one that
`occupied` does not contain. `firstFree_spec` says that the result is in the range and free,
and `mem_of_firstFree_eq_none` that a search only fails when every number is occupied.
-/

set_option autoImplicit false

namespace FirstFree

/-- The first of the numbers `lo, lo + 1, ..., lo + n - 1` that is not occupied. -/
def firstFree (lo : Int) : Nat → List Int → Option Int
  | 0, _ => none
  | n + 1, occupied =>
    if lo ∈ occupied then firstFree (lo + 1) n occupied else some lo

/-- The result is in the range, and free. -/
theorem firstFree_spec {occupied : List Int} {i : Int} :
    ∀ {n : Nat} {lo : Int}, firstFree lo n occupied = some i →
      lo ≤ i ∧ i < lo + n ∧ i ∉ occupied := by
  intro n
  induction n with
  | zero => intro lo h; simp [firstFree] at h
  | succ n ih =>
    intro lo h
    rw [firstFree] at h
    split at h
    · obtain ⟨h1, h2, h3⟩ := ih h
      exact ⟨by omega, by push_cast; omega, h3⟩
    · rename_i hlo
      cases h
      exact ⟨Int.le_refl _, by push_cast; omega, hlo⟩

/-- A search that fails has found every number of the range occupied. -/
theorem mem_of_firstFree_eq_none {occupied : List Int} :
    ∀ {n : Nat} {lo : Int}, firstFree lo n occupied = none →
      ∀ i, lo ≤ i → i < lo + n → i ∈ occupied := by
  intro n
  induction n with
  | zero => intro lo _ i h1 h2; simp at h2; omega
  | succ n ih =>
    intro lo h i h1 h2
    rw [firstFree] at h
    split at h
    · rename_i hlo
      rcases Int.lt_or_eq_of_le h1 with hlt | rfl
      · exact ih h i (by omega) (by push_cast at h2; omega)
      · exact hlo
    · cases h

end FirstFree
