import Mathlib.Algebra.Group.Nat.Defs
import Mathlib.Data.List.Basic

/-!
# `CodeMaster.Lib.FixedWidth`: texts of zero-padded decimal fields

A layout is a list of literal characters and of number fields of a fixed width. `render` writes
numbers into the fields. When every number fits its field, the texts compare as the lists of
numbers do (`render_lt`): a text column of such texts sorts by the numbers.

`lt_of_divMod` is the step from a number to its fields: a number compares as its quotient and its
remainder do.
-/

set_option autoImplicit false

namespace FixedWidth

/-- The last `width` decimal digits of a number, the most significant first. -/
def digits : Nat → Nat → List Char
  | 0, _ => []
  | width + 1, n => digits width (n / 10) ++ [Nat.digitChar (n % 10)]

/-- As many digits as the width. -/
@[simp] theorem length_digits (width n : Nat) : (digits width n).length = width := by
  induction width generalizing n with
  | zero => rfl
  | succ width ih => simp [digits, ih]

/-- The digits are in the order of their values. -/
theorem digitChar_lt {d d' : Nat} (hlt : d < d') (hd' : d' < 10) :
    Nat.digitChar d < Nat.digitChar d' := by
  have hall : ∀ d' : Fin 10, ∀ d : Fin d', Nat.digitChar d < Nat.digitChar d' := by decide
  exact hall ⟨d', hd'⟩ ⟨d, hlt⟩

/-! ### The lexicographic order -/

/-- Of two lists that start with as many elements, the first difference decides. -/
theorem append_lt_append {α : Type} [LT α] {a a' : List α} (b b' : List α)
    (hlength : a.length = a'.length) (hlt : a < a') : a ++ b < a' ++ b' := by
  induction a generalizing a' with
  | nil =>
    cases a' with
    | nil => cases hlt
    | cons x' a' => cases hlength
  | cons x a ih =>
    cases a' with
    | nil => cases hlength
    | cons x' a' =>
      rw [List.cons_append, List.cons_append, List.cons_lt_cons_iff]
      rcases List.cons_lt_cons_iff.mp hlt with hx | ⟨hx, hrest⟩
      · exact Or.inl hx
      · exact Or.inr ⟨hx, ih (Nat.succ.inj hlength) hrest⟩

/-- A number compares as its quotient and its remainder do. -/
theorem lt_of_divMod {m n : Nat} (k : Nat) (hlt : m < n) :
    m / k < n / k ∨ m / k = n / k ∧ m % k < n % k := by
  rcases Nat.lt_or_ge (m / k) (n / k) with hquotient | hquotient
  · exact Or.inl hquotient
  · have heq : m / k = n / k :=
      Nat.le_antisymm (Nat.div_le_div_right (Nat.le_of_lt hlt)) hquotient
    have hm := Nat.div_add_mod m k
    have hn := Nat.div_add_mod n k
    rw [heq] at hm
    exact Or.inr ⟨heq, by omega⟩

/-- Numbers of one width are in the order of their texts. -/
theorem digits_lt {width m n : Nat} (hlt : m < n) (hn : n < 10 ^ width) :
    digits width m < digits width n := by
  induction width generalizing m n with
  | zero => omega
  | succ width ih =>
    have hfits : n / 10 < 10 ^ width := by omega
    rcases lt_of_divMod 10 hlt with hquotient | ⟨hquotient, hremainder⟩
    · exact append_lt_append _ _ (by simp) (ih hquotient hfits)
    · -- The last digits differ.
      show digits width (m / 10) ++ _ < digits width (n / 10) ++ _
      rw [hquotient]
      have hlast := digitChar_lt hremainder (Nat.mod_lt n (by decide))
      exact List.append_left_lt (List.cons_lt_cons_iff.mpr (Or.inl hlast))

/-! ### Layouts -/

/-- A literal character, or a field for a number. -/
inductive Piece where
  | literal (c : Char)
  | number (width : Nat)
  deriving DecidableEq, Repr

/-- Write the numbers into the fields. A field without a number is left out. -/
def render : List Piece → List Nat → List Char
  | [], _ => []
  | .literal c :: pieces, values => c :: render pieces values
  | .number width :: pieces, n :: values => digits width n ++ render pieces values
  | .number _ :: pieces, [] => render pieces []

/-- There is a number for each field, and it fits. -/
def Fits : List Piece → List Nat → Prop
  | [], values => values = []
  | .literal _ :: pieces, values => Fits pieces values
  | .number width :: pieces, n :: values => n < 10 ^ width ∧ Fits pieces values
  | .number _ :: _, [] => False

/-- The length of the texts of a layout. -/
def length : List Piece → Nat
  | [] => 0
  | .literal _ :: pieces => 1 + length pieces
  | .number width :: pieces => width + length pieces

/-- A text has the length of its pieces, when the values fit. -/
theorem length_render {pieces : List Piece} {values : List Nat} (hfits : Fits pieces values) :
    (render pieces values).length = length pieces := by
  induction pieces generalizing values with
  | nil => rfl
  | cons piece pieces ih =>
    cases piece with
    | literal c => simp [render, length, ih hfits, Nat.add_comm]
    | number width =>
      cases values with
      | nil => exact absurd hfits id
      | cons n values => simp [render, length, ih hfits.2]

/-- The texts compare as the numbers do. -/
theorem render_lt {pieces : List Piece} {values values' : List Nat} (hfits : Fits pieces values)
    (hfits' : Fits pieces values') (hlt : values < values') :
    render pieces values < render pieces values' := by
  induction pieces generalizing values values' with
  | nil =>
    cases hfits
    cases hfits'
    cases hlt
  | cons piece pieces ih =>
    cases piece with
    | literal c => exact List.cons_lt_cons_iff.mpr (Or.inr ⟨rfl, ih hfits hfits' hlt⟩)
    | number width =>
      cases values with
      | nil => exact absurd hfits id
      | cons n values =>
        cases values' with
        | nil => exact absurd hfits' id
        | cons n' values' =>
          rcases List.cons_lt_cons_iff.mp hlt with hn | ⟨rfl, hrest⟩
          · exact append_lt_append _ _ (by simp) (digits_lt hn hfits'.1)
          · exact List.append_left_lt (ih hfits.2 hfits'.2 hrest)

end FixedWidth
