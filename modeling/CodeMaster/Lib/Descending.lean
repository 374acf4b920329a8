import Mathlib.Data.List.Sort

/-!
# `CodeMaster.Lib.Descending`: the greatest elements of a list

`descending key` sorts a list by a key, the greatest key first. With pairwise different keys the
result depends on the elements only, and filtering and sorting commute. `IsTop` says in its own
terms what the `n` greatest elements are, and `isTop_take` that the first `n` elements of the sorted
list are these.

A page is a slice of the sorted list. `flatten_pages` puts the pages together again, and
`slice_take_eq_iff` says when the slice of a part of a list is the slice of the list.
-/

set_option autoImplicit false

universe u v w

namespace Descending

variable {α : Type u} {κ : Type v} {κ' : Type w}

/-- Sorted by the key, the greatest first. -/
def descending [LE κ] [DecidableLE κ] (key : α → κ) (xs : List α) : List α :=
  xs.insertionSort fun a b => key b ≤ key a

section Sorting
variable [LE κ] [DecidableLE κ] {key : α → κ} {xs : List α}

/-- A sorted list has the elements of the list. -/
theorem descending_perm (key : α → κ) (xs : List α) : (descending key xs).Perm xs :=
  List.perm_insertionSort _ _

/-- Sorting keeps the elements. -/
@[simp] theorem mem_descending {x : α} : x ∈ descending key xs ↔ x ∈ xs :=
  (descending_perm key xs).mem_iff

/-- Sorting keeps the length. -/
@[simp] theorem length_descending (key : α → κ) (xs : List α) :
    (descending key xs).length = xs.length := (descending_perm key xs).length_eq

/-- Two keys that order the elements alike sort them alike. -/
theorem descending_congr [LE κ'] [DecidableLE κ'] {key' : α → κ'}
    (h : ∀ a ∈ xs, ∀ b ∈ xs, key a ≤ key b ↔ key' a ≤ key' b) :
    descending key xs = descending key' xs := by
  have hmap := List.map_insertionSort (r := fun a b => key b ≤ key a)
    (s := fun a b => key' b ≤ key' a) id xs fun a ha b hb => h b hb a ha
  rwa [List.map_id, List.map_id] at hmap

/-- Sorting by a key of the images. -/
theorem descending_map {β : Type w} (f : β → α) (xs : List β) :
    descending key (xs.map f) = (descending (fun x => key (f x)) xs).map f := by
  refine (List.map_insertionSort (r := fun a b => key (f b) ≤ key (f a))
    (s := fun a b => key b ≤ key a) f xs ?_).symm
  exact fun _ _ _ _ => Iff.rfl

end Sorting

variable [LinearOrder κ] {key : α → κ} {xs ys : List α}

/-- A sorted list descends. -/
theorem pairwise_descending (key : α → κ) (xs : List α) :
    (descending key xs).Pairwise fun a b => key b ≤ key a :=
  have : Std.Total fun a b : α => key b ≤ key a := ⟨fun a b => le_total (key b) (key a)⟩
  have : IsTrans α fun a b => key b ≤ key a := ⟨fun _ _ _ h h' => le_trans h' h⟩
  List.pairwise_insertionSort _ _

/-- With pairwise different keys, a sorted list of the elements is the sorted list. -/
theorem eq_descending (hnodup : (xs.map key).Nodup) (hperm : ys.Perm xs)
    (hsorted : ys.Pairwise fun a b => key b ≤ key a) : ys = descending key xs := by
  refine (hperm.trans (descending_perm key xs).symm).eq_of_pairwise ?_ hsorted
    (pairwise_descending key xs)
  intro a b ha hb hle hge
  exact List.inj_on_of_nodup_map hnodup (hperm.mem_iff.mp ha) (mem_descending.mp hb)
    (le_antisymm hge hle)

/-- With distinct keys, the sorted list does not depend on the order of the list. -/
theorem descending_of_perm (hnodup : (xs.map key).Nodup) (hperm : ys.Perm xs) :
    descending key ys = descending key xs :=
  eq_descending hnodup ((descending_perm key ys).trans hperm) (pairwise_descending key ys)

/-- With distinct keys, filtering before the sort is filtering after it. -/
theorem filter_descending (hnodup : (xs.map key).Nodup) (p : α → Bool) :
    (descending key xs).filter p = descending key (xs.filter p) := by
  refine eq_descending (hnodup.sublist (List.filter_sublist.map key))
    ((descending_perm key xs).filter p) ?_
  exact (pairwise_descending key xs).sublist List.filter_sublist

/-! ### The greatest elements -/

/-- `ys` are the `n` elements of `xs` with the greatest keys, or all of them if there are fewer, the
greatest first. -/
structure IsTop (key : α → κ) (n : Nat) (xs ys : List α) : Prop where
  length : ys.length = min n xs.length
  mem : ∀ y ∈ ys, y ∈ xs
  sorted : ys.Pairwise fun a b => key b < key a
  greatest : ∀ y ∈ ys, ∀ x ∈ xs, x ∉ ys → key x < key y

/-- The first `n` elements of the sorted list are the top ones. -/
theorem isTop_take (hnodup : (xs.map key).Nodup) (n : Nat) :
    IsTop key n xs ((descending key xs).take n) := by
  have hkeys : ((descending key xs).map key).Nodup :=
    ((descending_perm key xs).map key).nodup_iff.mpr hnodup
  have hstrict : (descending key xs).Pairwise fun a b => key b < key a := by
    have hne : (descending key xs).Pairwise fun a b => key a ≠ key b := List.pairwise_map.mp hkeys
    exact (hne.and (pairwise_descending key xs)).imp fun h => lt_of_le_of_ne h.2 h.1.symm
  refine ⟨by simp, fun y hy => mem_descending.mp (List.mem_of_mem_take hy),
    hstrict.sublist (List.take_sublist n _), fun y hy x hx hnot => ?_⟩
  -- The other elements come after the first `n`.
  rw [← List.take_append_drop n (descending key xs), List.pairwise_append] at hstrict
  refine hstrict.2.2 y hy x ?_
  have hmem : x ∈ (descending key xs).take n ++ (descending key xs).drop n := by
    rw [List.take_append_drop]
    exact mem_descending.mpr hx
  exact (List.mem_append.mp hmem).resolve_left hnot

/-! ### Pages -/

/-- The page with the number, counted from 0. -/
def page (size n : Nat) (xs : List α) : List α := (xs.drop (n * size)).take size

/-- The first pages together are the first elements. -/
theorem flatten_pages (size n : Nat) (xs : List α) :
    ((List.range n).map fun i => page size i xs).flatten = xs.take (n * size) := by
  induction n with
  | zero => simp
  | succ n ih =>
    rw [List.range_succ, List.map_append, List.flatten_append, ih, Nat.succ_mul, List.take_add]
    simp [page]

/-- The slice of the first elements is the slice of the list when both are empty, or they start at
the same place and end at the same place. -/
theorem slice_take_eq_iff (hnodup : xs.Nodup) (skip skip' : Nat) {k size : Nat}
    (hk : k ≤ xs.length) (hsize : 0 < size) :
    ((xs.take k).drop skip').take size = (xs.drop skip).take size
      ↔ (xs.length ≤ skip ∧ k ≤ skip')
        ∨ (skip' = skip ∧ min k (skip + size) = min xs.length (skip + size)) := by
  rw [List.drop_take, List.take_take]
  constructor
  · intro h
    have hlength := congrArg List.length h
    simp only [List.length_take, List.length_drop] at hlength
    by_cases hempty : xs.length ≤ skip
    · left
      omega
    · -- Both slices have a first element, and an element has one place.
      right
      have hfirst := congrArg (fun l => l[0]?) h
      simp only [List.getElem?_take, List.getElem?_drop, Nat.add_zero] at hfirst
      rw [if_pos (by omega), if_pos hsize, List.getElem?_eq_getElem (by omega),
        List.getElem?_eq_getElem (by omega), Option.some_inj, hnodup.getElem_inj_iff] at hfirst
      omega
  · rintro (⟨hempty, hpast⟩ | ⟨rfl, hmin⟩)
    · rw [List.drop_eq_nil_of_le hempty, List.take_nil, Nat.sub_eq_zero_of_le hpast]
      simp
    · rw [List.take_eq_take_iff, List.length_drop]
      omega

end Descending
