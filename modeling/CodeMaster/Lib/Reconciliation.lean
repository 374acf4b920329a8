import Mathlib.Data.Finset.Card
import Mathlib.Data.Finset.Image
import Mathlib.Logic.Function.Basic

/-!
# `CodeMaster.Lib.Reconciliation`: bring a device to a list of wanted items

A device has numbered cells with a content each. A table records which item a cell is for,
and whether the device is known to hold the code of that item. Reconciling the two with a
list of wanted items has two phases:

* `release` empties the cells of the items that are not wanted.
* `Fill` goes through the wanted items. Each one keeps its cell, has its cell programmed
  again, or gets a free cell of the room that is left (`Place`). Which free cell it gets is
  left open.

`Place.agrees`, `Place.distinct`, ... say what one step keeps, and `Fill.invariant` takes them
to the whole phase. The main results are `converges` (with room for all, every wanted item is
in one cell, and the device holds its code there) and `Reconciled.code_of_content` (no cell
holds the code of anything else).
-/

set_option autoImplicit false

namespace Reconciliation

universe u v w

variable {ι : Type u} {α : Type v} {β : Type w}

/-- The item that the table records for a cell, whether that record is settled, and what the
device holds in the cell. -/
structure Cell (α : Type v) (β : Type w) where
  item : Option α := none
  synced : Bool := true
  content : Option β := none

/-- A memory has a cell at every index. -/
abbrev Memory (ι : Type u) (α : Type v) (β : Type w) := ι → Cell α β

/-- The device holds something only in a cell that is for an item, and in a settled cell it
holds the code of the item, if the item has one. -/
structure Agrees (code : α → Option β) (m : Memory ι α β) : Prop where
  item_of_content : ∀ i b, (m i).content = some b → ∃ a, (m i).item = some a
  content_of_synced : ∀ i a b, (m i).item = some a → (m i).synced = true → code a = some b →
    (m i).content = some b

/-- No item has two cells. -/
def Distinct (m : Memory ι α β) : Prop :=
  ∀ i j a, (m i).item = some a → (m j).item = some a → i = j

/-- Every cell with an item is in the room. -/
def Within (room : Finset ι) (m : Memory ι α β) : Prop := ∀ i a, (m i).item = some a → i ∈ room

/-- The cells are for wanted items only. -/
def Only (wanted : List α) (m : Memory ι α β) : Prop := ∀ i a, (m i).item = some a → a ∈ wanted

/-- Every cell with an item is settled. -/
def Settled (m : Memory ι α β) : Prop := ∀ i a, (m i).item = some a → (m i).synced = true

/-! ### Releasing cells -/

section Release
variable [DecidableEq α] {wanted : List α} {m : Memory ι α β} {code : α → Option β}

/-- Empty the cells whose item is not wanted. -/
def release (wanted : List α) (m : Memory ι α β) : Memory ι α β := fun i =>
  if (m i).item.all fun a => a ∈ wanted then m i else {}

/-- A cell for a wanted item is kept. -/
theorem release_of_wanted {i : ι} (h : ∀ a, (m i).item = some a → a ∈ wanted) :
    release wanted m i = m i := by
  unfold release
  cases hitem : (m i).item with
  | none => rfl
  | some a => rw [Option.all_some, decide_eq_true (h a hitem), if_pos rfl]

/-- A cell for an unwanted item is emptied. -/
theorem release_of_unwanted {i : ι} {a : α} (hitem : (m i).item = some a) (h : a ∉ wanted) :
    release wanted m i = {} := by
  unfold release
  rw [hitem, Option.all_some, decide_eq_false h]
  rfl

/-- A cell with an item after the release is as it was, and its item is wanted. -/
theorem release_of_item {i : ι} {a : α} (h : (release wanted m i).item = some a) :
    release wanted m i = m i ∧ a ∈ wanted := by
  unfold release at h ⊢
  split at h
  · rename_i hall
    rw [if_pos hall]
    rw [h, Option.all_some] at hall
    exact ⟨rfl, of_decide_eq_true hall⟩
  · cases h

/-- After the release, all items are wanted. -/
theorem release_only : Only wanted (release wanted m) := fun _ _ h => (release_of_item h).2

/-- The release keeps the contents of the cells that it keeps. -/
theorem Agrees.release (h : Agrees code m) : Agrees code (release wanted m) where
  item_of_content i b hcontent := by
    unfold Reconciliation.release at hcontent ⊢
    split at hcontent
    · rename_i hall
      rw [if_pos hall]
      exact h.item_of_content i b hcontent
    · cases hcontent
  content_of_synced i a b hitem hsynced hcode := by
    obtain ⟨hcell, -⟩ := release_of_item hitem
    rw [hcell] at hitem hsynced ⊢
    exact h.content_of_synced i a b hitem hsynced hcode

/-- The release keeps the items apart. -/
theorem Distinct.release (h : Distinct m) : Distinct (release wanted m) := by
  intro i j a hi hj
  obtain ⟨hcelli, -⟩ := release_of_item hi
  obtain ⟨hcellj, -⟩ := release_of_item hj
  exact h i j a (hcelli ▸ hi) (hcellj ▸ hj)

/-- The release keeps the items inside of the room. -/
theorem Within.release {room : Finset ι} (h : Within room m) : Within room (release wanted m) :=
  fun i a hitem => h i a ((release_of_item hitem).1 ▸ hitem)

/-- The release leaves a settled memory settled. -/
theorem Settled.release (h : Settled m) : Settled (release wanted m) := by
  intro i a hitem
  obtain ⟨hcell, -⟩ := release_of_item hitem
  rw [hcell] at hitem ⊢
  exact h i a hitem

end Release

/-! ### Room, and what a pass leaves -/

section Room
variable {code : α → Option β} {room : Finset ι} {wanted : List α} {a : α} {m : Memory ι α β}

/-- The pigeonhole argument: while a wanted item has no cell and the cells are for other
wanted items, each with one cell, one cell of the room is free. -/
theorem exists_free (honly : Only wanted m) (hdistinct : Distinct m)
    (ha : a ∈ wanted) (hnew : ∀ j, (m j).item ≠ some a) (hroom : wanted.length ≤ room.card) :
    ∃ i ∈ room, (m i).item = none := by
  classical
  by_contra hfull
  push Not at hfull
  -- The items of the room's cells are wanted, and none of them is `a`.
  have hmaps : Set.MapsTo (fun i => (m i).item) room ((wanted.toFinset.erase a).image some) := by
    intro i hi
    obtain ⟨a', ha'⟩ := Option.ne_none_iff_exists'.mp (hfull i hi)
    have hne : a' ≠ a := fun heq => hnew i (heq ▸ ha')
    have hmem : a' ∈ wanted.toFinset.erase a :=
      Finset.mem_erase.mpr ⟨hne, List.mem_toFinset.mpr (honly i a' ha')⟩
    show (m i).item ∈ (((wanted.toFinset.erase a).image some : Finset (Option α)) : Set _)
    rw [ha']
    exact Finset.mem_coe.mpr (Finset.mem_image_of_mem some hmem)
  -- No item has two cells, so the room has at most as many cells as there are such items.
  have hinj : Set.InjOn (fun i => (m i).item) room := by
    intro i hi j hj heq
    obtain ⟨a', ha'⟩ := Option.ne_none_iff_exists'.mp (hfull i hi)
    exact hdistinct i j a' ha' (heq.symm.trans ha')
  have hcard : room.card ≤ (wanted.toFinset.erase a).card :=
    (Finset.card_le_card_of_injOn _ hmaps hinj).trans Finset.card_image_le
  have herase : (wanted.toFinset.erase a).card < wanted.toFinset.card :=
    Finset.card_erase_lt_of_mem (List.mem_toFinset.mpr ha)
  have hlength : wanted.toFinset.card ≤ wanted.length := List.toFinset_card_le wanted
  omega

/-- The cells that a pass leaves: they agree with the device, and are for wanted items. -/
structure Reconciled (code : α → Option β) (wanted : List α) (m : Memory ι α β) : Prop where
  agrees : Agrees code m
  only : Only wanted m

/-- Where all records are settled, the device holds codes of wanted items only. -/
theorem Reconciled.code_of_content (h : Reconciled code wanted m) (hsettled : Settled m)
    (hcode : ∀ a ∈ wanted, (code a).isSome) {i : ι} {b : β} (hcontent : (m i).content = some b) :
    ∃ a ∈ wanted, (m i).item = some a ∧ code a = some b := by
  obtain ⟨a, hitem⟩ := h.agrees.item_of_content i b hcontent
  have ha := h.only i a hitem
  obtain ⟨b', hb'⟩ := Option.isSome_iff_exists.mp (hcode a ha)
  have hown := h.agrees.content_of_synced i a b' hitem (hsettled i a hitem) hb'
  exact ⟨a, ha, hitem, hb'.trans (hown.symm.trans hcontent)⟩

end Room

/-! ### Filling cells -/

section Place
variable [DecidableEq ι] (code : α → Option β) (room : Finset ι)

/-- The cell of an item whose code was programmed. -/
def programmed (a : α) (b : β) : Cell α β := { item := some a, synced := true, content := some b }

/-- One wanted item: its settled cell stays, its unsettled cell is programmed again, or it
gets a free cell. Without a free cell, nothing happens. -/
inductive Place (a : α) (m : Memory ι α β) : Memory ι α β → Prop
  | keep (i : ι) (hitem : (m i).item = some a) (hsynced : (m i).synced = true) : Place a m m
  | refresh (i : ι) (b : β) (hitem : (m i).item = some a) (hcode : code a = some b) :
      Place a m (Function.update m i (programmed a b))
  | allocate (i : ι) (b : β) (hroom : i ∈ room) (hfree : (m i).item = none)
      (hnew : ∀ j, (m j).item ≠ some a) (hcode : code a = some b) :
      Place a m (Function.update m i (programmed a b))
  | full (hfull : ∀ i ∈ room, (m i).item ≠ none) (hnew : ∀ j, (m j).item ≠ some a) : Place a m m

/-- The wanted items one after the other. -/
inductive Fill (m : Memory ι α β) : List α → Memory ι α β → Prop
  | nil : Fill m [] m
  | snoc {wanted : List α} {a : α} {m1 m2 : Memory ι α β} (hfill : Fill m wanted m1)
      (hplace : Place code room a m1 m2) : Fill m (wanted ++ [a]) m2

variable {code room} {a : α} {m m' : Memory ι α β}

/-- What a step can do to a cell: nothing, or it becomes the programmed cell of the item, and
then it was free or the item's own. -/
theorem Place.cell (h : Place code room a m m') (i : ι) :
    m' i = m i ∨ ∃ b, m' i = programmed a b ∧ code a = some b
      ∧ ((m i).item = some a ∨ (i ∈ room ∧ (m i).item = none ∧ ∀ j, (m j).item ≠ some a)) := by
  cases h with
  | keep => exact Or.inl rfl
  | full => exact Or.inl rfl
  | refresh k b hitem hcode =>
    by_cases hik : i = k
    · subst hik
      exact Or.inr ⟨b, Function.update_self .., hcode, Or.inl hitem⟩
    · exact Or.inl (Function.update_of_ne hik ..)
  | allocate k b hroom hfree hnew hcode =>
    -- The cell was free, and no other cell had the item.
    by_cases hik : i = k
    · subst hik
      exact Or.inr ⟨b, Function.update_self .., hcode, Or.inr ⟨hroom, hfree, hnew⟩⟩
    · exact Or.inl (Function.update_of_ne hik ..)

/-- An item is placed with its content. -/
theorem Place.agrees (h : Place code room a m m') (hm : Agrees code m) : Agrees code m' where
  item_of_content i b hcontent := by
    rcases h.cell i with hcell | ⟨b', hcell, -⟩
    · rw [hcell] at hcontent ⊢
      exact hm.item_of_content i b hcontent
    · rw [hcell]
      exact ⟨a, rfl⟩
  content_of_synced i a' b hitem hsynced hcode := by
    rcases h.cell i with hcell | ⟨b', hcell, hcode', -⟩
    · rw [hcell] at hitem hsynced ⊢
      exact hm.content_of_synced i a' b hitem hsynced hcode
    · rw [hcell] at hitem ⊢
      cases hitem
      exact hcode'.symm.trans hcode

/-- A cell of another item is as it was. -/
theorem Place.cell_of_ne (h : Place code room a m m') {i : ι} {a' : α}
    (hitem : (m' i).item = some a') (hne : a' ≠ a) : m' i = m i := by
  rcases h.cell i with hcell | ⟨b, hcell, -⟩
  · exact hcell
  · rw [hcell] at hitem
    cases hitem
    exact absurd rfl hne

/-- A placed item was not there before, so that the items stay apart. -/
theorem Place.distinct (h : Place code room a m m') (hm : Distinct m) : Distinct m' := by
  intro i j a' hi hj
  by_cases hne : a' = a
  · subst hne
    cases h with
    | keep => exact hm i j a' hi hj
    | full => exact hm i j a' hi hj
    | refresh k b hitem hcode =>
      -- Both are the cell that was programmed, or had the item before.
      have hown : ∀ l, (Function.update m k (programmed a' b) l).item = some a' → l = k := by
        intro l hl
        by_contra hlk
        rw [Function.update_of_ne hlk] at hl
        exact hlk (hm l k a' hl hitem)
      exact (hown i hi).trans (hown j hj).symm
    | allocate k b hroom hfree hnew hcode =>
      have hown : ∀ l, (Function.update m k (programmed a' b) l).item = some a' → l = k := by
        intro l hl
        by_contra hlk
        rw [Function.update_of_ne hlk] at hl
        exact hnew l hl
      exact (hown i hi).trans (hown j hj).symm
  · rw [h.cell_of_ne hi hne] at hi
    rw [h.cell_of_ne hj hne] at hj
    exact hm i j a' hi hj

/-- An item is placed inside of the room. -/
theorem Place.within (h : Place code room a m m') (hm : Within room m) : Within room m' := by
  intro i a' hitem
  rcases h.cell i with hcell | ⟨b, -, -, hown | ⟨hroom, -⟩⟩
  · exact hm i a' (hcell ▸ hitem)
  · exact hm i a hown
  · exact hroom

/-- A wanted item is placed. -/
theorem Place.only {wanted : List α} (h : Place code room a m m') (ha : a ∈ wanted)
    (hm : Only wanted m) : Only wanted m' := by
  intro i a' hitem
  by_cases hne : a' = a
  · exact hne ▸ ha
  · exact hm i a' (h.cell_of_ne hitem hne ▸ hitem)

/-- An item is placed in a settled cell. -/
theorem Place.settled (h : Place code room a m m') (hm : Settled m) : Settled m' := by
  intro i a' hitem
  rcases h.cell i with hcell | ⟨b, hcell, -⟩
  · rw [hcell] at hitem ⊢
    exact hm i a' hitem
  · rw [hcell]
    rfl

/-- A settled cell keeps its item, and stays settled. -/
theorem Place.mono (h : Place code room a m m') {i : ι} {a' : α} (hitem : (m i).item = some a')
    (hsynced : (m i).synced = true) : (m' i).item = some a' ∧ (m' i).synced = true := by
  rcases h.cell i with hcell | ⟨b, hcell, -, hown | ⟨-, hfree, -⟩⟩
  · rw [hcell]
    exact ⟨hitem, hsynced⟩
  · rw [hcell, ← hitem, hown]
    exact ⟨rfl, rfl⟩
  · -- A free cell has no item to keep.
    rw [hfree] at hitem
    cases hitem

/-- With room for all, the item of the step gets a settled cell. -/
theorem Place.stored {wanted : List α} (h : Place code room a m m') (honly : Only wanted m)
    (hdistinct : Distinct m) (ha : a ∈ wanted) (hroom : wanted.length ≤ room.card) :
    ∃ i, (m' i).item = some a ∧ (m' i).synced = true := by
  cases h with
  | keep i hitem hsynced => exact ⟨i, hitem, hsynced⟩
  | refresh i b =>
    refine ⟨i, ?_⟩
    rw [Function.update_self]
    exact ⟨rfl, rfl⟩
  | allocate i b =>
    refine ⟨i, ?_⟩
    rw [Function.update_self]
    exact ⟨rfl, rfl⟩
  | full hfull hnew =>
    -- With room for all this does not happen.
    obtain ⟨i, hi, hfree⟩ := exists_free honly hdistinct ha hnew hroom
    exact absurd hfree (hfull i hi)

/-! ### The whole phase -/

/-- What every step keeps holds after the phase. -/
theorem Fill.invariant {I : Memory ι α β → Prop} {wanted : List α} (h : Fill code room m wanted m')
    (hstep : ∀ a ∈ wanted, ∀ m1 m2, Place code room a m1 m2 → I m1 → I m2) (hm : I m) : I m' := by
  induction h with
  | nil => exact hm
  | snoc hfill hplace ih =>
    have hlast := ih fun a ha => hstep a (List.mem_append_left _ ha)
    exact hstep _ (List.mem_append_right _ (List.mem_singleton.mpr rfl)) _ _ hplace hlast

variable [DecidableEq α] {wanted : List α}

/-- A pass brings the table and the device to the wanted items. -/
theorem reconciled (hagrees : Agrees code m) (h : Fill code room (release wanted m) wanted m') :
    Reconciled code wanted m' where
  agrees := h.invariant (fun _ _ _ _ hplace hm => hplace.agrees hm) hagrees.release
  only := h.invariant (fun _ ha _ _ hplace hm => hplace.only ha hm) release_only

/-- The whole pass leaves a settled memory settled. -/
theorem settled (hsettled : Settled m) (h : Fill code room (release wanted m) wanted m') :
    Settled m' :=
  h.invariant (fun _ _ _ _ hplace hm => hplace.settled hm) hsettled.release

/-- The whole pass keeps the items apart. -/
theorem distinct (hdistinct : Distinct m) (h : Fill code room (release wanted m) wanted m') :
    Distinct m' :=
  h.invariant (fun _ _ _ _ hplace hm => hplace.distinct hm) hdistinct.release

/-- The whole pass keeps the items inside of the room. -/
theorem within (hwithin : Within room m) (h : Fill code room (release wanted m) wanted m') :
    Within room m' :=
  h.invariant (fun _ _ _ _ hplace hm => hplace.within hm) hwithin.release

/-- With room for all, every wanted item has a settled cell. -/
theorem converges (hdistinct : Distinct m) (hroom : wanted.length ≤ room.card)
    (h : Fill code room (release wanted m) wanted m') :
    ∀ a ∈ wanted, ∃ i, (m' i).item = some a ∧ (m' i).synced = true := by
  -- The invariant of the items `done` so far.
  have hfill : ∀ done m1, Fill code room (release wanted m) done m1 →
      (∀ a ∈ done, a ∈ wanted) →
        Only wanted m1 ∧ Distinct m1
          ∧ ∀ a ∈ done, ∃ i, (m1 i).item = some a ∧ (m1 i).synced = true := by
    intro done m1 hdone
    induction hdone with
    | nil => exact fun _ => ⟨release_only, hdistinct.release, nofun⟩
    | @snoc done a m1 m2 _ hplace ih =>
      intro hsub
      have ha : a ∈ wanted := hsub a (List.mem_append_right _ (List.mem_singleton.mpr rfl))
      obtain ⟨honly, hdist, hstored⟩ := ih fun a' ha' => hsub a' (List.mem_append_left _ ha')
      refine ⟨hplace.only ha honly, hplace.distinct hdist, fun a' ha' => ?_⟩
      rcases List.mem_append.mp ha' with ha' | ha'
      · obtain ⟨i, hitem, hsynced⟩ := hstored a' ha'
        exact ⟨i, hplace.mono hitem hsynced⟩
      · rw [List.mem_singleton.mp ha']
        exact hplace.stored honly hdist ha hroom
  exact (hfill wanted m' h fun _ ha => ha).2.2

end Place

end Reconciliation
