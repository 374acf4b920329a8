import Mathlib.Data.List.Infix
import Mathlib.Data.List.Nodup
import Mathlib.Data.List.Pairwise

/-!
# `CodeMaster.Lib.Template`: names that are glued around an identifier

A template puts a fixed text before an identifier and one after it, with nothing escaped and
nothing to mark where the identifier ends. `fill_injective` says that one template keeps different
identifiers apart. Two templates can give the same name for two identifiers, unless the texts
before the identifier are no prefix of each other, or the texts after it are no suffix of each
other. `nodup_fills` has the names of several identifiers under several templates.
-/

set_option autoImplicit false

universe u

/-- The text before an identifier, and the text after it. -/
structure Template (α : Type u) where
  before : List α
  after : List α

namespace Template

variable {α : Type u}

/-- The name of the identifier. -/
def fill (t : Template α) (id : List α) : List α := t.before ++ id ++ t.after

/-- Neither list begins with the other. -/
def PrefixApart (s t : List α) : Prop := ¬s <+: t ∧ ¬t <+: s

/-- Neither list ends with the other. -/
def SuffixApart (s t : List α) : Prop := ¬s <:+ t ∧ ¬t <:+ s

/-- The two templates never give the same name. -/
def Apart (t u : Template α) : Prop := PrefixApart t.before u.before ∨ SuffixApart t.after u.after

/-- A template makes different texts of different ids. -/
theorem fill_injective (t : Template α) : Function.Injective t.fill := by
  intro x y h
  exact List.append_cancel_left (List.append_cancel_right h)

/-- A text starts as its template does. -/
theorem before_prefix_fill (t : Template α) (id : List α) : t.before <+: t.fill id := by
  unfold fill
  rw [List.append_assoc]
  exact List.prefix_append t.before (id ++ t.after)

/-- A text ends as its template does. -/
theorem after_suffix_fill (t : Template α) (id : List α) : t.after <:+ t.fill id :=
  List.suffix_append (t.before ++ id) t.after

/-- Whatever the identifiers are, one name would begin and end as both templates say. -/
theorem Apart.fill_ne {t u : Template α} (h : Apart t u) (x y : List α) : t.fill x ≠ u.fill y := by
  intro heq
  rcases h with hbefore | hafter
  · have hu : u.before <+: t.fill x := heq ▸ before_prefix_fill u y
    rcases List.prefix_or_prefix_of_prefix (before_prefix_fill t x) hu with h | h
    · exact hbefore.1 h
    · exact hbefore.2 h
  · have hu : u.after <:+ t.fill x := heq ▸ after_suffix_fill u y
    rcases List.suffix_or_suffix_of_suffix (after_suffix_fill t x) hu with h | h
    · exact hafter.1 h
    · exact hafter.2 h

/-- Whether two templates are apart is decidable. -/
instance [DecidableEq α] (t u : Template α) : Decidable (Apart t u) :=
  inferInstanceAs (Decidable ((¬t.before <+: u.before ∧ ¬u.before <+: t.before)
    ∨ (¬t.after <:+ u.after ∧ ¬u.after <:+ t.after)))

/-- To be apart is symmetric. -/
instance : Std.Symm (@Apart α) where
  symm t u h := by
    rcases h with h | h
    · exact Or.inl ⟨h.2, h.1⟩
    · exact Or.inr ⟨h.2, h.1⟩

/-- The template with more text before it. -/
def prepend (text : List α) (t : Template α) : Template α := { t with before := text ++ t.before }

/-- A text before both templates keeps them apart. -/
theorem Apart.prepend {t u : Template α} (h : Apart t u) (text : List α) :
    Apart (t.prepend text) (u.prepend text) := by
  rcases h with hbefore | hafter
  · refine Or.inl ⟨fun hprefix => hbefore.1 ?_, fun hprefix => hbefore.2 ?_⟩
    · exact (List.prefix_append_right_inj text).mp hprefix
    · exact (List.prefix_append_right_inj text).mp hprefix
  · exact Or.inr hafter

/-- A common prefix keeps templates apart. -/
theorem pairwise_prepend {templates : List (Template α)} (h : templates.Pairwise Apart)
    (text : List α) : (templates.map (prepend text)).Pairwise Apart :=
  List.pairwise_map.mpr (h.imp fun hapart => hapart.prepend text)

/-- The names of things with different identifiers are pairwise different. -/
theorem nodup_fills {ι : Type*} {templates : List (Template α)} (h : templates.Pairwise Apart)
    {items : List ι} {id : ι → List α} (hids : (items.map id).Nodup) :
    (items.flatMap fun i => templates.map fun t => t.fill (id i)).Nodup := by
  refine List.nodup_flatMap.mpr ⟨fun i _ => ?_, (List.pairwise_map.mp hids).imp fun {i j} hne => ?_⟩
  · exact List.pairwise_map.mpr (h.imp fun hapart => hapart.fill_ne (id i) (id i))
  · -- A name of two identifiers is not from one template, and not from two.
    intro name hi hj
    obtain ⟨t, ht, rfl⟩ := List.mem_map.mp hi
    obtain ⟨u, hu, heq⟩ := List.mem_map.mp hj
    by_cases htu : t = u
    · subst htu
      exact hne (t.fill_injective heq.symm)
    · exact (h.forall ht hu htu).fill_ne (id i) (id j) heq.symm

end Template
