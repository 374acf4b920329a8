import Mathlib.Data.List.TakeWhile

/-!
# `CodeMaster.Core.Text`: the string functions of .NET that the code calls

A C# `string` is a Lean `String`, and a nullable one is an `Option String`. Lean's strings
are sequences of Unicode scalar values, while a .NET string can hold unpaired surrogates. The
text of a request and the values of a database are valid Unicode and hold none.

A JSON document can spell one with an escape, such as `\ud800`: it parses, and then `GetString`
throws on this string. Documents with such escapes are left out of the models. The JSON texts of
the models are those whose strings are Unicode.
-/

set_option autoImplicit false

namespace CodeMaster.Core

/-- `char.IsWhiteSpace`: the space, line and paragraph separators, tab to carriage return,
and next line. -/
def isWhiteSpace (c : Char) : Bool :=
  let n := c.toNat
  (0x09 ≤ n ∧ n ≤ 0x0D) ∨ n = 0x20 ∨ n = 0x85 ∨ n = 0xA0 ∨ n = 0x1680
    ∨ (0x2000 ≤ n ∧ n ≤ 0x200A) ∨ n = 0x2028 ∨ n = 0x2029 ∨ n = 0x202F ∨ n = 0x205F
    ∨ n = 0x3000

/-- `string.IsNullOrEmpty`. -/
def isNullOrEmpty (s : Option String) : Bool := s.all fun s => s.toList.isEmpty

/-- `string.IsNullOrWhiteSpace`. -/
def isNullOrWhiteSpace (s : Option String) : Bool := s.all fun s => s.toList.all isWhiteSpace

/-- `string.Trim`: drop the characters that satisfy `p` from both ends. -/
def trim (p : Char → Bool) (s : String) : String :=
  String.ofList ((s.toList.dropWhile p).reverse.dropWhile p).reverse

/-- `string.Length`: the number of UTF-16 code units. -/
def utf16Length (s : String) : Nat :=
  s.toList.foldr (fun c length => (if c.toNat < 0x10000 then 1 else 2) + length) 0

/-- `null` is null or empty. -/
@[simp] theorem isNullOrEmpty_none : isNullOrEmpty none = true := rfl

/-- A text is null or empty when it is empty. -/
@[simp] theorem isNullOrEmpty_some (s : String) : isNullOrEmpty (some s) = decide (s = "") := by
  rw [isNullOrEmpty, Option.all_some, Bool.eq_iff_iff, List.isEmpty_iff, decide_eq_true_eq]
  exact String.toList_eq_nil_iff

/-- A text that is not null or empty is there and not empty. -/
theorem isNullOrEmpty_eq_false {s : Option String} :
    isNullOrEmpty s = false ↔ ∃ v, s = some v ∧ v ≠ "" := by
  cases s <;> simp

/-- A text is blank when all of its characters are. -/
theorem isNullOrWhiteSpace_some (s : String) :
    isNullOrWhiteSpace (some s) = s.toList.all isWhiteSpace := rfl

/-- A text that starts with a text that is not blank is not blank. -/
theorem isNullOrWhiteSpace_append {s : String} (h : isNullOrWhiteSpace (some s) = false)
    (rest : String) : isNullOrWhiteSpace (some (s ++ rest)) = false := by
  have hs : s.toList.all isWhiteSpace = false := h
  show (s ++ rest).toList.all isWhiteSpace = false
  rw [String.toList_append, List.all_append, hs, Bool.false_and]

/-- Nothing is left of a text that is trimmed away. -/
theorem trim_of_all {p : Char → Bool} {s : String} (h : s.toList.all p = true) :
    trim p s = "" := by
  have hnil : s.toList.dropWhile p = [] := List.dropWhile_eq_nil_iff.mpr (List.all_eq_true.mp h)
  rw [trim, hnil]
  rfl

/-! ### What `Trim` leaves -/

/-- Neither the first character nor the last one satisfies `p`. -/
structure Trimmed (p : Char → Bool) (s : String) : Prop where
  head : ∀ c, s.toList.head? = some c → p c = false
  last : ∀ c, s.toList.getLast? = some c → p c = false

/-- Nothing is dropped when the first character does not satisfy the predicate. -/
theorem dropWhile_eq_self {α : Type} {p : α → Bool} {cs : List α}
    (h : ∀ c, cs.head? = some c → p c = false) : cs.dropWhile p = cs := by
  cases cs with
  | nil => rfl
  | cons c cs => rw [List.dropWhile_cons, h c rfl, if_neg Bool.false_ne_true]

/-- What is left starts with a character that does not satisfy the predicate. -/
theorem head_dropWhile {α : Type} {p : α → Bool} {cs : List α} {c : α}
    (h : (cs.dropWhile p).head? = some c) : p c = false := by
  have hnot := List.head?_dropWhile_not p cs
  rwa [h] at hnot

/-- `Trim` leaves a text with such ends. -/
theorem trim_of_trimmed {p : Char → Bool} {s : String} (h : Trimmed p s) : trim p s = s := by
  have hlast : ∀ c, s.toList.reverse.head? = some c → p c = false := by
    intro c hc
    rw [List.head?_reverse] at hc
    exact h.last c hc
  rw [trim, dropWhile_eq_self h.head, dropWhile_eq_self hlast, List.reverse_reverse,
    String.ofList_toList]

/-- What `Trim` leaves begins where the first `dropWhile` stops. -/
theorem trim_toList_prefix_dropWhile (p : Char → Bool) (s : String) :
    (trim p s).toList <+: s.toList.dropWhile p := by
  rw [trim, String.toList_ofList, ← List.reverse_reverse (s.toList.dropWhile p),
    List.reverse_prefix, List.reverse_reverse]
  exact List.dropWhile_suffix p

/-- Trimming takes characters away. -/
theorem trim_sublist (p : Char → Bool) (s : String) : (trim p s).toList.Sublist s.toList :=
  (trim_toList_prefix_dropWhile p s).sublist.trans (List.dropWhile_suffix p).sublist

/-- A trimmed text is trimmed. -/
theorem trimmed_trim (p : Char → Bool) (s : String) : Trimmed p (trim p s) where
  head c hc := by
    obtain ⟨rest, hrest⟩ := trim_toList_prefix_dropWhile p s
    refine @head_dropWhile _ p s.toList c ?_
    rw [← hrest, List.head?_append, hc]
    rfl
  last c hc := by
    rw [trim, String.toList_ofList, List.getLast?_reverse] at hc
    exact head_dropWhile hc

/-- `Trim` leaves a text without such characters. -/
theorem trim_eq_self {p : Char → Bool} {s : String} (h : ∀ c ∈ s.toList, p c = false) :
    trim p s = s := by
  refine trim_of_trimmed ⟨?_, ?_⟩
  · intro c hc
    exact h c (List.mem_of_head? hc)
  · intro c hc
    exact h c (List.mem_of_getLast? hc)

/-- Only a text of such characters is trimmed away. -/
theorem trim_eq_empty_iff {p : Char → Bool} {s : String} :
    trim p s = "" ↔ s.toList.all p = true := by
  refine ⟨fun h => ?_, trim_of_all⟩
  -- What the first `dropWhile` leaves would begin with another character.
  have hall : ∀ c ∈ s.toList.dropWhile p, p c = true := by
    rw [trim, String.ofList_eq_empty_iff, List.reverse_eq_nil_iff, List.dropWhile_eq_nil_iff] at h
    intro c hc
    exact h c (List.mem_reverse.mpr hc)
  have hnil : s.toList.dropWhile p = [] := by
    cases hcs : s.toList.dropWhile p with
    | nil => rfl
    | cons c cs =>
      have hhead : (s.toList.dropWhile p).head? = some c := by rw [hcs, List.head?_cons]
      have hmem : c ∈ s.toList.dropWhile p := List.mem_of_head? hhead
      exact absurd (hall c hmem) (Bool.eq_false_iff.mp (head_dropWhile hhead))
  exact List.all_eq_true.mpr (List.dropWhile_eq_nil_iff.mp hnil)

/-- Trimming leaves a text that is trimmed, and no other one. -/
theorem trim_eq_self_iff {p : Char → Bool} {s : String} : trim p s = s ↔ Trimmed p s :=
  ⟨fun h => h ▸ trimmed_trim p s, trim_of_trimmed⟩

/-- A string that is not blank is not empty. -/
theorem ne_empty_of_not_isNullOrWhiteSpace {s : String}
    (h : isNullOrWhiteSpace (some s) = false) : s ≠ "" := by
  rintro rfl
  exact absurd h (by decide)

end CodeMaster.Core
