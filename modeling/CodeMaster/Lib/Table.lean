import Mathlib.Data.List.Nodup
import Mathlib.Data.List.Dedup
import Mathlib.Data.List.Induction

/-!
# `CodeMaster.Lib.Table`: a relational table with a primary key

A `Table key` is a list of rows whose keys are pairwise different. The list order is the
order of insertion. The primary key is a field of the structure, so a table that breaks it
cannot be built, and every operation below returns a table again:

* `insert?` is SQL's `INSERT`. It fails when the key is taken.
* `update` is `UPDATE ... SET ... WHERE p`, for a `SET` clause that does not write the key.
* `delete` is `DELETE ... WHERE p`, and `upsert` is `INSERT OR REPLACE`.
* `find?` is the lookup by key.

The lemmas say which rows each operation leaves (`mem_update`, `mem_delete`, `mem_insert?`,
`mem_upsert`) and that the key determines the row (`eq_of_key_eq`, `find?_eq_some_iff`).
`mem_foldl_upsert` says that a run of upserts leaves the last row of each key. `update_congr`
compares two updates on the rows that they write, and `update_update` joins two updates with one
`WHERE` clause. `find?_update_key` is the lookup after an update of one row.

A `Column` pairs a column of a row with what a request body says about it, and
`keeps_iff_atDefaults` is the frame law of a request that writes the whole row.

The last part is SQL's three-valued logic: a comparison with `NULL` is unknown, and a
`WHERE` clause keeps a row only when its condition is true.
-/

set_option autoImplicit false

namespace Relational

universe u v

/-- Rows with pairwise different keys, in the order of insertion. -/
structure Table {α : Type u} {κ : Type v} (key : α → κ) where
  rows : List α
  nodup : (rows.map key).Nodup

namespace Table

variable {α : Type u} {κ : Type v} {key : α → κ}

/-- A table is its rows. -/
@[ext] theorem ext {t t' : Table key} (h : t.rows = t'.rows) : t = t' := by
  cases t; cases t'; cases h; rfl

/-- Two tables are equal when their rows are. -/
instance [DecidableEq α] : DecidableEq (Table key) := fun t t' =>
  decidable_of_iff (t.rows = t'.rows) ⟨ext, congrArg rows⟩

/-- The empty table. -/
instance : Inhabited (Table key) := ⟨⟨[], List.nodup_nil⟩⟩

/-- A table without rows. -/
def empty : Table key := ⟨[], List.nodup_nil⟩

/-- A table with the given rows. -/
def ofList (rows : List α) (h : (rows.map key).Nodup) : Table key := ⟨rows, h⟩

/-- The keys of the rows. -/
def keys (t : Table key) : List κ := t.rows.map key

/-- A key is that of a row. -/
@[simp] theorem mem_keys {t : Table key} {k : κ} :
    k ∈ t.keys ↔ ∃ r ∈ t.rows, key r = k := by
  simp [keys]

/-- A row that was appended has its key in the table. -/
theorem mem_keys_of_append {t t' : Table key} {r : α} (h : t'.rows = t.rows ++ [r]) :
    key r ∈ t'.keys :=
  mem_keys.mpr ⟨r, h ▸ List.mem_append_right _ (List.mem_singleton.mpr rfl), rfl⟩

/-- Two rows with the same key are one row. -/
theorem eq_of_key_eq (t : Table key) {r r' : α} (hr : r ∈ t.rows) (hr' : r' ∈ t.rows)
    (h : key r = key r') : r = r' :=
  List.inj_on_of_nodup_map t.nodup hr hr' h

/-- Different rows of a table have different keys. -/
theorem nodup_map_key (t : Table key) {rows : List α} (hrows : rows.Nodup)
    (hsub : ∀ r ∈ rows, r ∈ t.rows) : (rows.map key).Nodup :=
  List.Nodup.map_on (fun r hr r' hr' h => t.eq_of_key_eq (hsub r hr) (hsub r' hr') h) hrows

/-- Rows of the table are determined by their images, if these have the keys. -/
theorem map_inj_of_key {β : Type*} (t : Table key) (keyOf : β → κ) {f : α → β}
    (hf : ∀ r, keyOf (f r) = key r) {xs ys : List α} (hxs : ∀ r ∈ xs, r ∈ t.rows)
    (hys : ∀ r ∈ ys, r ∈ t.rows) : xs.map f = ys.map f ↔ xs = ys := by
  constructor
  · intro h
    induction xs generalizing ys with
    | nil => exact (List.map_eq_nil_iff.mp h.symm).symm
    | cons x xs ih =>
      cases ys with
      | nil => cases h
      | cons y ys =>
        rw [List.map_cons, List.map_cons, List.cons.injEq] at h
        rw [List.forall_mem_cons] at hxs hys
        have hkey : key x = key y := by rw [← hf, ← hf, h.1]
        rw [t.eq_of_key_eq hxs.1 hys.1 hkey, ih hxs.2 hys.2 h.2]
  · rintro rfl
    rfl

/-! ### Lookup and insertion -/

section Keyed
variable [DecidableEq κ]

/-- The row with the key `k`. -/
def find? (t : Table key) (k : κ) : Option α := t.rows.find? (fun r => key r = k)

/-- The row that is found is the one with the key. -/
theorem find?_eq_some_iff {t : Table key} {k : κ} {r : α} :
    t.find? k = some r ↔ r ∈ t.rows ∧ key r = k := by
  constructor
  · intro h
    exact ⟨List.mem_of_find?_eq_some h, by simpa using List.find?_some h⟩
  · rintro ⟨hr, hk⟩
    -- The search finds some row with the key, which is this one.
    cases hf : t.find? k with
    | none =>
      have := List.find?_eq_none.mp hf r hr
      simp [hk] at this
    | some r' =>
      have hk' : key r' = k := by simpa using List.find?_some hf
      rw [t.eq_of_key_eq hr (List.mem_of_find?_eq_some hf) (hk.trans hk'.symm)]

/-- No row is found when none has the key. -/
theorem find?_eq_none_iff {t : Table key} {k : κ} :
    t.find? k = none ↔ k ∉ t.keys := by
  simp [find?, keys]

/-- `INSERT`: the new row goes last, unless its key is taken. -/
def insert? (t : Table key) (r : α) : Option (Table key) :=
  if h : key r ∈ t.keys then none
  else some ⟨t.rows ++ [r], by
    rw [List.map_append, List.nodup_append]
    refine ⟨t.nodup, List.nodup_singleton _, ?_⟩
    rintro a ha b hb rfl
    rw [List.map_singleton, List.mem_singleton] at hb
    exact h (hb ▸ ha)⟩

/-- An insert succeeds when the key is new, and puts the row at the end. -/
theorem insert?_eq_some_iff {t t' : Table key} {r : α} :
    t.insert? r = some t' ↔ key r ∉ t.keys ∧ t'.rows = t.rows ++ [r] := by
  unfold insert?
  split
  · simp_all
  · rename_i h
    simp only [Option.some.injEq, h, not_false_eq_true, true_and]
    constructor
    · rintro rfl; rfl
    · intro h'; exact ext h'.symm

/-- An insert fails when the key is taken. -/
theorem insert?_eq_none_iff {t : Table key} {r : α} :
    t.insert? r = none ↔ key r ∈ t.keys := by
  unfold insert?
  split <;> simp_all

/-- An insertion with a free key succeeds. -/
theorem exists_insert? {t : Table key} {r : α} (h : key r ∉ t.keys) :
    ∃ t', t.insert? r = some t' := by
  cases hi : t.insert? r with
  | some t' => exact ⟨t', rfl⟩
  | none => exact absurd (insert?_eq_none_iff.mp hi) h

/-- The rows after an insert. -/
theorem mem_insert? {t t' : Table key} {r x : α} (h : t.insert? r = some t') :
    x ∈ t'.rows ↔ x ∈ t.rows ∨ x = r := by
  simp [(insert?_eq_some_iff.mp h).2]

/-- The keys after an insert. -/
theorem mem_keys_insert? {t t' : Table key} {r : α} {k : κ} (h : t.insert? r = some t') :
    k ∈ t'.keys ↔ k ∈ t.keys ∨ key r = k := by
  simp [keys, (insert?_eq_some_iff.mp h).2, eq_comm]

end Keyed

/-! ### Update and deletion -/

/-- A column that `f` keeps is kept when `f` is applied to some of the rows. -/
theorem map_update_of_kept {κ' : Type v} {column : α → κ'} (rows : List α) (p : α → Bool)
    {f : α → α} (hf : ∀ r, column (f r) = column r) :
    (rows.map fun r => if p r then f r else r).map column = rows.map column := by
  rw [List.map_map]
  refine List.map_congr_left fun r _ => ?_
  show column (if p r then f r else r) = column r
  split
  · exact hf r
  · rfl

/-- `UPDATE ... SET f WHERE p`. The `SET` clause does not write the key. -/
def update (t : Table key) (p : α → Bool) (f : α → α) (hf : ∀ r, key (f r) = key r) :
    Table key where
  rows := t.rows.map fun r => if p r then f r else r
  nodup := by
    rw [map_update_of_kept t.rows p hf]
    exact t.nodup

/-- `DELETE ... WHERE p`. -/
def delete (t : Table key) (p : α → Bool) : Table key where
  rows := t.rows.filter fun r => !p r
  nodup := t.nodup.sublist (List.filter_sublist.map key)

/-- The rows after an update. -/
theorem mem_update {t : Table key} {p : α → Bool} {f : α → α}
    {hf : ∀ r, key (f r) = key r} {x : α} :
    x ∈ (t.update p f hf).rows ↔ ∃ r ∈ t.rows, x = if p r then f r else r := by
  show x ∈ t.rows.map (fun r => if p r then f r else r) ↔ _
  rw [List.mem_map]
  exact exists_congr fun r => and_congr_right fun _ => eq_comm

/-- An update keeps the keys. -/
@[simp] theorem keys_update (t : Table key) (p : α → Bool) (f : α → α)
    (hf : ∀ r, key (f r) = key r) : (t.update p f hf).keys = t.keys :=
  map_update_of_kept t.rows p hf

/-- The rows after a deletion. -/
@[simp] theorem mem_delete {t : Table key} {p : α → Bool} {x : α} :
    x ∈ (t.delete p).rows ↔ x ∈ t.rows ∧ p x = false := by
  simp [delete]

/-- The keys after the deletion of one. -/
theorem mem_keys_delete [DecidableEq κ] (t : Table key) {k k' : κ} :
    k ∈ (t.delete fun r => key r = k').keys ↔ k ∈ t.keys ∧ k ≠ k' := by
  simp only [mem_keys, mem_delete, decide_eq_false_iff_not]
  constructor
  · rintro ⟨r, ⟨hr, hne⟩, rfl⟩
    exact ⟨⟨r, hr, rfl⟩, hne⟩
  · rintro ⟨⟨r, hr, rfl⟩, hne⟩
    exact ⟨r, ⟨hr, hne⟩, rfl⟩

section Upsert
variable [DecidableEq κ]

/-- `INSERT OR REPLACE`: the row replaces the one with its key, if there is one. -/
def upsert (t : Table key) (r : α) : Table key where
  rows := (t.delete fun x => key x = key r).rows ++ [r]
  nodup := by
    rw [List.map_append, List.nodup_append]
    refine ⟨(t.delete _).nodup, List.nodup_singleton _, ?_⟩
    intro k hk k' hk' heq
    obtain ⟨x, hx, rfl⟩ := List.mem_map.mp hk
    rw [List.map_singleton, List.mem_singleton] at hk'
    have hne := (mem_delete.mp hx).2
    exact of_decide_eq_false hne (heq.trans hk')

/-- The rows after an upsert: the row takes the place of the one with its key. -/
theorem mem_upsert {t : Table key} {r x : α} :
    x ∈ (t.upsert r).rows ↔ (x ∈ t.rows ∧ key x ≠ key r) ∨ x = r := by
  simp [upsert]

/-- What is found after an upsert. -/
theorem find?_upsert (t : Table key) (r : α) (k : κ) :
    (t.upsert r).find? k = if key r = k then some r else t.find? k := by
  ext x
  split
  · rename_i hk
    rw [find?_eq_some_iff, mem_upsert, Option.some_inj]
    constructor
    · rintro ⟨⟨-, hne⟩ | rfl, hx⟩
      · exact absurd (hx.trans hk.symm) hne
      · rfl
    · rintro rfl
      exact ⟨Or.inr rfl, hk⟩
  · rename_i hk
    rw [find?_eq_some_iff, find?_eq_some_iff, mem_upsert]
    constructor
    · rintro ⟨⟨hx, -⟩ | rfl, hxk⟩
      · exact ⟨hx, hxk⟩
      · exact absurd hxk hk
    · rintro ⟨hx, hxk⟩
      exact ⟨Or.inl ⟨hx, fun heq => hk (heq.symm.trans hxk)⟩, hxk⟩

/-- The row is the last one of the list with its key. -/
def IsLast (key : α → κ) (xs : List α) (x : α) : Prop :=
  ∃ pre post, xs = pre ++ x :: post ∧ ∀ y ∈ post, key y ≠ key x

omit [DecidableEq κ] in
/-- The last element with its key, after one more element. -/
theorem isLast_append {xs : List α} {x y : α} :
    IsLast key (xs ++ [y]) x ↔ x = y ∨ (IsLast key xs x ∧ key x ≠ key y) := by
  constructor
  · rintro ⟨pre, post, happend, hpost⟩
    rcases List.eq_nil_or_concat post with rfl | ⟨post, z, rfl⟩
    · exact Or.inl (List.cons.inj (List.append_inj' happend rfl).2).1.symm
    · right
      rw [List.concat_eq_append, ← List.cons_append, ← List.append_assoc] at happend
      obtain ⟨hxs, hlast⟩ := List.append_inj' happend rfl
      obtain rfl := List.cons.inj hlast |>.1
      rw [List.concat_eq_append] at hpost
      refine ⟨⟨pre, post, hxs, fun z hz => hpost z (List.mem_append_left _ hz)⟩, fun heq => ?_⟩
      exact hpost y (List.mem_append_right _ List.mem_cons_self) heq.symm
  · rintro (rfl | ⟨⟨pre, post, rfl, hpost⟩, hne⟩)
    · exact ⟨xs, [], rfl, fun _ h => absurd h List.not_mem_nil⟩
    · refine ⟨pre, post ++ [y], by rw [List.append_assoc, List.cons_append], ?_⟩
      intro z hz
      rcases List.mem_append.mp hz with hz | hz
      · exact hpost z hz
      · rw [List.mem_singleton.mp hz]
        exact hne.symm

/-- After a run of such statements the table has the last row of each key. -/
theorem mem_foldl_upsert {xs : List α} {x : α} :
    x ∈ (xs.foldl upsert (empty : Table key)).rows ↔ IsLast key xs x := by
  induction xs using List.reverseRecOn with
  | nil =>
    refine iff_of_false List.not_mem_nil ?_
    rintro ⟨pre, post, happend, -⟩
    exact absurd happend.symm (List.append_ne_nil_of_right_ne_nil _ (List.cons_ne_nil _ _))
  | append_singleton xs y ih =>
    rw [List.foldl_append, List.foldl_cons, List.foldl_nil, mem_upsert, isLast_append, ih, or_comm]

/-- What is found after the deletion of a key. -/
theorem find?_delete_key (t : Table key) (k k' : κ) :
    (t.delete fun x => key x = k').find? k = if k = k' then none else t.find? k := by
  ext x
  rw [find?_eq_some_iff, mem_delete]
  split
  · rename_i hk
    simp only [decide_eq_false_iff_not, reduceCtorEq, iff_false]
    rintro ⟨⟨-, hne⟩, hx⟩
    exact hne (hx.trans hk)
  · rename_i hk
    rw [find?_eq_some_iff, decide_eq_false_iff_not]
    constructor
    · rintro ⟨⟨hx, -⟩, hxk⟩
      exact ⟨hx, hxk⟩
    · rintro ⟨hx, hxk⟩
      exact ⟨⟨hx, fun heq => hk (hxk.symm.trans heq)⟩, hxk⟩

/-- Tables that agree on every key have the same rows. -/
theorem rows_perm_of_find?_eq {t t' : Table key} (h : ∀ k, t.find? k = t'.find? k) :
    t.rows.Perm t'.rows := by
  refine (List.perm_ext_iff_of_nodup t.nodup.of_map t'.nodup.of_map).mpr fun x => ?_
  have hx := h (key x)
  constructor
  · intro hmem
    exact (find?_eq_some_iff.mp (hx.symm.trans (find?_eq_some_iff.mpr ⟨hmem, rfl⟩))).1
  · intro hmem
    exact (find?_eq_some_iff.mp (hx.trans (find?_eq_some_iff.mpr ⟨hmem, rfl⟩))).1

end Upsert

/-- What an update writes matters only on the rows that it writes. -/
theorem update_congr {t : Table key} {p : α → Bool} {f g : α → α}
    {hf : ∀ r, key (f r) = key r} {hg : ∀ r, key (g r) = key r}
    (h : ∀ r ∈ t.rows, p r = true → f r = g r) : t.update p f hf = t.update p g hg := by
  apply ext
  show t.rows.map _ = t.rows.map _
  refine List.map_congr_left fun r hr => ?_
  by_cases hp : p r = true
  · rw [if_pos hp, if_pos hp, h r hr hp]
  · rw [if_neg hp, if_neg hp]

/-- Two updates with one `WHERE` clause, which the first does not change, are one update. -/
theorem update_update (t : Table key) (p : α → Bool) (f g : α → α)
    (hf : ∀ r, key (f r) = key r) (hg : ∀ r, key (g r) = key r) (hp : ∀ r, p (f r) = p r) :
    (t.update p f hf).update p g hg
      = t.update p (fun r => g (f r)) (fun r => (hg _).trans (hf r)) := by
  apply ext
  show (t.rows.map _).map _ = t.rows.map _
  rw [List.map_map]
  refine List.map_congr_left fun r _ => ?_
  show (if p (if p r then f r else r) then g (if p r then f r else r)
    else if p r then f r else r) = _
  -- A row that the first update writes still satisfies the clause.
  by_cases h : p r
  · simp [h, hp]
  · simp [h]

/-- What is found after the update of one key. -/
theorem find?_update_key [DecidableEq κ] (t : Table key) (k k' : κ) {f : α → α}
    (hf : ∀ r, key (f r) = key r) :
    (t.update (fun r => key r = k) f hf).find? k'
      = if k' = k then (t.find? k).map f else t.find? k' := by
  have hkeep : ∀ r, key (if key r = k then f r else r) = key r := by
    intro r
    split
    · exact hf r
    · rfl
  have hmap : (t.update (fun r => key r = k) f hf).find? k'
      = (t.find? k').map fun r => if key r = k then f r else r := by
    show (t.rows.map _).find? _ = _
    rw [List.find?_map, find?]
    congr 2
    · funext r
      simp
    · funext r
      simp [hkeep]
  rw [hmap]
  cases hfind : t.find? k' with
  | none =>
    split
    · rename_i hk
      rw [← hk, hfind]
      rfl
    · rfl
  | some r =>
    have hr : key r = k' := (find?_eq_some_iff.mp hfind).2
    split
    · rename_i hk
      rw [← hk, hfind]
      simp [hr]
    · rename_i hk
      simp [hr, hk]

/-! ### A second unique key -/

/-- `UNIQUE(...)`: the rows differ pairwise in `key'`, too. -/
def UniqueOn {κ' : Type v} (t : Table key) (key' : α → κ') : Prop := (t.rows.map key').Nodup

section UniqueOn
variable {κ' : Type v} {key' : α → κ'}

/-- Whether a second key is unique is decidable. -/
instance [DecidableEq κ'] (t : Table key) : Decidable (t.UniqueOn key') :=
  inferInstanceAs (Decidable (t.rows.map key').Nodup)

/-- Two rows with one second key are the same row. -/
theorem UniqueOn.eq {t : Table key} (h : t.UniqueOn key') {r r' : α} (hr : r ∈ t.rows)
    (hr' : r' ∈ t.rows) (heq : key' r = key' r') : r = r' :=
  List.inj_on_of_nodup_map h hr hr' heq

/-- An update that keeps the second key keeps it unique. -/
theorem UniqueOn.update {t : Table key} (h : t.UniqueOn key') (p : α → Bool) {f : α → α}
    (hf : ∀ r, key (f r) = key r) (hf' : ∀ r, key' (f r) = key' r) :
    (t.update p f hf).UniqueOn key' := by
  show ((t.rows.map fun r => if p r then f r else r).map key').Nodup
  rw [map_update_of_kept t.rows p hf']
  exact h

/-- A deletion keeps the second key unique. -/
theorem UniqueOn.delete {t : Table key} (h : t.UniqueOn key') (p : α → Bool) :
    (t.delete p).UniqueOn key' := List.Nodup.sublist (List.filter_sublist.map key') h

/-- An insert of a new second key keeps it unique. -/
theorem UniqueOn.insert? [DecidableEq κ] {t t' : Table key} {r : α} (h : t.UniqueOn key')
    (hr : ∀ x ∈ t.rows, key' x ≠ key' r) (hi : t.insert? r = some t') : t'.UniqueOn key' := by
  unfold UniqueOn at *
  rw [(insert?_eq_some_iff.mp hi).2, List.map_append, List.nodup_append]
  refine ⟨h, List.nodup_singleton _, ?_⟩
  rintro a ha b hb rfl
  rw [List.map_singleton, List.mem_singleton] at hb
  obtain ⟨x, hx, rfl⟩ := List.mem_map.mp ha
  exact hr x hx hb

end UniqueOn

/-- `LEFT JOIN`: the matching rows, or one row of `NULL`s when nothing matches. -/
def leftJoin (rows : List α) : List (Option α) := if rows.isEmpty then [none] else rows.map some

/-- A row of the join is a match, or the row of `NULL`s when there is none. -/
theorem exists_mem_leftJoin {rows : List α} {P : Option α → Prop} :
    (∃ o ∈ leftJoin rows, P o) ↔ (rows = [] ∧ P none) ∨ ∃ r ∈ rows, P (some r) := by
  cases rows <;> simp [leftJoin]

end Table

/-! ### Columns that a request may leave out -/

/-- A column of a row, and what a request body says about it. A column that the body leaves
out is written with the value `unsent`. -/
structure Column (Row : Type u) (Body : Type v) where
  Value : Type
  get : Row → Value
  sent : Body → Option Value
  unsent : Value

namespace Column

variable {Row : Type u} {Body : Type v} {columns : List (Column Row Body)} {body : Body}
  {before after : Row}

/-- Each column that the body leaves out is the same in both rows. -/
def Keeps (columns : List (Column Row Body)) (body : Body) (before after : Row) : Prop :=
  ∀ c ∈ columns, c.sent body = none → c.get after = c.get before

/-- Each column that the body leaves out has the value with which it would be written. -/
def AtDefaults (columns : List (Column Row Body)) (body : Body) (row : Row) : Prop :=
  ∀ c ∈ columns, c.sent body = none → c.get row = c.unsent

/-- A write of the whole row keeps what the body leaves out exactly where it was at its
default. -/
theorem keeps_iff_atDefaults (h : AtDefaults columns body after) :
    Keeps columns body before after ↔ AtDefaults columns body before := by
  refine forall_congr' fun c => forall_congr' fun hc => forall_congr' fun hsent => ?_
  rw [h c hc hsent]
  exact eq_comm

end Column

/-! ### Three-valued logic -/

/-- A truth value of SQL. `none` is unknown. -/
abbrev Truth := Option Bool

namespace Truth

variable {α : Type u}

/-- `a = b`, unknown when one side is `NULL`. -/
def eq [DecidableEq α] : Option α → Option α → Truth
  | some a, some b => some (a = b)
  | _, _ => none

/-- `a IS NOT NULL`. -/
def isNotNull (a : Option α) : Truth := some a.isSome

/-- `a OR b`. -/
def or : Truth → Truth → Truth
  | some true, _ => some true
  | _, some true => some true
  | some false, some false => some false
  | _, _ => none

/-- `a AND b`. -/
def and : Truth → Truth → Truth
  | some false, _ => some false
  | _, some false => some false
  | some true, some true => some true
  | _, _ => none

/-- A `WHERE` clause keeps the rows for which its condition is true. -/
def holds (a : Truth) : Bool := a = some true

/-- An equation of SQL holds between values that are there and equal. -/
@[simp] theorem holds_eq [DecidableEq α] (a b : Option α) :
    (eq a b).holds = true ↔ ∃ v, a = some v ∧ b = some v := by
  cases a <;> cases b <;> simp [eq, holds, eq_comm]

/-- `IS NOT NULL` holds of a value that is there. -/
@[simp] theorem holds_isNotNull (a : Option α) :
    (isNotNull a).holds = true ↔ ∃ v, a = some v := by
  cases a <;> simp [isNotNull, holds]

/-- A disjunction holds when a part does. -/
@[simp] theorem holds_or (a b : Truth) :
    (or a b).holds = true ↔ a.holds = true ∨ b.holds = true := by
  rcases a with _ | _ | _ <;> rcases b with _ | _ | _ <;> simp [or, holds]

/-- A conjunction holds when both parts do. -/
@[simp] theorem holds_and (a b : Truth) :
    (and a b).holds = true ↔ a.holds = true ∧ b.holds = true := by
  rcases a with _ | _ | _ <;> rcases b with _ | _ | _ <;> simp [and, holds]

end Truth

end Relational
