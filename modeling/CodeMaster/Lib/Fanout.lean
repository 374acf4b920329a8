import Mathlib.Data.List.Perm.Subperm
import Mathlib.Data.List.Nodup
import Mathlib.Logic.Function.Basic

/-!
# `CodeMaster.Lib.Fanout`: messages from many publishers to many subscribers

A `Fanout` is a set of subscribers with a queue each. A publication takes the subscribers of the
moment and then writes its message to their queues, one write at a time. Other publications and the
subscribers act between two writes, and the writes of a publication come in any order.

The last five fields are history that no operation reads: `published` numbers the messages in the
order in which their publications began, and `overlapping` has the pair `(m, n)` when publication
`n` began while `m` had still to write.

`Accounted` is the invariant of the operations:

* A subscriber's messages are the ones published while it was subscribed, and each of them is
  either written to its queue, once, or still to be written (`addressed_iff`, `nodup`, `apart`).
* Two messages are in a queue in the order of their publications, unless these overlap (`ordered`).

`Accounted.subperm_window` and `Accounted.isPrefix_window` read it for what a subscriber has got so
far, and `Accounted.perm_window` and `Accounted.eq_window` for a subscriber with nothing to wait for.
-/

set_option autoImplicit false

universe u v

/-- A publication that has still to write to `rest`. -/
structure Sending (κ : Type u) (α : Type v) where
  number : Nat
  message : α
  rest : List κ

/-- The subscribers with their queues, and the publications that are under way. -/
structure Fanout (κ : Type u) (α : Type v) where
  subscribers : List κ := []
  queue : κ → List α := fun _ => []
  sending : List (Sending κ α) := []
  /-- Every message, in the order in which the publications began. -/
  published : List α := []
  /-- What a subscriber has taken from its queue. -/
  taken : κ → List α := fun _ => []
  /-- The numbers of the messages that were written to a queue. -/
  written : κ → List Nat := fun _ => []
  /-- The number of the next message when the subscriber joined, and when it left. -/
  joined : κ → Option Nat := fun _ => none
  left : κ → Option Nat := fun _ => none
  overlapping : List (Nat × Nat) := []

namespace Fanout

variable {κ : Type u} {α : Type v} [DecidableEq κ]

/-- A new subscriber, with an empty queue. -/
def subscribe (f : Fanout κ α) (k : κ) : Fanout κ α :=
  { f with
    subscribers := f.subscribers ++ [k]
    queue := Function.update f.queue k []
    joined := Function.update f.joined k (some f.published.length) }

/-- A subscriber leaves. A publication that has taken it still writes to its queue. -/
def unsubscribe (f : Fanout κ α) (k : κ) : Fanout κ α :=
  if k ∈ f.subscribers then
    { f with
      subscribers := f.subscribers.filter (· ≠ k)
      left := Function.update f.left k (some f.published.length) }
  else f

/-- A publication begins: it takes the subscribers of the moment. -/
def publish (f : Fanout κ α) (message : α) : Fanout κ α :=
  { f with
    sending := f.sending ++
      (if f.subscribers = [] then [] else [⟨f.published.length, message, f.subscribers⟩])
    published := f.published ++ [message]
    overlapping := f.overlapping ++ f.sending.map fun s => (s.number, f.published.length) }

/-- Publication `number` after its write to `k`. It is over when that was the last one. -/
def sendingAfter (sending : List (Sending κ α)) (number : Nat) (k : κ) : List (Sending κ α) :=
  (sending.map fun s => if s.number = number then { s with rest := s.rest.erase k } else s).filter
    fun s => s.rest ≠ []

/-- Publication `number` writes to the queue of `k`, if it has still to. -/
def write (f : Fanout κ α) (number : Nat) (k : κ) : Fanout κ α :=
  match f.sending.find? fun s => s.number = number ∧ k ∈ s.rest with
  | none => f
  | some s =>
    { f with
      queue := Function.update f.queue k (f.queue k ++ [s.message])
      written := Function.update f.written k (f.written k ++ [number])
      sending := sendingAfter f.sending number k }

/-- The subscriber takes the first message of its queue. -/
def take (f : Fanout κ α) (k : κ) : Fanout κ α :=
  match f.queue k with
  | [] => f
  | message :: rest =>
    { f with
      queue := Function.update f.queue k rest
      taken := Function.update f.taken k (f.taken k ++ [message]) }

/-- Message `m` has still to be written to the queue of `k`. -/
def Pending (f : Fanout κ α) (k : κ) (m : Nat) : Prop :=
  ∃ s ∈ f.sending, s.number = m ∧ k ∈ s.rest

/-- Message `m` was published while `k` was subscribed. -/
def Addressed (f : Fanout κ α) (k : κ) (m : Nat) : Prop :=
  ∃ j, f.joined k = some j ∧ j ≤ m ∧ m < (f.left k).getD f.published.length

/-- The messages that were published while `k` was subscribed. -/
def window (f : Fanout κ α) (k : κ) : List α :=
  match f.joined k with
  | none => []
  | some j => (f.published.take ((f.left k).getD f.published.length)).drop j

/-- What every operation keeps. -/
structure Accounted (f : Fanout κ α) : Prop where
  message : ∀ s ∈ f.sending, f.published[s.number]? = some s.message
  rest_nodup : ∀ s ∈ f.sending, s.rest.Nodup
  subscribers_nodup : f.subscribers.Nodup
  mem_subscribers : ∀ k, k ∈ f.subscribers ↔ f.joined k ≠ none ∧ f.left k = none
  joined_of_left : ∀ k, f.left k ≠ none → f.joined k ≠ none
  joined_le : ∀ k j, f.joined k = some j → j ≤ f.published.length
  left_le : ∀ k l, f.left k = some l → l ≤ f.published.length
  /-- A queue holds the messages that were written to it. -/
  contents : ∀ k, (f.taken k ++ f.queue k).map some = (f.written k).map fun m => f.published[m]?
  nodup : ∀ k, (f.written k).Nodup
  addressed_iff : ∀ k m, f.Addressed k m ↔ m ∈ f.written k ∨ f.Pending k m
  apart : ∀ k m, m ∈ f.written k → ¬ f.Pending k m
  /-- A publication that is under way overlaps the ones that began later. -/
  overlaps : ∀ s ∈ f.sending, ∀ m, s.number < m → m < f.published.length →
    (s.number, m) ∈ f.overlapping
  ordered : ∀ k, (f.written k).Pairwise fun m n => m < n ∨ (n, m) ∈ f.overlapping

variable {f : Fanout κ α} {k : κ} {m n : Nat}

/-! ### What every operation keeps -/

omit [DecidableEq κ] in
/-- Without messages and receivers there is nothing to account for. -/
theorem accounted_empty : Accounted ({} : Fanout κ α) where
  message := by simp
  rest_nodup := by simp
  subscribers_nodup := List.nodup_nil
  mem_subscribers := by simp
  joined_of_left := by simp
  joined_le := by simp
  left_le := by simp
  contents _ := rfl
  nodup _ := List.nodup_nil
  addressed_iff := by simp [Addressed, Pending]
  apart := by simp
  overlaps := by simp
  ordered _ := List.Pairwise.nil

omit [DecidableEq κ] in
/-- A message that is addressed to a receiver was published. -/
theorem Accounted.lt_of_addressed (h : Accounted f) (hm : f.Addressed k m) :
    m < f.published.length := by
  obtain ⟨j, -, -, hlt⟩ := hm
  cases hleft : f.left k with
  | none => simpa [hleft] using hlt
  | some l =>
    have hle := h.left_le k l hleft
    simp only [hleft, Option.getD_some] at hlt
    omega

omit [DecidableEq κ] in
/-- A message that is being sent was published. -/
theorem Accounted.lt_of_sending (h : Accounted f) {s : Sending κ α} (hs : s ∈ f.sending) :
    s.number < f.published.length :=
  (List.getElem?_eq_some_iff.mp (h.message s hs)).1

omit [DecidableEq κ] in
/-- A message is on its way to subscribers only. -/
theorem Accounted.not_pending_of_not_joined (h : Accounted f) (hnew : f.joined k = none) :
    ¬ f.Pending k m := by
  intro hpending
  obtain ⟨j, hj, -⟩ := (h.addressed_iff k m).mpr (Or.inr hpending)
  rw [hnew] at hj
  cases hj

omit [DecidableEq κ] in
/-- A receiver that never joined was written nothing. -/
theorem Accounted.written_of_not_joined (h : Accounted f) (hnew : f.joined k = none) :
    f.written k = [] := by
  refine List.eq_nil_iff_forall_not_mem.mpr fun m hm => ?_
  obtain ⟨j, hj, -⟩ := (h.addressed_iff k m).mpr (Or.inl hm)
  rw [hnew] at hj
  cases hj

/-- A receiver joins after all messages so far. -/
theorem Accounted.subscribe (h : Accounted f) (hnew : f.joined k = none) :
    Accounted (f.subscribe k) where
  message := h.message
  rest_nodup := h.rest_nodup
  subscribers_nodup := by
    have hnot : k ∉ f.subscribers := fun hk => ((h.mem_subscribers k).mp hk).1 hnew
    exact List.nodup_append.mpr ⟨h.subscribers_nodup, by simp, by grind⟩
  mem_subscribers k' := by
    have hleft : f.left k = none := by
      by_contra hleft
      exact h.joined_of_left k hleft hnew
    have hmem := h.mem_subscribers k'
    simp only [Fanout.subscribe, List.mem_append, List.mem_singleton, Function.update_apply]
    by_cases hk : k' = k
    · simp [hk, hleft]
    · simp [hk, hmem]
  joined_of_left k' hleft := by
    simp only [Fanout.subscribe, Function.update_apply]
    split
    · simp
    · exact h.joined_of_left k' hleft
  joined_le k' j hj := by
    by_cases hk : k' = k
    · subst hk
      simp only [Fanout.subscribe, Function.update_self, Option.some.injEq] at hj
      exact hj ▸ Nat.le_refl _
    · exact h.joined_le k' j (by simpa [Fanout.subscribe, hk] using hj)
  left_le := h.left_le
  contents k' := by
    have hcontents := h.contents k'
    simp only [Fanout.subscribe, Function.update_apply]
    by_cases hk : k' = k
    · -- The new subscriber has been written nothing.
      subst hk
      rw [h.written_of_not_joined hnew] at hcontents ⊢
      have hnil : f.taken k' = [] := by
        have := List.map_eq_nil_iff.mp hcontents
        exact (List.append_eq_nil_iff.mp this).1
      simp [hnil]
    · rw [if_neg hk]
      exact hcontents
  nodup := h.nodup
  addressed_iff k' m := by
    have haddressed := h.addressed_iff k' m
    have hlen := @Accounted.lt_of_addressed κ α f k' m h
    by_cases hk : k' = k
    · subst hk
      have hleft : f.left k' = none := by
        by_contra hleft
        exact h.joined_of_left k' hleft hnew
      have hnone : ¬ (m ∈ f.written k' ∨ f.Pending k' m) := by
        rw [h.written_of_not_joined hnew]
        simp [h.not_pending_of_not_joined hnew]
      refine iff_of_false ?_ hnone
      rintro ⟨j, hj, hle, hlt⟩
      simp only [Fanout.subscribe, Function.update_self, Option.some.injEq, hleft,
        Option.getD_none] at hj hlt
      omega
    · have hsame : (f.subscribe k).Addressed k' m ↔ f.Addressed k' m := by
        simp [Addressed, Fanout.subscribe, hk]
      exact hsame.trans haddressed
  apart := h.apart
  overlaps := h.overlaps
  ordered := h.ordered

/-- A receiver leaves with what it was written. -/
theorem Accounted.unsubscribe (h : Accounted f) (k : κ) : Accounted (f.unsubscribe k) := by
  unfold Fanout.unsubscribe
  split
  case isFalse => exact h
  case isTrue hk =>
    obtain ⟨hjoined, hleft⟩ := (h.mem_subscribers k).mp hk
    refine { h with
      subscribers_nodup := h.subscribers_nodup.filter _
      mem_subscribers := fun k' => ?_
      joined_of_left := fun k' hleft' => ?_
      left_le := fun k' l hl => ?_
      addressed_iff := fun k' m => ?_ }
    · have hmem := h.mem_subscribers k'
      simp only [List.mem_filter, Function.update_apply, hmem]
      by_cases hk' : k' = k <;> simp [hk']
    · by_cases hk' : k' = k
      · exact hk' ▸ hjoined
      · exact h.joined_of_left k' (by simpa [Function.update_apply, hk'] using hleft')
    · by_cases hk' : k' = k
      · simp only [Function.update_apply, hk', if_true, Option.some.injEq] at hl
        exact hl ▸ Nat.le_refl _
      · exact h.left_le k' l (by simpa [Function.update_apply, hk'] using hl)
    · -- The window ends where it ended before: at the last message.
      refine Iff.trans ?_ (h.addressed_iff k' m)
      by_cases hk' : k' = k
      · subst hk'
        simp [Addressed, hleft]
      · simp [Addressed, hk']

/-- A receiver takes the first message of its queue. -/
theorem Accounted.take (h : Accounted f) (k : κ) : Accounted (f.take k) := by
  unfold Fanout.take
  cases hqueue : f.queue k with
  | nil => exact h
  | cons message rest =>
    refine { h with contents := fun k' => ?_ }
    by_cases hk : k' = k
    · subst hk
      have hcontents := h.contents k'
      rw [hqueue] at hcontents
      simpa [Function.update_self] using hcontents
    · simpa [Function.update_apply, hk] using h.contents k'

omit [DecidableEq κ] in
/-- A publication addresses the subscribers of the moment. -/
theorem Accounted.addressed_publish (h : Accounted f) (message : α) :
    (f.publish message).Addressed k m
      ↔ f.Addressed k m ∨ (m = f.published.length ∧ k ∈ f.subscribers) := by
  have hmem := h.mem_subscribers k
  cases hjoined : f.joined k with
  | none => simp [Addressed, Fanout.publish, hmem, hjoined]
  | some j =>
    have hle := h.joined_le k j hjoined
    cases hleft : f.left k with
    | none =>
      simp only [Addressed, Fanout.publish, hmem, hjoined, hleft, Option.getD_none,
        List.length_append, List.length_singleton, Option.some.injEq, exists_eq_left', ne_eq,
        reduceCtorEq, not_false_eq_true, and_self, and_true]
      omega
    | some l => simp [Addressed, Fanout.publish, hmem, hjoined, hleft]

omit [DecidableEq κ] in
/-- A published message is pending for the subscribers of this moment. -/
theorem pending_publish (message : α) :
    (f.publish message).Pending k m
      ↔ f.Pending k m ∨ (m = f.published.length ∧ k ∈ f.subscribers) := by
  unfold Pending Fanout.publish
  by_cases hnil : f.subscribers = []
  · simp [hnil]
  · simp [hnil, or_and_right, exists_or, eq_comm]

omit [DecidableEq κ] in
/-- A message is published to the subscribers of this moment. -/
theorem Accounted.publish (h : Accounted f) (message : α) : Accounted (f.publish message) := by
  have hsending : ∀ s ∈ (f.publish message).sending,
      s ∈ f.sending ∨ s = ⟨f.published.length, message, f.subscribers⟩ := by
    intro s hs
    unfold Fanout.publish at hs
    by_cases hnil : f.subscribers = []
    · simp only [hnil, if_true, List.append_nil] at hs
      exact Or.inl hs
    · simpa [hnil] using hs
  exact {
    message := by
      intro s hs
      show (f.published ++ [message])[s.number]? = some s.message
      rcases hsending s hs with hs | rfl
      · exact List.getElem?_append_left (h.lt_of_sending hs) ▸ h.message s hs
      · simp
    rest_nodup := by
      intro s hs
      rcases hsending s hs with hs | rfl
      · exact h.rest_nodup s hs
      · exact h.subscribers_nodup
    subscribers_nodup := h.subscribers_nodup
    mem_subscribers := h.mem_subscribers
    joined_of_left := h.joined_of_left
    joined_le := by
      intro k j hj
      have hle := h.joined_le k j hj
      simp only [Fanout.publish, List.length_append]
      omega
    left_le := by
      intro k l hl
      have hle := h.left_le k l hl
      simp only [Fanout.publish, List.length_append]
      omega
    contents := by
      intro k
      refine (h.contents k).trans (List.map_congr_left fun m hm => ?_)
      have hlt := h.lt_of_addressed ((h.addressed_iff k m).mpr (Or.inl hm))
      exact (List.getElem?_append_left hlt).symm
    nodup := h.nodup
    addressed_iff := by
      intro k m
      rw [h.addressed_publish message, pending_publish message, h.addressed_iff k m, or_assoc]
      rfl
    apart := by
      intro k m hm
      rw [pending_publish message]
      rintro (hpending | ⟨rfl, -⟩)
      · exact h.apart k m hm hpending
      · -- The number is a new one.
        exact Nat.lt_irrefl _ (h.lt_of_addressed ((h.addressed_iff k _).mpr (Or.inl hm)))
    overlaps := by
      intro s hs m hlt hm
      simp only [Fanout.publish, List.length_append, List.length_singleton, List.mem_append,
        List.mem_map, Prod.mk.injEq] at hm ⊢
      rcases hsending s hs with hs | rfl
      · by_cases hlast : m = f.published.length
        · exact Or.inr ⟨s, hs, rfl, hlast.symm⟩
        · exact Or.inl (h.overlaps s hs m hlt (by omega))
      · dsimp only at hlt
        omega
    ordered := by
      intro k
      refine (h.ordered k).imp fun hmn => hmn.imp_right fun hmem => ?_
      exact List.mem_append_left _ hmem }

/-- A publication that is still under way after a write was so before it. -/
theorem mem_sendingAfter {sending : List (Sending κ α)} {s' : Sending κ α} :
    s' ∈ sendingAfter sending n k
      ↔ s'.rest ≠ [] ∧ ∃ s ∈ sending,
          s' = if s.number = n then { s with rest := s.rest.erase k } else s := by
  simp only [sendingAfter, List.mem_filter, List.mem_map, decide_eq_true_eq]
  grind

/-- The write of message `n` to `k` is the only one that is not pending any more. -/
theorem Accounted.pending_sendingAfter (h : Accounted f) {f' : Fanout κ α}
    (hsending : f'.sending = sendingAfter f.sending n k) {k' : κ} :
    f'.Pending k' m ↔ f.Pending k' m ∧ ¬ (k' = k ∧ m = n) := by
  unfold Pending
  rw [hsending]
  constructor
  · rintro ⟨s', hs', rfl, hk'⟩
    obtain ⟨-, s, hs, rfl⟩ := mem_sendingAfter.mp hs'
    have hnodup := h.rest_nodup s hs
    -- Only the broadcast with the number `n` has lost a reader, and it had this reader once.
    by_cases hn : s.number = n
    · rw [if_pos hn] at hk' ⊢
      have hmem := (hnodup.mem_erase_iff).mp hk'
      exact ⟨⟨s, hs, rfl, hmem.2⟩, fun hboth => hmem.1 hboth.1⟩
    · rw [if_neg hn] at hk' ⊢
      exact ⟨⟨s, hs, rfl, hk'⟩, fun hboth => hn hboth.2⟩
  · rintro ⟨⟨s, hs, rfl, hk'⟩, hother⟩
    refine ⟨if s.number = n then { s with rest := s.rest.erase k } else s, ?_, ?_, ?_⟩
    · refine mem_sendingAfter.mpr ⟨?_, s, hs, rfl⟩
      split
      case isTrue hn =>
        have hne : k' ≠ k := fun hk => hother ⟨hk, hn⟩
        exact List.ne_nil_of_mem ((List.mem_erase_of_ne hne).mpr hk')
      case isFalse => exact List.ne_nil_of_mem hk'
    · split <;> rfl
    · split
      case isTrue hn =>
        have hne : k' ≠ k := fun hk => hother ⟨hk, hn⟩
        exact (List.mem_erase_of_ne hne).mpr hk'
      case isFalse => exact hk'

/-- One receiver is written one message, which was pending for it. -/
theorem Accounted.write (h : Accounted f) (n : Nat) (k : κ) : Accounted (f.write n k) := by
  unfold Fanout.write
  split
  case h_1 => exact h
  case h_2 s hfind =>
    have hs : s ∈ f.sending := List.mem_of_find?_eq_some hfind
    obtain ⟨hnumber, hk⟩ : s.number = n ∧ k ∈ s.rest := by
      simpa using List.find?_some hfind
    have hpending : f.Pending k n := ⟨s, hs, hnumber, hk⟩
    have hmessage : f.published[n]? = some s.message := hnumber ▸ h.message s hs
    have hsame : ∀ s' ∈ sendingAfter f.sending n k, ∃ s₀ ∈ f.sending,
        s'.number = s₀.number ∧ s'.message = s₀.message := by
      intro s' hs'
      obtain ⟨-, s₀, hs₀, rfl⟩ := mem_sendingAfter.mp hs'
      refine ⟨s₀, hs₀, ?_⟩
      split <;> exact ⟨rfl, rfl⟩
    exact {
      message := by
        intro s' hs'
        obtain ⟨s₀, hs₀, hnumber, hmessage⟩ := hsame s' hs'
        rw [hnumber, hmessage]
        exact h.message s₀ hs₀
      rest_nodup := by
        intro s' hs'
        obtain ⟨-, s₀, hs₀, rfl⟩ := mem_sendingAfter.mp hs'
        split
        · exact (h.rest_nodup s₀ hs₀).erase k
        · exact h.rest_nodup s₀ hs₀
      subscribers_nodup := h.subscribers_nodup
      mem_subscribers := h.mem_subscribers
      joined_of_left := h.joined_of_left
      joined_le := h.joined_le
      left_le := h.left_le
      contents := by
        intro k'
        have hcontents := h.contents k'
        by_cases hk' : k' = k
        · subst hk'
          simp only [Function.update_self, List.map_append, List.map_cons, List.map_nil, hmessage]
          rw [← List.append_assoc, ← List.map_append, hcontents]
        · simpa [Function.update_apply, hk'] using hcontents
      nodup := by
        intro k'
        by_cases hk' : k' = k
        · subst hk'
          have hnot : n ∉ f.written k' := fun hn => h.apart k' n hn hpending
          simp only [Function.update_self]
          exact List.nodup_append.mpr ⟨h.nodup k', List.nodup_singleton n, by grind⟩
        · simpa [Function.update_apply, hk'] using h.nodup k'
      addressed_iff := by
        intro k' m
        rw [h.pending_sendingAfter rfl]
        refine (h.addressed_iff k' m).trans ?_
        by_cases hk' : k' = k
        · subst hk'
          simp only [Function.update_self, List.mem_append, List.mem_singleton, true_and]
          by_cases hm : m = n
          · simp [hm, hpending]
          · simp [hm]
        · simp [hk']
      apart := by
        intro k' m hm
        rw [h.pending_sendingAfter rfl]
        rintro ⟨hpending', hother⟩
        by_cases hk' : k' = k
        · subst hk'
          simp only [Function.update_self, List.mem_append, List.mem_singleton] at hm
          rcases hm with hm | hm
          · exact h.apart k' m hm hpending'
          · exact hother ⟨rfl, hm⟩
        · exact h.apart k' m (by simpa [Function.update_apply, hk'] using hm) hpending'
      overlaps := by
        intro s' hs' m hlt hm
        obtain ⟨s₀, hs₀, hnumber, -⟩ := hsame s' hs'
        rw [hnumber] at hlt ⊢
        exact h.overlaps s₀ hs₀ m hlt hm
      ordered := by
        intro k'
        by_cases hk' : k' = k
        · subst hk'
          simp only [Function.update_self]
          refine List.pairwise_append.mpr ⟨h.ordered k', List.pairwise_singleton _ _, ?_⟩
          intro m hm n' hn'
          rw [List.mem_singleton] at hn'
          subst hn'
          -- A message with a higher number overtook `n'`, which was under way all the time.
          rcases Nat.lt_trichotomy m n' with hlt | heq | hgt
          · exact Or.inl hlt
          · exact absurd hpending (h.apart k' n' (heq ▸ hm))
          · refine Or.inr (hnumber ▸ h.overlaps s hs m (hnumber ▸ hgt) ?_)
            exact h.lt_of_addressed ((h.addressed_iff k' m).mpr (Or.inl hm))
        · simpa [Function.update_apply, hk'] using h.ordered k' }

/-! ### What an operation leaves as it is -/

section Frame
variable {k' : κ}

/-- Who is subscribed after a receiver has joined. -/
theorem mem_subscribers_subscribe :
    k' ∈ (f.subscribe k).subscribers ↔ k' ∈ f.subscribers ∨ k' = k := by
  simp [Fanout.subscribe]

/-- A receiver that joins is the only one to join. -/
theorem joined_subscribe_of_ne (hk : k' ≠ k) : (f.subscribe k).joined k' = f.joined k' :=
  Function.update_of_ne hk _ _

/-- Joining takes nothing. -/
@[simp] theorem taken_subscribe : (f.subscribe k).taken = f.taken := rfl

/-- Who is subscribed after a receiver has left. -/
theorem mem_subscribers_unsubscribe :
    k' ∈ (f.unsubscribe k).subscribers ↔ k' ∈ f.subscribers ∧ k' ≠ k := by
  unfold Fanout.unsubscribe
  split
  case isTrue => simp
  case isFalse hk =>
    have hne : k' ∈ f.subscribers → k' ≠ k := fun hk' heq => hk (heq ▸ hk')
    exact (and_iff_left_of_imp hne).symm

/-- Leaving does not change when a receiver has joined. -/
@[simp] theorem joined_unsubscribe : (f.unsubscribe k).joined = f.joined := by
  unfold Fanout.unsubscribe
  split <;> rfl

/-- Leaving takes nothing. -/
@[simp] theorem taken_unsubscribe : (f.unsubscribe k).taken = f.taken := by
  unfold Fanout.unsubscribe
  split <;> rfl

/-- Leaving does not empty a queue. -/
@[simp] theorem queue_unsubscribe : (f.unsubscribe k).queue = f.queue := by
  unfold Fanout.unsubscribe
  split <;> rfl

/-- Leaving publishes nothing. -/
@[simp] theorem published_unsubscribe : (f.unsubscribe k).published = f.published := by
  unfold Fanout.unsubscribe
  split <;> rfl

/-- Taking publishes nothing. -/
@[simp] theorem published_take : (f.take k).published = f.published := by
  unfold Fanout.take
  split <;> rfl

/-- Taking does not change who is subscribed. -/
@[simp] theorem subscribers_take : (f.take k).subscribers = f.subscribers := by
  unfold Fanout.take
  split <;> rfl

/-- Taking does not change who has joined. -/
@[simp] theorem joined_take : (f.take k).joined = f.joined := by
  unfold Fanout.take
  split <;> rfl

/-- A receiver takes messages for itself. -/
theorem taken_take_of_ne (hk : k' ≠ k) : (f.take k).taken k' = f.taken k' := by
  unfold Fanout.take
  split
  · rfl
  · exact Function.update_of_ne hk _ _

/-- A receiver takes messages from its own queue. -/
theorem queue_take_of_ne (hk : k' ≠ k) : (f.take k).queue k' = f.queue k' := by
  unfold Fanout.take
  split
  · rfl
  · exact Function.update_of_ne hk _ _

/-- What a receiver takes is the first message of its queue. -/
theorem take_of_queue {message : α} {rest : List α} (hqueue : f.queue k = message :: rest) :
    (f.take k).taken k = f.taken k ++ [message] ∧ (f.take k).queue k = rest := by
  unfold Fanout.take
  simp [hqueue]

/-- Writing does not change who is subscribed. -/
@[simp] theorem subscribers_write : (f.write n k).subscribers = f.subscribers := by
  unfold Fanout.write
  split <;> rfl

/-- Writing publishes nothing. -/
@[simp] theorem published_write : (f.write n k).published = f.published := by
  unfold Fanout.write
  split <;> rfl

/-- Writing does not change who has joined. -/
@[simp] theorem joined_write : (f.write n k).joined = f.joined := by
  unfold Fanout.write
  split <;> rfl

/-- Writing takes nothing. -/
@[simp] theorem taken_write : (f.write n k).taken = f.taken := by
  unfold Fanout.write
  split <;> rfl

/-- A write adds messages at the end of a queue. -/
theorem queue_isPrefix_write : f.queue k' <+: (f.write n k).queue k' := by
  unfold Fanout.write
  split
  · exact List.prefix_rfl
  · by_cases hk : k' = k
    · subst hk
      simp
    · simp [hk]

/-- A write adds messages at the end of what a subscriber gets. -/
theorem gets_isPrefix_write :
    f.taken k' ++ f.queue k' <+: (f.write n k).taken k' ++ (f.write n k).queue k' := by
  rw [taken_write]
  exact (List.prefix_append_right_inj _).mpr queue_isPrefix_write

/-- Taking moves a message from the queue of its receiver, so that what the receiver gets in all
stays. -/
theorem gets_take : (f.take k).taken k' ++ (f.take k).queue k' = f.taken k' ++ f.queue k' := by
  by_cases hk : k' = k
  · subst hk
    cases hqueue : f.queue k' with
    | nil => simp [Fanout.take, hqueue]
    | cons message rest => simp [(take_of_queue hqueue).1, (take_of_queue hqueue).2]
  · rw [taken_take_of_ne hk, queue_take_of_ne hk]

/-- A new subscriber starts with nothing. -/
theorem Accounted.gets_subscribe (h : Accounted f) (hnew : f.joined k = none) :
    f.taken k' ++ f.queue k' = (f.subscribe k).taken k' ++ (f.subscribe k).queue k' := by
  by_cases hk : k' = k
  · subst hk
    have hcontents := h.contents k'
    rw [h.written_of_not_joined hnew, List.map_nil, List.map_eq_nil_iff,
      List.append_eq_nil_iff] at hcontents
    simp [Fanout.subscribe, hcontents.1, hcontents.2]
  · simp [Fanout.subscribe, hk]

end Frame

/-! ### What a subscriber has got -/

/-- The numbers of the messages that were published while `k` was subscribed. -/
def numbers (f : Fanout κ α) (k : κ) : List Nat :=
  match f.joined k with
  | none => []
  | some j => List.range' j ((f.left k).getD f.published.length - j)

omit [DecidableEq κ] in
/-- The numbers of a receiver are those of the messages that are addressed to it. -/
theorem mem_numbers : m ∈ f.numbers k ↔ f.Addressed k m := by
  unfold numbers Addressed
  cases f.joined k with
  | none => simp
  | some j =>
    simp only [List.mem_range'_1, Option.some.injEq, exists_eq_left']
    omega

omit [DecidableEq κ] in
/-- The numbers of a receiver increase. -/
theorem pairwise_numbers (f : Fanout κ α) (k : κ) : (f.numbers k).Pairwise (· < ·) := by
  unfold numbers
  split
  · exact List.Pairwise.nil
  · exact List.pairwise_lt_range'

omit [DecidableEq κ] in
/-- A message is addressed to a receiver once. -/
theorem nodup_numbers (f : Fanout κ α) (k : κ) : (f.numbers k).Nodup :=
  (f.pairwise_numbers k).imp Nat.ne_of_lt

omit [DecidableEq κ] in
/-- The window has the messages with these numbers. -/
theorem Accounted.map_numbers (h : Accounted f) (k : κ) :
    (f.numbers k).map (fun m => f.published[m]?) = (f.window k).map some := by
  unfold numbers window
  cases hj : f.joined k with
  | none => rfl
  | some j =>
    have hstop : (f.left k).getD f.published.length ≤ f.published.length := by
      cases hleft : f.left k with
      | none => exact Nat.le_refl _
      | some l => exact h.left_le k l hleft
    refine List.ext_getElem? fun i => ?_
    simp only [List.getElem?_map, List.getElem?_drop, List.getElem?_take]
    by_cases hi : i < (f.left k).getD f.published.length - j
    · have hlt : j + i < f.published.length := by omega
      rw [List.getElem?_range' hi, if_pos (by omega), Nat.one_mul, Option.map_some,
        List.getElem?_eq_getElem hlt, Option.map_some]
    · rw [if_neg (by omega), List.getElem?_eq_none (by simpa using hi)]
      rfl

omit [DecidableEq κ] in
/-- A list is its own values. -/
theorem perm_of_map_some {xs ys : List α} (h : (xs.map some).Perm (ys.map some)) : xs.Perm ys := by
  simpa [List.filterMap_map] using h.filterMap id

omit [DecidableEq κ] in
/-- **Nothing else, and nothing twice**: what was written to a queue is part of what was published
while its subscriber was subscribed. -/
theorem Accounted.subperm_window (h : Accounted f) (k : κ) :
    (f.taken k ++ f.queue k).Subperm (f.window k) := by
  have hsub : (f.written k).Subperm (f.numbers k) := by
    refine List.subperm_of_subset (h.nodup k) fun m hm => ?_
    exact mem_numbers.mpr ((h.addressed_iff k m).mpr (Or.inl hm))
  obtain ⟨part, hperm, hpart⟩ := hsub
  have hmapped : (part.map fun m => f.published[m]?).Sublist ((f.window k).map some) :=
    h.map_numbers k ▸ hpart.map _
  obtain ⟨window, hwindow, heq⟩ := List.sublist_map_iff.mp hmapped
  refine ⟨window, perm_of_map_some ?_, hwindow⟩
  rw [← heq, h.contents k]
  exact hperm.map _

omit [DecidableEq κ] in
/-- **Nothing is lost**: with no message on its way to it, a subscriber has got every message that
was published while it was subscribed. -/
theorem Accounted.perm_window (h : Accounted f) (hdone : ∀ m, ¬ f.Pending k m) :
    (f.taken k ++ f.queue k).Perm (f.window k) := by
  refine perm_of_map_some ?_
  rw [h.contents k, ← h.map_numbers k]
  refine List.Perm.map _ ((List.perm_ext_iff_of_nodup (h.nodup k) (f.nodup_numbers k)).mpr ?_)
  intro m
  rw [mem_numbers, h.addressed_iff k m]
  exact (or_iff_left (hdone m)).symm

/-- An ascending list is the beginning of another one, when the other one has its elements and it
has every element of the other one below one of its own. -/
theorem isPrefix_of_pairwise_lt {ms ns : List Nat} (hms : ms.Pairwise (· < ·))
    (hns : ns.Pairwise (· < ·)) (hsub : ∀ m ∈ ms, m ∈ ns)
    (hdown : ∀ m ∈ ms, ∀ n ∈ ns, n < m → n ∈ ms) : ms <+: ns := by
  induction ns generalizing ms with
  | nil =>
    cases ms with
    | nil => exact List.prefix_rfl
    | cons m ms => exact absurd (hsub m List.mem_cons_self) List.not_mem_nil
  | cons n ns ih =>
    cases ms with
    | nil => exact List.nil_prefix
    | cons m ms =>
      obtain ⟨hm, hms'⟩ := List.pairwise_cons.mp hms
      obtain ⟨hn, hns'⟩ := List.pairwise_cons.mp hns
      have hfirst : m = n := by
        rcases List.mem_cons.mp (hsub m List.mem_cons_self) with heq | hmem
        · exact heq
        · -- Otherwise `n` would be below `m`, and above it.
          have hlt := hn m hmem
          have hback := hdown m List.mem_cons_self n List.mem_cons_self hlt
          rcases List.mem_cons.mp hback with heq | hback
          · exact heq.symm
          · have := hm n hback
            omega
      subst hfirst
      refine List.cons_prefix_cons.mpr ⟨rfl, ih hms' hns' ?_ ?_⟩
      · intro m' hm'
        have hlt := hm m' hm'
        exact (List.mem_cons.mp (hsub m' (List.mem_cons_of_mem _ hm'))).resolve_left (by omega)
      · intro m' hm' n' hn' hlt
        have hge := hn n' hn'
        have hmem := hdown m' (List.mem_cons_of_mem _ hm') n' (List.mem_cons_of_mem _ hn') hlt
        exact (List.mem_cons.mp hmem).resolve_left (by omega)

/-- No two of the messages that are addressed to `k` overlap. -/
def Apart (f : Fanout κ α) (k : κ) : Prop :=
  ∀ m n, f.Addressed k m → f.Addressed k n → (m, n) ∉ f.overlapping

omit [DecidableEq κ] in
/-- **In order, without gaps**: when no two of the messages overlap, what was written to a queue is
the beginning of what was published while its subscriber was subscribed. -/
theorem Accounted.isPrefix_window (h : Accounted f) (hapart : f.Apart k) :
    f.taken k ++ f.queue k <+: f.window k := by
  have haddressed : ∀ m ∈ f.written k, f.Addressed k m := fun m hm =>
    (h.addressed_iff k m).mpr (Or.inl hm)
  have hlt : (f.written k).Pairwise (· < ·) := by
    refine (h.ordered k).imp_of_mem fun {m n} hm hn horder => horder.resolve_right ?_
    exact hapart n m (haddressed n hn) (haddressed m hm)
  have hprefix : f.written k <+: f.numbers k := by
    refine isPrefix_of_pairwise_lt hlt (f.pairwise_numbers k) ?_ ?_
    · exact fun m hm => mem_numbers.mpr (haddressed m hm)
    · intro m hm n hn hnm
      -- A message that is still pending overlaps every later one.
      rcases (h.addressed_iff k n).mp (mem_numbers.mp hn) with hwritten | ⟨s, hs, rfl, -⟩
      · exact hwritten
      · have hover := h.overlaps s hs m hnm (h.lt_of_addressed (haddressed m hm))
        exact absurd hover (hapart _ m (mem_numbers.mp hn) (haddressed m hm))
  have hmapped := hprefix.map fun m => f.published[m]?
  rw [← h.contents k, h.map_numbers k] at hmapped
  exact (List.prefix_map_iff_of_injective fun _ _ => Option.some.inj).mp hmapped

omit [DecidableEq κ] in
/-- With nothing on its way, that is all of it. -/
theorem Accounted.eq_window (h : Accounted f) (hdone : ∀ m, ¬ f.Pending k m)
    (hapart : f.Apart k) : f.taken k ++ f.queue k = f.window k :=
  (h.isPrefix_window hapart).eq_of_length (h.perm_window hdone).length_eq

end Fanout
