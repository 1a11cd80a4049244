import Mathlib.Data.List.Forall2
import Mathlib.Data.Option.Basic
import Mathlib.Tactic.Common

/-!
# Machines that answer requests

A machine answers a request from a state of its own, or never. A machine `M` simulates a
machine `N` when, in related states, both answer a request or neither does, with related
answers and states that are related again. What holds for one request then holds for every
list of them, as long as each meets a condition on `N`'s state at that moment.
-/

/-- Answers requests in `ι` by `ο`, with states in `σ`. -/
abbrev Machine (ι ο σ : Type*) := ι → σ → Option (ο × σ)

namespace Machine

variable {ι ο ο' σ τ : Type*}

/-- The answers to a list of requests, and the state after the last. -/
def answers (M : Machine ι ο σ) : List ι → σ → Option (List ο × σ)
  | [], s => some ([], s)
  | i :: is, s => (M i s).bind (fun r => (answers M is r.2).map (fun q => (r.1 :: q.1, q.2)))

/-- Each request of the list meets `ok` at the state in which it is answered. -/
def Along (M : Machine ι ο σ) (ok : ι → σ → Prop) : List ι → σ → Prop
  | [], _ => True
  | i :: is, s => ok i s ∧ ∀ r, M i s = some r → Along M ok is r.2

/-- Both are missing, or both are there with `A` between the answers and `R` between the
states. -/
def Agree (A : ο → ο' → Prop) (R : σ → τ → Prop) : Option (ο × σ) → Option (ο' × τ) → Prop :=
  Option.Rel (fun x y => A x.1 y.1 ∧ R x.2 y.2)

/-- `M` answers every request that meets `ok` as `N` does, up to `A`. -/
def Simulates (M : Machine ι ο σ) (N : Machine ι ο' τ) (A : ο → ο' → Prop) (R : σ → τ → Prop)
    (ok : ι → τ → Prop) : Prop :=
  ∀ i s t, R s t → ok i t → Agree A R (M i s) (N i t)

lemma Along.cons {M : Machine ι ο σ} {ok : ι → σ → Prop} {i : ι} {is : List ι} {s : σ}
    {r : ο × σ} (hi : ok i s) (hr : M i s = some r) (his : M.Along ok is r.2) :
    M.Along ok (i :: is) s := by
  refine ⟨hi, ?_⟩
  intro q hq
  rw [hr, Option.some.injEq] at hq
  exact hq ▸ his

/-- What every request of the list meets, it meets along the list. -/
lemma Along.and {M : Machine ι ο σ} {ok : ι → σ → Prop} {fixed : ι → Prop} {is : List ι} {s : σ}
    (h : M.Along ok is s) (hfixed : ∀ i ∈ is, fixed i) :
    M.Along (fun i s => ok i s ∧ fixed i) is s := by
  induction is generalizing s with
  | nil => trivial
  | cons i is ih =>
    refine ⟨⟨h.1, hfixed i List.mem_cons_self⟩, fun r hr => ih (h.2 r hr) ?_⟩
    exact fun j hj => hfixed j (List.mem_cons_of_mem i hj)

variable {M : Machine ι ο σ} {N : Machine ι ο' τ} {A : ο → ο' → Prop} {R : σ → τ → Prop}
  {ok : ι → τ → Prop}

/-- A machine that simulates another gives answers to every list of requests that are
related one by one. -/
theorem Simulates.answers (h : M.Simulates N A R ok) {is : List ι} {s : σ} {t : τ} (hst : R s t)
    (hok : N.Along ok is t) : Agree (List.Forall₂ A) R (M.answers is s) (N.answers is t) := by
  induction is generalizing s t with
  | nil => exact .some ⟨.nil, hst⟩
  | cons i is ih =>
    obtain ⟨hi, htail⟩ := hok
    have hstep := h i s t hst hi
    unfold Machine.answers
    cases hN : N i t with
    | none =>
      rw [hN] at hstep
      generalize M i s = x at hstep
      cases hstep
      exact .none
    | some r =>
      rw [hN] at hstep
      generalize M i s = x at hstep
      cases hstep with
      | @some q _ hq =>
        have hrest := ih hq.2 (htail r hN)
        rw [Option.bind_some, Option.bind_some]
        generalize M.answers is q.2 = y at hrest
        generalize N.answers is r.2 = z at hrest
        cases hrest with
        | none => exact .none
        | some hyz => exact .some ⟨.cons hq.1 hyz.1, hyz.2⟩

/-- With equal answers one by one, the lists of answers are equal. -/
lemma Agree.eq_of_forall₂ {x : Option (List ο × σ)} {y : Option (List ο × τ)}
    (h : Agree (List.Forall₂ Eq) R x y) : Agree Eq R x y := by
  cases h with
  | none => exact .none
  | some h => exact .some ⟨List.forall₂_eq_eq_eq ▸ h.1, h.2⟩

end Machine
