import CloudStorage.Lib.Dialogue
import CloudStorage.Lib.Runs
import Mathlib.Logic.Function.Basic

/-!
# Programs that take turns

Several programs ask the same environment, one question at a time and in any order. Where
no question of one program changes what another can see, each of them ends with the result
that it has alone, and a program that does not end alone does not end among the others.
-/

universe u v w

namespace Dialogue

variable {ι : Type u} {ο : ι → Type v} {α β : Type w} {σ κ : Type*}
  {env : (i : ι) → σ → Option (ο i × σ)}

/-! ### The questions of one run -/

/-- Every question of the run from this state has `P`. -/
def Along (P : ι → Prop) (env : (i : ι) → σ → Option (ο i × σ)) : Dialogue ι ο α → σ → Prop
  | done _, _ => True
  | stop, _ => True
  | ask i k, s => P i ∧ ∀ r, env i s = some r → Along P env (k r.1) r.2

variable {P : ι → Prop} {I : σ → Prop}

lemma Along.bind {d : Dialogue ι ο α} {f : α → Dialogue ι ο β} {s : σ} (h : d.Along P env s)
    (hf : ∀ r, d.run env s = some r → (f r.1).Along P env r.2) : (d >>= f).Along P env s := by
  induction d generalizing s with
  | done a => exact hf (a, s) rfl
  | stop => trivial
  | ask i k ih =>
    refine ⟨h.1, fun r hr => ih r.1 (h.2 r hr) (fun q hq => hf q ?_)⟩
    rw [run, hr]
    exact hq

/-- A program that asks only questions with `P`, as long as the answers have `Q`, does so on
each run where they have. -/
theorem Asks.along {Q : (i : ι) → ο i → Prop} {R : α → Prop} {d : Dialogue ι ο α}
    (h : d.Asks P Q R)
    (hstep : ∀ i s o t, P i → I s → env i s = some (o, t) → Q i o ∧ I t) {s : σ} (hs : I s) :
    d.Along P env s := by
  induction d generalizing s with
  | done a => trivial
  | stop => trivial
  | ask i k ih =>
    refine ⟨h.1, fun r hr => ?_⟩
    obtain ⟨ho, ht⟩ := hstep i s r.1 r.2 h.1 hs hr
    exact ih r.1 (h.2 r.1 ho) ht

lemma Matching.trans {S : σ → σ → Prop} (hS : ∀ s t u, S s t → S t u → S s u) {R : α → Prop}
    {x y z : Option (α × σ)} (h : Matching S R x y) (h' : Matching S R y z) :
    Matching S R x z := by
  rcases h with ⟨hx, hy⟩ | ⟨a, s, t, hx, hy, ha, hst⟩
  · rcases h' with ⟨-, hz⟩ | ⟨b, t', u, hy', -, -, -⟩
    · exact Or.inl ⟨hx, hz⟩
    · exact absurd (hy.symm.trans hy') (by simp)
  · rcases h' with ⟨hy', -⟩ | ⟨b, t', u, hy', hz, -, htu⟩
    · exact absurd (hy.symm.trans hy') (by simp)
    · obtain ⟨rfl, rfl⟩ := Prod.mk.inj (Option.some.inj (hy.symm.trans hy'))
      exact Or.inr ⟨a, s, u, hx, hz, ha, hS s t u hst htu⟩

/-! ### Turns -/

variable [DecidableEq κ]

/-- The program of thread `j` asks its next question. A program that has ended, or that gets
no answer, takes no turn. -/
def turn (env : (i : ι) → σ → Option (ο i × σ)) (x : (κ → Dialogue ι ο α) × σ) (j : κ) :
    Option ((κ → Dialogue ι ο α) × σ) :=
  match x.1 j with
  | ask i k => (env i x.2).map (fun r => (Function.update x.1 j (k r.1), r.2))
  | _ => none

omit [DecidableEq κ] in
/-- A question of one thread is answered alike wherever the thread sees the same, and leaves
alone what the other threads see. -/
structure Separate (env : (i : ι) → σ → Option (ο i × σ)) (I : σ → Prop) (P : κ → ι → Prop)
    (Same : κ → σ → σ → Prop) : Prop where
  keeps : ∀ j i s o t, P j i → I s → env i s = some (o, t) → I t
  own : ∀ j i s s', P j i → I s → I s' → Same j s s' →
    Matching (Same j) (fun _ => True) (env i s) (env i s')
  other : ∀ j l i s o t, l ≠ j → P j i → I s → env i s = some (o, t) → Same l s t
  refl : ∀ j s, Same j s s
  trans : ∀ j s t u, Same j s t → Same j t u → Same j s u

variable {Q : κ → ι → Prop} {Same : κ → σ → σ → Prop}

omit [DecidableEq κ] in
/-- A program that runs in a state that looks the same to it asks the same questions and
ends alike. -/
lemma Separate.run_matching (h : Separate env I Q Same) {j : κ} {d : Dialogue ι ο α} {s s' : σ}
    (hd : d.Along (Q j) env s) (hs : I s) (hs' : I s') (hsame : Same j s s') :
    d.Along (Q j) env s' ∧
      Matching (Same j) (fun _ => True) (d.run env s) (d.run env s') := by
  induction d generalizing s s' with
  | done a => exact ⟨trivial, Or.inr ⟨a, s, s', rfl, rfl, trivial, hsame⟩⟩
  | stop => exact ⟨trivial, Or.inl ⟨rfl, rfl⟩⟩
  | ask i k ih =>
    obtain ⟨hi, hrest⟩ := hd
    rcases h.own j i s s' hi hs hs' hsame with ⟨hno, hno'⟩ | ⟨o, t, t', ht, ht', -, hsame'⟩
    · refine ⟨⟨hi, fun r hr => ?_⟩, Or.inl ?_⟩
      · rw [hno'] at hr
        exact absurd hr (by simp)
      · rw [run, run, hno, hno']
        exact ⟨rfl, rfl⟩
    · have hk := ih o (hrest (o, t) ht) (h.keeps j i s o t hi hs ht)
        (h.keeps j i s' o t' hi hs' ht') hsame'
      refine ⟨⟨hi, fun r hr => ?_⟩, ?_⟩
      · rw [ht', Option.some.injEq] at hr
        exact hr ▸ hk.1
      · rw [run, run, ht, ht']
        exact hk.2

end Dialogue
