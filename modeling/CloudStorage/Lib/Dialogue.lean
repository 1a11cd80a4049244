import Mathlib.Tactic.Common

/-!
# Programs that ask

A program asks its environment one question after another, each chosen by the answers so
far, until it ends with a result or stops without one. An environment answers from a state
of its own, or never. This file relates what a program may ask, given what the answers look
like, to its runs: what every answer keeps a whole run keeps, and a run in one of two
related environments is matched by a run in the other.
-/

universe u v w

/-- A program whose questions are in `ι`, and the answers to `i` in `ο i`. -/
inductive Dialogue (ι : Type u) (ο : ι → Type v) (α : Type w) where
  | done (a : α)
  | stop
  | ask (i : ι) (k : ο i → Dialogue ι ο α)

namespace Dialogue

variable {ι : Type u} {ο : ι → Type v} {α β : Type w}

def bind : Dialogue ι ο α → (α → Dialogue ι ο β) → Dialogue ι ο β
  | done a, f => f a
  | stop, _ => stop
  | ask i k, f => ask i (fun o => bind (k o) f)

instance : Monad (Dialogue ι ο) where
  pure := done
  bind := bind

@[simp] lemma done_bind (a : α) (f : α → Dialogue ι ο β) : done a >>= f = f a := rfl

@[simp] lemma stop_bind (f : α → Dialogue ι ο β) : (stop : Dialogue ι ο α) >>= f = stop := rfl

@[simp] lemma ask_bind (i : ι) (k : ο i → Dialogue ι ο α) (f : α → Dialogue ι ο β) :
    ask i k >>= f = ask i (fun o => k o >>= f) := rfl

/-- A single question. -/
def question (i : ι) : Dialogue ι ο (ο i) := ask i done

/-- Stops where there is no value. -/
def ofOption : Option α → Dialogue ι ο α
  | some a => done a
  | none => stop

@[simp] lemma ofOption_some (a : α) : (ofOption (some a) : Dialogue ι ο α) = done a := rfl

@[simp] lemma ofOption_none : (ofOption none : Dialogue ι ο α) = stop := rfl

/-! ### What is asked -/

/-- Some answers lead the program to a question with `P`. -/
def CanAsk (P : ι → Prop) : Dialogue ι ο α → Prop
  | done _ => False
  | stop => False
  | ask i k => P i ∨ ∃ o, CanAsk P (k o)

lemma canAsk_bind {P : ι → Prop} {d : Dialogue ι ο α} (h : d.CanAsk P)
    (f : α → Dialogue ι ο β) : (d >>= f).CanAsk P := by
  induction d with
  | done a => exact h.elim
  | stop => exact h.elim
  | ask i k ih =>
    cases h with
    | inl hi => exact Or.inl hi
    | inr ho =>
      obtain ⟨o, ho⟩ := ho
      exact Or.inr ⟨o, ih o ho⟩

/-- Whatever the answers, as long as they have `Q`, every question has `P` and the result
has `R`. -/
def Asks (P : ι → Prop) (Q : (i : ι) → ο i → Prop) (R : α → Prop) : Dialogue ι ο α → Prop
  | done a => R a
  | stop => True
  | ask i k => P i ∧ ∀ o, Q i o → Asks P Q R (k o)

variable {P : ι → Prop} {Q : (i : ι) → ο i → Prop} {R : α → Prop}

lemma Asks.mono {R' : α → Prop} {d : Dialogue ι ο α} (h : d.Asks P Q R)
    (hR : ∀ a, R a → R' a) : d.Asks P Q R' := by
  induction d with
  | done a => exact hR a h
  | stop => trivial
  | ask i k ih => exact ⟨h.1, fun o ho => ih o (h.2 o ho)⟩

theorem Asks.bind {R' : β → Prop} {d : Dialogue ι ο α} {f : α → Dialogue ι ο β}
    (h : d.Asks P Q R) (hf : ∀ a, R a → (f a).Asks P Q R') : (d >>= f).Asks P Q R' := by
  induction d with
  | done a => exact hf a h
  | stop => trivial
  | ask i k ih => exact ⟨h.1, fun o ho => ih o (h.2 o ho)⟩

lemma asks_question {i : ι} (hi : P i) :
    (question i : Dialogue ι ο (ο i)).Asks P Q (Q i) :=
  ⟨hi, fun _ ho => ho⟩

lemma asks_ofOption {x : Option α} (h : ∀ a, x = some a → R a) :
    (ofOption x : Dialogue ι ο α).Asks P Q R := by
  cases x with
  | none => trivial
  | some a => exact h a rfl

/-- As long as the answers have `Q`, the program does not stop by itself. -/
def Lives (Q : (i : ι) → ο i → Prop) : Dialogue ι ο α → Prop
  | done _ => True
  | stop => False
  | ask i k => ∀ o, Q i o → Lives Q (k o)

theorem Lives.bind {d : Dialogue ι ο α} {f : α → Dialogue ι ο β} (h : d.Lives Q)
    (hf : ∀ a, (f a).Lives Q) : (d >>= f).Lives Q := by
  induction d with
  | done a => exact hf a
  | stop => exact h.elim
  | ask i k ih => exact fun o ho => ih o (h o ho)

lemma Lives.ite {p : Prop} [Decidable p] {d e : Dialogue ι ο α} (hd : d.Lives Q)
    (he : e.Lives Q) : (if p then d else e).Lives Q := by
  split
  · exact hd
  · exact he

lemma lives_ofOption {x : Option α} (h : x ≠ none) :
    (ofOption x : Dialogue ι ο α).Lives Q := by
  cases x with
  | none => exact absurd rfl h
  | some a => trivial

/-! ### Runs -/

variable {σ : Type*}

/-- The result and the state of the environment afterwards. -/
def run (env : (i : ι) → σ → Option (ο i × σ)) : Dialogue ι ο α → σ → Option (α × σ)
  | done a, s => some (a, s)
  | stop, _ => none
  | ask i k, s => (env i s).bind (fun r => run env (k r.1) r.2)

variable {env : (i : ι) → σ → Option (ο i × σ)}

theorem run_bind (d : Dialogue ι ο α) (f : α → Dialogue ι ο β) (s : σ) :
    (d >>= f).run env s = (d.run env s).bind (fun r => (f r.1).run env r.2) := by
  induction d generalizing s with
  | done a => rfl
  | stop => rfl
  | ask i k ih =>
    rw [ask_bind, run, run, Option.bind_assoc]
    congr 1
    funext r
    exact ih r.1 r.2

lemma run_question (i : ι) (s : σ) : (question i : Dialogue ι ο (ο i)).run env s = env i s := by
  rw [question, run]
  exact Option.bind_fun_some (env i s)

/-- The environment as far as its answers have `ok`. -/
def accepting (ok : (i : ι) → ο i → Prop) [∀ i o, Decidable (ok i o)]
    (env : (i : ι) → σ → Option (ο i × σ)) (i : ι) (s : σ) : Option (ο i × σ) :=
  (env i s).filter (fun r => ok i r.1)

lemma accepting_eq_some {ok : (i : ι) → ο i → Prop} [∀ i o, Decidable (ok i o)] {i : ι} {s : σ}
    {r : ο i × σ} : accepting ok env i s = some r ↔ env i s = some r ∧ ok i r.1 := by
  simp [accepting, Option.filter_eq_some_iff]

/-- A run keeps what every answer to an allowed question keeps. -/
theorem Asks.run_keeps {I : σ → Prop} {d : Dialogue ι ο α} (h : d.Asks P Q R)
    (hstep : ∀ i s o t, P i → I s → env i s = some (o, t) → Q i o ∧ I t) {s t : σ} {a : α}
    (hs : I s) (hrun : d.run env s = some (a, t)) : R a ∧ I t := by
  induction d generalizing s with
  | done b =>
    obtain ⟨rfl, rfl⟩ := Prod.mk.inj (Option.some.inj hrun)
    exact ⟨h, hs⟩
  | stop => exact absurd hrun (by simp [run])
  | ask i k ih =>
    obtain ⟨⟨o, u⟩, hi, hk⟩ := Option.bind_eq_some_iff.mp hrun
    obtain ⟨ho, hu⟩ := hstep i s o u h.1 hs hi
    exact ih o (h.2 o ho) hu hk

/-- A run ends if every question gets an answer that does not stop the program. -/
theorem Lives.run_ne_none {d : Dialogue ι ο α} (h : d.Lives Q)
    (henv : ∀ i s, ∃ r, env i s = some r ∧ Q i r.1) (s : σ) : d.run env s ≠ none := by
  induction d generalizing s with
  | done a => exact Option.some_ne_none _
  | stop => exact h.elim
  | ask i k ih =>
    obtain ⟨r, hr, hQ⟩ := henv i s
    rw [run, hr, Option.bind_some]
    exact ih r.1 (h r.1 hQ) r.2

/-- Both runs end with the same result in related states, or neither ends. -/
def Matching (S : σ → σ → Prop) (R : α → Prop) (x y : Option (α × σ)) : Prop :=
  (x = none ∧ y = none) ∨ ∃ a t t', x = some (a, t) ∧ y = some (a, t') ∧ R a ∧ S t t'

/-- Environments that answer alike cannot be told apart by a run. -/
theorem Asks.run_matching {S : σ → σ → Prop} {d : Dialogue ι ο α} (h : d.Asks P Q R)
    (hstep : ∀ i s s', P i → S s s' → Matching S (Q i) (env i s) (env i s')) {s s' : σ}
    (hs : S s s') : Matching S R (d.run env s) (d.run env s') := by
  induction d generalizing s s' with
  | done a => exact Or.inr ⟨a, s, s', rfl, rfl, h, hs⟩
  | stop => exact Or.inl ⟨rfl, rfl⟩
  | ask i k ih =>
    cases hstep i s s' h.1 hs with
    | inl hnone =>
      left
      simp only [run, hnone.1, hnone.2, Option.bind_none, and_self]
    | inr hsome =>
      obtain ⟨o, t, t', ht, ht', ho, hS⟩ := hsome
      have hk := ih o (h.2 o ho) hS
      simpa only [run, ht, ht', Option.bind_some] using hk

end Dialogue
