import Mathlib.Data.List.Induction
import Mathlib.Tactic.Common

/-!
# Runs of labelled systems

A system takes one step for each label, and a label that is not enabled gives no state.
`Reachable` collects the states of the runs whose steps all meet a condition `ok` on the
state before the step and the label.
-/

/-- Initial states and, for each label, the state after it. -/
structure System (σ α : Type*) where
  init : σ → Prop
  next : σ → α → Option σ

namespace System

variable {σ α : Type*} (S : System σ α)

/-- The states of the runs in which every step meets `ok`. -/
inductive Reachable (ok : σ → α → Prop) : σ → Prop where
  | init {s : σ} : S.init s → Reachable ok s
  | step {s t : σ} {a : α} : Reachable ok s → ok s a → S.next s a = some t → Reachable ok t

/-- The state after a list of labels, if each is enabled in turn. -/
def exec : σ → List α → Option σ
  | s, [] => some s
  | s, a :: as => (S.next s a).bind (fun t => exec t as)

theorem exec_append (s : σ) (as bs : List α) :
    S.exec s (as ++ bs) = (S.exec s as).bind (fun t => S.exec t bs) := by
  induction as generalizing s with
  | nil => rfl
  | cons a as ih =>
    rw [List.cons_append, exec, exec, Option.bind_assoc]
    congr 1
    funext t
    exact ih t

theorem exec_concat_iff (s t : σ) (as : List α) (a : α) :
    S.exec s (as ++ [a]) = some t ↔ ∃ u, S.exec s as = some u ∧ S.next u a = some t := by
  have hone : ∀ u, S.exec u [a] = S.next u a := fun u => Option.bind_fun_some (S.next u a)
  simp only [exec_append, Option.bind_eq_some_iff, hone]

/-- Each step of the run with these labels meets `ok`, as far as the run goes. -/
def Along (ok : σ → α → Prop) : σ → List α → Prop
  | _, [] => True
  | s, a :: as => ok s a ∧ ∀ t, S.next s a = some t → Along ok t as

variable {S} {ok : σ → α → Prop}

lemma along_one {s : σ} {a : α} (h : ok s a) : S.Along ok s [a] := ⟨h, fun _ _ => trivial⟩

lemma along_congr {ok' : σ → α → Prop} (h : ∀ s a, ok s a ↔ ok' s a) (s : σ) (as : List α) :
    S.Along ok s as ↔ S.Along ok' s as := by
  induction as generalizing s with
  | nil => exact Iff.rfl
  | cons a as ih =>
    have hrest : (∀ t, S.next s a = some t → S.Along ok t as) ↔
        ∀ t, S.next s a = some t → S.Along ok' t as :=
      forall_congr' (fun t => imp_congr_right (fun _ => ih t))
    exact and_congr (h s a) hrest

lemma along_of_forall {as : List α} (h : ∀ u, ∀ a ∈ as, ok u a) (s : σ) : S.Along ok s as := by
  induction as generalizing s with
  | nil => trivial
  | cons a as ih =>
    have htail : ∀ u, ∀ b ∈ as, ok u b := fun u b hb => h u b (List.mem_cons_of_mem a hb)
    exact ⟨h s a List.mem_cons_self, fun t _ => ih htail t⟩

/-- What relates the start to the empty list of labels, and is kept when a label is added,
relates every list of labels to the state it leads to. -/
theorem exec_history {s₀ : σ} {H : List α → σ → Prop} (hinit : H [] s₀)
    (hstep : ∀ as s a t, H as s → S.next s a = some t → H (as ++ [a]) t)
    {as : List α} {s : σ} (h : S.exec s₀ as = some s) : H as s := by
  induction as using List.reverseRecOn generalizing s with
  | nil =>
    have hs : s₀ = s := by simpa [exec] using h
    exact hs ▸ hinit
  | append_singleton as a ih =>
    obtain ⟨u, hu, ha⟩ := (exec_concat_iff S s₀ s as a).mp h
    exact hstep as u a s (ih hu) ha

/-- What holds initially and is kept by every step of the runs holds in all their states. -/
theorem Reachable.invariant {I : σ → Prop} (hinit : ∀ s, S.init s → I s)
    (hstep : ∀ s a t, I s → ok s a → S.next s a = some t → I t)
    {s : σ} (h : S.Reachable ok s) : I s := by
  induction h with
  | init h => exact hinit _ h
  | step _ hok hnext ih => exact hstep _ _ _ ih hok hnext

/-- A run that meets the condition along its labels can be continued. -/
theorem Reachable.along {s t : σ} {as : List α} (h : S.Reachable ok s) (hok : S.Along ok s as)
    (he : S.exec s as = some t) : S.Reachable ok t := by
  induction as generalizing s with
  | nil =>
    have hst : s = t := by simpa [System.exec] using he
    exact hst ▸ h
  | cons a as ih =>
    obtain ⟨u, hu, ht⟩ := Option.bind_eq_some_iff.mp he
    exact ih (h.step hok.1 hu) (hok.2 u hu) ht

/-- A list of labels that always meet the condition leads from one such run to another. -/
theorem Reachable.exec {s t : σ} {as : List α} (h : S.Reachable ok s)
    (hok : ∀ u, ∀ a ∈ as, ok u a) (he : S.exec s as = some t) : S.Reachable ok t :=
  h.along (along_of_forall hok s) he

/-! ### Checking a run -/

/-- The check passes at each step of the run, as far as the run goes. -/
def checkAlong (S : System σ α) (check : σ → α → Bool) : σ → List α → Bool
  | _, [] => true
  | s, a :: as => check s a && (S.next s a).all (fun t => S.checkAlong check t as)

/-- A run meets a condition if the condition follows from a check that each of its steps
passes, in the states of an invariant that such steps keep. -/
theorem along_of_check {I : σ → Prop} {check : σ → α → Bool}
    (hok : ∀ s a, I s → check s a = true → ok s a)
    (hkeep : ∀ s a t, I s → check s a = true → S.next s a = some t → I t) {s : σ} {as : List α}
    (hs : I s) (h : S.checkAlong check s as = true) : S.Along ok s as := by
  induction as generalizing s with
  | nil => trivial
  | cons a as ih =>
    obtain ⟨hfirst, hrest⟩ := Bool.and_eq_true_iff.mp h
    refine ⟨hok s a hs hfirst, fun t ht => ih (hkeep s a t hs hfirst ht) ?_⟩
    rwa [ht, Option.all_some] at hrest

/-- The check may use what is true of every state that such runs reach. -/
theorem Reachable.of_check {check : σ → α → Bool}
    (hok : ∀ s a, S.Reachable ok s → check s a = true → ok s a) {s t : σ} {as : List α}
    (hs : S.Reachable ok s) (h : S.checkAlong check s as = true) (he : S.exec s as = some t) :
    S.Reachable ok t := by
  have hkeep : ∀ s a t, S.Reachable ok s → check s a = true → S.next s a = some t →
      S.Reachable ok t :=
    fun s a t hs hcheck hnext => hs.step (hok s a hs hcheck) hnext
  exact hs.along (along_of_check hok hkeep hs h) he

end System
