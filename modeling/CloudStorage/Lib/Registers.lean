import Mathlib.Logic.Function.Basic
import Mathlib.Tactic.Common

/-!
# Registers with conditional writes

A store gives each key a register that holds a value or nothing. Operations assign a
register, empty it, or replace its value when it is the expected one, where an empty
register reads as a default value; a conditional write that fails still leaves the
default in an empty register. Replaying a log of operations acts on each register by
the operations on its key alone, so every fact below is about one register.
-/

namespace Registers

inductive Op (κ ν : Type*) where
  | assign (key : κ) (value : ν)
  | erase (key : κ)
  | swap (key : κ) (old new : ν)

variable {κ ν : Type*}

namespace Op

def key : Op κ ν → κ
  | assign k _ => k
  | erase k => k
  | swap k _ _ => k

/-- The operation leaves the same in its register whatever the register held. -/
def Resets : Op κ ν → Prop
  | assign _ _ => True
  | erase _ => True
  | swap _ _ _ => False

instance : DecidablePred (Resets : Op κ ν → Prop) := fun op =>
  match op with
  | assign _ _ | erase _ => isTrue trivial
  | swap _ _ _ => isFalse not_false

/-- The comparison of a conditional write comes out true. -/
def Succeeds (v₀ : ν) : Op κ ν → Option ν → Prop
  | assign _ _, _ => True
  | erase _, _ => True
  | swap _ old _, x => x.getD v₀ = old

lemma succeeds_congr {v₀ : ν} (op : Op κ ν) {x y : Option ν} (h : x.getD v₀ = y.getD v₀) :
    op.Succeeds v₀ x ↔ op.Succeeds v₀ y := by
  cases op with
  | assign k v => exact Iff.rfl
  | erase k => exact Iff.rfl
  | swap k old new => exact (congrArg (· = old) h).to_iff

variable [DecidableEq ν]

/-- What the operation makes of the register it names. -/
def act (v₀ : ν) : Op κ ν → Option ν → Option ν
  | assign _ v, _ => some v
  | erase _, _ => none
  | swap _ old new, x => if x.getD v₀ = old then some new else some (x.getD v₀)

lemma act_of_not_succeeds {v₀ : ν} {op : Op κ ν} {x : Option ν} (h : ¬op.Succeeds v₀ x) :
    op.act v₀ x = some (x.getD v₀) := by
  cases op with
  | assign k v => exact absurd trivial h
  | erase k => exact absurd trivial h
  | swap k old new => exact if_neg h

/-- What the operation makes of a register that only equals a value it holds. -/
def strictAct : Op κ ν → Option ν → Option ν
  | assign _ v, _ => some v
  | erase _, _ => none
  | swap _ old new, x => if x = some old then some new else x

/-- Reading an empty register as the default matters to conditional writes only. -/
theorem act_eq_strictAct_iff (v₀ : ν) (op : Op κ ν) (x : Option ν) :
    op.act v₀ x = op.strictAct x ↔ op.Resets ∨ x ≠ none := by
  cases op with
  | assign k v => simp [act, strictAct, Resets]
  | erase k => simp [act, strictAct, Resets]
  | swap k old new =>
    cases x with
    | none =>
      simp only [act, strictAct, Resets, reduceCtorEq, if_false]
      split <;> simp
    | some v => simp [act, strictAct, Resets]

lemma act_of_resets {v₀ : ν} {op : Op κ ν} (h : op.Resets) (x y : Option ν) :
    op.act v₀ x = op.act v₀ y := by
  cases op with
  | assign k v => rfl
  | erase k => rfl
  | swap k old new => exact h.elim

lemma act_swap_of_succeeds {v₀ : ν} {k : κ} {old new : ν} {x : Option ν}
    (h : (swap k old new).Succeeds v₀ x) : (swap k old new).act v₀ x = some new :=
  if_pos h

lemma isSome_act_swap {v₀ : ν} (k : κ) (old new : ν) (x : Option ν) :
    ((swap k old new).act v₀ x).isSome := by
  rw [act]
  split <;> rfl

/-- A value that is left was brought, or is the default, or was there. -/
lemma eq_of_act {v₀ v : ν} {op : Op κ ν} {x : Option ν} (h : op.act v₀ x = some v) :
    (∃ k, op = assign k v) ∨ (∃ k old, op = swap k old v) ∨ v = v₀ ∨ x = some v := by
  cases op with
  | assign k w =>
    cases h
    exact Or.inl ⟨k, rfl⟩
  | erase k => exact absurd h (by simp [act])
  | swap k old new =>
    rw [act] at h
    split at h
    · cases h
      exact Or.inr (Or.inl ⟨k, old, rfl⟩)
    · cases x with
      | none => exact Or.inr (Or.inr (Or.inl (Option.some.inj h).symm))
      | some w => exact Or.inr (Or.inr (Or.inr h))

/-- Only the value read matters to the value left. -/
lemma getD_act_congr {v₀ : ν} (op : Op κ ν) {x y : Option ν} (h : x.getD v₀ = y.getD v₀) :
    (op.act v₀ x).getD v₀ = (op.act v₀ y).getD v₀ := by
  cases op with
  | assign k v => rfl
  | erase k => rfl
  | swap k old new => simp [act, h]

variable [DecidableEq κ]

def effect (v₀ : ν) (op : Op κ ν) (f : κ → Option ν) : κ → Option ν :=
  Function.update f op.key (op.act v₀ (f op.key))

def strictEffect (op : Op κ ν) (f : κ → Option ν) : κ → Option ν :=
  Function.update f op.key (op.strictAct (f op.key))

theorem effect_eq_strictEffect_iff (v₀ : ν) (op : Op κ ν) (f : κ → Option ν) :
    op.effect v₀ f = op.strictEffect f ↔ op.Resets ∨ f op.key ≠ none := by
  rw [← act_eq_strictAct_iff v₀]
  constructor
  · intro h
    simpa [effect, strictEffect] using congrFun h op.key
  · intro h
    rw [effect, strictEffect, h]

end Op

/-- Every conditional write of the log succeeds when the log is replayed. -/
def Succeed [DecidableEq ν] (v₀ : ν) : List (Op κ ν) → Option ν → Prop
  | [], _ => True
  | op :: ops, x => op.Succeeds v₀ x ∧ Succeed v₀ ops (op.act v₀ x)

variable [DecidableEq ν]

/-- One register under the operations on its key. -/
def actAll (v₀ : ν) (ops : List (Op κ ν)) (x : Option ν) : Option ν :=
  ops.foldl (fun x op => op.act v₀ x) x

@[simp] lemma actAll_nil (v₀ : ν) (x : Option ν) : actAll v₀ ([] : List (Op κ ν)) x = x := rfl

@[simp] lemma actAll_cons (v₀ : ν) (op : Op κ ν) (ops : List (Op κ ν)) (x : Option ν) :
    actAll v₀ (op :: ops) x = actAll v₀ ops (op.act v₀ x) := rfl

lemma actAll_of_resets {v₀ : ν} {ops : List (Op κ ν)} (h : ∃ op ∈ ops, op.Resets)
    (x y : Option ν) : actAll v₀ ops x = actAll v₀ ops y := by
  induction ops generalizing x y with
  | nil => simp at h
  | cons op ops ih =>
    simp only [actAll_cons]
    by_cases hop : op.Resets
    · rw [Op.act_of_resets hop x y]
    · obtain ⟨op', hm, hr⟩ := h
      rcases List.mem_cons.mp hm with rfl | hm
      · exact absurd hr hop
      · exact ih ⟨op', hm, hr⟩ _ _

lemma isSome_actAll {v₀ : ν} {ops : List (Op κ ν)} (hreset : ∀ op ∈ ops, ¬op.Resets)
    {x : Option ν} (hx : x.isSome) : (actAll v₀ ops x).isSome := by
  induction ops generalizing x with
  | nil => exact hx
  | cons op ops ih =>
    have hops : ∀ op ∈ ops, ¬op.Resets := fun op hop => hreset op (List.mem_cons_of_mem _ hop)
    cases op with
    | assign k v => exact absurd trivial (hreset _ List.mem_cons_self)
    | erase k => exact absurd trivial (hreset _ List.mem_cons_self)
    | swap k old new => exact ih hops (Op.isSome_act_swap k old new x)

/-- Without a reset and with every conditional write succeeding, a replay that starts from
the value the log ends with either stays there or has caught up with the first run. -/
lemma actAll_stays {v₀ : ν} {ops : List (Op κ ν)} (hreset : ∀ op ∈ ops, ¬op.Resets)
    {x : Option ν} (h : Succeed v₀ ops x) {v : ν} (hv : actAll v₀ ops x = some v) :
    actAll v₀ ops (some v) = some v := by
  induction ops generalizing x with
  | nil => rfl
  | cons op ops ih =>
    obtain ⟨hop, hops⟩ := h
    simp only [actAll_cons] at hv ⊢
    cases op with
    | assign k w => exact absurd trivial (hreset _ List.mem_cons_self)
    | erase k => exact absurd trivial (hreset _ List.mem_cons_self)
    | swap k old new =>
      rw [Op.act_swap_of_succeeds hop] at hv hops
      by_cases hw : v = old
      · have hs : Op.act v₀ (Op.swap k old new) (some v) = some new := by simp [Op.act, hw]
        rw [hs, hv]
      · have hs : Op.act v₀ (Op.swap k old new) (some v) = some v := by simp [Op.act, hw]
        rw [hs]
        exact ih (fun op hop => hreset op (List.mem_cons_of_mem _ hop)) hops hv

/-- Replaying a log whose conditional writes succeed over the register it produced leaves
this register as it is. -/
theorem actAll_actAll {v₀ : ν} {ops : List (Op κ ν)} {x : Option ν} (h : Succeed v₀ ops x) :
    actAll v₀ ops (actAll v₀ ops x) = actAll v₀ ops x := by
  by_cases hreset : ∃ op ∈ ops, op.Resets
  · exact actAll_of_resets hreset _ _
  have hno : ∀ op ∈ ops, ¬op.Resets := fun op hop hr => hreset ⟨op, hop, hr⟩
  cases ops with
  | nil => rfl
  | cons op ops =>
    cases op with
    | assign k w => exact absurd trivial (hno _ List.mem_cons_self)
    | erase k => exact absurd trivial (hno _ List.mem_cons_self)
    | swap k old new =>
      -- the first conditional write has filled the register, and no later one empties it
      have hsome : (actAll v₀ (Op.swap k old new :: ops) x).isSome :=
        isSome_actAll (fun op hop => hno op (List.mem_cons_of_mem _ hop))
          (Op.isSome_act_swap k old new x)
      obtain ⟨v, hv⟩ := Option.isSome_iff_exists.mp hsome
      rw [hv]
      exact actAll_stays hno h hv

/-- A replay may start from the register it started from before or from its result. -/
theorem actAll_of_start_or_result {v₀ : ν} {ops : List (Op κ ν)} {x y : Option ν}
    (h : Succeed v₀ ops x) (hy : y = x ∨ y = actAll v₀ ops x) :
    actAll v₀ ops y = actAll v₀ ops x := by
  cases hy with
  | inl hy => rw [hy]
  | inr hy => rw [hy, actAll_actAll h]

/-- Conditional writes that expect a value other than the default cannot fill a register
that reads as the default. -/
lemma getD_actAll_default {v₀ : ν} {ops : List (Op κ ν)} (hreset : ∀ op ∈ ops, ¬op.Resets)
    (hold : ∀ k old new, Op.swap k old new ∈ ops → old ≠ v₀) {x : Option ν}
    (hx : x.getD v₀ = v₀) : (actAll v₀ ops x).getD v₀ = v₀ := by
  induction ops generalizing x with
  | nil => exact hx
  | cons op ops ih =>
    refine ih (fun op hop => hreset op (List.mem_cons_of_mem _ hop))
      (fun k old new hm => hold k old new (List.mem_cons_of_mem _ hm)) ?_
    cases op with
    | assign k v => exact absurd trivial (hreset _ List.mem_cons_self)
    | erase k => exact absurd trivial (hreset _ List.mem_cons_self)
    | swap k old new =>
      have hne : v₀ ≠ old := Ne.symm (hold k old new List.mem_cons_self)
      simp [Op.act, hx, hne]

/-! ### Whole stores -/

variable [DecidableEq κ]

/-- The store after a log of operations. -/
def replay (v₀ : ν) (ops : List (Op κ ν)) (f : κ → Option ν) : κ → Option ν :=
  ops.foldl (fun f op => op.effect v₀ f) f

/-- The operations of a log on one key. -/
def opsOn (k : κ) (ops : List (Op κ ν)) : List (Op κ ν) :=
  ops.filter (fun op => op.key = k)

theorem replay_apply (v₀ : ν) (ops : List (Op κ ν)) (f : κ → Option ν) (k : κ) :
    replay v₀ ops f k = actAll v₀ (opsOn k ops) (f k) := by
  induction ops generalizing f with
  | nil => rfl
  | cons op ops ih =>
    have hstep : replay v₀ (op :: ops) f k = replay v₀ ops (op.effect v₀ f) k := rfl
    rw [hstep, ih]
    by_cases h : op.key = k
    · subst h
      simp [opsOn, Op.effect]
    · simp [opsOn, Op.effect, h, Function.update_of_ne (Ne.symm h)]

end Registers
