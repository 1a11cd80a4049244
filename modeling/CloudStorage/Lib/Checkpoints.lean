import Mathlib.Data.List.Nodup
import Mathlib.Logic.Function.Basic
import Mathlib.Tactic.Common

/-!
# Checkpoints among concurrent writers

Writers change a memory and then log what they changed; now and then one of them copies the
memory, key by key, into a temporary store, replaces the stored data by the copy and
empties the log. Nothing orders the steps of different writers. The stored data with the log
over it gives the memory back as soon as every writer is done, provided that no line is
logged late: neither after a later value of its key, nor to a log that a copy without this
value is about to empty.
-/

namespace Checkpoints

inductive Phase (κ : Type*) where
  | updating
  | logging
  | checking
  | snapshot (rest : List κ)
  | replacing
  | truncating
  | done

namespace Phase

variable {κ : Type*}

/-- The writer has the temporary store in use. -/
def UsesCopy : Phase κ → Prop
  | snapshot _ => True
  | replacing => True
  | _ => False

/-- The writer is replacing the stored data or emptying the log. -/
def Replaces : Phase κ → Prop
  | replacing => True
  | truncating => True
  | _ => False

end Phase

/-- A writer that leaves `value` under `key`. -/
structure Writer (κ ν : Type*) where
  key : κ
  value : Option ν
  phase : Phase κ

structure State (κ ν : Type*) where
  memory : κ → Option ν
  data : κ → Option ν
  copy : κ → Option ν
  log : List (κ × Option ν)
  writers : List (Writer κ ν)

namespace State

variable {κ ν : Type*}

/-- Some writer among `who` put the value of `k` into the memory and has yet to log it. -/
def Owed (s : State κ ν) (who : Nat → Prop) (k : κ) : Prop :=
  ∃ (j : Nat) (w : Writer κ ν), who j ∧ s.writers[j]? = some w ∧ w.phase = .logging ∧
    w.key = k ∧ w.value = s.memory k

/-- The value of `k` is the one in memory, or one among `who` will log that. -/
def Settled (s : State κ ν) (who : Nat → Prop) (k : κ) (v : Option ν) : Prop :=
  v = s.memory k ∨ s.Owed who k

def anyone : Nat → Prop := fun _ => True

/-- No writer is in a phase with `P`. -/
def Without (s : State κ ν) (P : Phase κ → Prop) : Prop :=
  ∀ (l : Nat) (x : Writer κ ν), s.writers[l]? = some x → ¬P x.phase

/-- `t` is `s` with writer `i` in phase `p`, up to the stores. -/
structure Moved (s t : State κ ν) (i : Nat) (w : Writer κ ν) (p : Phase κ) : Prop where
  writer : s.writers[i]? = some w
  writers : t.writers = s.writers.set i { w with phase := p }

variable {s t : State κ ν} {i : Nat} {w : Writer κ ν} {p : Phase κ}

lemma Moved.at_iff (h : Moved s t i w p) (j : Nat) (u : Writer κ ν) :
    t.writers[j]? = some u ↔
      (j = i ∧ u = { w with phase := p }) ∨ (j ≠ i ∧ s.writers[j]? = some u) := by
  rw [h.writers]
  by_cases hj : j = i
  · subst hj
    have hlt : j < s.writers.length := (List.getElem?_eq_some_iff.mp h.writer).1
    simp [hlt, eq_comm]
  · simp [hj, List.getElem?_set_ne (Ne.symm hj)]

lemma Moved.back (h : Moved s t i w p) {j : Nat} {u : Writer κ ν}
    (hu : t.writers[j]? = some u) (hp : u.phase ≠ p) : j ≠ i ∧ s.writers[j]? = some u := by
  cases (h.at_iff j u).mp hu with
  | inl hi => exact absurd (congrArg Writer.phase hi.2) hp
  | inr ho => exact ho

/-- What the writer is neither before nor after the others are. -/
lemma Moved.without_iff (h : Moved s t i w p) {P : Phase κ → Prop} (hw : ¬P w.phase)
    (hp : ¬P p) : t.Without P ↔ s.Without P := by
  constructor
  · intro hall l x hx
    by_cases hl : l = i
    · subst hl
      obtain rfl : w = x := Option.some.inj (h.writer.symm.trans hx)
      exact hw
    · exact hall l x ((h.at_iff l x).mpr (Or.inr ⟨hl, hx⟩))
  · intro hall l x hx
    cases (h.at_iff l x).mp hx with
    | inl hi => exact hi.2 ▸ hp
    | inr ho => exact hall l x ho.2

lemma settled_without {k : κ} {v : Option ν} (hw : s.writers[i]? = some w)
    (hno : w.phase ≠ .logging ∨ w.key ≠ k) (hs : s.Settled anyone k v) :
    s.Settled (· ≠ i) k v := by
  cases hs with
  | inl hv => exact Or.inl hv
  | inr ho =>
    obtain ⟨j, u, -, hu, hl, hk, hv⟩ := ho
    refine Or.inr ⟨j, u, ?_, hu, hl, hk, hv⟩
    rintro rfl
    obtain rfl : w = u := Option.some.inj (hw.symm.trans hu)
    cases hno with
    | inl hno => exact hno hl
    | inr hno => exact hno hk

/-- What another writer owes it still owes. -/
lemma Moved.settled (h : Moved s t i w p) {k : κ} {v : Option ν}
    (hm : t.memory k = s.memory k) (hs : s.Settled (· ≠ i) k v) : t.Settled anyone k v := by
  cases hs with
  | inl hv => exact Or.inl (hm ▸ hv)
  | inr ho =>
    obtain ⟨j, u, hj, hu, hl, hk, hv⟩ := ho
    exact Or.inr ⟨j, u, trivial, (h.at_iff j u).mpr (Or.inr ⟨hj, hu⟩), hl, hk, hm ▸ hv⟩

lemma Moved.keep (h : Moved s t i w p) (hl : w.phase ≠ .logging) (hm : t.memory = s.memory)
    {k : κ} {v : Option ν} (hs : s.Settled anyone k v) : t.Settled anyone k v :=
  h.settled (congrFun hm k) (settled_without h.writer (Or.inl hl) hs)

/-- The writer that has the copy in use keeps it, and nobody else gets it. -/
lemma Moved.solo (hmv : Moved s t i w p)
    (halone : ∀ (j : Nat) (u : Writer κ ν), j ≠ i → s.writers[j]? = some u → ¬u.phase.UsesCopy) :
    ∀ (j l : Nat) (u x : Writer κ ν), t.writers[j]? = some u → t.writers[l]? = some x →
      u.phase.UsesCopy → x.phase.UsesCopy → j = l := by
  have hi : ∀ {j : Nat} {u : Writer κ ν}, t.writers[j]? = some u → u.phase.UsesCopy → j = i := by
    intro j u hu hc
    cases (hmv.at_iff j u).mp hu with
    | inl hi => exact hi.1
    | inr ho => exact absurd hc (halone j u ho.1 ho.2)
  intro j l u x hu hx hju hlx
  rw [hi hu hju, hi hx hlx]

/-- The writer at `i` is the only one that can be in the phase `q`. -/
lemma Moved.eq_of_phase (hmv : Moved s t i w p) {q : Phase κ}
    (halone : ∀ (j : Nat) (u : Writer κ ν), j ≠ i → s.writers[j]? = some u → ¬u.phase.UsesCopy)
    (hq : q.UsesCopy) {j : Nat} {u : Writer κ ν} (hu : t.writers[j]? = some u)
    (hr : u.phase = q) : q = p := by
  cases (hmv.at_iff j u).mp hu with
  | inl hi => rw [← hr, hi.2]
  | inr ho => exact absurd (hr ▸ hq) (halone j u ho.1 ho.2)

end State

open State

variable {κ ν : Type*} [DecidableEq κ]

/-- The data with the log over it. -/
def overlay (log : List (κ × Option ν)) (f : κ → Option ν) : κ → Option ν :=
  log.foldl (fun f e => Function.update f e.1 e.2) f

lemma overlay_concat (log : List (κ × Option ν)) (e : κ × Option ν) (f : κ → Option ν) :
    overlay (log ++ [e]) f = Function.update (overlay log f) e.1 e.2 := by
  simp [overlay]

/-- What holds between any two steps: a key that a copy has passed, the data while the log
is about to be emptied, and otherwise the data with the log over it, are as in memory or
somebody will still log the difference. -/
structure Inv (s : State κ ν) : Prop where
  solo : ∀ (i j : Nat) (w u : Writer κ ν), s.writers[i]? = some w → s.writers[j]? = some u →
    w.phase.UsesCopy → u.phase.UsesCopy → i = j
  fresh : ∀ (j : Nat) (u : Writer κ ν) (rest : List κ), s.writers[j]? = some u →
    u.phase = .snapshot rest → rest.Nodup ∧ ∀ k ∈ rest, s.copy k = none
  copied : ∀ (j : Nat) (u : Writer κ ν) (rest : List κ), s.writers[j]? = some u →
    u.phase = .snapshot rest → ∀ k, k ∉ rest → s.Settled anyone k (s.copy k)
  complete : ∀ (j : Nat) (u : Writer κ ν), s.writers[j]? = some u → u.phase = .replacing →
    ∀ k, s.Settled anyone k (s.copy k)
  replaced : ∀ (j : Nat) (u : Writer κ ν), s.writers[j]? = some u → u.phase = .truncating →
    s.Without (· = .replacing) → ∀ k, s.Settled anyone k (s.data k)
  logged : s.Without Phase.Replaces → ∀ k, s.Settled anyone k (overlay s.log s.data k)

/-- When everybody is done the memory can be had from the data and the log. -/
theorem Inv.restores {s : State κ ν} (h : Inv s)
    (hdone : ∀ (j : Nat) (u : Writer κ ν), s.writers[j]? = some u → u.phase = .done) :
    overlay s.log s.data = s.memory := by
  funext k
  have hquiet : s.Without Phase.Replaces := by
    intro l x hx
    rw [hdone l x hx]
    exact id
  cases h.logged hquiet k with
  | inl hv => exact hv
  | inr ho =>
    obtain ⟨j, u, -, hu, hl, -⟩ := ho
    rw [hdone j u hu] at hl
    exact absurd hl (by simp)

theorem Inv.initial {s : State κ ν} (hw : s.writers = [])
    (hmem : overlay s.log s.data = s.memory) : Inv s := by
  have hno : ∀ {j : Nat} {u : Writer κ ν}, s.writers[j]? ≠ some u := by simp [hw]
  refine ⟨?_, ?_, ?_, ?_, ?_, ?_⟩
  · intro i j w u hi
    exact absurd hi hno
  · intro j u rest hu
    exact absurd hu hno
  · intro j u rest hu
    exact absurd hu hno
  · intro j u hu
    exact absurd hu hno
  · intro j u hu
    exact absurd hu hno
  · intro _ k
    exact Or.inl (congrFun hmem k)

/-! ### Steps of a writer -/

section steps

variable {s t : State κ ν} {i : Nat} {w : Writer κ ν} {p : Phase κ}

/-- A step that is no part of a checkpoint keeps the invariant when the copy, the data, and
the data with the log stay settled. -/
theorem Inv.of_write (h : Inv s) (hmv : Moved s t i w p)
    (hw : ¬w.phase.UsesCopy ∧ ¬w.phase.Replaces) (hp : ¬p.UsesCopy ∧ ¬p.Replaces)
    (hd : t.data = s.data) (hc : t.copy = s.copy)
    (hcopied : ∀ (j : Nat) (u : Writer κ ν) (rest : List κ), s.writers[j]? = some u →
      u.phase = .snapshot rest → ∀ k, k ∉ rest → s.Settled anyone k (s.copy k) →
        t.Settled anyone k (s.copy k))
    (hcomplete : ∀ (j : Nat) (u : Writer κ ν), s.writers[j]? = some u → u.phase = .replacing →
      ∀ k, s.Settled anyone k (s.copy k) → t.Settled anyone k (s.copy k))
    (hreplaced : ∀ (j : Nat) (u : Writer κ ν), s.writers[j]? = some u → u.phase = .truncating →
      s.Without (· = .replacing) →
      ∀ k, s.Settled anyone k (s.data k) → t.Settled anyone k (s.data k))
    (hlogged : ∀ k, s.Settled anyone k (overlay s.log s.data k) →
      t.Settled anyone k (overlay t.log s.data k)) : Inv t := by
  have back : ∀ {j : Nat} {u : Writer κ ν}, t.writers[j]? = some u →
      u.phase.UsesCopy ∨ u.phase.Replaces → s.writers[j]? = some u := by
    intro j u hu hs
    refine (hmv.back hu ?_).2
    rintro rfl
    exact hs.elim hp.1 hp.2
  refine ⟨?_, ?_, ?_, ?_, ?_, ?_⟩
  · intro j l u x hu hx hju hlx
    exact h.solo j l u x (back hu (Or.inl hju)) (back hx (Or.inl hlx)) hju hlx
  · intro j u rest hu hr
    rw [hc]
    exact h.fresh j u rest (back hu (Or.inl (hr ▸ trivial))) hr
  · intro j u rest hu hr k hk
    have hu := back hu (Or.inl (hr ▸ trivial))
    rw [hc]
    exact hcopied j u rest hu hr k hk (h.copied j u rest hu hr k hk)
  · intro j u hu hr k
    have hu := back hu (Or.inl (hr ▸ trivial))
    rw [hc]
    exact hcomplete j u hu hr k (h.complete j u hu hr k)
  · intro j u hu hr hno k
    have hu := back hu (Or.inr (hr ▸ trivial))
    have hno : s.Without (· = .replacing) := by
      refine (hmv.without_iff ?_ ?_).mp hno
      · intro he
        exact hw.2 (he ▸ trivial)
      · rintro rfl
        exact hp.2 trivial
    rw [hd]
    exact hreplaced j u hu hr hno k (h.replaced j u hu hr hno k)
  · intro hno k
    rw [hd]
    exact hlogged k (h.logged ((hmv.without_iff hw.2 hp.2).mp hno) k)

/-- The writer changes the memory. -/
theorem Inv.update (h : Inv s) (hmv : Moved s t i w .logging) (hp : w.phase = .updating)
    (hm : t.memory = Function.update s.memory w.key w.value) (hd : t.data = s.data)
    (hc : t.copy = s.copy) (hlog : t.log = s.log) : Inv t := by
  -- what is under the key now, the writer owes
  have keep : ∀ {k : κ} {v : Option ν}, s.Settled anyone k v → t.Settled anyone k v := by
    intro k v hs
    by_cases hk : k = w.key
    · subst hk
      refine Or.inr ⟨i, { w with phase := .logging }, trivial, ?_, rfl, rfl, ?_⟩
      · exact (hmv.at_iff i _).mpr (Or.inl ⟨rfl, rfl⟩)
      · rw [hm, Function.update_self]
    · apply hmv.settled (by rw [hm, Function.update_of_ne hk])
      exact settled_without hmv.writer (Or.inr (Ne.symm hk)) hs
  apply h.of_write hmv (by simp [hp, Phase.UsesCopy, Phase.Replaces]) ⟨id, id⟩ hd hc
  · exact fun j u rest _ _ k _ hs => keep hs
  · exact fun j u _ _ k hs => keep hs
  · exact fun j u _ _ _ k hs => keep hs
  · rw [hlog]
    exact fun k hs => keep hs

/-- The writer logs what it left: by then nobody may rely on it any more, neither for what
is about to be emptied out of the log nor for a later value. -/
theorem Inv.append (h : Inv s) (hmv : Moved s t i w .checking) (hp : w.phase = .logging)
    (hm : t.memory = s.memory) (hd : t.data = s.data) (hc : t.copy = s.copy)
    (hlog : t.log = s.log ++ [(w.key, w.value)])
    (hlatest : s.Settled (· ≠ i) w.key w.value)
    (hcopied : ∀ (j : Nat) (u : Writer κ ν) (rest : List κ), s.writers[j]? = some u →
      u.phase = .snapshot rest → w.key ∉ rest → s.Settled (· ≠ i) w.key (s.copy w.key))
    (hcomplete : ∀ (j : Nat) (u : Writer κ ν), s.writers[j]? = some u → u.phase = .replacing →
      s.Settled (· ≠ i) w.key (s.copy w.key))
    (hreplaced : ∀ (j : Nat) (u : Writer κ ν), s.writers[j]? = some u → u.phase = .truncating →
      s.Without (· = .replacing) → s.Settled (· ≠ i) w.key (s.data w.key)) : Inv t := by
  have keep : ∀ {k : κ} {v : Option ν}, (k = w.key → s.Settled (· ≠ i) k v) →
      s.Settled anyone k v → t.Settled anyone k v := by
    intro k v hkey hs
    apply hmv.settled (congrFun hm k)
    by_cases hk : k = w.key
    · exact hkey hk
    · exact settled_without hmv.writer (Or.inr (Ne.symm hk)) hs
  apply h.of_write hmv (by simp [hp, Phase.UsesCopy, Phase.Replaces]) ⟨id, id⟩ hd hc
  · intro j u rest hu hr k hk hs
    refine keep ?_ hs
    rintro rfl
    exact hcopied j u rest hu hr hk
  · intro j u hu hr k hs
    refine keep ?_ hs
    rintro rfl
    exact hcomplete j u hu hr
  · intro j u hu hr hno k hs
    refine keep ?_ hs
    rintro rfl
    exact hreplaced j u hu hr hno
  · intro k hs
    rw [hlog, overlay_concat]
    by_cases hk : k = w.key
    · subst hk
      rw [Function.update_self]
      exact hmv.settled (congrFun hm w.key) hlatest
    · rw [Function.update_of_ne hk]
      exact keep (fun hk' => absurd hk' hk) hs

/-- The writer has nothing more to do. -/
theorem Inv.skip (h : Inv s) (hmv : Moved s t i w .done) (hp : w.phase = .checking)
    (hm : t.memory = s.memory) (hd : t.data = s.data) (hc : t.copy = s.copy)
    (hlog : t.log = s.log) : Inv t := by
  have keep : ∀ {k : κ} {v : Option ν}, s.Settled anyone k v → t.Settled anyone k v :=
    hmv.keep (by simp [hp]) hm
  apply h.of_write hmv (by simp [hp, Phase.UsesCopy, Phase.Replaces]) ⟨id, id⟩ hd hc
  · exact fun j u rest _ _ k _ hs => keep hs
  · exact fun j u _ _ k hs => keep hs
  · exact fun j u _ _ _ k hs => keep hs
  · rw [hlog]
    exact fun k hs => keep hs

/-! ### Steps of a checkpoint -/

lemma Inv.solo_of (h : Inv s) (hmv : Moved s t i w p) (hw : w.phase.UsesCopy) {j : Nat}
    {u : Writer κ ν} (hj : j ≠ i) (hu : s.writers[j]? = some u) : ¬u.phase.UsesCopy :=
  fun hc => hj (h.solo j i u w hu hmv.writer hc hw)

/-- Copying does not touch the data. -/
lemma Inv.replaced_copying {rest : List κ} (h : Inv s) (hmv : Moved s t i w (.snapshot rest))
    (hw : w.phase ≠ .replacing) (hl : w.phase ≠ .logging) (hm : t.memory = s.memory)
    (hd : t.data = s.data) (j : Nat) (u : Writer κ ν) (hu : t.writers[j]? = some u)
    (hr : u.phase = .truncating) (hno : t.Without (· = .replacing)) (k : κ) :
    t.Settled anyone k (t.data k) := by
  have hu := (hmv.back hu (by simp [hr])).2
  rw [hd]
  refine hmv.keep hl hm (h.replaced j u hu hr ?_ k)
  exact (hmv.without_iff hw (by simp)).mp hno

/-- Nor does it touch the log. -/
lemma Inv.logged_copying {rest : List κ} (h : Inv s) (hmv : Moved s t i w (.snapshot rest))
    (hw : ¬w.phase.Replaces) (hl : w.phase ≠ .logging) (hm : t.memory = s.memory)
    (hd : t.data = s.data) (hlog : t.log = s.log) (hno : t.Without Phase.Replaces) (k : κ) :
    t.Settled anyone k (overlay t.log t.data k) := by
  rw [hlog, hd]
  exact hmv.keep hl hm (h.logged ((hmv.without_iff hw id).mp hno) k)

/-- The writer starts a checkpoint over the keys that are present. -/
theorem Inv.begin {keys : List κ} (h : Inv s) (hmv : Moved s t i w (.snapshot keys))
    (hp : w.phase = .checking) (hm : t.memory = s.memory) (hd : t.data = s.data)
    (hc : t.copy = fun _ => none) (hlog : t.log = s.log) (hkeys : keys.Nodup)
    (hoff : ∀ k, k ∉ keys → s.memory k = none)
    (halone : ∀ (j : Nat) (u : Writer κ ν), j ≠ i → s.writers[j]? = some u →
      ¬u.phase.UsesCopy) : Inv t := by
  have keep : ∀ {k : κ} {v : Option ν}, s.Settled anyone k v → t.Settled anyone k v :=
    hmv.keep (by simp [hp]) hm
  refine ⟨hmv.solo halone, ?_, ?_, ?_, ?_, ?_⟩
  · intro j u rest hu hr
    obtain rfl : rest = keys := by
      simpa using hmv.eq_of_phase halone (q := .snapshot rest) trivial hu hr
    exact ⟨hkeys, fun k _ => congrFun hc k⟩
  · intro j u rest hu hr k hk
    obtain rfl : rest = keys := by
      simpa using hmv.eq_of_phase halone (q := .snapshot rest) trivial hu hr
    refine Or.inl ?_
    rw [hc, hm, hoff k hk]
  · intro j u hu hr
    exact absurd (hmv.eq_of_phase halone (q := .replacing) trivial hu hr) (by simp)
  · exact h.replaced_copying hmv (by simp [hp]) (by simp [hp]) hm hd
  · exact h.logged_copying hmv (by simp [hp, Phase.Replaces]) (by simp [hp]) hm hd hlog

/-- The writer copies the value of one key. -/
theorem Inv.copy {key : κ} {rest : List κ} (h : Inv s) (hmv : Moved s t i w (.snapshot rest))
    (hp : w.phase = .snapshot (key :: rest)) (hm : t.memory = s.memory) (hd : t.data = s.data)
    (hc : t.copy = Function.update s.copy key (s.memory key)) (hlog : t.log = s.log) :
    Inv t := by
  have keep : ∀ {k : κ} {v : Option ν}, s.Settled anyone k v → t.Settled anyone k v :=
    hmv.keep (by simp [hp]) hm
  have halone := fun j u hj hu => h.solo_of hmv (hp ▸ trivial) (j := j) (u := u) hj hu
  obtain ⟨hnodup, hfresh⟩ := h.fresh i w _ hmv.writer hp
  obtain ⟨hkey, hrest⟩ := List.nodup_cons.mp hnodup
  refine ⟨hmv.solo halone, ?_, ?_, ?_, ?_, ?_⟩
  · intro j u rest' hu hr
    obtain rfl : rest' = rest := by
      simpa using hmv.eq_of_phase halone (q := .snapshot rest') trivial hu hr
    refine ⟨hrest, fun k hk => ?_⟩
    have hne : k ≠ key := fun he => hkey (he ▸ hk)
    rw [hc, Function.update_of_ne hne]
    exact hfresh k (List.mem_cons_of_mem key hk)
  · intro j u rest' hu hr k hk
    obtain rfl : rest' = rest := by
      simpa using hmv.eq_of_phase halone (q := .snapshot rest') trivial hu hr
    rw [hc]
    by_cases hke : k = key
    · subst hke
      refine Or.inl ?_
      rw [Function.update_self, hm]
    · rw [Function.update_of_ne hke]
      exact keep (h.copied i w _ hmv.writer hp k (by simp [hke, hk]))
  · intro j u hu hr
    exact absurd (hmv.eq_of_phase halone (q := .replacing) trivial hu hr) (by simp)
  · exact h.replaced_copying hmv (by simp [hp]) (by simp [hp]) hm hd
  · exact h.logged_copying hmv (by simp [hp, Phase.Replaces]) (by simp [hp]) hm hd hlog

/-- The writer removes the stored data. -/
theorem Inv.remove (h : Inv s) (hmv : Moved s t i w .replacing) (hp : w.phase = .snapshot [])
    (hm : t.memory = s.memory) (hc : t.copy = s.copy) : Inv t := by
  have halone := fun j u hj hu => h.solo_of hmv (hp ▸ trivial) (j := j) (u := u) hj hu
  have hself : t.writers[i]? = some { w with phase := .replacing } :=
    (hmv.at_iff i _).mpr (Or.inl ⟨rfl, rfl⟩)
  refine ⟨hmv.solo halone, ?_, ?_, ?_, ?_, ?_⟩
  · intro j u rest hu hr
    exact absurd (hmv.eq_of_phase halone (q := .snapshot rest) trivial hu hr) (by simp)
  · intro j u rest hu hr
    exact absurd (hmv.eq_of_phase halone (q := .snapshot rest) trivial hu hr) (by simp)
  · intro j u hu hr k
    rw [hc]
    exact hmv.keep (by simp [hp]) hm (h.copied i w [] hmv.writer hp k List.not_mem_nil)
  · intro j u hu hr hno
    exact absurd rfl (hno i _ hself)
  · intro hno
    exact absurd trivial (hno i _ hself)

/-- The copy takes the place of the data. -/
theorem Inv.replace (h : Inv s) (hmv : Moved s t i w .truncating) (hp : w.phase = .replacing)
    (hm : t.memory = s.memory) (hd : t.data = s.copy) : Inv t := by
  have halone := fun j u hj hu => h.solo_of hmv (hp ▸ trivial) (j := j) (u := u) hj hu
  have hself : t.writers[i]? = some { w with phase := .truncating } :=
    (hmv.at_iff i _).mpr (Or.inl ⟨rfl, rfl⟩)
  refine ⟨hmv.solo halone, ?_, ?_, ?_, ?_, ?_⟩
  · intro j u rest hu hr
    exact absurd (hmv.eq_of_phase halone (q := .snapshot rest) trivial hu hr) (by simp)
  · intro j u rest hu hr
    exact absurd (hmv.eq_of_phase halone (q := .snapshot rest) trivial hu hr) (by simp)
  · intro j u hu hr
    exact absurd (hmv.eq_of_phase halone (q := .replacing) trivial hu hr) (by simp)
  · intro j u hu hr hno k
    rw [hd]
    exact hmv.keep (by simp [hp]) hm (h.complete i w hmv.writer hp k)
  · intro hno
    exact absurd trivial (hno i _ hself)

/-- The writer empties the log. -/
theorem Inv.truncate (h : Inv s) (hmv : Moved s t i w .done) (hp : w.phase = .truncating)
    (hm : t.memory = s.memory) (hd : t.data = s.data) (hc : t.copy = s.copy)
    (hlog : t.log = []) : Inv t := by
  have keep : ∀ {k : κ} {v : Option ν}, s.Settled anyone k v → t.Settled anyone k v :=
    hmv.keep (by simp [hp]) hm
  have back : ∀ {j : Nat} {u : Writer κ ν}, t.writers[j]? = some u → u.phase ≠ .done →
      s.writers[j]? = some u := fun hu hne => (hmv.back hu hne).2
  have hreplacing : t.Without (· = .replacing) → s.Without (· = .replacing) :=
    (hmv.without_iff (by simp [hp]) (by simp)).mp
  refine ⟨?_, ?_, ?_, ?_, ?_, ?_⟩
  · intro j l u x hu hx hju hlx
    have hne : ∀ {y : Writer κ ν}, y.phase.UsesCopy → y.phase ≠ .done := by
      intro y hy he
      rw [he] at hy
      exact hy
    exact h.solo j l u x (back hu (hne hju)) (back hx (hne hlx)) hju hlx
  · intro j u rest hu hr
    rw [hc]
    exact h.fresh j u rest (back hu (by simp [hr])) hr
  · intro j u rest hu hr k hk
    rw [hc]
    exact keep (h.copied j u rest (back hu (by simp [hr])) hr k hk)
  · intro j u hu hr k
    rw [hc]
    exact keep (h.complete j u (back hu (by simp [hr])) hr k)
  · intro j u hu hr hno k
    rw [hd]
    exact keep (h.replaced j u (back hu (by simp [hr])) hr (hreplacing hno) k)
  · intro hno k
    have hno : s.Without (· = .replacing) := by
      refine hreplacing (fun l x hx he => hno l x hx ?_)
      rw [he]
      trivial
    rw [hlog, hd]
    exact keep (h.replaced i w hmv.writer hp hno k)

end steps

/-- A new writer. -/
theorem Inv.accept {s t : State κ ν} (h : Inv s) {w : Writer κ ν} (hw : w.phase = .updating)
    (ht : t = { s with writers := s.writers ++ [w] }) : Inv t := by
  subst ht
  have old : ∀ {j : Nat} {u : Writer κ ν}, s.writers[j]? = some u →
      (s.writers ++ [w])[j]? = some u := by
    intro j u hu
    have hj : j < s.writers.length := (List.getElem?_eq_some_iff.mp hu).1
    rwa [List.getElem?_append_left hj]
  have back : ∀ {j : Nat} {u : Writer κ ν}, (s.writers ++ [w])[j]? = some u →
      u.phase ≠ .updating → s.writers[j]? = some u := by
    intro j u hu hne
    rw [List.getElem?_append] at hu
    split at hu
    · exact hu
    · have he : u = w := List.mem_singleton.mp (List.mem_of_getElem? hu)
      exact absurd (he ▸ hw) hne
  have keep : ∀ {k : κ} {v : Option ν}, s.Settled anyone k v →
      State.Settled { s with writers := s.writers ++ [w] } anyone k v := by
    intro k v hs
    cases hs with
    | inl hv => exact Or.inl hv
    | inr ho =>
      obtain ⟨j, u, hj, hu, ho⟩ := ho
      exact Or.inr ⟨j, u, hj, old hu, ho⟩
  refine ⟨?_, ?_, ?_, ?_, ?_, ?_⟩
  · intro j l u x hu hx hju hlx
    have hne : ∀ {y : Writer κ ν}, y.phase.UsesCopy → y.phase ≠ .updating := by
      intro y hy he
      rw [he] at hy
      exact hy
    exact h.solo j l u x (back hu (hne hju)) (back hx (hne hlx)) hju hlx
  · intro j u rest hu hr
    exact h.fresh j u rest (back hu (by simp [hr])) hr
  · intro j u rest hu hr k hk
    exact keep (h.copied j u rest (back hu (by simp [hr])) hr k hk)
  · intro j u hu hr k
    exact keep (h.complete j u (back hu (by simp [hr])) hr k)
  · intro j u hu hr hno k
    exact keep (h.replaced j u (back hu (by simp [hr])) hr (fun l x hx => hno l x (old hx)) k)
  · intro hno k
    exact keep (h.logged (fun l x hx => hno l x (old hx)) k)

end Checkpoints
