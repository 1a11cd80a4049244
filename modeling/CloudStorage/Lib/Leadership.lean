import Mathlib.Data.Set.Insert
import Mathlib.Logic.Function.Basic
import Mathlib.Tactic.Common

/-!
# Leadership by a registry

A registry knows which members are up and names one of them as leader. It tells members
their role, a member that joined and a member that was lost, by notices that each member
hears in the order they were sent. A member that starts again has forgotten everything.

What a member will believe once it has heard all that was sent to it depends only on its
belief now and its mail; the invariants are about these settled beliefs.
-/

namespace Leadership

variable {α : Type*}

/-- A notice gives its hearer a role; it may name a member, for a leader one that joined
and otherwise the leader, and a member that was lost. -/
structure Notice (α : Type*) where
  leads : Bool
  named : Option α
  lost : Option α
deriving DecidableEq

/-- The notice gives the member `a` its role under the leader `p`, and tells the leader only
of others. -/
structure Notice.Suits (p a : α) (n : Notice α) : Prop where
  leads : n.leads = true ↔ a = p
  named : a = p → n.named ≠ some p
  lost : a = p → n.lost ≠ some p

structure Registry (α : Type*) where
  up : Set α
  leader : Option α

namespace Registry

/-- What a registry does, and the notices it sends. -/
inductive Step : Registry α → List (α × Notice α) → Registry α → Prop where
  | idle {r} : Step r [] r
  | first {r a} : r.leader = none → a ∉ r.up →
      Step r [(a, ⟨true, none, none⟩)] ⟨insert a r.up, some a⟩
  | join {r a p} : r.leader = some p → a ∉ r.up →
      Step r [(a, ⟨false, some p, none⟩), (p, ⟨true, some a, none⟩)] ⟨insert a r.up, some p⟩
  | lose {r d p} {out : List (α × Notice α)} : r.leader = some p → d ∈ r.up → d ≠ p →
      (p, ⟨true, none, some d⟩) ∈ out →
      (∀ m ∈ out, m = (p, ⟨true, none, some d⟩) ∨ m.1 ≠ p ∧ m.2 = ⟨false, some p, some d⟩) →
      Step r out ⟨r.up \ {d}, some p⟩
  | elect {r d f} {xs : List α} : r.leader = some d → f ∈ r.up → f ≠ d → f ∉ xs →
      Step r ((f, ⟨true, none, some d⟩) :: xs.map (fun x => (x, ⟨false, some f, some d⟩)))
        ⟨r.up \ {d}, some f⟩
  | last {r d} : r.leader = some d → r.up = {d} → Step r [] ⟨∅, none⟩

/-- There is a leader exactly when some member is up, and the leader is up. -/
structure Sound (r : Registry α) : Prop where
  up_eq_empty : r.leader = none → r.up = ∅
  leader_mem : ∀ p, r.leader = some p → p ∈ r.up

lemma Step.sound {r r' : Registry α} {out : List (α × Notice α)} (h : Step r out r')
    (hr : r.Sound) : r'.Sound := by
  cases h with
  | idle => exact hr
  | first _ _ =>
    constructor
    · intro h
      simp at h
    · intro p h
      have hp := Option.some.inj h
      exact hp ▸ Set.mem_insert _ _
  | join hp _ =>
    constructor
    · intro h
      simp at h
    · intro q h
      exact Set.mem_insert_of_mem _ (hr.leader_mem q (hp.trans h))
  | lose hp _ hne _ _ =>
    constructor
    · intro h
      simp at h
    · intro q h
      have hq := Option.some.inj h
      subst hq
      exact ⟨hr.leader_mem _ hp, Ne.symm hne⟩
  | elect _ hf hne _ =>
    constructor
    · intro h
      simp at h
    · intro q h
      have hq := Option.some.inj h
      subst hq
      exact ⟨hf, hne⟩
  | last _ _ =>
    constructor
    · intro _
      rfl
    · intro q h
      simp at h

/-- While the leader stays, all notices are in keeping with it. -/
lemma Step.suits {r r' : Registry α} {out : List (α × Notice α)} {p : α} (h : r.Step out r')
    (hr : r.Sound) (hp : r.leader = some p) (hp' : r'.leader = some p) :
    ∀ m ∈ out, m.2.Suits p m.1 := by
  have hup := hr.leader_mem p hp
  intro m hm
  cases h with
  | idle => exact absurd hm List.not_mem_nil
  | first hnone _ =>
    rw [hnone] at hp
    exact absurd hp (by simp)
  | @join a q hq ha =>
    obtain rfl := Option.some.inj (hq.symm.trans hp)
    have hne : a ≠ q := fun he => ha (he ▸ hup)
    rcases List.mem_cons.mp hm with rfl | hm
    · exact ⟨by simpa using hne, fun he => absurd he hne, fun he => absurd he hne⟩
    · obtain rfl := List.mem_singleton.mp hm
      exact ⟨by simp, fun _ he => hne (Option.some.inj he), fun _ => by simp⟩
  | @lose d q _ hq _ hne _ hout =>
    obtain rfl := Option.some.inj (hq.symm.trans hp)
    rcases hout m hm with rfl | ⟨hother, hn⟩
    · exact ⟨by simp, fun _ => by simp, fun _ he => hne (Option.some.inj he)⟩
    · refine ⟨?_, fun he => absurd he hother, fun he => absurd he hother⟩
      rw [hn]
      simpa using hother
  | @elect d f _ hd _ hne _ =>
    have hfd := (Option.some.inj hp').trans (Option.some.inj (hp.symm.trans hd))
    exact absurd hfd hne
  | last _ _ => exact absurd hp' (by simp)

end Registry

variable [DecidableEq α]

/-- Whether a hearer takes `x` for a live follower after the notice, if it did `b` before. -/
def Notice.hear (n : Notice α) (x : α) (b : Bool) : Bool :=
  if n.lost = some x then false
  else if n.named = some x then n.leads
  else b

/-- The registry, what the members believe and the notices they have not heard. -/
structure State (α : Type*) where
  registry : Registry α
  leads : α → Bool
  sees : α → α → Bool
  mail : α → List (Notice α)

namespace State

/-- The mail after notices were sent. -/
def post (out : List (α × Notice α)) (mail : α → List (Notice α)) (a : α) : List (Notice α) :=
  mail a ++ (out.filter (fun m => m.1 = a)).map Prod.snd

/-- A member hears its first notice; of itself it believes nothing. -/
def hear (a : α) (n : Notice α) (rest : List (Notice α)) (s : State α) : State α :=
  { s with
    leads := Function.update s.leads a n.leads
    sees := Function.update s.sees a
      (fun x => if x = a then s.sees a x else n.hear x (s.sees a x))
    mail := Function.update s.mail a rest }

def forget (a : α) (s : State α) : State α :=
  { s with
    leads := Function.update s.leads a false
    sees := Function.update s.sees a (fun _ => false) }

/-- What can happen: the registry acts, a member hears its first notice or starts again. -/
inductive Step : State α → State α → Prop where
  | registry {s out r'} : s.registry.Step out r' →
      Step s { s with registry := r', mail := post out s.mail }
  | hear {s a n rest} : s.mail a = n :: rest → Step s (s.hear a n rest)
  | forget {s} (a : α) : Step s (s.forget a)

/-! ### Roles -/

/-- The role a member is left with by its mail, if it had the role `b` before. -/
def lastRole (mail : List (Notice α)) (b : Bool) : Bool := mail.foldl (fun _ n => n.leads) b

/-- The role of a member once it has heard its mail. -/
def settledRole (s : State α) (a : α) : Bool := lastRole (s.mail a) (s.leads a)

omit [DecidableEq α] in
lemma lastRole_cases {mail : List (Notice α)} {b : Bool} (h : lastRole mail b = true) :
    (∃ n ∈ mail, n.leads = true) ∨ (b = true ∧ mail = []) := by
  induction mail generalizing b with
  | nil => exact Or.inr ⟨h, rfl⟩
  | cons n mail ih =>
    left
    rcases ih h with ⟨n', hn', hlead⟩ | ⟨hlead, -⟩
    · exact ⟨n', List.mem_cons_of_mem n hn', hlead⟩
    · exact ⟨n, List.mem_cons_self, hlead⟩

/-- Whoever is up and will take itself for the leader is the leader. -/
structure OneLeader (s : State α) : Prop where
  sound : s.registry.Sound
  leader_of_role : ∀ a ∈ s.registry.up, s.settledRole a = true → s.registry.leader = some a

/-- A member leads after the registry acted because it was told so, or because it did before
and was told nothing. -/
lemma settledRole_post {s : State α} {out : List (α × Notice α)} {r' : Registry α} {a : α}
    (h : settledRole { s with registry := r', mail := post out s.mail } a = true) :
    (∃ n, (a, n) ∈ out ∧ n.leads = true) ∨ (s.settledRole a = true ∧ ∀ n, (a, n) ∉ out) := by
  have happ : lastRole ((out.filter (fun m => m.1 = a)).map Prod.snd) (s.settledRole a) = true := by
    unfold settledRole post lastRole at h
    dsimp only at h
    rw [List.foldl_append] at h
    exact h
  rcases lastRole_cases happ with ⟨n, hn, hlead⟩ | ⟨hrole, hnil⟩
  · left
    have hmem : (a, n) ∈ out := by simpa using hn
    exact ⟨n, hmem, hlead⟩
  · right
    constructor
    · exact hrole
    · intro n hmem
      have hn : n ∈ (out.filter (fun m => m.1 = a)).map Prod.snd := by simpa using hmem
      rw [hnil] at hn
      exact absurd hn List.not_mem_nil

lemma leader_of_registry_step {s : State α} {out : List (α × Notice α)} {r' : Registry α}
    (h : s.registry.Step out r') (hs : s.OneLeader) {a : α} (ha : a ∈ r'.up)
    (hrole : settledRole { s with registry := r', mail := post out s.mail } a = true) :
    r'.leader = some a := by
  have hcases := settledRole_post hrole
  have hsound := hs.sound
  -- a member that was up before and is told nothing led before
  have hbefore : a ∈ s.registry.up → s.settledRole a = true → s.registry.leader = some a :=
    hs.leader_of_role a
  clear hrole hs
  generalize s.registry = r at h hbefore hsound
  cases h with
  | idle =>
    rcases hcases with ⟨n, hn, -⟩ | ⟨hold, -⟩
    · exact absurd hn List.not_mem_nil
    · exact hbefore ha hold
  | first hnone _ =>
    rcases Set.mem_insert_iff.mp ha with rfl | ha
    · rfl
    · rw [hsound.up_eq_empty hnone] at ha
      exact absurd ha (Set.notMem_empty a)
  | join hp _ =>
    rcases hcases with ⟨n, hn, hlead⟩ | ⟨hold, hquiet⟩
    · rcases List.mem_cons.mp hn with hn | hn
      · simp [(Prod.mk.inj hn).2] at hlead
      · rw [(Prod.mk.inj (List.mem_singleton.mp hn)).1]
    · rcases Set.mem_insert_iff.mp ha with rfl | ha
      · exact absurd List.mem_cons_self (hquiet _)
      · exact hp.symm.trans (hbefore ha hold)
  | lose hp _ _ _ hout =>
    rcases hcases with ⟨n, hn, hlead⟩ | ⟨hold, -⟩
    · rcases hout (a, n) hn with hn | ⟨-, hn⟩
      · rw [(Prod.mk.inj hn).1]
      · have hn : n = ⟨false, _, _⟩ := hn
        simp [hn] at hlead
    · exact hp.symm.trans (hbefore ha.1 hold)
  | elect hd hf _ _ =>
    rcases hcases with ⟨n, hn, hlead⟩ | ⟨hold, -⟩
    · rcases List.mem_cons.mp hn with hn | hn
      · rw [(Prod.mk.inj hn).1]
      · obtain ⟨x, -, hx⟩ := List.mem_map.mp hn
        simp [← (Prod.mk.inj hx).2] at hlead
    · have had := Option.some.inj (hd.symm.trans (hbefore ha.1 hold))
      exact absurd had.symm ha.2
  | last _ _ => exact absurd ha (Set.notMem_empty a)

lemma settledRole_hear {s : State α} {a : α} {n : Notice α} {rest : List (Notice α)}
    (hm : s.mail a = n :: rest) (b : α) : (s.hear a n rest).settledRole b = s.settledRole b := by
  unfold settledRole hear
  dsimp only
  by_cases hb : b = a
  · subst hb
    rw [Function.update_self, Function.update_self, hm]
    rfl
  · rw [Function.update_of_ne hb, Function.update_of_ne hb]

lemma settledRole_forget {s : State α} {a b : α} (h : (s.forget a).settledRole b = true) :
    s.settledRole b = true := by
  unfold settledRole forget at *
  dsimp only at h
  by_cases hb : b = a
  · subst hb
    rw [Function.update_self] at h
    cases hm : s.mail b with
    | nil => simp [hm, lastRole] at h
    | cons n rest => simpa [hm, lastRole] using h
  · rwa [Function.update_of_ne hb] at h

theorem OneLeader.step {s t : State α} (hs : s.OneLeader) (h : Step s t) : t.OneLeader := by
  cases h with
  | registry h =>
    constructor
    · exact h.sound hs.sound
    · intro a ha hrole
      exact leader_of_registry_step h hs ha hrole
  | hear hm =>
    constructor
    · exact hs.sound
    · intro b hb hrole
      rw [settledRole_hear hm] at hrole
      exact hs.leader_of_role b hb hrole
  | forget a =>
    constructor
    · exact hs.sound
    · intro b hb hrole
      exact hs.leader_of_role b hb (settledRole_forget hrole)

/-! ### Views -/

/-- Whether a member takes `x` for a live follower once it has heard its mail, if it did `b`
before. -/
def lastView (mail : List (Notice α)) (x : α) (b : Bool) : Bool :=
  mail.foldl (fun b n => n.hear x b) b

def settledView (s : State α) (a x : α) : Bool := lastView (s.mail a) x (s.sees a x)

/-- Who is taken for a live follower was taken for one before, or a notice names it. -/
lemma named_of_lastView {mail : List (Notice α)} {x : α} {b : Bool}
    (h : lastView mail x b = true) : b = true ∨ ∃ n ∈ mail, n.named = some x := by
  induction mail generalizing b with
  | nil => exact Or.inl h
  | cons n mail ih =>
    rcases ih h with hn | ⟨m, hm, hx⟩
    · by_cases hx : n.named = some x
      · exact Or.inr ⟨n, List.mem_cons_self, hx⟩
      · have hn : n.hear x b = true := hn
        unfold Notice.hear at hn
        rw [if_neg hx] at hn
        split at hn
        · exact absurd hn (by decide)
        · exact Or.inl hn
    · exact Or.inr ⟨m, List.mem_cons_of_mem n hm, hx⟩

/-- The leader will take for live followers exactly the others that are up. -/
structure Informed (s : State α) : Prop where
  sound : s.registry.Sound
  view : ∀ p, s.registry.leader = some p → ∀ x, x ≠ p →
    (s.settledView p x = true ↔ x ∈ s.registry.up)

/-- A member that becomes leader already knows who else is up, but for the leader before. -/
def KnowsGroup (s : State α) (r' : Registry α) : Prop :=
  ∀ f, r'.leader = some f → s.registry.leader ≠ some f → ∀ x, x ≠ f →
    s.registry.leader ≠ some x → (s.settledView f x = true ↔ x ∈ s.registry.up)

lemma settledView_post (s : State α) (out : List (α × Notice α)) (r' : Registry α) (a x : α) :
    settledView { s with registry := r', mail := post out s.mail } a x =
      lastView ((out.filter (fun m => m.1 = a)).map Prod.snd) x (s.settledView a x) := by
  unfold settledView post lastView
  dsimp only
  rw [List.foldl_append]

/-- Notices that leave a view as it is. -/
lemma lastView_of_unchanged {mail : List (Notice α)} {x : α}
    (h : ∀ n ∈ mail, ∀ b, n.hear x b = b) (b : Bool) : lastView mail x b = b := by
  induction mail with
  | nil => rfl
  | cons n mail ih =>
    have ih := ih (fun m hm => h m (List.mem_cons_of_mem n hm))
    unfold lastView at ih ⊢
    rw [List.foldl_cons, h n List.mem_cons_self, ih]

/-- Notices that all give one view. -/
lemma lastView_of_forall {mail : List (Notice α)} {x : α} {v : Bool} (hne : mail ≠ [])
    (h : ∀ n ∈ mail, ∀ b, n.hear x b = v) (b : Bool) : lastView mail x b = v := by
  induction mail generalizing b with
  | nil => exact absurd rfl hne
  | cons n mail ih =>
    have hcons : lastView (n :: mail) x b = lastView mail x v := by
      unfold lastView
      rw [List.foldl_cons, h n List.mem_cons_self]
    rw [hcons]
    cases mail with
    | nil => rfl
    | cons m mail =>
      exact ih (List.cons_ne_nil m mail) (fun k hk => h k (List.mem_cons_of_mem n hk)) v

lemma hear_role (x : α) (b : Bool) : Notice.hear ⟨true, none, none⟩ x b = b := by
  simp [Notice.hear]

lemma hear_joined (a x : α) (b : Bool) :
    Notice.hear ⟨true, some a, none⟩ x b = if x = a then true else b := by
  simp [Notice.hear, eq_comm]

lemma hear_lost (d x : α) (b : Bool) :
    Notice.hear ⟨true, none, some d⟩ x b = if x = d then false else b := by
  simp [Notice.hear, eq_comm]

/-- The view of a leader after the registry acted: the member that joined is seen, the one
that was lost is not. -/
lemma Informed.registry {s : State α} {out : List (α × Notice α)} {r' : Registry α}
    (hs : s.Informed) (h : s.registry.Step out r') (hk : s.KnowsGroup r') :
    Informed { s with registry := r', mail := post out s.mail } := by
  refine ⟨h.sound hs.sound, ?_⟩
  intro q hq x hx
  have hsound := hs.sound
  have hkeep := hs.view q
  have hnew := hk q hq
  have hto : ∀ n, n ∈ (out.filter (fun m => m.1 = q)).map Prod.snd ↔ (q, n) ∈ out := by
    intro n
    simp
  rw [settledView_post]
  generalize (out.filter (fun m => m.1 = q)).map Prod.snd = mail at hto
  generalize s.registry = r at h hkeep hnew hsound
  cases h with
  | idle =>
    rw [lastView_of_unchanged (fun n hn => absurd ((hto n).mp hn) List.not_mem_nil)]
    exact hkeep hq x hx
  | @first a hnone hup =>
    obtain rfl := Option.some.inj hq
    have hmail : ∀ n ∈ mail, ∀ b, n.hear x b = b := by
      intro n hn b
      have hn := (Prod.mk.inj (List.mem_singleton.mp ((hto n).mp hn))).2
      rw [hn, hear_role]
    rw [lastView_of_unchanged hmail, Set.mem_insert_iff, or_iff_right hx]
    exact hnew (by simp [hnone]) x hx (by simp [hnone])
  | @join a p hp hup =>
    obtain rfl := Option.some.inj hq
    have hpa : p ≠ a := fun he => hup (he ▸ hsound.leader_mem p hp)
    have hmail : ∀ n ∈ mail, n = ⟨true, some a, none⟩ := by
      intro n hn
      rcases List.mem_cons.mp ((hto n).mp hn) with hn | hn
      · exact absurd (Prod.mk.inj hn).1 hpa
      · exact (Prod.mk.inj (List.mem_singleton.mp hn)).2
    rw [Set.mem_insert_iff]
    by_cases hxa : x = a
    · have hne : mail ≠ [] := by
        apply List.ne_nil_of_mem
        exact (hto ⟨true, some a, none⟩).mpr (by simp)
      rw [lastView_of_forall hne (v := true)
        (fun n hn b => by rw [hmail n hn, hear_joined, if_pos hxa])]
      simp [hxa]
    · rw [lastView_of_unchanged (fun n hn b => by rw [hmail n hn, hear_joined, if_neg hxa]),
        or_iff_right hxa]
      exact hkeep hp x hx
  | @lose d p _ hp hd hne hmem hout =>
    obtain rfl := Option.some.inj hq
    have hmail : ∀ n ∈ mail, n = ⟨true, none, some d⟩ := by
      intro n hn
      rcases hout (p, n) ((hto n).mp hn) with hn | ⟨hn, -⟩
      · exact (Prod.mk.inj hn).2
      · exact absurd rfl hn
    by_cases hxd : x = d
    · have hne : mail ≠ [] := List.ne_nil_of_mem ((hto _).mpr hmem)
      rw [lastView_of_forall hne (v := false)
        (fun n hn b => by rw [hmail n hn, hear_lost, if_pos hxd])]
      simp [hxd]
    · rw [lastView_of_unchanged (fun n hn b => by rw [hmail n hn, hear_lost, if_neg hxd]),
        hkeep hp x hx]
      simp [hxd]
  | @elect d f xs hd hf hne hxs =>
    obtain rfl := Option.some.inj hq
    have hmail : ∀ n ∈ mail, n = ⟨true, none, some d⟩ := by
      intro n hn
      rcases List.mem_cons.mp ((hto n).mp hn) with hn | hn
      · exact (Prod.mk.inj hn).2
      · obtain ⟨y, hy, heq⟩ := List.mem_map.mp hn
        exact absurd ((Prod.mk.inj heq).1 ▸ hy) hxs
    have hdf : r.leader ≠ some f := fun he => hne (Option.some.inj (he.symm.trans hd))
    by_cases hxd : x = d
    · have hne : mail ≠ [] := by
        apply List.ne_nil_of_mem
        exact (hto ⟨true, none, some d⟩).mpr List.mem_cons_self
      rw [lastView_of_forall hne (v := false)
        (fun n hn b => by rw [hmail n hn, hear_lost, if_pos hxd])]
      simp [hxd]
    · have hdx : r.leader ≠ some x := fun he => hxd (Option.some.inj (he.symm.trans hd))
      rw [lastView_of_unchanged (fun n hn b => by rw [hmail n hn, hear_lost, if_neg hxd]),
        hnew hdf x hx hdx]
      simp [hxd]
  | last _ _ => simp at hq

lemma settledView_hear {s : State α} {a : α} {n : Notice α} {rest : List (Notice α)}
    (hm : s.mail a = n :: rest) {b x : α} (hx : x ≠ b) :
    (s.hear a n rest).settledView b x = s.settledView b x := by
  unfold settledView hear
  dsimp only
  by_cases hb : b = a
  · subst hb
    rw [Function.update_self, Function.update_self, hm, if_neg hx]
    rfl
  · rw [Function.update_of_ne hb, Function.update_of_ne hb]

lemma Informed.hear {s : State α} (hs : s.Informed) {a : α} {n : Notice α}
    {rest : List (Notice α)} (hm : s.mail a = n :: rest) : (s.hear a n rest).Informed := by
  refine ⟨hs.sound, ?_⟩
  intro p hp x hx
  rw [settledView_hear hm hx]
  exact hs.view p hp x hx

/-- A leader that starts again is informed when the mail it has not heard says who is up. -/
lemma Informed.forget {s : State α} (hs : s.Informed) {a : α}
    (ha : s.registry.leader = some a → ∀ x, x ≠ a →
      (lastView (s.mail a) x false = true ↔ x ∈ s.registry.up)) : (s.forget a).Informed := by
  refine ⟨hs.sound, ?_⟩
  intro p hp x hx
  by_cases hpa : p = a
  · subst hpa
    unfold settledView State.forget
    dsimp only
    rw [Function.update_self]
    exact ha hp x hx
  · have hview : (s.forget a).settledView p x = s.settledView p x := by
      unfold settledView State.forget
      dsimp only
      rw [Function.update_of_ne hpa]
    rw [hview]
    exact hs.view p hp x hx

end State
end Leadership
