import Mathlib.Data.List.Infix
import Mathlib.Data.List.Pairwise
import Mathlib.Data.Set.Insert
import Mathlib.Tactic.Common

/-!
# Trees of paths

A tree of folders that is kept as the set of its paths, each a list with separators between
the names. Nothing but a convention makes such a set a tree: the folders around a path are
paths themselves. This file proves which changes to the set keep the convention.
-/

universe u

namespace PathTree

variable {α : Type u} (sep : α) (root : List α)

/-- `a` is a folder around `c`, inside the root. -/
def Above (a c : List α) : Prop := root <+: a ∧ a ++ [sep] <+: c

/-- Every folder around a path of the set is in the set. -/
def Closed (S : Set (List α)) : Prop := ∀ c ∈ S, ∀ a, Above sep root a c → a ∈ S

variable {sep root}

lemma Above.isPrefix {a c : List α} (h : Above sep root a c) : a <+: c :=
  (List.prefix_append a [sep]).trans h.2

lemma Above.length_lt {a c : List α} (h : Above sep root a c) : a.length < c.length := by
  have hlen := h.2.length_le
  rw [List.length_append, List.length_singleton] at hlen
  omega

lemma not_above_self (a : List α) : ¬Above sep root a a := by
  intro h
  exact absurd h.length_lt (Nat.lt_irrefl _)

/-- The folders around an entry of a folder are this folder and the folders around it. -/
lemma above_child {a p name : List α} (hname : sep ∉ name) :
    Above sep root a (p ++ sep :: name) ↔ (a = p ∧ root <+: p) ∨ Above sep root a p := by
  constructor
  · rintro ⟨hroot, rest, hrest⟩
    rw [List.append_assoc, List.singleton_append] at hrest
    rcases List.append_eq_append_iff.mp hrest with ⟨xs, hp, hx⟩ | ⟨xs, ha, hx⟩
    · cases xs with
      | nil =>
        rw [List.append_nil] at hp
        subst hp
        exact Or.inl ⟨rfl, hroot⟩
      | cons x xs =>
        obtain ⟨rfl, -⟩ := List.cons.inj hx
        refine Or.inr ⟨hroot, xs, ?_⟩
        rw [hp, List.append_assoc, List.singleton_append]
    · cases xs with
      | nil =>
        rw [List.append_nil] at ha
        subst ha
        exact Or.inl ⟨rfl, hroot⟩
      | cons x xs =>
        -- the separator behind `a` would be inside the name
        obtain ⟨-, hin⟩ := List.cons.inj hx
        exact absurd (hin ▸ List.mem_append_right xs List.mem_cons_self) hname
  · rintro (⟨rfl, hroot⟩ | ⟨hroot, hpre⟩)
    · refine ⟨hroot, name, ?_⟩
      rw [List.append_assoc, List.singleton_append]
    · exact ⟨hroot, hpre.trans (List.prefix_append p (sep :: name))⟩

/-- An entry of the root has no folder around it. -/
lemma not_above_root {a name : List α} (hname : sep ∉ name) :
    ¬Above sep root a (root ++ name) := by
  rintro ⟨⟨x, rfl⟩, rest, hrest⟩
  rw [List.append_assoc, List.append_assoc] at hrest
  have hin := List.append_cancel_left hrest
  apply hname
  rw [← hin]
  exact List.mem_append_right x (List.mem_append_left rest List.mem_cons_self)

/-! ### Changes -/

/-- What may be done to the set of paths. -/
inductive Edit (α : Type u) where
  | add (n : List α)
  /-- Removes every path that begins with `p`. -/
  | removeAll (p : List α)
  /-- Removes a path for a new one. -/
  | move (o n : List α)
  /-- Removes every path that begins with `p` for a single new one. -/
  | moveAll (p n : List α)

def Edit.apply : Edit α → Set (List α) → Set (List α)
  | add n, S => {c | c = n ∨ c ∈ S}
  | removeAll p, S => {c | c ∈ S ∧ ¬p <+: c}
  | move o n, S => {c | c ≠ o ∧ (c = n ∨ c ∈ S)}
  | moveAll p n, S => {c | c = n ∨ (c ∈ S ∧ ¬p <+: c)}

/-- The new path is in a folder that stays, and no path is left behind without its folder. -/
def Edit.Keeps (sep : α) (root : List α) (S : Set (List α)) : Edit α → Prop
  | add n => ∀ a, Above sep root a n → a ∈ S
  | removeAll _ => True
  | move o n => (n ≠ o → ∀ a, Above sep root a n → a ∈ S ∧ a ≠ o) ∧
      ∀ c ∈ S, ¬Above sep root o c
  | moveAll p n => ∀ a, Above sep root a n → a ∈ S ∧ ¬p <+: a

section

variable {S : Set (List α)}

/-- What is left without a beginning is closed. -/
lemma Closed.removeAll (h : Closed sep root S) (p : List α) :
    Closed sep root ((Edit.removeAll p).apply S) := by
  intro c hc a ha
  exact ⟨h c hc.1 a ha, fun hpre => hc.2 (hpre.trans ha.isPrefix)⟩

lemma Closed.add_iff (h : Closed sep root S) (n : List α) :
    Closed sep root ((Edit.add n).apply S) ↔ (Edit.add n).Keeps sep root S := by
  constructor
  · intro hadd a ha
    exact (hadd n (Or.inl rfl) a ha).resolve_left
      (fun heq => absurd (heq ▸ ha) (not_above_self n))
  · intro hkeeps c hc a ha
    rcases hc with rfl | hc
    · exact Or.inr (hkeeps a ha)
    · exact Or.inr (h c hc a ha)

lemma Closed.move_iff (h : Closed sep root S) (o n : List α) :
    Closed sep root ((Edit.move o n).apply S) ↔ (Edit.move o n).Keeps sep root S := by
  constructor
  · intro hmove
    refine ⟨fun hne a ha => ?_, fun c hc ha => ?_⟩
    · obtain ⟨hao, ha'⟩ := hmove n ⟨hne, Or.inl rfl⟩ a ha
      exact ⟨ha'.resolve_left (fun heq => absurd (heq ▸ ha) (not_above_self n)), hao⟩
    · have hco : c ≠ o := by
        rintro rfl
        exact not_above_self c ha
      exact (hmove c ⟨hco, Or.inr hc⟩ o ha).1 rfl
  · rintro ⟨hnew, hold⟩ c ⟨hco, hc⟩ a ha
    rcases hc with rfl | hc
    · obtain ⟨hmem, hao⟩ := hnew hco a ha
      exact ⟨hao, Or.inr hmem⟩
    · refine ⟨?_, Or.inr (h c hc a ha)⟩
      rintro rfl
      exact hold c hc ha

lemma Closed.moveAll_iff (h : Closed sep root S) (p n : List α) :
    Closed sep root ((Edit.moveAll p n).apply S) ↔ (Edit.moveAll p n).Keeps sep root S :=
  (h.removeAll p).add_iff n

/-- An edit of a tree gives a tree exactly if it keeps the folders. -/
theorem Closed.apply_iff (h : Closed sep root S) (x : Edit α) :
    Closed sep root (x.apply S) ↔ x.Keeps sep root S := by
  cases x with
  | add n => exact h.add_iff n
  | removeAll p => exact ⟨fun _ => trivial, fun _ => h.removeAll p⟩
  | move o n => exact h.move_iff o n
  | moveAll p n => exact h.moveAll_iff p n

/-- A new entry of a folder keeps the tree. -/
lemma Closed.keeps_child (h : Closed sep root S) {p name : List α} (hp : p ∈ S)
    (hname : sep ∉ name) : (Edit.add (p ++ sep :: name)).Keeps sep root S := by
  intro a ha
  rcases (above_child hname).mp ha with ⟨rfl, -⟩ | ha
  · exact hp
  · exact h p hp a ha

lemma keeps_root {name : List α} (hname : sep ∉ name) :
    (Edit.add (root ++ name)).Keeps sep root S := by
  intro a ha
  exact absurd ha (not_above_root hname)

end

/-! ### Listings -/

section

variable {ι β : Type*} {entries : List ι} {shown : ι → Option β}

/-- Nothing is listed twice where no two entries are shown alike. -/
lemma nodup_filterMap_iff (hnodup : entries.Nodup) : (entries.filterMap shown).Nodup ↔
    ∀ c ∈ entries, ∀ c' ∈ entries, ∀ x, shown c = some x → shown c' = some x → c = c' := by
  rw [List.Nodup, List.pairwise_filterMap]
  constructor
  · intro h c hc c' hc' x hx hx'
    by_contra hne
    have hsymm : Std.Symm (fun c c' => ∀ x, shown c = some x → ∀ y, shown c' = some y → x ≠ y) :=
      ⟨fun c c' hcc y hy x hx => (hcc x hx y hy).symm⟩
    exact h.forall hc hc' hne x hx x hx' rfl
  · intro h
    apply hnodup.imp_of_mem
    rintro c c' hc hc' hne x hx y hy rfl
    exact hne (h c hc c' hc' x hx hy)

/-- A listing that is made entry by entry shows every child once and nothing else exactly if
each child is shown under its name and no other entry is shown at all. -/
theorem listing_iff (child : β → ι) (IsName : β → Prop) (hnodup : entries.Nodup)
    (hshown : ∀ c x, shown c = some x → IsName x ∧ shown (child x) = some x) :
    ((entries.filterMap shown).Nodup ∧
        ∀ x, x ∈ entries.filterMap shown ↔ IsName x ∧ child x ∈ entries) ↔
      (∀ x, IsName x → child x ∈ entries → shown (child x) = some x) ∧
      (∀ c ∈ entries, (∀ x, IsName x → c ≠ child x) → shown c = none) := by
  rw [nodup_filterMap_iff hnodup]
  simp only [List.mem_filterMap]
  constructor
  · rintro ⟨honce, hlist⟩
    constructor
    · intro x hx hc
      obtain ⟨c, -, hcx⟩ := (hlist x).mpr ⟨hx, hc⟩
      exact (hshown c x hcx).2
    · intro c hc hother
      cases hcx : shown c with
      | none => rfl
      | some x =>
        -- the child of this name is shown, too, so the name would be there twice
        obtain ⟨hx, hchild⟩ := (hlist x).mp ⟨c, hc, hcx⟩
        exact absurd (honce c hc (child x) hchild x hcx (hshown c x hcx).2) (hother x hx)
  · rintro ⟨hname, hother⟩
    have hchild : ∀ c ∈ entries, ∀ x, shown c = some x → IsName x ∧ c = child x := by
      intro c hc x hcx
      by_cases hc' : ∃ y, IsName y ∧ c = child y
      · obtain ⟨y, hy, rfl⟩ := hc'
        have hxy := (hname y hy hc).symm.trans hcx
        obtain rfl := Option.some.inj hxy
        exact ⟨hy, rfl⟩
      · have hnone := hother c hc (fun y hy hcy => hc' ⟨y, hy, hcy⟩)
        exact absurd (hnone.symm.trans hcx) (by simp)
    constructor
    · intro c hc c' hc' x hx hx'
      rw [(hchild c hc x hx).2, (hchild c' hc' x hx').2]
    · intro x
      constructor
      · rintro ⟨c, hc, hcx⟩
        obtain ⟨hx, rfl⟩ := hchild c hc x hcx
        exact ⟨hx, hc⟩
      · rintro ⟨hx, hc⟩
        exact ⟨child x, hc, hname x hx hc⟩

end

end PathTree
