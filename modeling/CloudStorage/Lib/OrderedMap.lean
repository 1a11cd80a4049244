import Mathlib.Tactic.Common

/-!
# Maps in the order of their keys

A finite map that is iterated over from the smallest key to the largest. An assignment is
described by the entries afterwards.
-/

/-- A finite map as its entries, whose keys increase. -/
structure OrderedMap (κ ν : Type*) [LT κ] where
  entries : List (κ × ν)
  sorted : entries.Pairwise (fun x y => x.1 < y.1)

namespace OrderedMap

variable {κ ν : Type*} [LT κ]

def empty : OrderedMap κ ν := ⟨[], List.Pairwise.nil⟩

variable [DecidableLT κ] [DecidableEq κ]

/-- The entries after an assignment. -/
def assign (k : κ) (v : ν) : List (κ × ν) → List (κ × ν)
  | [] => [(k, v)]
  | e :: entries =>
    if k < e.1 then (k, v) :: e :: entries
    else if k = e.1 then (k, v) :: entries
    else e :: assign k v entries

variable [LE κ] [Std.IsLinearOrder κ] [Std.LawfulOrderLT κ]

lemma mem_assign {k : κ} {v : ν} {entries : List (κ × ν)}
    (h : entries.Pairwise (fun x y => x.1 < y.1)) (e : κ × ν) :
    e ∈ assign k v entries ↔ e = (k, v) ∨ e.1 ≠ k ∧ e ∈ entries := by
  induction entries with
  | nil => simp [assign]
  | cons d entries ih =>
    obtain ⟨hd, hrest⟩ := List.pairwise_cons.mp h
    rw [assign]
    split
    · next hlt =>
      have hne : e ∈ d :: entries → e.1 ≠ k := by
        intro he
        rcases List.mem_cons.mp he with rfl | he
        · exact (Std.ne_of_lt hlt).symm
        · exact (Std.ne_of_lt (Std.lt_trans hlt (hd e he))).symm
      rw [List.mem_cons, and_iff_right_of_imp hne]
    · next hle =>
      split
      · next heq =>
        have hne : e ∈ entries → e.1 ≠ k := fun he => heq ▸ (Std.ne_of_lt (hd e he)).symm
        have hhead : e.1 ≠ k → e ≠ d := fun hk he => hk (he ▸ heq.symm)
        rw [List.mem_cons, List.mem_cons]
        tauto
      · next hne =>
        have hhead : e = d → e.1 ≠ k := fun he hk => hne (he ▸ hk.symm)
        rw [List.mem_cons, List.mem_cons, ih hrest]
        tauto

lemma sorted_assign (k : κ) (v : ν) {entries : List (κ × ν)}
    (h : entries.Pairwise (fun x y => x.1 < y.1)) :
    (assign k v entries).Pairwise (fun x y => x.1 < y.1) := by
  induction entries with
  | nil => exact List.pairwise_singleton _ _
  | cons d entries ih =>
    obtain ⟨hd, hrest⟩ := List.pairwise_cons.mp h
    rw [assign]
    split
    · next hlt =>
      refine List.pairwise_cons.mpr ⟨fun e he => ?_, h⟩
      rcases List.mem_cons.mp he with rfl | he
      · exact hlt
      · exact Std.lt_trans hlt (hd e he)
    · next hle =>
      split
      · next heq => exact List.pairwise_cons.mpr ⟨fun e he => heq ▸ hd e he, hrest⟩
      · next hne =>
        refine List.pairwise_cons.mpr ⟨fun e he => ?_, ih hrest⟩
        rcases (mem_assign hrest e).mp he with rfl | ⟨-, he⟩
        · exact Std.lt_of_le_of_ne (Std.not_lt.mp hle) (Ne.symm hne)
        · exact hd e he

/-- The value of a key is assigned, and the key made where it is new. -/
def insert (m : OrderedMap κ ν) (k : κ) (v : ν) : OrderedMap κ ν :=
  ⟨assign k v m.entries, sorted_assign k v m.sorted⟩

/-- The value of a key, nothing where the key is not there. -/
def find? (m : OrderedMap κ ν) (k : κ) : Option ν :=
  (m.entries.find? (fun e => decide (e.1 = k))).map Prod.snd

theorem mem_insert (m : OrderedMap κ ν) (k : κ) (v : ν) (e : κ × ν) :
    e ∈ (m.insert k v).entries ↔ e = (k, v) ∨ e.1 ≠ k ∧ e ∈ m.entries :=
  mem_assign m.sorted e

omit [LE κ] [Std.IsLinearOrder κ] [Std.LawfulOrderLT κ] [DecidableLT κ] in
@[simp] lemma find?_empty (k : κ) : (empty : OrderedMap κ ν).find? k = none := rfl

omit [LE κ] [Std.IsLinearOrder κ] [Std.LawfulOrderLT κ] in
lemma find?_assign (k j : κ) (v : ν) (entries : List (κ × ν)) :
    (assign k v entries).find? (fun e => decide (e.1 = j)) =
      if j = k then some (k, v) else entries.find? (fun e => decide (e.1 = j)) := by
  induction entries with
  | nil =>
    by_cases hj : j = k
    · subst hj
      simp [assign]
    · simp [assign, hj, Ne.symm hj]
  | cons d entries ih =>
    rw [assign]
    by_cases hlt : k < d.1
    · rw [if_pos hlt]
      by_cases hj : j = k
      · subst hj
        simp
      · simp [hj, Ne.symm hj]
    · rw [if_neg hlt]
      by_cases hk : k = d.1
      · rw [if_pos hk]
        by_cases hj : j = k
        · subst hj
          simp
        · have hd : d.1 ≠ j := hk ▸ Ne.symm hj
          simp [hj, Ne.symm hj, hd]
      · rw [if_neg hk, List.find?_cons, List.find?_cons, ih]
        by_cases hj : j = k
        · subst hj
          simp [Ne.symm hk]
        · simp [hj]

/-- An assignment changes the value of its key only. -/
theorem find?_insert (m : OrderedMap κ ν) (k j : κ) (v : ν) :
    (m.insert k v).find? j = if j = k then some v else m.find? j := by
  unfold find? insert
  rw [find?_assign]
  split
  · rfl
  · rfl

lemma assign_of_mem {entries : List (κ × ν)} (h : entries.Pairwise (fun x y => x.1 < y.1))
    {e : κ × ν} (he : e ∈ entries) (v : ν) :
    assign e.1 v entries = entries.map (fun d => if d.1 = e.1 then (e.1, v) else d) := by
  induction entries with
  | nil => exact absurd he List.not_mem_nil
  | cons d entries ih =>
    obtain ⟨hd, hrest⟩ := List.pairwise_cons.mp h
    rcases List.mem_cons.mp he with rfl | he
    · have hkeep : entries.map (fun d => if d.1 = e.1 then (e.1, v) else d) = entries := by
        refine (List.map_congr_left (fun d hmem => ?_)).trans (List.map_id' entries)
        exact if_neg (Std.ne_of_lt (hd d hmem)).symm
      rw [assign, if_neg Std.lt_irrefl, if_pos rfl, List.map_cons, if_pos rfl, hkeep]
    · have hlt := hd e he
      rw [assign, if_neg (Std.not_lt.mpr (Std.le_of_lt hlt)), if_neg (Std.ne_of_lt hlt).symm,
        List.map_cons, if_neg (Std.ne_of_lt hlt), ih hrest he]

/-- An assignment to a key that is there keeps its place. -/
theorem entries_insert_of_mem (m : OrderedMap κ ν) {e : κ × ν} (he : e ∈ m.entries) (v : ν) :
    (m.insert e.1 v).entries = m.entries.map (fun d => if d.1 = e.1 then (e.1, v) else d) :=
  assign_of_mem m.sorted he v

omit [DecidableLT κ] [Std.IsLinearOrder κ] in
/-- The entries of a key are its value. -/
theorem filter_key (m : OrderedMap κ ν) (k : κ) :
    m.entries.filter (fun e => decide (e.1 = k)) =
      ((m.find? k).map (fun v => (k, v))).toList := by
  obtain ⟨entries, hsorted⟩ := m
  unfold find?
  dsimp only
  induction entries with
  | nil => rfl
  | cons e entries ih =>
    obtain ⟨he, hrest⟩ := List.pairwise_cons.mp hsorted
    by_cases hk : e.1 = k
    · have hnone : entries.filter (fun e => decide (e.1 = k)) = [] := by
        refine List.filter_eq_nil_iff.mpr (fun d hd => ?_)
        have hlt := he d hd
        rw [hk] at hlt
        simpa using (Std.ne_of_lt hlt).symm
      rw [List.filter_cons_of_pos (by simpa using hk), hnone,
        List.find?_cons_of_pos (by simpa using hk)]
      subst hk
      rfl
    · rw [List.filter_cons_of_neg (by simpa using hk), List.find?_cons_of_neg (by simpa using hk)]
      exact ih hrest

omit [DecidableLT κ] [Std.IsLinearOrder κ] in
theorem mem_entries (m : OrderedMap κ ν) (k : κ) (v : ν) :
    (k, v) ∈ m.entries ↔ m.find? k = some v := by
  have hfilter : (k, v) ∈ m.entries ↔
      (k, v) ∈ m.entries.filter (fun e => decide (e.1 = k)) := by
    simp
  rw [hfilter, filter_key, Option.mem_toList, Option.map_eq_some_iff]
  constructor
  · rintro ⟨w, hw, he⟩
    rw [hw, (Prod.mk.inj he).2]
  · exact fun hv => ⟨v, hv, rfl⟩

end OrderedMap
