import Mathlib.Data.List.AList
import Mathlib.Tactic.Common

/-!
# Maps of maps

A finite map from rows to finite maps from columns to values, each with its entries in
some order. `get` is the partial function the map stands for; every operation is
described by what `get` returns afterwards, and `cells` lists the entries.
-/

/-- A finite map whose values are finite maps. -/
abbrev NestedMap (ρ κ ν : Type*) := AList (fun _ : ρ => AList (fun _ : κ => ν))

namespace NestedMap

variable {ρ κ ν : Type*} [DecidableEq ρ]

/-- The columns of a row, none when the row is absent. -/
def row (m : NestedMap ρ κ ν) (r : ρ) : AList (fun _ : κ => ν) :=
  (m.lookup r).getD ∅

/-- The cells of all rows, in the order of the entries. -/
def cells (m : NestedMap ρ κ ν) : List ((ρ × κ) × ν) :=
  m.entries.flatMap (fun e => e.2.entries.map (fun f => ((e.1, f.1), f.2)))

omit [DecidableEq ρ] in
/-- Each cell is listed once. -/
theorem nodup_cells (m : NestedMap ρ κ ν) : (m.cells.map Prod.fst).Nodup := by
  have hmap : m.cells.map Prod.fst =
      m.entries.flatMap (fun e => e.2.keys.map (fun c => (e.1, c))) := by
    simp [cells, List.map_flatMap, AList.keys, List.keys, Function.comp_def]
  rw [hmap, List.nodup_flatMap]
  constructor
  · intro e _
    exact (e.2.keys_nodup).map (fun c d h => congrArg Prod.snd h)
  · have hrows := List.pairwise_map.mp m.keys_nodup
    refine hrows.imp (fun {e f} hne => ?_)
    intro k he hf
    obtain ⟨c, -, rfl⟩ := List.mem_map.mp he
    obtain ⟨d, -, hd⟩ := List.mem_map.mp hf
    exact hne (congrArg Prod.fst hd).symm

/-- Replacing a row changes no other. -/
lemma row_insert (m : NestedMap ρ κ ν) (r : ρ) (cols : AList (fun _ : κ => ν)) (r' : ρ) :
    NestedMap.row (m.insert r cols) r' = if r' = r then cols else m.row r' := by
  by_cases h : r' = r
  · subst h
    simp [row]
  · simp [row, h, AList.lookup_insert_ne h]

variable [DecidableEq κ]

/-- The value of a cell, if the cell is present. -/
def get (m : NestedMap ρ κ ν) (r : ρ) (c : κ) : Option ν :=
  (m.row r).lookup c

/-- Assigns a cell, adding the row and the column where they are absent. -/
def set (m : NestedMap ρ κ ν) (r : ρ) (c : κ) (v : ν) : NestedMap ρ κ ν :=
  m.insert r ((m.row r).insert c v)

/-- Removes a cell; the row stays, and is added where it is absent. -/
def eraseCell (m : NestedMap ρ κ ν) (r : ρ) (c : κ) : NestedMap ρ κ ν :=
  m.insert r ((m.row r).erase c)

/-- Makes a cell present, with value `v` where it is absent. -/
def touch (m : NestedMap ρ κ ν) (r : ρ) (c : κ) (v : ν) : NestedMap ρ κ ν :=
  match m.get r c with
  | some _ => m
  | none => m.set r c v

theorem row_set (m : NestedMap ρ κ ν) (r : ρ) (c : κ) (v : ν) (r' : ρ) :
    (m.set r c v).row r' = if r' = r then (m.row r).insert c v else m.row r' :=
  row_insert m r _ r'

theorem row_eraseCell (m : NestedMap ρ κ ν) (r : ρ) (c : κ) (r' : ρ) :
    (m.eraseCell r c).row r' = if r' = r then (m.row r).erase c else m.row r' :=
  row_insert m r _ r'

@[simp] lemma get_empty (r : ρ) (c : κ) : get (∅ : NestedMap ρ κ ν) r c = none := by
  simp [get, row]

/-- What `get` finds where a row was replaced by one that differs from it in one column. -/
lemma get_insert {m : NestedMap ρ κ ν} {r : ρ} {c : κ} {cols : AList (fun _ : κ => ν)}
    {o : Option ν} (hcell : cols.lookup c = o)
    (hne : ∀ c', c' ≠ c → cols.lookup c' = (m.row r).lookup c') (r' : ρ) (c' : κ) :
    NestedMap.get (m.insert r cols) r' c' = if r' = r ∧ c' = c then o else m.get r' c' := by
  rw [get, row_insert]
  by_cases hr : r' = r
  · subst hr
    by_cases hc : c' = c
    · subst hc
      simp [hcell]
    · simp [get, hc, hne c' hc]
  · simp [get, hr]

theorem get_set (m : NestedMap ρ κ ν) (r : ρ) (c : κ) (v : ν) (r' : ρ) (c' : κ) :
    (m.set r c v).get r' c' = if r' = r ∧ c' = c then some v else m.get r' c' :=
  get_insert (AList.lookup_insert _) (fun _ hc => AList.lookup_insert_ne hc) r' c'

theorem get_eraseCell (m : NestedMap ρ κ ν) (r : ρ) (c : κ) (r' : ρ) (c' : κ) :
    (m.eraseCell r c).get r' c' = if r' = r ∧ c' = c then none else m.get r' c' :=
  get_insert (AList.lookup_erase _ _) (fun _ hc => AList.lookup_erase_ne hc) r' c'

theorem get_touch (m : NestedMap ρ κ ν) (r : ρ) (c : κ) (v : ν) (r' : ρ) (c' : κ) :
    (m.touch r c v).get r' c' =
      if r' = r ∧ c' = c then some ((m.get r c).getD v) else m.get r' c' := by
  unfold touch
  cases h : m.get r c with
  | none => simp [get_set]
  | some w =>
    by_cases he : r' = r ∧ c' = c
    · obtain ⟨rfl, rfl⟩ := he
      simp [h]
    · simp [he]

/-- The cells listed are exactly those that `get` finds. -/
theorem mem_cells (m : NestedMap ρ κ ν) (r : ρ) (c : κ) (v : ν) :
    ((r, c), v) ∈ m.cells ↔ m.get r c = some v := by
  have hrow : ∀ cols, ⟨r, cols⟩ ∈ m.entries ↔ m.lookup r = some cols := fun cols =>
    (AList.mem_lookup_iff (s := m)).symm
  constructor
  · intro h
    obtain ⟨⟨r', cols⟩, he, h⟩ := List.mem_flatMap.mp h
    obtain ⟨⟨c', v'⟩, hf, hq⟩ := List.mem_map.mp h
    simp only [Prod.mk.injEq] at hq
    obtain ⟨⟨rfl, rfl⟩, rfl⟩ := hq
    have hl : m.lookup r' = some cols := (hrow cols).mp he
    have hc : cols.lookup c' = some v' := AList.mem_lookup_iff.mpr hf
    simp [get, row, hl, hc]
  · intro h
    cases hl : m.lookup r with
    | none => simp [get, row, hl] at h
    | some cols =>
      have hc : cols.lookup c = some v := by simpa [get, row, hl] using h
      refine List.mem_flatMap.mpr ⟨⟨r, cols⟩, (hrow cols).mpr hl, ?_⟩
      exact List.mem_map.mpr ⟨⟨c, v⟩, AList.mem_lookup_iff.mp hc, rfl⟩

/-- Assigning cells taken from `base`, one after another, copies exactly these cells. -/
theorem get_foldl_set (base : NestedMap ρ κ ν) (l : List ((ρ × κ) × ν))
    (h : ∀ e ∈ l, base.get e.1.1 e.1.2 = some e.2) (m : NestedMap ρ κ ν) (r : ρ) (c : κ) :
    (l.foldl (fun m e => m.set e.1.1 e.1.2 e.2) m).get r c =
      if (r, c) ∈ l.map Prod.fst then base.get r c else m.get r c := by
  induction l generalizing m with
  | nil => simp
  | cons e l ih =>
    obtain ⟨⟨r', c'⟩, v⟩ := e
    have hb : base.get r' c' = some v := h _ List.mem_cons_self
    rw [List.foldl_cons, ih (fun x hx => h x (List.mem_cons_of_mem _ hx))]
    by_cases hl : (r, c) ∈ l.map Prod.fst
    · simp [hl]
    · rw [if_neg hl, get_set]
      by_cases he : r = r' ∧ c = c'
      · obtain ⟨rfl, rfl⟩ := he
        simp [hb]
      · have hne : (r, c) ≠ (r', c') := fun h' => he ⟨congrArg Prod.fst h', congrArg Prod.snd h'⟩
        simp [he, hl, hne]

/-- Cells that are assigned one after another are all there, if no two are the same. -/
theorem get_foldl_set_of_mem {l : List ((ρ × κ) × ν)} (h : (l.map Prod.fst).Nodup)
    {k : ρ × κ} {v : ν} (hk : (k, v) ∈ l) (m : NestedMap ρ κ ν) :
    (l.foldl (fun m e => m.set e.1.1 e.1.2 e.2) m).get k.1 k.2 = some v := by
  have hframe : ∀ (l : List ((ρ × κ) × ν)) (m : NestedMap ρ κ ν), k ∉ l.map Prod.fst →
      (l.foldl (fun m e => m.set e.1.1 e.1.2 e.2) m).get k.1 k.2 = m.get k.1 k.2 := by
    intro l
    induction l with
    | nil => exact fun _ _ => rfl
    | cons e l ih =>
      intro m hno
      rw [List.map_cons, List.mem_cons, not_or] at hno
      rw [List.foldl_cons, ih _ hno.2, get_set, if_neg]
      exact fun he => hno.1 (Prod.ext he.1 he.2)
  induction l generalizing m with
  | nil => exact absurd hk List.not_mem_nil
  | cons e l ih =>
    rw [List.map_cons, List.nodup_cons] at h
    rw [List.foldl_cons]
    rcases List.mem_cons.mp hk with rfl | hk
    · rw [hframe l _ h.1, get_set, if_pos ⟨rfl, rfl⟩]
    · exact ih h.2 hk _

/-! ### Rows -/

lemma get_of_row {m m' : NestedMap ρ κ ν} {r : ρ} (h : m.row r = m'.row r) (c : κ) :
    m.get r c = m'.get r c := by
  rw [get, get, h]

lemma row_touch_of_row {m m' : NestedMap ρ κ ν} {r : ρ} (h : m.row r = m'.row r) (c : κ)
    (v : ν) : (m.touch r c v).row r = (m'.touch r c v).row r := by
  unfold touch
  rw [get_of_row h]
  cases m'.get r c with
  | none =>
    dsimp only
    rw [row_set, row_set, if_pos rfl, if_pos rfl, h]
  | some _ => exact h

end NestedMap
