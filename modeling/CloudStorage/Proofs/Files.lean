import CloudStorage.Proofs.Replay

/-!
# What the files hold

The contents of the data file and of the log after each file operation, the table that a
checkpoint restores, and the table that `initializeFrom` restores.
-/

namespace CloudStorage.Proofs
open DelimitedText Registers

/-! ### Single files -/

lemma readFile_update (p q : Str) (s : Option Str) (d : Disk) :
    readFile q (Function.update d p s) = if q = p then s.getD [] else readFile q d := by
  unfold readFile
  by_cases h : q = p
  · simp [h]
  · simp [h]

@[simp] lemma readFile_createFile (p q : Str) (d : Disk) :
    readFile q (createFile p d) = readFile q d := by
  rw [createFile, readFile_update]
  split
  · next h => simp [h]
  · rfl

lemma readFile_truncateFile (p q : Str) (d : Disk) :
    readFile q (truncateFile p d) = if q = p then [] else readFile q d := by
  rw [truncateFile, FileStep.run, readFile_update, Option.getD_some]

lemma readFile_appendToFile (p q line : Str) (d : Disk) :
    readFile q (appendToFile p line d) =
      if q = p then readFile p d ++ line ++ ['\n'] else readFile q d := by
  rw [appendToFile, readFile_update, Option.getD_some]

lemma tmpPath_ne (p : Str) : p ≠ tmpPath p := by
  simp only [tmpPath, ne_eq, List.self_eq_append_right]
  decide

lemma checkpointPath_ne (p : Str) : p ≠ checkpointPath p := by
  simp only [checkpointPath, ne_eq, List.self_eq_append_right]
  decide

lemma deadServerLogPath_ne (p : Str) : p ≠ deadServerLogPath p := by
  simp only [deadServerLogPath, ne_eq, List.self_eq_append_right]
  decide

lemma checkpointPath_ne_tmpPath (p : Str) : checkpointPath p ≠ tmpPath p := by
  simp only [checkpointPath, tmpPath, ne_eq, List.append_cancel_left_eq]
  decide

lemma deadServerLogPath_ne_tmpPath (p : Str) : deadServerLogPath p ≠ tmpPath p := by
  simp only [deadServerLogPath, tmpPath, ne_eq, List.append_cancel_left_eq]
  decide

lemma deadServerLogPath_ne_checkpointPath (p : Str) :
    deadServerLogPath p ≠ checkpointPath p := by
  simp only [deadServerLogPath, checkpointPath, ne_eq, List.append_cancel_left_eq]
  decide

/-! ### The steps of a checkpoint -/

/-- Writing the temporary file changes no other file. -/
lemma runFileSteps_append_chars (p : Str) (s : Str) (d : Disk) :
    runFileSteps (s.map (.append p)) d =
      if s = [] then d else Function.update d p (some (readFile p d ++ s)) := by
  induction s generalizing d with
  | nil => rfl
  | cons ch s ih =>
    have hstep : runFileSteps ((ch :: s).map (.append p)) d =
        runFileSteps (s.map (.append p)) (Function.update d p (some (readFile p d ++ [ch]))) := rfl
    rw [hstep, ih]
    by_cases hs : s = []
    · simp [hs]
    · simp [hs, readFile_update]

lemma runFileSteps_append (xs ys : List FileStep) (d : Disk) :
    runFileSteps (xs ++ ys) d = runFileSteps ys (runFileSteps xs d) := by
  simp [runFileSteps]

/-- The temporary file after the first `k + 1` steps, for `k` up to the whole text. -/
lemma runFileSteps_tmp (p : Str) (s : Str) (d : Disk) :
    runFileSteps (.truncate (tmpPath p) :: s.map (.append (tmpPath p))) d =
      Function.update d (tmpPath p) (some s) := by
  have hstep : runFileSteps (.truncate (tmpPath p) :: s.map (.append (tmpPath p))) d =
      runFileSteps (s.map (.append (tmpPath p))) (Function.update d (tmpPath p) (some [])) := rfl
  rw [hstep, runFileSteps_append_chars]
  by_cases hs : s = []
  · simp [hs]
  · simp [hs, readFile_update]

lemma checkpointTable_eq (p : Str) (result : Nat) (t : Table) (d : Disk) :
    checkpointTable p result t d =
      runFileSteps [.remove p, .rename (tmpPath p) p, .truncate (checkpointPath p)]
        (Function.update d (tmpPath p) (some (checkpointText result t))) := by
  rw [checkpointTable, checkpointSteps, List.cons_append, ← List.cons_append,
    runFileSteps_append, runFileSteps_tmp]

/-- The files after a complete checkpoint. -/
theorem readFile_checkpointTable (p : Str) (result : Nat) (t : Table) (d : Disk) :
    readFile p (checkpointTable p result t d) = checkpointText result t ∧
    readFile (checkpointPath p) (checkpointTable p result t d) = [] ∧
    ∀ q, q ≠ p → q ≠ tmpPath p → q ≠ checkpointPath p →
      readFile q (checkpointTable p result t d) = readFile q d := by
  have htmp : tmpPath p ≠ p := Ne.symm (tmpPath_ne p)
  rw [checkpointTable_eq]
  simp only [runFileSteps, List.foldl_cons, List.foldl_nil, FileStep.run,
    Function.update_of_ne htmp, Function.update_self, readFile_update]
  refine ⟨?_, ?_, ?_⟩
  · simp [checkpointPath_ne p]
  · simp
  · intro q hp ht hc
    simp [hp, ht, hc]

/-- The files when a checkpoint is cut off: up to the complete temporary file nothing that
is read on a start has changed, then the data file is gone, then it is the new one, and
last the log is empty. -/
theorem readFile_checkpointSteps_take (p : Str) (result : Nat) (t : Table) (d : Disk) (k : Nat) :
    let text := checkpointText result t
    let d' := runFileSteps ((checkpointSteps p result t).take k) d
    readFile p d' = (if k ≤ text.length + 1 then readFile p d
      else if k = text.length + 2 then [] else text) ∧
    readFile (checkpointPath p) d' =
      (if k ≤ text.length + 3 then readFile (checkpointPath p) d else []) ∧
    readFile (deadServerLogPath p) d' = readFile (deadServerLogPath p) d := by
  intro text d'
  have hdead := deadServerLogPath_ne_tmpPath p
  have hck := checkpointPath_ne_tmpPath p
  by_cases hk : k ≤ text.length + 1
  · -- the run stops inside the temporary file
    have hpre : (checkpointSteps p result t).take k =
        (.truncate (tmpPath p) :: text.map (.append (tmpPath p))).take k := by
      rw [checkpointSteps, List.cons_append, ← List.cons_append]
      exact List.take_append_of_le_length (by simpa using hk)
    have hother : ∀ q, q ≠ tmpPath p → readFile q d' = readFile q d := by
      intro q hq
      simp only [d', hpre]
      cases k with
      | zero => rfl
      | succ k =>
        rw [List.take_succ_cons, ← List.map_take, runFileSteps_tmp, readFile_update, if_neg hq]
    have hk3 : k ≤ text.length + 3 := by omega
    rw [if_pos hk, if_pos hk3]
    exact ⟨hother p (tmpPath_ne p), hother _ hck, hother _ hdead⟩
  · obtain ⟨j, rfl⟩ : ∃ j, k = text.length + 1 + (j + 1) := ⟨k - text.length - 2, by omega⟩
    have hrun : d' = runFileSteps
        ([.remove p, .rename (tmpPath p) p, .truncate (checkpointPath p)].take (j + 1))
        (Function.update d (tmpPath p) (some text)) := by
      have hlen : text.length + 1 + (j + 1) =
          (FileStep.truncate (tmpPath p) :: text.map (.append (tmpPath p))).length + (j + 1) := by
        simp
      simp only [d']
      rw [checkpointSteps, List.cons_append, ← List.cons_append, hlen,
        List.take_length_add_append, runFileSteps_append, runFileSteps_tmp]
    have htmp : tmpPath p ≠ p := Ne.symm (tmpPath_ne p)
    have hckp : checkpointPath p ≠ p := Ne.symm (checkpointPath_ne p)
    have hdp : deadServerLogPath p ≠ p := Ne.symm (deadServerLogPath_ne p)
    have hdck := deadServerLogPath_ne_checkpointPath p
    rw [hrun, if_neg hk]
    match j with
    | 0 =>
      simp only [List.take_succ_cons, List.take_zero, runFileSteps, List.foldl_cons,
        List.foldl_nil, FileStep.run, readFile_update]
      simp [hck, hdead, hckp, hdp]
    | 1 =>
      simp only [List.take_succ_cons, List.take_zero, runFileSteps, List.foldl_cons,
        List.foldl_nil, FileStep.run, Function.update_of_ne htmp, Function.update_self,
        readFile_update]
      simp [hck, hdead, hckp, hdp]
    | j + 2 =>
      simp only [List.take_succ_cons, List.take_nil, runFileSteps, List.foldl_cons,
        List.foldl_nil, FileStep.run, Function.update_of_ne htmp, Function.update_self,
        readFile_update]
      have h2 : ¬text.length + 1 + (j + 2 + 1) = text.length + 2 := by omega
      have h3 : ¬text.length + 1 + (j + 2 + 1) ≤ text.length + 3 := by omega
      simp only [if_neg h2, if_neg h3]
      simp [hdead, hdp, checkpointPath_ne p, hdck]

/-! ### Tables in the data file -/

/-- A parameter of a parsed command: it has no comma and no line feed. -/
def CleanField (s : Str) : Prop := ',' ∉ s ∧ '\n' ∉ s

/-- Every cell of the table can be written to a line of the data file. -/
def CleanTable (t : Table) : Prop :=
  ∀ r c v, t.get r c = some v → CleanField r ∧ CleanField c ∧ CleanField v

lemma toStr_chars (n : Int) {ch : Char} (h : ch ∈ toStr n) : ch.isDigit = true ∨ ch = '-' := by
  have hdigit : ∀ {m : Nat}, ch ∈ Nat.toDigits 10 m → ch.isDigit = true := fun hm =>
    Nat.isDigit_of_mem_toDigits (by decide) (by decide) hm
  unfold toStr at h
  split at h
  · rcases List.mem_cons.mp h with h | h
    · exact Or.inr h
    · exact Or.inl (hdigit h)
  · exact Or.inl (hdigit h)

lemma cleanField_toStr (n : Int) : CleanField (toStr n) := by
  constructor <;> intro h <;> rcases toStr_chars n h with h | h <;> exact absurd h (by decide)

lemma toStr_ne_nil (n : Int) : toStr n ≠ [] := by
  unfold toStr
  split
  · exact List.cons_ne_nil _ _
  · exact Nat.toDigits_ne_nil

lemma loadLine_time (t : Table) (n : Int) : loadLine t (toStr n) = t := by
  rw [loadLine, getlines_of_not_mem (cleanField_toStr n).1 (toStr_ne_nil n)]

/-- A line of the data file sets its cell; a cell with an empty value is skipped, because
the empty piece after the last comma is not read. -/
lemma loadLine_cell (t : Table) {r c v : Str} (hr : CleanField r) (hc : CleanField c)
    (hv : CleanField v) :
    loadLine t (joined ',' [r, c, v]) = if v = [] then t else t.set r c v := by
  have hj : joined ',' [r, c, v] = r ++ ',' :: (c ++ ',' :: v) := rfl
  rw [loadLine, hj, getlines_append_delim hr.1, getlines_append_delim hc.1]
  by_cases h : v = []
  · simp [h]
  · rw [getlines_of_not_mem hv.1 h, if_neg h]

lemma loadDataFile_checkpointText {t : Table} (h : CleanTable t) (result : Nat) (t₀ : Table) :
    loadDataFile (checkpointText result t) t₀ =
      (t.cells.filter (fun e => e.2 ≠ [])).foldl (fun m e => m.set e.1.1 e.1.2 e.2) t₀ := by
  have hclean : ∀ e ∈ t.cells, CleanField e.1.1 ∧ CleanField e.1.2 ∧ CleanField e.2 :=
    fun e he => h _ _ _ ((NestedMap.mem_cells t e.1.1 e.1.2 e.2).mp he)
  have hlines : ∀ x ∈ checkpointLines result t, '\n' ∉ x := by
    intro x hx
    rcases List.mem_cons.mp hx with rfl | hx
    · exact (cleanField_toStr _).2
    · obtain ⟨e, he, rfl⟩ := List.mem_map.mp hx
      obtain ⟨hr, hc, hv⟩ := hclean e he
      refine not_mem_joined (by decide) (fun y hy => ?_)
      have hy : y = e.1.1 ∨ y = e.1.2 ∨ y = e.2 := by simpa using hy
      rcases hy with rfl | rfl | rfl
      · exact hr.2
      · exact hc.2
      · exact hv.2
  have hcells : ∀ (l : List ((Str × Str) × Str)) (t₀ : Table),
      (∀ e ∈ l, CleanField e.1.1 ∧ CleanField e.1.2 ∧ CleanField e.2) →
      (l.map (fun e => joined ',' [e.1.1, e.1.2, e.2])).foldl loadLine t₀ =
        (l.filter (fun e => e.2 ≠ [])).foldl (fun m e => m.set e.1.1 e.1.2 e.2) t₀ := by
    intro l
    induction l with
    | nil => intro t₀ _; rfl
    | cons e l ih =>
      intro t₀ hl
      obtain ⟨hr, hc, hv⟩ := hl e List.mem_cons_self
      have hl' := fun x hx => hl x (List.mem_cons_of_mem e hx)
      rw [List.map_cons, List.foldl_cons, loadLine_cell t₀ hr hc hv]
      by_cases hv : e.2 = []
      · simp only [hv, if_true]
        rw [ih t₀ hl', List.filter_cons_of_neg (by simp [hv])]
      · rw [if_neg hv, ih _ hl', List.filter_cons_of_pos (by simp [hv]), List.foldl_cons]
  rw [loadDataFile, checkpointText, getlines_terminated hlines, checkpointLines, List.foldl_cons,
    loadLine_time]
  exact hcells t.cells t₀ hclean

/-- Loading a data file into an empty table restores the cells with a non-empty value. -/
theorem get_loadDataFile_checkpointText {t : Table} (h : CleanTable t) (result : Nat)
    (r c : Str) :
    (loadDataFile (checkpointText result t) ∅).get r c = (t.get r c).filter (· ≠ []) := by
  rw [loadDataFile_checkpointText h, NestedMap.get_foldl_set t]
  · cases hg : t.get r c with
    | none => simp
    | some v =>
      have hmem : ((r, c), v) ∈ t.cells := (NestedMap.mem_cells t r c v).mpr hg
      have huniq : ∀ w, ((r, c), w) ∈ t.cells → w = v := by
        intro w hw
        have hw := (NestedMap.mem_cells t r c w).mp hw
        rw [hg] at hw
        exact (Option.some.inj hw).symm
      by_cases hv : v = []
      · have hno : (r, c) ∉ (t.cells.filter (fun e => e.2 ≠ [])).map Prod.fst := by
          intro hin
          obtain ⟨⟨k, w⟩, he, hk⟩ := List.mem_map.mp hin
          obtain ⟨hm, hne⟩ := List.mem_filter.mp he
          have hk : k = (r, c) := hk
          subst hk
          have hw := huniq w hm
          simp [hw, hv] at hne
        rw [if_neg hno, NestedMap.get_empty]
        simp [Option.filter, hv]
      · have hin : (r, c) ∈ (t.cells.filter (fun e => e.2 ≠ [])).map Prod.fst :=
          List.mem_map.mpr ⟨((r, c), v), List.mem_filter.mpr ⟨hmem, decide_eq_true hv⟩, rfl⟩
        rw [if_pos hin]
        simp [Option.filter, hv]
  · intro e he
    exact (NestedMap.mem_cells t e.1.1 e.1.2 e.2).mp (List.mem_filter.mp he).1

end CloudStorage.Proofs
