import CloudStorage.Proofs.Recovery

/-!
# Cutting off a checkpoint

A checkpoint that is cut off after any number of its file-system steps leaves files from
which a start restores the table, except between the removal of the old data file and the
renaming of the new one: there only the log is left.
-/

namespace CloudStorage.Proofs
open DelimitedText Registers

/-- The write leaves the same in the cell whatever was there. -/
def Overwrites (r c : Str) : Write → Prop
  | .put row col _ => row = r ∧ col = c
  | .cput _ _ _ _ => False
  | .delete row col => row = r ∧ col = c

/-- Parameters that the code can log and checkpoint without loss, in every cell. -/
def PlainTable (t : Table) : Prop :=
  ∀ r c v, t.get r c = some v → PlainField r ∧ PlainField c ∧ PlainField v

lemma PlainTable.clean {t : Table} (h : PlainTable t) : CleanTable t := by
  intro r c v hv
  obtain ⟨hr, hc, hw⟩ := h r c v hv
  exact ⟨⟨hr.no_comma, hr.no_newline⟩, ⟨hc.no_comma, hc.no_newline⟩,
    ⟨hw.no_comma, hw.no_newline⟩⟩

lemma overwrites_iff (r c : Str) (w : Write) :
    Overwrites r c w ↔ (opOf w).Resets ∧ (opOf w).key = (r, c) := by
  cases w <;> simp [Overwrites, opOf, Op.Resets, Op.key]

lemma opsOn_cons_of_eq {k : Str × Str} {w : Write} (h : (opOf w).key = k) (ws : List Write) :
    opsOn k ((w :: ws).map opOf) = opOf w :: opsOn k (ws.map opOf) := by
  simp [opsOn, h]

lemma opsOn_cons_of_ne {k : Str × Str} {w : Write} (h : (opOf w).key ≠ k) (ws : List Write) :
    opsOn k ((w :: ws).map opOf) = opsOn k (ws.map opOf) := by
  simp [opsOn, h]

lemma TookEffect.succeed {ws : List Write} {t : Table} (h : TookEffect ws t) (k : Str × Str) :
    Succeed [] (opsOn k (ws.map opOf)) (cellsOf t k) := by
  induction ws generalizing t with
  | nil => trivial
  | cons w ws ih =>
    obtain ⟨hw, hws⟩ := h
    have hi := ih hws
    rw [cellsOf_run] at hi
    by_cases hk : (opOf w).key = k
    · subst hk
      rw [opsOn_cons_of_eq rfl]
      refine ⟨(run_ok_iff w t).mp hw, ?_⟩
      simpa [Op.effect] using hi
    · rw [opsOn_cons_of_ne hk]
      simpa [Op.effect, Function.update_of_ne (Ne.symm hk)] using hi

/-- A log without an overwriting write of a cell has only conditional writes of plain
values on it. -/
lemma swap_plain {ws : List Write} (h : ∀ w ∈ ws, Plain w) (k l : Str × Str) (old new : Str)
    (hm : Op.swap l old new ∈ opsOn k (ws.map opOf)) : old ≠ [] ∧ new ≠ [] := by
  obtain ⟨w, hw, he⟩ := List.mem_map.mp (List.mem_filter.mp hm).1
  cases w with
  | put row col value => simp [opOf] at he
  | delete row col => simp [opOf] at he
  | cput row col cur value =>
    simp only [opOf, Op.swap.injEq] at he
    obtain ⟨-, rfl, rfl⟩ := he
    exact ⟨(h _ hw cur (by simp [Write.fields])).ne_nil,
      (h _ hw value (by simp [Write.fields])).ne_nil⟩

lemma exists_resets_iff (ws : List Write) (r c : Str) :
    (∃ op ∈ opsOn (r, c) (ws.map opOf), op.Resets) ↔ ∃ w ∈ ws, Overwrites r c w := by
  constructor
  · rintro ⟨op, hop, hr⟩
    obtain ⟨hm, hk⟩ := List.mem_filter.mp hop
    obtain ⟨w, hw, rfl⟩ := List.mem_map.mp hm
    exact ⟨w, hw, (overwrites_iff r c w).mpr ⟨hr, of_decide_eq_true hk⟩⟩
  · rintro ⟨w, hw, ho⟩
    obtain ⟨hr, hk⟩ := (overwrites_iff r c w).mp ho
    exact ⟨opOf w, List.mem_filter.mpr ⟨List.mem_map.mpr ⟨w, hw, rfl⟩, decide_eq_true hk⟩, hr⟩

/-- Replaying a log over nothing gives what it gave over a table of plain cells exactly
when it overwrites every cell of that table. -/
theorem runAll_empty_iff {ws : List Write} (hws : ∀ w ∈ ws, Plain w) {base : Table}
    (htable : PlainTable (runAll ws base)) :
    (∀ r c, (runAll ws ∅).get r c = (runAll ws base).get r c) ↔
      ∀ r c, base.get r c ≠ none → ∃ w ∈ ws, Overwrites r c w := by
  have hget := get_runAll ws
  constructor
  · intro heq r c hne
    by_contra hno
    have hreset : ∀ op ∈ opsOn (r, c) (ws.map opOf), ¬op.Resets := fun op hop hr =>
      hno ((exists_resets_iff ws r c).mp ⟨op, hop, hr⟩)
    have hold := fun l old new hm => (swap_plain hws (r, c) l old new hm).1
    have hnew := fun l old new hm => (swap_plain hws (r, c) l old new hm).2
    -- from nothing the cell still reads empty, while the table has a plain value there
    have hempty : ((runAll ws ∅).get r c).getD [] = [] := by
      rw [hget, NestedMap.get_empty]
      exact getD_actAll_default hreset hold rfl
    have hsome : ((runAll ws base).get r c).isSome := by
      rw [hget]
      exact isSome_actAll hreset (Option.isSome_iff_ne_none.mpr hne)
    obtain ⟨v, hv⟩ := Option.isSome_iff_exists.mp hsome
    rw [heq, hv] at hempty
    exact (htable r c v hv).2.2.ne_nil hempty
  · intro hover r c
    rw [hget, hget, NestedMap.get_empty]
    cases hb : base.get r c with
    | none => rfl
    | some v =>
      have hr := (exists_resets_iff ws r c).mpr (hover r c (by simp [hb]))
      exact actAll_of_resets hr _ _

/-! ### Starting after the cut -/

/-- A checkpoint of `t` over files from which a start restores `t`: the writes of the log
took effect over the data file and lead to `t`. -/
structure CheckpointInput (path : Str) (d : Disk) (ws : List Write) (t : Table) : Prop where
  log : LogHolds path d ws
  plain : PlainTable t
  took : TookEffect ws (loadDataFile (readFile path d) ∅)
  table : ∀ r c, (runAll ws (loadDataFile (readFile path d) ∅)).get r c = t.get r c

/-- A start on the files that a checkpoint of `t` leaves after `k` steps restores `t`. -/
def RestoresAfter (k : Nat) (s : Server) (time result : Nat) (t : Table) (d : Disk) : Prop :=
  ∃ n', initializeFrom s.diskFilePath time
      ⟨s, runFileSteps ((checkpointSteps s.diskFilePath result t).take k) d⟩ = some n' ∧
    ∀ r c, n'.server.table.get r c = t.get r c

lemma starting_startServer (g : Int) (info : ServerInfo) (d : Disk) :
    Starting ⟨startServer g info, d⟩ := ⟨rfl, rfl⟩

/-- What a start restores is the log run over the data file. -/
lemma exists_initializeFrom_iff {g : Int} {info : ServerInfo} {d : Disk} {ws : List Write}
    {path : Str} (time : Nat) (h : LogHolds path d ws) (t : Table) :
    (∃ n', initializeFrom path time ⟨startServer g info, d⟩ = some n' ∧
      ∀ r c, n'.server.table.get r c = t.get r c) ↔
      ∀ r c, (runAll ws (loadDataFile (readFile path d) ∅)).get r c = t.get r c := by
  obtain ⟨n', hn', hr⟩ := initializeFrom_spec time (starting_startServer g info d) h
  rw [hn']
  constructor
  · rintro ⟨m, hm, ht⟩ r c
    rw [← ht, ← Option.some.inj hm, hr.table]
    rfl
  · intro ht
    refine ⟨n', rfl, fun r c => ?_⟩
    rw [hr.table]
    exact ht r c

lemma get_snapshot {t : Table} (h : PlainTable t) (result : Nat) (r c : Str) :
    (loadDataFile (checkpointText result t) ∅).get r c = t.get r c := by
  rw [get_loadDataFile_checkpointText h.clean]
  cases hv : t.get r c with
  | none => rfl
  | some v => simp [Option.filter, (h r c v hv).2.2.ne_nil]

/-- Replaying the log over the new data file changes nothing. -/
lemma runAll_snapshot {path : Str} {d : Disk} {ws : List Write} {t : Table}
    (h : CheckpointInput path d ws t) (result : Nat) (r c : Str) :
    (runAll ws (loadDataFile (checkpointText result t) ∅)).get r c = t.get r c := by
  have hload := get_snapshot h.plain result r c
  have hrun : ∀ u : Table, (runAll ws u).get r c =
      actAll [] (opsOn (r, c) (ws.map opOf)) (u.get r c) := fun u => get_runAll ws u r c
  have hsucc := h.took.succeed (r, c)
  calc (runAll ws (loadDataFile (checkpointText result t) ∅)).get r c
      = actAll [] (opsOn (r, c) (ws.map opOf))
          ((runAll ws (loadDataFile (readFile path d) ∅)).get r c) := by
        rw [hrun, hload, h.table]
    _ = actAll [] (opsOn (r, c) (ws.map opOf)) ((loadDataFile (readFile path d) ∅).get r c) := by
        rw [hrun]
        exact actAll_actAll hsucc
    _ = t.get r c := by rw [← hrun, h.table]

/-- A checkpoint that is cut off restores its table exactly when the cut does not fall
between the removal of the old data file and the renaming of the new one, or the log
overwrites every cell of the old data file. -/
theorem checkpoint_cut_restores_iff (g : Int) (info : ServerInfo) (d : Disk) (ws : List Write)
    (t : Table) (time result k : Nat)
    (h : CheckpointInput (startServer g info).diskFilePath d ws t) :
    RestoresAfter k (startServer g info) time result t d ↔
      (k = (checkpointText result t).length + 2 →
        ∀ r c, (loadDataFile (readFile (startServer g info).diskFilePath d) ∅).get r c ≠ none →
          ∃ w ∈ ws, Overwrites r c w) := by
  set path := (startServer g info).diskFilePath
  obtain ⟨hdata, hlog, hdead⟩ := readFile_checkpointSteps_take path result t d k
  unfold RestoresAfter
  by_cases hlate : k ≤ (checkpointText result t).length + 3
  · rw [if_pos hlate] at hlog
    have hholds : LogHolds path
        (runFileSteps ((checkpointSteps path result t).take k) d) ws :=
      ⟨hlog.trans h.log.log, h.log.plain, hdead.trans h.log.dead⟩
    rw [exists_initializeFrom_iff time hholds, hdata]
    by_cases hearly : k ≤ (checkpointText result t).length + 1
    · rw [if_pos hearly]
      have hk : k ≠ (checkpointText result t).length + 2 := by omega
      exact ⟨fun _ hk' => absurd hk' hk, fun _ => h.table⟩
    · rw [if_neg hearly]
      by_cases hk : k = (checkpointText result t).length + 2
      · rw [if_pos hk]
        have hplain : PlainTable (runAll ws (loadDataFile (readFile path d) ∅)) := by
          intro r c v hv
          exact h.plain r c v ((h.table r c).symm.trans hv)
        have hiff := runAll_empty_iff h.log.plain hplain
        simp only [h.table] at hiff
        exact ⟨fun ht _ => hiff.mp ht, fun hc => hiff.mpr (hc hk)⟩
      · rw [if_neg hk]
        exact ⟨fun _ hk' => absurd hk' hk, fun _ => runAll_snapshot h result⟩
  · have hk : k ≠ (checkpointText result t).length + 2 := by omega
    have hearly : ¬k ≤ (checkpointText result t).length + 1 := by omega
    rw [if_neg hlate] at hlog
    rw [if_neg hearly, if_neg hk] at hdata
    have hholds : LogHolds path
        (runFileSteps ((checkpointSteps path result t).take k) d) [] :=
      ⟨hlog, by simp, hdead.trans h.log.dead⟩
    rw [exists_initializeFrom_iff time hholds, hdata]
    exact ⟨fun _ hk' => absurd hk' hk, fun _ => get_snapshot h.plain result⟩

/-! ### An example -/

def cutInfo : ServerInfo :=
  { ip := "127.0.0.1".toList, tcpPort := 2001, udpPort2 := 9001, replicaGroup := 1 }

def cutPath : Str := (startServer 1 cutInfo).diskFilePath

/-- A data file with one cell, and a log. -/
def filesWith (ws : List Write) : Disk :=
  Function.update (Function.update (fun _ => none) cutPath (some "7\nu,x,1\n".toList))
    (checkpointPath cutPath) (some (terminated '\n' (ws.map Write.line)))

def tableWith (ws : List Write) : Table :=
  runAll ws (loadDataFile (readFile cutPath (filesWith ws)) ∅)

lemma checkpointInput_with {ws : List Write}
    (hlog : readFile (checkpointPath cutPath) (filesWith ws) =
      terminated '\n' (ws.map Write.line))
    (hplain : ∀ w ∈ ws, Plain w)
    (hdead : readFile (deadServerLogPath cutPath) (filesWith ws) = [])
    (hcells : ∀ e ∈ (tableWith ws).cells, PlainField e.1.1 ∧ PlainField e.1.2 ∧ PlainField e.2)
    (htook : TookEffect ws (loadDataFile (readFile cutPath (filesWith ws)) ∅)) :
    CheckpointInput cutPath (filesWith ws) ws (tableWith ws) where
  log := ⟨hlog, hplain, hdead⟩
  plain r c v hv := hcells _ ((NestedMap.mem_cells (tableWith ws) r c v).mpr hv)
  took := htook
  table := fun _ _ => rfl

instance (r c : Str) : DecidablePred (Overwrites r c) := fun w =>
  match w with
  | .put _ _ _ | .delete _ _ => inferInstanceAs (Decidable (_ ∧ _))
  | .cput _ _ _ _ => isFalse not_false

/-- Three writes since the last checkpoint, the last of which is to the cell in the data
file. -/
def coveringLog : List Write :=
  [.cput ['u'] ['x'] ['1'] ['2'], .put ['u'] ['y'] ['3'], .put ['u'] ['x'] ['4']]

/-- Between the removal of the data file and the renaming of the temporary one, the log
restores what was in the data file. -/
theorem checkpoint_cut_at_removal :
    RestoresAfter ((checkpointText 8 (tableWith coveringLog)).length + 2) (startServer 1 cutInfo)
      8 8 (tableWith coveringLog) (filesWith coveringLog) := by
  have hinput : CheckpointInput cutPath (filesWith coveringLog) coveringLog
      (tableWith coveringLog) :=
    checkpointInput_with (by rfl) (by decide) (by rfl) (by decide) ⟨rfl, rfl, rfl, trivial⟩
  refine (checkpoint_cut_restores_iff 1 cutInfo (filesWith coveringLog) coveringLog
    (tableWith coveringLog) 8 8 _ hinput).mpr (fun _ r c hheld => ?_)
  obtain ⟨v, hv⟩ := Option.ne_none_iff_exists'.mp hheld
  have hmem := (NestedMap.mem_cells _ r c v).mpr hv
  exact (by decide : ∀ e ∈ (loadDataFile (readFile cutPath (filesWith coveringLog)) ∅).cells,
    ∃ w ∈ coveringLog, Overwrites e.1.1 e.1.2 w) _ hmem

/-- Three writes since the last checkpoint, none of them to the cell in the data file. -/
def cutLog : List Write :=
  [.put ['u'] ['y'] ['1'], .put ['u'] ['y'] ['2'], .delete ['u'] ['z']]

lemma cutInput : CheckpointInput cutPath (filesWith cutLog) cutLog (tableWith cutLog) :=
  checkpointInput_with (by rfl) (by decide) (by rfl) (by decide) ⟨rfl, rfl, rfl, trivial⟩

/-- After the removal of the data file the cell that only it held is gone. -/
theorem checkpoint_cut_loses_cell :
    ¬∀ (g : Int) (info : ServerInfo) (d : Disk) (ws : List Write) (t : Table)
      (time result k : Nat), CheckpointInput (startServer g info).diskFilePath d ws t →
      RestoresAfter k (startServer g info) time result t d := by
  intro h
  let k := (checkpointText 8 (tableWith cutLog)).length + 2
  let d := runFileSteps ((checkpointSteps cutPath 8 (tableWith cutLog)).take k)
    (filesWith cutLog)
  obtain ⟨n', hn', hget⟩ := h 1 cutInfo (filesWith cutLog) cutLog (tableWith cutLog) 8 8 k cutInput
  have hn : initializeFrom cutPath 8 ⟨startServer 1 cutInfo, d⟩ = some n' := hn'
  have hlost : (initializeFrom cutPath 8 ⟨startServer 1 cutInfo, d⟩).map
      (fun n => n.server.table.get ['u'] ['x']) = some none := by
    decide +kernel
  have hheld : (tableWith cutLog).get ['u'] ['x'] = some ['1'] := by decide
  rw [hn, Option.map_some, hget, hheld] at hlost
  exact absurd hlost (by decide)

end CloudStorage.Proofs
