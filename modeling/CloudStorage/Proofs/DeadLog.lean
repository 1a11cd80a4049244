import CloudStorage.Proofs.CheckpointCrash
import CloudStorage.Proofs.Durability
import CloudStorage.Proofs.SequentialReplication
import CloudStorage.Rejoin

/-!
# The files of a secondary that is down

Whatever a secondary's process is doing, its table and its files together determine the cells
it will have once it runs: `Synced` says that these are the cells `m`. A write of the primary
changes them by being carried out or by being logged for the dead, and a start from the files
leaves them as they are.
-/

namespace CloudStorage.Proofs
open DelimitedText Registers

/-! ### Tables without empty cells -/

/-- No cell holds an empty value. -/
def NoEmpty (t : Table) : Prop := ∀ r c, t.get r c ≠ some []

lemma NoEmpty.of_cells {t t' : Table} (h : NoEmpty t) (hc : cellsOf t' = cellsOf t) :
    NoEmpty t' := by
  intro r c
  have hcell : t'.get r c = t.get r c := congrFun hc (r, c)
  rw [hcell]
  exact h r c

/-- Without empty cells the values determine the cells. -/
lemma cells_of_values {t t' : Table} (h : NoEmpty t) (h' : NoEmpty t')
    (hv : valuesOf t = valuesOf t') : cellsOf t = cellsOf t' := by
  funext ⟨r, c⟩
  have hk : (t.get r c).getD [] = (t'.get r c).getD [] := congrFun hv (r, c)
  have hr := h r c
  have hr' := h' r c
  change t.get r c = t'.get r c
  cases hg : t.get r c with
  | none =>
    cases hg' : t'.get r c with
    | none => rfl
    | some v =>
      rw [hg, hg'] at hk
      have hv : v = [] := hk.symm
      exact absurd (hg'.trans (congrArg some hv)) hr'
  | some u =>
    cases hg' : t'.get r c with
    | none =>
      rw [hg, hg'] at hk
      have hu : u = [] := hk
      exact absurd (hg.trans (congrArg some hu)) hr
    | some v =>
      rw [hg, hg'] at hk
      exact congrArg some hk

/-- A plain write that succeeds brings no empty value. -/
lemma NoEmpty.run_ok {t : Table} (h : NoEmpty t) {x : Write} (hx : Plain x)
    (hok : (x.run t).2 = true) : NoEmpty (x.run t).1 := by
  intro r c hv
  have hcell := congrFun (cellsOf_run x t) (r, c)
  have hv : cellsOf (x.run t).1 (r, c) = some [] := hv
  rw [hcell, Op.effect] at hv
  by_cases hk : (r, c) = (opOf x).key
  · rw [← hk, Function.update_self] at hv
    cases x with
    | put row col value =>
      have hvalue : value = [] := Option.some.inj hv
      exact (hx value (by simp [Write.fields])).ne_nil hvalue
    | cput row col cur new =>
      have hsucc := (run_ok_iff _ _).mp hok
      rw [← hk] at hsucc
      have hnew : some new = some [] := (Op.act_swap_of_succeeds hsucc).symm.trans hv
      exact (hx new (by simp [Write.fields])).ne_nil (Option.some.inj hnew)
    | delete row col => simp [opOf, Op.act] at hv
  · rw [Function.update_of_ne hk] at hv
    exact h r c hv

lemma NoEmpty.run {t : Table} (h : NoEmpty t) {x : Write} (hx : Plain x) (hf : FindsCell t x) :
    NoEmpty (x.run t).1 := by
  cases hf.succeeds_or_unchanged with
  | inl hok => exact h.run_ok hx hok
  | inr hsame => exact h.of_cells hsame

lemma NoEmpty.runAll {ws : List Write} {t : Table} (h : NoEmpty t) (hws : ∀ w ∈ ws, Plain w)
    (took : TookEffect ws t) : NoEmpty (runAll ws t) := by
  induction ws generalizing t with
  | nil => exact h
  | cons w ws ih =>
    have hw := h.run_ok (hws w List.mem_cons_self) took.1
    exact ih hw (fun x hx => hws x (List.mem_cons_of_mem w hx)) took.2

/-- A checkpoint brings no empty value back. -/
lemma noEmpty_snapshot {t : Table} (h : CleanTable t) (result : Nat) :
    NoEmpty (loadDataFile (checkpointText result t) ∅) := by
  intro r c hv
  rw [get_loadDataFile_checkpointText h] at hv
  have hne := (Option.filter_eq_some_iff.mp hv).2
  simp at hne

/-! ### Replaying what was replayed -/

lemma tookEffect_of_resets {ws : List Write} (h : ∀ w ∈ ws, (opOf w).Resets) (t : Table) :
    TookEffect ws t := by
  induction ws generalizing t with
  | nil => trivial
  | cons w ws ih =>
    exact ⟨run_ok_of_resets (h w List.mem_cons_self) t,
      ih (fun x hx => h x (List.mem_cons_of_mem w hx)) _⟩

lemma cellsOf_runAll_congr (ws : List Write) {t t' : Table} (h : cellsOf t = cellsOf t') :
    cellsOf (runAll ws t) = cellsOf (runAll ws t') := by
  rw [cellsOf_runAll, cellsOf_runAll, h]

/-- Writes that took effect may be run a second time. -/
lemma cellsOf_runAll_twice {ws : List Write} {t : Table} (h : TookEffect ws t) :
    cellsOf (runAll ws (runAll ws t)) = cellsOf (runAll ws t) := by
  funext ⟨r, c⟩
  change (runAll ws (runAll ws t)).get r c = (runAll ws t).get r c
  rw [get_runAll, get_runAll]
  exact actAll_actAll (h.succeed (r, c))

lemma runAll_append (us vs : List Write) (t : Table) :
    runAll (us ++ vs) t = runAll vs (runAll us t) := by
  simp [runAll]

/-- A log may be handled from its start again when only its first lines were handled and
took effect. -/
lemma cellsOf_runAll_again {vs : List Write} {t : Table} {k : Nat}
    (h : TookEffect (vs.take k) t) :
    cellsOf (runAll vs (runAll (vs.take k) t)) = cellsOf (runAll vs t) := by
  have hsplit : ∀ u : Table, runAll vs u = runAll (vs.drop k) (runAll (vs.take k) u) := by
    intro u
    rw [← runAll_append, List.take_append_drop]
  rw [hsplit (runAll (vs.take k) t), hsplit t]
  exact cellsOf_runAll_congr _ (cellsOf_runAll_twice h)

/-! ### Files of other servers -/

def fileSuffixes : List Str :=
  [[], ".tmp".toList, "-checkpoint".toList, "-deadServerLog".toList]

/-- `q` is one of the files of the server that keeps its data in `path`. -/
def OwnFile (path q : Str) : Prop := ∃ suffix ∈ fileSuffixes, q = path ++ suffix

lemma ownFile_data (path : Str) : OwnFile path path :=
  ⟨[], by decide, (List.append_nil path).symm⟩

lemma ownFile_tmp (path : Str) : OwnFile path (tmpPath path) :=
  ⟨".tmp".toList, by decide, rfl⟩

lemma ownFile_checkpoint (path : Str) : OwnFile path (checkpointPath path) :=
  ⟨"-checkpoint".toList, by decide, rfl⟩

lemma ownFile_dead (path : Str) : OwnFile path (deadServerLogPath path) :=
  ⟨"-deadServerLog".toList, by decide, rfl⟩

/-- The letters by which the suffixes differ are in no path of a data file. -/
lemma letter_not_mem_storagePath {ch : Char} (h : ch ∈ ['m', 'k', 'L']) (g p : Int) :
    ch ∉ storagePath g p := by
  have hletter : ch.isDigit = false ∧ ch ≠ '-' ∧ ch ∉ "./storage/RP".toList ∧
      ch ∉ "-".toList := by
    simp only [List.mem_cons, List.not_mem_nil, or_false] at h
    rcases h with rfl | rfl | rfl
    · decide
    · decide
    · decide
  have hstr : ∀ n : Int, ch ∉ toStr n := by
    intro n hn
    cases toStr_chars n hn with
    | inl hdigit => simp [hletter.1] at hdigit
    | inr hdash => exact hletter.2.1 hdash
  unfold storagePath
  simp only [List.mem_append, not_or]
  exact ⟨⟨⟨hletter.2.2.1, hstr g⟩, hletter.2.2.2⟩, hstr p⟩

/-- No two servers of a group have a file in common. -/
lemma not_ownFile_of_ne {g p p' : Int} (hne : p' ≠ p) {q : Str}
    (hq : OwnFile (storagePath g p') q) : ¬OwnFile (storagePath g p) q := by
  rintro ⟨suffix, hs, heq⟩
  obtain ⟨suffix', hs', rfl⟩ := hq
  have hletters : ∀ ch ∈ ['m', 'k', 'L'], (ch ∈ suffix' ↔ ch ∈ suffix) := by
    intro ch hch
    have hmem : ch ∈ storagePath g p' ++ suffix' ↔ ch ∈ storagePath g p ++ suffix := by
      rw [heq]
    simpa [letter_not_mem_storagePath hch] using hmem
  have hsame : ∀ s' ∈ fileSuffixes, ∀ s ∈ fileSuffixes, ('m' ∈ s' ↔ 'm' ∈ s) →
      ('k' ∈ s' ↔ 'k' ∈ s) → ('L' ∈ s' ↔ 'L' ∈ s) → s' = s := by
    decide
  obtain rfl := hsame suffix' hs' suffix hs (hletters 'm' (by simp)) (hletters 'k' (by simp))
    (hletters 'L' (by simp))
  exact hne (storagePath_injective (List.append_cancel_right heq))

/-- Only files of one server changed. -/
def OnlyFilesOf (path : Str) (d d' : Disk) : Prop :=
  ∀ q, ¬OwnFile path q → readFile q d' = readFile q d

lemma OnlyFilesOf.refl (path : Str) (d : Disk) : OnlyFilesOf path d d := fun _ _ => rfl

lemma OnlyFilesOf.trans {path : Str} {d d' d'' : Disk} (h : OnlyFilesOf path d d')
    (h' : OnlyFilesOf path d' d'') : OnlyFilesOf path d d'' :=
  fun q hq => (h' q hq).trans (h q hq)

lemma onlyFilesOf_createFile {path : Str} (q : Str) (d : Disk) :
    OnlyFilesOf path d (createFile q d) :=
  fun r _ => readFile_createFile q r d

lemma onlyFilesOf_truncateFile {path q : Str} (hq : OwnFile path q) (d : Disk) :
    OnlyFilesOf path d (truncateFile q d) := by
  intro r hr
  rw [readFile_truncateFile, if_neg]
  rintro rfl
  exact hr hq

lemma onlyFilesOf_appendToFile {path q : Str} (hq : OwnFile path q) (line : Str) (d : Disk) :
    OnlyFilesOf path d (appendToFile q line d) := by
  intro r hr
  rw [readFile_appendToFile, if_neg]
  rintro rfl
  exact hr hq

lemma ne_of_not_ownFile {path q r : Str} (hq : OwnFile path q) (hr : ¬OwnFile path r) : r ≠ q := by
  rintro rfl
  exact hr hq

lemma onlyFilesOf_checkpointNode (path : Str) (result : Nat) (n : Node) :
    OnlyFilesOf path n.disk (checkpointNode path result n).disk := by
  intro q hq
  apply (readFile_checkpointTable path result n.server.table n.disk).2.2 q
  · exact ne_of_not_ownFile (ownFile_data path) hq
  · exact ne_of_not_ownFile (ownFile_tmp path) hq
  · exact ne_of_not_ownFile (ownFile_checkpoint path) hq

lemma onlyFilesOf_checkpointIfFull (path : Str) (result : Nat) (n : Node) :
    OnlyFilesOf path n.disk (checkpointIfFull path result n).disk := by
  unfold checkpointIfFull
  split
  · exact onlyFilesOf_checkpointNode path result n
  · exact OnlyFilesOf.refl path n.disk

lemma onlyFilesOf_checkpointAfter (result : Nat) (n : Node) :
    OnlyFilesOf n.server.diskFilePath n.disk (checkpointAfter result n).disk := by
  unfold checkpointAfter
  split
  · exact onlyFilesOf_checkpointNode _ result n
  · exact OnlyFilesOf.refl _ n.disk

lemma onlyFilesOf_applyWrite (x : Write) (n : Node) :
    OnlyFilesOf n.server.diskFilePath n.disk (applyWrite x n).1.disk :=
  fun _ hq => applyWrite_disk x n (ne_of_not_ownFile (ownFile_checkpoint _) hq)

/-! ### A server's own files -/

/-- A server without its role and its view of the group. -/
def storageOf (s : Server) : Server :=
  { s with
    servers := fun _ => []
    myInfo := defaultInfo
    primaryInfo := defaultInfo
    replicaGroup := 0 }

/-- What reads only the storage is the same for servers with the same storage. -/
lemma storageOf_congr {β : Type*} (f : Server → β) (hf : ∀ s, f (storageOf s) = f s)
    {s t : Server} (h : storageOf s = storageOf t) : f s = f t := by
  rw [← hf s, ← hf t, h]

/-- The files of one server are as they were. -/
structure SameFiles (path : Str) (d d' : Disk) : Prop where
  data : readFile path d' = readFile path d
  log : readFile (checkpointPath path) d' = readFile (checkpointPath path) d
  dead : readFile (deadServerLogPath path) d' = readFile (deadServerLogPath path) d

lemma SameFiles.refl (path : Str) (d : Disk) : SameFiles path d d := ⟨rfl, rfl, rfl⟩

lemma SameFiles.trans {path : Str} {d d' d'' : Disk} (h : SameFiles path d d')
    (h' : SameFiles path d' d'') : SameFiles path d d'' :=
  ⟨h'.data.trans h.data, h'.log.trans h.log, h'.dead.trans h.dead⟩

lemma sameFiles_createFile (path q : Str) (d : Disk) : SameFiles path d (createFile q d) :=
  ⟨readFile_createFile q _ d, readFile_createFile q _ d, readFile_createFile q _ d⟩

/-- What changes files of one server leaves those of the others in its group. -/
lemma OnlyFilesOf.sameFiles {g p p' : Int} {d d' : Disk}
    (h : OnlyFilesOf (storagePath g p) d d') (hne : p' ≠ p) :
    SameFiles (storagePath g p') d d' where
  data := h _ (not_ownFile_of_ne hne (ownFile_data _))
  log := h _ (not_ownFile_of_ne hne (ownFile_checkpoint _))
  dead := h _ (not_ownFile_of_ne hne (ownFile_dead _))

/-- The files hold the table, without empty values and with a log whose writes took effect. -/
structure Recoverable (n : Node) (ws : List Write) : Prop extends Logged n ws where
  took : TookEffect ws (loadDataFile (readFile n.server.diskFilePath n.disk) ∅)
  noEmpty : NoEmpty (loadDataFile (readFile n.server.diskFilePath n.disk) ∅)

section Recoverable

variable {n : Node} {ws : List Write} (h : Recoverable n ws)

include h in
/-- A table without empty cells is what its files restore. -/
lemma Recoverable.cells (ht : NoEmpty n.server.table) :
    cellsOf (runAll ws (loadDataFile (readFile n.server.diskFilePath n.disk) ∅)) =
      cellsOf n.server.table :=
  cells_of_values (h.noEmpty.runAll h.log.plain h.took) ht h.values

include h in
lemma Recoverable.congr {n' : Node} (hs : storageOf n'.server = storageOf n.server)
    (hf : SameFiles n.server.diskFilePath n.disk n'.disk) : Recoverable n' ws := by
  have htable : n'.server.table = n.server.table :=
    storageOf_congr Server.table (fun _ => rfl) hs
  have hready : n'.server.currentlyInitializing = n.server.currentlyInitializing :=
    storageOf_congr Server.currentlyInitializing (fun _ => rfl) hs
  have hreading := storageOf_congr Server.currentlyReadingFromCheckpointFile (fun _ => rfl) hs
  have hwrites : n'.writes = n.writes :=
    storageOf_congr Server.currentNumberOfWritesForReplicaAndServer (fun _ => rfl) hs
  have hpath : n'.server.diskFilePath = n.server.diskFilePath :=
    storageOf_congr Server.diskFilePath (fun _ => rfl) hs
  constructor
  · constructor
    · exact hready.trans h.ready
    · exact hreading.trans h.notReading
    · rw [hpath]
      exact ⟨hf.log.trans h.log.log, h.log.plain, hf.dead.trans h.log.dead⟩
    · exact hwrites.trans h.writes
    · rw [htable]
      exact h.clean
    · rw [hpath, hf.data, htable]
      exact h.values
  · rw [hpath, hf.data]
    exact h.took
  · rw [hpath, hf.data]
    exact h.noEmpty

include h in
theorem Recoverable.applyWrite {x : Write} (hx : Plain x) :
    Recoverable (applyWrite x n).1 (if (x.run n.server.table).2 then ws ++ [x] else ws) := by
  have hlogged := h.toLogged.applyWrite hx
  have hpath := settings_diskFilePath (applyWrite_settings x n)
  have hdata : readFile n.server.diskFilePath (CloudStorage.applyWrite x n).1.disk =
      readFile n.server.diskFilePath n.disk :=
    applyWrite_disk x n (checkpointPath_ne n.server.diskFilePath)
  refine ⟨hlogged, ?_, ?_⟩
  · rw [hpath, hdata]
    split
    · next hok =>
      apply h.took.append
      rw [run_ok_of_values h.values]
      exact hok
    · exact h.took
  · rw [hpath, hdata]
    exact h.noEmpty

include h in
lemma Recoverable.checkpointNode (result : Nat) :
    Recoverable (checkpointNode n.server.diskFilePath result n) [] := by
  have hdata := (readFile_checkpointTable n.server.diskFilePath result n.server.table n.disk).1
  refine ⟨h.toLogged.checkpointNode result, trivial, ?_⟩
  change NoEmpty (loadDataFile (readFile n.server.diskFilePath
    (checkpointTable n.server.diskFilePath result n.server.table n.disk)) ∅)
  rw [hdata]
  exact noEmpty_snapshot h.clean result

include h in
theorem Recoverable.checkpointAfter (hle : ws.length ≤ CHECKPOINTING_THRESHOLD) (result : Nat) :
    ∃ ws', Recoverable (checkpointAfter result n) ws' ∧ ws'.length < CHECKPOINTING_THRESHOLD := by
  have hwrites := h.writes
  unfold CloudStorage.checkpointAfter
  split
  · exact ⟨[], h.checkpointNode result, by decide⟩
  · next hne => exact ⟨ws, h, by omega⟩

include h in
theorem Recoverable.checkpointIfFull (result : Nat) :
    ∃ ws', Recoverable (checkpointIfFull n.server.diskFilePath result n) ws' ∧
      ws'.length < CHECKPOINTING_THRESHOLD := by
  have hwrites := h.writes
  unfold CloudStorage.checkpointIfFull
  split
  · exact ⟨[], h.checkpointNode result, by decide⟩
  · next hfew => exact ⟨ws, h, by omega⟩

end Recoverable

/-! ### What a secondary will hold -/

/-- The dead-server log holds the writes `vs`. -/
structure DeadLogHolds (path : Str) (d : Disk) (vs : List Write) : Prop where
  log : readFile (deadServerLogPath path) d = terminated '\n' (vs.map Write.line)
  plain : ∀ v ∈ vs, Plain v

lemma DeadLogHolds.lines {path : Str} {d : Disk} {vs : List Write} (h : DeadLogHolds path d vs) :
    getlines '\n' (readFile (deadServerLogPath path) d) = vs.map Write.line := by
  rw [h.log, getlines_terminated]
  intro x hx
  obtain ⟨v, hv, rfl⟩ := List.mem_map.mp hx
  exact line_no_newline (h.plain v hv)

lemma DeadLogHolds.append {path : Str} {d : Disk} {vs : List Write} (h : DeadLogHolds path d vs)
    {x : Write} (hx : Plain x) :
    DeadLogHolds path (appendToFile (deadServerLogPath path) x.line d) (vs ++ [x]) := by
  constructor
  · rw [readFile_appendToFile, if_pos rfl, h.log, List.map_append, terminated_append]
    simp [terminated]
  · intro v hv
    cases List.mem_append.mp hv with
    | inl hv => exact h.plain v hv
    | inr hv => exact List.mem_singleton.mp hv ▸ hx

/-- The files of a process that is down lead to the cells `m`. -/
structure Restores (path : Str) (d : Disk) (ws vs : List Write)
    (m : Str × Str → Option Str) : Prop where
  own : LogHolds path (truncateFile (deadServerLogPath path) d) ws
  took : TookEffect ws (loadDataFile (readFile path d) ∅)
  noEmpty : NoEmpty (loadDataFile (readFile path d) ∅)
  dead : DeadLogHolds path d vs
  cells : cellsOf (runAll vs (runAll ws (loadDataFile (readFile path d) ∅))) = m

/-- The node that a process becomes which stops reading its dead-server log. -/
def asRunning (path : Str) (s : Server) (d : Disk) : Node where
  server := { s with currentlyInitializing := false }
  disk := truncateFile (deadServerLogPath path) d

/-- A process that started with the table `base` and has handled `k` lines of its dead-server
log. -/
structure CatchesUp (path : Str) (s : Server) (d : Disk) (base : Table) (ws vs : List Write)
    (k : Nat) : Prop where
  initializing : s.currentlyInitializing = true
  diskFilePath : s.diskFilePath = path
  enabled : s.enabled = true
  own : Recoverable (asRunning path s d) ws
  dead : DeadLogHolds path d vs
  noEmpty : NoEmpty base
  table : cellsOf s.table = cellsOf (runAll (vs.take k) base)

structure Runs (path : Str) (m : Str × Str → Option Str) (s : Server) (d : Disk) : Prop where
  diskFilePath : s.diskFilePath = path
  enabled : s.enabled = true
  recoverable : ∃ ws, Recoverable ⟨s, d⟩ ws ∧ ws.length < CHECKPOINTING_THRESHOLD
  cells : cellsOf s.table = m

/-- The secondary with its files in `path` has the cells `m`, or will have them once it runs. -/
def Synced (path : Str) (m : Str × Str → Option Str) (s : Server) (d : Disk) : Life → Prop
  | .down => ∃ ws vs, Restores path d ws vs m
  | .recovering s k => ∃ base ws vs, CatchesUp path s d base ws vs k ∧ k ≤ vs.length ∧
      cellsOf (runAll vs base) = m
  | .recovered s => ∃ base ws vs, CatchesUp path s d base ws vs vs.length ∧
      cellsOf (runAll vs base) = m
  | .up => Runs path m s d

lemma SameFiles.truncate {path : Str} {d d' : Disk} (h : SameFiles path d d') :
    SameFiles path (truncateFile (deadServerLogPath path) d)
      (truncateFile (deadServerLogPath path) d') := by
  constructor
  · rw [readFile_truncateFile, readFile_truncateFile, h.data]
  · rw [readFile_truncateFile, readFile_truncateFile, h.log]
  · rw [readFile_truncateFile, readFile_truncateFile, if_pos rfl, if_pos rfl]

lemma DeadLogHolds.congr {path : Str} {d d' : Disk} {vs : List Write}
    (h : DeadLogHolds path d vs) (hf : SameFiles path d d') : DeadLogHolds path d' vs :=
  ⟨hf.dead.trans h.log, h.plain⟩

section Synced

variable {path : Str} {m : Str × Str → Option Str} {s : Server} {d : Disk}

lemma CatchesUp.congr {d' : Disk} {base : Table} {ws vs : List Write} {k : Nat}
    (h : CatchesUp path s d base ws vs k) (hf : SameFiles path d d') :
    CatchesUp path s d' base ws vs k := by
  have hpath : (asRunning path s d).server.diskFilePath = path := h.diskFilePath
  refine ⟨h.initializing, h.diskFilePath, h.enabled, ?_, h.dead.congr hf, h.noEmpty, h.table⟩
  refine h.own.congr rfl ?_
  rw [hpath]
  exact hf.truncate

/-- Neither the other servers' files nor the roles matter. -/
theorem Synced.congr {s' : Server} {d' : Disk} {life : Life} (h : Synced path m s d life)
    (hs : storageOf s' = storageOf s) (hf : SameFiles path d d') : Synced path m s' d' life := by
  cases life with
  | down =>
    obtain ⟨ws, vs, hr⟩ := h
    have htrunc := hf.truncate
    refine ⟨ws, vs, ⟨?_, ?_, ?_, hr.dead.congr hf, ?_⟩⟩
    · exact ⟨htrunc.log.trans hr.own.log, hr.own.plain, htrunc.dead.trans hr.own.dead⟩
    · rw [hf.data]
      exact hr.took
    · rw [hf.data]
      exact hr.noEmpty
    · rw [hf.data]
      exact hr.cells
  | recovering u k =>
    obtain ⟨base, ws, vs, hc, hk, hm⟩ := h
    exact ⟨base, ws, vs, hc.congr hf, hk, hm⟩
  | recovered u =>
    obtain ⟨base, ws, vs, hc, hm⟩ := h
    exact ⟨base, ws, vs, hc.congr hf, hm⟩
  | up =>
    obtain ⟨hpath, henabled, ⟨ws, hr, hfew⟩, hcells⟩ := h
    have hpath' : s'.diskFilePath = s.diskFilePath :=
      storageOf_congr Server.diskFilePath (fun _ => rfl) hs
    have henabled' : s'.enabled = s.enabled := storageOf_congr Server.enabled (fun _ => rfl) hs
    have htable : s'.table = s.table := storageOf_congr Server.table (fun _ => rfl) hs
    refine ⟨hpath'.trans hpath, henabled'.trans henabled, ⟨ws, ?_, hfew⟩, ?_⟩
    · apply hr.congr hs
      change SameFiles s.diskFilePath d d'
      rw [hpath]
      exact hf
    · rw [htable]
      exact hcells

/-! ### Writes -/

/-- The cells after a write. -/
def written (x : Write) (m : Str × Str → Option Str) : Str × Str → Option Str :=
  (opOf x).effect [] m

lemma cellsOf_run_eq (x : Write) {t : Table} (h : cellsOf t = m) :
    cellsOf (x.run t).1 = written x m := by
  rw [cellsOf_run, h]
  rfl

/-- A process that will still read its dead-server log. -/
def ReadsDeadLog : Life → Prop
  | .down | .recovering _ _ => True
  | .recovered _ | .up => False

instance : DecidablePred ReadsDeadLog := fun life =>
  match life with
  | .down | .recovering _ _ => isTrue trivial
  | .recovered _ | .up => isFalse not_false

/-- The dead-server log that a process will read takes a write. -/
theorem Synced.logged {life : Life} (h : Synced path m s d life) (hlife : ReadsDeadLog life)
    {x : Write} (hx : Plain x) :
    Synced path (written x m) s (appendToFile (deadServerLogPath path) x.line d) life := by
  have hdata : ∀ q, q ≠ deadServerLogPath path →
      readFile q (appendToFile (deadServerLogPath path) x.line d) = readFile q d := by
    intro q hq
    rw [readFile_appendToFile, if_neg hq]
  have hne := deadServerLogPath_ne path
  have hck := Ne.symm (deadServerLogPath_ne_checkpointPath path)
  have htrunc : SameFiles path (truncateFile (deadServerLogPath path) d)
      (truncateFile (deadServerLogPath path)
        (appendToFile (deadServerLogPath path) x.line d)) := by
    constructor
    · rw [readFile_truncateFile, readFile_truncateFile, hdata path hne]
    · rw [readFile_truncateFile, readFile_truncateFile, hdata _ hck]
    · rw [readFile_truncateFile, readFile_truncateFile, if_pos rfl, if_pos rfl]
  cases life with
  | down =>
    obtain ⟨ws, vs, hr⟩ := h
    refine ⟨ws, vs ++ [x], ⟨?_, ?_, ?_, hr.dead.append hx, ?_⟩⟩
    · exact ⟨htrunc.log.trans hr.own.log, hr.own.plain, htrunc.dead.trans hr.own.dead⟩
    · rw [hdata path hne]
      exact hr.took
    · rw [hdata path hne]
      exact hr.noEmpty
    · rw [hdata path hne, runAll_append_singleton]
      exact cellsOf_run_eq x hr.cells
  | recovering u k =>
    obtain ⟨base, ws, vs, hc, hk, hm⟩ := h
    have hpath : (asRunning path u d).server.diskFilePath = path := hc.diskFilePath
    refine ⟨base, ws, vs ++ [x], ⟨hc.initializing, hc.diskFilePath, hc.enabled, ?_,
      hc.dead.append hx, hc.noEmpty, ?_⟩, ?_, ?_⟩
    · refine hc.own.congr rfl ?_
      rw [hpath]
      exact htrunc
    · rw [List.take_append_of_le_length hk]
      exact hc.table
    · rw [List.length_append]
      omega
    · rw [runAll_append_singleton]
      exact cellsOf_run_eq x hm
  | recovered u => exact hlife.elim
  | up => exact hlife.elim

/-- A running secondary carries a write out. -/
theorem Runs.applied (h : Runs path m s d) {x : Write} (hx : Plain x) (time : Nat) :
    let n := checkpointAfter time (applyWrite x ⟨s, d⟩).1
    Runs path (written x m) n.server n.disk := by
  obtain ⟨hpath, henabled, ⟨ws, hr, hfew⟩, hcells⟩ := h
  have hlen := length_logAfter x s.table ws
  have hle := Nat.le_trans hlen hfew
  obtain ⟨ws', hr', hfew'⟩ := (hr.applyWrite hx).checkpointAfter hle time
  have hset : settings (checkpointAfter time (applyWrite x ⟨s, d⟩).1).server = settings s :=
    (checkpointAfter_settings time _).trans (applyWrite_settings x ⟨s, d⟩)
  refine ⟨(settings_diskFilePath hset).trans hpath, (settings_enabled hset).trans henabled,
    ⟨ws', hr', hfew'⟩, ?_⟩
  rw [checkpointAfter_table, applyWrite_setTable]
  exact cellsOf_run_eq x hcells

end Synced

end CloudStorage.Proofs
