import CloudStorage.Proofs.DeadLog

/-!
# From the files to a running process

A secondary that dies leaves its files behind, and the steps of a start lead from them to a
process that runs. None of these steps changes the cells it has or will have, as long as no
conditional write of the dead-server log is handled a second time.
-/

namespace CloudStorage.Proofs
open DelimitedText Registers

/-- The lines of the dead-server log that a process has handled and not yet truncated. -/
def handledLines (d : Disk) : Life → List Str
  | .recovering s k => (getlines '\n' (readFile (deadServerLogPath s.diskFilePath) d)).take k
  | .recovered s => getlines '\n' (readFile (deadServerLogPath s.diskFilePath) d)
  | .down | .up => []

/-- None of these lines is a conditional write, so they may be handled again. -/
def MayDie (d : Disk) (life : Life) : Prop :=
  ∀ line ∈ handledLines d life, (splitKVStoreCommand line).head? ≠ some "CPUT ".toList

lemma resets_of_line {v : Write} (hv : Plain v)
    (h : (splitKVStoreCommand v.line).head? ≠ some "CPUT ".toList) : (opOf v).Resets := by
  rw [splitKVStoreCommand_line hv, List.head?_cons] at h
  cases v with
  | put row col value => trivial
  | cput row col cur new => exact absurd rfl h
  | delete row col => trivial

section Death

variable {path : Str} {m : Str × Str → Option Str} {s : Server} {d : Disk}

/-- A process that dies while it reads its dead-server log. -/
lemma CatchesUp.die {base : Table} {ws vs : List Write} {k : Nat}
    (h : CatchesUp path s d base ws vs k) (hr : ∀ v ∈ vs.take k, (opOf v).Resets) :
    Restores path d ws vs (cellsOf (runAll vs base)) := by
  have hpath : (asRunning path s d).server.diskFilePath = path := h.diskFilePath
  have hdata : readFile path (asRunning path s d).disk = readFile path d := by
    change readFile path (truncateFile (deadServerLogPath path) d) = readFile path d
    rw [readFile_truncateFile, if_neg (deadServerLogPath_ne path)]
  have took := tookEffect_of_resets hr base
  have hempty : NoEmpty s.table := by
    refine (h.noEmpty.runAll ?_ took).of_cells h.table
    exact fun v hv => h.dead.plain v (List.mem_of_mem_take hv)
  have hcells := h.own.cells hempty
  have htook := h.own.took
  have hno := h.own.noEmpty
  have hlog := h.own.log
  rw [hpath, hdata] at hcells htook hno
  rw [hpath] at hlog
  refine ⟨hlog, htook, hno, h.dead, ?_⟩
  calc cellsOf (runAll vs (runAll ws (loadDataFile (readFile path d) ∅)))
      = cellsOf (runAll vs s.table) := cellsOf_runAll_congr vs hcells
    _ = cellsOf (runAll vs (runAll (vs.take k) base)) := cellsOf_runAll_congr vs h.table
    _ = cellsOf (runAll vs base) := cellsOf_runAll_again took

lemma Runs.die (h : Runs path m s d) (hempty : NoEmpty s.table) :
    ∃ ws, Restores path d ws [] m := by
  obtain ⟨rfl, -, ⟨ws, hr, -⟩, hcells⟩ := h
  have hck := Ne.symm (deadServerLogPath_ne_checkpointPath s.diskFilePath)
  refine ⟨ws, ⟨?_, hr.log.plain, ?_⟩, hr.took, hr.noEmpty, ⟨hr.log.dead, by simp⟩, ?_⟩
  · rw [readFile_truncateFile, if_neg hck]
    exact hr.log.log
  · rw [readFile_truncateFile, if_pos rfl]
  · exact (hr.cells hempty).trans hcells

/-- The death of a secondary changes nothing that its files will not restore. -/
theorem Synced.die {life : Life} (h : Synced path m s d life) {t : Table} (ht : cellsOf t = m)
    (hempty : NoEmpty t) (hlife : MayDie d life) (s' : Server) : Synced path m s' d .down := by
  cases life with
  | down => exact h
  | recovering u k =>
    obtain ⟨base, ws, vs, hc, hk, hm⟩ := h
    refine ⟨ws, vs, hm ▸ hc.die ?_⟩
    intro v hv
    apply resets_of_line (hc.dead.plain v (List.mem_of_mem_take hv))
    apply hlife
    change v.line ∈ (getlines '\n' (readFile (deadServerLogPath u.diskFilePath) d)).take k
    rw [hc.diskFilePath, hc.dead.lines, ← List.map_take]
    exact List.mem_map_of_mem hv
  | recovered u =>
    obtain ⟨base, ws, vs, hc, hm⟩ := h
    refine ⟨ws, vs, hm ▸ hc.die ?_⟩
    intro v hv
    have hv := List.mem_of_mem_take hv
    apply resets_of_line (hc.dead.plain v hv)
    apply hlife
    change v.line ∈ getlines '\n' (readFile (deadServerLogPath u.diskFilePath) d)
    rw [hc.diskFilePath, hc.dead.lines]
    exact List.mem_map_of_mem hv
  | up =>
    have hs : NoEmpty s.table := hempty.of_cells (h.cells.trans ht.symm)
    obtain ⟨ws, hr⟩ := Runs.die h hs
    exact ⟨ws, [], hr⟩

end Death

section Start

variable {path : Str} {s : Server} {d : Disk} {ws : List Write}

/-- A checkpoint made while a process initializes is the one it would make running. -/
lemma Recoverable.initializing {s : Server} {d : Disk} (result : Nat)
    (h : Recoverable (CloudStorage.checkpointIfFull path result (asRunning path s d)) ws)
    (hpath : s.diskFilePath = path) :
    let n := CloudStorage.checkpointIfFull path result ⟨s, d⟩
    Recoverable (asRunning path n.server n.disk) ws := by
  have hdata := deadServerLogPath_ne path
  have hck := Ne.symm (deadServerLogPath_ne_checkpointPath path)
  unfold CloudStorage.checkpointIfFull at h ⊢
  have hwrites : (asRunning path s d).writes = (⟨s, d⟩ : Node).writes := rfl
  rw [hwrites] at h
  split
  · next hfull =>
    rw [if_pos hfull] at h
    refine h.congr rfl ?_
    have hpath' :
        (CloudStorage.checkpointNode path result (asRunning path s d)).server.diskFilePath = path :=
      hpath
    obtain ⟨hdata₁, hlog₁, -⟩ := readFile_checkpointTable path result s.table d
    obtain ⟨hdata₂, hlog₂, hother⟩ := readFile_checkpointTable path result s.table
      (truncateFile (deadServerLogPath path) d)
    have hdead := hother _ (Ne.symm hdata) (deadServerLogPath_ne_tmpPath path)
      (deadServerLogPath_ne_checkpointPath path)
    rw [hpath']
    constructor
    · change readFile path (truncateFile _ (checkpointTable path result s.table d)) =
        readFile path (checkpointTable path result s.table (truncateFile _ d))
      rw [readFile_truncateFile, if_neg hdata, hdata₁, hdata₂]
    · change readFile _ (truncateFile _ (checkpointTable path result s.table d)) =
        readFile _ (checkpointTable path result s.table (truncateFile _ d))
      rw [readFile_truncateFile, if_neg hck, hlog₁, hlog₂]
    · change readFile _ (truncateFile _ (checkpointTable path result s.table d)) =
        readFile _ (checkpointTable path result s.table (truncateFile _ d))
      rw [readFile_truncateFile, if_pos rfl, hdead, readFile_truncateFile, if_pos rfl]
  · next hfew =>
    rw [if_neg hfew] at h
    exact h

/-- The node whose files were read is one that could run. -/
lemma recoverable_replayed {m : Str × Str → Option Str} {vs : List Write}
    (h : Restores path d ws vs m) {n : Node} (hn : n.disk = d) (hs : Starting n)
    (htable : n.server.table = ∅) (hwrites : n.writes = 0) (hpath : n.server.diskFilePath = path) :
    Recoverable (asRunning path (replayed path ws n).server (replayed path ws n).disk) ws := by
  subst hn
  have hdata : readFile path (asRunning path (replayed path ws n).server
      (replayed path ws n).disk).disk = readFile path n.disk := by
    change readFile path (truncateFile _ (createFile _ (createFile _ n.disk))) = _
    rw [readFile_truncateFile, if_neg (deadServerLogPath_ne path), readFile_createFile,
      readFile_createFile]
  have hck : readFile (checkpointPath path) (asRunning path (replayed path ws n).server
      (replayed path ws n).disk).disk = readFile (checkpointPath path) n.disk := by
    change readFile _ (truncateFile _ (createFile _ (createFile _ n.disk))) = _
    rw [readFile_truncateFile, if_neg (Ne.symm (deadServerLogPath_ne_checkpointPath path)),
      readFile_createFile, readFile_createFile]
  have hlog := h.own.log
  rw [readFile_truncateFile, if_neg (Ne.symm (deadServerLogPath_ne_checkpointPath path))] at hlog
  have hrun : (asRunning path (replayed path ws n).server (replayed path ws n).disk).server.table =
      runAll ws (loadDataFile (readFile path n.disk) ∅) := by
    rw [← htable]
    rfl
  have hpath' : (asRunning path (replayed path ws n).server
      (replayed path ws n).disk).server.diskFilePath = path := hpath
  constructor
  · constructor
    · rfl
    · exact hs.notReading
    · rw [hpath']
      refine ⟨hck.trans hlog, h.own.plain, ?_⟩
      change readFile _ (truncateFile _ _) = _
      rw [readFile_truncateFile, if_pos rfl]
    · change n.writes + ws.length = ws.length
      omega
    · rw [hrun]
      exact (cleanTable_loadDataFile _).runAll h.own.plain
    · rw [hpath', hdata, hrun]
  · rw [hpath', hdata]
    exact h.took
  · rw [hpath', hdata]
    exact h.noEmpty

/-- The first steps of a start. -/
theorem Restores.start {g : Int} {info : ServerInfo} {m : Str × Str → Option Str}
    {vs : List Write} (h : Restores (storagePath g info.tcpPort) d ws vs m) (result : Nat) :
    ∃ n base ws', beginRecovery (storagePath g info.tcpPort) result ⟨startServer g info, d⟩ =
        some n ∧
      CatchesUp (storagePath g info.tcpPort) n.server n.disk base ws' vs 0 ∧
      cellsOf (runAll vs base) = m ∧ OnlyFilesOf (storagePath g info.tcpPort) d n.disk := by
  let path := storagePath g info.tcpPort
  let n₀ : Node := ⟨startServer g info, d⟩
  let n := checkpointIfFull path result (replayed path ws n₀)
  have hlines : getlines '\n' (readFile (checkpointPath path) n₀.disk) = ws.map Write.line := by
    have hl := h.own.lines
    rwa [readFile_truncateFile, if_neg (Ne.symm (deadServerLogPath_ne_checkpointPath _))] at hl
  have hload : loadAndReplay path n₀ = some (replayed path ws n₀) :=
    loadAndReplay_of_log ⟨rfl, rfl⟩ h.own.plain hlines
  have hrec : Recoverable (asRunning path (replayed path ws n₀).server
      (replayed path ws n₀).disk) ws :=
    recoverable_replayed h rfl ⟨rfl, rfl⟩ rfl rfl rfl
  obtain ⟨ws', hr, -⟩ := hrec.checkpointIfFull result
  have hr' : Recoverable (asRunning path n.server n.disk) ws' :=
    Recoverable.initializing result hr rfl
  have htable : n.server.table = runAll ws (loadDataFile (readFile path d) ∅) := by
    simp only [n]
    unfold checkpointIfFull
    split
    · rfl
    · rfl
  have hset : settings n.server = settings (startServer g info) := by
    simp only [n]
    unfold checkpointIfFull
    split
    · rfl
    · rfl
  have hfiles : OnlyFilesOf path d n.disk := by
    have hcreated : OnlyFilesOf path d (replayed path ws n₀).disk :=
      (onlyFilesOf_createFile path d).trans (onlyFilesOf_createFile _ _)
    exact hcreated.trans (onlyFilesOf_checkpointIfFull path result _)
  have hdead : readFile (deadServerLogPath path) n.disk = readFile (deadServerLogPath path) d := by
    have hsame : readFile (deadServerLogPath path) (replayed path ws n₀).disk =
        readFile (deadServerLogPath path) d := by
      change readFile _ (createFile _ (createFile _ d)) = _
      rw [readFile_createFile, readFile_createFile]
    have hother := (readFile_checkpointTable path result (replayed path ws n₀).server.table
      (replayed path ws n₀).disk).2.2 _ (Ne.symm (deadServerLogPath_ne path))
      (deadServerLogPath_ne_tmpPath path) (deadServerLogPath_ne_checkpointPath path)
    rw [← hsame]
    simp only [n]
    unfold checkpointIfFull
    split
    · exact hother
    · rfl
  refine ⟨{ n with disk := createFile (deadServerLogPath path) n.disk }, n.server.table, ws', ?_,
    ⟨?_, ?_, ?_, ?_, ?_, ?_, rfl⟩, ?_, ?_⟩
  · unfold beginRecovery
    rw [show loadAndReplay (storagePath g info.tcpPort) ⟨startServer g info, d⟩ = _ from hload]
    rfl
  · exact settings_initializing hset
  · exact settings_diskFilePath hset
  · exact settings_enabled hset
  · refine hr'.congr rfl ?_
    have hpath : (asRunning path n.server n.disk).server.diskFilePath = path :=
      settings_diskFilePath hset
    rw [hpath]
    exact (sameFiles_createFile path _ n.disk).truncate
  · exact ⟨by rw [readFile_createFile, hdead]; exact h.dead.log, h.dead.plain⟩
  · rw [htable]
    exact h.noEmpty.runAll h.own.plain h.took
  · rw [htable]
    exact h.cells
  · exact hfiles.trans (onlyFilesOf_createFile _ _)

/-- Truncating the dead-server log does not interfere with the other log. -/
lemma sameFiles_append_truncate (path line : Str) (d : Disk) : SameFiles path
    (appendToFile (checkpointPath path) line (truncateFile (deadServerLogPath path) d))
    (truncateFile (deadServerLogPath path) (appendToFile (checkpointPath path) line d)) := by
  have hdata := deadServerLogPath_ne path
  have hck := deadServerLogPath_ne_checkpointPath path
  have hckp := checkpointPath_ne path
  constructor
  · rw [readFile_truncateFile, if_neg hdata, readFile_appendToFile, if_neg hckp,
      readFile_appendToFile, if_neg hckp, readFile_truncateFile, if_neg hdata]
  · rw [readFile_truncateFile, if_neg (Ne.symm hck), readFile_appendToFile, if_pos rfl,
      readFile_appendToFile, if_pos rfl, readFile_truncateFile, if_neg (Ne.symm hck)]
  · rw [readFile_truncateFile, if_pos rfl, readFile_appendToFile, if_neg hck,
      readFile_truncateFile, if_pos rfl]

/-- A line handled while initializing is recorded as on a running server. -/
lemma Recoverable.replayed_line (h : Recoverable (asRunning path s d) ws) {v : Write}
    (hv : Plain v) (hpath : s.diskFilePath = path) :
    let n := (CloudStorage.applyWrite v ⟨s, d⟩).1
    Recoverable (asRunning path n.server n.disk) (if (v.run s.table).2 then ws ++ [v] else ws) := by
  have hreading : (⟨s, d⟩ : Node).server.currentlyReadingFromCheckpointFile = false := h.notReading
  have hrun := h.applyWrite hv
  have htable : (asRunning path s d).server.table = s.table := rfl
  rw [htable] at hrun
  cases hok : (v.run s.table).2 with
  | false =>
    rw [hok] at hrun
    rw [applyWrite_of_failed (n := asRunning path s d) hok] at hrun
    rw [applyWrite_of_failed (n := ⟨s, d⟩) hok]
    exact hrun
  | true =>
    rw [hok] at hrun
    rw [applyWrite_of_ok (n := asRunning path s d) hok h.notReading] at hrun
    rw [applyWrite_of_ok (n := ⟨s, d⟩) hok hreading]
    refine hrun.congr rfl ?_
    subst hpath
    exact sameFiles_append_truncate s.diskFilePath v.line d

/-- The next line of the dead-server log. -/
theorem CatchesUp.next {base : Table} {vs : List Write} {k : Nat} {v : Write}
    (h : CatchesUp path s d base ws vs k) (hv : vs[k]? = some v) :
    ∃ n ws', replayLine ⟨s, d⟩ v.line = some n ∧
      CatchesUp path n.server n.disk base ws' vs (k + 1) ∧ OnlyFilesOf path d n.disk := by
  have hplain := h.dead.plain v (List.mem_of_getElem? hv)
  have hset := applyWrite_settings v ⟨s, d⟩
  have hpath : (⟨s, d⟩ : Node).server.diskFilePath = path := h.diskFilePath
  have hfiles := onlyFilesOf_applyWrite v ⟨s, d⟩
  rw [hpath] at hfiles
  have hdead : readFile (deadServerLogPath path) (applyWrite v ⟨s, d⟩).1.disk =
      readFile (deadServerLogPath path) d := by
    apply applyWrite_disk v ⟨s, d⟩
    rw [hpath]
    exact deadServerLogPath_ne_checkpointPath path
  have hown := h.own.replayed_line hplain hpath
  refine ⟨(applyWrite v ⟨s, d⟩).1, _, replayLine_plain hplain h.initializing,
    ⟨(settings_initializing hset).trans h.initializing, (settings_diskFilePath hset).trans hpath,
      (settings_enabled hset).trans h.enabled, hown, ⟨hdead.trans h.dead.log, h.dead.plain⟩,
      h.noEmpty, ?_⟩, hfiles⟩
  rw [applyWrite_setTable, List.take_add_one, hv, Option.toList_some, runAll_append_singleton]
  exact cellsOf_run_congr h.table

/-- The last step of a start. -/
theorem CatchesUp.finish {base : Table} {vs : List Write}
    (h : CatchesUp path s d base ws vs vs.length) (servers : Int → List ServerInfo)
    (result : Nat) :
    let n := endRecovery path servers result ⟨s, d⟩
    Runs path (cellsOf (runAll vs base)) n.server n.disk ∧ OnlyFilesOf path d n.disk := by
  have hpath : (asRunning path s d).server.diskFilePath = path := h.diskFilePath
  obtain ⟨ws', hr, hfew⟩ := h.own.checkpointIfFull result
  rw [hpath] at hr
  have hcells : cellsOf s.table = cellsOf (runAll vs base) := by
    rw [h.table, List.take_length]
  have hstorage : storageOf (endRecovery path servers result ⟨s, d⟩).server =
        storageOf (checkpointIfFull path result (asRunning path s d)).server ∧
      (endRecovery path servers result ⟨s, d⟩).disk =
        (checkpointIfFull path result (asRunning path s d)).disk ∧
      (endRecovery path servers result ⟨s, d⟩).server.table = s.table ∧
      (endRecovery path servers result ⟨s, d⟩).server.diskFilePath = s.diskFilePath ∧
      (endRecovery path servers result ⟨s, d⟩).server.enabled = s.enabled := by
    unfold endRecovery checkpointIfFull
    have hwrites : (asRunning path s d).writes =
        ({ (⟨s, d⟩ : Node) with disk := truncateFile (deadServerLogPath path) d } : Node).writes :=
      rfl
    rw [hwrites]
    by_cases hfull : CHECKPOINTING_THRESHOLD ≤
        ({ (⟨s, d⟩ : Node) with disk := truncateFile (deadServerLogPath path) d } : Node).writes
    · simp only [if_pos hfull]
      exact ⟨rfl, rfl, rfl, rfl, rfl⟩
    · simp only [if_neg hfull]
      exact ⟨rfl, rfl, trivial, trivial, trivial⟩
  obtain ⟨hserver, hdisk, htable, hfile, henabled⟩ := hstorage
  refine ⟨⟨hfile.trans h.diskFilePath, henabled.trans h.enabled, ⟨ws', ?_, hfew⟩,
    (congrArg cellsOf htable).trans hcells⟩, ?_⟩
  · refine hr.congr hserver ?_
    rw [hdisk]
    exact SameFiles.refl _ _
  · rw [hdisk]
    have htrunc : OnlyFilesOf path d (asRunning path s d).disk :=
      onlyFilesOf_truncateFile (ownFile_dead path) d
    exact htrunc.trans (onlyFilesOf_checkpointIfFull path result _)

end Start

end CloudStorage.Proofs
