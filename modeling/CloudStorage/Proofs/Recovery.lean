import CloudStorage.Proofs.Files

/-!
# Starting from the files a server left behind

`initializeFrom` loads the data file, replays the log and, when the log is full, folds it
into the data file. This file describes its result and proves where a checkpoint may be
cut off without losing cells.
-/

namespace CloudStorage.Proofs
open DelimitedText Registers

/-- The files of a server whose log holds the writes `ws` and whose dead-server log was
taken in. -/
structure LogHolds (path : Str) (d : Disk) (ws : List Write) : Prop where
  log : readFile (checkpointPath path) d = terminated '\n' (ws.map Write.line)
  plain : ∀ w ∈ ws, Plain w
  dead : readFile (deadServerLogPath path) d = []

lemma LogHolds.lines {path : Str} {d : Disk} {ws : List Write} (h : LogHolds path d ws) :
    getlines '\n' (readFile (checkpointPath path) d) = ws.map Write.line := by
  rw [h.log, getlines_terminated]
  intro x hx
  obtain ⟨w, hw, rfl⟩ := List.mem_map.mp hx
  exact line_no_newline (h.plain w hw)

/-- One more write in the log. -/
lemma LogHolds.append {path : Str} {d : Disk} {ws : List Write} (h : LogHolds path d ws)
    {x : Write} (hx : Plain x) :
    LogHolds path (appendToFile (checkpointPath path) x.line d) (ws ++ [x]) := by
  refine ⟨?_, ?_, ?_⟩
  · rw [readFile_appendToFile, if_pos rfl, h.log, List.map_append, terminated_append]
    simp [terminated]
  · intro w hw
    rcases List.mem_append.mp hw with hw | hw
    · exact h.plain w hw
    · exact List.mem_singleton.mp hw ▸ hx
  · rw [readFile_appendToFile, if_neg (deadServerLogPath_ne_checkpointPath path)]
    exact h.dead

/-- A process that is starting. -/
structure Starting (n : Node) : Prop where
  initializing : n.server.currentlyInitializing = true
  notReading : n.server.currentlyReadingFromCheckpointFile = false

/-- What a start from the files makes of a node. -/
structure Restored (path : Str) (result : Nat) (ws : List Write) (n n' : Node) : Prop where
  table : n'.server.table = runAll ws (loadDataFile (readFile path n.disk) n.server.table)
  server : n'.server = { n.server with
    table := n'.server.table, currentNumberOfWritesForReplicaAndServer := n'.writes }
  dead : readFile (deadServerLogPath path) n'.disk = []
  files : (n.writes + ws.length < CHECKPOINTING_THRESHOLD ∧ n'.writes = n.writes + ws.length ∧
      readFile path n'.disk = readFile path n.disk ∧
      readFile (checkpointPath path) n'.disk = readFile (checkpointPath path) n.disk) ∨
    (n'.writes = 0 ∧ readFile path n'.disk = checkpointText result n'.server.table ∧
      readFile (checkpointPath path) n'.disk = [])

/-- The node with the data file loaded and the log replayed. -/
def replayed (path : Str) (ws : List Write) (n : Node) : Node where
  server := { n.server with
    table := runAll ws (loadDataFile (readFile path n.disk) n.server.table)
    currentNumberOfWritesForReplicaAndServer := n.writes + ws.length }
  disk := createFile (checkpointPath path) (createFile path n.disk)

/-- Whatever the dead-server log holds, the first half of `initialize` reads the others. -/
lemma loadAndReplay_of_log {path : Str} {n : Node} {ws : List Write} (hs : Starting n)
    (hplain : ∀ w ∈ ws, Plain w)
    (hlines : getlines '\n' (readFile (checkpointPath path) n.disk) = ws.map Write.line) :
    loadAndReplay path n = some (replayed path ws n) := by
  have hlines' : getlines '\n' (readFile (checkpointPath path)
      (createFile (checkpointPath path) (createFile path n.disk))) = ws.map Write.line := by
    rw [readFile_createFile, readFile_createFile, hlines]
  unfold loadAndReplay
  dsimp only [Node.setTable]
  rw [hlines', foldlM_replayLogLine hplain (by exact hs.initializing) rfl]
  simp only [Option.map_some, Node.setReading, Node.setTable, Node.setWrites, Node.writes,
    readFile_createFile, ← hs.notReading]
  rfl

theorem loadAndReplay_spec {path : Str} {n : Node} {ws : List Write} (hs : Starting n)
    (h : LogHolds path n.disk ws) : loadAndReplay path n = some (replayed path ws n) :=
  loadAndReplay_of_log hs h.plain h.lines

lemma crashRecoveryFunction_empty {path : Str} {n : Node}
    (h : readFile (deadServerLogPath path) n.disk = []) :
    crashRecoveryFunction path n = some { n with
      disk := truncateFile (deadServerLogPath path)
        (createFile (deadServerLogPath path) n.disk) } := by
  simp [crashRecoveryFunction, readDeadServerLog, h]

/-- With an empty dead-server log, only the first of the two checkpoints can happen. -/
lemma initializeFrom_eq {path : Str} (result : Nat) {n : Node} {ws : List Write}
    (hs : Starting n) (h : LogHolds path n.disk ws) :
    initializeFrom path result n = some
      { checkpointIfFull path result (replayed path ws n) with
        disk := truncateFile (deadServerLogPath path) (createFile (deadServerLogPath path)
          (checkpointIfFull path result (replayed path ws n)).disk) } := by
  obtain ⟨-, -, hother⟩ := readFile_checkpointTable path result (replayed path ws n).server.table
    (replayed path ws n).disk
  have hdisk : readFile (deadServerLogPath path) (replayed path ws n).disk = [] := by
    simpa [replayed] using h.dead
  have hdead : readFile (deadServerLogPath path)
      (checkpointIfFull path result (replayed path ws n)).disk = [] := by
    unfold checkpointIfFull
    split
    · exact (hother _ (Ne.symm (deadServerLogPath_ne path)) (deadServerLogPath_ne_tmpPath path)
        (deadServerLogPath_ne_checkpointPath path)).trans hdisk
    · exact hdisk
  have hfew : ¬CHECKPOINTING_THRESHOLD ≤
      (checkpointIfFull path result (replayed path ws n)).writes := by
    unfold checkpointIfFull
    split
    · simp [Node.writes, checkpointNode, CHECKPOINTING_THRESHOLD]
    · assumption
  rw [initializeFrom, loadAndReplay_spec hs h]
  simp only [Option.bind_eq_bind, Option.bind_some, crashRecoveryFunction_empty hdead]
  exact congrArg some (if_neg hfew)

theorem initializeFrom_spec {path : Str} (result : Nat) {n : Node} {ws : List Write}
    (hs : Starting n) (h : LogHolds path n.disk ws) :
    ∃ n', initializeFrom path result n = some n' ∧ Restored path result ws n n' := by
  have hdp := deadServerLogPath_ne path
  have hdc := deadServerLogPath_ne_checkpointPath path
  refine ⟨_, initializeFrom_eq result hs h, ?_⟩
  obtain ⟨hdata, hlog, -⟩ := readFile_checkpointTable path result (replayed path ws n).server.table
    (replayed path ws n).disk
  by_cases hfull : CHECKPOINTING_THRESHOLD ≤ (replayed path ws n).writes
  · rw [checkpointIfFull, if_pos hfull]
    refine ⟨rfl, rfl, ?_, Or.inr ⟨rfl, ?_, ?_⟩⟩
    · simp [readFile_truncateFile]
    · simpa [readFile_truncateFile, hdp, checkpointNode] using hdata
    · simpa [readFile_truncateFile, Ne.symm hdc, checkpointNode] using hlog
  · rw [checkpointIfFull, if_neg hfull]
    refine ⟨rfl, rfl, ?_, Or.inl ⟨Nat.lt_of_not_le hfull, rfl, ?_, ?_⟩⟩
    · simp [readFile_truncateFile]
    · simp [readFile_truncateFile, hdp, replayed]
    · simp [readFile_truncateFile, Ne.symm hdc, replayed]

end CloudStorage.Proofs
