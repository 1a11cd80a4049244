import CloudStorage.CheckpointTrigger
import CloudStorage.Proofs.OwnParameters
import CloudStorage.Proofs.RejoinState

/-!
# The length of the log

The counter of writes is compared for equality, some time after it was increased. This file
proves which writes keep the log short, and that a write at the wrong time leaves it long for
ever.
-/

namespace CloudStorage.Proofs
open DelimitedText CommandThreads

/-! ### The counter and the log -/

/-- The lines that the log holds, the last of which may lack its end. -/
def logLength (n : Node) : Nat := (getlines '\n' (ownLog n)).length

/-- Neither the log nor its counter has changed. -/
structure SameLog (n m : Node) : Prop where
  path : m.server.diskFilePath = n.server.diskFilePath
  reading : m.server.currentlyReadingFromCheckpointFile =
    n.server.currentlyReadingFromCheckpointFile
  writes : m.writes = n.writes
  log : ownLog m = ownLog n

/-- A line was appended to the log and counted. -/
structure LoggedLine (line : Str) (n m : Node) : Prop where
  path : m.server.diskFilePath = n.server.diskFilePath
  reading : m.server.currentlyReadingFromCheckpointFile =
    n.server.currentlyReadingFromCheckpointFile
  writes : m.writes = n.writes + 1
  log : ownLog m = ownLog n ++ line ++ ['\n']

lemma SameLog.refl (n : Node) : SameLog n n := ⟨rfl, rfl, rfl, rfl⟩

lemma SameLog.length {n m : Node} (h : SameLog n m) : logLength m = logLength n := by
  rw [logLength, logLength, h.log]

lemma LoggedLine.length {line : Str} {n m : Node} (h : LoggedLine line n m) :
    logLength m = (ownLog n).count '\n' + line.count '\n' + 1 := by
  rw [logLength, h.log, length_getlines_end, List.count_append]

lemma LoggedLine.newlines {line : Str} {n m : Node} (h : LoggedLine line n m) :
    (ownLog m).count '\n' = (ownLog n).count '\n' + line.count '\n' + 1 := by
  rw [h.log, List.count_append, List.count_append, List.count_singleton_self]

/-- A line without a line feed makes the log longer by one line at most. -/
lemma LoggedLine.length_le {line : Str} {n m : Node} (h : LoggedLine line n m)
    (hline : '\n' ∉ line) : logLength m ≤ logLength n + 1 := by
  have hold := count_le_length_getlines '\n' (ownLog n)
  rw [h.length, List.count_eq_zero.mpr hline, logLength]
  omega

lemma applyWrite_log (w : Write) {n : Node}
    (hreading : n.server.currentlyReadingFromCheckpointFile = false) :
    (w.run n.server.table).2 = true ∧ LoggedLine w.line n (applyWrite w n).1 ∨
      (w.run n.server.table).2 = false ∧ SameLog n (applyWrite w n).1 := by
  unfold applyWrite
  dsimp only
  cases hrun : (w.run n.server.table).2 with
  | false =>
    right
    exact ⟨rfl, ⟨rfl, rfl, rfl, rfl⟩⟩
  | true =>
    left
    refine ⟨rfl, ?_⟩
    rw [if_pos rfl, handleAppend, if_pos ⟨line_length_pos w, hreading⟩]
    refine ⟨rfl, rfl, rfl, ?_⟩
    unfold ownLog
    dsimp only
    rw [readFile_appendToFile, if_pos rfl]
    rfl

/-- While the log is read, nothing is appended to it. -/
lemma applyWrite_reading (w : Write) {n : Node}
    (hreading : n.server.currentlyReadingFromCheckpointFile = true) :
    SameLog n (applyWrite w n).1 := by
  unfold applyWrite
  dsimp only
  split
  · rw [handleAppend, if_neg]
    · exact ⟨rfl, rfl, rfl, rfl⟩
    · intro h
      exact absurd (hreading.symm.trans h.2) (by decide)
  · exact ⟨rfl, rfl, rfl, rfl⟩

/-- A checkpoint empties the log. -/
lemma checkpointNode_log (result : Nat) (n : Node) :
    (checkpointNode n.server.diskFilePath result n).writes = 0 ∧
      ownLog (checkpointNode n.server.diskFilePath result n) = [] :=
  ⟨rfl, (readFile_checkpointTable n.server.diskFilePath result n.server.table n.disk).2.1⟩

/-! ### The start -/

/-- The counter has counted the lines of the log. -/
structure Counted (n : Node) : Prop where
  lines : logLength n ≤ n.writes
  newlines : n.writes ≤ (ownLog n).count '\n' + 1

/-- A server that initializes counts the lines it logs. -/
structure Initializing (path : Str) (n : Node) : Prop where
  initializing : n.server.currentlyInitializing = true
  path : n.server.diskFilePath = path

lemma Counted.same {n m : Node} (h : Counted n) (hs : SameLog n m) : Counted m := by
  constructor
  · rw [hs.length, hs.writes]
    exact h.lines
  · rw [hs.writes, hs.log]
    exact h.newlines

lemma Counted.logged {line : Str} {n m : Node} (h : Counted n) (hl : LoggedLine line n m)
    (hline : '\n' ∉ line) : Counted m := by
  have hlength := hl.length_le hline
  have hlines := h.lines
  have hnewlines := h.newlines
  constructor
  · rw [hl.writes]
    omega
  · rw [hl.writes, hl.newlines]
    omega

/-- The fields of a command come from its text. -/
lemma newline_of_writeOf {line : Str} {w : Write}
    (h : writeOf (splitKVStoreCommand line) = some w) (hline : '\n' ∉ line) : '\n' ∉ w.line := by
  obtain ⟨extra, hsplit⟩ := eq_of_writeOf h
  have hfields : ∀ f ∈ w.fields, '\n' ∉ f := by
    intro f hf hnewline
    have hmem : f ∈ getlines ',' (line.drop (posAfter ' ' line)) := by
      rw [(List.cons.inj hsplit).2]
      exact List.mem_append_left extra hf
    exact hline (List.mem_of_mem_drop (mem_of_mem_getlines hmem hnewline))
  rw [Write.line, List.mem_append, not_or]
  exact ⟨word_no_newline w, not_mem_joined (by decide) hfields⟩

/-- A line of a log is handled without another server. -/
lemma replayLine_log {path line : Str} {n m : Node} (hn : Initializing path n)
    (h : replayLine n line = some m) :
    Initializing path m ∧ (m = n ∨
      ∃ w, writeOf (splitKVStoreCommand line) = some w ∧ m = (applyWrite w n).1) := by
  obtain ⟨word, args, hsplit⟩ := splitKVStoreCommand_cons line
  unfold replayLine at h
  rw [hsplit] at h ⊢
  rcases handleCommand_writeOf word args .frontend [] n with
    ⟨w, hw, hh⟩ | ⟨-, -, reply, hh⟩ | ⟨-, -, hh⟩
  · rw [hh, handleWrite, if_pos hn.initializing] at h
    obtain rfl := Option.some.inj h
    have hpath := settings_congr Server.diskFilePath (fun _ => rfl) (applyWrite_settings w n)
    exact ⟨⟨(applyWrite_initializing w n).trans hn.initializing, hpath.trans hn.path⟩,
      Or.inr ⟨w, hw, rfl⟩⟩
  · rw [hh] at h
    obtain rfl := Option.some.inj h
    exact ⟨hn, Or.inl rfl⟩
  · rw [hh] at h
    exact absurd h (by simp [Handling.node?])

/-- The lines of the log are counted while it is read. -/
lemma replayLogLines_log {path : Str} (lines : List Str) {n m : Node} (hn : Initializing path n)
    (hreading : n.server.currentlyReadingFromCheckpointFile = true)
    (h : lines.foldlM replayLogLine n = some m) :
    Initializing path m ∧ m.writes = n.writes + lines.length ∧ ownLog m = ownLog n := by
  induction lines generalizing n with
  | nil =>
    obtain rfl := Option.some.inj h
    exact ⟨hn, rfl, rfl⟩
  | cons line lines ih =>
    rw [List.foldlM_cons] at h
    obtain ⟨k, hk, h⟩ := Option.bind_eq_some_iff.mp h
    have hcounted : Initializing path (n.setWrites (n.writes + 1)) :=
      ⟨hn.initializing, hn.path⟩
    obtain ⟨hkn, hcases⟩ := replayLine_log hcounted hk
    have hsame : SameLog (n.setWrites (n.writes + 1)) k := by
      rcases hcases with rfl | ⟨w, -, rfl⟩
      · exact SameLog.refl _
      · exact applyWrite_reading w hreading
    obtain ⟨hmn, hwrites, hlog⟩ := ih hkn (hsame.reading.trans hreading) h
    refine ⟨hmn, ?_, hlog.trans hsame.log⟩
    have hone : (n.setWrites (n.writes + 1)).writes = n.writes + 1 := rfl
    rw [hwrites, hsame.writes, hone, List.length_cons]
    omega

/-- The server has read its log, and counts. -/
structure Counting (path : Str) (n : Node) : Prop extends Initializing path n, Counted n where
  notReading : n.server.currentlyReadingFromCheckpointFile = false

lemma loadAndReplay_log {path : Str} {n m : Node} (hn : Initializing path n)
    (hzero : n.writes = 0) (h : loadAndReplay path n = some m) : Counting path m := by
  let start := (({ n with disk := createFile (checkpointPath path) (createFile path n.disk) } :
    Node).setTable (loadDataFile (readFile path n.disk) n.server.table)).setReading true
  have hlog : ownLog start = ownLog n := by
    change readFile _ (createFile _ (createFile _ n.disk)) = _
    rw [readFile_createFile, readFile_createFile]
    rfl
  have heq : loadAndReplay path n = ((getlines '\n' (ownLog start)).foldlM replayLogLine
      start).map (fun n => n.setReading false) := by
    rw [hlog, ownLog, hn.path]
    unfold loadAndReplay
    simp only [Node.setTable, readFile_createFile]
    rfl
  rw [heq] at h
  obtain ⟨k, hk, rfl⟩ := Option.map_eq_some_iff.mp h
  have hstart : Initializing path start := ⟨hn.initializing, hn.path⟩
  obtain ⟨hkn, hwrites, hklog⟩ := replayLogLines_log _ hstart rfl hk
  have hcount : (k.setReading false).writes = (getlines '\n' (ownLog start)).length := by
    change k.writes = _
    rw [hwrites, show start.writes = 0 from hzero, Nat.zero_add]
  refine ⟨⟨hkn.initializing, hkn.path⟩, ⟨?_, ?_⟩, rfl⟩
  · rw [hcount, ← hklog]
    exact Nat.le_refl _
  · rw [hcount, ← hklog]
    exact length_getlines_le '\n' _

lemma Counting.checkpointIfFull {path : Str} {n : Node} (h : Counting path n) (result : Nat) :
    Counting path (checkpointIfFull path result n) ∧
      (checkpointIfFull path result n).writes < CHECKPOINTING_THRESHOLD := by
  unfold CloudStorage.checkpointIfFull
  split
  · rw [← h.path]
    obtain ⟨hwrites, hlog⟩ := checkpointNode_log result n
    refine ⟨⟨⟨h.initializing, rfl⟩, ⟨?_, ?_⟩, h.notReading⟩, ?_⟩
    · rw [logLength, hlog]
      exact Nat.zero_le _
    · rw [hwrites]
      exact Nat.zero_le _
    · rw [hwrites]
      decide
  · next hshort => exact ⟨h, Nat.lt_of_not_le hshort⟩

/-- Lines of the dead-server log are logged and counted. -/
lemma Counting.replayLines {path : Str} {lines : List Str} {n m : Node} (hn : Counting path n)
    (hlines : ∀ line ∈ lines, '\n' ∉ line) (h : lines.foldlM replayLine n = some m) :
    Counting path m := by
  induction lines generalizing n with
  | nil => exact Option.some.inj h ▸ hn
  | cons line lines ih =>
    rw [List.foldlM_cons] at h
    obtain ⟨k, hk, h⟩ := Option.bind_eq_some_iff.mp h
    rw [List.forall_mem_cons] at hlines
    obtain ⟨hkn, hcases⟩ := replayLine_log hn.toInitializing hk
    refine ih ?_ hlines.2 h
    rcases hcases with rfl | ⟨w, hw, rfl⟩
    · exact hn
    · rcases applyWrite_log w hn.notReading with ⟨-, hlogged⟩ | ⟨-, hsame⟩
      · exact ⟨hkn, hn.toCounted.logged hlogged (newline_of_writeOf hw hlines.1),
          hlogged.reading.trans hn.notReading⟩
      · exact ⟨hkn, hn.toCounted.same hsame, hsame.reading.trans hn.notReading⟩

lemma Counting.files {path : Str} {n : Node} (h : Counting path n) {d : Disk}
    (hd : readFile (checkpointPath path) d = readFile (checkpointPath path) n.disk) :
    Counting path { n with disk := d } := by
  have hsame : SameLog n { n with disk := d } := by
    refine ⟨rfl, rfl, rfl, ?_⟩
    unfold ownLog
    dsimp only
    rw [h.path, hd]
  exact ⟨⟨h.initializing, h.path⟩, h.toCounted.same hsame, h.notReading⟩

lemma Counting.crashRecovery {path : Str} {n m : Node} (hn : Counting path n)
    (h : crashRecoveryFunction path n = some m) : Counting path m := by
  obtain ⟨k, hk, rfl⟩ := Option.map_eq_some_iff.mp h
  have hcreated := hn.files (readFile_createFile (deadServerLogPath path) _ n.disk)
  have hk' : Counting path k :=
    hcreated.replayLines (fun line hline => delim_not_mem_of_mem_getlines hline) hk
  apply hk'.files
  rw [readFile_truncateFile, if_neg (Ne.symm (deadServerLogPath_ne_checkpointPath path))]

/-- A server starts with a short log, all lines of which are counted. -/
lemma startProcess_log {g : Int} {info : ServerInfo} {servers : Int → List ServerInfo}
    {result : Nat} {d : Disk} {n : Node} (h : startProcess g info servers result d = some n) :
    Counted n ∧ n.writes < CHECKPOINTING_THRESHOLD ∧
      n.server.currentlyReadingFromCheckpointFile = false := by
  obtain ⟨k, hk, h⟩ := Option.bind_eq_some_iff.mp h
  obtain rfl := Option.some.inj h
  obtain ⟨m, hm, hk⟩ := Option.bind_eq_some_iff.mp hk
  obtain ⟨m', hm', hk⟩ := Option.bind_eq_some_iff.mp hk
  obtain rfl := Option.some.inj hk
  have hloaded : Counting _ m := loadAndReplay_log ⟨rfl, rfl⟩ rfl hm
  have hrecovered := (hloaded.checkpointIfFull result).1.crashRecovery hm'
  obtain ⟨hfinal, hshort⟩ := hrecovered.checkpointIfFull result
  exact ⟨⟨hfinal.lines, hfinal.newlines⟩, hshort, hfinal.notReading⟩

/-! ### Commands -/

/-- The write of the command is carried out on this server's own table. -/
def CarriedOut (n : Node) (command : Str) (ok : Bool) (w : Write) : Prop :=
  writeOf (splitKVStoreCommand command) = some w ∧ (w.run n.server.table).2 = true ∧
    if n.server.currentlyInitializing then True
    else if n.server.myInfo.isPrimary then ok = true
    else classify (splitKVStoreCommand command) = .primary

lemma outcome_write {command msg : Str} {ok : Bool} {n m : Node} {x : Write}
    (hx : writeOf (splitKVStoreCommand command) = some x)
    (hreading : n.server.currentlyReadingFromCheckpointFile = false)
    (h : (handleWrite x (classify (splitKVStoreCommand command)) msg n).outcome ok n = some m) :
    CarriedOut n command ok x ∧ LoggedLine x.line n m ∨
      ¬CarriedOut n command ok x ∧ SameLog n m := by
  have happlied (hrole : if n.server.currentlyInitializing then True
      else if n.server.myInfo.isPrimary then ok = true
      else classify (splitKVStoreCommand command) = .primary) (hm : m = (applyWrite x n).1) :
      CarriedOut n command ok x ∧ LoggedLine x.line n m ∨
        ¬CarriedOut n command ok x ∧ SameLog n m := by
    subst hm
    rcases applyWrite_log x hreading with ⟨hrun, hlogged⟩ | ⟨hrun, hsame⟩
    · exact Or.inl ⟨⟨hx, hrun, hrole⟩, hlogged⟩
    · exact Or.inr ⟨fun hc => absurd (hrun.symm.trans hc.2.1) (by decide), hsame⟩
  unfold handleWrite at h
  split at h
  · next hinit =>
    refine happlied ?_ (Option.some.inj h).symm
    rw [if_pos hinit]
    trivial
  · next hinit =>
    split at h
    · next hprimary =>
      have hm := (Option.some.inj h).symm
      cases ok with
      | true =>
        refine happlied ?_ hm
        rw [if_neg hinit, if_pos hprimary]
      | false =>
        refine Or.inr ⟨fun hc => ?_, hm ▸ SameLog.refl n⟩
        have hrole := hc.2.2
        rw [if_neg hinit, if_pos hprimary] at hrole
        exact Bool.false_ne_true hrole
    · next hprimary =>
      have hother (horigin : classify (splitKVStoreCommand command) ≠ .primary) (hm : m = n) :
          CarriedOut n command ok x ∧ LoggedLine x.line n m ∨
            ¬CarriedOut n command ok x ∧ SameLog n m := by
        refine Or.inr ⟨fun hc => ?_, hm ▸ SameLog.refl n⟩
        have hrole := hc.2.2
        rw [if_neg hinit, if_neg hprimary] at hrole
        exact horigin hrole
      cases horigin : classify (splitKVStoreCommand command) with
      | frontend =>
        rw [horigin] at h
        exact hother (by rw [horigin]; exact Origin.noConfusion) (Option.some.inj h).symm
      | primary =>
        rw [horigin] at h
        refine happlied ?_ (Option.some.inj h).symm
        rw [if_neg hinit, if_neg hprimary]
        exact horigin
      | secondary =>
        rw [horigin] at h
        exact hother (by rw [horigin]; exact Origin.noConfusion) (Option.some.inj h).symm

/-- A command logs the write that it carries out, and nothing else. -/
lemma outcome_log {command msg : Str} {ok : Bool} {n m : Node}
    (hreading : n.server.currentlyReadingFromCheckpointFile = false)
    (h : (handleCommand (splitKVStoreCommand command) (classify (splitKVStoreCommand command))
      msg n).outcome ok n = some m) :
    (∃ w, CarriedOut n command ok w ∧ LoggedLine w.line n m) ∨
      (∀ w, ¬CarriedOut n command ok w) ∧ SameLog n m := by
  obtain ⟨word, args, hsplit⟩ := splitKVStoreCommand_cons command
  have hwriteOf := handleCommand_writeOf word args (classify (splitKVStoreCommand command)) msg n
  rw [← hsplit] at hwriteOf
  rcases hwriteOf with ⟨x, hx, hh⟩ | ⟨hnone, -, reply, hh⟩ | ⟨-, -, hh⟩
  · rw [hh] at h
    rcases outcome_write hx hreading h with ⟨hcarried, hlogged⟩ | ⟨hnot, hsame⟩
    · exact Or.inl ⟨x, hcarried, hlogged⟩
    · refine Or.inr ⟨fun w hw => hnot ?_, hsame⟩
      obtain rfl := Option.some.inj (hx.symm.trans hw.1)
      exact hw
  · rw [hh] at h
    obtain rfl := Option.some.inj h
    exact Or.inr ⟨fun w hw => absurd (hnone.symm.trans hw.1) (by simp), SameLog.refl n⟩
  · rw [hh] at h
    exact absurd h (by simp [Handling.outcome])

/-! ### Steps -/

/-- What a step does to the log: it logs a write that is carried out, or makes the checkpoint
that is due, or does nothing. While a checkpoint is due, no thread that could make it goes on
without it. -/
lemma next_log {s t : CommandThreads} {e : CommandStep}
    (hreading : s.node.server.currentlyReadingFromCheckpointFile = false)
    (h : s.next e = some t) :
    (∃ i command msg ok w, e = .handle i command msg ok ∧ CarriedOut s.node command ok w ∧
      LoggedLine w.line s.node t.node ∧ t.between ≠ []) ∨
    ((∀ i command msg ok w, e = .handle i command msg ok → ¬CarriedOut s.node command ok w) ∧
      SameLog s.node t.node ∧
      (s.node.writes = CHECKPOINTING_THRESHOLD → s.between ≠ [] → t.between ≠ [])) ∨
    ((∃ i result, e = .compare i result) ∧ s.node.writes = CHECKPOINTING_THRESHOLD ∧
      t.node.writes = 0 ∧ ownLog t.node = [] ∧
      t.node.server.currentlyReadingFromCheckpointFile = false) := by
  cases e with
  | handle i command msg ok =>
    unfold CommandThreads.next at h
    dsimp only at h
    split at h
    · obtain ⟨n, hn, rfl⟩ := Option.map_eq_some_iff.mp h
      rcases outcome_log hreading hn with ⟨w, hcarried, hlogged⟩ | ⟨hnot, hsame⟩
      · exact Or.inl ⟨i, command, msg, ok, w, rfl, hcarried, hlogged, List.cons_ne_nil _ _⟩
      · refine Or.inr (Or.inl ⟨fun _ _ _ _ w he => ?_, hsame, fun _ _ => List.cons_ne_nil _ _⟩)
        cases he
        exact hnot w
    · exact absurd h (by simp)
  | compare i result =>
    unfold CommandThreads.next at h
    dsimp only at h
    split at h
    · obtain rfl := Option.some.inj h
      dsimp only
      unfold checkpointAfter
      split
      · next hfull =>
        obtain ⟨hwrites, hlog⟩ := checkpointNode_log result s.node
        exact Or.inr (Or.inr ⟨⟨i, result, rfl⟩, hfull, hwrites, hlog, hreading⟩)
      · next hfull =>
        exact Or.inr (Or.inl ⟨nofun, SameLog.refl s.node, fun hdue => absurd hdue hfull⟩)
    · exact absurd h (by simp)
  | status message =>
    obtain ⟨server, hserver, rfl⟩ := Option.map_eq_some_iff.mp h
    obtain ⟨status, -, rfl⟩ := Option.map_eq_some_iff.mp hserver
    have hstorage := storageOf_applyStatus status s.node.server
    have hpath := storageOf_congr Server.diskFilePath (fun _ => rfl) hstorage
    refine Or.inr (Or.inl ⟨nofun, ⟨hpath, ?_, ?_, ?_⟩, fun _ hne => hne⟩)
    · exact storageOf_congr Server.currentlyReadingFromCheckpointFile (fun _ => rfl) hstorage
    · exact storageOf_congr Server.currentNumberOfWritesForReplicaAndServer (fun _ => rfl) hstorage
    · unfold ownLog
      dsimp only
      rw [hpath]
  | files d =>
    unfold CommandThreads.next at h
    dsimp only at h
    split at h
    · next hlog =>
      obtain rfl := Option.some.inj h
      exact Or.inr (Or.inl ⟨nofun, ⟨rfl, rfl, rfl, hlog⟩, fun _ hne => hne⟩)
    · exact absurd h (by simp)

lemma CarriedOut.unique {n : Node} {command : Str} {ok : Bool} {w x : Write}
    (hw : CarriedOut n command ok w) (hx : CarriedOut n command ok x) : w = x :=
  Option.some.inj (hw.1.symm.trans hx.1)

/-- A write that is carried out is logged. -/
lemma handle_carriedOut {s t : CommandThreads} {i : Nat} {command msg : Str} {ok : Bool} {w : Write}
    (hreading : s.node.server.currentlyReadingFromCheckpointFile = false)
    (hw : CarriedOut s.node command ok w) (h : s.next (.handle i command msg ok) = some t) :
    LoggedLine w.line s.node t.node := by
  rcases next_log hreading h with
    ⟨_, _, _, _, x, he, hcarried, hlogged, -⟩ | ⟨hnot, -⟩ | ⟨⟨_, _, he⟩, -⟩
  · cases he
    exact hw.unique hcarried ▸ hlogged
  · exact absurd hw (hnot i command msg ok w rfl)
  · exact CommandStep.noConfusion he

/-- What holds in every run. -/
structure LogInv (s : CommandThreads) : Prop where
  notReading : s.node.server.currentlyReadingFromCheckpointFile = false
  newlines : s.node.writes ≤ (ownLog s.node).count '\n' + 1

lemma LogInv.init {s : CommandThreads} (h : commandThreads.init s) : LogInv s := by
  obtain ⟨-, g, info, servers, result, d, hstart⟩ := h
  obtain ⟨hcounted, -, hreading⟩ := startProcess_log hstart
  exact ⟨hreading, hcounted.newlines⟩

lemma LogInv.step {s t : CommandThreads} {e : CommandStep} (h : LogInv s)
    (hnext : s.next e = some t) : LogInv t := by
  rcases next_log h.notReading hnext with
    ⟨_, _, _, _, w, -, -, hlogged, -⟩ | ⟨-, hsame, -⟩ | ⟨-, -, hwrites, -, hreading⟩
  · refine ⟨hlogged.reading.trans h.notReading, ?_⟩
    have hnewlines := h.newlines
    rw [hlogged.writes, hlogged.newlines]
    omega
  · refine ⟨hsame.reading.trans h.notReading, ?_⟩
    rw [hsame.writes, hsame.log]
    exact h.newlines
  · refine ⟨hreading, ?_⟩
    rw [hwrites]
    exact Nat.zero_le _

lemma logInv_of_reachable {ok : CommandThreads → CommandStep → Prop} {s : CommandThreads}
    (h : commandThreads.Reachable ok s) : LogInv s :=
  h.invariant (fun _ hs => LogInv.init hs) (fun _ _ _ hs _ hnext => hs.step hnext)

/-! ### Writes at the right time -/

/-- The counter reaches the threshold with a write that is carried out, or the log stays short
with the lines of the write. -/
def TimelyWrite (s : CommandThreads) : CommandStep → Prop
  | .handle _ command _ ok => ∀ w, CarriedOut s.node command ok w →
    s.node.writes + 1 = CHECKPOINTING_THRESHOLD ∨
      (ownLog s.node).count '\n' + w.line.count '\n' + 1 < CHECKPOINTING_THRESHOLD
  | _ => True

/-- The log is short, or a thread is about to make the checkpoint. -/
def ShortOrDue (s : CommandThreads) : Prop :=
  logLength s.node < CHECKPOINTING_THRESHOLD ∨
    s.node.writes = CHECKPOINTING_THRESHOLD ∧ s.between ≠ []

lemma ShortOrDue.step {s t : CommandThreads} {e : CommandStep} (h : ShortOrDue s)
    (hinv : LogInv s) (he : TimelyWrite s e) (hnext : s.next e = some t) : ShortOrDue t := by
  rcases next_log hinv.notReading hnext with
    ⟨i, command, msg, ok, w, rfl, hcarried, hlogged, hne⟩ | ⟨-, hsame, hkept⟩ | ⟨-, -, -, hlog, -⟩
  · rcases he w hcarried with hlast | hroom
    · exact Or.inr ⟨hlogged.writes.trans hlast, hne⟩
    · exact Or.inl (hlogged.length ▸ hroom)
  · rcases h with hshort | ⟨hdue, hne⟩
    · exact Or.inl (hsame.length ▸ hshort)
    · exact Or.inr ⟨hsame.writes.trans hdue, hkept hdue hne⟩
  · left
    rw [logLength, hlog]
    decide

/-- In the runs whose writes come at the right time. -/
lemma shortOrDue_of_reachable {s : CommandThreads}
    (h : commandThreads.Reachable TimelyWrite s) : ShortOrDue s := by
  induction h with
  | init hs =>
    obtain ⟨-, g, info, servers, result, d, hstart⟩ := hs
    obtain ⟨hcounted, hshort, -⟩ := startProcess_log hstart
    exact Or.inl (Nat.lt_of_le_of_lt hcounted.lines hshort)
  | step hs hok hnext ih => exact ih.step (logInv_of_reachable hs) hok hnext

/-! ### Writes at the wrong time -/

/-- The threads that have handled a command compare the counter, and make no checkpoint. -/
lemma compare_all {s : CommandThreads} (h : s.node.writes ≠ CHECKPOINTING_THRESHOLD) :
    commandThreads.exec s (s.between.map (fun i => .compare i 0)) =
      some { node := s.node, between := [] } := by
  obtain ⟨n, between⟩ := s
  induction between with
  | nil => rfl
  | cons i between ih =>
    have hone : commandThreads.next ⟨n, i :: between⟩ (.compare i 0) = some ⟨n, between⟩ := by
      change CommandThreads.next ⟨n, i :: between⟩ (.compare i 0) = _
      unfold CommandThreads.next
      dsimp only
      rw [if_pos List.mem_cons_self, checkpointAfter, if_neg h, List.erase_cons_head]
    rw [List.map_cons, System.exec, hone, Option.bind_some]
    exact ih h

/-- The log is long and no checkpoint is due. -/
lemma untimely_log {s t : CommandThreads} {e : CommandStep} (hinv : LogInv s)
    (he : ¬TimelyWrite s e) (hnext : s.next e = some t) :
    CHECKPOINTING_THRESHOLD ≤ logLength t.node ∧ t.node.writes ≠ CHECKPOINTING_THRESHOLD := by
  cases e with
  | handle i command msg ok =>
    unfold TimelyWrite at he
    push Not at he
    obtain ⟨w, hcarried, hcount, hlines⟩ := he
    have hlogged := handle_carriedOut hinv.notReading hcarried hnext
    rw [hlogged.length, hlogged.writes]
    exact ⟨hlines, hcount⟩
  | compare i result => exact absurd trivial he
  | status message => exact absurd trivial he
  | files d => exact absurd trivial he

/-- The counter has gone past the threshold and does not come back. -/
lemma overshot_step {s t : CommandThreads} {e : CommandStep} (hinv : LogInv s)
    (h : CHECKPOINTING_THRESHOLD < s.node.writes) (hnext : s.next e = some t) :
    CHECKPOINTING_THRESHOLD < t.node.writes := by
  rcases next_log hinv.notReading hnext with
    ⟨_, _, _, _, w, -, -, hlogged, -⟩ | ⟨-, hsame, -⟩ | ⟨-, hdue, -⟩
  · rw [hlogged.writes]
    omega
  · rw [hsame.writes]
    exact h
  · exact absurd hdue (Nat.ne_of_gt h)

lemma LogInv.overshot {s : CommandThreads} (h : LogInv s)
    (hover : CHECKPOINTING_THRESHOLD < s.node.writes) :
    CHECKPOINTING_THRESHOLD ≤ logLength s.node := by
  have hnewlines := h.newlines
  have hcount := count_le_length_getlines '\n' (ownLog s.node)
  unfold logLength
  omega

/-- A log whose counter has gone past the threshold stays long in every run. -/
lemma overshot_forever {s t : CommandThreads} {es : List CommandStep} (hinv : LogInv s)
    (hover : CHECKPOINTING_THRESHOLD < s.node.writes) (h : commandThreads.exec s es = some t) :
    CHECKPOINTING_THRESHOLD ≤ logLength t.node := by
  induction es generalizing s with
  | nil =>
    obtain rfl := Option.some.inj h
    exact hinv.overshot hover
  | cons e es ih =>
    obtain ⟨u, hu, ht⟩ := Option.bind_eq_some_iff.mp h
    exact ih (hinv.step hu) (overshot_step hinv hover hu) ht

/-- The log is short whenever no thread is between a command and the comparison, in the runs
whose writes come at the right time. After any other write it is long as soon as the threads
have compared the counter, and for ever if the write found the counter at the threshold. -/
theorem log_short (s : CommandThreads) :
    (commandThreads.Reachable TimelyWrite s → s.Quiet →
      logLength s.node < CHECKPOINTING_THRESHOLD) ∧
    (commandThreads.Reachable (fun _ _ => True) s →
      (∀ e t, ¬TimelyWrite s e → s.next e = some t →
        ∃ es u, commandThreads.exec t es = some u ∧ u.Quiet ∧
          CHECKPOINTING_THRESHOLD ≤ logLength u.node) ∧
      ∀ i command msg ok w t, CarriedOut s.node command ok w →
        CHECKPOINTING_THRESHOLD ≤ s.node.writes → s.next (.handle i command msg ok) = some t →
        ∀ es u, commandThreads.exec t es = some u →
          CHECKPOINTING_THRESHOLD ≤ logLength u.node) := by
  refine ⟨fun h hquiet => ?_, fun h => ⟨fun e t he hnext => ?_, ?_⟩⟩
  · rcases shortOrDue_of_reachable h with hshort | ⟨-, hne⟩
    · exact hshort
    · exact absurd hquiet hne
  · obtain ⟨hlong, hcount⟩ := untimely_log (logInv_of_reachable h) he hnext
    exact ⟨_, _, compare_all hcount, rfl, hlong⟩
  · intro i command msg ok w t hcarried hfull hnext es u hes
    have hinv := logInv_of_reachable h
    have hlogged := handle_carriedOut hinv.notReading hcarried hnext
    have hover : CHECKPOINTING_THRESHOLD < t.node.writes := by
      rw [hlogged.writes]
      omega
    exact overshot_forever (hinv.step hnext) hover hes

/-- A write that a primary sends to this server. -/
def sentPut (i : Nat) : CommandStep := .handle i "PUT a,b,c,PRIMARY".toList [] true

/-- A server that was started for the first time. -/
def bareStart : Option Node := startProcess 1 cutInfo (fun _ => []) 7 (fun _ => none)

lemma bareStart_init {n : Node} (h : bareStart = some n) : commandThreads.init ⟨n, []⟩ :=
  ⟨rfl, 1, cutInfo, fun _ => [], 7, fun _ => none, h⟩

/-- The condition on a write, whether or not it has an effect. -/
def writesInTime (s : CommandThreads) : CommandStep → Bool
  | .handle _ command _ _ =>
    (writeOf (splitKVStoreCommand command)).all (fun w =>
      decide (s.node.writes + 1 = CHECKPOINTING_THRESHOLD ∨
        (ownLog s.node).count '\n' + w.line.count '\n' + 1 < CHECKPOINTING_THRESHOLD))
  | .compare _ _ | .status _ | .files _ => true

lemma timelyWrite_of_check {s : CommandThreads} {e : CommandStep}
    (h : writesInTime s e = true) : TimelyWrite s e := by
  cases e with
  | handle i command msg ok =>
    intro w hw
    unfold writesInTime at h
    dsimp only at h
    rw [hw.1, Option.all_some] at h
    exact of_decide_eq_true h
  | compare _ _ | status _ | files _ => trivial

/-- Two threads handle three commands. The third one fills the log before thread 1 has
compared the counter for its own, so that thread 1 makes the checkpoint. -/
def sharedCheckpoint : List CommandStep :=
  [sentPut 0, sentPut 1, .compare 0 8, sentPut 0, .compare 1 8, sentPut 1, .compare 0 8,
    .compare 1 8]

theorem log_short_shared : ∃ s : CommandThreads, s.Quiet ∧
    readFile s.node.server.diskFilePath s.node.disk = "8\na,b,c\n".toList ∧
    logLength s.node = 1 ∧ logLength s.node < CHECKPOINTING_THRESHOLD := by
  have hrun : (bareStart.bind (fun n =>
      (commandThreads.exec ⟨n, []⟩ sharedCheckpoint).map (fun s =>
        (commandThreads.checkAlong writesInTime ⟨n, []⟩ sharedCheckpoint, s.between,
          readFile s.node.server.diskFilePath s.node.disk, logLength s.node)))) =
      some (true, [], "8\na,b,c\n".toList, 1) := by
    decide +kernel
  obtain ⟨n, hn, hrun⟩ := Option.bind_eq_some_iff.mp hrun
  obtain ⟨s, hs, hr⟩ := Option.map_eq_some_iff.mp hrun
  obtain ⟨hcheck, hr⟩ := Prod.mk.inj hr
  obtain ⟨hquiet, hr⟩ := Prod.mk.inj hr
  obtain ⟨hdata, hlength⟩ := Prod.mk.inj hr
  have hreach : commandThreads.Reachable TimelyWrite s := by
    refine System.Reachable.of_check ?_ (.init (bareStart_init hn)) hcheck hs
    exact fun _ _ _ h => timelyWrite_of_check h
  exact ⟨s, hquiet, hdata, hlength, (log_short s).1 hreach hquiet⟩

/-- After two writes, two threads handle one each before either compares the counter. -/
def overtaking : List CommandStep :=
  [sentPut 0, .compare 0 8, sentPut 0, .compare 0 8, sentPut 0, sentPut 1, .compare 0 8,
    .compare 1 8]

/-- The checkpoint is missed, and the log has four lines. -/
theorem checkpoint_missed : ¬∀ s, commandThreads.Reachable (fun _ _ => True) s → s.Quiet →
    logLength s.node < CHECKPOINTING_THRESHOLD := by
  intro h
  have hrun : (bareStart.bind (fun n => (commandThreads.exec ⟨n, []⟩ overtaking).map (fun s =>
      (s.between, logLength s.node)))) = some ([], 4) := by
    decide +kernel
  obtain ⟨n, hn, hrun⟩ := Option.bind_eq_some_iff.mp hrun
  obtain ⟨s, hs, hr⟩ := Option.map_eq_some_iff.mp hrun
  obtain ⟨hquiet, hlength⟩ := Prod.mk.inj hr
  have hreach := (System.Reachable.init (bareStart_init hn)).exec (fun _ _ _ => trivial) hs
  have hshort := h s hreach hquiet
  rw [hlength] at hshort
  exact absurd hshort (by decide)

end CloudStorage.Proofs
