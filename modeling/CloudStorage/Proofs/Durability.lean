import CloudStorage.Lib.Runs
import CloudStorage.Proofs.PartialMap
import CloudStorage.Proofs.Recovery

/-!
# What a crash leaves behind

The run of one storage server that carries out writes on its own table. Its data file and
its log always hold the values of the table: a logged write keeps the log and the table in
step, and a checkpoint moves the values from the log into the data file.
-/

namespace CloudStorage.Proofs
open DelimitedText Registers

/-! ### Clean tables -/

lemma CleanTable.run {t : Table} (h : CleanTable t) {x : Write} (hx : Plain x) :
    CleanTable (x.run t).1 := by
  have hfield : ∀ f ∈ x.fields, CleanField f := fun f hf =>
    ⟨(hx f hf).no_comma, (hx f hf).no_newline⟩
  have hempty : CleanField [] := ⟨List.not_mem_nil, List.not_mem_nil⟩
  intro r c v hv
  have hcell := congrFun (cellsOf_run x t) (r, c)
  have hv : cellsOf (x.run t).1 (r, c) = some v := hv
  rw [hcell] at hv
  unfold Op.effect at hv
  by_cases hk : (r, c) = (opOf x).key
  · rw [← hk, Function.update_self] at hv
    cases x with
    | put row col value =>
      obtain ⟨rfl, rfl⟩ := Prod.mk.inj hk
      have hv : value = v := Option.some.inj hv
      subst hv
      exact ⟨hfield r (by simp [Write.fields]), hfield c (by simp [Write.fields]),
        hfield value (by simp [Write.fields])⟩
    | cput row col cur new =>
      obtain ⟨rfl, rfl⟩ := Prod.mk.inj hk
      refine ⟨hfield r (by simp [Write.fields]), hfield c (by simp [Write.fields]), ?_⟩
      simp only [opOf, Op.act] at hv
      split at hv
      · exact Option.some.inj hv ▸ hfield new (by simp [Write.fields])
      · cases hold : t.get r c with
        | none =>
          have hv : [] = v := by simpa [cellsOf, hold] using hv
          exact hv ▸ hempty
        | some y =>
          have hv : y = v := by simpa [cellsOf, hold] using hv
          exact hv ▸ (h r c y hold).2.2
    | delete row col => simp [opOf, Op.act] at hv
  · rw [Function.update_of_ne hk] at hv
    exact h r c v hv

lemma cleanTable_loadDataFile (text : Str) : CleanTable (loadDataFile text ∅) := by
  have hline : ∀ (lines : List Str) (t : Table), (∀ l ∈ lines, '\n' ∉ l) → CleanTable t →
      CleanTable (lines.foldl loadLine t) := by
    intro lines
    induction lines with
    | nil => exact fun t _ ht => ht
    | cons l lines ih =>
      intro t hl ht
      refine ih (loadLine t l) (fun y hy => hl y (List.mem_cons_of_mem l hy)) ?_
      have hclean : ∀ f ∈ getlines ',' l, CleanField f := fun f hf =>
        ⟨delim_not_mem_of_mem_getlines hf,
          fun hn => hl l List.mem_cons_self (mem_of_mem_getlines hf hn)⟩
      unfold loadLine
      split
      · next row col value hpieces =>
        rw [hpieces] at hclean
        intro r c v hv
        rw [NestedMap.get_set] at hv
        split at hv
        · next hk =>
          obtain ⟨rfl, rfl⟩ := hk
          have hv : value = v := Option.some.inj hv
          subst hv
          exact ⟨hclean r (by simp), hclean c (by simp), hclean value (by simp)⟩
        · exact ht r c v hv
      · exact ht
  refine hline (getlines '\n' text) ∅ (fun l hl => delim_not_mem_of_mem_getlines hl) ?_
  intro r c v hv
  simp at hv

lemma CleanTable.runAll {ws : List Write} {t : Table} (h : CleanTable t)
    (hws : ∀ w ∈ ws, Plain w) : CleanTable (runAll ws t) := by
  induction ws generalizing t with
  | nil => exact h
  | cons w ws ih =>
    exact ih (h.run (hws w List.mem_cons_self)) (fun y hy => hws y (List.mem_cons_of_mem w hy))

/-- Loading the data file of a checkpoint restores the values. -/
lemma valuesOf_snapshot {t : Table} (h : CleanTable t) (result : Nat) :
    valuesOf (loadDataFile (checkpointText result t) ∅) = valuesOf t := by
  funext k
  unfold valuesOf cellsOf
  rw [get_loadDataFile_checkpointText h]
  cases t.get k.1 k.2 with
  | none => rfl
  | some v =>
    by_cases hv : v = []
    · simp [Option.filter, hv]
    · simp [Option.filter, hv]

/-! ### The invariant -/

/-- The files of a node hold the values of its table: the data file with the writes `ws` of
the log over it. -/
structure Logged (n : Node) (ws : List Write) : Prop where
  ready : n.server.currentlyInitializing = false
  notReading : n.server.currentlyReadingFromCheckpointFile = false
  log : LogHolds n.server.diskFilePath n.disk ws
  writes : n.writes = ws.length
  clean : CleanTable n.server.table
  values : valuesOf (runAll ws (loadDataFile (readFile n.server.diskFilePath n.disk) ∅)) =
    valuesOf n.server.table

/-- Between two commands the log is shorter than a checkpoint needs. -/
structure Durable (n : Node) (ws : List Write) : Prop extends Logged n ws where
  few : ws.length < CHECKPOINTING_THRESHOLD

/-- What restarting from the files of a durable node restores. -/
theorem Durable.restored {n : Node} {ws : List Write} (h : Durable n ws) (result : Nat)
    (g : Int) (info : ServerInfo) :
    ∃ n', initializeFrom n.server.diskFilePath result ⟨startServer g info, n.disk⟩ = some n' ∧
      valuesOf n'.server.table = valuesOf n.server.table := by
  obtain ⟨n', hn', hr⟩ := initializeFrom_spec (n := ⟨startServer g info, n.disk⟩) result
    ⟨rfl, rfl⟩ h.log
  refine ⟨n', hn', ?_⟩
  rw [hr.table]
  exact h.values

/-- A process that has started from a data file and the log `ws`: the log was short and
stays, or it went into the data file. -/
structure StartedFrom (path : Str) (d : Disk) (ws : List Write) (result : Nat) (n : Node) :
    Prop where
  diskFile : n.server.diskFilePath = path
  own : path = storagePath n.server.replicaGroup n.server.myInfo.tcpPort
  ready : n.server.currentlyInitializing = false
  notReading : n.server.currentlyReadingFromCheckpointFile = false
  table : n.server.table = runAll ws (loadDataFile (readFile path d) ∅)
  files : (ws.length < CHECKPOINTING_THRESHOLD ∧ n.writes = ws.length ∧
      readFile path n.disk = readFile path d ∧ LogHolds path n.disk ws) ∨
    (n.writes = 0 ∧ readFile path n.disk = checkpointText result n.server.table ∧
      LogHolds path n.disk [])

theorem startedFrom {g : Int} {info : ServerInfo} {servers : Int → List ServerInfo}
    {result : Nat} {d : Disk} {ws : List Write} {n : Node}
    (hlog : LogHolds (storagePath g info.tcpPort) d ws)
    (hn : startProcess g info servers result d = some n) :
    StartedFrom (storagePath g info.tcpPort) d ws result n := by
  obtain ⟨m, hm, hr⟩ := initializeFrom_spec (n := ⟨startServer g info, d⟩) result ⟨rfl, rfl⟩ hlog
  have hn : n = { m with server :=
      { m.server with currentlyInitializing := false, servers := servers } } := by
    have hstart : initializeFrom (startServer g info).diskFilePath result ⟨startServer g info, d⟩ =
        some m := hm
    simp only [startProcess, hstart, Option.bind_eq_bind, Option.bind_some] at hn
    exact (Option.some.inj hn).symm
  have hfiles := hr.files
  have hzero : (⟨startServer g info, d⟩ : Node).writes = 0 := rfl
  rw [hzero, Nat.zero_add] at hfiles
  subst hn
  refine ⟨?_, ?_, rfl, ?_, hr.table, ?_⟩
  · rw [hr.server]
    rfl
  · rw [hr.server]
    rfl
  · rw [hr.server]
    rfl
  · cases hfiles with
    | inl hshort =>
      obtain ⟨hfew, hwrites, hdata, hck⟩ := hshort
      exact Or.inl ⟨hfew, hwrites, hdata, hck.trans hlog.log, hlog.plain, hr.dead⟩
    | inr hfull =>
      obtain ⟨hwrites, hdata, hck⟩ := hfull
      exact Or.inr ⟨hwrites, hdata, hck, by simp, hr.dead⟩

/-- A process that starts from the files of such a server is durable. -/
theorem Durable.of_start {g : Int} {info : ServerInfo} {servers : Int → List ServerInfo}
    {result : Nat} {d : Disk} {ws : List Write} {n : Node}
    (hlog : LogHolds (storagePath g info.tcpPort) d ws)
    (hn : startProcess g info servers result d = some n) :
    n.server.diskFilePath = storagePath n.server.replicaGroup n.server.myInfo.tcpPort ∧
      ∃ ws', Durable n ws' := by
  have hs := startedFrom hlog hn
  have hclean : CleanTable n.server.table := by
    rw [hs.table]
    exact (cleanTable_loadDataFile _).runAll hlog.plain
  refine ⟨hs.diskFile.trans hs.own, ?_⟩
  cases hs.files with
  | inl hshort =>
    obtain ⟨hfew, hwrites, hdata, hholds⟩ := hshort
    refine ⟨ws, ⟨hs.ready, hs.notReading, hs.diskFile ▸ hholds, hwrites, hclean, ?_⟩, hfew⟩
    rw [hs.diskFile, hdata, hs.table]
  | inr hfull =>
    obtain ⟨hwrites, hdata, hholds⟩ := hfull
    refine ⟨[], ⟨hs.ready, hs.notReading, hs.diskFile ▸ hholds, hwrites, hclean, ?_⟩, by decide⟩
    rw [hs.diskFile, hdata]
    exact valuesOf_snapshot hclean result

/-! ### One write -/

lemma applyWrite_of_failed {x : Write} {n : Node} (h : (x.run n.server.table).2 = false) :
    (applyWrite x n).1 = n.setTable (x.run n.server.table).1 := by
  unfold applyWrite
  dsimp only
  rw [h]
  rfl

lemma applyWrite_of_ok {x : Write} {n : Node} (h : (x.run n.server.table).2 = true)
    (hr : n.server.currentlyReadingFromCheckpointFile = false) :
    (applyWrite x n).1 =
      { server := { n.server with
          table := (x.run n.server.table).1
          currentNumberOfWritesForReplicaAndServer := n.writes + 1 }
        disk := appendToFile (checkpointPath n.server.diskFilePath) x.line n.disk } := by
  unfold applyWrite handleAppend
  dsimp only
  rw [h, if_pos rfl, if_pos ⟨line_length_pos x, hr⟩]
  rfl

/-- A write keeps the files in step with the table; the log gets it if it took effect. -/
theorem Logged.applyWrite {n : Node} {ws : List Write} (h : Logged n ws) {x : Write}
    (hx : Plain x) :
    Logged (applyWrite x n).1 (if (x.run n.server.table).2 then ws ++ [x] else ws) := by
  cases hrun : (x.run n.server.table).2 with
  | false =>
    rw [applyWrite_of_failed hrun, if_neg (by decide)]
    refine ⟨h.ready, h.notReading, h.log, h.writes, h.clean.run hx, ?_⟩
    exact h.values.trans (valuesOf_run_of_failed hrun).symm
  | true =>
    have hck := checkpointPath_ne n.server.diskFilePath
    rw [applyWrite_of_ok hrun h.notReading, if_pos rfl]
    refine ⟨h.ready, h.notReading, h.log.append hx, ?_, h.clean.run hx, ?_⟩
    · have hwrites := h.writes
      simp only [Node.writes, List.length_append, List.length_singleton] at hwrites ⊢
      rw [hwrites]
    · rw [readFile_appendToFile, if_neg hck, runAll_append_singleton]
      exact valuesOf_run_congr h.values

lemma length_logAfter (x : Write) (t : Table) (ws : List Write) :
    (if (x.run t).2 then ws ++ [x] else ws).length ≤ ws.length + 1 := by
  split
  · simp
  · omega

/-- A checkpoint takes the values into the data file and empties the log. -/
lemma Logged.checkpointNode {n : Node} {ws : List Write} (h : Logged n ws) (result : Nat) :
    Logged (checkpointNode n.server.diskFilePath result n) [] := by
  obtain ⟨hdata, hlog, hother⟩ := readFile_checkpointTable n.server.diskFilePath result
    n.server.table n.disk
  have hdead := hother _ (Ne.symm (deadServerLogPath_ne _)) (deadServerLogPath_ne_tmpPath _)
    (deadServerLogPath_ne_checkpointPath _)
  refine ⟨h.ready, h.notReading, ⟨hlog, by simp, hdead.trans h.log.dead⟩, rfl, h.clean, ?_⟩
  have hload : valuesOf (loadDataFile (readFile n.server.diskFilePath
      (checkpointTable n.server.diskFilePath result n.server.table n.disk)) ∅) =
      valuesOf n.server.table := by
    rw [hdata]
    exact valuesOf_snapshot h.clean result
  exact hload

/-- The checkpoint that may be due leaves a short log. -/
theorem Logged.checkpointAfter {n : Node} {ws : List Write} (h : Logged n ws)
    (hle : ws.length ≤ CHECKPOINTING_THRESHOLD) (result : Nat) :
    ∃ ws', Durable (checkpointAfter result n) ws' := by
  have hwrites := h.writes
  unfold CloudStorage.checkpointAfter
  split
  · exact ⟨[], h.checkpointNode result, by decide⟩
  · next hne => exact ⟨ws, h, by omega⟩

theorem Durable.applyWrite {n : Node} {ws : List Write} (h : Durable n ws) {x : Write}
    (hx : Plain x) (result : Nat) :
    ∃ ws', Durable (CloudStorage.checkpointAfter result (CloudStorage.applyWrite x n).1) ws' := by
  have hle := length_logAfter x n.server.table ws
  have hfew := h.few
  exact (h.toLogged.applyWrite hx).checkpointAfter (by omega) result

/-- Files of other servers do not matter. -/
lemma Durable.of_disk {n : Node} {ws : List Write} (h : Durable n ws) {d : Disk}
    (hdata : readFile n.server.diskFilePath d = readFile n.server.diskFilePath n.disk)
    (hlog : readFile (checkpointPath n.server.diskFilePath) d =
      readFile (checkpointPath n.server.diskFilePath) n.disk)
    (hdead : readFile (deadServerLogPath n.server.diskFilePath) d =
      readFile (deadServerLogPath n.server.diskFilePath) n.disk) :
    Durable { n with disk := d } ws := by
  refine ⟨⟨h.ready, h.notReading, ⟨?_, h.log.plain, ?_⟩, h.writes, h.clean, ?_⟩, h.few⟩
  · exact hlog.trans h.log.log
  · exact hdead.trans h.log.dead
  · have hvalues := h.values
    rw [← hdata] at hvalues
    exact hvalues

/-! ### Runs of one server -/

/-- What happens to a storage server: a command on a connection that last answered `msg`,
a status message that changes roles, or a crash and a new start. -/
inductive ServerEvent where
  | command (time : Nat) (msg command : Str)
  | status (isPrimary : Bool) (primaryInfo : ServerInfo) (servers : Int → List ServerInfo)
  | restart (result : Nat)

/-- The next start of the process at `a`. -/
def restarted (a : Address) (result : Nat) (w : World) : Option Node :=
  let s := w.server a
  startProcess s.replicaGroup s.myInfo s.servers result w.disk

/-- The server at `a`, started from a data file and a log of its own. -/
def storageServer (a : Address) : System World ServerEvent where
  init w := ∃ g info servers result d ws,
    LogHolds (storagePath g info.tcpPort) d ws ∧
      startProcess g info servers result d = some (w.node a)
  next w
    | .command time msg command =>
      (serveCommand 1 a msg command { w with time := time }).map Prod.fst
    | .status isPrimary primaryInfo servers =>
      let s := w.server a
      some (w.setNode a ⟨{ s with
        myInfo := { s.myInfo with isPrimary := isPrimary }
        primaryInfo := primaryInfo
        servers := servers }, w.disk⟩)
    | .restart result => (restarted a result w).map (w.setNode a)

/-- A command is a write with plain parameters that the server carries out itself: as a
primary without live secondaries, or as a secondary that the primary sent it to. -/
def AppliesLocally (a : Address) (w : World) : ServerEvent → Prop
  | .command _ _ command => ∃ x extra,
      splitKVStoreCommand command = Write.word x :: (x.fields ++ extra) ∧ Plain x ∧
      if (w.server a).myInfo.isPrimary then
        ∀ it ∈ (w.server a).serverList, it.isPrimary = false →
          it.isDead = true ∧ it.tcpPort ≠ (w.server a).myInfo.tcpPort
      else classify (splitKVStoreCommand command) = .primary
  | _ => True

/-- The process at `a` is durable and keeps its files where it would look for them. -/
def DurableAt (a : Address) (w : World) : Prop :=
  (∃ ws, Durable (w.node a) ws) ∧
    (w.server a).diskFilePath =
      storagePath (w.server a).replicaGroup (w.server a).myInfo.tcpPort

/-- A local write runs on the node itself, after dead-server logs were written. -/
theorem serveCommand_local {a : Address} {w w' : World} {x : Write} {extra : List Str}
    {msg command : Str} (hw : DurableAt a w)
    (hx : splitKVStoreCommand command = x.word :: (x.fields ++ extra))
    (hlocal : if (w.server a).myInfo.isPrimary then
        ∀ it ∈ (w.server a).serverList, it.isPrimary = false →
          it.isDead = true ∧ it.tcpPort ≠ (w.server a).myInfo.tcpPort
      else classify (splitKVStoreCommand command) = .primary)
    (h : (serveCommand 1 a msg command w).map Prod.fst = some w') :
    ∃ d, w' = applyAt { w with disk := d } a x ∧
      ∃ ws, Durable { w.node a with disk := d } ws := by
  obtain ⟨⟨ws, hdur⟩, hpath⟩ := hw
  have hready : (w.node a).server.currentlyInitializing = false := hdur.ready
  cases hp : (w.server a).myInfo.isPrimary with
  | true =>
    rw [hp, if_pos rfl] at hlocal
    obtain ⟨d, he, hd⟩ := forwardToAllSecondaryServers_dead
      (readAndWriteFromSocket (serveCommand 0)) (w.server a).replicaGroup x w
      (fun it hit hs => (hlocal it hit hs).1)
    refine ⟨d, ?_, ws, ?_⟩
    · unfold serveCommand at h
      dsimp only at h
      rw [hx, handleCommand_write, handleWrite_at_primary hready hp] at h
      simp only [he, Option.map_some, if_true, Option.some.injEq] at h
      exact h.symm
    · -- the logs of other servers are none of the node's own files
      have hpath' : (w.node a).server.diskFilePath =
          storagePath (w.server a).replicaGroup (w.server a).myInfo.tcpPort := hpath
      apply hdur.of_disk
      · rw [hpath']
        exact hd _ (fun it _ _ => Ne.symm (deadServerLogPath_ne_own _ _ _ _).1)
      · rw [hpath']
        exact hd _ (fun it _ _ => Ne.symm (deadServerLogPath_ne_own _ _ _ _).2.2)
      · rw [hpath']
        refine hd _ (fun it hit hs he => ?_)
        exact (hlocal it hit hs).2 (storagePath_injective (List.append_cancel_right he)).symm
  | false =>
    rw [hp, if_neg (by decide)] at hlocal
    refine ⟨w.disk, ?_, ws, hdur⟩
    rw [hx] at hlocal
    unfold serveCommand at h
    dsimp only at h
    rw [hx, hlocal, handleCommand_write, handleWrite_at_secondary hready hp] at h
    simp only [Option.map_some, Option.some.injEq] at h
    exact h.symm

lemma DurableAt.of_start {a : Address} {w : World} {g : Int} {info : ServerInfo}
    {servers : Int → List ServerInfo} {result : Nat} {d : Disk} {ws : List Write}
    (hlog : LogHolds (storagePath g info.tcpPort) d ws)
    (hn : startProcess g info servers result d = some (w.node a)) : DurableAt a w := by
  obtain ⟨hpath, hdur⟩ := Durable.of_start hlog hn
  exact ⟨hdur, hpath⟩

lemma setNode_server (w : World) (a : Address) (n : Node) : (w.setNode a n).server a = n.server :=
  Function.update_self a _ _

lemma node_setNode (w : World) (a : Address) (n : Node) : (w.setNode a n).node a = n := by
  unfold World.node
  rw [setNode_server]
  rfl

/-- Every event keeps the server durable. -/
theorem DurableAt.step {a : Address} {w w' : World} {e : ServerEvent} (hw : DurableAt a w)
    (he : AppliesLocally a w e) (hnext : (storageServer a).next w e = some w') :
    DurableAt a w' := by
  cases e with
  | command time msg command =>
    obtain ⟨x, extra, hx, hplain, hlocal⟩ := he
    obtain ⟨d, rfl, ws, hdur⟩ := serveCommand_local (w := { w with time := time }) hw hx hlocal
      hnext
    obtain ⟨ws', hdur'⟩ := hdur.applyWrite hplain time
    have hset := applyAt_sameSettings { w with time := time, disk := d } a x a
    refine ⟨⟨ws', ?_⟩, ?_⟩
    · rw [applyAt, World.settle, node_setNode]
      exact hdur'
    · rw [settings_diskFilePath hset, settings_myInfo hset, settings_replicaGroup hset]
      exact hw.2
  | status isPrimary primaryInfo servers =>
    obtain ⟨⟨ws, hdur⟩, hpath⟩ := hw
    cases hnext
    refine ⟨⟨ws, ?_⟩, ?_⟩
    · rw [node_setNode]
      exact ⟨⟨hdur.ready, hdur.notReading, hdur.log, hdur.writes, hdur.clean, hdur.values⟩,
        hdur.few⟩
    · rw [setNode_server]
      exact hpath
  | restart result =>
    obtain ⟨⟨ws, hdur⟩, hpath⟩ := hw
    obtain ⟨n, hn, rfl⟩ := Option.map_eq_some_iff.mp hnext
    have hlog := hdur.log
    rw [show (w.node a).server.diskFilePath = _ from hpath] at hlog
    exact DurableAt.of_start hlog (hn.trans (congrArg some (node_setNode w a n).symm))

theorem storageServer_durable {a : Address} {w : World}
    (h : (storageServer a).Reachable (AppliesLocally a) w) : DurableAt a w := by
  refine h.invariant ?_ (fun _ _ _ hs hok hnext => DurableAt.step hs hok hnext)
  rintro w ⟨g, info, servers, result, d, ws, hlog, hn⟩
  exact DurableAt.of_start hlog hn

/-- Whenever the server crashes, its next start restores exactly the cells with a value. -/
theorem restart_restores_cells {a : Address} {w : World}
    (h : (storageServer a).Reachable (AppliesLocally a) w) (result : Nat) :
    ∃ n, restarted a result w = some n ∧ ∀ r c v, v ≠ [] →
      (n.server.table.get r c = some v ↔ (w.server a).table.get r c = some v) := by
  obtain ⟨⟨ws, hdur⟩, hpath⟩ := storageServer_durable h
  obtain ⟨n, hn, hvalues⟩ := hdur.restored result (w.server a).replicaGroup (w.server a).myInfo
  rw [show (w.node a).server.diskFilePath = _ from hpath] at hn
  refine ⟨_, by unfold restarted startProcess; exact Option.bind_eq_some_iff.mpr ⟨n, hn, rfl⟩, ?_⟩
  intro r c v hv
  exact get_eq_some_iff_of_values hvalues r c v hv

/-- Server 2002 of group 1, started without any files. -/
def firstStart : Option Node :=
  startProcess 1 (group1Info 2002) (fun _ => []) 0 (fun _ => none)

def alone (n : Node) : World where
  server := fun _ => n.server
  disk := n.disk
  time := 0
  outcomes := []

/-- A plain write that the primary sends to a secondary, or no write at all. -/
def forwardedPlain (a : Address) (w : World) : ServerEvent → Bool
  | .command _ _ command =>
    (writeOf (splitKVStoreCommand command)).any (fun x => decide (Plain x)) &&
      decide ((w.server a).myInfo.isPrimary = false ∧
        classify (splitKVStoreCommand command) = .primary)
  | .status _ _ _ | .restart _ => true

lemma appliesLocally_of_check {a : Address} {w : World} {e : ServerEvent}
    (h : forwardedPlain a w e = true) : AppliesLocally a w e := by
  cases e with
  | command time msg command =>
    obtain ⟨hwrite, hrest⟩ := Bool.and_eq_true_iff.mp h
    obtain ⟨hrole, horigin⟩ := of_decide_eq_true hrest
    obtain ⟨x, hx, hplain⟩ := (Option.any_eq_true _ _).mp hwrite
    obtain ⟨extra, hsplit⟩ := eq_of_writeOf hx
    refine ⟨x, extra, hsplit, of_decide_eq_true hplain, ?_⟩
    rw [hrole, if_neg (by decide)]
    exact horigin
  | status _ _ _ | restart _ => trivial

/-- The primary sends it three writes, the third of which makes the checkpoint. It is started
again and gets another one. -/
def forwardedWrites : List ServerEvent :=
  [.command 5 [] "PUT r,c,v,PRIMARY".toList, .command 6 [] "PUT r,d,x,PRIMARY".toList,
    .command 7 [] "CPUT r,c,v,w,PRIMARY".toList, .restart 8,
    .command 9 [] "DELETE r,d,PRIMARY".toList]

theorem restart_restores_cells_writes : ∃ n w, firstStart = some n ∧
    (storageServer (group1Address 2002)).exec (alone n) forwardedWrites = some w ∧
    (w.server (group1Address 2002)).table.get ['r'] ['c'] = some ['w'] ∧
    (w.server (group1Address 2002)).table.get ['r'] ['d'] = none ∧
    readFile (w.server (group1Address 2002)).diskFilePath w.disk = "7\nr,c,w\nr,d,x\n".toList ∧
    ∃ n', restarted (group1Address 2002) 9 w = some n' ∧ ∀ r c v, v ≠ [] →
      (n'.server.table.get r c = some v ↔
        (w.server (group1Address 2002)).table.get r c = some v) := by
  have hrun : (firstStart.bind (fun n =>
      ((storageServer (group1Address 2002)).exec (alone n) forwardedWrites).map (fun w =>
        ((storageServer (group1Address 2002)).checkAlong (forwardedPlain (group1Address 2002))
          (alone n) forwardedWrites, (w.server (group1Address 2002)).table.get ['r'] ['c'],
          (w.server (group1Address 2002)).table.get ['r'] ['d'],
          readFile (w.server (group1Address 2002)).diskFilePath w.disk)))) =
      some (true, some ['w'], none, "7\nr,c,w\nr,d,x\n".toList) := by
    decide +kernel
  obtain ⟨n, hn, hrun⟩ := Option.bind_eq_some_iff.mp hrun
  obtain ⟨w, hw, hr⟩ := Option.map_eq_some_iff.mp hrun
  obtain ⟨hcheck, hr⟩ := Prod.mk.inj hr
  obtain ⟨hc, hr⟩ := Prod.mk.inj hr
  obtain ⟨hd, hdata⟩ := Prod.mk.inj hr
  have hinit : (storageServer (group1Address 2002)).init (alone n) :=
    ⟨1, group1Info 2002, fun _ => [], 0, fun _ => none, [],
      ⟨rfl, fun _ h => absurd h List.not_mem_nil, rfl⟩, hn⟩
  have hreach : (storageServer (group1Address 2002)).Reachable
      (AppliesLocally (group1Address 2002)) w := by
    refine System.Reachable.of_check ?_ (.init hinit) hcheck hw
    exact fun _ _ _ h => appliesLocally_of_check h
  exact ⟨n, w, hn, hw, hc, hd, hdata, restart_restores_cells hreach 9⟩

end CloudStorage.Proofs
