import CloudStorage.Cluster
import CloudStorage.Proofs.ConfigFile
import CloudStorage.Proofs.Identity

/-!
# Starting from the configuration file

A storage server initializes before it reads the file in which it finds its own entry. This
file proves that the order makes no difference, and that the processes that are started with
a file that has a line for each server are in an initial state of the cluster.
-/

namespace CloudStorage.Proofs
open DelimitedText

/-! ### Initializing before the file is read -/

/-- A server with another entry for itself. -/
def withInfo (info : ServerInfo) (n : Node) : Node :=
  { n with server := { n.server with myInfo := info } }

lemma handleAppend_withInfo (info : ServerInfo) (command : Str) (n : Node) :
    handleAppend command (withInfo info n) = withInfo info (handleAppend command n) := by
  unfold handleAppend
  by_cases hlog : 0 < command.length ∧ n.server.currentlyReadingFromCheckpointFile = false
  · rw [if_pos hlog]
    exact if_pos hlog
  · rw [if_neg hlog]
    exact if_neg hlog

lemma applyWrite_withInfo (info : ServerInfo) (w : Write) (n : Node) :
    applyWrite w (withInfo info n) = (withInfo info (applyWrite w n).1, (applyWrite w n).2) := by
  unfold applyWrite
  dsimp only [withInfo]
  split
  · exact congrArg (·, okMsg) (handleAppend_withInfo info w.line (n.setTable _))
  · rfl

lemma handleWrite_withInfo (info : ServerInfo) (w : Write) (msg : Str) {n : Node}
    (h : n.server.currentlyInitializing = true) :
    (handleWrite w .frontend msg (withInfo info n)).node? =
      (handleWrite w .frontend msg n).node?.map (withInfo info) := by
  have hinfo : (withInfo info n).server.currentlyInitializing = true := h
  rw [handleWrite, handleWrite, if_pos h, if_pos hinfo, applyWrite_withInfo]
  rfl

/-- A line is replayed without a look at the own entry. -/
lemma replayLine_withInfo (info : ServerInfo) {n : Node}
    (h : n.server.currentlyInitializing = true) (line : Str) :
    replayLine (withInfo info n) line = (replayLine n line).map (withInfo info) := by
  unfold replayLine
  cases splitKVStoreCommand line with
  | nil => rfl
  | cons word args =>
    by_cases hput : word = "PUT ".toList
    · subst hput
      change (handlePut args .frontend [] _).node? = (handlePut args .frontend [] n).node?.map _
      unfold handlePut
      split
      · exact handleWrite_withInfo info _ _ h
      · rfl
    by_cases hget : word = "GET ".toList
    · subst hget
      rfl
    by_cases hcput : word = "CPUT ".toList
    · subst hcput
      change (handleCput args .frontend [] _).node? = (handleCput args .frontend [] n).node?.map _
      unfold handleCput
      split
      · exact handleWrite_withInfo info _ _ h
      · rfl
    by_cases hdelete : word = "DELETE ".toList
    · subst hdelete
      change (handleDelete args .frontend [] _).node? =
        (handleDelete args .frontend [] n).node?.map _
      unfold handleDelete
      split
      · exact handleWrite_withInfo info _ _ h
      · rfl
    simp only [handleCommand, hput, hget, hcput, hdelete, if_false]
    by_cases hlist : word = "LIST ".toList
    · have htable : (withInfo info n).server.table = n.server.table := rfl
      rw [if_pos hlist, if_pos hlist, htable]
      cases listReply n.server.table args with
      | some reply => rfl
      | none => rfl
    · rw [if_neg hlist, if_neg hlist]
      rfl

lemma foldlM_withInfo (info : ServerInfo) {step : Node → Str → Option Node}
    (hstep : ∀ n line, n.server.currentlyInitializing = true →
      step (withInfo info n) line = (step n line).map (withInfo info))
    (hkeep : ∀ n line n', step n line = some n' → identity n'.server = identity n.server)
    {n : Node} (h : n.server.currentlyInitializing = true) (lines : List Str) :
    lines.foldlM step (withInfo info n) = (lines.foldlM step n).map (withInfo info) := by
  induction lines generalizing n with
  | nil => rfl
  | cons line lines ih =>
    rw [List.foldlM_cons, List.foldlM_cons, hstep n line h]
    cases hline : step n line with
    | none => rfl
    | some m =>
      have hm : m.server.currentlyInitializing = true :=
        (congrArg Server.currentlyInitializing (hkeep n line m hline)).trans h
      exact ih hm

lemma initializing_of_identity {n m : Node} (hid : identity m.server = identity n.server)
    (h : n.server.currentlyInitializing = true) : m.server.currentlyInitializing = true :=
  (congrArg Server.currentlyInitializing hid).trans h

lemma checkpointIfFull_withInfo (info : ServerInfo) (path : Str) (result : Nat) (n : Node) :
    checkpointIfFull path result (withInfo info n) =
      withInfo info (checkpointIfFull path result n) := by
  unfold checkpointIfFull
  by_cases hfull : CHECKPOINTING_THRESHOLD ≤ n.writes
  · rw [if_pos hfull, if_pos (show CHECKPOINTING_THRESHOLD ≤ (withInfo info n).writes from hfull)]
    rfl
  · rw [if_neg hfull,
      if_neg (show ¬CHECKPOINTING_THRESHOLD ≤ (withInfo info n).writes from hfull)]

/-- The node when the data file is loaded. -/
def loadedNode (path : Str) (n : Node) : Node :=
  let d := createFile path n.disk
  { server := { n.server with
      table := loadDataFile (readFile path d) n.server.table
      currentlyReadingFromCheckpointFile := true }
    disk := createFile (checkpointPath path) d }

lemma loadAndReplay_loadedNode (path : Str) (n : Node) :
    loadAndReplay path n =
      ((getlines '\n' (readFile (checkpointPath path) (loadedNode path n).disk)).foldlM
        replayLogLine (loadedNode path n)).map (fun n => n.setReading false) := rfl

lemma loadAndReplay_withInfo (info : ServerInfo) (path : Str) {n : Node}
    (h : n.server.currentlyInitializing = true) :
    loadAndReplay path (withInfo info n) = (loadAndReplay path n).map (withInfo info) := by
  have hstep : ∀ n line, n.server.currentlyInitializing = true →
      replayLogLine (withInfo info n) line = (replayLogLine n line).map (withInfo info) :=
    fun n line hn => replayLine_withInfo info (n := n.setWrites (n.writes + 1)) hn line
  have hkeep : ∀ n line n', replayLogLine n line = some n' →
      identity n'.server = identity n.server := by
    intro n line n' hline
    have hid := identity_replayLine hline
    exact hid
  have hfold := foldlM_withInfo info hstep hkeep (n := loadedNode path n) h
  rw [loadAndReplay_loadedNode, loadAndReplay_loadedNode]
  change (List.foldlM replayLogLine (withInfo info (loadedNode path n)) _).map _ = _
  rw [hfold, Option.map_map, Option.map_map]
  rfl

lemma crashRecoveryFunction_withInfo (info : ServerInfo) (path : Str) {n : Node}
    (h : n.server.currentlyInitializing = true) :
    crashRecoveryFunction path (withInfo info n) =
      (crashRecoveryFunction path n).map (withInfo info) := by
  have hfold := foldlM_withInfo info (fun _ line hn => replayLine_withInfo info hn line)
    (fun _ _ _ hline => identity_replayLine hline)
    (n := { n with disk := createFile (deadServerLogPath path) n.disk }) h
  unfold crashRecoveryFunction readDeadServerLog
  dsimp only
  change (List.foldlM replayLine (withInfo info { n with
    disk := createFile (deadServerLogPath path) n.disk }) _).map _ = _
  rw [hfold, Option.map_map, Option.map_map]
  rfl

/-- It makes no difference that the own entry is not read yet when the files are. -/
theorem initializeFrom_withInfo (info : ServerInfo) (path : Str) (result : Nat) {n : Node}
    (h : n.server.currentlyInitializing = true) :
    initializeFrom path result (withInfo info n) =
      (initializeFrom path result n).map (withInfo info) := by
  have hload := loadAndReplay_withInfo info path h
  unfold initializeFrom
  rw [hload]
  cases hn₁ : loadAndReplay path n with
  | none => rfl
  | some n₁ =>
    have h₁ : (checkpointIfFull path result n₁).server.currentlyInitializing = true :=
      initializing_of_identity ((identity_checkpointIfFull path result n₁).trans
        (identity_loadAndReplay hn₁)) h
    change (crashRecoveryFunction path (checkpointIfFull path result (withInfo info n₁))).bind _ =
      ((crashRecoveryFunction path (checkpointIfFull path result n₁)).bind _).map _
    rw [checkpointIfFull_withInfo, crashRecoveryFunction_withInfo info path h₁]
    cases crashRecoveryFunction path (checkpointIfFull path result n₁) with
    | none => rfl
    | some n₂ => exact congrArg some (checkpointIfFull_withInfo info path result n₂)

/-! ### Starting from the file -/

section Start

variable {lines : List Str} {infos : List BackendServerInfo}

lemma Describes.listable (h : Describes lines infos) : ∀ info ∈ infos, Listable info := by
  induction h with
  | nil => exact fun _ hinfo => absurd hinfo List.not_mem_nil
  | server _ _ hinfo _ ih => exact List.forall_mem_cons.mpr ⟨hinfo, ih⟩
  | other _ _ _ ih => exact ih

/-- The servers of a group, in the order of the file. -/
def groupOf (infos : List BackendServerInfo) (g : Int) : List BackendServerInfo :=
  infos.filter (fun info => info.replicaGroup = g)

lemma Listable.configured {info : BackendServerInfo} (h : Listable info) :
    Configured info.replicaGroup info.serverInfo where
  ip ch hch := by
    have hsub : [':', ';', '@'] ⊆ [',', '\n', ':', ';', '@'] := by simp
    exact h.ip ch (hsub hch)
  tcpPort := h.isInt _ (by simp [BackendServerInfo.serverInfo])
  replicaGroup := rfl
  isInt := h.isInt _ List.mem_cons_self
  isPrimary := h.isPrimary
  isDead := h.isDead

/-- The configuration of a file. -/
def Describes.configuration (h : Describes lines infos)
    (hports : (infos.map BackendServerInfo.tcpPort).Nodup) : Configuration where
  servers g := (groupOf infos g).map BackendServerInfo.serverInfo
  configured g info hinfo := by
    obtain ⟨entry, hentry, rfl⟩ := List.mem_map.mp hinfo
    obtain ⟨hmem, hg⟩ := List.mem_filter.mp hentry
    exact of_decide_eq_true hg ▸ (h.listable entry hmem).configured
  distinct g := by
    rw [List.map_map]
    exact hports.sublist (List.filter_sublist.map BackendServerInfo.tcpPort)

lemma serverInfos_foldl (infos : List BackendServerInfo) (g : Int) :
    (infos.foldl ServerMap.push .empty).serverInfos g =
      (groupOf infos g).map BackendServerInfo.serverInfo := by
  rw [ServerMap.serverInfos, group_foldl]
  rfl

/-- The server of group 0 that the loops take for the master. -/
def masterEntry (infos : List BackendServerInfo) (info : BackendServerInfo) : BackendServerInfo :=
  (groupOf infos 0).getLast?.getD info

lemma lookFor_master (infos : List BackendServerInfo) (info : BackendServerInfo) :
    lookFor (fun replicaGroup _ => replicaGroup = 0) (infos.foldl ServerMap.push .empty) info =
      masterEntry infos info := by
  rw [lookFor_group, group_foldl]
  rfl

/-- Each storage server finds its own entry by its port. -/
lemma lookFor_port (hports : (infos.map BackendServerInfo.tcpPort).Nodup)
    {found : BackendServerInfo} (hfound : found ∈ infos) (start : BackendServerInfo) :
    lookFor (fun _ info => found.tcpPort = info.tcpPort) (infos.foldl ServerMap.push .empty)
      start = found := by
  have hmem : ∀ info, info ∈ (infos.foldl ServerMap.push .empty).infos ↔ info ∈ infos := by
    intro info
    have hempty : ∀ g, ServerMap.group .empty g = [] := fun _ => rfl
    simp only [mem_infos, group_foldl, hempty, List.nil_append, List.mem_filter,
      decide_eq_true_eq]
    exact ⟨fun ⟨_, hinfo, _⟩ => hinfo, fun hinfo => ⟨_, hinfo, rfl⟩⟩
  refine lookFor_unique ((hmem found).mpr hfound) (by simp) (fun info hinfo hport => ?_) start
  exact (List.inj_on_of_nodup_map hports hfound ((hmem info).mp hinfo)
    (of_decide_eq_true hport)).symm

lemma startMaster_eq (h : Describes lines infos)
    (hports : (infos.map BackendServerInfo.tcpPort).Nodup) (port : Int) :
    startMaster port (joined '\n' lines) =
      some ⟨(h.configuration hports).master, ⟨(h.configuration hports).servers, fun _ => 0⟩,
        masterEntry infos (argumentInfo port)⟩ := by
  have hservers : (infos.foldl ServerMap.push .empty).serverInfos =
      (h.configuration hports).servers := funext (serverInfos_foldl infos)
  unfold startMaster
  rw [h.parseServers]
  change some (MasterProcess.mk _ _ _) = _
  rw [hservers, lookFor_master]
  rfl

lemma startServer_withInfo {info : BackendServerInfo} (h : Listable info) (d : Disk) :
    (⟨startServer info.replicaGroup info.serverInfo, d⟩ : Node) =
      withInfo info.serverInfo
        ⟨startServer info.replicaGroup (argumentInfo info.tcpPort).serverInfo, d⟩ := by
  obtain ⟨ip, tcpPort, udpPort, udpPort2, tcpPort2, isPrimary, isDead, replicaGroup⟩ := info
  obtain rfl : isPrimary = false := h.isPrimary
  obtain rfl : isDead = true := h.isDead
  rfl

lemma startStorage_eq (h : Describes lines infos)
    (hports : (infos.map BackendServerInfo.tcpPort).Nodup) {info : BackendServerInfo}
    (hinfo : info ∈ infos) (result : Nat) (d : Disk) :
    startStorage info.replicaGroup info.tcpPort (joined '\n' lines) result d =
      (startProcess info.replicaGroup info.serverInfo (h.configuration hports).servers result
        d).map (fun n => ⟨n, info, masterEntry infos (argumentInfo 0)⟩) := by
  have hservers : (infos.foldl ServerMap.push .empty).serverInfos =
      (h.configuration hports).servers := funext (serverInfos_foldl infos)
  unfold startStorage startProcess
  dsimp only
  rw [h.parseServers, startServer_withInfo (h.listable info hinfo)]
  change (initializeFrom (storagePath info.replicaGroup info.tcpPort) result _).bind _ =
    ((initializeFrom (storagePath info.replicaGroup info.tcpPort) result _).bind _).map _
  rw [initializeFrom_withInfo info.serverInfo _ result rfl]
  cases initializeFrom (storagePath info.replicaGroup info.tcpPort) result
    ⟨startServer info.replicaGroup (argumentInfo info.tcpPort).serverInfo, d⟩ with
  | none => rfl
  | some n =>
    change some (StorageProcess.mk _ _ _) = some (StorageProcess.mk _ _ _)
    rw [hservers, lookFor_master, lookFor_port hports hinfo]
    rfl

/-- The master and the servers of a group have just been started with a file, each storage
server with whatever files it finds under `./storage`. -/
structure JustStarted (config : Str) (infos : List BackendServerInfo) (g : Int) (c : Cluster) :
    Prop where
  master : ∃ port p, startMaster port config = some p ∧ c.master = p.master
  heartbeats : c.heartbeats = []
  statuses : ∀ a, c.statuses a = []
  replica : ∀ info ∈ groupOf infos g, ∃ result d p,
    startStorage g info.tcpPort config result d = some p ∧
      c.replica info.serverInfo.address = ⟨p.node.server, false⟩

lemma JustStarted.init {g : Int} {c : Cluster} (h : Describes lines infos)
    (hports : (infos.map BackendServerInfo.tcpPort).Nodup)
    (hc : JustStarted (joined '\n' lines) infos g c) :
    (clusterSystem (h.configuration hports) g).init c := by
  refine ⟨?_, hc.heartbeats, hc.statuses, ?_⟩
  · obtain ⟨port, p, hp, hmaster⟩ := hc.master
    rw [startMaster_eq h hports] at hp
    rw [hmaster, ← Option.some.inj hp]
  · intro info hinfo
    obtain ⟨entry, hentry, rfl⟩ := List.mem_map.mp hinfo
    obtain ⟨result, d, p, hp, hreplica⟩ := hc.replica entry hentry
    obtain ⟨hmem, hg⟩ := List.mem_filter.mp hentry
    obtain rfl : entry.replicaGroup = g := of_decide_eq_true hg
    rw [startStorage_eq h hports hmem] at hp
    obtain ⟨n, hn, rfl⟩ := Option.map_eq_some_iff.mp hp
    exact ⟨result, d, n, hn, hreplica⟩

/-- A file with a line for each server, no two with one port, is a configuration: the master
starts with it, every storage server starts with it and finds its own entry and the master's,
and together they are in an initial state of the cluster. -/
theorem config_file_starts (h : Describes lines infos)
    (hports : (infos.map BackendServerInfo.tcpPort).Nodup) :
    ∃ config : Configuration,
      (∀ g, config.servers g = (groupOf infos g).map BackendServerInfo.serverInfo) ∧
      (∀ port, startMaster port (joined '\n' lines) =
        some ⟨config.master, ⟨config.servers, fun _ => 0⟩,
          masterEntry infos (argumentInfo port)⟩) ∧
      (∀ info ∈ infos, ∀ result d,
        startStorage info.replicaGroup info.tcpPort (joined '\n' lines) result d =
          (startProcess info.replicaGroup info.serverInfo config.servers result d).map
            (fun n => ⟨n, info, masterEntry infos (argumentInfo 0)⟩)) ∧
      ∀ g c, JustStarted (joined '\n' lines) infos g c → (clusterSystem config g).init c :=
  ⟨h.configuration hports, fun _ => rfl, startMaster_eq h hports,
    fun _ hinfo => startStorage_eq h hports hinfo, fun _ _ hc => hc.init h hports⟩

end Start

theorem config_file_starts_small :
    ∃ config : Configuration,
      (∀ g, config.servers g = (groupOf smallInfos g).map BackendServerInfo.serverInfo) ∧
      (∀ port, startMaster port (joined '\n' smallLines) =
        some ⟨config.master, ⟨config.servers, fun _ => 0⟩,
          masterEntry smallInfos (argumentInfo port)⟩) ∧
      (∀ info ∈ smallInfos, ∀ result d,
        startStorage info.replicaGroup info.tcpPort (joined '\n' smallLines) result d =
          (startProcess info.replicaGroup info.serverInfo config.servers result d).map
            (fun n => ⟨n, info, masterEntry smallInfos (argumentInfo 0)⟩)) ∧
      ∀ g c, JustStarted (joined '\n' smallLines) smallInfos g c →
        (clusterSystem config g).init c :=
  config_file_starts describes_small (by decide)

end CloudStorage.Proofs
