import CloudStorage.Proofs.PrimaryView
import CloudStorage.Proofs.Rejoin
import CloudStorage.Proofs.SequentialReplication

/-!
# Runs in which secondaries die and come back

The group from when its primary is established. Whatever order deaths, starts, messages and
writes come in, a secondary that runs again agrees with the primary if no write was logged
for it in the gap between the end of its dead-server log and the primary's notice of it.
-/

namespace CloudStorage.Proofs
open DelimitedText Registers Leadership

variable {config : Configuration} {g : Int} {p : Address} {s : ReplicaGroup}

/-- A start handles the dead-server log line by line between `beginRecovery` and
`endRecovery`. -/
theorem startProcess_eq (g : Int) (info : ServerInfo) (servers : Int → List ServerInfo)
    (result : Nat) (d : Disk) :
    startProcess g info servers result d =
      (beginRecovery (storagePath g info.tcpPort) result ⟨startServer g info, d⟩).bind (fun n =>
        ((getlines '\n' (readFile (deadServerLogPath (storagePath g info.tcpPort)) n.disk)).foldlM
          replayLine n).map (endRecovery (storagePath g info.tcpPort) servers result)) := by
  have hpath : (startServer g info).diskFilePath = storagePath g info.tcpPort := rfl
  unfold startProcess initializeFrom crashRecoveryFunction readDeadServerLog beginRecovery
  dsimp only
  rw [hpath]
  cases loadAndReplay (storagePath g info.tcpPort) ⟨startServer g info, d⟩ with
  | none => rfl
  | some n =>
    dsimp only [Option.bind_eq_bind, Option.bind_some, Option.map_some]
    cases List.foldlM replayLine _ _ with
    | none => rfl
    | some n' => rfl

/-- The primary is established, and all replicas run with the same cells. -/
structure Together (config : Configuration) (g : Int) (p : Address) (s : ReplicaGroup) : Prop where
  wellFormed : WellFormed config g s.cluster
  leader : (registryOf g s.cluster.master).leader = some p
  quiet : NoStatusInFlight config g s.cluster
  roles : ∀ info ∈ config.servers g,
    ((s.cluster.replica info.address).server.myInfo.isPrimary = true ↔ info.address = p)
  entries : ∀ it ∈ (s.cluster.replica p).server.servers g,
    (it.isPrimary = true ↔ it.address = p)
  named : ∀ a, ∃ k q, (s.cluster.replica a).server.diskFilePath = storagePath k q
  up : ∀ a, s.life a = .up
  noEmpty : NoEmpty (s.cluster.replica p).server.table
  runs : ∀ info ∈ config.servers g,
    Runs (storagePath g info.tcpPort) (cellsOf (s.cluster.replica p).server.table)
      (s.cluster.replica info.address).server s.cluster.disk

lemma Together.inStep (h : Together config g p s) : InStep config g p s where
  wellFormed := h.wellFormed
  leader := h.leader
  notices := by
    intro info hinfo text ht
    rw [h.quiet info hinfo] at ht
    exact absurd ht List.not_mem_nil
  roles := h.roles
  entries := h.entries
  running := h.up p
  ready := by
    obtain ⟨q, hq, rfl⟩ := Option.map_eq_some_iff.mp h.leader
    have hmem := (primary_mem h.wellFormed.master hq).1
    obtain ⟨info, hinfo, ha⟩ := mem_members (h.wellFormed.master.settings g) hmem
    obtain ⟨ws, hr, -⟩ := (h.runs info hinfo).recoverable
    rw [← ha]
    exact hr.ready
  named := h.named
  paths := fun info hinfo => (h.runs info hinfo).diskFilePath
  noEmpty := h.noEmpty
  started := by
    intro info _
    rw [h.up]
    trivial
  synced := by
    intro info hinfo _
    rw [h.up]
    exact h.runs info hinfo

/-- The primary gets its commands from connections, which end them at CR LF. -/
def EndsAtCrlf : GroupEvent → Prop
  | .command _ _ command => NoCrlf command
  | .network _ | .die _ | .start _ _ | .recover _ | .finish _ _ => True

instance : DecidablePred EndsAtCrlf := fun e =>
  match e with
  | .command _ _ command => inferInstanceAs (Decidable (NoCrlf command))
  | .network _ | .die _ | .start _ _ | .recover _ | .finish _ _ => isTrue trivial

def rejoining (config : Configuration) (g : Int) (p : Address) :
    System ReplicaGroup GroupEvent where
  init := Together config g p
  next := fun s e => if EndsAtCrlf e then ReplicaGroup.next config g p s e else none

/-- The condition on a step. The master keeps the primary, and only secondaries die, none
with a conditional write of its dead-server log already handled. A write that the primary
handles finds its cell; every secondary marked dead then will still read what is logged for
it, and every one marked alive runs, unless the write reaches none and is refused. -/
def LeavesNoGap (config : Configuration) (g : Int) (p : Address) (s : ReplicaGroup) :
    GroupEvent → Prop
  | .network e => KeepsLeader config g p s e
  | .command _ _ command => ∀ x extra,
      splitKVStoreCommand command = Write.word x :: (x.fields ++ extra) →
        RefusedFirst s.life (s.primaryList p) ∨
          ReachesAll s.life (s.primaryList p) (s.cluster.replica p).server.table x
  | .die info => info.address ≠ p ∧ MayDie s.cluster.disk (s.life info.address)
  | .start _ _ | .recover _ | .finish _ _ => True

theorem InStep.next (hudp : DistinctStatusAddresses config g) (h : InStep config g p s)
    {e : GroupEvent} (hok : LeavesNoGap config g p s e) {s' : ReplicaGroup}
    (hnext : (rejoining config g p).next s e = some s') : InStep config g p s' := by
  change (if EndsAtCrlf e then ReplicaGroup.next config g p s e else none) = some s' at hnext
  split at hnext
  · next hcrlf =>
    cases e with
    | network e => exact h.network hudp hok hnext
    | command time msg command => exact h.command (hcrlf) hok hnext
    | die info =>
      obtain ⟨hinfo, hs⟩ := of_ofMember_group hnext
      obtain rfl := Option.some.inj hs
      exact h.die hinfo hok.1 hok.2
    | start info result =>
      obtain ⟨hinfo, hs⟩ := of_ofMember_group hnext
      exact h.start hinfo hs
    | recover info =>
      obtain ⟨hinfo, hs⟩ := of_ofMember_group hnext
      exact h.recover hinfo hs
    | finish info result =>
      obtain ⟨hinfo, hs⟩ := of_ofMember_group hnext
      exact h.finish hinfo hs
  · exact absurd hnext (by simp)

theorem reachable_inStep (hudp : DistinctStatusAddresses config g)
    (h : (rejoining config g p).Reachable (LeavesNoGap config g p) s) : InStep config g p s :=
  h.invariant (fun _ hinit => Together.inStep hinit)
    (fun _ _ _ hs hok hnext => hs.next hudp hok hnext)

/-- In every run that leaves no gap, a replica that runs gives the primary's answer to every
GET request, however often it died. -/
theorem rejoined_replica_agrees (hudp : DistinctStatusAddresses config g)
    (h : (rejoining config g p).Reachable (LeavesNoGap config g p) s) {info : ServerInfo}
    (hinfo : info ∈ config.servers g) (hup : s.life info.address = .up) {request : Str}
    (hg : (splitKVStoreCommand request).head? = some "GET ".toList) (time : Nat)
    (msg msg' : Str) :
    ∃ reply, (serveCommand 2 info.address msg request (s.world p time)).map Prod.snd =
        some reply ∧
      (serveCommand 2 p msg' request (s.world p time)).map Prod.snd = some reply := by
  have hstep := reachable_inStep hudp h
  have hcells : cellsOf (s.cluster.replica info.address).server.table =
      cellsOf (s.cluster.replica p).server.table := by
    by_cases ha : info.address = p
    · rw [ha]
    · have hsync := hstep.synced info hinfo ha
      rw [hup] at hsync
      exact hsync.cells
  refine ⟨_, serveCommand_get hg 1 msg _ info.address, ?_⟩
  rw [serveCommand_get hg]
  exact congrArg some (getReply_congr hcells.symm _)

/-! ### Group 1 -/

/-- A server that starts without files has what `main` sets up. -/
lemma startedReplica_server (port : Int) : (startedReplica port).server =
    { startServer 1 (group1Entry port) with
      currentlyInitializing := false, servers := group1Configuration.servers } := by
  have hlog : LogHolds (storagePath 1 port) (fun _ => none) [] :=
    ⟨rfl, fun _ h => absurd h List.not_mem_nil, rfl⟩
  obtain ⟨n, hn, hr⟩ := initializeFrom_spec 0
    (n := ⟨startServer 1 (group1Entry port), fun _ => none⟩) ⟨rfl, rfl⟩ hlog
  have hserver : n.server = startServer 1 (group1Entry port) := by
    have hwrites : n.writes = 0 := by
      cases hr.files with
      | inl h => exact h.2.1
      | inr h => exact h.1
    rw [hr.server, hr.table, hwrites]
    rfl
  unfold startedReplica
  have hstart : startProcess 1 (group1Entry port) group1Configuration.servers 0 (fun _ => none) =
      some { n with server := { n.server with
        currentlyInitializing := false, servers := group1Configuration.servers } } := by
    exact Option.bind_eq_some_iff.mpr ⟨n, hn, rfl⟩
  rw [hstart, hserver]

/-- An event of the threads that exchange messages. -/
def IsMessage : ClusterEvent → Prop
  | .sendHeartbeat _ | .recvHeartbeat _ _ | .checkHeartbeat _ _ | .awaitStatus _
  | .receiveStatus _ _ => True
  | .disable _ | .enable _ _ | .restart _ _ => False

instance : DecidablePred IsMessage := fun e =>
  match e with
  | .sendHeartbeat _ | .recvHeartbeat _ _ | .checkHeartbeat _ _ | .awaitStatus _
  | .receiveStatus _ _ => isTrue trivial
  | .disable _ | .enable _ _ | .restart _ _ => isFalse not_false

/-- Files and storage of the servers are the same in two clusters. -/
structure SameStorage (c c' : Cluster) : Prop where
  disk : c'.disk = c.disk
  storage : ∀ a, storageOf (c'.replica a).server = storageOf (c.replica a).server

lemma sameStorage_setReplica {c : Cluster} {a : Address} {r : Replica}
    (h : storageOf r.server = storageOf (c.replica a).server) :
    SameStorage c (c.setReplica a r) := by
  refine ⟨rfl, fun b => ?_⟩
  change storageOf (assign c.replica a r b).server = _
  by_cases hb : b = a
  · rw [hb, assign_self]
    exact h
  · rw [assign_of_ne hb]

/-- Heartbeats and status messages leave files and storage alone. -/
lemma sameStorage_next {c c' : Cluster} {e : ClusterEvent} (he : IsMessage e)
    (h : Cluster.next config g c e = some c') : SameStorage c c' := by
  cases e with
  | sendHeartbeat info =>
    obtain ⟨-, h⟩ := of_ofMember h
    unfold Cluster.sendHeartbeat at h
    dsimp only at h
    split at h
    · obtain rfl := Option.some.inj h
      exact ⟨rfl, fun _ => rfl⟩
    · exact absurd h (by simp)
  | recvHeartbeat i now =>
    obtain ⟨message, -, h⟩ := Option.bind_eq_some_iff.mp h
    obtain ⟨⟨m, out⟩, -, h⟩ := Option.bind_eq_some_iff.mp h
    obtain rfl := Option.some.inj h
    exact ⟨rfl, fun _ => rfl⟩
  | checkHeartbeat now key =>
    obtain ⟨⟨m, out⟩, -, rfl⟩ := Option.map_eq_some_iff.mp h
    exact ⟨rfl, fun _ => rfl⟩
  | awaitStatus info =>
    obtain ⟨-, h⟩ := of_ofMember h
    unfold Cluster.awaitStatus at h
    split at h
    · obtain rfl := Option.some.inj h
      exact sameStorage_setReplica rfl
    · exact absurd h (by simp)
  | receiveStatus info i =>
    obtain ⟨-, h⟩ := of_ofMember h
    unfold Cluster.receiveStatus at h
    split at h
    · obtain ⟨message, -, h⟩ := Option.bind_eq_some_iff.mp h
      obtain ⟨server, hserver, h⟩ := Option.bind_eq_some_iff.mp h
      obtain rfl := Option.some.inj h
      obtain ⟨status, -, rfl⟩ := Option.map_eq_some_iff.mp hserver
      have hsame := sameStorage_setReplica (c := c) (a := info.address)
        (r := ⟨(c.replica info.address).server.applyStatus status, false⟩)
        (storageOf_applyStatus status _)
      exact ⟨hsame.disk, hsame.storage⟩
    · exact absurd h (by simp)
  | disable info | enable info result | restart info result => exact he.elim

lemma sameStorage_exec {as : List ClusterEvent} (has : ∀ e ∈ as, IsMessage e) {c c' : Cluster}
    (h : (clusterSystem config g).exec c as = some c') : SameStorage c c' := by
  induction as generalizing c with
  | nil =>
    obtain rfl := Option.some.inj h
    exact ⟨rfl, fun _ => rfl⟩
  | cons e as ih =>
    obtain ⟨u, hu, h⟩ := Option.bind_eq_some_iff.mp h
    have hfirst := sameStorage_next (has e List.mem_cons_self) hu
    have hrest := ih (fun e he => has e (List.mem_cons_of_mem _ he)) h
    exact ⟨hrest.disk.trans hfirst.disk, fun a => (hrest.storage a).trans (hfirst.storage a)⟩

lemma noEmpty_empty : NoEmpty ∅ := fun _ _ h => nomatch h

lemma runs_started {port : Int} {t : Server}
    (ht : storageOf t = storageOf (startedReplica port).server) :
    Runs (storagePath 1 port) (cellsOf ∅) t (fun _ => none) := by
  rw [startedReplica_server] at ht
  have hpath : t.diskFilePath = storagePath 1 port :=
    storageOf_congr Server.diskFilePath (fun _ => rfl) ht
  have htable : t.table = ∅ := storageOf_congr Server.table (fun _ => rfl) ht
  have hwrites : t.currentNumberOfWritesForReplicaAndServer = 0 :=
    storageOf_congr Server.currentNumberOfWritesForReplicaAndServer (fun _ => rfl) ht
  refine ⟨hpath, storageOf_congr Server.enabled (fun _ => rfl) ht, ⟨[],
    ⟨⟨?_, ?_, ?_, hwrites, ?_, ?_⟩,
    trivial, noEmpty_empty⟩, by decide⟩, ?_⟩
  · exact storageOf_congr Server.currentlyInitializing (fun _ => rfl) ht
  · exact storageOf_congr Server.currentlyReadingFromCheckpointFile (fun _ => rfl) ht
  · exact ⟨rfl, fun _ h => absurd h List.not_mem_nil, rfl⟩
  · change CleanTable t.table
    rw [htable]
    exact cleanTable_loadDataFile []
  · change valuesOf (loadDataFile [] ∅) = valuesOf t.table
    rw [htable]
    rfl
  · rw [htable]

/-- Group 1 when its three servers have joined. -/
lemma joined_together {c : Cluster}
    (hc : (clusterSystem group1Configuration 1).exec group1Cluster allJoin = some c) :
    Together group1Configuration 1 (group1Entry 2001).address ⟨c, fun _ => .up⟩ := by
  have hrun : ((clusterSystem group1Configuration 1).exec group1Cluster allJoin).map (fun c =>
      (decide (((registryOf 1 c.master).leader = some (group1Entry 2001).address ∧
        ∀ info ∈ group1Configuration.servers 1,
          ((c.replica info.address).server.myInfo.isPrimary = true ↔
            info.address = (group1Entry 2001).address)) ∧
        ∀ it ∈ (c.replica (group1Entry 2001).address).server.servers 1,
          (it.isPrimary = true ↔ it.address = (group1Entry 2001).address)),
        (group1Configuration.servers 1).map
          (fun info => (c.statuses info.statusAddress).length))) =
      some (true, [0, 0, 0]) := by
    decide +kernel
  rw [hc] at hrun
  obtain ⟨hfacts, hlengths⟩ := Prod.mk.inj (Option.some.inj hrun)
  obtain ⟨⟨hlead, hroles⟩, hentries⟩ := of_decide_eq_true hfacts
  have hsame : SameStorage group1Cluster c := sameStorage_exec (by decide) hc
  have hdisk : c.disk = fun _ => none := hsame.disk
  have hruns : ∀ a, Runs (storagePath 1 a.2) (cellsOf ∅) (c.replica a).server c.disk := by
    intro a
    rw [hdisk]
    exact runs_started (hsame.storage a)
  have htable : cellsOf (c.replica (group1Entry 2001).address).server.table = cellsOf ∅ :=
    (hruns _).cells
  have horder : ∀ e ∈ allJoin, InOrder group1Cluster e := by
    decide
  have hreach := (System.Reachable.init group1Cluster_init).exec
    (fun u e he => inOrder_congr (horder e he) u) hc
  refine ⟨(reachable_oneLeader group1_distinctStatusAddresses hreach).1, hlead,
    noStatus_of_lengths hlengths, hroles, hentries, ?_, fun _ => rfl, ?_, ?_⟩
  · exact fun a => ⟨1, a.2, (hruns a).diskFilePath⟩
  · exact noEmpty_empty.of_cells htable
  · intro info _
    change Runs (storagePath 1 info.tcpPort) (cellsOf (c.replica _).server.table)
      (c.replica info.address).server c.disk
    rw [htable]
    exact hruns info.address

/-- The master misses 2003, and the others read that it does. -/
def silence : List ClusterEvent :=
  [.checkHeartbeat 450 (heartbeatKey (group1Entry 2003))] ++ reads 2001 0 ++ reads 2002 0

def putAtPrimary : GroupEvent := .command 0 [] "PUT r,c,v".toList

/-- 2003 starts, with `k` lines in its dead-server log. -/
def comesBack (k : Nat) : List GroupEvent :=
  [.start (group1Entry 2003) 0] ++ List.replicate (k + 1) (.recover (group1Entry 2003)) ++
    [.finish (group1Entry 2003) 0]

/-- 2003 sends a heartbeat, and the messages that it causes are read. -/
def announced : List ClusterEvent :=
  [.sendHeartbeat (group1Entry 2003), .recvHeartbeat 0 500] ++ reads 2001 0 ++ reads 2003 0

/-- 2003 dies, and a write comes when it runs again and the primary does not know it yet. -/
def putInGap : List GroupEvent :=
  [.die (group1Entry 2003)] ++ silence.map .network ++ comesBack 0 ++ [putAtPrimary] ++
    announced.map .network

/-- 2003 dies, and the write comes while it is down. -/
def putWhileDown : List GroupEvent :=
  [.die (group1Entry 2003)] ++ (silence.map .network ++ ([putAtPrimary] ++
    (comesBack 1 ++ announced.map .network)))

/-- What a run of group 1 shows at its end. -/
structure GroupShown where
  /-- Of 2001 to `GET r,c`. -/
  answer : Option Str
  /-- Of 2003 to the same. -/
  rejoined : Option Str
  runs : Bool
  /-- The flags in the primary's list. -/
  dead : List Bool
  statuses : List Nat
  heartbeats : Nat
deriving DecidableEq

def shownGroup (s : ReplicaGroup) : GroupShown where
  answer := (serveCommand 2 (group1Entry 2001).address [] "GET r,c".toList
    (s.world (group1Entry 2001).address 0)).map Prod.snd
  rejoined := (serveCommand 2 (group1Entry 2003).address [] "GET r,c".toList
    (s.world (group1Entry 2001).address 0)).map Prod.snd
  runs := (s.life (group1Entry 2003).address).isUp
  dead := (s.primaryList (group1Entry 2001).address).map ServerInfo.isDead
  statuses := (group1Configuration.servers 1).map
    (fun info => (s.cluster.statuses info.statusAddress).length)
  heartbeats := s.cluster.heartbeats.length

/-- The write in the gap is lost to 2003, with every message read and no server dead to the
primary. -/
theorem rejoined_replica_misses_write : ∃ c s,
    (clusterSystem group1Configuration 1).exec group1Cluster allJoin = some c ∧
    Together group1Configuration 1 (group1Entry 2001).address ⟨c, fun _ => .up⟩ ∧
    (rejoining group1Configuration 1 (group1Entry 2001).address).exec ⟨c, fun _ => .up⟩
      putInGap = some s ∧
    (s.life (group1Entry 2003).address).isUp = true ∧
    (s.primaryList (group1Entry 2001).address).map ServerInfo.isDead = [false, false, false] ∧
    NoStatusInFlight group1Configuration 1 s.cluster ∧ s.cluster.heartbeats = [] ∧
    (serveCommand 2 (group1Entry 2001).address [] "GET r,c".toList
      (s.world (group1Entry 2001).address 0)).map Prod.snd = some "+OK v\r\n".toList ∧
    (serveCommand 2 (group1Entry 2003).address [] "GET r,c".toList
      (s.world (group1Entry 2001).address 0)).map Prod.snd =
      some "-ERR Not Found\r\n".toList := by
  have hrun : ((clusterSystem group1Configuration 1).exec group1Cluster allJoin).bind (fun c =>
      ((rejoining group1Configuration 1 (group1Entry 2001).address).exec ⟨c, fun _ => .up⟩
        putInGap).map shownGroup) =
      some ⟨some "+OK v\r\n".toList, some "-ERR Not Found\r\n".toList, true,
        [false, false, false], [0, 0, 0], 0⟩ := by
    decide +kernel
  obtain ⟨c, hc, hs⟩ := Option.bind_eq_some_iff.mp hrun
  obtain ⟨s, hs, hshown⟩ := Option.map_eq_some_iff.mp hs
  exact ⟨c, s, hc, joined_together hc, hs, congrArg GroupShown.runs hshown,
    congrArg GroupShown.dead hshown, noStatus_of_lengths (congrArg GroupShown.statuses hshown),
    List.eq_nil_of_length_eq_zero (congrArg GroupShown.heartbeats hshown),
    congrArg GroupShown.answer hshown, congrArg GroupShown.rejoined hshown⟩

/-- A step that meets the condition whatever the state. -/
def NeverInGap : GroupEvent → Prop
  | .network (.checkHeartbeat _ key) => key ≠ heartbeatKey (group1Entry 2001)
  | .network _ | .start _ _ | .recover _ | .finish _ _ => True
  | .command _ _ _ | .die _ => False

instance : DecidablePred NeverInGap := fun e =>
  match e with
  | .network (.checkHeartbeat _ key) =>
    inferInstanceAs (Decidable (key ≠ heartbeatKey (group1Entry 2001)))
  | .network (.sendHeartbeat _) | .network (.recvHeartbeat _ _) | .network (.awaitStatus _)
  | .network (.receiveStatus _ _) | .network (.disable _) | .network (.enable _ _)
  | .network (.restart _ _) | .start _ _ | .recover _ | .finish _ _ => isTrue trivial
  | .command _ _ _ | .die _ => isFalse not_false

lemma leavesNoGap_of_never {e : GroupEvent} (h : NeverInGap e) (u : ReplicaGroup) :
    LeavesNoGap group1Configuration 1 (group1Entry 2001).address u e := by
  cases e with
  | network e =>
    cases e with
    | checkHeartbeat now key =>
      intro info hinfo ha hkey
      have hd : DistinctPorts (group1Configuration.servers 1) := group1Configuration.distinct 1
      have hmem : group1Entry 2001 ∈ group1Configuration.servers 1 := by
        decide
      have heq := hd.eq_of_tcpPort hinfo hmem (Prod.mk.inj ha).2
      exact absurd (hkey.trans (congrArg heartbeatKey heq)) h
    | _ => trivial
  | start _ _ | recover _ | finish _ _ => trivial
  | command _ _ _ | die _ => exact h.elim

/-- A PUT finds its cell, so only the secondaries matter. -/
lemma leavesNoGap_put {u : ReplicaGroup}
    (hdead : DeadRead u.life (u.primaryList p)) (hlive : LiveRun u.life (u.primaryList p)) :
    LeavesNoGap config g p u putAtPrimary := by
  intro x extra hx
  have hs : splitKVStoreCommand "PUT r,c,v".toList = "PUT ".toList :: [['r'], ['c'], ['v']] := by
    decide
  rw [hs] at hx
  obtain ⟨hword, hfields⟩ := List.cons.inj hx
  right
  cases x with
  | put row col value =>
    have hplain : ∀ f ∈ [row, col, value], f ∈ [['r'], ['c'], ['v']] := by
      intro f hf
      rw [hfields]
      exact List.mem_append_left extra hf
    have hall : ∀ f ∈ [['r'], ['c'], ['v']], PlainField f := by
      decide
    exact ⟨fun f hf => hall f (hplain f hf), trivial, hdead, Or.inl hlive⟩
  | cput row col cur new => exact absurd hword (by decide : "PUT ".toList ≠ "CPUT ".toList)
  | delete row col => exact absurd hword (by decide : "PUT ".toList ≠ "DELETE ".toList)

instance (life : Address → Life) (list : List ServerInfo) : Decidable (DeadRead life list) :=
  inferInstanceAs (Decidable (∀ it ∈ list, _ → _ → ReadsDeadLog _))

instance (life : Address → Life) (list : List ServerInfo) : Decidable (LiveRun life list) :=
  inferInstanceAs (Decidable (∀ it ∈ list, _ → _ → _ = true))

theorem rejoined_replica_agrees_put : ∃ c s,
    (clusterSystem group1Configuration 1).exec group1Cluster allJoin = some c ∧
    (rejoining group1Configuration 1 (group1Entry 2001).address).exec ⟨c, fun _ => .up⟩
      putWhileDown = some s ∧
    ∃ reply, (serveCommand 2 (group1Entry 2003).address [] "GET r,c".toList
        (s.world (group1Entry 2001).address 0)).map Prod.snd = some reply ∧
      (serveCommand 2 (group1Entry 2001).address [] "GET r,c".toList
        (s.world (group1Entry 2001).address 0)).map Prod.snd = some reply := by
  have hput : ((clusterSystem group1Configuration 1).exec group1Cluster allJoin).bind (fun c =>
      ((rejoining group1Configuration 1 (group1Entry 2001).address).exec
        (ReplicaGroup.die (group1Entry 2003).address ⟨c, fun _ => .up⟩)
        (silence.map .network)).map (fun s =>
          decide (DeadRead s.life (s.primaryList (group1Entry 2001).address) ∧
            LiveRun s.life (s.primaryList (group1Entry 2001).address)))) = some true := by
    decide +kernel
  have hup : ((clusterSystem group1Configuration 1).exec group1Cluster allJoin).bind (fun c =>
      ((rejoining group1Configuration 1 (group1Entry 2001).address).exec ⟨c, fun _ => .up⟩
        putWhileDown).map (fun s => (s.life (group1Entry 2003).address).isUp)) = some true := by
    decide +kernel
  obtain ⟨c, hc, hs⟩ := Option.bind_eq_some_iff.mp hput
  obtain ⟨u, hu, hlives⟩ := Option.map_eq_some_iff.mp hs
  obtain ⟨hdead, hlive⟩ := of_decide_eq_true hlives
  rw [hc] at hup
  obtain ⟨s, hs, hisUp⟩ := Option.map_eq_some_iff.mp hup
  -- 2003 dies while it runs, so it has handled no line of its dead-server log
  have hsafe : LeavesNoGap group1Configuration 1 (group1Entry 2001).address ⟨c, fun _ => .up⟩
      (.die (group1Entry 2003)) :=
    ⟨by decide, fun _ h => absurd h List.not_mem_nil⟩
  have hfirst : (rejoining group1Configuration 1 (group1Entry 2001).address).next
      ⟨c, fun _ => .up⟩ (.die (group1Entry 2003)) =
      some (ReplicaGroup.die (group1Entry 2003).address ⟨c, fun _ => .up⟩) := rfl
  have hdie := (System.Reachable.init (S := rejoining group1Configuration 1 _)
    (joined_together hc)).step hsafe hfirst
  have hnever : ∀ e ∈ silence.map .network, NeverInGap e := by
    decide
  have hlater : ∀ e ∈ comesBack 1 ++ announced.map .network, NeverInGap e := by
    decide
  have hsilent := hdie.exec (fun t e he => leavesNoGap_of_never (hnever e he) t) hu
  have hrest : (rejoining group1Configuration 1 (group1Entry 2001).address).exec
      (ReplicaGroup.die (group1Entry 2003).address ⟨c, fun _ => .up⟩)
      (silence.map .network ++ ([putAtPrimary] ++ (comesBack 1 ++ announced.map .network))) =
      some s := by
    have hrun := hs
    rw [putWhileDown, List.singleton_append, System.exec, hfirst, Option.bind_some] at hrun
    exact hrun
  rw [System.exec_append, hu, Option.bind_some] at hrest
  obtain ⟨t, ht, hrest⟩ := Option.bind_eq_some_iff.mp hrest
  have hwritten := hsilent.step (leavesNoGap_put hdead hlive) ht
  have hreach := hwritten.exec (fun t e he => leavesNoGap_of_never (hlater e he) t) hrest
  have hmem : group1Entry 2003 ∈ group1Configuration.servers 1 := by
    decide
  exact ⟨c, s, hc, hs, rejoined_replica_agrees group1_distinctStatusAddresses hreach hmem
    (isUp_iff.mp hisUp) (by decide) 0 [] []⟩

end CloudStorage.Proofs
