import CloudStorage.Proofs.ClusterStep
import CloudStorage.Proofs.ElectionState

/-!
# Two primaries

Roles are handed out by messages, and nothing takes the role from a primary that no message
reaches. What holds is that the servers the master takes for alive end up with one primary
among them once they have read their messages in order.
-/

namespace CloudStorage.Proofs
open Leadership

variable {config : Configuration} {g : Int}

/-- An enabled replica that takes itself for the primary. -/
def ActsAsPrimary (c : Cluster) (info : ServerInfo) : Prop :=
  (c.replica info.address).server.enabled = true ∧
    (c.replica info.address).server.myInfo.isPrimary = true

/-- The master takes the server for alive. -/
def RecordedAlive (g : Int) (c : Cluster) (info : ServerInfo) : Prop :=
  info.address ∈ upOf (c.master.servers g)

/-- No status message is in flight to a server of the group. -/
def NoStatusInFlight (config : Configuration) (g : Int) (c : Cluster) : Prop :=
  ∀ info ∈ config.servers g, c.statuses info.statusAddress = []

lemma sound_registryOf {m : Master} (hm : Consistent config m) (g : Int) :
    (registryOf g m).Sound := by
  constructor
  · intro hnone
    have hp : m.primaryServers g = none := by simpa [registryOf] using hnone
    rw [Set.eq_empty_iff_forall_notMem]
    rintro _ ⟨it, hit, rfl, hd⟩
    rw [(hm.group g).dead_of_none hp it hit] at hd
    exact absurd hd (by decide)
  · intro a ha
    obtain ⟨p, hp, rfl⟩ := Option.map_eq_some_iff.mp ha
    have hmem := primary_mem hm hp
    exact ⟨p, hmem.1, rfl, hmem.2.2⟩

/-- Every effect of a step on the registry and its members keeps the leader the only one. -/
lemma oneLeader_effect {c c' : Cluster} {e : ClusterEvent}
    (h : (abstracted config g c).OneLeader) (heff : Effect config g c e c') :
    (abstracted config g c').OneLeader := by
  cases heff with
  | none heq =>
    rw [heq]
    exact h
  | registry hstep heq _ =>
    rw [heq]
    exact h.step (State.Step.registry hstep)
  | hear hmail heq =>
    rw [heq]
    exact h.step (State.Step.hear hmail)
  | forget _ _ heq =>
    rw [heq]
    exact h.step (State.Step.forget _)

lemma oneLeader_init {c : Cluster} (h : (clusterSystem config g).init c) :
    (abstracted config g c).OneLeader := by
  constructor
  · exact sound_registryOf (wellFormed_init h).master g
  · rintro _ ⟨it, hit, rfl, hd⟩ -
    rw [h.1] at hit
    have hdead := (config.configured g it hit).isDead
    rw [hd] at hdead
    exact absurd hdead (by decide)

lemma reachable_oneLeader (hudp : DistinctStatusAddresses config g) {c : Cluster}
    (h : (clusterSystem config g).Reachable InOrder c) :
    WellFormed config g c ∧ (abstracted config g c).OneLeader := by
  apply h.invariant
  · exact fun c hc => ⟨wellFormed_init hc, oneLeader_init hc⟩
  · intro c e c' hc ho hnext
    obtain ⟨hw, heff⟩ := cluster_step hudp hc.1 ho hnext
    exact ⟨hw, oneLeader_effect hc.2 heff⟩

/-- With every message to it read, what a server believes is what it will believe. -/
lemma settledRole_of_quiet {c : Cluster} {info : ServerInfo} (hinfo : info ∈ config.servers g)
    (hquiet : c.statuses info.statusAddress = []) :
    (abstracted config g c).settledRole info.address =
      (c.replica info.address).server.myInfo.isPrimary := by
  unfold State.settledRole abstracted
  dsimp only
  rw [noticesTo_address c hinfo, hquiet]
  rfl

/-- Of the servers that the master takes for alive, at most one acts as primary once no
status message is in flight, and it is the one that the master recorded. -/
theorem one_primary_among_alive (hudp : DistinctStatusAddresses config g) {c : Cluster}
    (h : (clusterSystem config g).Reachable InOrder c) (hquiet : NoStatusInFlight config g c) :
    (∀ a ∈ config.servers g, RecordedAlive g c a → ActsAsPrimary c a →
      (c.master.primaryServers g).map ServerInfo.address = some a.address) ∧
    ∀ a ∈ config.servers g, ∀ b ∈ config.servers g, RecordedAlive g c a → RecordedAlive g c b →
      ActsAsPrimary c a → ActsAsPrimary c b → a = b := by
  obtain ⟨-, hone⟩ := reachable_oneLeader hudp h
  have hrecorded : ∀ a ∈ config.servers g, RecordedAlive g c a → ActsAsPrimary c a →
      (c.master.primaryServers g).map ServerInfo.address = some a.address := by
    intro a ha halive hacts
    apply hone.leader_of_role a.address halive
    rw [settledRole_of_quiet ha (hquiet a ha)]
    exact hacts.2
  refine ⟨hrecorded, ?_⟩
  intro a ha b hb halive hblive hacts hbcts
  have heq := (hrecorded a ha halive hacts).symm.trans (hrecorded b hb hblive hbcts)
  have hd : DistinctPorts (config.servers g) := config.distinct g
  exact hd.eq_of_tcpPort ha hb (Prod.mk.inj (Option.some.inj heq)).2

/-! ### Group 1 -/

/-- A server of group 1 that was started with no files. -/
def startedReplica (port : Int) : Replica :=
  match startProcess 1 (group1Entry port) group1Configuration.servers 0 (fun _ => none) with
  | some n => ⟨n.server, false⟩
  | none => ⟨startServer 1 (group1Entry port), false⟩

def group1Cluster : Cluster where
  master := group1Configuration.master
  replica := fun a => startedReplica a.2
  disk := fun _ => none
  heartbeats := []
  statuses := fun _ => []

lemma started_of_isSome {port : Int} (h : (startProcess 1 (group1Entry port)
    group1Configuration.servers 0 (fun _ => none)).isSome = true) :
    Started group1Configuration (group1Entry port) (startedReplica port) := by
  obtain ⟨n, hn⟩ := Option.isSome_iff_exists.mp h
  refine ⟨0, fun _ => none, n, hn, ?_⟩
  unfold startedReplica
  rw [hn]

lemma group1Cluster_init : (clusterSystem group1Configuration 1).init group1Cluster := by
  refine ⟨rfl, rfl, fun _ => rfl, ?_⟩
  intro info hinfo
  have hmem : info = group1Entry 2001 ∨ info = group1Entry 2002 ∨ info = group1Entry 2003 := by
    simpa [group1Configuration] using hinfo
  rcases hmem with rfl | rfl | rfl
  · exact started_of_isSome (by decide +kernel)
  · exact started_of_isSome (by decide +kernel)
  · exact started_of_isSome (by decide +kernel)

lemma group1_distinctStatusAddresses : DistinctStatusAddresses group1Configuration 1 := by
  unfold DistinctStatusAddresses
  decide

/-- A server reads the `i`th of its messages. -/
def reads (port : Int) (i : Nat) : List ClusterEvent :=
  [.awaitStatus (group1Entry port), .receiveStatus (group1Entry port) i]

/-- 2001 and 2002 join; 2001 has not yet read that 2002 did. -/
def bothJoin : List ClusterEvent :=
  [.sendHeartbeat (group1Entry 2001), .sendHeartbeat (group1Entry 2002),
    .recvHeartbeat 0 0, .recvHeartbeat 0 100] ++ reads 2001 0 ++ reads 2002 0

/-- The next heartbeats of 2001 are late, and 2002 is told that it leads. -/
def lateHeartbeats : List ClusterEvent :=
  [.checkHeartbeat 350 (heartbeatKey (group1Entry 2001))] ++ reads 2002 0 ++ reads 2003 0

/-- The heartbeats of 2001 arrive after all. -/
def lateArrival : List ClusterEvent :=
  [.sendHeartbeat (group1Entry 2001), .recvHeartbeat 0 360]

/-- 2001 reads that it follows before it reads that 2002 joined. -/
def crossedReads : List ClusterEvent := reads 2001 1 ++ reads 2001 0 ++ reads 2002 0

instance (c : Cluster) (info : ServerInfo) : Decidable (ActsAsPrimary c info) :=
  inferInstanceAs (Decidable (_ ∧ _))

instance (list : List ServerInfo) (a : Address) : Decidable (a ∈ upOf list) :=
  decidable_of_iff (∃ it ∈ list, it.address = a ∧ it.isDead = false) Iff.rfl

instance (g : Int) (c : Cluster) (info : ServerInfo) : Decidable (RecordedAlive g c info) :=
  inferInstanceAs (Decidable (_ ∈ upOf _))

/-- What a run of group 1 shows: who of 2001 and 2002 acts as primary, whom of them the master
takes for alive, and how many messages are in flight to each server. -/
def shown (c : Cluster) : List Bool × List Bool × List Nat :=
  ([group1Entry 2001, group1Entry 2002].map (fun info => ActsAsPrimary c info),
    [group1Entry 2001, group1Entry 2002].map (fun info => RecordedAlive 1 c info),
    (group1Configuration.servers 1).map (fun info => (c.statuses info.statusAddress).length))

lemma roles_of_shown {c : Cluster} {roles alive : List Bool} {lengths : List Nat}
    (h : shown c = (roles, alive, lengths)) :
    [decide (ActsAsPrimary c (group1Entry 2001)), decide (ActsAsPrimary c (group1Entry 2002))] =
        roles ∧
      [decide (RecordedAlive 1 c (group1Entry 2001)),
        decide (RecordedAlive 1 c (group1Entry 2002))] = alive :=
  ⟨congrArg Prod.fst h, congrArg (fun x => x.2.1) h⟩

lemma noStatus_of_lengths {c : Cluster} (h : (group1Configuration.servers 1).map
    (fun info => (c.statuses info.statusAddress).length) = [0, 0, 0]) :
    NoStatusInFlight group1Configuration 1 c := by
  intro info hinfo
  have hmem : (c.statuses info.statusAddress).length ∈ [0, 0, 0] :=
    h ▸ List.mem_map_of_mem hinfo
  apply List.eq_nil_of_length_eq_zero
  simpa using hmem

lemma noStatus_of_shown {c : Cluster} {roles alive : List Bool}
    (h : shown c = (roles, alive, [0, 0, 0])) : NoStatusInFlight group1Configuration 1 c :=
  noStatus_of_lengths (congrArg (fun x => x.2.2) h)

/-- Two replicas act as primary at once: with every message read, in the order sent; with
both taken for alive by the master, while a message is in flight; and with both taken for
alive and every message read, where two were read in the other order. -/
theorem two_primaries :
    (∃ c, (clusterSystem group1Configuration 1).exec group1Cluster
        (bothJoin ++ reads 2001 0 ++ lateHeartbeats) = some c ∧
      ActsAsPrimary c (group1Entry 2001) ∧ ActsAsPrimary c (group1Entry 2002) ∧
      NoStatusInFlight group1Configuration 1 c) ∧
    (∃ c, (clusterSystem group1Configuration 1).exec group1Cluster
        (bothJoin ++ reads 2001 0 ++ lateHeartbeats ++ lateArrival) = some c ∧
      ActsAsPrimary c (group1Entry 2001) ∧ ActsAsPrimary c (group1Entry 2002) ∧
      RecordedAlive 1 c (group1Entry 2001) ∧ RecordedAlive 1 c (group1Entry 2002)) ∧
    ∃ c, (clusterSystem group1Configuration 1).exec group1Cluster
        (bothJoin ++ lateHeartbeats ++ lateArrival ++ crossedReads) = some c ∧
      ActsAsPrimary c (group1Entry 2001) ∧ ActsAsPrimary c (group1Entry 2002) ∧
      RecordedAlive 1 c (group1Entry 2001) ∧ RecordedAlive 1 c (group1Entry 2002) ∧
      NoStatusInFlight group1Configuration 1 c := by
  have hquiet : ((clusterSystem group1Configuration 1).exec group1Cluster
      (bothJoin ++ reads 2001 0 ++ lateHeartbeats)).map shown =
      some ([true, true], [false, true], [0, 0, 0]) := by
    decide +kernel
  have hlate : ((clusterSystem group1Configuration 1).exec group1Cluster
      (bothJoin ++ reads 2001 0 ++ lateHeartbeats ++ lateArrival)).map shown =
      some ([true, true], [true, true], [1, 1, 0]) := by
    decide +kernel
  have hcrossed : ((clusterSystem group1Configuration 1).exec group1Cluster
      (bothJoin ++ lateHeartbeats ++ lateArrival ++ crossedReads)).map shown =
      some ([true, true], [true, true], [0, 0, 0]) := by
    decide +kernel
  obtain ⟨c₁, hc₁, hs₁⟩ := Option.map_eq_some_iff.mp hquiet
  obtain ⟨c₂, hc₂, hs₂⟩ := Option.map_eq_some_iff.mp hlate
  obtain ⟨c₃, hc₃, hs₃⟩ := Option.map_eq_some_iff.mp hcrossed
  have hr₁ := roles_of_shown hs₁
  have hr₂ := roles_of_shown hs₂
  have hr₃ := roles_of_shown hs₃
  simp only [List.cons.injEq, decide_eq_true_eq, and_true] at hr₁ hr₂ hr₃
  exact ⟨⟨c₁, hc₁, hr₁.1.1, hr₁.1.2, noStatus_of_shown hs₁⟩,
    ⟨c₂, hc₂, hr₂.1.1, hr₂.1.2, hr₂.2.1, hr₂.2.2⟩,
    ⟨c₃, hc₃, hr₃.1.1, hr₃.1.2, hr₃.2.1, hr₃.2.2, noStatus_of_shown hs₃⟩⟩

instance (c : Cluster) (e : ClusterEvent) : Decidable (InOrder c e) :=
  match e with
  | .receiveStatus _ i => inferInstanceAs (Decidable (i = 0))
  | .sendHeartbeat _ | .recvHeartbeat _ _ | .checkHeartbeat _ _ | .awaitStatus _ | .disable _
  | .enable _ _ | .restart _ _ => isTrue trivial

/-- Whether a message is read in order does not depend on the state. -/
lemma inOrder_congr {c : Cluster} {e : ClusterEvent} (h : InOrder c e) (c' : Cluster) :
    InOrder c' e := by
  cases e with
  | receiveStatus info i => exact h
  | _ => trivial

/-- 2001 leads and 2002 follows when both have joined and read their messages. -/
theorem one_primary_among_alive_joined : ∃ c,
    (clusterSystem group1Configuration 1).exec group1Cluster (bothJoin ++ reads 2001 0) = some c ∧
    (c.master.primaryServers 1).map ServerInfo.address = some (group1Entry 2001).address := by
  have hrun : ((clusterSystem group1Configuration 1).exec group1Cluster
      (bothJoin ++ reads 2001 0)).map shown =
      some ([true, false], [true, true], [0, 0, 0]) := by
    decide +kernel
  have horder : ∀ e ∈ bothJoin ++ reads 2001 0, InOrder group1Cluster e := by
    decide
  obtain ⟨c, hc, hs⟩ := Option.map_eq_some_iff.mp hrun
  have hr := roles_of_shown hs
  simp only [List.cons.injEq, decide_eq_true_eq, and_true] at hr
  have hreach := (System.Reachable.init group1Cluster_init).exec
    (fun u e he => inOrder_congr (horder e he) u) hc
  have hin : group1Entry 2001 ∈ group1Configuration.servers 1 := by
    decide
  exact ⟨c, hc, (one_primary_among_alive group1_distinctStatusAddresses hreach
    (noStatus_of_shown hs)).1 (group1Entry 2001) hin hr.2.1 hr.1.1⟩

end CloudStorage.Proofs
