import CloudStorage.Cluster
import CloudStorage.Proofs.Identity
import CloudStorage.Proofs.StatusEffect

/-!
# The cluster as a registry and its members

Master and replicas of a group, with the status messages in flight, are a state of
`Leadership`: the steps of the master are steps of the registry, a replica that reads its
next message hears a notice, and one that restarts forgets.
-/

namespace CloudStorage.Proofs
open Leadership

/-- The server of the group with an address. -/
def memberAt (config : Configuration) (g : Int) (a : Address) : Option ServerInfo :=
  (config.servers g).find? (fun info => info.address = a)

def readNotice (text : Str) : Option (Notice Address) := (readStatus text).map noticeOf

/-- The notices in flight to the server with an address. -/
def noticesTo (config : Configuration) (g : Int) (c : Cluster) (a : Address) :
    List (Notice Address) :=
  match memberAt config g a with
  | some info => (c.statuses info.statusAddress).filterMap readNotice
  | none => []

/-- The group as registry and members. -/
def abstracted (config : Configuration) (g : Int) (c : Cluster) : State Address where
  registry := registryOf g c.master
  leads := fun a => (c.replica a).server.myInfo.isPrimary
  sees := fun a x => decide (x ≠ a) && liveAt ((c.replica a).server.servers g) x
  mail := noticesTo config g c

structure WellFormed (config : Configuration) (g : Int) (c : Cluster) : Prop where
  master : Consistent config c.master
  others : ∀ k, k ≠ g → ∀ it ∈ c.master.servers k, it.isDead = true
  heartbeats : ∀ text ∈ c.heartbeats, ∃ info ∈ config.servers g,
    text = heartbeatMessage g info.tcpPort
  replicas : ∀ info ∈ config.servers g, Serves config g info (c.replica info.address).server
  statuses : ∀ info ∈ config.servers g, ∀ text ∈ c.statuses info.statusAddress,
    ∃ n, readNotice text = some n ∧ ∀ a, n.named = some a → a ∈ members config g

variable {config : Configuration} {g : Int}

lemma memberAt_address {info : ServerInfo} (hinfo : info ∈ config.servers g) :
    memberAt config g info.address = some info := by
  unfold memberAt
  cases hfind : (config.servers g).find? (fun it => it.address = info.address) with
  | none =>
    have hnone := List.find?_eq_none.mp hfind info hinfo
    exact absurd hnone (by simp)
  | some it =>
    have hmem := List.mem_of_find?_eq_some hfind
    have haddr : it.address = info.address := by simpa using List.find?_some hfind
    have hd : DistinctPorts (config.servers g) := config.distinct g
    rw [hd.eq_of_tcpPort hmem hinfo (Prod.mk.inj haddr).2]

lemma memberAt_some {a : Address} {info : ServerInfo} (h : memberAt config g a = some info) :
    info ∈ config.servers g ∧ info.address = a := by
  unfold memberAt at h
  exact ⟨List.mem_of_find?_eq_some h, by simpa using List.find?_some h⟩

lemma noticesTo_address (c : Cluster) {info : ServerInfo} (hinfo : info ∈ config.servers g) :
    noticesTo config g c info.address =
      (c.statuses info.statusAddress).filterMap readNotice := by
  unfold noticesTo
  rw [memberAt_address hinfo]

/-! ### A server that starts or initializes again -/

lemma serves_of_identity {info : ServerInfo} {s t : Server} (h : identity s = identity t)
    (ht : Serves config g info t) : Serves config g info s := by
  have hmy : (identity s).myInfo = (identity t).myInfo := by rw [h]
  have hgroup : (identity s).replicaGroup = (identity t).replicaGroup := by rw [h]
  have hservers : (identity s).servers = (identity t).servers := by rw [h]
  constructor
  · exact (congrArg resetFlags hmy).trans ht.myInfo
  · exact hgroup.trans ht.replicaGroup
  · have hlist : s.servers = t.servers := hservers
    rw [hlist]
    exact ht.servers

lemma map_resetFlags_configured (config : Configuration) (g : Int) :
    (config.servers g).map resetFlags = config.servers g := by
  have hid : ∀ info ∈ config.servers g, resetFlags info = info :=
    fun info hinfo => resetFlags_of_configured (config.configured g info hinfo)
  exact (List.map_congr_left hid).trans (List.map_id _)

/-- What `main` does after initializing: the server is no primary and takes every server for
dead. -/
lemma serves_started {info : ServerInfo} (hinfo : info ∈ config.servers g) {s : Server}
    (h : identity s = identity (startServer info.replicaGroup info)) :
    let t := { s with currentlyInitializing := false, servers := config.servers }
    Serves config g info t ∧ t.myInfo.isPrimary = false ∧ ∀ x, liveAt (t.servers g) x = false := by
  have hconf := config.configured g info hinfo
  have hmy : (identity s).myInfo = { info with isPrimary := false, isDead := true } := by
    rw [h]
    rfl
  have hgroup : (identity s).replicaGroup = info.replicaGroup := by
    rw [h]
    rfl
  have hmy' : s.myInfo = { info with isPrimary := false, isDead := true } := hmy
  refine ⟨⟨?_, ?_, map_resetFlags_configured config g⟩, ?_, ?_⟩
  · exact (congrArg resetFlags hmy').trans (resetFlags_of_configured hconf)
  · exact hgroup.trans hconf.replicaGroup
  · exact congrArg ServerInfo.isPrimary hmy'
  · intro x
    rw [Bool.eq_false_iff]
    intro hlive
    obtain ⟨it, hit, -, hdead, -⟩ := (liveAt_iff _ x).mp hlive
    have hd := (config.configured g it hit).isDead
    rw [hdead] at hd
    exact absurd hd (by decide)

/-- A process that has just been started is no primary and takes every server for dead. -/
lemma startProcess_spec {info : ServerInfo} (hinfo : info ∈ config.servers g) {result : Nat}
    {d : Disk} {n : Node}
    (h : startProcess info.replicaGroup info config.servers result d = some n) :
    Serves config g info n.server ∧ n.server.myInfo.isPrimary = false ∧
      ∀ x, liveAt (n.server.servers g) x = false := by
  unfold startProcess at h
  obtain ⟨m, hm, h⟩ := Option.bind_eq_some_iff.mp h
  obtain rfl := Option.some.inj h
  exact serves_started hinfo (identity_initializeFrom hm)

/-! ### Messages that the master sends -/

/-- No two servers of the group receive status messages on one port of one host. -/
def DistinctStatusAddresses (config : Configuration) (g : Int) : Prop :=
  ((config.servers g).map ServerInfo.statusAddress).Nodup

section Send

variable (hudp : DistinctStatusAddresses config g) {out : List Datagram}
  {notices : List (Address × Notice Address)}
  (h : List.Forall₂ (Carries config g) out notices)

include hudp h in
/-- The messages to a server of the group carry the notices to it. -/
lemma notices_of_out {info : ServerInfo} (hinfo : info ∈ config.servers g) :
    ((out.filter (fun d => (d.ip, d.udpPort) = info.statusAddress)).map Datagram.text).filterMap
      readNotice = (notices.filter (fun n => n.1 = info.address)).map Prod.snd := by
  induction h with
  | nil => rfl
  | @cons d n out notices hc _ ih =>
    obtain ⟨recv, hrecv, haddr, hip, hport⟩ := hc.recv
    have hread : readNotice d.text = some n.2 := hc.read
    have hto : (d.ip, d.udpPort) = recv.statusAddress := Prod.ext hip hport
    by_cases hsame : recv = info
    · subst hsame
      rw [List.filter_cons_of_pos (by simpa using hto), List.map_cons,
        List.filterMap_cons_some hread, ih,
        List.filter_cons_of_pos (by simpa using haddr.symm), List.map_cons]
    · have hd : (d.ip, d.udpPort) ≠ info.statusAddress := by
        rw [hto]
        intro heq
        exact hsame (List.inj_on_of_nodup_map hudp hrecv hinfo heq)
      have hn : n.1 ≠ info.address := by
        rw [← haddr]
        intro heq
        have hdp : DistinctPorts (config.servers g) := config.distinct g
        exact hsame (hdp.eq_of_tcpPort hrecv hinfo (Prod.mk.inj heq).2)
      rw [List.filter_cons_of_neg (by simpa using hd), ih,
        List.filter_cons_of_neg (by simpa using hn)]

include h in
lemma notices_to_others {a : Address} (ha : memberAt config g a = none) :
    notices.filter (fun n => n.1 = a) = [] := by
  induction h with
  | nil => rfl
  | @cons d n out notices hc _ ih =>
    obtain ⟨recv, hrecv, haddr, -⟩ := hc.recv
    have hn : n.1 ≠ a := by
      rw [← haddr]
      rintro rfl
      rw [memberAt_address hrecv] at ha
      exact absurd ha (by simp)
    rw [List.filter_cons_of_neg (by simpa using hn)]
    exact ih

include hudp h in
/-- What the master sends reaches the members as the notices of the registry. -/
lemma abstracted_send (c : Cluster) (m' : Master) (heartbeats : List Str) :
    abstracted config g { c with
        master := m', heartbeats := heartbeats, statuses := Cluster.send out c.statuses } =
      { abstracted config g c with
        registry := registryOf g m'
        mail := State.post notices (abstracted config g c).mail } := by
  have hmail : noticesTo config g { c with
      master := m', heartbeats := heartbeats, statuses := Cluster.send out c.statuses } =
      State.post notices (noticesTo config g c) := by
    funext a
    unfold State.post
    cases ha : memberAt config g a with
    | none =>
      rw [notices_to_others h ha]
      simp [noticesTo, ha]
    | some info =>
      obtain ⟨hinfo, rfl⟩ := memberAt_some ha
      rw [noticesTo_address _ hinfo, noticesTo_address _ hinfo]
      unfold Cluster.send
      rw [List.filterMap_append, notices_of_out hudp h hinfo]
  unfold abstracted
  rw [hmail]

include h in
lemma exists_carries {d : Datagram} (hd : d ∈ out) : ∃ n ∈ notices, Carries config g d n := by
  induction h with
  | nil => exact absurd hd List.not_mem_nil
  | cons hc _ ih =>
    rcases List.mem_cons.mp hd with rfl | hd
    · exact ⟨_, List.mem_cons_self, hc⟩
    · obtain ⟨n, hn, hcn⟩ := ih hd
      exact ⟨n, List.mem_cons_of_mem _ hn, hcn⟩

include h in
lemma mem_send {statuses : Address → List Str} {a : Address} {text : Str}
    (ht : text ∈ Cluster.send out statuses a) :
    text ∈ statuses a ∨
      ∃ n, readNotice text = some n ∧ ∀ a, n.named = some a → a ∈ members config g := by
  rcases List.mem_append.mp ht with ht | ht
  · exact Or.inl ht
  · right
    obtain ⟨d, hd, rfl⟩ := List.mem_map.mp ht
    have hd := (List.mem_filter.mp hd).1
    obtain ⟨n, -, hc⟩ := exists_carries h hd
    exact ⟨n.2, hc.read, hc.named⟩

end Send

end CloudStorage.Proofs
