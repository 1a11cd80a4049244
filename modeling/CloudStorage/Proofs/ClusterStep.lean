import CloudStorage.Proofs.ClusterState

/-!
# The steps of the cluster

Each step of the master or of a replica keeps the cluster well formed and does one thing to
its registry and members.
-/

namespace CloudStorage.Proofs
open Leadership

variable {config : Configuration} {g : Int}

/-- The step makes `f` the primary that the master records: the first server of a group
without a primary, or the first one alive on the list when the primary timed out. -/
def Elects (config : Configuration) (g : Int) (c : Cluster) (f : Address) : ClusterEvent → Prop
  | .recvHeartbeat i _ => c.master.primaryServers g = none ∧ ∃ info ∈ config.servers g,
      c.heartbeats[i]? = some (heartbeatMessage g info.tcpPort) ∧ f = info.address
  | .checkHeartbeat now key => ∃ dead ∈ c.master.servers g, key = heartbeatKey dead ∧
      dead.isPrimary = true ∧ (∃ t, c.master.last_heartbeat key = some t ∧
        DEAD_THRESHOLD < now - t) ∧
      ∃ it, successor dead (c.master.servers g) = some it ∧ f = it.address
  | _ => False

/-- Status messages to one server are read in the order they were sent. -/
def InOrder (_ : Cluster) : ClusterEvent → Prop
  | .receiveStatus _ i => i = 0
  | _ => True

/-- What a step does to the registry and its members. -/
inductive Effect (config : Configuration) (g : Int) (c : Cluster) (e : ClusterEvent)
    (c' : Cluster) : Prop where
  | none : abstracted config g c' = abstracted config g c → Effect config g c e c'
  | registry {notices r'} : (registryOf g c.master).Step notices r' →
      abstracted config g c' = { abstracted config g c with
        registry := r', mail := State.post notices (abstracted config g c).mail } →
      (∀ f, r'.leader = some f → (registryOf g c.master).leader ≠ some f →
        Elects config g c f e) → Effect config g c e c'
  | hear {a n rest} : noticesTo config g c a = n :: rest →
      abstracted config g c' = (abstracted config g c).hear a n rest → Effect config g c e c'
  | forget {info result} : info ∈ config.servers g → e = .restart info result →
      abstracted config g c' = (abstracted config g c).forget info.address →
      Effect config g c e c'

section Master

variable (hudp : DistinctStatusAddresses config g) {c : Cluster} (hw : WellFormed config g c)

include hudp hw in
/-- The master acted for the group, and `heartbeats` are left in flight. -/
lemma wellFormed_acts {m' : Master} {out : List Datagram} (ha : Acts config g c.master m' out)
    {heartbeats : List Str} (hsub : ∀ text ∈ heartbeats, text ∈ c.heartbeats) :
    let c' := { c with
      master := m', heartbeats := heartbeats, statuses := Cluster.send out c.statuses }
    WellFormed config g c' ∧ ∃ notices, (registryOf g c.master).Step notices (registryOf g m') ∧
      abstracted config g c' = { abstracted config g c with
        registry := registryOf g m'
        mail := State.post notices (abstracted config g c).mail } := by
  obtain ⟨notices, hstep, hcarries⟩ := ha.step
  constructor
  · constructor
    · exact ha.consistent
    · intro k hk it hit
      have hframe := ha.frame k hk
      exact hw.others k hk it (hframe ▸ hit)
    · exact fun text ht => hw.heartbeats text (hsub text ht)
    · exact hw.replicas
    · intro info hinfo text ht
      rcases mem_send hcarries ht with ht | ht
      · exact hw.statuses info hinfo text ht
      · exact ht
  · exact ⟨notices, hstep, abstracted_send hudp hcarries c m' heartbeats⟩

omit hudp in
include hw in
/-- The master handles the heartbeat of a server of the group; only in a group without a
primary does that make one. -/
lemma recvHeartbeat_cases {i now : Nat} {c' : Cluster} (h : c.recvHeartbeat i now = some c') :
    ∃ info ∈ config.servers g, c.heartbeats[i]? = some (heartbeatMessage g info.tcpPort) ∧
      ∃ m' out, Acts config g c.master m' out ∧
        ((registryOf g m').leader = (registryOf g c.master).leader ∨
          c.master.primaryServers g = none ∧ (registryOf g m').leader = some info.address) ∧
        c' = { c with
          master := m'
          heartbeats := c.heartbeats.eraseIdx i
          statuses := Cluster.send out c.statuses } := by
  unfold Cluster.recvHeartbeat at h
  obtain ⟨message, hmsg, h⟩ := Option.bind_eq_some_iff.mp h
  obtain ⟨⟨m', out⟩, hrecv, h⟩ := Option.bind_eq_some_iff.mp h
  obtain rfl := Option.some.inj h
  obtain ⟨info, hinfo, rfl⟩ := hw.heartbeats message (List.mem_of_getElem? hmsg)
  have hmem : info ∈ (c.master.servers g).map resetFlags := by
    rw [hw.master.settings]
    exact hinfo
  obtain ⟨it, hit, rfl⟩ := List.mem_map.mp hmem
  obtain ⟨m₁, out₁, hrecv₁, hacts, hnew⟩ := recvHeartbeat_acts hw.master hit now
  have hsame : some (m', out) = some (m₁, out₁) := hrecv.symm.trans hrecv₁
  obtain ⟨rfl, rfl⟩ := Prod.mk.inj (Option.some.inj hsame)
  exact ⟨resetFlags it, hinfo, hmsg, m', out, hacts, hnew, rfl⟩

include hudp hw in
lemma step_recvHeartbeat {i now : Nat} {c' : Cluster} (h : c.recvHeartbeat i now = some c') :
    WellFormed config g c' ∧ Effect config g c (.recvHeartbeat i now) c' := by
  obtain ⟨info, hinfo, hmsg, m', out, hacts, hnew, rfl⟩ := recvHeartbeat_cases hw h
  have hsub : ∀ text ∈ c.heartbeats.eraseIdx i, text ∈ c.heartbeats :=
    fun text ht => (List.eraseIdx_sublist _ _).subset ht
  obtain ⟨hwf, notices, hstep, habs⟩ := wellFormed_acts hudp hw hacts hsub
  refine ⟨hwf, Effect.registry hstep habs ?_⟩
  intro f hf hne
  cases hnew with
  | inl hsame =>
    rw [hsame] at hf
    exact absurd hf hne
  | inr hfirst =>
    rw [hfirst.2] at hf
    exact ⟨hfirst.1, info, hinfo, hmsg, (Option.some.inj hf).symm⟩

omit hudp in
include hw in
/-- A check for a timeout does nothing, or a server of the group timed out; only a primary
that did is replaced. -/
lemma checkHeartbeat_cases {now : Nat} {key : Str} {c' : Cluster}
    (h : c.checkHeartbeat now key = some c') :
    c' = c ∨ ∃ dead ∈ c.master.servers g, key = heartbeatKey dead ∧
      (∃ t, c.master.last_heartbeat key = some t ∧ DEAD_THRESHOLD < now - t) ∧
      ∃ m' out, Acts config g c.master m' out ∧
        ((registryOf g m').leader = (registryOf g c.master).leader ∨ dead.isPrimary = true ∧
          (registryOf g m').leader =
            (successor dead (c.master.servers g)).map ServerInfo.address) ∧
        c' = { c with
          master := m'
          heartbeats := c.heartbeats
          statuses := Cluster.send out c.statuses } := by
  have hsame : ∀ c', some ({ c with statuses := Cluster.send [] c.statuses } : Cluster) = some c' →
      c' = c := by
    intro c' hc
    have hsend : Cluster.send [] c.statuses = c.statuses := by
      funext a
      simp [Cluster.send]
    rw [← Option.some.inj hc, hsend]
  unfold Cluster.checkHeartbeat checkHeartbeats at h
  cases ht : c.master.last_heartbeat key with
  | none =>
    rw [ht] at h
    exact Or.inl (hsame c' h)
  | some t =>
    rw [ht] at h
    dsimp only at h
    by_cases htime : DEAD_THRESHOLD < now - t
    · rw [if_pos htime] at h
      obtain ⟨k, info, hinfo, rfl⟩ := hw.master.key_known key (by simp [ht])
      have hd := (hw.master.key_iff k info hinfo).mp (by simp [ht])
      have hk : k = g := by
        by_contra hk
        rw [hw.others k hk info hinfo] at hd
        exact absurd hd (by decide)
      subst hk
      obtain ⟨m', out, hdied, hacts, hnew⟩ := serverDied_acts hw.master hinfo hd
      rw [hdied] at h
      have hc : c' = { c with
          master := m', heartbeats := c.heartbeats, statuses := Cluster.send out c.statuses } := by
        have happ : out ++ [] = out := List.append_nil out
        have hcheck : ∀ m : Master, checkHeartbeats now [] m = some (m, []) := fun _ => rfl
        simp only [Option.bind_eq_bind, Option.bind_some, hcheck, Option.pure_def, happ,
          Option.map_some, Option.some.injEq] at h
        exact h.symm
      exact Or.inr ⟨info, hinfo, rfl, ⟨t, rfl, htime⟩, m', out, hacts, hnew, hc⟩
    · rw [if_neg htime] at h
      exact Or.inl (hsame c' h)

include hudp hw in
lemma step_checkHeartbeat {now : Nat} {key : Str} {c' : Cluster}
    (h : c.checkHeartbeat now key = some c') :
    WellFormed config g c' ∧ Effect config g c (.checkHeartbeat now key) c' := by
  rcases checkHeartbeat_cases hw h with rfl | ⟨dead, hdead, hkey, htime, m', out, hacts, hnew, rfl⟩
  · exact ⟨hw, Effect.none rfl⟩
  · obtain ⟨hwf, notices, hstep, habs⟩ := wellFormed_acts hudp hw hacts (fun _ ht => ht)
    refine ⟨hwf, Effect.registry hstep habs ?_⟩
    intro f hf hne
    cases hnew with
    | inl hsame =>
      rw [hsame] at hf
      exact absurd hf hne
    | inr hlost =>
      rw [hlost.2] at hf
      obtain ⟨it, hit, rfl⟩ := Option.map_eq_some_iff.mp hf
      exact ⟨dead, hdead, hkey, hlost.1, htime, it, hit, rfl⟩

end Master

section Replicas

variable {c : Cluster} (hw : WellFormed config g c) {info : ServerInfo}
  (hinfo : info ∈ config.servers g)

include hw hinfo in
/-- A replica may be replaced by one that serves as the same member. -/
lemma wellFormed_setReplica {r : Replica} (hr : Serves config g info r.server) (d : Disk) :
    WellFormed config g { c.setReplica info.address r with disk := d } := by
  refine ⟨hw.master, hw.others, hw.heartbeats, ?_, hw.statuses⟩
  intro it hit
  change Serves config g it (assign c.replica info.address r it.address).server
  by_cases ha : it.address = info.address
  · have hd : DistinctPorts (config.servers g) := config.distinct g
    rw [hd.eq_of_tcpPort hit hinfo (Prod.mk.inj ha).2, assign_self]
    exact hr
  · rw [assign_of_ne ha]
    exact hw.replicas it hit

/-- The registry and its members see of a replica its role and its list. -/
lemma abstracted_setReplica {a : Address} {r : Replica}
    (hrole : r.server.myInfo.isPrimary = (c.replica a).server.myInfo.isPrimary)
    (hlist : r.server.servers g = (c.replica a).server.servers g) (d : Disk) :
    abstracted config g { c.setReplica a r with disk := d } = abstracted config g c := by
  have hleads : ∀ b, (assign c.replica a r b).server.myInfo.isPrimary =
      (c.replica b).server.myInfo.isPrimary := by
    intro b
    by_cases hb : b = a
    · rw [hb, assign_self, hrole]
    · rw [assign_of_ne hb]
  have hsees : ∀ b, (assign c.replica a r b).server.servers g =
      (c.replica b).server.servers g := by
    intro b
    by_cases hb : b = a
    · rw [hb, assign_self, hlist]
    · rw [assign_of_ne hb]
  unfold abstracted Cluster.setReplica noticesTo
  simp only [hleads, hsees]

/-- Initializing again changes neither role nor list. -/
lemma seen_of_identity {s t : Server} (h : identity s = identity t) :
    s.myInfo.isPrimary = t.myInfo.isPrimary ∧ s.servers = t.servers := by
  have hmy : (identity s).myInfo = (identity t).myInfo := by rw [h]
  have hservers : (identity s).servers = (identity t).servers := by rw [h]
  exact ⟨congrArg ServerInfo.isPrimary hmy, hservers⟩

include hw hinfo in
lemma step_sendHeartbeat {c' : Cluster} (h : c.sendHeartbeat info.address = some c') :
    WellFormed config g c' ∧ Effect config g c (.sendHeartbeat info) c' := by
  have hs := hw.replicas info hinfo
  unfold Cluster.sendHeartbeat at h
  dsimp only at h
  split at h
  · obtain rfl := Option.some.inj h
    refine ⟨⟨hw.master, hw.others, ?_, hw.replicas, hw.statuses⟩, Effect.none rfl⟩
    intro text ht
    rcases List.mem_append.mp ht with ht | ht
    · exact hw.heartbeats text ht
    · refine ⟨info, hinfo, ?_⟩
      have hport : (c.replica info.address).server.myInfo.tcpPort = info.tcpPort :=
        (Prod.mk.inj hs.address_eq).2
      rw [List.mem_singleton.mp ht, hs.replicaGroup, hport]
  · exact absurd h (by simp)

include hw hinfo in
lemma step_awaitStatus {c' : Cluster} (h : c.awaitStatus info.address = some c') :
    WellFormed config g c' ∧ Effect config g c (.awaitStatus info) c' := by
  unfold Cluster.awaitStatus at h
  split at h
  · obtain rfl := Option.some.inj h
    let r : Replica := { c.replica info.address with waiting := true }
    exact ⟨wellFormed_setReplica (r := r) hw hinfo (hw.replicas info hinfo) c.disk,
      Effect.none (abstracted_setReplica (r := r) rfl rfl c.disk)⟩
  · exact absurd h (by simp)

include hw hinfo in
lemma step_disable {c' : Cluster} (h : c.disable info.address = some c') :
    WellFormed config g c' ∧ Effect config g c (.disable info) c' := by
  have hs := hw.replicas info hinfo
  unfold Cluster.disable at h
  dsimp only at h
  split at h
  · obtain rfl := Option.some.inj h
    let r : Replica := { c.replica info.address with
      server := { (c.replica info.address).server with enabled := false } }
    exact ⟨wellFormed_setReplica (r := r) hw hinfo ⟨hs.myInfo, hs.replicaGroup, hs.servers⟩ c.disk,
      Effect.none (abstracted_setReplica (r := r) rfl rfl c.disk)⟩
  · exact absurd h (by simp)

include hw hinfo in
lemma step_enable {result : Nat} {c' : Cluster} (h : c.enable info.address result = some c') :
    WellFormed config g c' ∧ Effect config g c (.enable info result) c' := by
  have hs := hw.replicas info hinfo
  unfold Cluster.enable at h
  dsimp only at h
  split at h
  · obtain ⟨n, hn, rfl⟩ := Option.map_eq_some_iff.mp h
    have hid := identity_initializeFrom hn
    have hser : Serves config g info n.server :=
      serves_of_identity hid ⟨hs.myInfo, hs.replicaGroup, hs.servers⟩
    obtain ⟨hrole, hservers⟩ := seen_of_identity hid
    let r : Replica := { c.replica info.address with
      server := { n.server with currentlyInitializing := false } }
    exact ⟨wellFormed_setReplica (r := r) hw hinfo
        ⟨hser.myInfo, hser.replicaGroup, hser.servers⟩ n.disk,
      Effect.none (abstracted_setReplica (r := r) hrole (congrFun hservers g) n.disk)⟩
  · exact absurd h (by simp)

include hw hinfo in
lemma step_restart {result : Nat} {c' : Cluster}
    (h : c.restart config info result = some c') :
    WellFormed config g c' ∧ Effect config g c (.restart info result) c' := by
  unfold Cluster.restart at h
  obtain ⟨n, hn, rfl⟩ := Option.map_eq_some_iff.mp h
  obtain ⟨hser, hrole, hlive⟩ := startProcess_spec hinfo hn
  refine ⟨wellFormed_setReplica hw hinfo hser n.disk, Effect.forget hinfo rfl ?_⟩
  have hleads :
      (fun b => (assign c.replica info.address ⟨n.server, false⟩ b).server.myInfo.isPrimary) =
      Function.update (fun b => (c.replica b).server.myInfo.isPrimary) info.address false := by
    funext b
    by_cases hb : b = info.address
    · rw [hb, assign_self, Function.update_self]
      exact hrole
    · rw [assign_of_ne hb, Function.update_of_ne hb]
  have hsees : (fun b x => decide (x ≠ b) &&
      liveAt ((assign c.replica info.address ⟨n.server, false⟩ b).server.servers g) x) =
      Function.update (fun b x => decide (x ≠ b) && liveAt ((c.replica b).server.servers g) x)
        info.address (fun _ => false) := by
    funext b x
    by_cases hb : b = info.address
    · rw [hb, assign_self, Function.update_self, hlive x, Bool.and_false]
    · rw [assign_of_ne hb, Function.update_of_ne hb]
  unfold abstracted Cluster.setReplica State.forget
  dsimp only
  rw [hleads, hsees]
  rfl

include hinfo in
/-- Messages left in flight to one server leave those to the others alone. -/
lemma noticesTo_assign (hudp : DistinctStatusAddresses config g) {c' : Cluster}
    {rest : List Str} (h : c'.statuses = assign c.statuses info.statusAddress rest) :
    noticesTo config g c' =
      Function.update (noticesTo config g c) info.address (rest.filterMap readNotice) := by
  funext b
  by_cases hb : b = info.address
  · rw [hb, Function.update_self, noticesTo_address _ hinfo, h, assign_self]
  · rw [Function.update_of_ne hb]
    unfold noticesTo
    cases hm : memberAt config g b with
    | none => rfl
    | some it =>
      obtain ⟨hit, rfl⟩ := memberAt_some hm
      have hne : it.statusAddress ≠ info.statusAddress := by
        intro heq
        exact hb (congrArg _ (List.inj_on_of_nodup_map hudp hit hinfo heq))
      dsimp only
      rw [h, assign_of_ne hne]

include hw hinfo in
/-- Whichever message in flight to it a replica reads, it does what that message says. -/
lemma receiveStatus_cases {i : Nat} {c' : Cluster} (h : c.receiveStatus info i = some c') :
    ∃ text status, (c.statuses info.statusAddress)[i]? = some text ∧
      readStatus text = some status ∧
      (∀ a, status.named = some a → a ∈ members config g) ∧
      c' = { c.setReplica info.address
          ⟨(c.replica info.address).server.applyStatus status, false⟩ with
        statuses := assign c.statuses info.statusAddress
          ((c.statuses info.statusAddress).eraseIdx i) } ∧
      WellFormed config g c' := by
  have hs := hw.replicas info hinfo
  unfold Cluster.receiveStatus at h
  split at h
  · obtain ⟨text, htext, h⟩ := Option.bind_eq_some_iff.mp h
    obtain ⟨server, hserver, h⟩ := Option.bind_eq_some_iff.mp h
    obtain rfl := Option.some.inj h
    obtain ⟨n, hn, hnamed⟩ := hw.statuses info hinfo text (List.mem_of_getElem? htext)
    obtain ⟨status, hstatus, rfl⟩ := Option.map_eq_some_iff.mp hn
    have hserver' : server = (c.replica info.address).server.applyStatus status := by
      unfold CloudStorage.receiveStatus at hserver
      rw [hstatus] at hserver
      exact (Option.some.inj hserver).symm
    subst hserver'
    refine ⟨text, status, htext, hstatus, hnamed, rfl, ?_⟩
    have hser := (applyStatus_spec hinfo hs hnamed).1
    have hwf := wellFormed_setReplica
      (r := ⟨(c.replica info.address).server.applyStatus status, false⟩) hw hinfo hser c.disk
    refine ⟨hwf.master, hwf.others, hwf.heartbeats, hwf.replicas, ?_⟩
    intro it hit t ht
    change t ∈ assign c.statuses info.statusAddress _ it.statusAddress at ht
    by_cases ha : it.statusAddress = info.statusAddress
    · rw [ha, assign_self] at ht
      exact hw.statuses info hinfo t ((List.eraseIdx_sublist _ _).subset ht)
    · rw [assign_of_ne ha] at ht
      exact hw.statuses it hit t ht
  · exact absurd h (by simp)

include hw hinfo in
/-- A replica that reads its first message hears the notice in it. -/
lemma step_receiveStatus (hudp : DistinctStatusAddresses config g) {c' : Cluster}
    (h : c.receiveStatus info 0 = some c') :
    WellFormed config g c' ∧ Effect config g c (.receiveStatus info 0) c' := by
  have hs := hw.replicas info hinfo
  obtain ⟨text, status, htext, hstatus, hnamed, rfl, hwf⟩ := receiveStatus_cases hw hinfo h
  refine ⟨hwf, ?_⟩
  obtain ⟨-, hrole, hview⟩ := applyStatus_spec hinfo hs hnamed
  have hlist : ∃ rest, c.statuses info.statusAddress = text :: rest := by
    cases hl : c.statuses info.statusAddress with
    | nil => simp [hl] at htext
    | cons x rest =>
      rw [hl] at htext
      have hx : x = text := by simpa using htext
      exact ⟨rest, by rw [hx]⟩
  obtain ⟨rest, hlist⟩ := hlist
  have herase : (c.statuses info.statusAddress).eraseIdx 0 = rest := by
    rw [hlist]
    rfl
  have hread : readNotice text = some (noticeOf status) := by
    unfold readNotice
    rw [hstatus]
    rfl
  have hmail : noticesTo config g c info.address =
      noticeOf status :: rest.filterMap readNotice := by
    rw [noticesTo_address c hinfo, hlist]
    exact List.filterMap_cons_some hread
  apply Effect.hear hmail
  unfold abstracted State.hear
  congr 1
  · funext b
    change (assign c.replica info.address _ b).server.myInfo.isPrimary = _
    by_cases hb : b = info.address
    · rw [hb, assign_self, Function.update_self]
      exact hrole
    · rw [assign_of_ne hb, Function.update_of_ne hb]
  · funext b x
    change (decide (x ≠ b) && liveAt ((assign c.replica info.address _ b).server.servers g) x) = _
    by_cases hb : b = info.address
    · rw [hb, assign_self, Function.update_self]
      dsimp only
      by_cases hx : x = info.address
      · simp [hx]
      · rw [if_neg hx, hview x hx]
        simp [hx]
    · rw [assign_of_ne hb, Function.update_of_ne hb]
  · rw [noticesTo_assign hinfo hudp rfl, herase]

end Replicas

lemma of_ofMember {info : ServerInfo} {r : Option Cluster} {c' : Cluster}
    (h : Cluster.ofMember config g info r = some c') : info ∈ config.servers g ∧ r = some c' := by
  unfold Cluster.ofMember at h
  split at h
  · next hinfo => exact ⟨hinfo, h⟩
  · exact absurd h (by simp)

/-- One step of the cluster when status messages are read in order. -/
theorem cluster_step (hudp : DistinctStatusAddresses config g) {c c' : Cluster}
    (hw : WellFormed config g c) {e : ClusterEvent} (ho : InOrder c e)
    (h : (clusterSystem config g).next c e = some c') :
    WellFormed config g c' ∧ Effect config g c e c' := by
  cases e with
  | sendHeartbeat info =>
    obtain ⟨hinfo, h⟩ := of_ofMember h
    exact step_sendHeartbeat hw hinfo h
  | recvHeartbeat i now => exact step_recvHeartbeat hudp hw h
  | checkHeartbeat now key => exact step_checkHeartbeat hudp hw h
  | awaitStatus info =>
    obtain ⟨hinfo, h⟩ := of_ofMember h
    exact step_awaitStatus hw hinfo h
  | receiveStatus info i =>
    obtain ⟨hinfo, h⟩ := of_ofMember h
    have hi : i = 0 := ho
    subst hi
    exact step_receiveStatus hw hinfo hudp h
  | disable info =>
    obtain ⟨hinfo, h⟩ := of_ofMember h
    exact step_disable hw hinfo h
  | enable info result =>
    obtain ⟨hinfo, h⟩ := of_ofMember h
    exact step_enable hw hinfo h
  | restart info result =>
    obtain ⟨hinfo, h⟩ := of_ofMember h
    exact step_restart hw hinfo h

theorem wellFormed_init {c : Cluster} (h : (clusterSystem config g).init c) :
    WellFormed config g c := by
  obtain ⟨hmaster, hheartbeats, hstatuses, hreplicas⟩ := h
  constructor
  · rw [hmaster]
    exact consistent_master config
  · intro k _ it hit
    rw [hmaster] at hit
    exact (config.configured k it hit).isDead
  · intro text ht
    rw [hheartbeats] at ht
    exact absurd ht List.not_mem_nil
  · intro info hinfo
    obtain ⟨result, d, n, hn, hr⟩ := hreplicas info hinfo
    rw [hr]
    exact (startProcess_spec hinfo hn).1
  · intro info _ text ht
    rw [hstatuses] at ht
    exact absurd ht List.not_mem_nil

end CloudStorage.Proofs
