import CloudStorage.Proofs.MixedForward
import CloudStorage.Proofs.SplitBrain

/-!
# The primary, its secondaries and the master

What holds between the steps of a group while the master keeps its primary: the roles are
what the messages in flight say, and every secondary has the cells of the primary or will
have them once it runs. Messages change neither tables nor files.
-/

namespace CloudStorage.Proofs
open DelimitedText Registers Leadership

/-- The process that initializes is one that `main` set up. -/
def StartedAs (info : ServerInfo) : Life → Prop
  | .recovering s _ | .recovered s =>
    identity s = identity (startServer info.replicaGroup info)
  | .down | .up => True

/-- The group is in step with its primary `p`. -/
structure InStep (config : Configuration) (g : Int) (p : Address) (s : ReplicaGroup) : Prop where
  wellFormed : WellFormed config g s.cluster
  leader : (registryOf g s.cluster.master).leader = some p
  notices : ∀ info ∈ config.servers g, ∀ text ∈ s.cluster.statuses info.statusAddress,
    ∃ n, readNotice text = some n ∧ n.Suits p info.address
  roles : ∀ info ∈ config.servers g,
    ((s.cluster.replica info.address).server.myInfo.isPrimary = true ↔ info.address = p)
  entries : ∀ it ∈ (s.cluster.replica p).server.servers g,
    (it.isPrimary = true ↔ it.address = p)
  running : s.life p = .up
  ready : (s.cluster.replica p).server.currentlyInitializing = false
  named : ∀ a, ∃ k q, (s.cluster.replica a).server.diskFilePath = storagePath k q
  paths : ∀ info ∈ config.servers g,
    (s.cluster.replica info.address).server.diskFilePath = storagePath g info.tcpPort
  noEmpty : NoEmpty (s.cluster.replica p).server.table
  started : ∀ info ∈ config.servers g, StartedAs info (s.life info.address)
  synced : ∀ info ∈ config.servers g, info.address ≠ p →
    Synced (storagePath g info.tcpPort) (cellsOf (s.cluster.replica p).server.table)
      (s.cluster.replica info.address).server s.cluster.disk (s.life info.address)

variable {config : Configuration} {g : Int} {p : Address} {s : ReplicaGroup}

lemma InStep.member (h : InStep config g p s) : ∃ info ∈ config.servers g, info.address = p := by
  obtain ⟨q, hq, rfl⟩ := Option.map_eq_some_iff.mp h.leader
  exact mem_members (h.wellFormed.master.settings g) (primary_mem h.wellFormed.master hq).1

/-- The server that the master has flagged as primary is the primary. -/
lemma InStep.flagged (h : InStep config g p s) {it : ServerInfo}
    (hit : it ∈ s.cluster.master.servers g) (hflag : it.isPrimary = true) : it.address = p := by
  have hp := ((h.wellFormed.master.group g).primary_iff it).mpr ⟨hit, hflag⟩
  have hlead := h.leader
  unfold registryOf at hlead
  rw [hp] at hlead
  exact Option.some.inj hlead

/-! ### What the master does -/

/-- The master does not take the primary for dead. -/
def KeepsLeader (config : Configuration) (g : Int) (p : Address) (s : ReplicaGroup) :
    ClusterEvent → Prop
  | .checkHeartbeat now key => ∀ info ∈ config.servers g, info.address = p →
      key = heartbeatKey info → ∀ t, s.cluster.master.last_heartbeat key = some t →
        now - t ≤ DEAD_THRESHOLD
  | _ => True

/-- The messages of the master are in keeping with its primary. -/
lemma suits_send (hudp : DistinctStatusAddresses config g) {out : List Datagram}
    {notices : List (Address × Notice Address)}
    (hc : List.Forall₂ (Carries config g) out notices) (hn : ∀ m ∈ notices, m.2.Suits p m.1)
    {statuses : Address → List Str} {info : ServerInfo} (hinfo : info ∈ config.servers g)
    {text : Str} (ht : text ∈ Cluster.send out statuses info.statusAddress) :
    text ∈ statuses info.statusAddress ∨
      ∃ n, readNotice text = some n ∧ n.Suits p info.address := by
  cases List.mem_append.mp ht with
  | inl ht => exact Or.inl ht
  | inr ht =>
    right
    obtain ⟨d, hd, rfl⟩ := List.mem_map.mp ht
    obtain ⟨hd, hto⟩ := List.mem_filter.mp hd
    have hto : (d.ip, d.udpPort) = info.statusAddress := by simpa using hto
    obtain ⟨n, hmem, hcarries⟩ := exists_carries hc hd
    obtain ⟨recv, hrecv, haddr, hip, hport⟩ := hcarries.recv
    have hsame : recv = info := by
      apply List.inj_on_of_nodup_map hudp hrecv hinfo
      rw [← hto, hip, hport]
      rfl
    subst hsame
    refine ⟨n.2, hcarries.read, ?_⟩
    rw [haddr]
    exact hn n hmem

/-- The master acted and kept its primary. -/
lemma InStep.acts (hudp : DistinctStatusAddresses config g) (h : InStep config g p s)
    {m' : Master} {out : List Datagram} (ha : Acts config g s.cluster.master m' out)
    (hlead : (registryOf g m').leader = (registryOf g s.cluster.master).leader)
    {heartbeats : List Str} (hsub : ∀ text ∈ heartbeats, text ∈ s.cluster.heartbeats) :
    InStep config g p { s with cluster := { s.cluster with
      master := m', heartbeats := heartbeats
      statuses := Cluster.send out s.cluster.statuses } } := by
  have hwf := (wellFormed_acts hudp h.wellFormed ha hsub).1
  obtain ⟨notices, hstep, hcarries⟩ := ha.step
  have hsound := sound_registryOf h.wellFormed.master g
  have hsuits := hstep.suits hsound h.leader (hlead.trans h.leader)
  refine ⟨hwf, hlead.trans h.leader, ?_, h.roles, h.entries, h.running, h.ready, h.named,
    h.paths, h.noEmpty, h.started, h.synced⟩
  intro info hinfo text ht
  cases suits_send hudp hcarries hsuits hinfo ht with
  | inl hold => exact h.notices info hinfo text hold
  | inr hnew => exact hnew

lemma InStep.recvHeartbeat (hudp : DistinctStatusAddresses config g) (h : InStep config g p s)
    {i now : Nat} {c' : Cluster} (hc : s.cluster.recvHeartbeat i now = some c') :
    InStep config g p { s with cluster := c' } := by
  obtain ⟨info, hinfo, -, m', out, hacts, hlead, rfl⟩ := recvHeartbeat_cases h.wellFormed hc
  have hkeep : (registryOf g m').leader = (registryOf g s.cluster.master).leader := by
    cases hlead with
    | inl hsame => exact hsame
    | inr hfirst =>
      have hleader := h.leader
      unfold registryOf at hleader
      rw [hfirst.1] at hleader
      exact absurd hleader (by simp)
  exact h.acts hudp hacts hkeep (fun text ht => (List.eraseIdx_sublist _ _).subset ht)

lemma InStep.checkHeartbeat (hudp : DistinctStatusAddresses config g) (h : InStep config g p s)
    {now : Nat} {key : Str} (hok : KeepsLeader config g p s (.checkHeartbeat now key))
    {c' : Cluster} (hc : s.cluster.checkHeartbeat now key = some c') :
    InStep config g p { s with cluster := c' } := by
  rcases checkHeartbeat_cases h.wellFormed hc with
    rfl | ⟨dead, hdead, rfl, ⟨t, ht, htime⟩, m', out, hacts, hlead, rfl⟩
  · exact h
  · have hkeep : (registryOf g m').leader = (registryOf g s.cluster.master).leader := by
      cases hlead with
      | inl hsame => exact hsame
      | inr hlost =>
        -- then the primary timed out
        have haddr := h.flagged hdead hlost.1
        have hmem : resetFlags dead ∈ config.servers g := by
          rw [← h.wellFormed.master.settings g]
          exact List.mem_map_of_mem hdead
        have hfresh := hok (resetFlags dead) hmem haddr rfl t ht
        omega
    exact h.acts hudp hacts hkeep (fun _ ht => ht)

/-! ### What a replica does with messages -/

/-- The steps of a replica's threads that leave its globals alone. -/
lemma InStep.of_sameServers (h : InStep config g p s) {c' : Cluster}
    (hwf : WellFormed config g c') (hm : c'.master = s.cluster.master)
    (hs : c'.statuses = s.cluster.statuses) (hd : c'.disk = s.cluster.disk)
    (hr : ∀ a, (c'.replica a).server = (s.cluster.replica a).server) :
    InStep config g p { s with cluster := c' } := by
  refine ⟨hwf, ?_, ?_, ?_, ?_, h.running, ?_, ?_, ?_, ?_, h.started, ?_⟩
  · change (registryOf g c'.master).leader = some p
    rw [hm]
    exact h.leader
  · change ∀ info ∈ config.servers g, ∀ text ∈ c'.statuses info.statusAddress, _
    rw [hs]
    exact h.notices
  · intro info hinfo
    change (c'.replica info.address).server.myInfo.isPrimary = true ↔ _
    rw [hr]
    exact h.roles info hinfo
  · change ∀ it ∈ (c'.replica p).server.servers g, _
    rw [hr]
    exact h.entries
  · change (c'.replica p).server.currentlyInitializing = false
    rw [hr]
    exact h.ready
  · intro a
    change ∃ k q, (c'.replica a).server.diskFilePath = storagePath k q
    rw [hr]
    exact h.named a
  · intro info hinfo
    change (c'.replica info.address).server.diskFilePath = _
    rw [hr]
    exact h.paths info hinfo
  · change NoEmpty (c'.replica p).server.table
    rw [hr]
    exact h.noEmpty
  · intro info hinfo hne
    change Synced _ (cellsOf (c'.replica p).server.table) (c'.replica info.address).server
      c'.disk _
    rw [hr, hr, hd]
    exact h.synced info hinfo hne

/-- A status message leaves the storage alone. -/
lemma storageOf_applyStatus (status : Status) (s : Server) :
    storageOf (s.applyStatus status) = storageOf s := by
  have hrole : ∀ b, storageOf (s.setRole b) = storageOf s := fun _ => rfl
  have hnamed : ∀ (b : Bool) (a : Option Address) (t : Server),
      storageOf (t.heedNamed b a) = storageOf t := by
    intro b a t
    cases a with
    | none => rfl
    | some a =>
      cases b with
      | true => rfl
      | false =>
        change storageOf (t.followPrimary a) = storageOf t
        unfold Server.followPrimary
        dsimp only
        split
        · rfl
        · rfl
  have hdead : ∀ (a : Option Address) (t : Server), storageOf (t.heedDead a) = storageOf t := by
    intro a t
    cases a with
    | none => rfl
    | some a => rfl
  unfold Server.applyStatus
  rw [hdead, hnamed, hrole]

/-- Flags that say who the primary is are kept when entries of other servers get theirs. -/
lemma flags_mapAt {f : ServerInfo → ServerInfo} {a : Address} {list : List ServerInfo}
    (h : ∀ it ∈ list, (it.isPrimary = true ↔ it.address = p))
    (hf : ∀ it ∈ list, it.address = a → ((f it).isPrimary = true ↔ (f it).address = p)) :
    ∀ it ∈ mapAt f a list, (it.isPrimary = true ↔ it.address = p) := by
  intro it hit
  obtain ⟨y, hy, rfl⟩ := List.mem_map.mp hit
  split
  · next ha => exact hf y hy ha
  · exact h y hy

/-- So it is when they are cleared at another address than that of the primary. -/
lemma flags_mapAt_other {f : ServerInfo → ServerInfo} {a : Address} {list : List ServerInfo}
    (ha : a ≠ p) (hclear : ∀ it, (f it).isPrimary = false) (hf : ∀ it, (f it).address = it.address)
    (h : ∀ it ∈ list, (it.isPrimary = true ↔ it.address = p)) :
    ∀ it ∈ mapAt f a list, (it.isPrimary = true ↔ it.address = p) := by
  apply flags_mapAt h
  intro it _ hit
  rw [hclear, hf, hit]
  exact iff_of_false Bool.false_ne_true ha

/-- A message in keeping with its primary leaves the flags in the primary's list. -/
lemma flags_applyStatus {info : ServerInfo} (hinfo : info ∈ config.servers g) {t : Server}
    (hs : Serves config g info t) (hp : info.address = p) {status : Status}
    (hmem : ∀ a, status.named = some a → a ∈ members config g)
    (hn : (noticeOf status).Suits p info.address)
    (h : ∀ it ∈ t.servers g, (it.isPrimary = true ↔ it.address = p)) :
    ∀ it ∈ (t.applyStatus status).servers g, (it.isPrimary = true ↔ it.address = p) := by
  have hrole : status.isPrimary = true := hn.leads.mpr hp
  have hnamed := hn.named hp
  have hlost := hn.lost hp
  have hg := hs.group_eq hinfo
  have hset : ∀ it ∈ (t.setRole status.isPrimary).servers g,
      (it.isPrimary = true ↔ it.address = p) := by
    unfold Server.setRole
    dsimp only
    rw [hg, mapEntries_servers]
    apply flags_mapAt h
    intro it _ _
    have haddr : t.myInfo.address = p := hs.address_eq.trans hp
    exact ⟨fun _ => haddr, fun _ => hrole⟩
  have hjoined : ∀ it ∈ ((t.setRole status.isPrimary).heedNamed status.isPrimary
      status.named).servers g, (it.isPrimary = true ↔ it.address = p) := by
    cases hname : status.named with
    | none => exact hset
    | some a =>
      rw [hrole] at hset ⊢
      have hgroup : (t.setRole true).myInfo.replicaGroup = g := hg
      change ∀ it ∈ ((t.setRole true).markAlive a).servers g, _
      unfold Server.markAlive
      rw [hgroup, mapEntries_servers]
      exact flags_mapAt_other (fun he => hnamed (he ▸ hname)) (fun _ => rfl) (fun _ => rfl) hset
  unfold Server.applyStatus
  cases hdead : status.dead with
  | none => exact hjoined
  | some d =>
    have hserves := (heedNamed_spec hinfo (setRole_spec hinfo hs status.isPrimary).1 hmem
      status.isPrimary).1
    change ∀ it ∈ (Server.markDead d _).servers g, _
    unfold Server.markDead
    rw [hserves.replicaGroup, mapEntries_servers]
    exact flags_mapAt_other (fun he => hlost (he ▸ hdead)) (fun _ => rfl) (fun _ => rfl) hjoined

lemma InStep.receiveStatus (h : InStep config g p s) {info : ServerInfo}
    (hinfo : info ∈ config.servers g) {i : Nat} {c' : Cluster}
    (hc : s.cluster.receiveStatus info i = some c') :
    InStep config g p { s with cluster := c' } := by
  have hserves := h.wellFormed.replicas info hinfo
  obtain ⟨text, status, htext, hstatus, hmem, rfl, hwf⟩ :=
    receiveStatus_cases h.wellFormed hinfo hc
  obtain ⟨n, hn, hsuits⟩ := h.notices info hinfo text (List.mem_of_getElem? htext)
  have hnotice : noticeOf status = n := by
    unfold readNotice at hn
    rw [hstatus] at hn
    exact Option.some.inj hn
  subst hnotice
  let r : Replica := ⟨(s.cluster.replica info.address).server.applyStatus status, false⟩
  have hrole := (applyStatus_spec hinfo hserves hmem).2.1
  -- no table and no file changes
  have hstorage : ∀ a, storageOf (assign s.cluster.replica info.address r a).server =
      storageOf (s.cluster.replica a).server := by
    intro a
    by_cases ha : a = info.address
    · rw [ha, assign_self]
      exact storageOf_applyStatus status _
    · rw [assign_of_ne ha]
  have htable : (assign s.cluster.replica info.address r p).server.table =
      (s.cluster.replica p).server.table :=
    storageOf_congr Server.table (fun _ => rfl) (hstorage p)
  have hpath : ∀ a, (assign s.cluster.replica info.address r a).server.diskFilePath =
      (s.cluster.replica a).server.diskFilePath :=
    fun a => storageOf_congr Server.diskFilePath (fun _ => rfl) (hstorage a)
  refine ⟨hwf, h.leader, ?_, ?_, ?_, h.running, ?_, ?_, ?_, ?_, h.started, ?_⟩
  · intro it hit t ht
    change t ∈ assign s.cluster.statuses info.statusAddress _ it.statusAddress at ht
    by_cases ha : it.statusAddress = info.statusAddress
    · rw [ha, assign_self] at ht
      apply h.notices it hit
      rw [ha]
      exact (List.eraseIdx_sublist _ _).subset ht
    · rw [assign_of_ne ha] at ht
      exact h.notices it hit t ht
  · intro it hit
    change (assign s.cluster.replica info.address r it.address).server.myInfo.isPrimary = true ↔ _
    by_cases ha : it.address = info.address
    · rw [ha, assign_self]
      change
        ((s.cluster.replica info.address).server.applyStatus status).myInfo.isPrimary = true ↔ _
      rw [hrole]
      exact hsuits.leads
    · rw [assign_of_ne ha]
      exact h.roles it hit
  · change ∀ it ∈ (assign s.cluster.replica info.address r p).server.servers g, _
    by_cases hp : p = info.address
    · rw [hp, assign_self, ← hp]
      apply flags_applyStatus hinfo hserves hp.symm hmem hsuits
      rw [← hp]
      exact h.entries
    · rw [assign_of_ne hp]
      exact h.entries
  · have hready : (assign s.cluster.replica info.address r p).server.currentlyInitializing =
        (s.cluster.replica p).server.currentlyInitializing :=
      storageOf_congr Server.currentlyInitializing (fun _ => rfl) (hstorage p)
    exact hready.trans h.ready
  · intro a
    change ∃ k q, (assign s.cluster.replica info.address r a).server.diskFilePath = storagePath k q
    rw [hpath]
    exact h.named a
  · intro it hit
    exact (hpath it.address).trans (h.paths it hit)
  · change NoEmpty (assign s.cluster.replica info.address r p).server.table
    rw [htable]
    exact h.noEmpty
  · intro it hit hne
    change Synced _ (cellsOf (assign s.cluster.replica info.address r p).server.table)
      (assign s.cluster.replica info.address r it.address).server s.cluster.disk _
    rw [htable]
    exact (h.synced it hit hne).congr (hstorage it.address) (SameFiles.refl _ _)

/-- Heartbeats and status messages keep the group in step, in whatever order they are read. -/
theorem InStep.network (hudp : DistinctStatusAddresses config g) (h : InStep config g p s)
    {e : ClusterEvent} (hok : KeepsLeader config g p s e) {s' : ReplicaGroup}
    (hnext : s.network config g e = some s') : InStep config g p s' := by
  unfold ReplicaGroup.network at hnext
  split at hnext
  · next hpart =>
    obtain ⟨c', hc, rfl⟩ := Option.map_eq_some_iff.mp hnext
    cases e with
    | sendHeartbeat info =>
      obtain ⟨hinfo, hc⟩ := of_ofMember hc
      have hwf := (step_sendHeartbeat h.wellFormed hinfo hc).1
      unfold Cluster.sendHeartbeat at hc
      dsimp only at hc
      split at hc
      · obtain rfl := Option.some.inj hc
        exact h.of_sameServers hwf rfl rfl rfl (fun _ => rfl)
      · exact absurd hc (by simp)
    | recvHeartbeat i now => exact h.recvHeartbeat hudp hc
    | checkHeartbeat now key => exact h.checkHeartbeat hudp hok hc
    | awaitStatus info =>
      obtain ⟨hinfo, hc⟩ := of_ofMember hc
      have hwf := (step_awaitStatus h.wellFormed hinfo hc).1
      unfold Cluster.awaitStatus at hc
      split at hc
      · obtain rfl := Option.some.inj hc
        refine h.of_sameServers hwf rfl rfl rfl (fun a => ?_)
        change (assign s.cluster.replica info.address _ a).server = _
        by_cases ha : a = info.address
        · rw [ha, assign_self]
        · rw [assign_of_ne ha]
      · exact absurd hc (by simp)
    | receiveStatus info i =>
      obtain ⟨hinfo, hc⟩ := of_ofMember hc
      exact h.receiveStatus hinfo hc
    | disable info | enable info result | restart info result =>
      exact absurd hpart Bool.false_ne_true
  · exact absurd hnext (by simp)

end CloudStorage.Proofs
