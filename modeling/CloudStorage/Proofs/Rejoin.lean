import CloudStorage.Proofs.RejoinState

/-!
# A secondary that comes back

A write that the primary logs for a secondary which has already read its dead-server log is
lost to it. As long as no write falls into that gap, every secondary that runs gives the
answers of the primary, however the writes fall among the steps of deaths and starts.
-/

namespace CloudStorage.Proofs
open DelimitedText Registers Leadership

variable {config : Configuration} {g : Int} {p : Address} {s : ReplicaGroup}

/-- A write finds its cell and reaches every secondary, now or when it reads its log. -/
structure ReachesAll (life : Address → Life) (list : List ServerInfo) (t : Table) (x : Write) :
    Prop where
  plain : Plain x
  finds : FindsCell t x
  dead : DeadRead life list
  live : LiveRun life list ∨ cellsOf (x.run t).1 = cellsOf t

/-! ### Commands at the primary -/

lemma InStep.serves (h : InStep config g p s) :
    ∃ info ∈ config.servers g, info.address = p ∧
      Serves config g info (s.cluster.replica p).server := by
  obtain ⟨info, hinfo, rfl⟩ := h.member
  exact ⟨info, hinfo, rfl, h.wellFormed.replicas info hinfo⟩

lemma InStep.primaryList_eq (h : InStep config g p s) :
    s.primaryList p = (s.cluster.replica p).server.servers g := by
  obtain ⟨info, hinfo, -, hs⟩ := h.serves
  unfold ReplicaGroup.primaryList Server.serverList
  rw [hs.group_eq hinfo]

/-- The entries of the primary's list are the servers of the group. -/
lemma InStep.entry (h : InStep config g p s) {it : ServerInfo} (hit : it ∈ s.primaryList p) :
    resetFlags it ∈ config.servers g ∧ (it.isPrimary = true ↔ it.address = p) := by
  obtain ⟨info, hinfo, -, hs⟩ := h.serves
  rw [h.primaryList_eq] at hit
  refine ⟨?_, h.entries it hit⟩
  rw [← hs.servers]
  exact List.mem_map_of_mem hit

lemma InStep.exists_entry (h : InStep config g p s) {info : ServerInfo}
    (hinfo : info ∈ config.servers g) : ∃ it ∈ s.primaryList p, resetFlags it = info := by
  obtain ⟨_, _, _, hs⟩ := h.serves
  rw [← hs.servers] at hinfo
  rw [h.primaryList_eq]
  exact List.mem_map.mp hinfo

lemma InStep.ports (h : InStep config g p s) : DistinctPorts (s.primaryList p) := by
  obtain ⟨_, _, _, hs⟩ := h.serves
  rw [h.primaryList_eq]
  exact distinctPorts_of_settings hs.servers

lemma InStep.leads (h : InStep config g p s) (time : Nat) : Leads (s.world p time) p where
  isPrimary := by
    obtain ⟨info, hinfo, rfl⟩ := h.member
    exact (h.roles info hinfo).mpr rfl
  ready := h.ready
  own := by
    intro it hit hp ha
    have hflag := (h.entry hit).2.mpr ha
    rw [hp] at hflag
    exact absurd hflag (by decide)
  ports := h.ports
  roles := by
    intro it hit hp
    obtain ⟨hmem, hflag⟩ := h.entry hit
    have hrole := h.roles (resetFlags it) hmem
    have hne : it.address ≠ p := by
      intro ha
      have ht := hflag.mpr ha
      rw [hp] at ht
      exact absurd ht (by decide)
    rw [Bool.eq_false_iff]
    exact fun ht => hne (hrole.mp ht)
  named := h.named

lemma InStep.keepPaths (h : InStep config g p s) (time : Nat) :
    KeepPaths g (s.primaryList p) (s.world p time) :=
  fun it hit => h.paths (resetFlags it) (h.entry hit).1

/-- What every secondary holds or will hold, by the primary's list. -/
lemma InStep.syncedAt (h : InStep config g p s) (time : Nat) :
    ∀ it ∈ s.primaryList p, it.isPrimary = false →
      SyncedAt g s.life (cellsOf (s.cluster.replica p).server.table) (s.world p time) it := by
  intro it hit hp
  obtain ⟨hmem, hflag⟩ := h.entry hit
  apply h.synced (resetFlags it) hmem
  intro ha
  have ht := hflag.mpr ha
  rw [hp] at ht
  exact absurd ht (by decide)

/-- The worlds in which a command may leave the group. -/
structure WorldInStep (g : Int) (p : Address) (s : ReplicaGroup) (w : World) (w' : World) :
    Prop where
  settings : SameSettings w w'
  noEmpty : NoEmpty (w'.server p).table
  synced : ∀ it ∈ s.primaryList p, it.isPrimary = false →
    SyncedAt g s.life (cellsOf (w'.server p).table) w' it

lemma InStep.setWorld (h : InStep config g p s) {time : Nat} {w' : World}
    (hw : WorldInStep g p s (s.world p time) w') : InStep config g p (s.setWorld w') := by
  have hset : ∀ a, settings (w'.server a) = settings (s.cluster.replica a).server := hw.settings
  refine ⟨?_, h.leader, h.notices, ?_, ?_, h.running, ?_, ?_, ?_, hw.noEmpty, h.started, ?_⟩
  · have hwf := h.wellFormed
    refine ⟨hwf.master, hwf.others, hwf.heartbeats, ?_, hwf.statuses⟩
    intro info hinfo
    exact serves_of_identity (identity_of_settings (hset info.address)) (hwf.replicas info hinfo)
  · intro info hinfo
    change (w'.server info.address).myInfo.isPrimary = true ↔ _
    rw [settings_myInfo (hset info.address)]
    exact h.roles info hinfo
  · change ∀ it ∈ (w'.server p).servers g, _
    have hservers : (w'.server p).servers = (s.cluster.replica p).server.servers :=
      settings_congr Server.servers (fun _ => rfl) (hset p)
    rw [hservers]
    exact h.entries
  · exact (settings_initializing (hset p)).trans h.ready
  · intro a
    change ∃ k q, (w'.server a).diskFilePath = storagePath k q
    rw [settings_diskFilePath (hset a)]
    exact h.named a
  · intro info hinfo
    exact (settings_diskFilePath (hset info.address)).trans (h.paths info hinfo)
  · intro info hinfo hne
    obtain ⟨it, hit, rfl⟩ := h.exists_entry hinfo
    apply hw.synced it hit
    rw [Bool.eq_false_iff]
    exact fun ht => hne ((h.entry hit).2.mp ht)

/-- The files of the primary are none of a secondary's. -/
lemma InStep.port_ne (h : InStep config g p s) {it info : ServerInfo}
    (hit : it ∈ s.primaryList p) (hp : it.isPrimary = false) (hinfo : info ∈ config.servers g)
    (ha : info.address = p) : it.tcpPort ≠ info.tcpPort := by
  intro hport
  obtain ⟨y, hy, rfl⟩ := h.exists_entry hinfo
  have hsame := h.ports.eq_of_tcpPort hit hy hport
  subst hsame
  have hflag := (h.entry hit).2.mpr ha
  rw [hp] at hflag
  exact absurd hflag (by decide)

/-- When the primary settles, which may make a checkpoint, no secondary notices. -/
lemma WorldInStep.settle (h : InStep config g p s) {time : Nat} {w' : World}
    (hw : WorldInStep g p s (s.world p time) w') :
    WorldInStep g p s (s.world p time) (w'.settle p (w'.node p)) := by
  obtain ⟨info, hinfo, ha⟩ := h.member
  have htable : ((w'.settle p (w'.node p)).server p).table = (w'.server p).table :=
    settle_table w' p (w'.node p)
  have hpath : (w'.server p).diskFilePath = storagePath g info.tcpPort := by
    rw [settings_diskFilePath (hw.settings p), ← ha]
    exact h.paths info hinfo
  have hfiles := onlyFilesOf_settle w' p
  rw [hpath] at hfiles
  refine ⟨hw.settings.trans (settle_sameSettings rfl), ?_, ?_⟩
  · rw [htable]
    exact hw.noEmpty
  · intro it hit hp
    rw [htable]
    have hne : it.address ≠ p := (h.leads time).own it hit hp
    exact (hw.synced it hit hp).congr (settle_server_of_ne w' hne _)
      (hfiles.sameFiles (h.port_ne hit hp hinfo ha))

/-- After its loop the primary carries the write out or refuses it. -/
lemma InStep.afterForward (h : InStep config g p s) {time : Nat} {x : Write} {ok : Bool}
    {u : World} (hf : Forwards g x (s.primaryList p) (s.world p time) ok u)
    (hx : RefusedFirst s.life (s.primaryList p) ∨
      ReachesAll s.life (s.primaryList p) (s.cluster.replica p).server.table x) :
    WorldInStep g p s (s.world p time) (Proofs.afterForward p x ok u).1 := by
  obtain ⟨info, hinfo, ha⟩ := h.member
  have hp : u.server p = (s.cluster.replica p).server := hf.server_eq (h.leads time).own
  have hset := hf.sameSettings
  have hstay : ok = false → (∀ it ∈ s.primaryList p, it.isPrimary = false →
      SyncedAt g s.life (cellsOf (s.cluster.replica p).server.table) u it) →
      WorldInStep g p s (s.world p time) (Proofs.afterForward p x ok u).1 := by
    rintro rfl hsync
    have hu : WorldInStep g p s (s.world p time) u := by
      refine ⟨hset, ?_, ?_⟩
      · rw [hp]
        exact h.noEmpty
      · rw [hp]
        exact hsync
    exact WorldInStep.settle h hu
  cases hx with
  | inl hrefused =>
    obtain ⟨hok, hserver, hdisk⟩ := hf.refusedFirst hrefused rfl
    apply hstay hok
    intro it hit hpit
    apply (h.syncedAt time it hit hpit).congr
    · rw [hserver]
    · rw [hdisk]
      exact SameFiles.refl _ _
  | inr hx =>
    obtain ⟨hsame, hsync⟩ := hf.synced h.ports (h.keepPaths time) rfl hx.dead hx.plain rfl
      hx.finds (h.syncedAt time)
    have hwritten : cellsOf (x.run (s.cluster.replica p).server.table).1 =
        written x (cellsOf (s.cluster.replica p).server.table) := cellsOf_run_eq x rfl
    cases ok with
    | false =>
      have hno : written x (cellsOf (s.cluster.replica p).server.table) =
          cellsOf (s.cluster.replica p).server.table := by
        cases hx.live with
        | inl hlive => exact hsame hlive rfl
        | inr hcells => exact hwritten.symm.trans hcells
      apply hstay rfl
      intro it hit hpit
      cases hsync it hit hpit with
      | inl hnew => exact hno ▸ hnew
      | inr hold => exact hold.2
    | true =>
      have htable : ((applyAt u p x).server p).table =
          (x.run (s.cluster.replica p).server.table).1 := by
        rw [applyAt_table, hp]
      have hpath : (u.server p).diskFilePath = storagePath g info.tcpPort := by
        rw [hp, ← ha]
        exact h.paths info hinfo
      have hfiles := onlyFilesOf_applyAt u p x
      rw [hpath] at hfiles
      refine ⟨hset.trans (applyAt_sameSettings u p x), ?_, ?_⟩
      · change NoEmpty ((applyAt u p x).server p).table
        rw [htable]
        exact h.noEmpty.run hx.plain hx.finds
      · intro it hit hpit
        change SyncedAt g s.life (cellsOf ((applyAt u p x).server p).table) (applyAt u p x) it
        rw [htable, hwritten]
        have hne : it.address ≠ p := (h.leads time).own it hit hpit
        have hnew := (hsync it hit hpit).resolve_right (fun hno => Bool.noConfusion hno.1)
        exact hnew.congr (applyAt_server_of_ne u hne x)
          (hfiles.sameFiles (h.port_ne hit hpit hinfo ha))

/-- A command that meets the condition keeps the group in step. -/
theorem InStep.command (h : InStep config g p s) {time : Nat} {msg command : Str}
    (hc : NoCrlf command)
    (hok : ∀ x extra, splitKVStoreCommand command = Write.word x :: (x.fields ++ extra) →
      RefusedFirst s.life (s.primaryList p) ∨
        ReachesAll s.life (s.primaryList p) (s.cluster.replica p).server.table x)
    {s' : ReplicaGroup} (hnext : s.command p time msg command = some s') :
    InStep config g p s' := by
  unfold ReplicaGroup.command at hnext
  split at hnext
  · obtain ⟨⟨w', reply⟩, hserve, rfl⟩ := Option.map_eq_some_iff.mp hnext
    apply h.setWorld
    by_cases hx : ∃ x extra, splitKVStoreCommand command = Write.word x :: (x.fields ++ extra)
    · obtain ⟨x, extra, hx⟩ := hx
      obtain ⟨ok, u, hf, hs⟩ := serveCommand_primary (h.leads time) hc hx 0 msg
      rw [hs] at hserve
      have hfst : (Proofs.afterForward p x ok u).1 = w' :=
        congrArg Prod.fst (Option.some.inj hserve)
      have hgroup : ((s.world p time).server p).replicaGroup = g := by
        obtain ⟨info, hinfo, -, hserves⟩ := h.serves
        exact hserves.replicaGroup
      rw [hgroup] at hf
      exact hfst ▸ h.afterForward hf (hok x extra hx)
    · have hother := serveCommand_other (fun x extra he => hx ⟨x, extra, he⟩) hserve
      rw [hother]
      exact WorldInStep.settle h ⟨fun _ => rfl, h.noEmpty, h.syncedAt time⟩
  · exact absurd hnext (by simp)

/-! ### Processes -/

lemma configured_port_ne {it info : ServerInfo} (hit : it ∈ config.servers g)
    (hinfo : info ∈ config.servers g) (hne : it ≠ info) : it.tcpPort ≠ info.tcpPort := by
  intro hp
  have hd : DistinctPorts (config.servers g) := config.distinct g
  exact hne (hd.eq_of_tcpPort hit hinfo hp)

lemma WellFormed.setDisk {c : Cluster} (h : WellFormed config g c) (d : Disk) :
    WellFormed config g { c with disk := d } :=
  ⟨h.master, h.others, h.heartbeats, h.replicas, h.statuses⟩

/-- One secondary is in another state of its life, with changes to its own files only. -/
lemma InStep.setLife (h : InStep config g p s) {info : ServerInfo}
    (hinfo : info ∈ config.servers g) (hne : info.address ≠ p) {d : Disk} {life : Life}
    (hfiles : OnlyFilesOf (storagePath g info.tcpPort) s.cluster.disk d)
    (hstarted : StartedAs info life)
    (hsync : Synced (storagePath g info.tcpPort) (cellsOf (s.cluster.replica p).server.table)
      (s.cluster.replica info.address).server d life) :
    InStep config g p ((s.setDisk d).setLife info.address life) := by
  have hport : ∀ it ∈ config.servers g, it ≠ info → it.tcpPort ≠ info.tcpPort :=
    fun it hit hno => configured_port_ne hit hinfo hno
  refine ⟨h.wellFormed.setDisk d, h.leader, h.notices, h.roles, h.entries, ?_, h.ready, h.named,
    h.paths, h.noEmpty, ?_, ?_⟩
  · change assign s.life info.address life p = .up
    rw [assign_of_ne (Ne.symm hne)]
    exact h.running
  · intro it hit
    change StartedAs it (assign s.life info.address life it.address)
    by_cases hit' : it = info
    · rw [hit', assign_self]
      exact hstarted
    · rw [assign_of_ne (address_ne (hport it hit hit'))]
      exact h.started it hit
  · intro it hit hp
    change Synced _ _ (s.cluster.replica it.address).server d
      (assign s.life info.address life it.address)
    by_cases hit' : it = info
    · rw [hit', assign_self]
      exact hsync
    · rw [assign_of_ne (address_ne (hport it hit hit'))]
      exact (h.synced it hit hp).congr rfl (hfiles.sameFiles (hport it hit hit'))

lemma of_ofMember_group {info : ServerInfo} {r : Option ReplicaGroup} {s' : ReplicaGroup}
    (h : ReplicaGroup.ofMember config g info r = some s') :
    info ∈ config.servers g ∧ r = some s' := by
  unfold ReplicaGroup.ofMember at h
  split at h
  · next hinfo => exact ⟨hinfo, h⟩
  · exact absurd h (by simp)

/-- A process that does not run is none of the primary. -/
lemma InStep.ne_of_life (h : InStep config g p s) {a : Address} (ha : s.life a ≠ .up) : a ≠ p := by
  rintro rfl
  exact ha h.running

theorem InStep.die (h : InStep config g p s) {info : ServerInfo} (hinfo : info ∈ config.servers g)
    (hne : info.address ≠ p) (hlife : MayDie s.cluster.disk (s.life info.address)) :
    InStep config g p (s.die info.address) :=
  h.setLife hinfo hne (OnlyFilesOf.refl _ _) trivial
    ((h.synced info hinfo hne).die rfl h.noEmpty hlife _)

lemma identity_beginRecovery {path : Str} {result : Nat} {n n' : Node}
    (h : beginRecovery path result n = some n') : identity n'.server = identity n.server := by
  unfold beginRecovery at h
  obtain ⟨m, hm, rfl⟩ := Option.map_eq_some_iff.mp h
  exact (identity_checkpointIfFull path result m).trans (identity_loadAndReplay hm)

theorem InStep.start (h : InStep config g p s) {info : ServerInfo}
    (hinfo : info ∈ config.servers g) {result : Nat} {s' : ReplicaGroup}
    (hnext : s.start info result = some s') : InStep config g p s' := by
  have hgroup := (config.configured g info hinfo).replicaGroup
  unfold ReplicaGroup.start at hnext
  split at hnext
  · next hdown =>
    have hne := h.ne_of_life (a := info.address) (by simp [hdown])
    have hsync := h.synced info hinfo hne
    rw [hdown] at hsync
    obtain ⟨ws, vs, hr⟩ := hsync
    obtain ⟨n, base, ws', hbegin, hcatch, hcells, hfiles⟩ := hr.start result
    have hpath : (startServer info.replicaGroup info).diskFilePath =
        storagePath g info.tcpPort := by
      rw [hgroup]
      rfl
    have hid : identity n.server = identity (startServer info.replicaGroup info) := by
      rw [hgroup]
      exact identity_beginRecovery hbegin
    dsimp only at hnext
    rw [hpath, hgroup, hbegin] at hnext
    obtain rfl := Option.some.inj hnext
    exact h.setLife hinfo hne hfiles hid ⟨base, ws', vs, hcatch, Nat.zero_le _, hcells⟩
  · exact absurd hnext (by simp)

theorem InStep.recover (h : InStep config g p s) {info : ServerInfo}
    (hinfo : info ∈ config.servers g) {s' : ReplicaGroup}
    (hnext : s.recover info.address = some s') : InStep config g p s' := by
  unfold ReplicaGroup.recover at hnext
  split at hnext
  · next server k hlife =>
    have hne := h.ne_of_life (a := info.address) (by simp [hlife])
    have hsync := h.synced info hinfo hne
    have hstarted := h.started info hinfo
    rw [hlife] at hsync hstarted
    obtain ⟨base, ws, vs, hc, hk, hcells⟩ := hsync
    rw [hc.diskFilePath, hc.dead.lines, List.getElem?_map] at hnext
    cases hv : vs[k]? with
    | none =>
      rw [hv] at hnext
      obtain rfl := Option.some.inj hnext
      have hend : k = vs.length := Nat.le_antisymm hk (List.getElem?_eq_none_iff.mp hv)
      subst hend
      exact h.setLife hinfo hne (OnlyFilesOf.refl _ _) hstarted ⟨base, ws, vs, hc, hcells⟩
    | some v =>
      have hlt : k < vs.length := (List.getElem?_eq_some_iff.mp hv).1
      obtain ⟨n, ws', hline, hnew, hfiles⟩ := hc.next hv
      rw [hv] at hnext
      change (replayLine ⟨server, s.cluster.disk⟩ v.line).map _ = some s' at hnext
      rw [hline] at hnext
      obtain rfl := Option.some.inj hnext
      have hid : identity n.server = identity server := identity_replayLine hline
      exact h.setLife hinfo hne hfiles (hid.trans hstarted) ⟨base, ws', vs, hnew, hlt, hcells⟩
  · exact absurd hnext (by simp)

theorem InStep.finish (h : InStep config g p s) {info : ServerInfo}
    (hinfo : info ∈ config.servers g) {result : Nat} {s' : ReplicaGroup}
    (hnext : s.finish config info result = some s') : InStep config g p s' := by
  have hport : ∀ it ∈ config.servers g, it ≠ info → it.tcpPort ≠ info.tcpPort :=
    fun it hit hno => configured_port_ne hit hinfo hno
  unfold ReplicaGroup.finish at hnext
  split at hnext
  · next server hlife =>
    have hne := h.ne_of_life (a := info.address) (by simp [hlife])
    have hsync := h.synced info hinfo hne
    have hstarted := h.started info hinfo
    rw [hlife] at hsync hstarted
    obtain ⟨base, ws, vs, hc, hcells⟩ := hsync
    obtain ⟨hruns, hfiles⟩ := hc.finish config.servers result
    rw [← hc.diskFilePath] at hruns hfiles
    obtain rfl := Option.some.inj hnext
    let path := server.diskFilePath
    let n := endRecovery path config.servers result ⟨server, s.cluster.disk⟩
    have hid : identity (checkpointIfFull path result
        ⟨server, truncateFile (deadServerLogPath path) s.cluster.disk⟩).server =
        identity (startServer info.replicaGroup info) :=
      (identity_checkpointIfFull path result _).trans hstarted
    obtain ⟨hserves, hrole, -⟩ := serves_started hinfo hid
    have hp : assign s.cluster.replica info.address ⟨n.server, false⟩ p = s.cluster.replica p :=
      assign_of_ne (Ne.symm hne) _ _
    refine ⟨wellFormed_setReplica h.wellFormed hinfo hserves n.disk, h.leader, h.notices, ?_, ?_,
      ?_, ?_, ?_, ?_, ?_, ?_, ?_⟩
    · intro it hit
      change (assign s.cluster.replica info.address ⟨n.server, false⟩
        it.address).server.myInfo.isPrimary = true ↔ _
      by_cases hit' : it = info
      · rw [hit', assign_self]
        have hsecondary : n.server.myInfo.isPrimary = false := hrole
        exact iff_of_false (by rw [hsecondary]; decide) hne
      · rw [assign_of_ne (address_ne (hport it hit hit'))]
        exact h.roles it hit
    · change ∀ it ∈ (assign s.cluster.replica info.address ⟨n.server, false⟩ p).server.servers g, _
      rw [hp]
      exact h.entries
    · change assign s.life info.address .up p = .up
      rw [assign_of_ne (Ne.symm hne)]
      exact h.running
    · change (assign s.cluster.replica info.address ⟨n.server, false⟩
        p).server.currentlyInitializing = false
      rw [hp]
      exact h.ready
    · intro a
      change ∃ k q, (assign s.cluster.replica info.address ⟨n.server, false⟩
        a).server.diskFilePath = storagePath k q
      by_cases ha : a = info.address
      · rw [ha, assign_self]
        exact ⟨g, info.tcpPort, hruns.diskFilePath.trans hc.diskFilePath⟩
      · rw [assign_of_ne ha]
        exact h.named a
    · intro it hit
      change (assign s.cluster.replica info.address ⟨n.server, false⟩
        it.address).server.diskFilePath = _
      by_cases hit' : it = info
      · rw [hit', assign_self]
        exact hruns.diskFilePath.trans hc.diskFilePath
      · rw [assign_of_ne (address_ne (hport it hit hit'))]
        exact h.paths it hit
    · change NoEmpty (assign s.cluster.replica info.address ⟨n.server, false⟩ p).server.table
      rw [hp]
      exact h.noEmpty
    · intro it hit
      change StartedAs it (assign s.life info.address .up it.address)
      by_cases hit' : it = info
      · rw [hit', assign_self]
        trivial
      · rw [assign_of_ne (address_ne (hport it hit hit'))]
        exact h.started it hit
    · intro it hit hitp
      change Synced _ (cellsOf (assign s.cluster.replica info.address ⟨n.server, false⟩
          p).server.table) (assign s.cluster.replica info.address ⟨n.server, false⟩
          it.address).server n.disk (assign s.life info.address .up it.address)
      rw [hp]
      by_cases hit' : it = info
      · rw [hit', assign_self, assign_self, ← hcells, ← hc.diskFilePath]
        exact hruns
      · rw [assign_of_ne (address_ne (hport it hit hit')),
          assign_of_ne (address_ne (hport it hit hit'))]
        rw [hc.diskFilePath] at hfiles
        have hdisk : n = endRecovery (storagePath g info.tcpPort) config.servers result
            ⟨server, s.cluster.disk⟩ := by
          simp only [n, path, hc.diskFilePath]
        rw [hdisk]
        exact (h.synced it hit hitp).congr rfl (hfiles.sameFiles (hport it hit hit'))
  · exact absurd hnext (by simp)

end CloudStorage.Proofs
