import CloudStorage.Proofs.Election

/-!
# The state of the election

The master's flags, its table of primaries and its table of heartbeats agree after any
sequence of heartbeats and timeout checks.
-/

namespace CloudStorage.Proofs
open Leadership

inductive MasterEvent where
  /-- A heartbeat of a configured server arrives. -/
  | recvHeartbeat (info : ServerInfo) (now : Nat)
  /-- The keys of `last_heartbeat` are visited in some order. -/
  | checkHeartbeats (now : Nat) (keys : List Str)

/-- The master with its two handlers. The times of the heartbeats are arbitrary, so that any
set of servers may have timed out at a check. -/
def masterSystem (config : Configuration) : System Master MasterEvent where
  init := fun m => m = config.master
  next := fun m e =>
    match e with
    | .recvHeartbeat info now =>
      if info ∈ config.servers info.replicaGroup then
        (recvHeartbeat now (heartbeatMessage info.replicaGroup info.tcpPort) m).map Prod.fst
      else none
    | .checkHeartbeats now keys => (checkHeartbeats now keys m).map Prod.fst

variable {config : Configuration}

/-- Every death in a pass leaves the tables in agreement for the next. -/
lemma checkHeartbeats_consistent (now : Nat) (keys : List Str) {m : Master}
    (hm : Consistent config m) :
    ∃ m' out, checkHeartbeats now keys m = some (m', out) ∧ Consistent config m' := by
  induction keys generalizing m with
  | nil => exact ⟨m, [], rfl, hm⟩
  | cons key keys ih =>
    unfold checkHeartbeats
    cases ht : m.last_heartbeat key with
    | none => exact ih hm
    | some t =>
      dsimp only
      split
      · obtain ⟨g, info, hinfo, rfl⟩ := hm.key_known key (by simp [ht])
        have hd := (hm.key_iff g info hinfo).mp (by simp [ht])
        obtain ⟨m₁, out₁, hdied, hacts, -⟩ := serverDied_acts hm hinfo hd
        obtain ⟨m₂, out₂, hrest, hm₂⟩ := ih hacts.consistent
        refine ⟨m₂, out₁ ++ out₂, ?_, hm₂⟩
        rw [hdied]
        dsimp only [Option.bind_eq_bind, Option.bind_some]
        rw [hrest]
        rfl
      · exact ih hm

lemma recvHeartbeat_consistent {m : Master} (hm : Consistent config m) {info : ServerInfo}
    (hinfo : info ∈ config.servers info.replicaGroup) (now : Nat) :
    ∃ m' out, recvHeartbeat now (heartbeatMessage info.replicaGroup info.tcpPort) m =
      some (m', out) ∧ Consistent config m' := by
  have hmem : info ∈ (m.servers info.replicaGroup).map resetFlags := by
    rw [hm.settings]
    exact hinfo
  obtain ⟨it, hit, heq⟩ := List.mem_map.mp hmem
  have hport : (resetFlags it).tcpPort = info.tcpPort := congrArg _ heq
  have hport' : it.tcpPort = info.tcpPort := hport
  obtain ⟨m', out, hrecv, hacts, -⟩ := recvHeartbeat_acts hm hit now
  rw [hport'] at hrecv
  exact ⟨m', out, hrecv, hacts.consistent⟩

lemma reachable_consistent {m : Master}
    (h : (masterSystem config).Reachable (fun _ _ => True) m) : Consistent config m := by
  apply h.invariant
  · rintro m rfl
    exact consistent_master config
  · intro m e m' hm _ hnext
    cases e with
    | recvHeartbeat info now =>
      simp only [masterSystem] at hnext
      split at hnext
      · next hinfo =>
        obtain ⟨m₁, out, hrecv, hm₁⟩ := recvHeartbeat_consistent hm hinfo now
        rw [hrecv] at hnext
        exact Option.some.inj hnext ▸ hm₁
      · exact absurd hnext (by simp)
    | checkHeartbeats now keys =>
      obtain ⟨m₁, out, hcheck, hm₁⟩ := checkHeartbeats_consistent now keys hm
      simp only [masterSystem, hcheck] at hnext
      exact Option.some.inj hnext ▸ hm₁

/-- No conversion of the master throws, and so no run gets stuck at a timeout check or at a
heartbeat of a configured server. -/
theorem master_step_defined {m : Master}
    (h : (masterSystem config).Reachable (fun _ _ => True) m) (e : MasterEvent)
    (he : ∀ info now, e = .recvHeartbeat info now → info ∈ config.servers info.replicaGroup) :
    ((masterSystem config).next m e).isSome = true := by
  have hm := reachable_consistent h
  cases e with
  | recvHeartbeat info now =>
    have hinfo := he info now rfl
    obtain ⟨m', out, hrecv, -⟩ := recvHeartbeat_consistent hm hinfo now
    simp [masterSystem, hinfo, hrecv]
  | checkHeartbeats now keys =>
    obtain ⟨m', out, hcheck, -⟩ := checkHeartbeats_consistent now keys hm
    simp [masterSystem, hcheck]

lemma flagged_length_le_one {list : List ServerInfo} {primary : Option ServerInfo}
    (h : GroupConsistent list primary) (hports : DistinctPorts list) :
    (list.filter (fun a => a.isPrimary)).length ≤ 1 := by
  have hnodup : (list.filter (fun a => a.isPrimary)).Nodup := (List.Nodup.of_map _ hports).filter _
  have hsame : ∀ a ∈ list.filter (fun a => a.isPrimary), primary = some a := by
    intro a ha
    exact (h.primary_iff a).mpr (by simpa using ha)
  generalize list.filter (fun a => a.isPrimary) = flagged at hnodup hsame
  match flagged with
  | [] => exact Nat.zero_le 1
  | [a] => exact Nat.le_refl 1
  | a :: b :: rest =>
    have ha := hsame a (by simp)
    have hb := hsame b (by simp)
    have hab : a = b := Option.some.inj (ha.symm.trans hb)
    have hnot := (List.nodup_cons.mp hnodup).1
    exact absurd (hab ▸ List.mem_cons_self) hnot

/-- At most one server of a group is flagged as primary, and it is alive; the group has an
entry in `primaryServers` when one of its servers is alive, and the entry is the flagged
server; and the servers with a key in `last_heartbeat` are those that are alive. -/
theorem election_state_consistent {m : Master}
    (h : (masterSystem config).Reachable (fun _ _ => True) m) (g : Int) :
    ((m.servers g).filter (fun a => a.isPrimary)).length ≤ 1 ∧
    (∀ a ∈ m.servers g, a.isPrimary = true → a.isDead = false) ∧
    ((m.primaryServers g).isSome = true ↔ ∃ a ∈ m.servers g, a.isDead = false) ∧
    (∀ p, m.primaryServers g = some p → p ∈ m.servers g ∧ p.isPrimary = true) ∧
    ∀ a ∈ m.servers g, (m.last_heartbeat (heartbeatKey a)).isSome = true ↔ a.isDead = false := by
  have hm := reachable_consistent h
  have hg := hm.group g
  refine ⟨flagged_length_le_one hg (distinctPorts_of_settings (hm.settings g)),
    hg.alive_of_primary, ?_, fun p hp => (hg.primary_iff p).mp hp, hm.key_iff g⟩
  constructor
  · intro hsome
    obtain ⟨p, hp⟩ := Option.isSome_iff_exists.mp hsome
    have hmem := primary_mem hm hp
    exact ⟨p, hmem.1, hmem.2.2⟩
  · rintro ⟨a, ha, hd⟩
    cases hp : m.primaryServers g with
    | some p => rfl
    | none =>
      rw [hg.dead_of_none hp a ha] at hd
      exact absurd hd (by decide)

/-- A line of `config.txt` for group 1. -/
def group1Entry (port : Int) : ServerInfo where
  ip := "127.0.0.1".toList
  tcpPort := port
  udpPort2 := port + 7000
  replicaGroup := 1

lemma group1Entry_configured {port : Int} (hp : IsInt port) : Configured 1 (group1Entry port) where
  ip := by
    intro ch hch
    change ch ∉ "127.0.0.1".toList
    have hcases : ch = ':' ∨ ch = ';' ∨ ch = '@' := by simpa using hch
    rcases hcases with rfl | rfl | rfl
    · decide
    · decide
    · decide
  tcpPort := hp
  replicaGroup := rfl
  isInt := by decide
  isPrimary := rfl
  isDead := rfl

def group1Configuration : Configuration where
  servers := fun g => if g = 1 then [group1Entry 2001, group1Entry 2002, group1Entry 2003] else []
  configured := by
    intro g info hinfo
    split at hinfo
    · next hg =>
      subst hg
      have hmem : info = group1Entry 2001 ∨ info = group1Entry 2002 ∨ info = group1Entry 2003 := by
        simpa using hinfo
      rcases hmem with rfl | rfl | rfl
      · exact group1Entry_configured (by decide)
      · exact group1Entry_configured (by decide)
      · exact group1Entry_configured (by decide)
    · exact absurd hinfo List.not_mem_nil
  distinct := by
    intro g
    split
    · decide
    · decide

/-- Server 2001 joins first and is silent when the check comes, 2002 is not. -/
def failover : List MasterEvent :=
  [.recvHeartbeat (group1Entry 2001) 0, .recvHeartbeat (group1Entry 2002) 900,
    .checkHeartbeats 1000 [heartbeatKey (group1Entry 2002), heartbeatKey (group1Entry 2001)]]

theorem election_state_consistent_failover : ∃ m,
    (masterSystem group1Configuration).exec group1Configuration.master failover = some m ∧
    (m.primaryServers 1).map ServerInfo.tcpPort = some 2002 ∧
    ((m.servers 1).filter (fun a => a.isPrimary)).length ≤ 1 := by
  have hrun : ((masterSystem group1Configuration).exec group1Configuration.master failover).map
      (fun m => (m.primaryServers 1).map ServerInfo.tcpPort) = some (some 2002) := by
    decide +kernel
  obtain ⟨m, hm, hp⟩ := Option.map_eq_some_iff.mp hrun
  have hinit : (masterSystem group1Configuration).Reachable (fun _ _ => True)
      group1Configuration.master := System.Reachable.init rfl
  have hreach := hinit.exec (fun _ _ _ => trivial) hm
  exact ⟨m, hm, hp, (election_state_consistent hreach 1).1⟩

end CloudStorage.Proofs
