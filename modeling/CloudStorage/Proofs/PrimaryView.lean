import CloudStorage.Proofs.SplitBrain

/-!
# What the primary knows of its secondaries

Only the primary is told which server joined. A server that becomes primary later, or a
primary that restarts, is not told who else is alive; the view of a primary is right as long
as none had to be told.
-/

namespace CloudStorage.Proofs
open Leadership

variable {config : Configuration} {g : Int}

/-- Status messages are read in order; a server that becomes primary already has, in its
list and in the messages in flight to it, who else is alive besides the primary before; and
for a primary that restarts the messages in flight to it say so. -/
structure Informs (config : Configuration) (g : Int) (c : Cluster) (e : ClusterEvent) : Prop where
  inOrder : InOrder c e
  elects : ∀ f, Elects config g c f e → ∀ x, x ≠ f → (registryOf g c.master).leader ≠ some x →
    ((abstracted config g c).settledView f x = true ↔ x ∈ upOf (c.master.servers g))
  restarts : ∀ info result, e = .restart info result →
    (registryOf g c.master).leader = some info.address → ∀ x, x ≠ info.address →
    (State.lastView (noticesTo config g c info.address) x false = true ↔
      x ∈ upOf (c.master.servers g))

lemma informed_effect {c c' : Cluster} {e : ClusterEvent} (h : (abstracted config g c).Informed)
    (hok : Informs config g c e) (heff : Effect config g c e c') :
    (abstracted config g c').Informed := by
  cases heff with
  | none heq =>
    rw [heq]
    exact h
  | registry hstep heq hnew =>
    rw [heq]
    apply h.registry hstep
    intro f hf hne x hx hlead
    exact hok.elects f (hnew f hf hne) x hx hlead
  | hear hmail heq =>
    rw [heq]
    exact h.hear hmail
  | forget _ hev heq =>
    rw [heq]
    exact h.forget (hok.restarts _ _ hev)

lemma reachable_informed (hudp : DistinctStatusAddresses config g) {c : Cluster}
    (h : (clusterSystem config g).Reachable (Informs config g) c) :
    WellFormed config g c ∧ (abstracted config g c).Informed := by
  apply h.invariant
  · intro c hc
    refine ⟨wellFormed_init hc, sound_registryOf (wellFormed_init hc).master g, ?_⟩
    intro p hp
    have hnone : (registryOf g c.master).leader = none := by
      unfold registryOf
      rw [hc.1]
      rfl
    exact absurd (hnone.symm.trans hp) (by simp)
  · intro c e c' hc hok hnext
    obtain ⟨hw, heff⟩ := cluster_step hudp hc.1 hok.inOrder hnext
    exact ⟨hw, informed_effect hc.2 hok heff⟩

/-- An entry of a list with distinct addresses is what the list says of its address. -/
lemma liveAt_entry {list : List ServerInfo} (h : DistinctPorts list) {it : ServerInfo}
    (hit : it ∈ list) :
    liveAt list it.address = true ↔ it.isDead = false ∧ it.isPrimary = false := by
  rw [liveAt_iff]
  constructor
  · rintro ⟨x, hx, ha, hlive⟩
    rwa [h.eq_of_tcpPort hit hx (Prod.mk.inj ha).2.symm]
  · intro hlive
    exact ⟨it, hit, rfl, hlive⟩

/-- The list at `a` has as live secondaries exactly the others that the master takes for
alive. -/
def KnowsSecondaries (g : Int) (c : Cluster) (a : Address) : Prop :=
  ∀ it ∈ (c.replica a).server.serverList, it.address ≠ a →
    ((it.isDead = false ∧ it.isPrimary = false) ↔ it.address ∈ upOf (c.master.servers g))

/-- When every status message was read, the recorded primary has an entry for each server of
the group, and knows its live secondaries. -/
theorem primary_knows_secondaries (hudp : DistinctStatusAddresses config g) {c : Cluster}
    (h : (clusterSystem config g).Reachable (Informs config g) c)
    (hquiet : NoStatusInFlight config g c) {p : ServerInfo}
    (hp : c.master.primaryServers g = some p) :
    (c.replica p.address).server.serverList.map ServerInfo.address =
        (config.servers g).map ServerInfo.address ∧ KnowsSecondaries g c p.address := by
  obtain ⟨hw, hinf⟩ := reachable_informed hudp h
  have hmem := (primary_mem hw.master hp).1
  obtain ⟨info, hinfo, haddr⟩ := mem_members (hw.master.settings g) hmem
  have hs := hw.replicas info hinfo
  rw [haddr] at hs
  have hlist : (c.replica p.address).server.serverList =
      (c.replica p.address).server.servers g := by
    unfold Server.serverList
    rw [hs.group_eq hinfo]
  unfold KnowsSecondaries
  rw [hlist]
  constructor
  · rw [← hs.servers, List.map_map]
    rfl
  · intro it hit hne
    have hlead : (registryOf g c.master).leader = some p.address := by
      unfold registryOf
      rw [hp]
      rfl
    have hview := hinf.view p.address hlead it.address hne
    have hmail : noticesTo config g c p.address = [] := by
      rw [← haddr, noticesTo_address c hinfo, hquiet info hinfo]
      rfl
    have hsettled : (abstracted config g c).settledView p.address it.address =
        liveAt ((c.replica p.address).server.servers g) it.address := by
      unfold State.settledView abstracted
      dsimp only
      rw [hmail]
      simp [State.lastView, hne]
    rw [hsettled, liveAt_entry (distinctPorts_of_settings hs.servers) hit] at hview
    exact hview

/-! ### Group 1 -/

/-- All three join and read their messages. -/
def allJoin : List ClusterEvent :=
  [.sendHeartbeat (group1Entry 2001), .sendHeartbeat (group1Entry 2002),
    .sendHeartbeat (group1Entry 2003), .recvHeartbeat 0 0, .recvHeartbeat 0 100,
    .recvHeartbeat 0 100] ++ reads 2001 0 ++ reads 2002 0 ++ reads 2003 0 ++ reads 2001 0 ++
    reads 2001 0

instance (g : Int) (c : Cluster) (a : Address) : Decidable (KnowsSecondaries g c a) :=
  inferInstanceAs (Decidable (∀ it ∈ _, _ → (_ ↔ _)))

/-- What a run of group 1 shows: the port of the recorded primary, whether the server on that
port knows its live secondaries, and what is in flight. -/
def shownView (port : Int) (c : Cluster) : Option Int × Bool × List Nat × Nat :=
  ((c.master.primaryServers 1).map ServerInfo.tcpPort,
    decide (KnowsSecondaries 1 c (group1Entry port).address),
    (group1Configuration.servers 1).map (fun info => (c.statuses info.statusAddress).length),
    c.heartbeats.length)

/-- 2001 is silent, 2002 becomes primary and still takes 2003, which is alive, for dead. -/
theorem elected_primary_misses_secondary : ∃ c,
    (clusterSystem group1Configuration 1).init group1Cluster ∧
    (clusterSystem group1Configuration 1).exec group1Cluster (allJoin ++ lateHeartbeats) = some c ∧
    c.heartbeats = [] ∧ NoStatusInFlight group1Configuration 1 c ∧
    (c.master.primaryServers 1).map ServerInfo.tcpPort = some 2002 ∧
    ¬ KnowsSecondaries 1 c (group1Entry 2002).address := by
  have hrun : ((clusterSystem group1Configuration 1).exec group1Cluster
      (allJoin ++ lateHeartbeats)).map (shownView 2002) =
      some (some 2002, false, [0, 0, 0], 0) := by
    decide +kernel
  obtain ⟨c, hc, hs⟩ := Option.map_eq_some_iff.mp hrun
  obtain ⟨hp, hs⟩ := Prod.mk.inj hs
  obtain ⟨hknows, hs⟩ := Prod.mk.inj hs
  obtain ⟨hlengths, hheart⟩ := Prod.mk.inj hs
  exact ⟨c, group1Cluster_init, hc, List.eq_nil_of_length_eq_zero hheart,
    noStatus_of_lengths hlengths, hp, of_decide_eq_false hknows⟩

/-! ### Checking the condition -/

/-- Those that the step may make primary. -/
def electable (config : Configuration) (g : Int) (c : Cluster) : ClusterEvent → List Address
  | .recvHeartbeat _ _ =>
    if c.master.primaryServers g = none then (config.servers g).map ServerInfo.address else []
  | .checkHeartbeat _ key =>
    ((c.master.servers g).filter (fun it => key = heartbeatKey it ∧ it.isPrimary)).filterMap
      (fun dead => (successor dead (c.master.servers g)).map ServerInfo.address)
  | _ => []

/-- A step that starts the recorded primary again. -/
def RestartsLeader (g : Int) (c : Cluster) : ClusterEvent → Prop
  | .restart info _ => (c.master.primaryServers g).map ServerInfo.address = some info.address
  | _ => False

/-- What `f` will know is right for the servers of the configuration, the primary aside. -/
def RightView (config : Configuration) (g : Int) (c : Cluster) (f : Address) : Prop :=
  ∀ info ∈ config.servers g, info.address ≠ f →
    (c.master.primaryServers g).map ServerInfo.address ≠ some info.address →
    ((abstracted config g c).settledView f info.address = true ↔
      info.address ∈ upOf (c.master.servers g))

/-- The condition on a step, where only servers of the configuration are looked at. -/
def InformsMembers (config : Configuration) (g : Int) (c : Cluster) (e : ClusterEvent) : Prop :=
  InOrder c e ∧ ¬RestartsLeader g c e ∧ ∀ f ∈ electable config g c e, RightView config g c f

instance (c : Cluster) : DecidablePred (InOrder c) := fun e =>
  match e with
  | .receiveStatus _ i => inferInstanceAs (Decidable (i = 0))
  | .sendHeartbeat _ | .recvHeartbeat _ _ | .checkHeartbeat _ _ | .awaitStatus _ | .disable _
  | .enable _ _ | .restart _ _ => isTrue trivial

instance (g : Int) (c : Cluster) : DecidablePred (RestartsLeader g c) := fun e =>
  match e with
  | .restart _ _ => inferInstanceAs (Decidable (_ = _))
  | .sendHeartbeat _ | .recvHeartbeat _ _ | .checkHeartbeat _ _ | .awaitStatus _
  | .receiveStatus _ _ | .disable _ | .enable _ _ => isFalse not_false

instance (config : Configuration) (g : Int) (c : Cluster) (f : Address) :
    Decidable (RightView config g c f) :=
  inferInstanceAs (Decidable (∀ info ∈ _, _ → _ → (_ ↔ _)))

instance (config : Configuration) (g : Int) (c : Cluster) (e : ClusterEvent) :
    Decidable (InformsMembers config g c e) :=
  inferInstanceAs (Decidable (_ ∧ _ ∧ _))

lemma electable_of_elects {c : Cluster} (hw : WellFormed config g c) {f : Address}
    {e : ClusterEvent} (h : Elects config g c f e) :
    f ∈ electable config g c e ∧ f ∈ members config g := by
  cases e with
  | recvHeartbeat i now =>
    obtain ⟨hnone, info, hinfo, -, rfl⟩ := h
    refine ⟨?_, info, hinfo, rfl⟩
    unfold electable
    rw [if_pos hnone]
    exact List.mem_map_of_mem hinfo
  | checkHeartbeat now key =>
    obtain ⟨dead, hdead, hkey, hflag, -, it, hit, rfl⟩ := h
    refine ⟨List.mem_filterMap.mpr ⟨dead, ?_, by rw [hit]; rfl⟩, ?_⟩
    · exact List.mem_filter.mpr ⟨hdead, decide_eq_true ⟨hkey, hflag⟩⟩
    · exact mem_members (hw.master.settings g) (List.mem_of_find?_eq_some hit)
  | sendHeartbeat _ | awaitStatus _ | receiveStatus _ _ | disable _ | enable _ _
  | restart _ _ => exact h.elim

/-- A server takes for live secondaries only servers of the configuration. -/
lemma member_of_settledView {c : Cluster} (hw : WellFormed config g c) {f x : Address}
    (hf : f ∈ members config g) (h : (abstracted config g c).settledView f x = true) :
    x ∈ members config g := by
  obtain ⟨info, hinfo, rfl⟩ := hf
  rcases State.named_of_lastView h with hsees | ⟨n, hn, hnamed⟩
  · obtain ⟨it, hit, rfl, -⟩ := (liveAt_iff _ _).mp (Bool.and_eq_true_iff.mp hsees).2
    exact mem_members (hw.replicas info hinfo).servers hit
  · have hn : n ∈ noticesTo config g c info.address := hn
    rw [noticesTo_address c hinfo] at hn
    obtain ⟨text, htext, hread⟩ := List.mem_filterMap.mp hn
    obtain ⟨m, hm, hmembers⟩ := hw.statuses info hinfo text htext
    obtain rfl := Option.some.inj (hm.symm.trans hread)
    exact hmembers x hnamed

lemma informs_of_members {c : Cluster} (hw : WellFormed config g c) {e : ClusterEvent}
    (h : InformsMembers config g c e) : Informs config g c e := by
  obtain ⟨horder, hrestart, hview⟩ := h
  refine ⟨horder, ?_, ?_⟩
  · intro f hf x hx hlead
    obtain ⟨hmem, hmember⟩ := electable_of_elects hw hf
    by_cases hxm : x ∈ members config g
    · obtain ⟨info, hinfo, rfl⟩ := hxm
      exact hview f hmem info hinfo hx hlead
    · refine iff_of_false (fun hsees => hxm (member_of_settledView hw hmember hsees)) ?_
      rintro ⟨it, hit, rfl, -⟩
      exact hxm (mem_members (hw.master.settings g) hit)
  · rintro info result rfl hlead
    exact absurd hlead hrestart

/-- 2001 and 2002 join, and 2002 takes over from 2001. Then 2003 joins and 2001 comes back. -/
def takeover : List ClusterEvent :=
  bothJoin ++ reads 2001 0 ++ lateHeartbeats ++
    [.sendHeartbeat (group1Entry 2003), .sendHeartbeat (group1Entry 2001), .recvHeartbeat 0 360,
      .recvHeartbeat 0 370] ++ reads 2003 0 ++ reads 2001 0 ++ reads 2002 0 ++ reads 2002 0

theorem primary_knows_secondaries_takeover : ∃ c p,
    (clusterSystem group1Configuration 1).exec group1Cluster takeover = some c ∧
    c.heartbeats = [] ∧ NoStatusInFlight group1Configuration 1 c ∧
    c.master.primaryServers 1 = some p ∧ p.tcpPort = 2002 ∧
    (∀ info ∈ group1Configuration.servers 1, RecordedAlive 1 c info) ∧
    KnowsSecondaries 1 c p.address := by
  have hrun : ((clusterSystem group1Configuration 1).exec group1Cluster takeover).map
      (fun c => (shownView 2002 c,
        decide (∀ info ∈ group1Configuration.servers 1, RecordedAlive 1 c info))) =
      some ((some 2002, true, [0, 0, 0], 0), true) := by
    decide +kernel
  have hcheck : (clusterSystem group1Configuration 1).checkAlong
      (fun c e => decide (InformsMembers group1Configuration 1 c e)) group1Cluster takeover =
      true := by
    decide +kernel
  obtain ⟨c, hc, hs⟩ := Option.map_eq_some_iff.mp hrun
  obtain ⟨hs, halive⟩ := Prod.mk.inj hs
  obtain ⟨hp, hs⟩ := Prod.mk.inj hs
  obtain ⟨hlengths, hheart⟩ := Prod.mk.inj (Prod.mk.inj hs).2
  obtain ⟨p, hp, hport⟩ := Option.map_eq_some_iff.mp hp
  have hquiet := noStatus_of_lengths hlengths
  have hreach : (clusterSystem group1Configuration 1).Reachable
      (Informs group1Configuration 1) c := by
    refine System.Reachable.of_check ?_ (.init group1Cluster_init) hcheck hc
    intro c e hreach h
    exact informs_of_members (reachable_informed group1_distinctStatusAddresses hreach).1
      (of_decide_eq_true h)
  exact ⟨c, p, hc, List.eq_nil_of_length_eq_zero hheart, hquiet, hp, hport,
    of_decide_eq_true halive,
    (primary_knows_secondaries group1_distinctStatusAddresses hreach hquiet hp).2⟩

end CloudStorage.Proofs
