import CloudStorage.Lib.Leadership
import CloudStorage.Lib.Runs
import CloudStorage.Proofs.MasterLoops

/-!
# Election

What one heartbeat and one timeout do to the master: they keep its tables consistent, and
for the group they are a step of a registry.
-/

namespace CloudStorage.Proofs
open Leadership

/-! ### The invariant -/

/-- The flags of a server as the configuration leaves them. -/
def resetFlags (info : ServerInfo) : ServerInfo := { info with isPrimary := false, isDead := true }

/-- The list of a group and its entry in `primaryServers` agree. -/
structure GroupConsistent (list : List ServerInfo) (primary : Option ServerInfo) : Prop where
  primary_iff : ∀ q, primary = some q ↔ q ∈ list ∧ q.isPrimary = true
  alive_of_primary : ∀ a ∈ list, a.isPrimary = true → a.isDead = false
  dead_of_none : primary = none → ∀ a ∈ list, a.isDead = true

structure Consistent (config : Configuration) (m : Master) : Prop where
  settings : ∀ g, (m.servers g).map resetFlags = config.servers g
  group : ∀ g, GroupConsistent (m.servers g) (m.primaryServers g)
  key_iff : ∀ g, ∀ a ∈ m.servers g,
    (m.last_heartbeat (heartbeatKey a)).isSome = true ↔ a.isDead = false
  key_known : ∀ key, (m.last_heartbeat key).isSome = true →
    ∃ g, ∃ a ∈ m.servers g, key = heartbeatKey a

lemma resetFlags_of_configured {g : Int} {info : ServerInfo} (h : Configured g info) :
    resetFlags info = info := by
  obtain ⟨ip, tcpPort, udpPort2, isPrimary, isDead, replicaGroup⟩ := info
  have hp : isPrimary = false := h.isPrimary
  have hd : isDead = true := h.isDead
  rw [hp, hd]
  rfl

theorem consistent_master (config : Configuration) : Consistent config config.master := by
  constructor
  · intro g
    have hid : ∀ info ∈ config.servers g, resetFlags info = info :=
      fun info hinfo => resetFlags_of_configured (config.configured g info hinfo)
    exact (List.map_congr_left hid).trans (List.map_id _)
  · intro g
    constructor
    · intro q
      constructor
      · intro h
        exact absurd h (by simp [Configuration.master])
      · rintro ⟨hq, hp⟩
        have hc := (config.configured g q hq).isPrimary
        rw [hp] at hc
        exact absurd hc (by decide)
    · intro a ha hp
      have hc := (config.configured g a ha).isPrimary
      rw [hp] at hc
      exact absurd hc (by decide)
    · intro _ a ha
      exact (config.configured g a ha).isDead
  · intro g a ha
    have hd : a.isDead = true := (config.configured g a ha).isDead
    simp [Configuration.master, hd]
  · intro key h
    exact absurd h (by simp [Configuration.master])

section Lists

variable {config : Configuration} {g : Int} {list : List ServerInfo}

lemma distinctPorts_of_settings (h : list.map resetFlags = config.servers g) :
    DistinctPorts list := by
  have hmap : list.map ServerInfo.tcpPort = (config.servers g).map ServerInfo.tcpPort := by
    rw [← h, List.map_map]
    rfl
  unfold DistinctPorts
  rw [hmap]
  exact config.distinct g

lemma configured_of_settings (h : list.map resetFlags = config.servers g) {a : ServerInfo}
    (ha : a ∈ list) : Configured g (resetFlags a) :=
  config.configured g _ (h ▸ List.mem_map_of_mem ha)

lemma replicaGroup_of_settings (h : list.map resetFlags = config.servers g) :
    ∀ a ∈ list, a.replicaGroup = g :=
  fun _ ha => (configured_of_settings h ha).replicaGroup

lemma printable_of_settings (h : list.map resetFlags = config.servers g) {a : ServerInfo}
    (ha : a ∈ list) : Printable a := by
  have hc := (configured_of_settings h ha).toPrintable
  exact ⟨hc.ip, hc.tcpPort⟩

/-- An entry may be replaced by one that differs from it in the flags only. -/
lemma map_resetFlags_setEntry (h : DistinctPorts list) {a info : ServerInfo} (hinfo : info ∈ list)
    (ha : resetFlags a = resetFlags info) :
    (setEntry a list).map resetFlags = list.map resetFlags := by
  unfold setEntry
  rw [List.map_map]
  apply List.map_congr_left
  intro it hit
  dsimp only [Function.comp_apply]
  split
  · next hp =>
    have hport : it.tcpPort = info.tcpPort := by
      have hai : (resetFlags a).tcpPort = (resetFlags info).tcpPort := congrArg _ ha
      exact hp.trans hai
    rw [ha, h.eq_of_tcpPort hit hinfo hport]
  · rfl

end Lists

/-- The keys of `last_heartbeat` tell all servers apart. -/
lemma heartbeatKey_injective {config : Configuration} {m : Master} (hm : Consistent config m)
    {g k : Int} {a b : ServerInfo} (ha : a ∈ m.servers g) (hb : b ∈ m.servers k)
    (h : heartbeatKey a = heartbeatKey b) : g = k ∧ a.tcpPort = b.tcpPort := by
  have hga := configured_of_settings (hm.settings g) ha
  have hgb := configured_of_settings (hm.settings k) hb
  have hra : a.replicaGroup = g := hga.replicaGroup
  have hrb : b.replicaGroup = k := hgb.replicaGroup
  obtain ⟨hgk, haddress⟩ := eq_of_heartbeatKey (printable_of_settings (hm.settings g) ha)
    (printable_of_settings (hm.settings k) hb) (hra ▸ hga.isInt) (hrb ▸ hgb.isInt) h
  exact ⟨hra.symm.trans (hgk.trans hrb), (Prod.mk.inj haddress).2⟩

/-- An entry of one list of a group is in every other, but for its flags. -/
lemma exists_of_settings {config : Configuration} {g : Int} {list list' : List ServerInfo}
    (h : list.map resetFlags = config.servers g) (h' : list'.map resetFlags = config.servers g)
    {a : ServerInfo} (ha : a ∈ list) : ∃ b ∈ list', resetFlags b = resetFlags a := by
  have hmem : resetFlags a ∈ list'.map resetFlags := by
    rw [h', ← h]
    exact List.mem_map_of_mem ha
  exact List.mem_map.mp hmem

/-- The invariant after the list of a group, its primary and the time of one of its servers
have changed. -/
lemma Consistent.update {config : Configuration} {m : Master} (hm : Consistent config m) {g : Int}
    {info : ServerInfo} (hinfo : info ∈ m.servers g) {list : List ServerInfo} {ps : Primaries}
    {time : Option Nat} (hsettings : list.map resetFlags = config.servers g)
    (hgroup : GroupConsistent list (ps g)) (hps : ∀ k, k ≠ g → ps k = m.primaryServers k)
    (hself : ∀ x ∈ list, x.tcpPort = info.tcpPort → (time.isSome = true ↔ x.isDead = false))
    (hother : ∀ x ∈ list, x.tcpPort ≠ info.tcpPort →
      ∃ y ∈ m.servers g, resetFlags y = resetFlags x ∧ y.isDead = x.isDead) :
    Consistent config
      { servers := assign m.servers g list
        primaryServers := ps
        last_heartbeat := assign m.last_heartbeat (heartbeatKey info) time } := by
  have hsettings' : ∀ k, (assign m.servers g list k).map resetFlags = config.servers k := by
    intro k
    by_cases hk : k = g
    · subst hk
      rw [assign_self]
      exact hsettings
    · rw [assign_of_ne hk]
      exact hm.settings k
  constructor
  · exact hsettings'
  · intro k
    dsimp only
    by_cases hk : k = g
    · subst hk
      rw [assign_self]
      exact hgroup
    · rw [assign_of_ne hk, hps k hk]
      exact hm.group k
  · intro k x hx
    dsimp only at hx ⊢
    by_cases hk : k = g
    · subst hk
      rw [assign_self] at hx
      by_cases hp : x.tcpPort = info.tcpPort
      · obtain ⟨y, hy, heq⟩ := exists_of_settings hsettings (hm.settings k) hx
        have hyp : (resetFlags y).tcpPort = (resetFlags x).tcpPort := congrArg _ heq
        have hyi : y = info :=
          (distinctPorts_of_settings (hm.settings k)).eq_of_tcpPort hy hinfo (hyp.trans hp)
        have hkey : heartbeatKey x = heartbeatKey info := by
          rw [← hyi]
          exact (congrArg heartbeatKey heq).symm
        rw [hkey, assign_self]
        exact hself x hx hp
      · obtain ⟨y, hy, heq, hdead⟩ := hother x hx hp
        have hyp : (resetFlags y).tcpPort = (resetFlags x).tcpPort := congrArg _ heq
        have hkey : heartbeatKey (resetFlags y) = heartbeatKey (resetFlags x) := congrArg _ heq
        have hkey : heartbeatKey y = heartbeatKey x := hkey
        have hne : heartbeatKey y ≠ heartbeatKey info :=
          fun he => hp (hyp.symm.trans (heartbeatKey_injective hm hy hinfo he).2)
        rw [← hkey, assign_of_ne hne, ← hdead]
        exact hm.key_iff k y hy
    · rw [assign_of_ne hk] at hx
      have hne : heartbeatKey x ≠ heartbeatKey info :=
        fun he => hk (heartbeatKey_injective hm hx hinfo he).1
      rw [assign_of_ne hne]
      exact hm.key_iff k x hx
  · intro key hkey
    dsimp only at hkey ⊢
    have hold : ∃ k, ∃ a ∈ m.servers k, key = heartbeatKey a := by
      by_cases hk : key = heartbeatKey info
      · exact ⟨g, info, hinfo, hk⟩
      · rw [assign_of_ne hk] at hkey
        exact hm.key_known key hkey
    obtain ⟨k, a, ha, rfl⟩ := hold
    obtain ⟨b, hb, heq⟩ := exists_of_settings (hm.settings k) (hsettings' k) ha
    exact ⟨k, b, hb, (congrArg heartbeatKey heq).symm⟩

/-! ### The master as a registry -/

def upOf (list : List ServerInfo) : Set Address :=
  {a | ∃ it ∈ list, it.address = a ∧ it.isDead = false}

/-- The group as the master sees it. -/
def registryOf (g : Int) (m : Master) : Registry Address where
  up := upOf (m.servers g)
  leader := (m.primaryServers g).map ServerInfo.address

def noticeOf (status : Status) : Notice Address where
  leads := status.isPrimary
  named := status.named
  lost := status.dead

def members (config : Configuration) (g : Int) : Set Address :=
  {a | ∃ info ∈ config.servers g, info.address = a}

/-- The message carries the notice to a server of the group, and names one. -/
structure Carries (config : Configuration) (g : Int) (d : Datagram)
    (n : Address × Notice Address) : Prop where
  recv : ∃ recv ∈ config.servers g, recv.address = n.1 ∧ d.ip = recv.ip ∧ d.udpPort = recv.udpPort2
  read : (readStatus d.text).map noticeOf = some n.2
  named : ∀ a, n.2.named = some a → a ∈ members config g

lemma mem_upOf {list : List ServerInfo} (h : DistinctPorts list) {a : ServerInfo} (ha : a ∈ list) :
    a.address ∈ upOf list ↔ a.isDead = false := by
  constructor
  · rintro ⟨b, hb, heq, hd⟩
    rwa [h.eq_of_tcpPort ha hb (Prod.mk.inj heq).2.symm]
  · intro hd
    exact ⟨a, ha, rfl, hd⟩

section Entries

variable {list : List ServerInfo} {a info : ServerInfo}

lemma upOf_setEntry_alive (h : DistinctPorts list) (hinfo : info ∈ list)
    (ha : a.address = info.address) (hd : a.isDead = false) :
    upOf (setEntry a list) = insert info.address (upOf list) := by
  have hp : info.tcpPort = a.tcpPort := (Prod.mk.inj ha).2.symm
  ext x
  rw [Set.mem_insert_iff]
  constructor
  · rintro ⟨b, hb, rfl, hbd⟩
    rcases (mem_setEntry h hinfo hp).mp hb with rfl | ⟨hb, -⟩
    · exact Or.inl ha
    · exact Or.inr ⟨b, hb, rfl, hbd⟩
  · rintro (rfl | ⟨b, hb, rfl, hbd⟩)
    · exact ⟨a, (mem_setEntry h hinfo hp).mpr (Or.inl rfl), ha, hd⟩
    · by_cases hbi : b = info
      · subst hbi
        exact ⟨a, (mem_setEntry h hinfo hp).mpr (Or.inl rfl), ha, hd⟩
      · exact ⟨b, (mem_setEntry h hinfo hp).mpr (Or.inr ⟨hb, hbi⟩), rfl, hbd⟩

lemma upOf_setEntry_dead (h : DistinctPorts list) (hinfo : info ∈ list)
    (ha : a.address = info.address) (hd : a.isDead = true) :
    upOf (setEntry a list) = upOf list \ {info.address} := by
  have hp : info.tcpPort = a.tcpPort := (Prod.mk.inj ha).2.symm
  ext x
  rw [Set.mem_sdiff, Set.mem_singleton_iff]
  constructor
  · rintro ⟨b, hb, rfl, hbd⟩
    rcases (mem_setEntry h hinfo hp).mp hb with rfl | ⟨hb, hbi⟩
    · rw [hd] at hbd
      exact absurd hbd (by decide)
    · refine ⟨⟨b, hb, rfl, hbd⟩, ?_⟩
      intro heq
      exact hbi (h.eq_of_tcpPort hb hinfo (Prod.mk.inj heq).2)
  · rintro ⟨⟨b, hb, rfl, hbd⟩, hne⟩
    have hbi : b ≠ info := fun he => hne (he ▸ rfl)
    exact ⟨b, (mem_setEntry h hinfo hp).mpr (Or.inr ⟨hb, hbi⟩), rfl, hbd⟩

end Entries

section Messages

variable {config : Configuration} {g : Int} {list : List ServerInfo}

lemma mem_members (h : list.map resetFlags = config.servers g) {it : ServerInfo}
    (hit : it ∈ list) : it.address ∈ members config g :=
  ⟨resetFlags it, h ▸ List.mem_map_of_mem hit, rfl⟩

lemma carries_of_text (h : list.map resetFlags = config.servers g) {it : ServerInfo}
    (hit : it ∈ list) {d : Datagram} (hip : d.ip = it.ip) (hport : d.udpPort = it.udpPort2)
    {n : Notice Address} {status : Status} (hread : readStatus d.text = some status)
    (hn : noticeOf status = n) (hnamed : ∀ a, n.named = some a → a ∈ members config g) :
    Carries config g d (it.address, n) := by
  refine ⟨⟨resetFlags it, h ▸ List.mem_map_of_mem hit, rfl, hip, hport⟩, ?_, hnamed⟩
  rw [hread, ← hn]
  rfl

lemma named_none (a : Address) (h : none = some a) : a ∈ members config g :=
  absurd h (by simp)

lemma named_some (h : list.map resetFlags = config.servers g) {it : ServerInfo} (hit : it ∈ list)
    (a : Address) (ha : some it.address = some a) : a ∈ members config g :=
  Option.some.inj ha ▸ mem_members h hit

lemma reported_dead {dead : ServerInfo} (h : dead.isDead = true) :
    reported dead = some dead.address := if_pos h

lemma reported_alive {dead : ServerInfo} (h : dead.isDead = false) : reported dead = none := by
  unfold reported
  rw [h]
  rfl

end Messages

/-! ### One heartbeat and one timeout -/

/-- What a step of the master does for a group. -/
structure Acts (config : Configuration) (g : Int) (m m' : Master) (out : List Datagram) :
    Prop where
  consistent : Consistent config m'
  frame : ∀ k, k ≠ g → m'.servers k = m.servers k
  step : ∃ notices, (registryOf g m).Step notices (registryOf g m') ∧
    List.Forall₂ (Carries config g) out notices

section Steps

variable {config : Configuration} {m : Master} (hm : Consistent config m) {g : Int}
  {info : ServerInfo} (hinfo : info ∈ m.servers g)

/-- The master after the list of a group, the primaries and the time of one of its servers
have changed. -/
def changed (m : Master) (g : Int) (info : ServerInfo) (list : List ServerInfo) (ps : Primaries)
    (time : Option Nat) : Master where
  servers := assign m.servers g list
  primaryServers := ps
  last_heartbeat := assign m.last_heartbeat (heartbeatKey info) time

lemma changed_servers (list : List ServerInfo) (ps : Primaries) (time : Option Nat) :
    (changed m g info list ps time).servers g = list :=
  assign_self ..

lemma changed_frame (list : List ServerInfo) (ps : Primaries) (time : Option Nat) {k : Int}
    (hk : k ≠ g) : (changed m g info list ps time).servers k = m.servers k :=
  assign_of_ne hk ..

lemma registryOf_changed (list : List ServerInfo) (ps : Primaries) (time : Option Nat) :
    registryOf g (changed m g info list ps time) = ⟨upOf list, (ps g).map ServerInfo.address⟩ := by
  unfold registryOf
  rw [changed_servers]
  rfl

include hm hinfo in
/-- Replacing one entry changes nothing in the others. -/
lemma Consistent.changed_setEntry {a : ServerInfo} (ha : resetFlags a = resetFlags info)
    {ps : Primaries} {time : Option Nat}
    (hgroup : GroupConsistent (setEntry a (m.servers g)) (ps g))
    (hps : ∀ k, k ≠ g → ps k = m.primaryServers k)
    (htime : time.isSome = true ↔ a.isDead = false) :
    Consistent config (changed m g info (setEntry a (m.servers g)) ps time) := by
  have hd := distinctPorts_of_settings (hm.settings g)
  have hport : (resetFlags a).tcpPort = (resetFlags info).tcpPort := congrArg _ ha
  have hmem := fun x => @mem_setEntry a x _ hd info hinfo hport.symm
  apply hm.update hinfo
  · rw [map_resetFlags_setEntry hd hinfo ha]
    exact hm.settings g
  · exact hgroup
  · exact hps
  · intro x hx hp
    rcases (hmem x).mp hx with rfl | ⟨hx, hne⟩
    · exact htime
    · exact absurd (hd.eq_of_tcpPort hx hinfo hp) hne
  · intro x hx hp
    rcases (hmem x).mp hx with rfl | ⟨hx, -⟩
    · exact absurd hport hp
    · exact ⟨x, hx, rfl, rfl⟩

include hm hinfo in
/-- A heartbeat of a server that is alive. -/
lemma acts_beat (hd : info.isDead = false) (now : Nat) :
    Acts config g m (changed m g info (m.servers g) m.primaryServers (some now)) [] := by
  refine ⟨?_, fun k hk => changed_frame _ _ _ hk, [], ?_, List.Forall₂.nil⟩
  · apply hm.update hinfo (hm.settings g) (hm.group g) (fun _ _ => rfl)
    · intro x hx hp
      rw [(distinctPorts_of_settings (hm.settings g)).eq_of_tcpPort hx hinfo hp, hd]
      simp
    · intro x hx _
      exact ⟨x, hx, rfl, rfl⟩
  · rw [registryOf_changed]
    exact Registry.Step.idle

include hm hinfo in
/-- The first heartbeat of a group without a primary. -/
lemma acts_first (hd : info.isDead = true) (hnone : m.primaryServers g = none) (now : Nat) :
    let a := { info with isDead := false, isPrimary := true }
    Acts config g m
      (changed m g info (setEntry a (m.servers g)) (assign m.primaryServers g (some a))
        (some now)) [sendIsPrimary true a a noDeath] := by
  intro a
  have ha : resetFlags a = resetFlags info := rfl
  have haddr : a.address = info.address := rfl
  have hports := distinctPorts_of_settings (hm.settings g)
  have hmem := fun x => @mem_setEntry a x _ hports info hinfo rfl
  have hdead := (hm.group g).dead_of_none hnone
  have hflag : ∀ x ∈ m.servers g, x.isPrimary = true → False := by
    intro x hx hp
    have hq := ((hm.group g).primary_iff x).mpr ⟨hx, hp⟩
    rw [hnone] at hq
    exact absurd hq (by simp)
  have hsettings : (setEntry a (m.servers g)).map resetFlags = config.servers g := by
    rw [map_resetFlags_setEntry hports hinfo ha]
    exact hm.settings g
  have hin : a ∈ setEntry a (m.servers g) := (hmem a).mpr (Or.inl rfl)
  refine ⟨?_, fun k hk => changed_frame _ _ _ hk,
    [(a.address, ⟨true, none, none⟩)], ?_, List.Forall₂.cons ?_ List.Forall₂.nil⟩
  · apply hm.changed_setEntry hinfo ha
    · rw [assign_self]
      constructor
      · intro q
        constructor
        · intro hq
          rw [← Option.some.inj hq]
          exact ⟨hin, rfl⟩
        · rintro ⟨hq, hp⟩
          rcases (hmem q).mp hq with rfl | ⟨hq, -⟩
          · rfl
          · exact (hflag q hq hp).elim
      · intro x hx hp
        rcases (hmem x).mp hx with rfl | ⟨hx, -⟩
        · rfl
        · exact (hflag x hx hp).elim
      · intro hnone
        exact absurd hnone (by simp)
    · intro k hk
      exact assign_of_ne hk ..
    · simp [a]
  · have hstep := @Registry.Step.first Address (registryOf g m) info.address
      (by simp [registryOf, hnone])
      (by simp [registryOf, mem_upOf hports hinfo, hd])
    rw [registryOf_changed, upOf_setEntry_alive hports hinfo haddr rfl, assign_self]
    exact hstep
  · apply carries_of_text hsettings hin rfl rfl (readStatus_primary (by simp [noDeath]) a a)
    · rw [reported_alive rfl]
      rfl
    · exact named_none

include hinfo in
/-- A server that is not the primary may die or come back. -/
lemma GroupConsistent.setEntry {p a : ServerInfo} (hg : GroupConsistent (m.servers g) (some p))
    (hports : DistinctPorts (m.servers g)) (hflag : info.isPrimary = false)
    (ha : resetFlags a = resetFlags info) (haflag : a.isPrimary = false) :
    GroupConsistent (setEntry a (m.servers g)) (some p) := by
  have hport : (resetFlags a).tcpPort = (resetFlags info).tcpPort := congrArg _ ha
  have hmem := fun x => @mem_setEntry a x _ hports info hinfo hport.symm
  constructor
  · intro q
    rw [hg.primary_iff q, hmem q]
    constructor
    · rintro ⟨hq, hp⟩
      refine ⟨Or.inr ⟨hq, ?_⟩, hp⟩
      rintro rfl
      rw [hflag] at hp
      exact absurd hp (by decide)
    · rintro ⟨rfl | hq, hp⟩
      · rw [haflag] at hp
        exact absurd hp (by decide)
      · exact ⟨hq.1, hp⟩
  · intro x hx hp
    rcases (hmem x).mp hx with rfl | ⟨hx, -⟩
    · rw [haflag] at hp
      exact absurd hp (by decide)
    · exact hg.alive_of_primary x hx hp
  · intro hnone
    exact absurd hnone (by simp)

include hm in
/-- The primary of a group is one of its servers and alive. -/
lemma primary_mem {p : ServerInfo} (hp : m.primaryServers g = some p) :
    p ∈ m.servers g ∧ p.isPrimary = true ∧ p.isDead = false := by
  have hmem := ((hm.group g).primary_iff p).mp hp
  exact ⟨hmem.1, hmem.2, (hm.group g).alive_of_primary p hmem.1 hmem.2⟩

include hm hinfo in
/-- A heartbeat of a server that was dead, in a group with a primary. -/
lemma acts_join (hd : info.isDead = true) {p : ServerInfo} (hp : m.primaryServers g = some p)
    (now : Nat) :
    let a := { info with isDead := false }
    Acts config g m (changed m g info (setEntry a (m.servers g)) m.primaryServers (some now))
      [sendIsPrimary false a p noDeath, sendNewSecondaryInfoToPrimary p a] := by
  intro a
  have ha : resetFlags a = resetFlags info := rfl
  have haddr : a.address = info.address := rfl
  have hports := distinctPorts_of_settings (hm.settings g)
  have hmem := fun x => @mem_setEntry a x _ hports info hinfo rfl
  have hmemp := primary_mem hm hp
  have hflag : info.isPrimary = false := by
    by_contra hf
    have halive := (hm.group g).alive_of_primary info hinfo (by simpa using hf)
    rw [hd] at halive
    exact absurd halive (by decide)
  have hsettings : (setEntry a (m.servers g)).map resetFlags = config.servers g := by
    rw [map_resetFlags_setEntry hports hinfo ha]
    exact hm.settings g
  have hin : a ∈ setEntry a (m.servers g) := (hmem a).mpr (Or.inl rfl)
  have hprint := printable_of_settings (hm.settings g) hmemp.1
  refine ⟨?_, fun k hk => changed_frame _ _ _ hk,
    [(a.address, ⟨false, some p.address, none⟩), (p.address, ⟨true, some a.address, none⟩)],
    ?_, List.Forall₂.cons ?_ (List.Forall₂.cons ?_ List.Forall₂.nil)⟩
  · apply hm.changed_setEntry hinfo ha
    · rw [hp]
      have hg := hm.group g
      rw [hp] at hg
      exact hg.setEntry hinfo hports hflag ha hflag
    · exact fun _ _ => rfl
    · simp [a]
  · have hstep := @Registry.Step.join Address (registryOf g m) info.address p.address
      (by simp [registryOf, hp])
      (by simp [registryOf, mem_upOf hports hinfo, hd])
    rw [registryOf_changed, upOf_setEntry_alive hports hinfo haddr rfl, hp]
    exact hstep
  · apply carries_of_text hsettings hin rfl rfl
      (readStatus_secondary hprint (by simp [noDeath]) a)
    · rw [reported_alive rfl]
      rfl
    · exact named_some (hm.settings g) hmemp.1
  · exact carries_of_text (hm.settings g) hmemp.1 rfl rfl
      (readStatus_new (printable_of_settings hsettings hin) p) rfl (named_some hsettings hin)

include hm hinfo in
/-- A secondary timed out. -/
lemma acts_lose (hd : info.isDead = false) (hflag : info.isPrimary = false) {p : ServerInfo}
    (hp : m.primaryServers g = some p) :
    Acts config g m
      (changed m g info (setEntry (deadEntry info) (m.servers g)) m.primaryServers none)
      (((setEntry (deadEntry info) (m.servers g)).filter (fun it => it.isDead = false)).map
        (fun it => sendIsPrimary it.isPrimary it p (lostEntry info))) := by
  have ha : resetFlags (deadEntry info) = resetFlags info := rfl
  have haddr : (deadEntry info).address = info.address := rfl
  have hports := distinctPorts_of_settings (hm.settings g)
  have hmem := fun x => @mem_setEntry (deadEntry info) x _ hports info hinfo rfl
  have hmemp := primary_mem hm hp
  have hpinfo : p ≠ info := by
    rintro rfl
    have hpflag := hmemp.2.1
    rw [hflag] at hpflag
    exact absurd hpflag (by decide)
  have hgroup : GroupConsistent (setEntry (deadEntry info) (m.servers g)) (some p) := by
    have hg := hm.group g
    rw [hp] at hg
    exact hg.setEntry hinfo hports hflag ha rfl
  have hcons : Consistent config
      (changed m g info (setEntry (deadEntry info) (m.servers g)) m.primaryServers none) := by
    apply hm.changed_setEntry hinfo ha
    · rw [hp]
      exact hgroup
    · exact fun _ _ => rfl
    · simp [deadEntry]
  have hsettings : (setEntry (deadEntry info) (m.servers g)).map resetFlags = config.servers g := by
    rw [map_resetFlags_setEntry hports hinfo ha]
    exact hm.settings g
  have hports' := distinctPorts_of_settings hsettings
  have hprint := printable_of_settings (hm.settings g) hmemp.1
  have hprintInfo : Printable (lostEntry info) := by
    have hi := printable_of_settings (hm.settings g) hinfo
    exact ⟨hi.ip, hi.tcpPort⟩
  have hmemp' : p ∈ setEntry (deadEntry info) (m.servers g) :=
    (hmem p).mpr (Or.inr ⟨hmemp.1, hpinfo⟩)
  -- the notice to each server that is told
  let notice : ServerInfo → Address × Notice Address := fun it =>
    (it.address, if it.isPrimary then ⟨true, none, some info.address⟩
      else ⟨false, some p.address, some info.address⟩)
  have hnoticep : notice p = (p.address, ⟨true, none, some info.address⟩) := by
    simp only [notice, hmemp.2.1, if_true]
  refine ⟨hcons, fun k hk => changed_frame _ _ _ hk,
    ((setEntry (deadEntry info) (m.servers g)).filter (fun it => it.isDead = false)).map notice,
    ?_, ?_⟩
  · rw [registryOf_changed, upOf_setEntry_dead hports hinfo haddr rfl, hp]
    apply Registry.Step.lose
    · simp [registryOf, hp]
    · exact (mem_upOf hports hinfo).mpr hd
    · intro heq
      exact hpinfo (hports.eq_of_tcpPort hmemp.1 hinfo (Prod.mk.inj heq).2.symm)
    · rw [← hnoticep]
      apply List.mem_map_of_mem
      exact List.mem_filter.mpr ⟨hmemp', by simpa using hmemp.2.2⟩
    · intro n hn
      obtain ⟨it, hit, rfl⟩ := List.mem_map.mp hn
      have hit := (List.mem_filter.mp hit).1
      by_cases hf : it.isPrimary = true
      · have hpit := (hgroup.primary_iff it).mpr ⟨hit, hf⟩
        rw [← Option.some.inj hpit]
        exact Or.inl hnoticep
      · right
        have hitp : it ≠ p := fun he => hf (he ▸ hmemp.2.1)
        constructor
        · intro heq
          exact hitp (hports'.eq_of_tcpPort hit hmemp' (Prod.mk.inj heq).2)
        · simp only [notice, if_neg hf]
  · rw [List.forall₂_map_left_iff, List.forall₂_map_right_iff, List.forall₂_same]
    intro it hit
    have hit := (List.mem_filter.mp hit).1
    have hrep := @reported_dead (lostEntry info) rfl
    by_cases hf : it.isPrimary = true
    · have hread := readStatus_primary (fun _ => hprintInfo) it p
      rw [hrep] at hread
      simp only [notice, hf, if_true]
      exact carries_of_text hsettings hit rfl rfl hread rfl named_none
    · have hread := readStatus_secondary hprint (fun _ => hprintInfo) it
      rw [hrep] at hread
      simp only [notice, hf]
      exact carries_of_text hsettings hit rfl rfl hread rfl (named_some (hm.settings g) hmemp.1)

include hm hinfo in
/-- When the primary is struck from the list, no server on it is flagged. -/
lemma unflagged_of_primary (hflag : info.isPrimary = true) :
    m.primaryServers g = some info ∧
      ∀ x ∈ setEntry (deadEntry info) (m.servers g), x.isPrimary = false := by
  have hports := distinctPorts_of_settings (hm.settings g)
  have hmem := fun x => @mem_setEntry (deadEntry info) x _ hports info hinfo rfl
  have hprim := ((hm.group g).primary_iff info).mpr ⟨hinfo, hflag⟩
  constructor
  · exact hprim
  · intro x hx
    rcases (hmem x).mp hx with rfl | ⟨hx, hne⟩
    · rfl
    · by_contra hf
      have hq := ((hm.group g).primary_iff x).mpr ⟨hx, by simpa using hf⟩
      exact hne (Option.some.inj (hq.symm.trans hprim))

include hm hinfo in
/-- The primary timed out and no other server is alive. -/
lemma acts_last (hd : info.isDead = false) (hflag : info.isPrimary = true)
    (hall : ∀ x ∈ setEntry (deadEntry info) (m.servers g), x.isDead = true) :
    Acts config g m
      (changed m g info (setEntry (deadEntry info) (m.servers g))
        (assign m.primaryServers g none) none) [] := by
  have ha : resetFlags (deadEntry info) = resetFlags info := rfl
  have haddr : (deadEntry info).address = info.address := rfl
  have hports := distinctPorts_of_settings (hm.settings g)
  have hun := unflagged_of_primary hm hinfo hflag
  have hempty : upOf (setEntry (deadEntry info) (m.servers g)) = ∅ := by
    rw [Set.eq_empty_iff_forall_notMem]
    rintro _ ⟨x, hx, rfl, hxd⟩
    rw [hall x hx] at hxd
    exact absurd hxd (by decide)
  refine ⟨?_, fun k hk => changed_frame _ _ _ hk, [], ?_, List.Forall₂.nil⟩
  · apply hm.changed_setEntry hinfo ha
    · rw [assign_self]
      constructor
      · intro q
        constructor
        · intro hq
          exact absurd hq (by simp)
        · rintro ⟨hq, hp⟩
          rw [hun.2 q hq] at hp
          exact absurd hp (by decide)
      · intro x hx hp
        rw [hun.2 x hx] at hp
        exact absurd hp (by decide)
      · intro _ x hx
        exact hall x hx
    · intro k hk
      exact assign_of_ne hk ..
    · simp [deadEntry]
  · have hup : (registryOf g m).up = {info.address} := by
      have hdiff := upOf_setEntry_dead hports hinfo haddr rfl
      rw [hempty] at hdiff
      have hin : info.address ∈ upOf (m.servers g) := (mem_upOf hports hinfo).mpr hd
      apply Set.eq_singleton_iff_unique_mem.mpr
      refine ⟨hin, ?_⟩
      intro x hx
      by_contra hne
      have hxd : x ∈ upOf (m.servers g) \ {info.address} := ⟨hx, hne⟩
      rw [← hdiff] at hxd
      exact absurd hxd (Set.notMem_empty x)
    rw [registryOf_changed, hempty, assign_self]
    apply Registry.Step.last
    · simp [registryOf, hun.1]
      rfl
    · exact hup

include hm hinfo in
/-- The primary timed out, and the first server alive behind `pre` is elected. -/
lemma acts_elect (hflag : info.isPrimary = true) {pre post : List ServerInfo} {f : ServerInfo}
    (hlist : setEntry (deadEntry info) (m.servers g) = pre ++ f :: post)
    (hf : f.isDead = false) :
    Acts config g m
      (changed m g info (pre ++ electedEntry f :: post)
        (assign m.primaryServers g (some (electedEntry f))) none)
      (sendIsPrimary true (electedEntry f) (electedEntry f) (lostEntry info) ::
        post.map (fun it => sendIsPrimary false it (electedEntry f) (lostEntry info))) := by
  have ha : resetFlags (deadEntry info) = resetFlags info := rfl
  have haddr : (deadEntry info).address = info.address := rfl
  have hports := distinctPorts_of_settings (hm.settings g)
  have hmem := fun x => @mem_setEntry (deadEntry info) x _ hports info hinfo rfl
  have hun := unflagged_of_primary hm hinfo hflag
  have hsettings1 :
      (setEntry (deadEntry info) (m.servers g)).map resetFlags = config.servers g := by
    rw [map_resetFlags_setEntry hports hinfo ha]
    exact hm.settings g
  have hports1 := distinctPorts_of_settings hsettings1
  have hdead1 : deadEntry info ∈ setEntry (deadEntry info) (m.servers g) :=
    (hmem _).mpr (Or.inl rfl)
  rw [hlist] at hsettings1 hports1 hdead1 hmem hun
  have hfin : f ∈ pre ++ f :: post := List.mem_append_right pre List.mem_cons_self
  have hfdead : f ≠ deadEntry info := by
    rintro rfl
    exact absurd hf (by simp [deadEntry])
  have hfold : f ∈ m.servers g ∧ f ≠ info := by
    rcases (hmem f).mp hfin with he | h
    · exact absurd he hfdead
    · exact h
  have hsettings : (pre ++ electedEntry f :: post).map resetFlags = config.servers g := by
    rw [← hsettings1, List.map_append, List.map_append]
    rfl
  have hports2 := distinctPorts_of_settings hsettings
  -- what stands on the new list besides the elected server stood on the list before
  have hcases : ∀ x ∈ pre ++ electedEntry f :: post, x = electedEntry f ∨
      x ∈ pre ++ f :: post := by
    intro x hx
    rcases List.mem_append.mp hx with hx | hx
    · exact Or.inr (List.mem_append_left _ hx)
    · rcases List.mem_cons.mp hx with hx | hx
      · exact Or.inl hx
      · exact Or.inr (List.mem_append_right _ (List.mem_cons_of_mem f hx))
  have hin : electedEntry f ∈ pre ++ electedEntry f :: post :=
    List.mem_append_right pre List.mem_cons_self
  have hback : ∀ x ∈ pre ++ f :: post, x ≠ f → x ∈ pre ++ electedEntry f :: post := by
    intro x hx hne
    rcases List.mem_append.mp hx with hx | hx
    · exact List.mem_append_left _ hx
    · rcases List.mem_cons.mp hx with hx | hx
      · exact absurd hx hne
      · exact List.mem_append_right _ (List.mem_cons_of_mem _ hx)
  have hup : upOf (pre ++ electedEntry f :: post) = upOf (m.servers g) \ {info.address} := by
    rw [← upOf_setEntry_dead hports hinfo haddr rfl, hlist]
    ext a
    constructor
    · rintro ⟨x, hx, rfl, hxd⟩
      rcases hcases x hx with rfl | hx
      · exact ⟨f, hfin, rfl, hf⟩
      · exact ⟨x, hx, rfl, hxd⟩
    · rintro ⟨x, hx, rfl, hxd⟩
      by_cases hxf : x = f
      · subst hxf
        exact ⟨electedEntry x, hin, rfl, hxd⟩
      · exact ⟨x, hback x hx hxf, rfl, hxd⟩
  have hprint := printable_of_settings hsettings hin
  have hprintInfo : Printable (lostEntry info) := by
    have hi := printable_of_settings (hm.settings g) hinfo
    exact ⟨hi.ip, hi.tcpPort⟩
  have hrep := @reported_dead (lostEntry info) rfl
  refine ⟨?_, fun k hk => changed_frame _ _ _ hk,
    (f.address, ⟨true, none, some info.address⟩) :: (post.map ServerInfo.address).map
      (fun x => (x, ⟨false, some f.address, some info.address⟩)),
    ?_, List.Forall₂.cons ?_ ?_⟩
  · apply hm.update hinfo hsettings
    · rw [assign_self]
      constructor
      · intro q
        constructor
        · intro hq
          rw [← Option.some.inj hq]
          exact ⟨hin, rfl⟩
        · rintro ⟨hq, hp⟩
          rcases hcases q hq with rfl | hq
          · rfl
          · rw [hun.2 q hq] at hp
            exact absurd hp (by decide)
      · intro x hx hp
        rcases hcases x hx with rfl | hx
        · exact hf
        · rw [hun.2 x hx] at hp
          exact absurd hp (by decide)
      · intro hnone
        exact absurd hnone (by simp)
    · intro k hk
      exact assign_of_ne hk ..
    · intro x hx hp
      have hxdead : x = deadEntry info := by
        rcases hcases x hx with rfl | hx
        · exact absurd (hports1.eq_of_tcpPort hfin hdead1 hp) hfdead
        · exact hports1.eq_of_tcpPort hx hdead1 hp
      rw [hxdead]
      simp [deadEntry]
    · intro x hx hp
      rcases hcases x hx with rfl | hx
      · exact ⟨f, hfold.1, rfl, rfl⟩
      · rcases (hmem x).mp hx with rfl | ⟨hx, -⟩
        · exact absurd rfl hp
        · exact ⟨x, hx, rfl, rfl⟩
  · rw [registryOf_changed, hup, assign_self]
    apply Registry.Step.elect
    · simp only [registryOf, hun.1]
      rfl
    · exact ⟨f, hfold.1, rfl, hf⟩
    · intro heq
      exact hfold.2 (hports.eq_of_tcpPort hfold.1 hinfo (Prod.mk.inj heq).2)
    · intro hmemf
      obtain ⟨x, hx, heq⟩ := List.mem_map.mp hmemf
      have hnodup := hports1
      unfold DistinctPorts at hnodup
      rw [List.map_append, List.map_cons, List.nodup_append] at hnodup
      have hnot := (List.nodup_cons.mp hnodup.2.1).1
      apply hnot
      rw [← (Prod.mk.inj heq).2]
      exact List.mem_map_of_mem hx
  · have hread := readStatus_primary (fun _ => hprintInfo) (electedEntry f) (electedEntry f)
    rw [hrep] at hread
    exact carries_of_text hsettings hin rfl rfl hread rfl named_none
  · rw [List.map_map, List.forall₂_map_left_iff, List.forall₂_map_right_iff, List.forall₂_same]
    intro it hit
    have hread := readStatus_secondary hprint (fun _ => hprintInfo) it
    rw [hrep] at hread
    exact carries_of_text hsettings (List.mem_append_right pre (List.mem_cons_of_mem _ hit))
      rfl rfl hread rfl (named_some (hm.settings g) hfold.1)

include hm hinfo in
/-- A heartbeat of a configured server is handled. -/
theorem recvHeartbeat_acts (now : Nat) :
    ∃ m' out, recvHeartbeat now (heartbeatMessage g info.tcpPort) m = some (m', out) ∧
      Acts config g m m' out ∧
      ((registryOf g m').leader = (registryOf g m).leader ∨
        m.primaryServers g = none ∧ (registryOf g m').leader = some info.address) := by
  have hports := distinctPorts_of_settings (hm.settings g)
  have hconf := configured_of_settings (hm.settings g) hinfo
  have hg : info.replicaGroup = g := hconf.replicaGroup
  have hread := readHeartbeat_heartbeatMessage hconf.isInt hconf.tcpPort
  have hread' : readHeartbeat (heartbeatMessage g info.tcpPort) = some (g, info.tcpPort) := hread
  have hstep : ∀ list ps out, heartbeatLoop g info.tcpPort defaultInfo m.primaryServers
      (m.servers g) = (list, info, ps, out) →
      recvHeartbeat now (heartbeatMessage g info.tcpPort) m =
        some (changed m g info list ps (some now), out) := by
    intro list ps out hloop
    unfold recvHeartbeat
    rw [hread']
    dsimp only [Option.bind_eq_bind, Option.bind_some]
    rw [hloop]
    rfl
  have hloop := @heartbeatLoop_of_mem g _ hports info hinfo defaultInfo m.primaryServers
  by_cases hd : info.isDead = false
  · rw [if_pos hd] at hloop
    refine ⟨_, _, hstep _ _ _ hloop, acts_beat hm hinfo hd now, Or.inl ?_⟩
    rw [registryOf_changed]
    rfl
  · have hd' : info.isDead = true := by simpa using hd
    rw [if_neg hd] at hloop
    cases hp : m.primaryServers g with
    | none =>
      rw [revive_first hg hp] at hloop
      refine ⟨_, _, hstep _ _ _ hloop, acts_first hm hinfo hd' hp now, Or.inr ⟨rfl, ?_⟩⟩
      rw [registryOf_changed, assign_self]
      rfl
    | some p =>
      have hflag : info.isPrimary = false := by
        by_contra hf
        exact hd ((hm.group g).alive_of_primary info hinfo (by simpa using hf))
      rw [revive_joins hg hp hflag] at hloop
      refine ⟨_, _, hstep _ _ _ hloop, acts_join hm hinfo hd' hp now, Or.inl ?_⟩
      rw [registryOf_changed]
      rfl

/-- The first server alive on the list of a group besides the given one. -/
def successor (info : ServerInfo) (list : List ServerInfo) : Option ServerInfo :=
  list.find? (fun it => it.isDead = false ∧ it.tcpPort ≠ info.tcpPort)

lemma find_setEntry_dead (info : ServerInfo) (list : List ServerInfo) :
    (setEntry (deadEntry info) list).find? (fun it => it.isDead = false) =
      successor info list := by
  unfold successor
  induction list with
  | nil => rfl
  | cons it list ih =>
    by_cases hp : it.tcpPort = info.tcpPort
    · have hset : setEntry (deadEntry info) (it :: list) =
          deadEntry info :: setEntry (deadEntry info) list :=
        @setEntry_cons_self (deadEntry info) it hp list
      rw [hset, List.find?_cons_of_neg (by simp [deadEntry]), ih,
        List.find?_cons_of_neg (by simp [hp])]
    · have hset : setEntry (deadEntry info) (it :: list) =
          it :: setEntry (deadEntry info) list := @setEntry_cons_ne (deadEntry info) it hp list
      rw [hset]
      by_cases hd : it.isDead = false
      · rw [List.find?_cons_of_pos (by simpa using hd),
          List.find?_cons_of_pos (by simp [hd, hp])]
      · rw [List.find?_cons_of_neg (by simpa using hd), ih,
          List.find?_cons_of_neg (by simp [hd])]

include hm hinfo in
/-- The death of a server that was alive is handled. -/
theorem serverDied_acts (hd : info.isDead = false) :
    ∃ m' out, serverDied (heartbeatKey info) m = some (m', out) ∧ Acts config g m m' out ∧
      ((registryOf g m').leader = (registryOf g m).leader ∨ info.isPrimary = true ∧
        (registryOf g m').leader = (successor info (m.servers g)).map ServerInfo.address) := by
  have hports := distinctPorts_of_settings (hm.settings g)
  have hconf := configured_of_settings (hm.settings g) hinfo
  have hg : info.replicaGroup = g := hconf.replicaGroup
  have hgroups := replicaGroup_of_settings (hm.settings g)
  have hkey := readKey_heartbeatKey (printable_of_settings (hm.settings g) hinfo) (hg ▸ hconf.isInt)
  have hloop := @deathLoop_of_mem _ hports info hinfo defaultInfo m.primaryServers
  have ha : resetFlags (deadEntry info) = resetFlags info := rfl
  have hset : (setEntry (deadEntry info) (m.servers g)).map resetFlags = config.servers g := by
    rw [map_resetFlags_setEntry hports hinfo ha]
    exact hm.settings g
  have hgroups1 := replicaGroup_of_settings hset
  rw [hg] at hkey hloop
  have hlost : (lostEntry info).isPrimary = info.isPrimary := rfl
  by_cases hflag : info.isPrimary = true
  · rw [if_pos hflag] at hloop
    have hstep : ∀ list ps out,
        electionLoop (lostEntry info) false (assign m.primaryServers g none)
          (setEntry (deadEntry info) (m.servers g)) = (list, ps, out) →
        serverDied (heartbeatKey info) m = some (changed m g info list ps none, out) := by
      intro list ps out helect
      unfold serverDied
      rw [hkey]
      dsimp only [Option.bind_eq_bind, Option.bind_some]
      rw [hloop]
      dsimp only
      rw [hlost, if_pos hflag, helect]
      rfl
    have hfind := find_setEntry_dead info (m.servers g)
    cases hs : successor info (m.servers g) with
    | none =>
      rw [hs, List.find?_eq_none] at hfind
      have hall : ∀ x ∈ setEntry (deadEntry info) (m.servers g), x.isDead = true :=
        fun x hx => by simpa using hfind x hx
      refine ⟨_, _, hstep _ _ _ (electionLoop_none hall _ _),
        acts_last hm hinfo hd hflag hall, Or.inr ⟨hflag, ?_⟩⟩
      rw [registryOf_changed, assign_self]
    | some it =>
      rw [hs, List.find?_eq_some_iff_append] at hfind
      obtain ⟨hit, pre, post, hlist, hpre⟩ := hfind
      have hit : it.isDead = false := by simpa using hit
      have hpre : ∀ x ∈ pre, x.isDead = true := fun x hx => by simpa using hpre x hx
      have helect := @electionLoop_elects g pre post it (lostEntry info) (hlist ▸ hgroups1) hg
        hpre hit (assign m.primaryServers g none)
      rw [← hlist, assign_assign] at helect
      refine ⟨_, _, hstep _ _ _ helect, acts_elect hm hinfo hflag hlist hit,
        Or.inr ⟨hflag, ?_⟩⟩
      rw [registryOf_changed, assign_self]
      rfl
  · have hflag' : info.isPrimary = false := by simpa using hflag
    rw [if_neg hflag] at hloop
    have hprim : ∃ p, m.primaryServers g = some p := by
      cases hp : m.primaryServers g with
      | none =>
        have hdead := (hm.group g).dead_of_none hp info hinfo
        rw [hd] at hdead
        exact absurd hdead (by decide)
      | some p => exact ⟨p, rfl⟩
    obtain ⟨p, hp⟩ := hprim
    refine ⟨_, _, ?_, acts_lose hm hinfo hd hflag' hp, Or.inl ?_⟩
    · unfold serverDied
      rw [hkey]
      dsimp only [Option.bind_eq_bind, Option.bind_some]
      rw [hloop]
      dsimp only
      rw [hlost, if_neg hflag, informLoop_some hgroups1 hp]
      rfl
    · rw [registryOf_changed]
      rfl

end Steps

end CloudStorage.Proofs
