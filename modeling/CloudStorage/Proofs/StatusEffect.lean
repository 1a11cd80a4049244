import CloudStorage.Proofs.Election

/-!
# What a storage server makes of a status message

A message changes the role of the server and which of the others it takes for live
secondaries, as a notice does.
-/

namespace CloudStorage.Proofs
open Leadership

/-- The list has the address as a live secondary: forwarded writes go to it. -/
def liveAt (list : List ServerInfo) (x : Address) : Bool :=
  list.any (fun it => it.address = x ∧ it.isDead = false ∧ it.isPrimary = false)

lemma liveAt_iff (list : List ServerInfo) (x : Address) :
    liveAt list x = true ↔
      ∃ it ∈ list, it.address = x ∧ it.isDead = false ∧ it.isPrimary = false := by
  unfold liveAt
  simp

/-- The entries with an address changed, as all handlers of a message do. -/
def mapAt (f : ServerInfo → ServerInfo) (a : Address) (list : List ServerInfo) :
    List ServerInfo :=
  list.map (fun it => if it.address = a then f it else it)

lemma liveAt_mapAt_of_ne {f : ServerInfo → ServerInfo} {a x : Address} {list : List ServerInfo}
    (hf : ∀ it ∈ list, it.address = a → (f it).address = a) (hx : x ≠ a) :
    liveAt (mapAt f a list) x = liveAt list x := by
  unfold mapAt
  induction list with
  | nil => rfl
  | cons it list ih =>
    have ih := ih (fun y hy => hf y (List.mem_cons_of_mem it hy))
    unfold liveAt at ih ⊢
    rw [List.map_cons, List.any_cons, List.any_cons, ih]
    by_cases ha : it.address = a
    · have hfa := hf it List.mem_cons_self ha
      simp [ha, hfa, Ne.symm hx]
    · rw [if_neg ha]

/-- When every entry of an address becomes a live secondary, or none does. -/
lemma liveAt_mapAt_self {f : ServerInfo → ServerInfo} {a : Address} {list : List ServerInfo}
    {b : Bool} (ha : ∃ it ∈ list, it.address = a)
    (hf : ∀ it, (f it).address = it.address ∧
      decide ((f it).isDead = false ∧ (f it).isPrimary = false) = b) :
    liveAt (mapAt f a list) a = b := by
  cases b with
  | true =>
    rw [liveAt_iff]
    obtain ⟨it, hit, hia⟩ := ha
    have hlive := of_decide_eq_true (hf it).2
    refine ⟨f it, List.mem_map.mpr ⟨it, hit, if_pos hia⟩, (hf it).1.trans hia, hlive⟩
  | false =>
    rw [Bool.eq_false_iff]
    intro hl
    obtain ⟨y, hy, hya, hlive⟩ := (liveAt_iff _ a).mp hl
    obtain ⟨it, -, rfl⟩ := List.mem_map.mp hy
    by_cases hia : it.address = a
    · rw [if_pos hia] at hlive
      exact absurd hlive (of_decide_eq_false (hf it).2)
    · rw [if_neg hia] at hya
      exact hia hya

section Effect

variable {config : Configuration} {g : Int} {info : ServerInfo}

/-- The server runs as `info` of the group. -/
structure Serves (config : Configuration) (g : Int) (info : ServerInfo) (s : Server) : Prop where
  myInfo : resetFlags s.myInfo = info
  replicaGroup : s.replicaGroup = g
  servers : (s.servers g).map resetFlags = config.servers g

lemma Serves.group_eq (hinfo : info ∈ config.servers g) {s : Server} (h : Serves config g info s) :
    s.myInfo.replicaGroup = g := by
  have hg := (config.configured g info hinfo).replicaGroup
  rw [← h.myInfo] at hg
  exact hg

lemma Serves.address_eq {s : Server} (h : Serves config g info s) :
    s.myInfo.address = info.address := by
  have ha : (resetFlags s.myInfo).address = info.address := congrArg _ h.myInfo
  exact ha

lemma mapEntries_servers (f : ServerInfo → ServerInfo) (a : Address) (s : Server) :
    (s.mapEntries g f a).servers g = mapAt f a (s.servers g) :=
  Function.update_self ..

lemma map_resetFlags_mapAt {f : ServerInfo → ServerInfo} {a : Address} {list : List ServerInfo}
    (hf : ∀ it ∈ list, it.address = a → resetFlags (f it) = resetFlags it) :
    (mapAt f a list).map resetFlags = list.map resetFlags := by
  unfold mapAt
  rw [List.map_map]
  apply List.map_congr_left
  intro it hit
  dsimp only [Function.comp_apply]
  split
  · next ha => exact hf it hit ha
  · rfl

/-- The servers of a group have addresses of their own. -/
lemma eq_of_address {list : List ServerInfo} (h : list.map resetFlags = config.servers g)
    {it : ServerInfo} (hit : it ∈ list) (hinfo : info ∈ config.servers g)
    (ha : it.address = info.address) : resetFlags it = info := by
  have hmem : resetFlags it ∈ config.servers g := h ▸ List.mem_map_of_mem hit
  have hd : DistinctPorts (config.servers g) := config.distinct g
  exact hd.eq_of_tcpPort hmem hinfo (Prod.mk.inj ha).2

lemma exists_address {list : List ServerInfo} (h : list.map resetFlags = config.servers g)
    {a : Address} (ha : a ∈ members config g) : ∃ it ∈ list, it.address = a := by
  obtain ⟨info, hinfo, rfl⟩ := ha
  rw [← h] at hinfo
  obtain ⟨it, hit, rfl⟩ := List.mem_map.mp hinfo
  exact ⟨it, hit, rfl⟩

variable (hinfo : info ∈ config.servers g) {s : Server} (h : Serves config g info s)

include hinfo h in
lemma setRole_spec (role : Bool) :
    Serves config g info (s.setRole role) ∧ (s.setRole role).myInfo.isPrimary = role ∧
      ∀ x, x ≠ info.address → liveAt ((s.setRole role).servers g) x = liveAt (s.servers g) x := by
  have hg := h.group_eq hinfo
  have ha := h.address_eq
  have hlist : (s.setRole role).servers g =
      mapAt (fun _ => { s.myInfo with isPrimary := role, isDead := false }) s.myInfo.address
        (s.servers g) := by
    unfold Server.setRole
    dsimp only
    rw [hg]
    exact mapEntries_servers _ _ _
  refine ⟨⟨h.myInfo, h.replicaGroup, ?_⟩, rfl, ?_⟩
  · rw [hlist, map_resetFlags_mapAt]
    · exact h.servers
    · intro it hit hita
      rw [ha] at hita
      exact h.myInfo.trans (eq_of_address h.servers hit hinfo hita).symm
  · intro x hx
    rw [hlist, liveAt_mapAt_of_ne]
    · intro _ _ _
      rfl
    · rw [ha]
      exact hx

/-- Entries that only get other flags. -/
lemma Serves.mapEntries {f : ServerInfo → ServerInfo} (hf : ∀ it, resetFlags (f it) = resetFlags it)
    (h : Serves config g info s) (a : Address) : Serves config g info (s.mapEntries g f a) := by
  refine ⟨h.myInfo, h.replicaGroup, ?_⟩
  rw [mapEntries_servers, map_resetFlags_mapAt (fun it _ _ => hf it)]
  exact h.servers

include h in
/-- The view of an address after entries of an address of the group got other flags. -/
lemma liveAt_mapEntries {f : ServerInfo → ServerInfo} {b : Bool}
    (hf : ∀ it, (f it).address = it.address ∧
      decide ((f it).isDead = false ∧ (f it).isPrimary = false) = b)
    {a : Address} (ha : a ∈ members config g) (x : Address) :
    liveAt ((s.mapEntries g f a).servers g) x = if x = a then b else liveAt (s.servers g) x := by
  rw [mapEntries_servers]
  by_cases hx : x = a
  · subst hx
    rw [if_pos rfl]
    exact liveAt_mapAt_self (exists_address h.servers ha) hf
  · rw [if_neg hx]
    exact liveAt_mapAt_of_ne (fun it _ ha => (hf it).1.trans ha) hx

/-- Where no entry has the address, a mark that makes none live changes no view. -/
lemma liveAt_mapEntries_false {f : ServerInfo → ServerInfo}
    (hf : ∀ it, (f it).address = it.address ∧
      decide ((f it).isDead = false ∧ (f it).isPrimary = false) = false) (a x : Address) :
    liveAt ((s.mapEntries g f a).servers g) x =
      if x = a then false else liveAt (s.servers g) x := by
  rw [mapEntries_servers]
  by_cases hx : x = a
  · subst hx
    rw [if_pos rfl]
    by_cases ha : ∃ it ∈ s.servers g, it.address = x
    · exact liveAt_mapAt_self ha hf
    · rw [Bool.eq_false_iff]
      intro hl
      obtain ⟨y, hy, hya, -⟩ := (liveAt_iff _ x).mp hl
      obtain ⟨it, hit, rfl⟩ := List.mem_map.mp hy
      by_cases hia : it.address = x
      · exact ha ⟨it, hit, hia⟩
      · rw [if_neg hia] at hya
        exact hia hya
  · rw [if_neg hx]
    exact liveAt_mapAt_of_ne (fun it _ ha => (hf it).1.trans ha) hx

/-- The mark of a secondary that joined. -/
def joinedEntry (it : ServerInfo) : ServerInfo := { it with isDead := false, isPrimary := false }

include hinfo in
/-- The server named before the `@` becomes a live secondary, or the primary. -/
lemma heedNamed_spec (h : Serves config g info s) {named : Option Address}
    (hnamed : ∀ a, named = some a → a ∈ members config g) (role : Bool) :
    Serves config g info (s.heedNamed role named) ∧ (s.heedNamed role named).myInfo = s.myInfo ∧
      ∀ x, liveAt ((s.heedNamed role named).servers g) x =
        if named = some x then role else liveAt (s.servers g) x := by
  have hg := h.group_eq hinfo
  cases named with
  | none => exact ⟨h, rfl, fun x => by simp [Server.heedNamed]⟩
  | some a =>
    have ha := hnamed a rfl
    have hsome : ∀ x, (some a = some x) = (x = a) := fun x => by simp [eq_comm]
    cases role with
    | true =>
      have hreset : ∀ it, resetFlags (joinedEntry it) = resetFlags it := fun _ => rfl
      have hlive : ∀ it, (joinedEntry it).address = it.address ∧
          decide ((joinedEntry it).isDead = false ∧ (joinedEntry it).isPrimary = false) = true :=
        fun _ => ⟨rfl, rfl⟩
      have hmark : s.heedNamed true (some a) = s.mapEntries g joinedEntry a := by
        unfold Server.heedNamed Server.markAlive
        rw [hg]
        rfl
      simp only [hmark, hsome]
      exact ⟨h.mapEntries hreset a, rfl, liveAt_mapEntries h hlive ha⟩
    | false =>
      have hreset : ∀ it, resetFlags (electedEntry it) = resetFlags it := fun _ => rfl
      have hlive : ∀ it, (electedEntry it).address = it.address ∧
          decide ((electedEntry it).isDead = false ∧ (electedEntry it).isPrimary = false) = false :=
        fun it => ⟨rfl, by simp [electedEntry]⟩
      have hmark : ∃ p, s.heedNamed false (some a) =
          { s.mapEntries g electedEntry a with primaryInfo := p } := by
        have hfollow : s.heedNamed false (some a) = s.followPrimary a := rfl
        rw [hfollow]
        unfold Server.followPrimary
        rw [hg]
        dsimp only
        split
        · exact ⟨_, rfl⟩
        · exact ⟨_, rfl⟩
      obtain ⟨p, hp⟩ := hmark
      have hs := h.mapEntries hreset a
      simp only [hp, hsome]
      exact ⟨⟨hs.myInfo, hs.replicaGroup, hs.servers⟩, rfl, liveAt_mapEntries h hlive ha⟩

lemma heedDead_spec (h : Serves config g info s) (dead : Option Address) :
    Serves config g info (s.heedDead dead) ∧ (s.heedDead dead).myInfo = s.myInfo ∧
      ∀ x, liveAt ((s.heedDead dead).servers g) x =
        if dead = some x then false else liveAt (s.servers g) x := by
  cases dead with
  | none => exact ⟨h, rfl, fun x => by simp [Server.heedDead]⟩
  | some d =>
    have hsome : ∀ x, (some d = some x) = (x = d) := fun x => by simp [eq_comm]
    have hreset : ∀ it, resetFlags (deadEntry it) = resetFlags it := fun _ => rfl
    have hlive : ∀ it, (deadEntry it).address = it.address ∧
        decide ((deadEntry it).isDead = false ∧ (deadEntry it).isPrimary = false) = false :=
      fun _ => ⟨rfl, rfl⟩
    have hmark : s.heedDead (some d) = s.mapEntries g deadEntry d := by
      unfold Server.heedDead Server.markDead
      rw [h.replicaGroup]
      rfl
    simp only [hmark, hsome]
    exact ⟨h.mapEntries hreset d, rfl, liveAt_mapEntries_false hlive d⟩

include hinfo in
/-- A message changes role and views as its notice says. -/
theorem applyStatus_spec (h : Serves config g info s) {status : Status}
    (hnamed : ∀ a, status.named = some a → a ∈ members config g) :
    Serves config g info (s.applyStatus status) ∧
      (s.applyStatus status).myInfo.isPrimary = status.isPrimary ∧
      ∀ x, x ≠ info.address → liveAt ((s.applyStatus status).servers g) x =
        (noticeOf status).hear x (liveAt (s.servers g) x) := by
  obtain ⟨hs₁, hrole, hview₁⟩ := setRole_spec hinfo h status.isPrimary
  obtain ⟨hs₂, hmy₂, hview₂⟩ := heedNamed_spec hinfo hs₁ hnamed status.isPrimary
  obtain ⟨hs₃, hmy₃, hview₃⟩ := heedDead_spec hs₂ status.dead
  unfold Server.applyStatus
  refine ⟨hs₃, ?_, fun x hx => ?_⟩
  · rw [hmy₃, hmy₂, hrole]
  · rw [hview₃ x, hview₂ x, hview₁ x hx]
    rfl

end Effect

end CloudStorage.Proofs
