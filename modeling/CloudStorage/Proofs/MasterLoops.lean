import CloudStorage.Proofs.StatusText

/-!
# The loops of the master

What each loop over the servers of a group comes to when the servers have distinct ports.
-/

namespace CloudStorage.Proofs

section Assign

variable {κ ν : Type} [DecidableEq κ] (m : κ → ν) (key : κ) (value : ν)

@[simp] lemma assign_self : assign m key value key = value := if_pos rfl

lemma assign_of_ne {key k : κ} (h : k ≠ key) (value : ν) (m : κ → ν) :
    assign m key value k = m k := if_neg h

lemma assign_assign (value' : ν) :
    assign (assign m key value) key value' = assign m key value' := by
  funext k
  unfold assign
  split
  · rfl
  · rfl

end Assign

/-! ### The loops -/

/-- The list with the entry of a port replaced. -/
def setEntry (a : ServerInfo) (list : List ServerInfo) : List ServerInfo :=
  list.map (fun it => if it.tcpPort = a.tcpPort then a else it)

lemma setEntry_cons_self {a info : ServerInfo} (h : info.tcpPort = a.tcpPort)
    (list : List ServerInfo) : setEntry a (info :: list) = a :: setEntry a list := by
  unfold setEntry
  rw [List.map_cons, if_pos h]

lemma setEntry_cons_ne {a info : ServerInfo} (h : info.tcpPort ≠ a.tcpPort)
    (list : List ServerInfo) : setEntry a (info :: list) = info :: setEntry a list := by
  unfold setEntry
  rw [List.map_cons, if_neg h]

lemma setEntry_absent {a : ServerInfo} {list : List ServerInfo}
    (h : ∀ it ∈ list, it.tcpPort ≠ a.tcpPort) : setEntry a list = list := by
  induction list with
  | nil => rfl
  | cons info list ih =>
    rw [setEntry_cons_ne (h info List.mem_cons_self),
      ih (fun it hit => h it (List.mem_cons_of_mem info hit))]

/-- Distinct ports, and so distinct entries. -/
def DistinctPorts (list : List ServerInfo) : Prop := (list.map ServerInfo.tcpPort).Nodup

lemma DistinctPorts.eq_of_tcpPort {list : List ServerInfo} (h : DistinctPorts list)
    {a b : ServerInfo} (ha : a ∈ list) (hb : b ∈ list) (hp : a.tcpPort = b.tcpPort) : a = b :=
  List.inj_on_of_nodup_map h ha hb hp

lemma DistinctPorts.of_cons {info : ServerInfo} {list : List ServerInfo}
    (h : DistinctPorts (info :: list)) :
    (∀ it ∈ list, it.tcpPort ≠ info.tcpPort) ∧ DistinctPorts list := by
  unfold DistinctPorts at h
  rw [List.map_cons, List.nodup_cons] at h
  constructor
  · intro it hit heq
    exact h.1 (heq ▸ List.mem_map_of_mem hit)
  · exact h.2

lemma mem_setEntry {a x : ServerInfo} {list : List ServerInfo} (h : DistinctPorts list)
    {info : ServerInfo} (hinfo : info ∈ list) (hp : info.tcpPort = a.tcpPort) :
    x ∈ setEntry a list ↔ x = a ∨ (x ∈ list ∧ x ≠ info) := by
  have hne : ∀ it ∈ list, it.tcpPort ≠ a.tcpPort ↔ it ≠ info := by
    intro it hit
    rw [← hp]
    exact not_congr ⟨h.eq_of_tcpPort hit hinfo, fun he => he ▸ rfl⟩
  unfold setEntry
  rw [List.mem_map]
  constructor
  · rintro ⟨it, hit, rfl⟩
    split
    · exact Or.inl rfl
    · next hport => exact Or.inr ⟨hit, (hne it hit).mp hport⟩
  · rintro (rfl | ⟨hx, hxi⟩)
    · exact ⟨info, hinfo, if_pos hp⟩
    · exact ⟨x, hx, if_neg ((hne x hx).mpr hxi)⟩

lemma getPrimary_some {g : Int} {ps : Primaries} {p : ServerInfo} (h : ps g = some p) :
    getPrimary g ps = (p, ps) := by
  unfold getPrimary
  rw [h]

lemma revive_tcpPort (g : Int) (info : ServerInfo) (ps : Primaries) :
    (revive g info ps).1.tcpPort = info.tcpPort := by
  unfold revive
  split <;> rfl

/-- A server that is told its role while no death is reported. -/
def noDeath : ServerInfo := { defaultInfo with isDead := false }

/-- The first server of a group without a primary. -/
lemma revive_first {g : Int} {info : ServerInfo} {ps : Primaries} (hg : info.replicaGroup = g)
    (h : ps g = none) :
    let a := { info with isDead := false, isPrimary := true }
    revive g info ps = (a, assign ps g (some a), [sendIsPrimary true a a noDeath]) := by
  have hget : getPrimary g (assign ps g
      (some { info with isDead := false, isPrimary := true })) = _ :=
    getPrimary_some (assign_self ..)
  unfold revive
  rw [h]
  dsimp only
  rw [hg] at hget ⊢
  rw [hget]
  rfl

lemma revive_joins {g : Int} {info p : ServerInfo} {ps : Primaries} (hg : info.replicaGroup = g)
    (h : ps g = some p) (hflag : info.isPrimary = false) :
    let a := { info with isDead := false }
    revive g info ps =
      (a, ps, [sendIsPrimary false a p noDeath, sendNewSecondaryInfoToPrimary p a]) := by
  unfold revive
  rw [h]
  dsimp only
  rw [hg, getPrimary_some h, hflag]
  rfl

lemma heartbeatLoop_absent {g p : Int} {list : List ServerInfo}
    (h : ∀ it ∈ list, it.tcpPort ≠ p) (tempInfo : ServerInfo) (ps : Primaries) :
    heartbeatLoop g p tempInfo ps list = (list, tempInfo, ps, []) := by
  induction list with
  | nil => rfl
  | cons info list ih =>
    rw [heartbeatLoop, if_neg (h info List.mem_cons_self),
      ih (fun it hit => h it (List.mem_cons_of_mem info hit))]

/-- The entry of the sender's port is met once. -/
lemma heartbeatLoop_of_mem {g : Int} {list : List ServerInfo} (h : DistinctPorts list)
    {info : ServerInfo} (hinfo : info ∈ list) (tempInfo : ServerInfo) (ps : Primaries) :
    heartbeatLoop g info.tcpPort tempInfo ps list =
      if info.isDead = false then (list, info, ps, [])
      else (setEntry (revive g info ps).1 list, info, (revive g info ps).2) := by
  induction list with
  | nil => exact absurd hinfo List.not_mem_nil
  | cons it list ih =>
    have hcons := h.of_cons
    rcases List.mem_cons.mp hinfo with rfl | hmem
    · have habs := heartbeatLoop_absent (g := g) hcons.1 info
      have hport := revive_tcpPort g info ps
      rw [heartbeatLoop, if_pos rfl]
      by_cases hd : info.isDead = false
      · rw [if_pos hd, if_pos hd, habs]
      · rw [if_neg hd, if_neg hd]
        generalize revive g info ps = r at hport ⊢
        obtain ⟨info', ps', sent⟩ := r
        have hset : setEntry info' list = list := by
          apply setEntry_absent
          rw [hport]
          exact hcons.1
        dsimp only
        rw [habs, setEntry_cons_self hport.symm, hset]
        simp
    · have hne : it.tcpPort ≠ info.tcpPort := Ne.symm (hcons.1 info hmem)
      have hrev : it.tcpPort ≠ (revive g info ps).1.tcpPort := by
        rw [revive_tcpPort]
        exact hne
      rw [heartbeatLoop, if_neg hne, ih hcons.2 hmem]
      by_cases hd : info.isDead = false
      · rw [if_pos hd, if_pos hd]
      · rw [if_neg hd, if_neg hd, setEntry_cons_ne hrev]

/-- A server as it is kept when it died. -/
def deadEntry (info : ServerInfo) : ServerInfo := { info with isDead := true, isPrimary := false }

/-- A server that died as it is reported, with the role it had. -/
def lostEntry (info : ServerInfo) : ServerInfo := { info with isDead := true }

lemma deathLoop_absent {dead : Address} {list : List ServerInfo}
    (h : ∀ it ∈ list, it.address ≠ dead) (deadServerInfo : ServerInfo) (ps : Primaries) :
    deathLoop dead deadServerInfo ps list = (list, deadServerInfo, ps) := by
  induction list with
  | nil => rfl
  | cons it list ih =>
    rw [deathLoop, if_neg (h it List.mem_cons_self),
      ih (fun x hx => h x (List.mem_cons_of_mem it hx))]

lemma address_ne {a b : ServerInfo} (h : a.tcpPort ≠ b.tcpPort) : a.address ≠ b.address :=
  fun he => h (Prod.mk.inj he).2

lemma deathLoop_of_mem {list : List ServerInfo} (h : DistinctPorts list) {info : ServerInfo}
    (hinfo : info ∈ list) (deadServerInfo : ServerInfo) (ps : Primaries) :
    deathLoop info.address deadServerInfo ps list =
      (setEntry (deadEntry info) list, lostEntry info,
        if info.isPrimary then assign ps info.replicaGroup none else ps) := by
  induction list generalizing deadServerInfo with
  | nil => exact absurd hinfo List.not_mem_nil
  | cons it list ih =>
    have hcons := h.of_cons
    rcases List.mem_cons.mp hinfo with rfl | hmem
    · have habs : ∀ it ∈ list, it.address ≠ info.address :=
        fun it hit => address_ne (hcons.1 it hit)
      have hset : setEntry (deadEntry info) (info :: list) = deadEntry info :: list := by
        have hrest : setEntry (deadEntry info) list = list := setEntry_absent hcons.1
        rw [@setEntry_cons_self (deadEntry info) info rfl list, hrest]
      rw [deathLoop, if_pos rfl, hset]
      dsimp only
      rw [deathLoop_absent habs]
      rfl
    · have hne : it.tcpPort ≠ info.tcpPort := Ne.symm (hcons.1 info hmem)
      have hset : setEntry (deadEntry info) (it :: list) = it :: setEntry (deadEntry info) list :=
        @setEntry_cons_ne (deadEntry info) it hne list
      rw [deathLoop, if_neg (address_ne hne), ih hcons.2 hmem, hset]

section Group

variable {g : Int} {list : List ServerInfo} (hg : ∀ it ∈ list, it.replicaGroup = g)

include hg in
/-- Behind the elected server on the list, every server is told, dead or alive. -/
lemma electionLoop_assigned {ps : Primaries} {f : ServerInfo} (hf : ps g = some f)
    (dead : ServerInfo) :
    electionLoop dead true ps list =
      (list, ps, list.map (fun it => sendIsPrimary false it f dead)) := by
  induction list with
  | nil => rfl
  | cons it list ih =>
    rw [electionLoop, if_pos rfl, hg it List.mem_cons_self, getPrimary_some hf]
    dsimp only
    rw [ih (fun x hx => hg x (List.mem_cons_of_mem it hx))]
    rfl

lemma electionLoop_none (h : ∀ it ∈ list, it.isDead = true) (dead : ServerInfo)
    (ps : Primaries) : electionLoop dead false ps list = (list, ps, []) := by
  induction list with
  | nil => rfl
  | cons it list ih =>
    have hit : ¬ it.isDead = false := by simp [h it List.mem_cons_self]
    rw [electionLoop, if_neg Bool.false_ne_true, if_neg hit,
      ih (fun x hx => h x (List.mem_cons_of_mem it hx))]

/-- A server as it is elected. -/
def electedEntry (info : ServerInfo) : ServerInfo := { info with isPrimary := true }

lemma electionLoop_cons_alive {f : ServerInfo} (hf : f.isDead = false) (dead : ServerInfo)
    (ps : Primaries) (post : List ServerInfo) :
    electionLoop dead false ps (f :: post) =
      let found := getPrimary f.replicaGroup
        (assign ps dead.replicaGroup (some (electedEntry f)))
      let rest := electionLoop dead true found.2 post
      (electedEntry f :: rest.1, rest.2.1,
        sendIsPrimary true (electedEntry f) found.1 dead :: rest.2.2) := by
  rw [electionLoop, if_neg Bool.false_ne_true, if_pos hf]
  rfl

lemma electionLoop_elects {pre post : List ServerInfo} {f dead : ServerInfo}
    (hg : ∀ it ∈ pre ++ f :: post, it.replicaGroup = g) (hd : dead.replicaGroup = g)
    (hpre : ∀ it ∈ pre, it.isDead = true) (hf : f.isDead = false) (ps : Primaries) :
    electionLoop dead false ps (pre ++ f :: post) =
      (pre ++ electedEntry f :: post, assign ps g (some (electedEntry f)),
        sendIsPrimary true (electedEntry f) (electedEntry f) dead ::
          post.map (fun it => sendIsPrimary false it (electedEntry f) dead)) := by
  induction pre with
  | nil =>
    have hgf : f.replicaGroup = g := hg f List.mem_cons_self
    have hps : assign ps g (some (electedEntry f)) g = some (electedEntry f) :=
      assign_self ..
    rw [List.nil_append, electionLoop_cons_alive hf, hd, hgf]
    dsimp only
    rw [getPrimary_some hps]
    dsimp only
    rw [electionLoop_assigned (fun it hit => hg it (List.mem_cons_of_mem f hit)) hps]
    rfl
  | cons it pre ih =>
    have hit : ¬ it.isDead = false := by simp [hpre it List.mem_cons_self]
    rw [List.cons_append, electionLoop, if_neg Bool.false_ne_true, if_neg hit,
      ih (fun x hx => hg x (List.mem_cons_of_mem it hx))
        (fun x hx => hpre x (List.mem_cons_of_mem it hx))]
    rfl

include hg in
lemma informLoop_some {ps : Primaries} {p : ServerInfo} (hp : ps g = some p)
    (dead : ServerInfo) :
    informLoop dead ps list =
      (ps, (list.filter (fun it => it.isDead = false)).map
        (fun it => sendIsPrimary it.isPrimary it p dead)) := by
  induction list with
  | nil => rfl
  | cons it list ih =>
    have ih := ih (fun x hx => hg x (List.mem_cons_of_mem it hx))
    rw [informLoop]
    split
    · next hit =>
      rw [hg it List.mem_cons_self, getPrimary_some hp]
      dsimp only
      rw [ih, List.filter_cons_of_pos (by simpa using hit)]
      rfl
    · next hit =>
      rw [ih, List.filter_cons_of_neg (by simpa using hit)]

end Group

end CloudStorage.Proofs
