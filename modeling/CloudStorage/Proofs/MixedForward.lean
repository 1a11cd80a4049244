import CloudStorage.Proofs.Catchup

/-!
# A write in a group with dead secondaries

The loop of the primary carries a write out at the secondaries that run and logs it for those
that it has marked dead. If the secondaries run as it has them marked, the write reaches all
of them or changes nothing.
-/

namespace CloudStorage.Proofs
open DelimitedText Registers

/-- What a server of the group holds or will hold. -/
def SyncedAt (g : Int) (life : Address → Life) (m : Str × Str → Option Str) (w : World)
    (it : ServerInfo) : Prop :=
  Synced (storagePath g it.tcpPort) m (w.server it.address) w.disk (life it.address)

section Frame

variable {g : Int} {x : Write} {list : List ServerInfo} {w w' : World} {ok : Bool}

lemma applyAt_node (w : World) (a : Address) (x : Write) :
    (applyAt w a x).node a = checkpointAfter w.time (applyWrite x (w.node a)).1 :=
  node_setNode w a _

lemma onlyFilesOf_applyAt (w : World) (a : Address) (x : Write) :
    OnlyFilesOf (w.server a).diskFilePath w.disk (applyAt w a x).disk := by
  have hwrite := onlyFilesOf_applyWrite x (w.node a)
  have hcheck := onlyFilesOf_checkpointAfter w.time (applyWrite x (w.node a)).1
  rw [settings_diskFilePath (applyWrite_settings x (w.node a))] at hcheck
  exact hwrite.trans hcheck

lemma onlyFilesOf_settle (w : World) (a : Address) :
    OnlyFilesOf (w.server a).diskFilePath w.disk (w.settle a (w.node a)).disk :=
  onlyFilesOf_checkpointAfter w.time (w.node a)

lemma onlyFilesOf_logAt (w : World) (g p : Int) (x : Write) :
    OnlyFilesOf (storagePath g p) w.disk (logAt w g p x).disk :=
  onlyFilesOf_appendToFile (ownFile_dead _) x.line w.disk

/-- The servers on the list keep their data where their ports say. -/
def KeepPaths (g : Int) (list : List ServerInfo) (w : World) : Prop :=
  ∀ it ∈ list, (w.server it.address).diskFilePath = storagePath g it.tcpPort

lemma KeepPaths.of_sameSettings (h : KeepPaths g list w) (hs : SameSettings w w') :
    KeepPaths g list w' :=
  fun it hit => (settings_diskFilePath (hs it.address)).trans (h it hit)

lemma KeepPaths.tail {it : ServerInfo} {rest : List ServerInfo} (h : KeepPaths g (it :: rest) w) :
    KeepPaths g rest w :=
  fun y hy => h y (List.mem_cons_of_mem it hy)

/-- The loop changes no file of a server that is not on its list. -/
theorem Forwards.sameFiles (h : Forwards g x list w ok w') (hpaths : KeepPaths g list w) {q : Int}
    (hq : ∀ it ∈ list, it.tcpPort ≠ q) : SameFiles (storagePath g q) w.disk w'.disk := by
  induction h with
  | done => exact SameFiles.refl _ _
  | primary _ _ ih => exact ih hpaths.tail (fun y hy => hq y (List.mem_cons_of_mem _ hy))
  | @dead it rest w w' ok _ _ _ ih =>
    have hlog := (onlyFilesOf_logAt w g it.tcpPort x).sameFiles (Ne.symm (hq it List.mem_cons_self))
    exact hlog.trans (ih hpaths.tail (fun y hy => hq y (List.mem_cons_of_mem _ hy)))
  | noSocket _ _ hc | refused _ _ hc | disabled _ _ hc _ =>
    rw [(connect_server hc).2]
    exact SameFiles.refl _ _
  | @rejected it rest w u _ _ hc _ _ =>
    have hfiles := onlyFilesOf_applyAt u it.address x
    rw [(connect_server hc).1, hpaths it List.mem_cons_self, (connect_server hc).2] at hfiles
    exact hfiles.sameFiles (Ne.symm (hq it List.mem_cons_self))
  | @taken it rest w u w' ok _ _ hc _ _ _ ih =>
    have hfiles := onlyFilesOf_applyAt u it.address x
    rw [(connect_server hc).1, hpaths it List.mem_cons_self, (connect_server hc).2] at hfiles
    have hset := (connect_sameSettings hc).trans (applyAt_sameSettings u it.address x)
    have hrest := ih (hpaths.tail.of_sameSettings hset)
      (fun y hy => hq y (List.mem_cons_of_mem _ hy))
    exact (hfiles.sameFiles (Ne.symm (hq it List.mem_cons_self))).trans hrest

end Frame

section Loop

variable {g : Int} {life : Address → Life} {m : Str × Str → Option Str} {x : Write}
  {list : List ServerInfo} {w w' : World} {ok : Bool}

lemma SyncedAt.congr {it : ServerInfo} (h : SyncedAt g life m w it)
    (hs : w'.server it.address = w.server it.address)
    (hf : SameFiles (storagePath g it.tcpPort) w.disk w'.disk) : SyncedAt g life m w' it := by
  unfold SyncedAt at h ⊢
  rw [hs]
  exact h.congr rfl hf

lemma SyncedAt.applied {it : ServerInfo} (h : SyncedAt g life m w it)
    (hup : life it.address = .up) (hx : Plain x) :
    SyncedAt g life (written x m) (applyAt w it.address x) it := by
  unfold SyncedAt at h ⊢
  rw [hup] at h ⊢
  have hruns := Runs.applied h hx w.time
  have hnode := applyAt_node w it.address x
  have hserver : (applyAt w it.address x).server it.address =
      (checkpointAfter w.time (applyWrite x (w.node it.address)).1).server :=
    congrArg Node.server hnode
  have hdisk : (applyAt w it.address x).disk =
      (checkpointAfter w.time (applyWrite x (w.node it.address)).1).disk :=
    rfl
  rw [hserver, hdisk]
  exact hruns

lemma SyncedAt.logged {it : ServerInfo} (h : SyncedAt g life m w it)
    (hlife : ReadsDeadLog (life it.address)) (hx : Plain x) :
    SyncedAt g life (written x m) (logAt w g it.tcpPort x) it :=
  Synced.logged h hlife hx

/-- The secondaries that the list has alive run. -/
def LiveRun (life : Address → Life) (list : List ServerInfo) : Prop :=
  ∀ it ∈ list, it.isPrimary = false → it.isDead = false → (life it.address).isUp = true

/-- The secondaries that the list has dead will still read what is logged for them. -/
def DeadRead (life : Address → Life) (list : List ServerInfo) : Prop :=
  ∀ it ∈ list, it.isPrimary = false → it.isDead = true → ReadsDeadLog (life it.address)

lemma connections_cons_skip {it : ServerInfo} {rest : List ServerInfo}
    (h : it.isPrimary = true ∨ it.isDead = true) :
    connections life (it :: rest) = connections life rest := by
  unfold connections
  rw [List.filter_cons_of_neg]
  cases h with
  | inl h => simp [h]
  | inr h => simp [h]

lemma connections_cons_live {it : ServerInfo} {rest : List ServerInfo}
    (hp : it.isPrimary = false) (hd : it.isDead = false) :
    connections life (it :: rest) =
      (if (life it.address).isUp then .connected else .refused) :: connections life rest := by
  unfold connections
  rw [List.filter_cons_of_pos (by simp [hp, hd])]
  rfl

lemma connect_of_cons {o : Outcome} {os : List Outcome} (h : w.outcomes = o :: os) :
    w.connect = (o, { w with outcomes := os }) := by
  unfold World.connect
  rw [h]

lemma isUp_iff {l : Life} : l.isUp = true ↔ l = .up := by
  cases l <;> simp [Life.isUp]

/-- A connection is made to a server that runs, and is the first that was to come. -/
lemma connected_up {it : ServerInfo} {rest : List ServerInfo} {u : World}
    (hp : it.isPrimary = false) (hd : it.isDead = false)
    (hout : w.outcomes = connections life (it :: rest)) (hc : w.connect = (.connected, u)) :
    life it.address = .up ∧ u.outcomes = connections life rest := by
  rw [connections_cons_live hp hd] at hout
  rw [connect_of_cons hout] at hc
  obtain ⟨ho, hu⟩ := Prod.mk.inj hc
  constructor
  · split at ho
    · next hup => exact isUp_iff.mp hup
    · exact absurd ho (by decide)
  · rw [← hu]

lemma SyncedAt.connect {it : ServerInfo} (h : SyncedAt g life m w it) {o : Outcome} {u : World}
    (hc : w.connect = (o, u)) : SyncedAt g life m u it := by
  apply h.congr
  · rw [(connect_server hc).1]
  · rw [(connect_server hc).2]
    exact SameFiles.refl _ _

/-- A write at one server changes nothing for the servers behind it on the list. -/
lemma SyncedAt.appliedBefore {it y : ServerInfo} {rest : List ServerInfo}
    (h : SyncedAt g life m w y) (hports : ((it :: rest).map ServerInfo.tcpPort).Nodup)
    (hpath : (w.server it.address).diskFilePath = storagePath g it.tcpPort) (hy : y ∈ rest) :
    SyncedAt g life m (applyAt w it.address x) y := by
  have hfiles := onlyFilesOf_applyAt w it.address x
  rw [hpath] at hfiles
  apply h.congr
  · exact applyAt_server_of_ne w (address_ne_of_nodup hports hy) x
  · exact hfiles.sameFiles (port_ne_of_nodup hports hy)

/-- Every secondary that the loop got past has the write, or will have it. -/
theorem Forwards.synced (h : Forwards g x list w ok w')
    (hports : (list.map ServerInfo.tcpPort).Nodup)
    (hpaths : KeepPaths g list w) (hout : w.outcomes = connections life list)
    (hdead : DeadRead life list) (hx : Plain x) {t : Table} (ht : cellsOf t = m)
    (hfind : FindsCell t x)
    (hsync : ∀ it ∈ list, it.isPrimary = false → SyncedAt g life m w it) :
    (LiveRun life list → ok = false → written x m = m) ∧
    ∀ it ∈ list, it.isPrimary = false →
      SyncedAt g life (written x m) w' it ∨ ok = false ∧ SyncedAt g life m w' it := by
  induction h with
  | done =>
    refine ⟨fun _ hok => absurd hok (by decide), ?_⟩
    exact fun it hit => absurd hit List.not_mem_nil
  | @primary it rest w w' ok hp _ ih =>
    have hin : ∀ {y}, y ∈ rest → y ∈ it :: rest := List.mem_cons_of_mem it
    rw [connections_cons_skip (Or.inl hp)] at hout
    obtain ⟨hok, hrest⟩ := ih (List.nodup_cons.mp hports).2 hpaths.tail hout
      (fun y hy => hdead y (hin hy)) (fun y hy => hsync y (hin hy))
    refine ⟨fun hlive => hok (fun y hy => hlive y (hin hy)), ?_⟩
    intro y hy hyp
    cases List.mem_cons.mp hy with
    | inl heq =>
      rw [heq, hp] at hyp
      exact absurd hyp (by decide)
    | inr hy => exact hrest y hy hyp
  | @dead it rest w w' ok hp hd hf ih =>
    have hin : ∀ {y}, y ∈ rest → y ∈ it :: rest := List.mem_cons_of_mem it
    have hne := fun y hy => @port_ne_of_nodup it y rest hports hy
    have hfiles := onlyFilesOf_logAt w g it.tcpPort x
    rw [connections_cons_skip (Or.inr hd)] at hout
    obtain ⟨hok, hrest⟩ := ih (List.nodup_cons.mp hports).2 hpaths.tail hout
      (fun y hy => hdead y (hin hy))
      (fun y hy hyp => (hsync y (hin hy) hyp).congr rfl (hfiles.sameFiles (hne y hy)))
    refine ⟨fun hlive => hok (fun y hy => hlive y (hin hy)), ?_⟩
    intro y hy hyp
    cases List.mem_cons.mp hy with
    | inl heq =>
      subst heq
      left
      have hlogged := (hsync y List.mem_cons_self hp).logged (hdead y List.mem_cons_self hp hd) hx
      apply hlogged.congr
      · exact hf.server_eq (fun z hz _ => address_ne_of_nodup hports hz)
      · exact hf.sameFiles hpaths.tail hne
    | inr hy => exact hrest y hy hyp
  | @noSocket it rest w w' hp hd hc =>
    rw [connections_cons_live hp hd] at hout
    rw [connect_of_cons hout] at hc
    have ho := (Prod.mk.inj hc).1
    split at ho
    · exact absurd ho (by decide)
    · exact absurd ho (by decide)
  | @refused it rest w w' hp hd hc =>
    constructor
    · intro hlive _
      rw [connections_cons_live hp hd, if_pos (hlive it List.mem_cons_self hp hd)] at hout
      rw [connect_of_cons hout] at hc
      exact absurd (Prod.mk.inj hc).1 (by decide)
    · intro y hy hyp
      exact Or.inr ⟨rfl, (hsync y hy hyp).connect hc⟩
  | @disabled it rest w w' hp hd hc hen =>
    obtain ⟨hup, -⟩ := connected_up hp hd hout hc
    have hs := (hsync it List.mem_cons_self hp).connect hc
    unfold SyncedAt at hs
    rw [hup] at hs
    have henabled := Runs.enabled hs
    rw [hen] at henabled
    exact absurd henabled (by decide)
  | @rejected it rest w u hp hd hc hen hrun =>
    obtain ⟨hup, -⟩ := connected_up hp hd hout hc
    have hu : ∀ y ∈ it :: rest, y.isPrimary = false → SyncedAt g life m u y :=
      fun y hy hyp => (hsync y hy hyp).connect hc
    have hcells : cellsOf (u.server it.address).table = m := by
      have hs := hu it List.mem_cons_self hp
      unfold SyncedAt at hs
      rw [hup] at hs
      exact Runs.cells hs
    have hsame : written x m = m := by
      have hfail : (x.run t).2 = false := by
        rw [← run_ok_congr (hcells.trans ht.symm)]
        exact hrun
      have hunchanged := hfind.succeeds_or_unchanged.resolve_left (by simp [hfail])
      rw [cellsOf_run_eq x ht, ht] at hunchanged
      exact hunchanged
    have hkeep : KeepPaths g (it :: rest) u := hpaths.of_sameSettings (connect_sameSettings hc)
    refine ⟨fun _ _ => hsame, ?_⟩
    intro y hy hyp
    left
    cases List.mem_cons.mp hy with
    | inl heq =>
      subst heq
      exact (hu y List.mem_cons_self hp).applied hup hx
    | inr hyr =>
      rw [hsame]
      exact (hu y hy hyp).appliedBefore hports (hkeep it List.mem_cons_self) hyr
  | @taken it rest w u w' ok hp hd hc hen hrun hf ih =>
    have hin : ∀ {y}, y ∈ rest → y ∈ it :: rest := List.mem_cons_of_mem it
    have hne := fun y hy => @port_ne_of_nodup it y rest hports hy
    obtain ⟨hup, hrestout⟩ := connected_up hp hd hout hc
    have hu : ∀ y ∈ it :: rest, y.isPrimary = false → SyncedAt g life m u y :=
      fun y hy hyp => (hsync y hy hyp).connect hc
    have hkeepu : KeepPaths g (it :: rest) u := hpaths.of_sameSettings (connect_sameSettings hc)
    have hkeep : KeepPaths g rest (applyAt u it.address x) :=
      hkeepu.tail.of_sameSettings (applyAt_sameSettings u it.address x)
    have hnext : ∀ y ∈ rest, y.isPrimary = false →
        SyncedAt g life m (applyAt u it.address x) y :=
      fun y hy hyp => (hu y (hin hy) hyp).appliedBefore hports (hkeepu it List.mem_cons_self) hy
    obtain ⟨hok, hrest⟩ := ih (List.nodup_cons.mp hports).2 hkeep hrestout
      (fun y hy => hdead y (hin hy)) hnext
    refine ⟨fun hlive => hok (fun y hy => hlive y (hin hy)), ?_⟩
    intro y hy hyp
    cases List.mem_cons.mp hy with
    | inl heq =>
      subst heq
      left
      apply ((hu y List.mem_cons_self hp).applied hup hx).congr
      · exact hf.server_eq (fun z hz _ => address_ne_of_nodup hports hz)
      · exact hf.sameFiles hkeep hne
    | inr hy => exact hrest y hy hyp

/-- The first secondary on the list is taken for alive and does not run, so that no other
hears of a write. -/
def RefusedFirst (life : Address → Life) (list : List ServerInfo) : Prop :=
  ∃ it ∈ (list.filter (fun it => it.isPrimary = false)).head?,
    it.isDead = false ∧ (life it.address).isUp = false

/-- Such a write is refused and leaves no trace. -/
theorem Forwards.refusedFirst (h : Forwards g x list w ok w') (hr : RefusedFirst life list)
    (hout : w.outcomes = connections life list) :
    ok = false ∧ w'.server = w.server ∧ w'.disk = w.disk := by
  have hhead : ∀ {it : ServerInfo} {rest : List ServerInfo}, it.isPrimary = false →
      RefusedFirst life (it :: rest) → it.isDead = false ∧ (life it.address).isUp = false := by
    rintro it rest hp ⟨y, hy, hrefused⟩
    rw [List.filter_cons_of_pos (by simpa using hp)] at hy
    obtain rfl := Option.some.inj hy
    exact hrefused
  have hup : ∀ {it : ServerInfo} {rest : List ServerInfo} {u u' : World},
      it.isPrimary = false → it.isDead = false → RefusedFirst life (it :: rest) →
      u.outcomes = connections life (it :: rest) → u.connect = (.connected, u') → False := by
    intro it rest u u' hp hd hr hout hc
    rw [connections_cons_live hp hd, (hhead hp hr).2] at hout
    rw [connect_of_cons hout] at hc
    exact absurd (Prod.mk.inj hc).1 (by decide)
  induction h with
  | done =>
    obtain ⟨it, hit, -⟩ := hr
    simp at hit
  | @primary it rest w w' ok hp hf ih =>
    rw [connections_cons_skip (Or.inl hp)] at hout
    apply ih _ hout
    obtain ⟨y, hy, hrefused⟩ := hr
    rw [List.filter_cons_of_neg (by simp [hp])] at hy
    exact ⟨y, hy, hrefused⟩
  | dead hp hd _ _ =>
    have hlive := (hhead hp hr).1
    rw [hd] at hlive
    exact absurd hlive (by decide)
  | noSocket hp hd hc =>
    rw [connections_cons_live hp hd, (hhead hp hr).2] at hout
    rw [connect_of_cons hout] at hc
    exact absurd (Prod.mk.inj hc).1 (by decide)
  | refused _ _ hc => exact ⟨rfl, connect_server hc⟩
  | disabled hp hd hc _ => exact (hup hp hd hr hout hc).elim
  | rejected hp hd hc _ _ => exact (hup hp hd hr hout hc).elim
  | taken hp hd hc _ _ _ _ => exact (hup hp hd hr hout hc).elim

end Loop

end CloudStorage.Proofs
