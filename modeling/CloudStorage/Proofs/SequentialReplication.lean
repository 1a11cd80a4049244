import CloudStorage.Lib.Runs
import CloudStorage.Proofs.AcknowledgedWrite

/-!
# One command at a time

While every connection works and commands are handled one after another, the tables of a
group keep the same cells, except after two kinds of command: a conditional write that
fails at a cell that is not there, and a write at a secondary that claims to come from the
primary.
-/

namespace CloudStorage.Proofs
open DelimitedText Registers

/-- A group whose primary `p` has every secondary marked live, with connections that never
fail. -/
structure AllLive (p : Address) (w : World) : Prop where
  leads : Leads w p
  enabled : (w.server p).enabled = true
  live : ∀ it ∈ (w.server p).serverList, it.isPrimary = false → it.isDead = false
  follows : ∀ it ∈ (w.server p).serverList, it.isPrimary = false → Follows w p it.address
  up : ∀ it ∈ (w.server p).serverList, it.isPrimary = false →
    (w.server it.address).enabled = true
  connections : w.outcomes = []

/-- All tables of the group have the same cells. -/
structure InSync (p : Address) (w : World) : Prop extends AllLive p w where
  cells : ∀ it ∈ (w.server p).serverList, it.isPrimary = false →
    cellsOf (w.server it.address).table = cellsOf (w.server p).table

/-- A command that a client sends on a connection that last answered `msg`. -/
structure ClientRequest where
  server : Address
  msg : Str
  command : Str

/-- The group with primary `p` when each request is completed before the next one. -/
def sequential (p : Address) : System World ClientRequest where
  init := InSync p
  next w r :=
    if r.server ∈ replicas w p ∧ NoCrlf r.command then
      (serveCommand 3 r.server r.msg r.command w).map Prod.fst
    else none

/-- A conditional write compares with an empty value or finds its cell. -/
def FindsCell (t : Table) : Write → Prop
  | .cput row col currentValue _ => currentValue ≠ [] → (t.get row col).isSome
  | _ => True

/-- The condition under which a request keeps the group in step: a write that the primary
handles finds its cell, and a write that a secondary takes for the primary's changes no cell. -/
def KeepsSync (p : Address) (w : World) (r : ClientRequest) : Prop :=
  ∀ x extra, splitKVStoreCommand r.command = Write.word x :: (x.fields ++ extra) →
    if r.server = p ∨ classify (splitKVStoreCommand r.command) = .frontend then
      FindsCell (w.server p).table x
    else classify (splitKVStoreCommand r.command) = .primary →
      cellsOf (x.run (w.server r.server).table).1 = cellsOf (w.server r.server).table

/-- A write that finds its cell and fails has one. -/
lemma FindsCell.isSome_of_failed {t : Table} {x : Write} (h : FindsCell t x)
    (hrun : (x.run t).2 = false) : (cellsOf t (opOf x).key).isSome := by
  have hno : ¬(opOf x).Succeeds [] (cellsOf t (opOf x).key) := by
    rw [← run_ok_iff, hrun]
    decide
  cases x with
  | put row col value => exact absurd trivial hno
  | cput row col cur new =>
    by_cases hcur : cur = []
    · -- an absent cell equals the empty value
      rw [Option.isSome_iff_ne_none]
      intro hnone
      apply hno
      rw [hnone, hcur]
      rfl
    · exact h hcur
  | delete row col => exact absurd trivial hno

/-- A write that finds its cell succeeds or changes nothing. -/
lemma FindsCell.succeeds_or_unchanged {t : Table} {x : Write} (h : FindsCell t x) :
    (x.run t).2 = true ∨ cellsOf (x.run t).1 = cellsOf t := by
  cases hrun : (x.run t).2 with
  | true => exact Or.inl rfl
  | false =>
    right
    obtain ⟨v, hv⟩ := Option.isSome_iff_exists.mp (h.isSome_of_failed hrun)
    rw [cellsOf_run_of_failed hrun, valuesOf, hv, Option.getD_some, ← hv, Function.update_eq_self]

/-! ### The loop keeps the cells equal -/

variable {g : Int} {x : Write} {list : List ServerInfo} {w w' : World} {ok : Bool}
  {p a : Address}

lemma connect_of_nil (h : w.outcomes = []) : w.connect = (.connected, w) := by
  unfold World.connect
  rw [h]

lemma Forwards.outcomes (h : Forwards g x list w ok w') (ho : w.outcomes = []) :
    w'.outcomes = [] := by
  have hkeep : ∀ {u v : World} {o : Outcome}, u.outcomes = [] → u.connect = (o, v) →
      v.outcomes = [] := by
    intro u v o hu hc
    rw [(connect_headD hc).2, hu]
    rfl
  induction h with
  | done => exact ho
  | primary _ _ ih => exact ih ho
  | dead _ _ _ ih => exact ih ho
  | noSocket _ _ hc => exact hkeep ho hc
  | refused _ _ hc => exact hkeep ho hc
  | disabled _ _ hc _ => exact hkeep ho hc
  | @rejected it rest w u _ _ hc _ _ =>
    have hu : u.outcomes = [] := hkeep ho hc
    exact hu
  | @taken it rest w u w' ok _ _ hc _ _ _ ih =>
    have hu : u.outcomes = [] := hkeep ho hc
    exact ih hu

lemma run_ok_congr {t t' : Table} (h : cellsOf t = cellsOf t') : (x.run t).2 = (x.run t').2 := by
  rw [Bool.eq_iff_iff, run_ok_iff, run_ok_iff, h]

lemma cellsOf_run_congr {t t' : Table} (h : cellsOf t = cellsOf t') :
    cellsOf (x.run t).1 = cellsOf (x.run t').1 := by
  rw [cellsOf_run, cellsOf_run, h]

/-- Servers that all hold the cells of `t` and take the write end up with those of the
result, whether it succeeds at all of them or changes nothing. -/
theorem Forwards.cells {t : Table} (h : Forwards g x list w ok w')
    (ht : (x.run t).2 = true ∨ cellsOf (x.run t).1 = cellsOf t)
    (hports : (list.map ServerInfo.tcpPort).Nodup) (ho : w.outcomes = [])
    (hlive : ∀ it ∈ list, it.isPrimary = false → it.isDead = false)
    (hup : ∀ it ∈ list, it.isPrimary = false → (w.server it.address).enabled = true)
    (hcells : ∀ it ∈ list, it.isPrimary = false →
      cellsOf (w.server it.address).table = cellsOf t) :
    (ok = false → cellsOf (x.run t).1 = cellsOf t) ∧
    ∀ it ∈ list, it.isPrimary = false →
      cellsOf (w'.server it.address).table = cellsOf (x.run t).1 := by
  induction h with
  | done => exact ⟨fun hok => absurd hok (by decide), fun it hit => absurd hit List.not_mem_nil⟩
  | @primary it rest w w' ok hp hf ih =>
    have hin : ∀ {y}, y ∈ rest → y ∈ it :: rest := List.mem_cons_of_mem it
    obtain ⟨hok, hrest⟩ := ih (List.nodup_cons.mp hports).2 ho (fun y hy => hlive y (hin hy))
      (fun y hy => hup y (hin hy)) (fun y hy => hcells y (hin hy))
    refine ⟨hok, ?_⟩
    intro y hy hyp
    rcases List.mem_cons.mp hy with rfl | hy
    · exact absurd hp (by simp [hyp])
    · exact hrest y hy hyp
  | dead hp hd _ _ => exact absurd (hlive _ List.mem_cons_self hp) (by simp [hd])
  | noSocket hp hd hc => exact absurd (connect_of_nil ho ▸ hc) (by simp)
  | refused hp hd hc => exact absurd (connect_of_nil ho ▸ hc) (by simp)
  | disabled hp hd hc hen =>
    rw [(connect_server hc).1] at hen
    exact absurd (hup _ List.mem_cons_self hp) (by simp [hen])
  | @rejected it rest w u hp hd hc hen hrun =>
    rw [(connect_server hc).1] at hrun
    have hfail : (x.run t).2 = false := by
      rw [← run_ok_congr (hcells it List.mem_cons_self hp)]
      exact hrun
    have hsame := ht.resolve_left (by simp [hfail])
    refine ⟨fun _ => hsame, ?_⟩
    intro y hy hyp
    rcases List.mem_cons.mp hy with rfl | hy
    · rw [applyAt_table, (connect_server hc).1]
      exact cellsOf_run_congr (hcells y List.mem_cons_self hp)
    · rw [applyAt_server_of_ne u (address_ne_of_nodup hports hy), (connect_server hc).1, hsame]
      exact hcells y (List.mem_cons_of_mem it hy) hyp
  | @taken it rest w u w' ok hp hd hc hen hrun hf ih =>
    have hserver : ∀ y ∈ rest, (applyAt u it.address x).server y.address = w.server y.address := by
      intro y hy
      rw [applyAt_server_of_ne u (address_ne_of_nodup hports hy), (connect_server hc).1]
    have hout : (applyAt u it.address x).outcomes = [] := by
      have hu := (connect_headD hc).2
      rw [ho] at hu
      exact hu
    obtain ⟨hok, hrest⟩ := ih (List.nodup_cons.mp hports).2 hout
      (fun y hy => hlive y (List.mem_cons_of_mem it hy))
      (fun y hy hyp => by rw [hserver y hy]; exact hup y (List.mem_cons_of_mem it hy) hyp)
      (fun y hy hyp => by rw [hserver y hy]; exact hcells y (List.mem_cons_of_mem it hy) hyp)
    refine ⟨hok, ?_⟩
    intro y hy hyp
    rcases List.mem_cons.mp hy with rfl | hy
    · rw [hf.server_eq (fun z hz _ => address_ne_of_nodup hports hz), applyAt_table,
        (connect_server hc).1]
      exact cellsOf_run_congr (hcells y List.mem_cons_self hp)
    · exact hrest y hy hyp

/-! ### One request -/

lemma AllLive.of_sameSettings (h : AllLive p w) (hs : SameSettings w w')
    (ho : w'.outcomes = []) : AllLive p w' := by
  have hlist := settings_serverList (hs p)
  refine ⟨h.leads.of_sameSettings hs, ?_, ?_, ?_, ?_, ho⟩
  · rw [settings_enabled (hs p)]
    exact h.enabled
  · rw [hlist]
    exact h.live
  · rw [hlist]
    exact fun it hit hp => (h.follows it hit hp).of_sameSettings hs
  · rw [hlist]
    intro it hit hp
    rw [settings_enabled (hs it.address)]
    exact h.up it hit hp

lemma InSync.of_sameSettings (h : AllLive p w) (hs : SameSettings w w') (ho : w'.outcomes = [])
    (hcells : ∀ it ∈ (w.server p).serverList, it.isPrimary = false →
      cellsOf (w'.server it.address).table = cellsOf (w'.server p).table) : InSync p w' := by
  refine ⟨h.of_sameSettings hs ho, ?_⟩
  rw [settings_serverList (hs p)]
  exact hcells

/-- A server that was sent nothing to carry out may still make a checkpoint. -/
lemma InSync.settle (h : InSync p w) (a : Address) : InSync p (w.settle a (w.node a)) := by
  have htable : ∀ b, ((w.settle a (w.node a)).server b).table = (w.server b).table := by
    intro b
    by_cases hb : b = a
    · subst hb
      exact settle_table w b (w.node b)
    · rw [settle_server_of_ne w hb]
  refine InSync.of_sameSettings h.toAllLive (settle_sameSettings rfl) h.connections ?_
  intro it hit hp
  rw [htable, htable]
  exact h.cells it hit hp

/-- A write whose loop ran through the group leaves the same cells everywhere. -/
lemma InSync.afterForward (h : InSync p w) (hx : FindsCell (w.server p).table x)
    (hf : Forwards (w.server p).replicaGroup x (w.server p).serverList w ok w') :
    InSync p (afterForward p x ok w').1 := by
  have hs := hf.sameSettings
  have ho := hf.outcomes h.connections
  have hp : w'.server p = w.server p := hf.server_eq h.leads.own
  obtain ⟨hok, hcells⟩ := hf.cells hx.succeeds_or_unchanged h.leads.ports h.connections h.live
    h.up h.cells
  unfold Proofs.afterForward
  cases ok with
  | true =>
    refine InSync.of_sameSettings h.toAllLive (hs.trans (applyAt_sameSettings w' p x)) ho ?_
    intro it hit hit'
    rw [if_pos rfl, applyAt_table, applyAt_server_of_ne w' (h.leads.own it hit hit'), hp]
    exact hcells it hit hit'
  | false =>
    have hsame := hok rfl
    have hsync : InSync p w' := by
      refine InSync.of_sameSettings h.toAllLive hs ho ?_
      intro it hit hit'
      rw [hcells it hit hit', hp, hsame]
    exact hsync.settle p

lemma InSync.follows_of_mem (h : InSync p w) (ha : a ∈ replicas w p) (hne : a ≠ p) :
    Follows w p a := by
  obtain ⟨it, hit, hlive, rfl⟩ := (mem_replicas.mp ha).resolve_left hne
  exact h.follows it hit hlive.1

/-- A request that meets the condition is completed with the group still in step. -/
theorem InSync.step (h : InSync p w) {r : ClientRequest} (hr : KeepsSync p w r)
    (hnext : (sequential p).next w r = some w') : InSync p w' := by
  obtain ⟨a, msg, command⟩ := r
  have hmem : a ∈ replicas w p ∧ NoCrlf command := by
    by_contra hno
    simp [sequential, hno] at hnext
  obtain ⟨ha, hc⟩ := hmem
  have hmap : (serveCommand 3 a msg command w).map Prod.fst = some w' := by
    simpa [sequential, ha, hc] using hnext
  obtain ⟨⟨v, reply⟩, hserve, hv⟩ := Option.map_eq_some_iff.mp hmap
  have hv : v = w' := hv
  subst hv
  by_cases hx : ∃ x extra, splitKVStoreCommand command = Write.word x :: (x.fields ++ extra)
  · obtain ⟨x, extra, hx⟩ := hx
    have hcond := hr x extra hx
    by_cases hap : a = p
    · -- at the primary
      subst hap
      rw [if_pos (Or.inl rfl)] at hcond
      obtain ⟨ok, u, hf, hs⟩ := serveCommand_primary h.leads hc hx 1 msg
      rw [hs] at hserve
      have hfst : (Proofs.afterForward a x ok u).1 = v :=
        congrArg Prod.fst (Option.some.inj hserve)
      exact hfst ▸ h.afterForward hcond hf
    · have hfollows := h.follows_of_mem ha hap
      cases ho : classify (splitKVStoreCommand command) with
      | frontend =>
        -- through the primary
        rw [if_pos (Or.inr ho)] at hcond
        rw [serveCommand_frontend hfollows hx ho, forwardToPrimary,
          connect_of_nil h.connections] at hserve
        obtain ⟨ok, u, hf, hcall⟩ := call_primary h.leads (commaFree_of_split hx)
          (noCrlf_line hc hx) h.enabled 0
        simp only [hcall, Option.map_some, Option.some.injEq, Prod.mk.injEq] at hserve
        exact hserve.1 ▸ (h.afterForward hcond hf).settle a
      | primary =>
        -- on its own table
        rw [if_neg (by simp [hap, ho])] at hcond
        rw [serveCommand_tagged_primary hfollows hx ho] at hserve
        simp only [Option.some.injEq, Prod.mk.injEq] at hserve
        have hsame := hcond ho
        have htable : ∀ b, cellsOf ((applyAt w a x).server b).table =
            cellsOf (w.server b).table := by
          intro b
          by_cases hb : b = a
          · subst hb
            rw [applyAt_table, hsame]
          · rw [applyAt_server_of_ne w hb]
        rw [← hserve.1]
        refine InSync.of_sameSettings h.toAllLive (applyAt_sameSettings w a x) h.connections ?_
        intro it hit hp
        rw [htable, htable]
        exact h.cells it hit hp
      | secondary =>
        rw [serveCommand_tagged_secondary hfollows hx ho] at hserve
        simp only [Option.some.injEq, Prod.mk.injEq] at hserve
        exact hserve.1 ▸ h.settle a
  · have hother := serveCommand_other (fun x extra he => hx ⟨x, extra, he⟩) hserve
    exact hother ▸ h.settle a

/-! ### Runs -/

/-- The answer to a GET request, whoever it is sent to. -/
lemma serveCommand_get {request : Str}
    (hg : (splitKVStoreCommand request).head? = some "GET ".toList) (depth : Nat) (msg : Str)
    (w : World) (a : Address) :
    (serveCommand (depth + 1) a msg request w).map Prod.snd =
      some (getReply (w.server a).table (splitKVStoreCommand request).tail) := by
  obtain ⟨word, args, hs⟩ := List.exists_cons_of_ne_nil
    (show splitKVStoreCommand request ≠ [] from List.cons_ne_nil _ _)
  rw [hs, List.head?_cons, Option.some.injEq] at hg
  subst hg
  unfold serveCommand
  dsimp only
  rw [hs]
  rfl

lemma InSync.cellsOf_eq (h : InSync p w) (ha : a ∈ replicas w p) :
    cellsOf (w.server a).table = cellsOf (w.server p).table := by
  rcases mem_replicas.mp ha with rfl | ⟨it, hit, hlive, rfl⟩
  · rfl
  · exact h.cells it hit hlive.1

theorem sequential_inSync (h : (sequential p).Reachable (KeepsSync p) w) : InSync p w :=
  h.invariant (fun _ hinit => hinit) (fun _ _ _ hs hok hnext => InSync.step hs hok hnext)

/-- In every run whose requests meet the condition, all replicas give the same answer to
every GET request. -/
theorem sequential_replicas_agree (h : (sequential p).Reachable (KeepsSync p) w) {b : Address}
    (ha : a ∈ replicas w p) (hb : b ∈ replicas w p) {request : Str}
    (hg : (splitKVStoreCommand request).head? = some "GET ".toList) (msg msg' : Str) :
    ∃ reply, (serveCommand 3 a msg request w).map Prod.snd = some reply ∧
      (serveCommand 3 b msg' request w).map Prod.snd = some reply := by
  have hsync := sequential_inSync h
  have hcells := (hsync.cellsOf_eq ha).trans (hsync.cellsOf_eq hb).symm
  refine ⟨_, serveCommand_get hg 2 msg w a, ?_⟩
  rw [serveCommand_get hg, getReply_congr hcells]

lemma group1_inSync (t : Table) : InSync (group1Address 2001) (group1 (fun _ => t) []) where
  leads := group1_leads _ _
  enabled := rfl
  live := by
    intro it hit _
    have hmem : it = group1Info 2001 ∨ it = group1Info 2002 ∨ it = group1Info 2003 := by
      simpa [Server.serverList, group1] using hit
    rcases hmem with rfl | rfl | rfl <;> rfl
  follows := by
    intro it hit hp
    have hmem : it = group1Info 2001 ∨ it = group1Info 2002 ∨ it = group1Info 2003 := by
      simpa [Server.serverList, group1] using hit
    rcases hmem with rfl | rfl | rfl
    · exact absurd hp (by decide)
    · exact group1_follows _ _ (by decide)
    · exact group1_follows _ _ (by decide)
  up := fun _ _ _ => rfl
  cells := fun _ _ _ => rfl
  connections := rfl

/-- A write that a client sends to a secondary. -/
def putAtSecondary : ClientRequest where
  server := group1Address 2002
  msg := []
  command := "PUT r,c,v".toList

lemma keepsSync_putAtSecondary (w : World) :
    KeepsSync (group1Address 2001) w putAtSecondary := by
  intro x extra hx
  have hs :
      splitKVStoreCommand putAtSecondary.command = "PUT ".toList :: [['r'], ['c'], ['v']] := by
    decide
  have hword : "PUT ".toList = x.word := (List.cons.inj (hs.symm.trans hx)).1
  rw [if_pos (Or.inr (by decide))]
  cases x with
  | put row col value => trivial
  | cput row col cur new => exact absurd hword (by decide : "PUT ".toList ≠ "CPUT ".toList)
  | delete row col => trivial

theorem sequential_replicas_agree_put : ∃ w',
    (sequential (group1Address 2001)).next (group1 (fun _ => ∅) []) putAtSecondary = some w' ∧
      ∃ reply, (serveCommand 3 (group1Address 2001) [] "GET r,c".toList w').map Prod.snd =
          some reply ∧
        (serveCommand 3 (group1Address 2003) [] "GET r,c".toList w').map Prod.snd =
          some reply := by
  have hrun : ((sequential (group1Address 2001)).next (group1 (fun _ => ∅) [])
      putAtSecondary).map (fun w' => decide (group1Address 2001 ∈ replicas w' (group1Address 2001) ∧
        group1Address 2003 ∈ replicas w' (group1Address 2001))) = some true := by
    decide +kernel
  obtain ⟨w', hnext, hmem⟩ := Option.map_eq_some_iff.mp hrun
  obtain ⟨ha, hb⟩ := of_decide_eq_true hmem
  have hreach : (sequential (group1Address 2001)).Reachable (KeepsSync (group1Address 2001)) w' :=
    .step (.init (group1_inSync ∅)) (keepsSync_putAtSecondary _) hnext
  exact ⟨w', hnext, sequential_replicas_agree hreach ha hb (by decide) [] []⟩

/-- A conditional write at a cell that is not there. -/
def cputAbsent : ClientRequest where
  server := group1Address 2001
  msg := []
  command := "CPUT r,c,x,y".toList

/-- It fails, and leaves an empty cell at the first secondary only. -/
theorem sequential_cput_disagrees : ∃ w',
    (sequential (group1Address 2001)).exec (group1 (fun _ => ∅) []) [cputAbsent] = some w' ∧
      InSync (group1Address 2001) (group1 (fun _ => ∅) []) ∧
      (serveCommand 3 (group1Address 2001) [] "GET r,c".toList w').map Prod.snd =
        some "-ERR Not Found\r\n".toList ∧
      (serveCommand 3 (group1Address 2002) [] "GET r,c".toList w').map Prod.snd =
        some "+OK \r\n".toList := by
  have hrun : ((sequential (group1Address 2001)).exec (group1 (fun _ => ∅) []) [cputAbsent]).map
      (fun w' => ((serveCommand 3 (group1Address 2001) [] "GET r,c".toList w').map Prod.snd,
        (serveCommand 3 (group1Address 2002) [] "GET r,c".toList w').map Prod.snd)) =
      some (some "-ERR Not Found\r\n".toList, some "+OK \r\n".toList) := by
    decide +kernel
  obtain ⟨w', hexec, hreplies⟩ := Option.map_eq_some_iff.mp hrun
  obtain ⟨hp, hs⟩ := Prod.mk.inj hreplies
  exact ⟨w', hexec, group1_inSync ∅, hp, hs⟩

end CloudStorage.Proofs
