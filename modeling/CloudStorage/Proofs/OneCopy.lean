import CloudStorage.Connection
import CloudStorage.Lib.Simulation
import CloudStorage.Proofs.SequentialReplication
import CloudStorage.Proofs.StorageService

/-!
# A group behaves as one server

While every connection works and requests are completed one after another, clients of a
replica group, whichever replica they write to and read from, get the replies that one
server with one table would give. Only the text of a refusal tells the two apart.
-/

namespace CloudStorage.Proofs
open DelimitedText Registers

/-- The replica group, whose members call each other at most `depth + 3` deep. -/
def replicaGroup (depth : Nat) : Machine ClientRequest Str World := fun r w =>
  (serveCommand (depth + 3) r.server r.msg r.command w).map Prod.swap

/-- One table that answers all requests itself. -/
def oneServer : Machine ClientRequest Str Table := fun r t =>
  answerTo (splitKVStoreCommand r.command) t

/-- The group with primary `p` and the given members, each with the table `t`. -/
structure HoldsTable (p : Address) (members : List Address) (w : World) (t : Table) : Prop
    extends AllLive p w where
  same : replicas w p = members
  table : ∀ a ∈ members, (w.server a).table = t

/-- A request to a member of the group: one command, and if it is a write, then one that
finds its cell, that a secondary does not take for the primary's or another secondary's, and
that fits into one buffer when it is sent on. -/
structure Admitted (p : Address) (members : List Address) (r : ClientRequest) (t : Table) :
    Prop where
  member : r.server ∈ members
  line : NoCrlf r.command
  origin : ∀ x, writeOf (splitKVStoreCommand r.command) = some x →
    r.server = p ∨ classify (splitKVStoreCommand r.command) = .frontend
  cell : ∀ x, writeOf (splitKVStoreCommand r.command) = some x → FindsCell t x
  fits : ∀ x, writeOf (splitKVStoreCommand r.command) = some x →
    (x.tempCommand "SECONDARY".toList).length ≤ BUFFER_SIZE

/-- The replies are the same, or the group words its refusal of a conditional write in its
own way. -/
def SameReply (reply single : Str) : Prop :=
  reply = single ∨ single = conditionalErr ∧ "-ERR".toList <+: reply

/-! ### The loop keeps the tables equal -/

variable {g : Int} {x : Write} {list : List ServerInfo} {w w' : World} {ok : Bool} {t : Table}
  {p a : Address} {members : List Address}

/-- A write that finds its cell and fails leaves the table as it is. -/
lemma FindsCell.run_of_failed (h : FindsCell t x) (hrun : (x.run t).2 = false) :
    (x.run t).1 = t := by
  obtain ⟨v, hv⟩ := Option.isSome_iff_exists.mp (h.isSome_of_failed hrun)
  cases x with
  | put row col value => exact absurd hrun (by simp [Write.run])
  | delete row col => exact absurd hrun (by simp [Write.run])
  | cput row col cur new =>
    have htouch : t.touch row col [] = t := by
      have hget : t.get row col = some v := hv
      rw [NestedMap.touch, hget]
    simp only [Write.run, htouch] at hrun ⊢
    split at hrun
    · exact absurd hrun (by simp)
    · next hne => rw [if_neg hne]

/-- Servers that all hold `t` and are asked for the write end up with its result, and the
loop fails only if the write does. -/
theorem Forwards.tables (h : Forwards g x list w ok w') (hx : FindsCell t x)
    (hports : (list.map ServerInfo.tcpPort).Nodup) (ho : w.outcomes = [])
    (hlive : ∀ it ∈ list, it.isPrimary = false → it.isDead = false)
    (hup : ∀ it ∈ list, it.isPrimary = false → (w.server it.address).enabled = true)
    (ht : ∀ it ∈ list, it.isPrimary = false → (w.server it.address).table = t) :
    (ok = false → (x.run t).2 = false) ∧
    ∀ it ∈ list, it.isPrimary = false → (w'.server it.address).table = (x.run t).1 := by
  induction h with
  | done => exact ⟨fun hok => absurd hok (by decide), fun it hit => absurd hit List.not_mem_nil⟩
  | @primary it rest w w' ok hp hf ih =>
    have hin : ∀ {y}, y ∈ rest → y ∈ it :: rest := List.mem_cons_of_mem it
    obtain ⟨hok, hrest⟩ := ih (List.nodup_cons.mp hports).2 ho (fun y hy => hlive y (hin hy))
      (fun y hy => hup y (hin hy)) (fun y hy => ht y (hin hy))
    refine ⟨hok, ?_⟩
    intro y hy hyp
    rcases List.mem_cons.mp hy with rfl | hy
    · exact absurd hp (by simp [hyp])
    · exact hrest y hy hyp
  | dead hp hd _ _ => exact absurd (hlive _ List.mem_cons_self hp) (by simp [hd])
  | noSocket hp hd hc => exact absurd (connect_of_nil ho ▸ hc) (by simp)
  | refused hp hd hc => exact absurd (connect_of_nil ho ▸ hc) (by simp)
  | disabled hp hd hc hen =>
    rw [(connect_server hc).1] at hen
    exact absurd (hup _ List.mem_cons_self hp) (by simp [hen])
  | @rejected it rest w u hp hd hc hen hrun =>
    rw [(connect_server hc).1, ht it List.mem_cons_self hp] at hrun
    have hsame : (x.run t).1 = t := hx.run_of_failed hrun
    refine ⟨fun _ => hrun, ?_⟩
    intro y hy hyp
    rcases List.mem_cons.mp hy with rfl | hy
    · rw [applyAt_table, (connect_server hc).1, ht y List.mem_cons_self hp]
    · rw [applyAt_server_of_ne u (address_ne_of_nodup hports hy), (connect_server hc).1, hsame]
      exact ht y (List.mem_cons_of_mem it hy) hyp
  | @taken it rest w u w' ok hp hd hc hen hrun hf ih =>
    have hserver : ∀ y ∈ rest, (applyAt u it.address x).server y.address = w.server y.address := by
      intro y hy
      rw [applyAt_server_of_ne u (address_ne_of_nodup hports hy), (connect_server hc).1]
    have hout : (applyAt u it.address x).outcomes = [] := by
      have hu := (connect_headD hc).2
      rw [ho] at hu
      exact hu
    obtain ⟨hok, hrest⟩ := ih (List.nodup_cons.mp hports).2 hout
      (fun y hy => hlive y (List.mem_cons_of_mem it hy))
      (fun y hy hyp => by rw [hserver y hy]; exact hup y (List.mem_cons_of_mem it hy) hyp)
      (fun y hy hyp => by rw [hserver y hy]; exact ht y (List.mem_cons_of_mem it hy) hyp)
    refine ⟨hok, ?_⟩
    intro y hy hyp
    rcases List.mem_cons.mp hy with rfl | hy
    · rw [hf.server_eq (fun z hz _ => address_ne_of_nodup hports hz), applyAt_table,
        (connect_server hc).1, ht y List.mem_cons_self hp]
    · exact hrest y hy hyp

/-! ### One request -/

lemma replicas_of_sameSettings (hs : SameSettings w w') : replicas w' p = replicas w p := by
  unfold replicas
  rw [settings_serverList (hs p)]

lemma HoldsTable.of_sameSettings (h : HoldsTable p members w t) {t' : Table}
    (hs : SameSettings w w') (ho : w'.outcomes = [])
    (ht : ∀ a ∈ members, (w'.server a).table = t') : HoldsTable p members w' t' where
  toAllLive := h.toAllLive.of_sameSettings hs ho
  same := (replicas_of_sameSettings hs).trans h.same
  table := ht

lemma settle_own_table (w : World) (a b : Address) :
    ((w.settle a (w.node a)).server b).table = (w.server b).table := by
  by_cases hb : b = a
  · subst hb
    exact settle_table w b (w.node b)
  · rw [settle_server_of_ne w hb]

/-- A server that carried nothing out may still make a checkpoint. -/
lemma HoldsTable.settle (h : HoldsTable p members w t) (a : Address) :
    HoldsTable p members (w.settle a (w.node a)) t := by
  refine h.of_sameSettings (settle_sameSettings rfl) h.connections ?_
  intro b hb
  rw [settle_own_table]
  exact h.table b hb

lemma HoldsTable.primary_mem (h : HoldsTable p members w t) : p ∈ members :=
  h.same ▸ List.mem_cons_self

lemma HoldsTable.mem_iff (h : HoldsTable p members w t) :
    a ∈ members ↔ a = p ∨
      ∃ it ∈ (w.server p).serverList, it.isPrimary = false ∧ it.address = a := by
  rw [← h.same, mem_replicas]
  constructor
  · rintro (rfl | ⟨it, hit, hlive, rfl⟩)
    · exact Or.inl rfl
    · exact Or.inr ⟨it, hit, hlive.1, rfl⟩
  · rintro (rfl | ⟨it, hit, hp, rfl⟩)
    · exact Or.inl rfl
    · exact Or.inr ⟨it, hit, ⟨hp, h.live it hit hp⟩, rfl⟩

lemma secondaryErr_refuses (x : Write) : "-ERR".toList <+: x.secondaryErr := by
  cases x
  · exact (by decide : "-ERR".toList <+: "-ERR Writing PUT values to secondary\r\n".toList)
  · exact (by decide : "-ERR".toList <+: "-ERR Writing CPUT values to secondary\r\n".toList)
  · exact (by decide : "-ERR".toList <+: "-ERR DELETING values from all secondary\r\n".toList)

lemma primaryErr_refuses (x : Write) : "-ERR".toList <+: x.primaryErr := by
  cases x
  · exact (by decide : "-ERR".toList <+:
      "-ERR Returned by Server while writing PUT Values\r\n".toList)
  · exact (by decide : "-ERR".toList <+: "-ERR Error Editing the values\r\n".toList)
  · exact (by decide : "-ERR".toList <+: "-ERR Error Deleting Values\r\n".toList)

/-- A write whose loop ran through the group leaves its result at every member, and is
answered as the table answers it. -/
lemma HoldsTable.afterForward (h : HoldsTable p members w t) (hx : FindsCell t x)
    (hf : Forwards (w.server p).replicaGroup x (w.server p).serverList w ok w') :
    HoldsTable p members (afterForward p x ok w').1 (x.run t).1 ∧
      SameReply (afterForward p x ok w').2 (writeReply x t) := by
  have hs := hf.sameSettings
  have ho := hf.outcomes h.connections
  have hp : (w'.server p).table = t := by
    rw [hf.server_eq h.leads.own]
    exact h.table p h.primary_mem
  obtain ⟨hok, hrest⟩ := hf.tables hx h.leads.ports h.connections h.live h.up
    (fun it hit hp => h.table _ (h.mem_iff.mpr (Or.inr ⟨it, hit, hp, rfl⟩)))
  unfold Proofs.afterForward
  cases ok with
  | true =>
    rw [if_pos rfl]
    constructor
    · refine h.of_sameSettings (hs.trans (applyAt_sameSettings w' p x)) ho ?_
      intro a ha
      rcases h.mem_iff.mp ha with rfl | ⟨it, hit, hit', rfl⟩
      · rw [applyAt_table, hp]
      · rw [applyAt_server_of_ne w' (h.leads.own it hit hit')]
        exact hrest it hit hit'
    · left
      dsimp only
      rw [hp]
  | false =>
    have hfail := hok rfl
    have hsame : (x.run t).1 = t := hx.run_of_failed hfail
    rw [if_neg (by decide)]
    constructor
    · have hkeeps : HoldsTable p members w' (x.run t).1 := by
        refine h.of_sameSettings hs ho ?_
        intro a ha
        rcases h.mem_iff.mp ha with rfl | ⟨it, hit, hit', rfl⟩
        · rw [hp, hsame]
        · exact hrest it hit hit'
      exact hkeeps.settle p
    · right
      rw [writeReply, hfail]
      exact ⟨rfl, secondaryErr_refuses x⟩

lemma Acknowledged.not_refused {reply : Str} (h : Acknowledged reply) :
    ¬"-ERR".toList <+: reply := by
  obtain ⟨u, rfl⟩ := h
  intro herr
  obtain ⟨v, hv⟩ := herr
  have hhead : some '-' = some '+' := congrArg List.head? hv
  exact absurd hhead (by decide)

/-- The reply that a secondary gives when the primary replied `reply`. -/
lemma SameReply.relay (x : Write) {reply : Str} (h : SameReply reply (writeReply x t))
    (hack : contains "+OK".toList reply = true ↔ Acknowledged reply) :
    SameReply (if contains "+OK".toList reply then okMsg else x.primaryErr) (writeReply x t) := by
  cases hc : contains "+OK".toList reply with
  | true =>
    rw [if_pos rfl]
    left
    rcases h with h | ⟨-, herr⟩
    · rw [h, contains_writeReply] at hc
      rw [writeReply, hc, if_pos rfl]
    · exact absurd herr (hack.mp hc).not_refused
  | false =>
    rw [if_neg (by decide)]
    right
    refine ⟨?_, primaryErr_refuses x⟩
    rcases h with h | ⟨h, -⟩
    · rw [h, contains_writeReply] at hc
      rw [writeReply, hc, if_neg (by decide)]
    · exact h

/-- A command that asks for no write is answered from the server's own table. -/
lemma serveCommand_read {command : Str} (hx : writeOf (splitKVStoreCommand command) = none)
    (depth : Nat) (msg : Str) (w : World) (a : Address) :
    serveCommand (depth + 1) a msg command w =
      (readReply (splitKVStoreCommand command) (w.server a).table).map
        (fun reply => (w.settle a (w.node a), reply)) := by
  unfold serveCommand
  dsimp only
  rw [handleCommand_read hx]
  dsimp only [World.node]
  cases readReply (splitKVStoreCommand command) (w.server a).table with
  | none => rfl
  | some reply => rfl

/-- The group answers an admitted request as one server does. -/
theorem replicaGroup_simulates (depth : Nat) (p : Address) (members : List Address) :
    (replicaGroup depth).Simulates oneServer SameReply (HoldsTable p members)
      (Admitted p members) := by
  rintro ⟨a, msg, command⟩ w t h hr
  have ha : (w.server a).table = t := h.table a hr.member
  unfold replicaGroup oneServer answerTo
  dsimp only
  cases hw : writeOf (splitKVStoreCommand command) with
  | none =>
    rw [serveCommand_read hw, ha]
    cases readReply (splitKVStoreCommand command) t with
    | none => exact .none
    | some reply => exact .some ⟨Or.inl rfl, h.settle a⟩
  | some x =>
    obtain ⟨extra, hx⟩ := eq_of_writeOf hw
    have hcell : FindsCell t x := hr.cell x hw
    by_cases hap : a = p
    · -- at the primary
      subst hap
      obtain ⟨ok, u, hf, hs⟩ := serveCommand_primary h.leads hr.line hx (depth + 1) msg
      obtain ⟨hholds, hreply⟩ := h.afterForward hcell hf
      rw [hs]
      exact .some ⟨hreply, hholds⟩
    · -- through the primary
      have hfrontend := (hr.origin x hw).resolve_left hap
      obtain ⟨it, hit, hit', rfl⟩ := (h.mem_iff.mp hr.member).resolve_left hap
      obtain ⟨ok, u, hf, hcall⟩ := call_primary h.leads (commaFree_of_split hx)
        (noCrlf_line hr.line hx) h.enabled depth
      obtain ⟨hholds, hreply⟩ := h.afterForward hcell hf
      rw [serveCommand_frontend (h.follows it hit hit') hx hfrontend, forwardToPrimary,
        connect_of_nil h.connections]
      simp only [hcall, Option.map_some]
      exact .some ⟨hreply.relay x (contains_afterForward p x ok u), hholds.settle it.address⟩

/-! ### Runs -/

/-- In every run of admitted requests, whichever replicas they are sent to, each reply is the
one that a single server gives, and in the end all replicas hold its table. -/
theorem replicaGroup_answers_as_oneServer (depth : Nat) {w : World} {t : Table} {p : Address}
    {members : List Address} (h : HoldsTable p members w t) {requests : List ClientRequest}
    (hr : oneServer.Along (Admitted p members) requests t) :
    Machine.Agree (List.Forall₂ SameReply) (HoldsTable p members)
      ((replicaGroup depth).answers requests w) (oneServer.answers requests t) :=
  (replicaGroup_simulates depth p members).answers h hr

lemma group1_holdsTable (t : Table) :
    HoldsTable (group1Address 2001) (replicas (group1 (fun _ => t) []) (group1Address 2001))
      (group1 (fun _ => t) []) t where
  toAllLive := (group1_inSync t).toAllLive
  same := rfl
  table := fun _ _ => rfl

/-- A write at a secondary, a conditional write with the wrong value at the other one, and a
read at the primary. -/
def putCputGet : List ClientRequest :=
  [⟨group1Address 2002, [], "PUT r,c,v".toList⟩,
    ⟨group1Address 2003, [], "CPUT r,c,x,y".toList⟩,
    ⟨group1Address 2001, [], "GET r,c".toList⟩]

lemma admitted_of_write {r : ClientRequest} {t : Table} {x : Write} (hmem : r.server ∈ members)
    (hline : NoCrlf r.command) (hx : writeOf (splitKVStoreCommand r.command) = some x)
    (horigin : classify (splitKVStoreCommand r.command) = .frontend) (hcell : FindsCell t x)
    (hfits : (x.tempCommand "SECONDARY".toList).length ≤ BUFFER_SIZE) :
    Admitted p members r t where
  member := hmem
  line := hline
  origin := fun _ _ => Or.inr horigin
  cell := by
    intro y hy
    rw [hx, Option.some.injEq] at hy
    exact hy ▸ hcell
  fits := by
    intro y hy
    rw [hx, Option.some.injEq] at hy
    exact hy ▸ hfits

lemma putCputGet_admitted :
    oneServer.Along (Admitted (group1Address 2001)
      (replicas (group1 (fun _ => ∅) []) (group1Address 2001))) putCputGet ∅ := by
  let t : Table := (∅ : Table).set ['r'] ['c'] ['v']
  have hput : oneServer ⟨group1Address 2002, [], "PUT r,c,v".toList⟩ ∅ = some (okMsg, t) := rfl
  have hcput : oneServer ⟨group1Address 2003, [], "CPUT r,c,x,y".toList⟩ t =
      some (conditionalErr, t) := rfl
  refine .cons (r := (okMsg, t)) ?_ hput (.cons (r := (conditionalErr, t)) ?_ hcput ?_)
  · exact admitted_of_write (by decide) (by decide) (x := .put ['r'] ['c'] ['v']) (by decide)
      (by decide) trivial (by decide)
  · refine admitted_of_write (by decide) (by decide) (x := .cput ['r'] ['c'] ['x'] ['y'])
      (by decide) (by decide) ?_ (by decide)
    intro _
    rfl
  · have hread : writeOf (splitKVStoreCommand "GET r,c".toList) = none := by decide
    refine ⟨⟨by decide, by decide, ?_, ?_, ?_⟩, fun _ _ => trivial⟩
    · intro x hx
      exact absurd (hread.symm.trans hx) (by simp)
    · intro x hx
      exact absurd (hread.symm.trans hx) (by simp)
    · intro x hx
      exact absurd (hread.symm.trans hx) (by simp)

theorem replicaGroup_answers_putCputGet :
    Machine.Agree (List.Forall₂ SameReply) (HoldsTable (group1Address 2001)
        (replicas (group1 (fun _ => ∅) []) (group1Address 2001)))
      ((replicaGroup 0).answers putCputGet (group1 (fun _ => ∅) []))
      (oneServer.answers putCputGet ∅) :=
  replicaGroup_answers_as_oneServer 0 (group1_holdsTable ∅) putCputGet_admitted

end CloudStorage.Proofs
