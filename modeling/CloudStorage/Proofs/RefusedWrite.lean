import CloudStorage.Proofs.Serving

/-!
# Refused writes

The primary stops its loop at the first server that does not take the write, and nothing is
taken back. This file proves how far a refused write can have got.
-/

namespace CloudStorage.Proofs
open DelimitedText Registers

/-- The write `x` was carried out by the live secondaries and logged for the dead ones
among the first `k` servers of the list, and it changed nothing else. -/
structure ReachedFirst (g : Int) (x : Write) (list : List ServerInfo) (w w' : World)
    (k : Nat) : Prop where
  taken : ∀ it ∈ list.take k, it.isPrimary = false → it.isDead = false →
    x.run (w.server it.address).table = ((w'.server it.address).table, true)
  logged : ∀ it ∈ list.take k, it.isPrimary = false → it.isDead = true →
    deadLog g it.tcpPort w'.disk = deadLog g it.tcpPort w.disk ++ x.line ++ ['\n']
  tables : ∀ a, (∀ it ∈ list.take k, it.isPrimary = false → it.isDead = false →
    it.address ≠ a) → valuesOf (w'.server a).table = valuesOf (w.server a).table
  logs : ∀ q, (∀ it ∈ list.take k, it.isPrimary = false → it.isDead = true →
    it.tcpPort ≠ q) → deadLog g q w'.disk = deadLog g q w.disk

variable {g : Int} {x : Write} {list : List ServerInfo} {w w' : World} {ok : Bool}

lemma ReachedFirst.none (ht : ∀ a, valuesOf (w'.server a).table = valuesOf (w.server a).table)
    (hd : ∀ q, deadLog g q w'.disk = deadLog g q w.disk) : ReachedFirst g x list w w' 0 where
  taken := by simp
  logged := by simp
  tables := fun a _ => ht a
  logs := fun q _ => hd q

lemma ReachedFirst.of_connect {o : Outcome} (hc : w.connect = (o, w')) :
    ReachedFirst g x list w w' 0 :=
  .none (fun a => by rw [(connect_server hc).1]) (fun q => by rw [(connect_server hc).2])

/-- What follows the first `k` servers may still change nothing else. -/
lemma ReachedFirst.then {u : World} {k : Nat} (h : ReachedFirst g x list w u k)
    (hkeep : ∀ it ∈ list.take k, it.isPrimary = false →
      (w'.server it.address).table = (u.server it.address).table)
    (ht : ∀ a, valuesOf (w'.server a).table = valuesOf (u.server a).table)
    (hd : ∀ q, deadLog g q w'.disk = deadLog g q u.disk) : ReachedFirst g x list w w' k where
  taken := by
    intro it hit hp hl
    rw [hkeep it hit hp]
    exact h.taken it hit hp hl
  logged := by
    intro it hit hp hl
    rw [hd]
    exact h.logged it hit hp hl
  tables := fun a ha => (ht a).trans (h.tables a ha)
  logs := fun q hq => (hd q).trans (h.logs q hq)

/-- However the loop ends, there is a first server it did not get past. -/
theorem Forwards.reachedFirst (h : Forwards g x list w ok w') (hw : Named w)
    (hports : (list.map ServerInfo.tcpPort).Nodup) :
    ∃ k ≤ list.length, ReachedFirst g x list w w' k := by
  induction h with
  | done => exact ⟨0, le_rfl, .none (fun _ => rfl) (fun _ => rfl)⟩
  | primary hp hf ih =>
    obtain ⟨k, hk, hr⟩ := ih hw (List.nodup_cons.mp hports).2
    refine ⟨k + 1, by simpa using hk, ?_, ?_, ?_, ?_⟩
    · intro y hy hyp
      rcases List.mem_cons.mp hy with rfl | hy
      · exact absurd hp (by simp [hyp])
      · exact hr.taken y hy hyp
    · intro y hy hyp
      rcases List.mem_cons.mp hy with rfl | hy
      · exact absurd hp (by simp [hyp])
      · exact hr.logged y hy hyp
    · exact fun a ha => hr.tables a (fun y hy => ha y (List.mem_cons_of_mem _ hy))
    · exact fun q hq => hr.logs q (fun y hy => hq y (List.mem_cons_of_mem _ hy))
  | @dead it rest w w' ok hp hd hf ih =>
    obtain ⟨k, hk, hr⟩ := ih hw (List.nodup_cons.mp hports).2
    have hlog : ∀ q, deadLog g q (logAt w g it.tcpPort x).disk =
        if q = it.tcpPort then deadLog g q w.disk ++ x.line ++ ['\n']
        else deadLog g q w.disk :=
      fun q => deadLog_append g q it.tcpPort x.line w.disk
    refine ⟨k + 1, by simpa using hk, ?_, ?_, ?_, ?_⟩
    · intro y hy hyp hyd
      rcases List.mem_cons.mp hy with rfl | hy
      · exact absurd hd (by simp [hyd])
      · exact hr.taken y hy hyp hyd
    · intro y hy hyp hyd
      rcases List.mem_cons.mp hy with rfl | hy
      · -- the rest of the loop writes only other logs
        have hrest : deadLog g y.tcpPort w'.disk =
            deadLog g y.tcpPort (logAt w g y.tcpPort x).disk :=
          hf.deadLog_eq hw (fun z hz _ => port_ne_of_nodup hports hz)
        rw [hrest, hlog, if_pos rfl]
      · have hne := port_ne_of_nodup hports (List.mem_of_mem_take hy)
        rw [hr.logged y hy hyp hyd, hlog, if_neg hne]
    · exact fun a ha => hr.tables a (fun y hy => ha y (List.mem_cons_of_mem _ hy))
    · intro q hq
      have hne := hq it List.mem_cons_self hp hd
      rw [hr.logs q (fun y hy => hq y (List.mem_cons_of_mem _ hy)), hlog, if_neg (Ne.symm hne)]
  | noSocket _ _ hc => exact ⟨0, Nat.zero_le _, .of_connect hc⟩
  | refused _ _ hc => exact ⟨0, Nat.zero_le _, .of_connect hc⟩
  | disabled _ _ hc _ => exact ⟨0, Nat.zero_le _, .of_connect hc⟩
  | @rejected it rest w u hp hd hc hen hrun =>
    obtain ⟨hcs, hcd⟩ := connect_server hc
    refine ⟨0, Nat.zero_le _, .none ?_ ?_⟩
    · intro a
      by_cases ha : a = it.address
      · subst ha
        rw [applyAt_table, valuesOf_run_of_failed hrun, hcs]
      · rw [applyAt_server_of_ne u ha, hcs]
    · intro q
      rw [applyAt_deadLog (hw.of_sameSettings (connect_sameSettings hc)), hcd]
  | @taken it rest w u w' ok hp hd hc hen hrun hf ih =>
    obtain ⟨hcs, hcd⟩ := connect_server hc
    have hu := hw.of_sameSettings (connect_sameSettings hc)
    obtain ⟨k, hk, hr⟩ := ih (hu.of_sameSettings (applyAt_sameSettings _ _ _))
      (List.nodup_cons.mp hports).2
    have hserver : ∀ a, a ≠ it.address → (applyAt u it.address x).server a = w.server a := by
      intro a ha
      rw [applyAt_server_of_ne u ha, hcs]
    have hlog : ∀ q, deadLog g q (applyAt u it.address x).disk = deadLog g q w.disk := by
      intro q
      rw [applyAt_deadLog hu, hcd]
    refine ⟨k + 1, by simpa using hk, ?_, ?_, ?_, ?_⟩
    · intro y hy hyp hyd
      rcases List.mem_cons.mp hy with rfl | hy
      · -- the rest of the loop reaches only other servers
        have hrest := hf.server_eq (fun z hz _ => address_ne_of_nodup hports hz)
        rw [hrest, applyAt_table, ← hcs, ← hrun]
      · have hne := address_ne_of_nodup hports (List.mem_of_mem_take hy)
        rw [← hserver _ hne]
        exact hr.taken y hy hyp hyd
    · intro y hy hyp hyd
      rcases List.mem_cons.mp hy with rfl | hy
      · exact absurd hd (by simp [hyd])
      · rw [hr.logged y hy hyp hyd, hlog]
    · intro a ha
      have hne := ha it List.mem_cons_self hp hd
      rw [hr.tables a (fun y hy => ha y (List.mem_cons_of_mem _ hy)), hserver a (Ne.symm hne)]
    · intro q hq
      rw [hr.logs q (fun y hy => hq y (List.mem_cons_of_mem _ hy)), hlog]

lemma settle_values {p : Address} {n : Node}
    (ht : valuesOf n.server.table = valuesOf (w.server p).table) (a : Address) :
    valuesOf ((w.settle p n).server a).table = valuesOf (w.server a).table := by
  by_cases ha : a = p
  · subst ha
    rw [settle_table, ht]
  · rw [settle_server_of_ne w ha]

lemma settle_node_deadLog (hw : Named w) (p : Address) (q : Int) :
    deadLog g q (w.settle p (w.node p)).disk = deadLog g q w.disk := by
  obtain ⟨g', p', hpath⟩ := hw p
  exact settle_deadLog hpath g q

lemma not_err_okMsg : ¬"-ERR".toList <+: okMsg := by decide

/-- When the primary answers with an error, the command either changed no value and no
dead-server log, or is a write that stopped at some server of its list. -/
theorem refused_write_reached_first {p : Address} {command msg reply : Str} {depth : Nat}
    (hw : Leads w p) (hc : NoCrlf command)
    (h : serveCommand (depth + 2) p msg command w = some (w', reply))
    (herr : "-ERR".toList <+: reply) :
    ((∀ a, valuesOf (w'.server a).table = valuesOf (w.server a).table) ∧
      ∀ q, deadLog (w.server p).replicaGroup q w'.disk =
        deadLog (w.server p).replicaGroup q w.disk) ∨
    ∃ y extra, splitKVStoreCommand command = Write.word y :: (y.fields ++ extra) ∧
      ∃ k ≤ (w.server p).serverList.length,
        ReachedFirst (w.server p).replicaGroup y (w.server p).serverList w w' k := by
  by_cases hy : ∃ y extra, splitKVStoreCommand command = Write.word y :: (y.fields ++ extra)
  · right
    obtain ⟨y, extra, hy⟩ := hy
    refine ⟨y, extra, hy, ?_⟩
    obtain ⟨ok, u, hf, hs⟩ := serveCommand_primary hw hc hy depth msg
    obtain ⟨k, hk, hr⟩ := hf.reachedFirst hw.named hw.ports
    have hu := hw.named.of_sameSettings hf.sameSettings
    rw [hs, Option.some.injEq] at h
    have hne : ∀ it ∈ (w.server p).serverList.take k, it.isPrimary = false → it.address ≠ p :=
      fun it hit => hw.own it (List.mem_of_mem_take hit)
    cases ok with
    | false =>
      have hw' : w' = u.settle p (u.node p) := (congrArg Prod.fst h).symm
      subst hw'
      refine ⟨k, hk, hr.then ?_ (settle_values rfl) (settle_node_deadLog hu p)⟩
      intro it hit hp
      rw [settle_server_of_ne u (hne it hit hp)]
    | true =>
      have hw' : w' = applyAt u p y := (congrArg Prod.fst h).symm
      have hreply : reply = writeReply y (u.server p).table := (congrArg Prod.snd h).symm
      have hfail : (y.run (u.server p).table).2 = false := by
        cases hrun : (y.run (u.server p).table).2 with
        | false => rfl
        | true =>
          rw [hreply, writeReply, if_pos hrun] at herr
          exact absurd herr not_err_okMsg
      subst hw'
      have hval : valuesOf (applyWrite y (u.node p)).1.server.table =
          valuesOf (u.server p).table := by
        rw [applyWrite_setTable]
        exact valuesOf_run_of_failed hfail
      refine ⟨k, hk, hr.then ?_ (settle_values hval) ?_⟩
      · intro it hit hp
        rw [applyAt_server_of_ne u (hne it hit hp)]
      · intro q
        exact applyAt_deadLog hu p y _ q
  · left
    have hw' : w' = w.settle p (w.node p) :=
      serveCommand_other (fun y extra he => hy ⟨y, extra, he⟩) h
    subst hw'
    exact ⟨settle_values rfl, settle_node_deadLog hw.named p⟩

/-- Group 1 when the second secondary cannot be connected to. -/
def refusingGroup : World := group1 (fun _ => ∅) [.connected, .refused]

def refusedPut : Option (World × Str) :=
  serveCommand 2 (group1Address 2001) [] "PUT r,c,v".toList refusingGroup

lemma refusedPut_reply : refusedPut.map Prod.snd = some (Write.put [] [] []).secondaryErr := by
  decide +kernel

lemma exists_refusedPut : ∃ w' reply, refusedPut = some (w', reply) ∧ "-ERR".toList <+: reply := by
  obtain ⟨⟨w', reply⟩, h, hr⟩ := Option.map_eq_some_iff.mp refusedPut_reply
  have hreply : reply = (Write.put [] [] []).secondaryErr := hr
  subst hreply
  exact ⟨w', _, h, by decide⟩

theorem refused_write_reached_first_put : ∃ w' reply, refusedPut = some (w', reply) ∧
    "-ERR".toList <+: reply ∧
    (((∀ a, valuesOf (w'.server a).table = valuesOf (refusingGroup.server a).table) ∧
      ∀ q, deadLog 1 q w'.disk = deadLog 1 q refusingGroup.disk) ∨
    ∃ y extra, splitKVStoreCommand "PUT r,c,v".toList = Write.word y :: (y.fields ++ extra) ∧
      ∃ k ≤ 3, ReachedFirst 1 y [group1Info 2001, group1Info 2002, group1Info 2003]
        refusingGroup w' k) := by
  obtain ⟨w', reply, h, herr⟩ := exists_refusedPut
  exact ⟨w', reply, h, herr,
    refused_write_reached_first (group1_leads _ _) (by decide) h herr⟩

/-- The first secondary keeps the value although the client was told that the write failed. -/
theorem refused_put_stays_at_secondary : ∃ w' reply, refusedPut = some (w', reply) ∧
    "-ERR".toList <+: reply ∧ Leads refusingGroup (group1Address 2001) ∧
    (w'.server (group1Address 2002)).table.get "r".toList "c".toList = some "v".toList ∧
    (refusingGroup.server (group1Address 2002)).table.get "r".toList "c".toList = none := by
  obtain ⟨w', reply, h, herr⟩ := exists_refusedPut
  have hget : refusedPut.map (fun r =>
      (r.1.server (group1Address 2002)).table.get "r".toList "c".toList) =
      some (some "v".toList) := by
    decide +kernel
  rw [h] at hget
  exact ⟨w', reply, h, herr, group1_leads _ _, Option.some.inj hget, by decide⟩

end CloudStorage.Proofs
