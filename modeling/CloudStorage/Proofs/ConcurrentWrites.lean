import CloudStorage.Proofs.SequentialReplication
import CloudStorage.Threads

/-!
# Threads that write at the same time

Two threads can reach two secondaries in different orders, so writes that leave different
values in one cell can leave the replicas apart. This file proves that nothing else can:
a cell stays equal at all replicas as long as the threads that are writing it at any one
time all leave the same in it.
-/

namespace CloudStorage.Proofs
open DelimitedText Registers

lemma writeReply_of_resets {x : Write} (h : (opOf x).Resets) (t : Table) :
    writeReply x t = okMsg := if_pos (run_ok_of_resets h t)

/-! ### One thread -/

variable {p : Address} {k : Str × Str} {w w' : World} {list done : List ServerInfo}
  {t t' : Thread}

/-- The thread has passed the servers `done` of the list. -/
def Stands (list done : List ServerInfo) : Phase → Prop
  | .forwarding rest => list = done ++ rest
  | .sent secondary rest => ∃ it, list = done ++ it :: rest ∧ it.isPrimary = false ∧
      it.address = secondary
  | .replied response rest => list = done ++ rest ∧ contains "+OK".toList response = true
  | .answered reply => done = list ∧ reply = okMsg

lemma Stands.mem {phase : Phase} (h : Stands list done phase) {it : ServerInfo}
    (hit : it ∈ done) : it ∈ list := by
  cases phase with
  | forwarding rest =>
    have hlist : list = done ++ rest := h
    exact hlist ▸ List.mem_append_left rest hit
  | sent secondary rest =>
    obtain ⟨y, hlist, -⟩ := h
    exact hlist ▸ List.mem_append_left _ hit
  | replied response rest => exact h.1 ▸ List.mem_append_left rest hit
  | answered reply => exact h.1 ▸ hit

/-- A thread that handles a PUT or a DELETE from a connection. -/
structure Handles (t : Thread) : Prop where
  resets : (opOf t.write).Resets
  commaFree : CommaFree t.write
  line : NoCrlf t.write.line

/-- What one step of a thread can do: move on, carry the write out at the next secondary,
or carry it out at the primary once all secondaries are done. -/
theorem Thread.step_cases (hw : AllLive p w) (ht : Handles t)
    (hs : Stands (w.server p).serverList done t.phase) (h : t.step p w = some (w', t')) :
    t'.write = t.write ∧ t.inProgress = true ∧
    ((w' = w ∧ t'.inProgress = true ∧ ∃ done', Stands (w.server p).serverList done' t'.phase ∧
        ∀ it ∈ done', it.isPrimary = false → it ∈ done) ∨
      (∃ it, it ∈ (w.server p).serverList ∧ it.isPrimary = false ∧
        w' = applyAt w it.address t.write ∧ t'.inProgress = true ∧
        Stands (w.server p).serverList (done ++ [it]) t'.phase) ∨
      (done = (w.server p).serverList ∧ w' = applyAt w p t.write ∧
        t'.phase = .answered okMsg)) := by
  obtain ⟨x, phase⟩ := t
  have hok := fun u => writeReply_of_resets ht.resets u
  cases phase with
  | forwarding rest =>
    cases rest with
    | nil =>
      have hdone : done = (w.server p).serverList := by simpa [Stands] using hs.symm
      have hres : Thread.resume p ⟨x, .forwarding []⟩ true w =
          (applyAt w p x, ⟨x, .answered okMsg⟩) := by
        have hreply := applyWrite_reply x (w.node p)
        simp only [Thread.resume, if_true, hreply]
        rw [show writeReply x (w.node p).server.table = okMsg from hok _]
        rfl
      simp only [Thread.step, hres, Option.some.injEq, Prod.mk.injEq] at h
      obtain ⟨rfl, rfl⟩ := h
      exact ⟨rfl, rfl, Or.inr (Or.inr ⟨hdone, rfl, rfl⟩)⟩
    | cons it rest =>
      have hlist : (w.server p).serverList = done ++ it :: rest := hs
      have hmem : it ∈ (w.server p).serverList := by simp [hlist]
      cases hp : it.isPrimary with
      | true =>
        simp only [Thread.step, hp, Bool.true_eq_false, false_and, if_false,
          Option.some.injEq, Prod.mk.injEq] at h
        obtain ⟨rfl, rfl⟩ := h
        refine ⟨rfl, rfl, Or.inl ⟨rfl, rfl, done ++ [it], by simp [Stands, hlist], ?_⟩⟩
        intro y hy hyp
        rcases List.mem_append.mp hy with hy | hy
        · exact hy
        · have he : y = it := List.mem_singleton.mp hy
          exact absurd hp (by simp [← he, hyp])
      | false =>
        have hd := hw.live it hmem hp
        simp only [Thread.step, hp, hd, and_self, if_true, Option.some.injEq,
          Prod.mk.injEq] at h
        obtain ⟨rfl, rfl⟩ := h
        exact ⟨rfl, rfl, Or.inl ⟨rfl, rfl, done, ⟨it, hlist, hp, rfl⟩, fun y hy _ => hy⟩⟩
  | sent secondary rest =>
    obtain ⟨it, hlist, hp, rfl⟩ := hs
    have hmem : it ∈ (w.server p).serverList := by simp [hlist]
    have hcall := call_secondary ht.commaFree ht.line 0 (hw.leads.roles it hmem hp)
    rw [if_pos (hw.up it hmem hp), hok] at hcall
    simp only [Thread.step, hcall, Option.map_some, Option.some.injEq, Prod.mk.injEq] at h
    obtain ⟨rfl, rfl⟩ := h
    refine ⟨rfl, rfl, Or.inr (Or.inl ⟨it, hmem, hp, rfl, rfl, ?_⟩)⟩
    exact ⟨by simp [hlist], contains_okMsg⟩
  | replied response rest =>
    obtain ⟨hlist, hresponse⟩ := hs
    simp only [Thread.step, hresponse, if_true, Option.some.injEq, Prod.mk.injEq] at h
    obtain ⟨rfl, rfl⟩ := h
    exact ⟨rfl, rfl, Or.inl ⟨rfl, rfl, done, hlist, fun y hy _ => hy⟩⟩
  | answered reply => simp [Thread.step] at h

/-! ### A thread by itself -/

/-- Steps of one thread with nothing in between. -/
def Thread.steps (p : Address) : Nat → Thread → World → Option (World × Thread)
  | 0, t, w => some (w, t)
  | n + 1, t, w => (t.step p w).bind (fun r => Thread.steps p n r.2 r.1)

lemma Thread.resume_eq (p : Address) (x : Write) (phase : Phase) (ok : Bool) (w : World) :
    Thread.resume p ⟨x, phase⟩ ok w =
      ((afterForward p x ok w).1, ⟨x, .answered (afterForward p x ok w).2⟩) := by
  have hreply := applyWrite_reply x (w.node p)
  unfold Thread.resume afterForward
  cases ok with
  | true =>
    simp only [if_true, hreply]
    rfl
  | false => rfl

lemma Thread.steps_succ {n : Nat} {r : World × Thread} (h : t.step p w = some r) :
    Thread.steps p (n + 1) t w = Thread.steps p n r.2 r.1 := by
  rw [Thread.steps, h, Option.bind_some]

lemma Thread.steps_call {x : Write} {it : ServerInfo} {rest : List ServerInfo} {u : World}
    {response : Str} (hp : it.isPrimary = false) (hd : it.isDead = false)
    (hcall : readAndWriteFromSocket (serveCommand 1) it.address
      (x.tempCommand "PRIMARY".toList) w = some (response, u)) (n : Nat) :
    Thread.steps p (n + 2) ⟨x, .forwarding (it :: rest)⟩ w =
      Thread.steps p n ⟨x, .replied response rest⟩ u := by
  rw [Thread.steps_succ (r := (w, ⟨x, .sent it.address rest⟩)) (by simp [Thread.step, hp, hd]),
    Thread.steps_succ (r := (u, ⟨x, .replied response rest⟩))
      (by rw [Thread.step]; simp only [hcall, Option.map_some])]

lemma Thread.steps_failed {x : Write} {rest : List ServerInfo} {response : Str}
    (h : contains "+OK".toList response = false) :
    Thread.steps p 1 ⟨x, .replied response rest⟩ w =
      some ((afterForward p x false w).1, ⟨x, .answered (afterForward p x false w).2⟩) := by
  have hstep : Thread.step p ⟨x, .replied response rest⟩ w =
      some (Thread.resume p ⟨x, .replied response rest⟩ false w) := by
    rw [Thread.step]
    simp only [h, Bool.false_eq_true, if_false]
  rw [Thread.steps_succ hstep, Thread.resume_eq]
  rfl

/-- The steps of a thread follow the loop. -/
theorem Forwards.steps {g : Int} {x : Write} {ok : Bool} (h : Forwards g x list w ok w')
    (hx : CommaFree x) (hl : NoCrlf x.line) (ho : w.outcomes = [])
    (hg : (w.server p).replicaGroup = g) (hroles : SecondaryRoles list w) :
    ∃ n, Thread.steps p n ⟨x, .forwarding list⟩ w =
      some ((afterForward p x ok w').1, ⟨x, .answered (afterForward p x ok w').2⟩) := by
  have hsame : ∀ {v u : World} {o : Outcome}, v.outcomes = [] → v.connect = (o, u) →
      o = .connected ∧ u = v := by
    intro v u o hv hc
    rw [connect_of_nil hv] at hc
    exact ⟨(Prod.mk.inj hc).1.symm, (Prod.mk.inj hc).2.symm⟩
  induction h with
  | done =>
    refine ⟨1, ?_⟩
    rw [Thread.steps_succ (by rw [Thread.step]), Thread.resume_eq]
    rfl
  | @primary it rest w w' ok hp hf ih =>
    obtain ⟨n, hn⟩ := ih ho hg (fun y hy => hroles y (List.mem_cons_of_mem it hy))
    refine ⟨n + 1, ?_⟩
    rw [Thread.steps_succ (r := (w, ⟨x, .forwarding rest⟩)) (by simp [Thread.step, hp])]
    exact hn
  | @dead it rest w w' ok hp hd hf ih =>
    obtain ⟨n, hn⟩ := ih ho hg (fun y hy => hroles y (List.mem_cons_of_mem it hy))
    have hstep : Thread.step p ⟨x, .forwarding (it :: rest)⟩ w =
        some (logAt w g it.tcpPort x, ⟨x, .forwarding rest⟩) := by
      rw [Thread.step]
      dsimp only
      rw [if_neg (by simp [hd]), if_pos ⟨hp, hd⟩, hg, logForDead_tempCommand]
      rfl
    exact ⟨n + 1, (Thread.steps_succ hstep).trans hn⟩
  | noSocket _ _ hc => exact absurd (hsame ho hc).1 (by decide)
  | refused _ _ hc => exact absurd (hsame ho hc).1 (by decide)
  | @disabled it rest w u hp hd hc hen =>
    obtain ⟨-, rfl⟩ := hsame ho hc
    have hcall := call_secondary hx hl 0 (hroles it List.mem_cons_self hp)
    rw [hen, if_neg (by decide)] at hcall
    exact ⟨3, (Thread.steps_call hp hd hcall 1).trans (Thread.steps_failed (by decide))⟩
  | @rejected it rest w u hp hd hc hen hrun =>
    obtain ⟨-, rfl⟩ := hsame ho hc
    have hcall := call_secondary hx hl 0 (hroles it List.mem_cons_self hp)
    rw [if_pos hen] at hcall
    have hno := contains_writeReply x (u.server it.address).table
    exact ⟨3, (Thread.steps_call hp hd hcall 1).trans (Thread.steps_failed (hno.trans hrun))⟩
  | @taken it rest w u w' ok hp hd hc hen hrun hf ih =>
    obtain ⟨-, rfl⟩ := hsame ho hc
    have hset := applyAt_sameSettings u it.address x
    obtain ⟨n, hn⟩ := ih ho ((settings_replicaGroup (hset p)).trans hg)
      (SecondaryRoles.of_sameSettings
        (fun y hy => hroles y (List.mem_cons_of_mem it hy)) hset)
    have hcall := call_secondary hx hl 0 (hroles it List.mem_cons_self hp)
    rw [if_pos hen] at hcall
    have hyes := (contains_writeReply x (u.server it.address).table).trans hrun
    have hstep : Thread.step p ⟨x, .replied (writeReply x (u.server it.address).table) rest⟩
        (applyAt u it.address x) = some (applyAt u it.address x, ⟨x, .forwarding rest⟩) := by
      rw [Thread.step]
      simp only [hyes, if_true]
    have hsteps := (Thread.steps_call hp hd hcall (n + 1)).trans (Thread.steps_succ hstep)
    exact ⟨n + 3, hsteps.trans hn⟩

/-- A thread that nothing interrupts does what `serveCommand` does. -/
theorem thread_alone (hw : Leads w p) (ho : w.outcomes = []) {command : Str}
    (hc : NoCrlf command) {x : Write} {extra : List Str}
    (hx : splitKVStoreCommand command = x.word :: (x.fields ++ extra)) (msg : Str) :
    ∃ n w' reply, serveCommand 2 p msg command w = some (w', reply) ∧
      Thread.steps p n ⟨x, .forwarding (w.server p).serverList⟩ w =
        some (w', ⟨x, .answered reply⟩) := by
  obtain ⟨ok, u, hf, hs⟩ := serveCommand_primary hw hc hx 0 msg
  obtain ⟨n, hn⟩ := hf.steps (commaFree_of_split hx) (noCrlf_line hc hx) ho rfl hw.roles
  exact ⟨n, _, _, hs, hn⟩

/-! ### One cell -/

/-- The thread is writing the cell `k`. -/
def WritesTo (k : Str × Str) (t : Thread) : Prop := t.inProgress = true ∧ (opOf t.write).key = k

/-- What holds of the cell `k` while every thread that writes it leaves the same: a thread
has written it at the secondaries it passed, and a replica that no thread has written
still holds the common value. -/
structure CellInv (k : Str × Str) (p : Address) (s : Threads) : Prop where
  live : AllLive p s.world
  handles : ∀ (i : Nat) t, s.threads[i]? = some t → Handles t
  stands : ∀ (i : Nat) t, s.threads[i]? = some t →
    ∃ done, Stands (s.world.server p).serverList done t.phase ∧
      (WritesTo k t → ∀ it ∈ done, it.isPrimary = false →
        cellsOf (s.world.server it.address).table k = leaves t.write)
  agree : ∀ (i j : Nat) t u, s.threads[i]? = some t → s.threads[j]? = some u → WritesTo k t →
    WritesTo k u → leaves t.write = leaves u.write
  values : ∃ c, ∀ a ∈ replicas s.world p, cellsOf (s.world.server a).table k = c ∨
    ∃ (i : Nat) (t : Thread), s.threads[i]? = some t ∧ WritesTo k t ∧
      cellsOf (s.world.server a).table k = leaves t.write

/-- The condition on a request: it is a PUT or a DELETE, and the threads that are writing
the cell `k` leave the same in it. -/
def OneEffect (k : Str × Str) (s : Threads) : ThreadEvent → Prop
  | .accept x command => NoCrlf command ∧ (opOf x).Resets ∧ ((opOf x).key = k →
      ∀ t ∈ s.threads, WritesTo k t → leaves t.write = leaves x)
  | .step _ => True

lemma getElem?_set_iff {l : List Thread} {i j : Nat} {t u : Thread} (h : l[i]? = some t) :
    (l.set i t')[j]? = some u ↔ (j = i ∧ u = t') ∨ (j ≠ i ∧ l[j]? = some u) := by
  have hi : i < l.length := (List.getElem?_eq_some_iff.mp h).1
  rw [List.getElem?_set]
  by_cases hj : i = j
  · subst hj
    simp [hi, eq_comm]
  · simp [hj, Ne.symm hj]

/-- A write at one server changes the cell `k` only if it is about it. -/
lemma applyAt_cell {x : Write} (hx : (opOf x).Resets) (w : World) (b a : Address) :
    cellsOf ((applyAt w b x).server a).table k = cellsOf (w.server a).table k ∨
      ((opOf x).key = k ∧ cellsOf ((applyAt w b x).server a).table k = leaves x) := by
  by_cases ha : a = b
  · subst ha
    rw [applyAt_table, cellsOf_run_of_resets hx]
    by_cases hk : (opOf x).key = k
    · exact Or.inr ⟨hk, if_pos hk⟩
    · exact Or.inl (if_neg hk)
  · rw [applyAt_server_of_ne w ha]
    exact Or.inl rfl

lemma applyAt_cell_self {x : Write} (hx : (opOf x).Resets) (hk : (opOf x).key = k) (w : World)
    (a : Address) : cellsOf ((applyAt w a x).server a).table k = leaves x := by
  rw [applyAt_table, cellsOf_run_of_resets hx, if_pos hk]

lemma CellInv.accept {s s' : Threads} {x : Write} {command : Str} (h : CellInv k p s)
    (hok : OneEffect k s (.accept x command)) (hnext : s.next p (.accept x command) = some s') :
    CellInv k p s' := by
  obtain ⟨hc, hresets, heffect⟩ := hok
  unfold Threads.next at hnext
  dsimp only at hnext
  split at hnext
  · next hprefix =>
    obtain ⟨extra, hsplit⟩ := hprefix
    have hsplit : splitKVStoreCommand command = x.word :: (x.fields ++ extra) := hsplit.symm
    cases hnext
    let t₀ : Thread := ⟨x, .forwarding (s.world.server p).serverList⟩
    have hget : ∀ {i : Nat} {t : Thread}, (s.threads ++ [t₀])[i]? = some t →
        s.threads[i]? = some t ∨ t = t₀ := by
      intro i t hit
      rw [List.getElem?_append] at hit
      split at hit
      · exact Or.inl hit
      · right
        have hmem := List.mem_of_getElem? hit
        exact List.mem_singleton.mp hmem
    have hagree : ∀ {i : Nat} {t : Thread}, s.threads[i]? = some t → WritesTo k t → WritesTo k t₀ →
        leaves t.write = leaves x :=
      fun hi ht ht₀ => heffect ht₀.2 _ (List.mem_of_getElem? hi) ht
    refine ⟨h.live, ?_, ?_, ?_, ?_⟩
    · intro i t hi
      rcases hget hi with hi | rfl
      · exact h.handles i t hi
      · exact ⟨hresets, commaFree_of_split hsplit, noCrlf_line hc hsplit⟩
    · intro i t hi
      rcases hget hi with hi | rfl
      · exact h.stands i t hi
      · exact ⟨[], rfl, fun _ it hit => absurd hit List.not_mem_nil⟩
    · intro i j t u hi hj ht hu
      rcases hget hi with hi | rfl
      · rcases hget hj with hj | rfl
        · exact h.agree i j t u hi hj ht hu
        · exact hagree hi ht hu
      · rcases hget hj with hj | rfl
        · exact (hagree hj hu ht).symm
        · rfl
    · obtain ⟨c, hvalues⟩ := h.values
      refine ⟨c, fun a ha => ?_⟩
      rcases hvalues a ha with hc | ⟨i, t, hi, ht, hc⟩
      · exact Or.inl hc
      · refine Or.inr ⟨i, t, ?_, ht, hc⟩
        have hlt : i < s.threads.length := (List.getElem?_eq_some_iff.mp hi).1
        rw [List.getElem?_append_left hlt]
        exact hi
  · exact absurd hnext (by simp)

/-- A step of a thread that is still in progress afterwards: it moved on to servers `done'`
and may have carried its write out at one server. -/
lemma CellInv.step_inProgress {s : Threads} {i : Nat} {done' : List ServerInfo}
    (h : CellInv k p s) (hi : s.threads[i]? = some t) (hw : AllLive p w')
    (hlist : (w'.server p).serverList = (s.world.server p).serverList)
    (hwrite : t'.write = t.write) (ht : t.inProgress = true) (ht' : t'.inProgress = true)
    (hcell : ∀ a, cellsOf (w'.server a).table k = cellsOf (s.world.server a).table k ∨
      ((opOf t.write).key = k ∧ cellsOf (w'.server a).table k = leaves t.write))
    (hs : Stands (s.world.server p).serverList done' t'.phase)
    (hdone : (opOf t.write).key = k → ∀ it ∈ done', it.isPrimary = false →
      cellsOf (w'.server it.address).table k = leaves t.write) :
    CellInv k p { world := w', threads := s.threads.set i t' } := by
  have hiff : WritesTo k t' ↔ WritesTo k t := by
    unfold WritesTo
    rw [hwrite, ht, ht']
  have hmem : ∀ a, a ∈ replicas w' p ↔ a ∈ replicas s.world p := by
    intro a
    unfold replicas
    rw [hlist]
  refine ⟨hw, ?_, ?_, ?_, ?_⟩
  · intro j u hj
    rcases (getElem?_set_iff hi).mp hj with ⟨-, rfl⟩ | ⟨-, hj⟩
    · have hh := h.handles i t hi
      exact ⟨by rw [hwrite]; exact hh.resets, by rw [hwrite]; exact hh.commaFree,
        by rw [hwrite]; exact hh.line⟩
    · exact h.handles j u hj
  · intro j u hj
    rw [hlist]
    rcases (getElem?_set_iff hi).mp hj with ⟨-, rfl⟩ | ⟨-, hj⟩
    · refine ⟨done', hs, fun hu it hit hp => ?_⟩
      rw [hwrite]
      exact hdone (hiff.mp hu).2 it hit hp
    · obtain ⟨done, hs, hd⟩ := h.stands j u hj
      refine ⟨done, hs, fun hu it hit hp => ?_⟩
      rcases hcell it.address with hc | ⟨hk, hc⟩
      · exact hc.trans (hd hu it hit hp)
      · exact hc.trans (h.agree i j t u hi hj ⟨ht, hk⟩ hu)
  · intro a b u v ha hb hu hv
    rcases (getElem?_set_iff hi).mp ha with ⟨-, rfl⟩ | ⟨-, ha'⟩
    · rcases (getElem?_set_iff hi).mp hb with ⟨-, rfl⟩ | ⟨-, hb'⟩
      · rfl
      · rw [hwrite]
        exact h.agree i b t v hi hb' (hiff.mp hu) hv
    · rcases (getElem?_set_iff hi).mp hb with ⟨-, rfl⟩ | ⟨-, hb'⟩
      · rw [hwrite]
        exact h.agree a i u t ha' hi hu (hiff.mp hv)
      · exact h.agree a b u v ha' hb' hu hv
  · obtain ⟨c, hvalues⟩ := h.values
    have hself : (s.threads.set i t')[i]? = some t' := (getElem?_set_iff hi).mpr (Or.inl ⟨rfl, rfl⟩)
    refine ⟨c, fun a ha => ?_⟩
    rcases hcell a with hc | ⟨hk, hc⟩
    · rcases hvalues a ((hmem a).mp ha) with hv | ⟨j, u, hj, hu, hv⟩
      · exact Or.inl (hc.trans hv)
      · right
        by_cases hji : j = i
        · subst hji
          have hut : u = t := Option.some.inj (hj.symm.trans hi)
          subst hut
          exact ⟨j, t', hself, hiff.mpr hu, by rw [hwrite]; exact hc.trans hv⟩
        · exact ⟨j, u, (getElem?_set_iff hi).mpr (Or.inr ⟨hji, hj⟩), hu, hc.trans hv⟩
    · exact Or.inr ⟨i, t', hself, hiff.mpr ⟨ht, hk⟩, by rw [hwrite]; exact hc⟩

/-- A thread that is answered has carried its write out everywhere. -/
lemma CellInv.step_finished {s : Threads} {i : Nat} (h : CellInv k p s)
    (hi : s.threads[i]? = some t) (ht : t.inProgress = true) (hwrite : t'.write = t.write)
    (hs : Stands (s.world.server p).serverList (s.world.server p).serverList t.phase)
    (hd : WritesTo k t → ∀ it ∈ (s.world.server p).serverList, it.isPrimary = false →
      cellsOf (s.world.server it.address).table k = leaves t.write)
    (ht' : t'.phase = .answered okMsg) :
    CellInv k p { world := applyAt s.world p t.write, threads := s.threads.set i t' } := by
  have hh := h.handles i t hi
  have hset := applyAt_sameSettings s.world p t.write
  have hlist := settings_serverList (hset p)
  have hmem : ∀ a, a ∈ replicas (applyAt s.world p t.write) p ↔ a ∈ replicas s.world p := by
    intro a
    unfold replicas
    rw [hlist]
  have hidle : ¬WritesTo k t' := by
    intro hw
    have hprogress := hw.1
    simp [Thread.inProgress, ht'] at hprogress
  have hother : ∀ it ∈ (s.world.server p).serverList, it.isPrimary = false →
      (applyAt s.world p t.write).server it.address = s.world.server it.address :=
    fun it hit hp => applyAt_server_of_ne s.world (h.live.leads.own it hit hp) t.write
  refine ⟨h.live.of_sameSettings hset h.live.connections, ?_, ?_, ?_, ?_⟩
  · intro j u hj
    rcases (getElem?_set_iff hi).mp hj with ⟨-, rfl⟩ | ⟨-, hj⟩
    · exact ⟨by rw [hwrite]; exact hh.resets, by rw [hwrite]; exact hh.commaFree,
        by rw [hwrite]; exact hh.line⟩
    · exact h.handles j u hj
  · intro j u hj
    rw [hlist]
    rcases (getElem?_set_iff hi).mp hj with ⟨-, rfl⟩ | ⟨-, hj⟩
    · refine ⟨(s.world.server p).serverList, ?_, fun hu => absurd hu hidle⟩
      rw [ht']
      exact ⟨rfl, rfl⟩
    · obtain ⟨done, hst, hcells⟩ := h.stands j u hj
      refine ⟨done, hst, fun hu it hit hp => ?_⟩
      rw [hother it (hst.mem hit) hp]
      exact hcells hu it hit hp
  · intro a b u v ha hb hu hv
    rcases (getElem?_set_iff hi).mp ha with ⟨-, rfl⟩ | ⟨-, ha'⟩
    · exact absurd hu hidle
    · rcases (getElem?_set_iff hi).mp hb with ⟨-, rfl⟩ | ⟨-, hb'⟩
      · exact absurd hv hidle
      · exact h.agree a b u v ha' hb' hu hv
  · by_cases hk : (opOf t.write).key = k
    · -- the cell is now the same at the primary and at all it sent the write to
      refine ⟨leaves t.write, fun a ha => Or.inl ?_⟩
      rcases mem_replicas.mp ((hmem a).mp ha) with rfl | ⟨it, hit, hlive, rfl⟩
      · exact applyAt_cell_self hh.resets hk s.world a
      · rw [hother it hit hlive.1]
        exact hd ⟨ht, hk⟩ it hit hlive.1
    · obtain ⟨c, hvalues⟩ := h.values
      refine ⟨c, fun a ha => ?_⟩
      have hsame := (applyAt_cell hh.resets s.world p a).resolve_right (fun hc => hk hc.1)
      rcases hvalues a ((hmem a).mp ha) with hv | ⟨j, u, hj, hu, hv⟩
      · exact Or.inl (hsame.trans hv)
      · have hji : j ≠ i := by
          rintro rfl
          have hut : u = t := Option.some.inj (hj.symm.trans hi)
          exact hk (hut ▸ hu.2)
        exact Or.inr ⟨j, u, (getElem?_set_iff hi).mpr (Or.inr ⟨hji, hj⟩), hu, hsame.trans hv⟩

/-- Every event keeps the invariant of the cell. -/
theorem CellInv.next {s s' : Threads} {e : ThreadEvent} (h : CellInv k p s)
    (hok : OneEffect k s e) (hnext : s.next p e = some s') : CellInv k p s' := by
  cases e with
  | accept x command => exact h.accept hok hnext
  | step i =>
    unfold Threads.next at hnext
    dsimp only at hnext
    obtain ⟨t, hi, hnext⟩ := Option.bind_eq_some_iff.mp hnext
    obtain ⟨⟨w', t'⟩, hstep, hnext⟩ := Option.bind_eq_some_iff.mp hnext
    cases hnext
    obtain ⟨done, hs, hd⟩ := h.stands i t hi
    have hh := h.handles i t hi
    obtain ⟨hwrite, ht, hcases⟩ := Thread.step_cases h.live hh hs hstep
    rcases hcases with ⟨rfl, ht', done', hs', hsub⟩ | ⟨it, hit, hp, rfl, ht', hs'⟩ |
      ⟨rfl, rfl, ht'⟩
    · refine h.step_inProgress hi h.live rfl hwrite ht ht' (fun a => Or.inl rfl) hs' ?_
      exact fun hk it hit hp => hd ⟨ht, hk⟩ it (hsub it hit hp) hp
    · have hset := applyAt_sameSettings s.world it.address t.write
      refine h.step_inProgress hi (h.live.of_sameSettings hset h.live.connections)
        (settings_serverList (hset p)) hwrite ht ht' (applyAt_cell hh.resets s.world it.address)
        hs' ?_
      intro hk y hy hyp
      rcases List.mem_append.mp hy with hy | hy
      · rcases applyAt_cell (k := k) hh.resets s.world it.address y.address with hc | ⟨-, hc⟩
        · exact hc.trans (hd ⟨ht, hk⟩ y hy hyp)
        · exact hc
      · rw [List.mem_singleton.mp hy]
        exact applyAt_cell_self hh.resets hk s.world it.address
    · exact h.step_finished hi ht hwrite hs hd ht'

/-- The group with a primary that takes requests on any number of connections. -/
def concurrent (p : Address) : System Threads ThreadEvent where
  init s := InSync p s.world ∧ s.threads = []
  next := Threads.next p

theorem concurrent_cellInv {s : Threads} (h : (concurrent p).Reachable (OneEffect k) s) :
    CellInv k p s := by
  refine h.invariant ?_ (fun _ _ _ hs hok hnext => CellInv.next hs hok hnext)
  rintro s ⟨hsync, hnone⟩
  refine ⟨hsync.toAllLive, ?_, ?_, ?_, ?_⟩
  · intro i t hi
    simp [hnone] at hi
  · intro i t hi
    simp [hnone] at hi
  · intro i j t u hi
    simp [hnone] at hi
  · refine ⟨cellsOf (s.world.server p).table k, fun a ha => Or.inl ?_⟩
    exact congrFun (hsync.cellsOf_eq ha) k

/-- Once every request was answered, all replicas hold the same in a cell that was never
written at the same time by requests that leave different values there. -/
theorem concurrent_writes_agree {s : Threads} (h : (concurrent p).Reachable (OneEffect k) s)
    (hquiet : ∀ t ∈ s.threads, t.phase = .answered okMsg) {a b : Address}
    (ha : a ∈ replicas s.world p) (hb : b ∈ replicas s.world p) :
    (s.world.server a).table.get k.1 k.2 = (s.world.server b).table.get k.1 k.2 := by
  obtain ⟨c, hvalues⟩ := (concurrent_cellInv h).values
  have hcommon : ∀ a ∈ replicas s.world p, cellsOf (s.world.server a).table k = c := by
    intro a ha
    refine (hvalues a ha).resolve_right ?_
    rintro ⟨i, t, hi, ht, -⟩
    have hprogress := ht.1
    simp [Thread.inProgress, hquiet t (List.mem_of_getElem? hi)] at hprogress
  exact (hcommon a ha).trans (hcommon b hb).symm

/-- Two clients write the cell r,c at the primary of group 1. The first write reaches both
secondaries, then the second is carried out everywhere, and last the first one at the
primary. -/
def crossedPuts : List ThreadEvent :=
  [.accept (.put ['r'] ['c'] ['v']) "PUT r,c,v".toList,
    .accept (.put ['r'] ['c'] ['w']) "PUT r,c,w".toList] ++
  List.replicate 7 (.step 0) ++ List.replicate 8 (.step 1) ++ [.step 0]

def idleGroup : Threads := ⟨group1 (fun _ => ∅) [], []⟩

theorem concurrent_puts_disagree : ∃ s, (concurrent (group1Address 2001)).init idleGroup ∧
    (concurrent (group1Address 2001)).exec idleGroup crossedPuts = some s ∧
    s.threads.map Thread.phase = [.answered okMsg, .answered okMsg] ∧
    (s.world.server (group1Address 2001)).table.get ['r'] ['c'] = some ['v'] ∧
    (s.world.server (group1Address 2002)).table.get ['r'] ['c'] = some ['w'] := by
  have hrun : ((concurrent (group1Address 2001)).exec idleGroup crossedPuts).map (fun s =>
      (s.threads.map Thread.phase, (s.world.server (group1Address 2001)).table.get ['r'] ['c'],
        (s.world.server (group1Address 2002)).table.get ['r'] ['c'])) =
      some ([.answered okMsg, .answered okMsg], some ['v'], some ['w']) := by
    decide +kernel
  obtain ⟨s, hs, hr⟩ := Option.map_eq_some_iff.mp hrun
  obtain ⟨hphases, hr⟩ := Prod.mk.inj hr
  obtain ⟨hp, ha⟩ := Prod.mk.inj hr
  exact ⟨s, ⟨group1_inSync ∅, rfl⟩, hs, hphases, hp, ha⟩

instance (k : Str × Str) : DecidablePred (WritesTo k) :=
  fun _ => inferInstanceAs (Decidable (_ ∧ _))

instance (k : Str × Str) (s : Threads) : DecidablePred (OneEffect k s) := fun e =>
  match e with
  | .accept _ _ => inferInstanceAs (Decidable (_ ∧ _ ∧ (_ → _)))
  | .step _ => isTrue trivial

/-- Two clients write the same into the cell r,c and a third one writes the cell r,d, all at
once: their threads take turns. -/
def sharedPuts : List ThreadEvent :=
  [.accept (.put ['r'] ['c'] ['v']) "PUT r,c,v".toList, .step 0,
    .accept (.put ['r'] ['c'] ['v']) "PUT r,c,v".toList,
    .accept (.put ['r'] ['d'] ['w']) "PUT r,d,w".toList] ++
  (List.replicate 8 [.step 2, .step 1, .step 0]).flatten.dropLast

theorem concurrent_writes_agree_shared : ∃ s,
    (concurrent (group1Address 2001)).exec idleGroup sharedPuts = some s ∧
    s.threads.map Thread.phase = List.replicate 3 (.answered okMsg) ∧
    (s.world.server (group1Address 2001)).table.get ['r'] ['c'] = some ['v'] ∧
    ∀ a ∈ [group1Address 2002, group1Address 2003],
      (s.world.server a).table.get ['r'] ['c'] =
        (s.world.server (group1Address 2001)).table.get ['r'] ['c'] := by
  have hrun : ((concurrent (group1Address 2001)).exec idleGroup sharedPuts).map (fun s =>
      (s.threads.map Thread.phase, (s.world.server (group1Address 2001)).table.get ['r'] ['c'],
        decide (group1Address 2001 ∈ replicas s.world (group1Address 2001) ∧
          group1Address 2002 ∈ replicas s.world (group1Address 2001) ∧
          group1Address 2003 ∈ replicas s.world (group1Address 2001)))) =
      some (List.replicate 3 (.answered okMsg), some ['v'], true) := by
    decide +kernel
  have hcheck : (concurrent (group1Address 2001)).checkAlong
      (fun s e => decide (OneEffect (['r'], ['c']) s e)) idleGroup sharedPuts = true := by
    decide +kernel
  obtain ⟨s, hs, hr⟩ := Option.map_eq_some_iff.mp hrun
  obtain ⟨hphases, hr⟩ := Prod.mk.inj hr
  obtain ⟨hvalue, hmem⟩ := Prod.mk.inj hr
  obtain ⟨hfirst, hsecond, hthird⟩ := of_decide_eq_true hmem
  have hreach : (concurrent (group1Address 2001)).Reachable (OneEffect (['r'], ['c'])) s := by
    refine System.Reachable.of_check ?_ (.init ⟨group1_inSync ∅, rfl⟩) hcheck hs
    exact fun _ _ _ h => of_decide_eq_true h
  have hquiet : ∀ t ∈ s.threads, t.phase = .answered okMsg := by
    intro t ht
    have hin : t.phase ∈ s.threads.map Thread.phase := List.mem_map_of_mem ht
    rw [hphases] at hin
    exact List.eq_of_mem_replicate hin
  refine ⟨s, hs, hphases, hvalue, fun a ha => ?_⟩
  simp only [List.mem_cons, List.not_mem_nil, or_false] at ha
  rcases ha with rfl | rfl
  · exact concurrent_writes_agree hreach hquiet hsecond hfirst
  · exact concurrent_writes_agree hreach hquiet hthird hfirst

end CloudStorage.Proofs
