import CloudStorage.Checkpointing
import CloudStorage.Lib.Checkpoints
import CloudStorage.Proofs.CheckpointCrash
import CloudStorage.Proofs.Durability

/-!
# Checkpoints among connection threads

Threads that checkpoint and threads that write take their steps in any order. This file
relates them to the writers of the library on checkpoints, whose invariant needs that no
line reaches the log late, and shows a line that does: it is appended when the snapshot has
passed its cell, and the truncation of the log removes it.
-/

namespace CloudStorage.Proofs
open DelimitedText Registers Checkpoints

/-! ### Single steps on the files -/

/-- The cells that loading the file at `path` gives. -/
def cellsIn (path : Str) (d : Disk) : Str × Str → Option Str :=
  cellsOf (loadDataFile (readFile path d) ∅)

lemma cellsIn_congr {path : Str} {d d' : Disk} (h : readFile path d' = readFile path d) :
    cellsIn path d' = cellsIn path d := by
  rw [cellsIn, h, cellsIn]

/-- The file holds complete lines. -/
def WholeLines (text : Str) : Prop :=
  ∃ lines, (∀ l ∈ lines, '\n' ∉ l) ∧ text = terminated '\n' lines

lemma WholeLines.append {text line : Str} (h : WholeLines text) (hl : '\n' ∉ line) :
    WholeLines (text ++ line ++ ['\n']) := by
  obtain ⟨lines, hlines, rfl⟩ := h
  refine ⟨lines ++ [line], ?_, ?_⟩
  · intro x hx
    cases List.mem_append.mp hx with
    | inl hx => exact hlines x hx
    | inr hx => exact List.mem_singleton.mp hx ▸ hl
  · simp [terminated]

lemma loadDataFile_append {text line : Str} (h : WholeLines text) (hl : '\n' ∉ line) (t : Table) :
    loadDataFile (text ++ line ++ ['\n']) t = loadLine (loadDataFile text t) line := by
  obtain ⟨lines, hlines, rfl⟩ := h
  have happend : terminated '\n' lines ++ line ++ ['\n'] = terminated '\n' (lines ++ [line]) := by
    simp [terminated]
  have hall : ∀ x ∈ lines ++ [line], '\n' ∉ x := by
    intro x hx
    cases List.mem_append.mp hx with
    | inl hx => exact hlines x hx
    | inr hx => exact List.mem_singleton.mp hx ▸ hl
  rw [happend, loadDataFile, getlines_terminated hall, loadDataFile, getlines_terminated hlines,
    List.foldl_append]
  rfl

lemma PlainTable.run {t : Table} (h : PlainTable t) {x : Write} (hx : Plain x)
    (hr : (opOf x).Resets) : PlainTable (x.run t).1 := by
  intro r c v hv
  have hcell : cellsOf (x.run t).1 (r, c) = some v := hv
  rw [cellsOf_run_of_resets hr] at hcell
  split at hcell
  · next hk =>
    cases x with
    | put row col value =>
      obtain ⟨rfl, rfl⟩ := Prod.mk.inj hk
      have hvalue : value = v := Option.some.inj hcell
      subst hvalue
      exact ⟨hx row (by simp [Write.fields]), hx col (by simp [Write.fields]),
        hx value (by simp [Write.fields])⟩
    | cput row col cur new => exact hr.elim
    | delete row col => exact absurd hcell (by simp [leaves])
  · exact h r c v hcell

/-- The temporary file holds the time only. -/
lemma beginTmp (path : Str) (result : Nat) (d : Disk) :
    appendToFile (tmpPath path) (toStr result) (truncateFile (tmpPath path) d) =
      Function.update d (tmpPath path) (some (toStr result ++ ['\n'])) := by
  rw [appendToFile, readFile_truncateFile, if_pos rfl, truncateFile, FileStep.run,
    Function.update_idem, List.nil_append]

/-! ### A thread by itself -/

/-- Steps of one thread with nothing in between. -/
def saveSteps (result : Nat) : Nat → SaveThread → Node → Option (Node × SaveThread)
  | 0, t, n => some (n, t)
  | k + 1, t, n => (t.step result n).bind (fun r => saveSteps result k r.2 r.1)

lemma saveSteps_succ {result k : Nat} {t : SaveThread} {n : Node} {r : Node × SaveThread}
    (h : t.step result n = some r) :
    saveSteps result (k + 1) t n = saveSteps result k r.2 r.1 := by
  rw [saveSteps, h, Option.bind_some]

def withTmp (n : Node) (text : Str) : Node :=
  { n with disk := Function.update n.disk (tmpPath n.server.diskFilePath) (some text) }

/-- The snapshot writes the lines of the cells that are left. -/
lemma saveSteps_snapshot (result k : Nat) (x : Write) (l : List ((Str × Str) × Str)) (n : Node)
    (text : Str) (hl : ∀ e ∈ l, n.server.table.get e.1.1 e.1.2 = some e.2) :
    saveSteps result (l.length + k) ⟨x, .snapshot (l.map Prod.fst)⟩ (withTmp n text) =
      saveSteps result k ⟨x, .snapshot []⟩ (withTmp n
        (text ++ terminated '\n' (l.map (fun e => joined ',' [e.1.1, e.1.2, e.2])))) := by
  induction l generalizing text with
  | nil => simp [terminated]
  | cons e l ih =>
    obtain ⟨⟨row, column⟩, value⟩ := e
    have hv : n.server.table.get row column = some value := hl _ List.mem_cons_self
    have hstep : SaveThread.step result (withTmp n text)
        ⟨x, .snapshot ((row, column) :: l.map Prod.fst)⟩ =
        some (withTmp n (text ++ joined ',' [row, column, value] ++ ['\n']),
          ⟨x, .snapshot (l.map Prod.fst)⟩) := by
      simp only [SaveThread.step, withTmp, hv, appendToFile, Function.update_idem,
        readFile_update, if_pos, Option.getD_some]
    have hnext := ih (text ++ joined ',' [row, column, value] ++ ['\n'])
      (fun y hy => hl y (List.mem_cons_of_mem _ hy))
    have hlen : (((row, column), value) :: l).length + k = l.length + k + 1 := by
      simp only [List.length_cons]
      omega
    rw [hlen, List.map_cons, saveSteps_succ hstep, hnext]
    simp [terminated, List.append_assoc]

/-- A thread that nothing interrupts does what `handleCommand` and the checkpoint after it
do. -/
theorem save_alone (x : Write) (n : Node) (result : Nat) :
    ∃ k, saveSteps result k ⟨x, .updating⟩ n =
      some (checkpointAfter result (applyWrite x n).1, ⟨x, .answered⟩) := by
  have hcheck : ∀ m : Node, ∃ k, saveSteps result k ⟨x, .checking⟩ m =
      some (checkpointAfter result m, ⟨x, .answered⟩) := by
    intro m
    by_cases hfull : m.writes = CHECKPOINTING_THRESHOLD
    · have hcells : ∀ e ∈ m.server.table.cells, m.server.table.get e.1.1 e.1.2 = some e.2 :=
        fun e he => (NestedMap.mem_cells _ e.1.1 e.1.2 e.2).mp he
      refine ⟨m.server.table.cells.length + 4 + 1, ?_⟩
      have hbegin : SaveThread.step result m ⟨x, .checking⟩ =
          some (withTmp m (toStr result ++ ['\n']),
            ⟨x, .snapshot (m.server.table.cells.map Prod.fst)⟩) := by
        rw [SaveThread.step]
        simp only [hfull, if_true, beginTmp]
        rfl
      have htext : toStr result ++ ['\n'] ++ terminated '\n' (m.server.table.cells.map
          (fun e => joined ',' [e.1.1, e.1.2, e.2])) = checkpointText result m.server.table := by
        simp [checkpointText, checkpointLines, terminated]
      rw [saveSteps_succ hbegin, saveSteps_snapshot result 4 x _ _ _ hcells, htext,
        checkpointAfter, if_pos hfull, checkpointNode, checkpointTable_eq]
      rfl
    · refine ⟨1, ?_⟩
      rw [saveSteps_succ (by rw [SaveThread.step]; exact if_neg hfull), checkpointAfter,
        if_neg hfull]
      rfl
  obtain ⟨k, hk⟩ := hcheck (applyWrite x n).1
  cases hrun : (x.run n.server.table).2 with
  | false =>
    refine ⟨k + 1, ?_⟩
    have hstep : SaveThread.step result n ⟨x, .updating⟩ =
        some ((applyWrite x n).1, ⟨x, .checking⟩) := by
      rw [applyWrite_of_failed hrun]
      simp only [SaveThread.step, hrun, Bool.false_eq_true, if_false]
    rw [saveSteps_succ hstep, hk]
  | true =>
    refine ⟨k + 2, ?_⟩
    have hstep : SaveThread.step result n ⟨x, .updating⟩ =
        some (n.setTable (x.run n.server.table).1, ⟨x, .logging⟩) := by
      simp only [SaveThread.step, hrun, if_true]
    have happly : handleAppend x.line (n.setTable (x.run n.server.table).1) =
        (applyWrite x n).1 := by
      unfold applyWrite
      dsimp only
      rw [hrun]
      rfl
    rw [saveSteps_succ hstep, saveSteps_succ (by rw [SaveThread.step]), happly, hk]

/-! ### The writers behind the threads -/

def writerPhase : SavePhase → Checkpoints.Phase (Str × Str)
  | .updating => .updating
  | .logging => .logging
  | .checking => .checking
  | .snapshot rest => .snapshot rest
  | .replacing => .replacing
  | .truncating => .truncating
  | .resetting => .done
  | .answered => .done

def writerOf (t : SaveThread) : Checkpoints.Writer (Str × Str) Str where
  key := (opOf t.write).key
  value := leaves t.write
  phase := writerPhase t.phase

/-- What the log `ws` leaves in the cells. -/
def entryOf (x : Write) : (Str × Str) × Option Str := ((opOf x).key, leaves x)

def pathOf (s : Saving) : Str := s.node.server.diskFilePath

/-- A server and its threads, seen as writers that checkpoint. -/
def writersOf (s : Saving) (ws : List Write) : Checkpoints.State (Str × Str) Str where
  memory := cellsOf s.node.server.table
  data := cellsIn (pathOf s) s.node.disk
  copy := cellsIn (tmpPath (pathOf s)) s.node.disk
  log := ws.map entryOf
  writers := s.threads.map writerOf

lemma overlay_entries {ws : List Write} (h : ∀ w ∈ ws, (opOf w).Resets) (t : Table) :
    overlay (ws.map entryOf) (cellsOf t) = cellsOf (runAll ws t) := by
  induction ws generalizing t with
  | nil => rfl
  | cons w ws ih =>
    have hw : Function.update (cellsOf t) (opOf w).key (leaves w) = cellsOf (w.run t).1 := by
      funext k
      rw [cellsOf_run_of_resets (h w List.mem_cons_self), Function.update_apply]
      simp only [eq_comm]
    exact (congrArg (overlay (ws.map entryOf)) hw).trans
      (ih (fun x hx => h x (List.mem_cons_of_mem w hx)) _)

lemma writers_get (s : Saving) (ws : List Write) (j : Nat)
    (u : Checkpoints.Writer (Str × Str) Str) :
    (writersOf s ws).writers[j]? = some u ↔ ∃ t, s.threads[j]? = some t ∧ writerOf t = u := by
  simp [writersOf]

lemma moved {s : Saving} {ws ws' : List Write} {i : Nat} {t t' : SaveThread} {n : Node}
    (ht : s.threads[i]? = some t) (hwrite : t'.write = t.write) :
    State.Moved (writersOf s ws) (writersOf ⟨n, s.threads.set i t'⟩ ws') i (writerOf t)
      (writerPhase t'.phase) := by
  constructor
  · exact (writers_get s ws i _).mpr ⟨t, ht, rfl⟩
  · simp only [writersOf, List.map_set]
    congr 1
    simp [writerOf, hwrite]

/-! ### Orderly runs -/

/-- The cell holds `v`, or a thread other than `i` is about to log what the cell holds. -/
def Settles (s : Saving) (i : Nat) (k : Str × Str) (v : Option Str) : Prop :=
  v = cellsOf s.node.server.table k ∨ ∃ (j : Nat) (t : SaveThread), j ≠ i ∧ s.threads[j]? = some t ∧
    t.phase = .logging ∧ (opOf t.write).key = k ∧
    leaves t.write = cellsOf s.node.server.table k

/-- Thread `i` may append its line: neither has a later value of the cell been logged, nor
does a checkpoint that will truncate the log hold another value. -/
structure LogsInOrder (s : Saving) (i : Nat) (x : Write) : Prop where
  latest : Settles s i (opOf x).key (leaves x)
  copied : ∀ (j : Nat) t rest, s.threads[j]? = some t → t.phase = .snapshot rest →
    (opOf x).key ∉ rest →
    Settles s i (opOf x).key (cellsIn (tmpPath (pathOf s)) s.node.disk (opOf x).key)
  complete : ∀ (j : Nat) t, s.threads[j]? = some t → t.phase = .replacing →
    Settles s i (opOf x).key (cellsIn (tmpPath (pathOf s)) s.node.disk (opOf x).key)
  replaced : ∀ (j : Nat) t, s.threads[j]? = some t → t.phase = .truncating →
    (∀ (l : Nat) u, s.threads[l]? = some u → u.phase ≠ .replacing) →
    Settles s i (opOf x).key (cellsIn (pathOf s) s.node.disk (opOf x).key)

/-- The thread has the temporary file in use. -/
def UsesTmp : SavePhase → Prop
  | .snapshot _ => True
  | .replacing => True
  | _ => False

/-- The condition on a step: a write is a PUT or a DELETE with plain parameters, a line is
appended in order, and one checkpoint at a time uses the temporary file. -/
def Orderly (s : Saving) : SaveEvent → Prop
  | .accept x => Plain x ∧ (opOf x).Resets
  | .step i _ => ∀ t, s.threads[i]? = some t →
    (t.phase = .logging → LogsInOrder s i t.write) ∧
    (t.phase = .checking → s.node.writes = CHECKPOINTING_THRESHOLD →
      ∀ (j : Nat) u, j ≠ i → s.threads[j]? = some u → ¬UsesTmp u.phase)

/-- A server that was started from files with plain cells and a log of PUTs and DELETEs,
and the threads of its connections. -/
def savingServer : System Saving SaveEvent where
  init s := s.threads = [] ∧ ∃ g info servers result d ws,
    LogHolds (storagePath g info.tcpPort) d ws ∧ (∀ w ∈ ws, (opOf w).Resets) ∧
      PlainTable (loadDataFile (readFile (storagePath g info.tcpPort) d) ∅) ∧
      startProcess g info servers result d = some s.node
  next s e := s.next e

/-- The invariant: the files are those of the writers, and every line can be read back. -/
structure SaveInv (s : Saving) (ws : List Write) : Prop where
  own : pathOf s = storagePath s.node.server.replicaGroup s.node.server.myInfo.tcpPort
  notReading : s.node.server.currentlyReadingFromCheckpointFile = false
  log : LogHolds (pathOf s) s.node.disk ws
  resets : ∀ w ∈ ws, (opOf w).Resets
  plain : PlainTable s.node.server.table
  writes : ∀ t ∈ s.threads, Plain t.write ∧ (opOf t.write).Resets
  tmp : ∀ t ∈ s.threads, UsesTmp t.phase →
    ∃ text, s.node.disk (tmpPath (pathOf s)) = some text ∧ WholeLines text
  inv : Inv (writersOf s ws)

/-! ### Steps that write -/

lemma usesCopy_iff (p : SavePhase) : (writerPhase p).UsesCopy ↔ UsesTmp p := by
  cases p <;> exact Iff.rfl

lemma writerPhase_snapshot {p : SavePhase} {rest : List (Str × Str)}
    (h : writerPhase p = .snapshot rest) : p = .snapshot rest := by
  cases p with
  | snapshot rest' => exact congrArg SavePhase.snapshot (Checkpoints.Phase.snapshot.inj h)
  | _ => simp [writerPhase] at h

lemma writerPhase_replacing {p : SavePhase} (h : writerPhase p = .replacing) :
    p = .replacing := by
  cases p <;> simp [writerPhase] at h ⊢

lemma writerPhase_truncating {p : SavePhase} (h : writerPhase p = .truncating) :
    p = .truncating := by
  cases p <;> simp [writerPhase] at h ⊢

section steps

variable {s : Saving} {ws : List Write} {i : Nat} {t : SaveThread}

lemma Settles.settled {k : Str × Str} {v : Option Str} (h : Settles s i k v) :
    (writersOf s ws).Settled (· ≠ i) k v := by
  cases h with
  | inl hv => exact Or.inl hv
  | inr ho =>
    obtain ⟨j, t, hj, ht, hl, hk, hv⟩ := ho
    refine Or.inr ⟨j, writerOf t, hj, (writers_get s ws j _).mpr ⟨t, ht, rfl⟩, ?_, hk, hv⟩
    rw [writerOf, hl, writerPhase]

lemma SaveInv.writes_set (h : SaveInv s ws) (ht : s.threads[i]? = some t) (p : SavePhase) :
    ∀ u ∈ s.threads.set i { t with phase := p }, Plain u.write ∧ (opOf u.write).Resets := by
  intro u hu
  cases List.mem_or_eq_of_mem_set hu with
  | inl hu => exact h.writes u hu
  | inr hu =>
    subst hu
    exact h.writes t (List.mem_of_getElem? ht)

/-- A step that leaves the temporary file alone. -/
lemma SaveInv.tmp_set (h : SaveInv s ws) (ht : s.threads[i]? = some t) {p : SavePhase} {d : Disk}
    (hp : UsesTmp p → UsesTmp t.phase)
    (hd : d (tmpPath (pathOf s)) = s.node.disk (tmpPath (pathOf s))) :
    ∀ u ∈ s.threads.set i { t with phase := p }, UsesTmp u.phase →
      ∃ text, d (tmpPath (pathOf s)) = some text ∧ WholeLines text := by
  intro u hu huse
  rw [hd]
  cases List.mem_or_eq_of_mem_set hu with
  | inl hu => exact h.tmp u hu huse
  | inr hu =>
    subst hu
    exact h.tmp t (List.mem_of_getElem? ht) (hp huse)

theorem SaveInv.update (h : SaveInv s ws) (ht : s.threads[i]? = some t)
    (hp : t.phase = .updating) :
    SaveInv ⟨s.node.setTable (t.write.run s.node.server.table).1,
      s.threads.set i { t with phase := .logging }⟩ ws := by
  obtain ⟨hx, hr⟩ := h.writes t (List.mem_of_getElem? ht)
  refine ⟨h.own, h.notReading, h.log, h.resets, h.plain.run hx hr, h.writes_set ht _,
    h.tmp_set ht False.elim rfl, ?_⟩
  refine h.inv.update (moved ht rfl) (by rw [writerOf, hp, writerPhase]) ?_ rfl rfl rfl
  funext k
  have hcell := cellsOf_run_of_resets hr s.node.server.table k
  simp only [writersOf, Node.setTable, writerOf, Function.update_apply]
  rw [hcell]
  simp only [eq_comm]

theorem SaveInv.log_line (h : SaveInv s ws) (ht : s.threads[i]? = some t)
    (hp : t.phase = .logging) (hok : LogsInOrder s i t.write) :
    SaveInv ⟨handleAppend t.write.line s.node,
      s.threads.set i { t with phase := .checking }⟩ (ws ++ [t.write]) := by
  obtain ⟨hx, hr⟩ := h.writes t (List.mem_of_getElem? ht)
  have happend : handleAppend t.write.line s.node =
      { server := { s.node.server with
          currentNumberOfWritesForReplicaAndServer :=
            s.node.server.currentNumberOfWritesForReplicaAndServer + 1 }
        disk := appendToFile (checkpointPath (pathOf s)) t.write.line s.node.disk } :=
    if_pos ⟨line_length_pos t.write, h.notReading⟩
  have hdata : cellsIn (pathOf s) (appendToFile (checkpointPath (pathOf s)) t.write.line
      s.node.disk) = cellsIn (pathOf s) s.node.disk := by
    apply cellsIn_congr
    rw [readFile_appendToFile, if_neg (checkpointPath_ne (pathOf s))]
  have htmp := Ne.symm (checkpointPath_ne_tmpPath (pathOf s))
  have hcopy : cellsIn (tmpPath (pathOf s)) (appendToFile (checkpointPath (pathOf s)) t.write.line
      s.node.disk) = cellsIn (tmpPath (pathOf s)) s.node.disk := by
    apply cellsIn_congr
    rw [readFile_appendToFile, if_neg htmp]
  rw [happend]
  refine ⟨h.own, h.notReading, h.log.append hx, ?_, h.plain, h.writes_set ht _,
    h.tmp_set ht False.elim (Function.update_of_ne htmp _ _), ?_⟩
  · intro w hw
    cases List.mem_append.mp hw with
    | inl hw => exact h.resets w hw
    | inr hw => exact List.mem_singleton.mp hw ▸ hr
  · refine h.inv.append (moved ht rfl) (by rw [writerOf, hp, writerPhase]) rfl hdata hcopy ?_
      hok.latest.settled ?_ ?_ ?_
    · simp [writersOf, writerOf, entryOf]
    · intro j u rest hu hrest hk
      obtain ⟨x, hj, rfl⟩ := (writers_get s ws j u).mp hu
      exact (hok.copied j x rest hj (writerPhase_snapshot hrest) hk).settled
    · intro j u hu hrep
      obtain ⟨x, hj, rfl⟩ := (writers_get s ws j u).mp hu
      exact (hok.complete j x hj (writerPhase_replacing hrep)).settled
    · intro j u hu htr hno
      obtain ⟨x, hj, rfl⟩ := (writers_get s ws j u).mp hu
      refine (hok.replaced j x hj (writerPhase_truncating htr) ?_).settled
      intro l y hl hy
      exact hno l (writerOf y) ((writers_get s ws l _).mpr ⟨y, hl, rfl⟩)
        (by rw [writerOf, hy, writerPhase])

/-- The counter is below the threshold. -/
theorem SaveInv.skip (h : SaveInv s ws) (ht : s.threads[i]? = some t)
    (hp : t.phase = .checking) :
    SaveInv ⟨s.node, s.threads.set i { t with phase := .answered }⟩ ws :=
  ⟨h.own, h.notReading, h.log, h.resets, h.plain, h.writes_set ht _,
    h.tmp_set ht False.elim rfl,
    h.inv.skip (moved ht rfl) (by rw [writerOf, hp, writerPhase]) rfl rfl rfl rfl⟩

/-! ### Steps of a checkpoint -/

lemma LogHolds.of_update {path q : Str} {d : Disk} (h : LogHolds path d ws) {v : Option Str}
    (hc : checkpointPath path ≠ q) (hd : deadServerLogPath path ≠ q) :
    LogHolds path (Function.update d q v) ws := by
  refine ⟨?_, h.plain, ?_⟩
  · rw [readFile_update, if_neg hc]
    exact h.log
  · rw [readFile_update, if_neg hd]
    exact h.dead

lemma cellsIn_update {path q : Str} (d : Disk) (v : Option Str) (hq : path ≠ q) :
    cellsIn path (Function.update d q v) = cellsIn path d := by
  apply cellsIn_congr
  rw [readFile_update, if_neg hq]

lemma cellsIn_update_self (q text : Str) (d : Disk) :
    cellsIn q (Function.update d q (some text)) = cellsOf (loadDataFile text ∅) := by
  rw [cellsIn, readFile_update, if_pos rfl, Option.getD_some]

theorem SaveInv.begin (h : SaveInv s ws) (ht : s.threads[i]? = some t)
    (hp : t.phase = .checking) (result : Nat)
    (halone : ∀ (j : Nat) u, j ≠ i → s.threads[j]? = some u → ¬UsesTmp u.phase) :
    SaveInv ⟨{ s.node with
        disk := appendToFile (tmpPath (pathOf s)) (toStr result)
          (truncateFile (tmpPath (pathOf s)) s.node.disk) },
      s.threads.set i { t with phase := .snapshot (s.node.server.table.cells.map Prod.fst) }⟩
      ws := by
  have hlines : WholeLines (toStr result ++ ['\n']) := by
    refine ⟨[toStr result], ?_, by simp [terminated]⟩
    intro l hl
    exact List.mem_singleton.mp hl ▸ (cleanField_toStr result).2
  have hck := checkpointPath_ne_tmpPath (pathOf s)
  have hdead := deadServerLogPath_ne_tmpPath (pathOf s)
  rw [beginTmp]
  refine ⟨h.own, h.notReading, h.log.of_update hck hdead, h.resets, h.plain, h.writes_set ht _,
    ?_, ?_⟩
  · intro u _ _
    exact ⟨_, Function.update_self _ _ _, hlines⟩
  · refine h.inv.begin (moved ht rfl) (by rw [writerOf, hp, writerPhase]) rfl
      (cellsIn_update _ _ (tmpPath_ne (pathOf s))) ?_ rfl
      (NestedMap.nodup_cells s.node.server.table) ?_ ?_
    · have hload : loadDataFile (toStr result ++ ['\n']) ∅ = ∅ := by
        have hnil : WholeLines [] := ⟨[], by simp, rfl⟩
        have hline := loadDataFile_append hnil (cleanField_toStr result).2 ∅
        rw [List.nil_append, loadLine_time] at hline
        exact hline
      refine (cellsIn_update_self _ _ _).trans ?_
      rw [hload]
      funext k
      exact NestedMap.get_empty k.1 k.2
    · intro k hk
      cases hv : s.node.server.table.get k.1 k.2 with
      | none => exact hv
      | some v =>
        have hmem := (NestedMap.mem_cells s.node.server.table k.1 k.2 v).mpr hv
        exact absurd (List.mem_map_of_mem hmem) hk
    · intro j u hj hu hcopy
      obtain ⟨x, hx, rfl⟩ := (writers_get s ws j u).mp hu
      exact halone j x hj hx ((usesCopy_iff x.phase).mp hcopy)

/-- One line of the snapshot. -/
theorem SaveInv.copy (h : SaveInv s ws) (ht : s.threads[i]? = some t) {row column value : Str}
    {rest : List (Str × Str)} (hp : t.phase = .snapshot ((row, column) :: rest))
    (hv : s.node.server.table.get row column = some value) :
    SaveInv ⟨{ s.node with
        disk := appendToFile (tmpPath (pathOf s)) (joined ',' [row, column, value])
          s.node.disk },
      s.threads.set i { t with phase := .snapshot rest }⟩ ws := by
  obtain ⟨hr, hc, hval⟩ := h.plain row column value hv
  obtain ⟨text, htext, hwhole⟩ := h.tmp t (List.mem_of_getElem? ht) (by rw [hp]; trivial)
  have hline : '\n' ∉ joined ',' [row, column, value] := by
    apply not_mem_joined (by decide)
    simp [hr.no_newline, hc.no_newline, hval.no_newline]
  have hread : readFile (tmpPath (pathOf s)) s.node.disk = text := by rw [readFile, htext]; rfl
  have hck := checkpointPath_ne_tmpPath (pathOf s)
  have hdead := deadServerLogPath_ne_tmpPath (pathOf s)
  refine ⟨h.own, h.notReading, h.log.of_update hck hdead, h.resets, h.plain, h.writes_set ht _,
    ?_, ?_⟩
  · intro u _ _
    refine ⟨_, Function.update_self _ _ _, ?_⟩
    rw [hread]
    exact hwhole.append hline
  · refine h.inv.copy (moved ht rfl) (by rw [writerOf, hp, writerPhase]) rfl
      (cellsIn_update _ _ (tmpPath_ne (pathOf s))) ?_ rfl
    have hload : loadDataFile (text ++ joined ',' [row, column, value] ++ ['\n']) ∅ =
        (loadDataFile text ∅).set row column value := by
      rw [loadDataFile_append hwhole hline, loadLine_cell _ ⟨hr.no_comma, hr.no_newline⟩
        ⟨hc.no_comma, hc.no_newline⟩ ⟨hval.no_comma, hval.no_newline⟩, if_neg hval.ne_nil]
    have hcopy : (writersOf s ws).copy = cellsOf (loadDataFile text ∅) := by
      rw [← hread]
      rfl
    refine (cellsIn_update_self _ _ _).trans ?_
    rw [hread, hload, hcopy]
    funext k
    have hmem : (writersOf s ws).memory (row, column) = some value := hv
    simp only [cellsOf, NestedMap.get_set, Function.update_apply, Prod.ext_iff, hmem]

/-- A cell that is gone by the time the snapshot reaches it. -/
theorem SaveInv.copy_none (h : SaveInv s ws) (ht : s.threads[i]? = some t) {row column : Str}
    {rest : List (Str × Str)} (hp : t.phase = .snapshot ((row, column) :: rest))
    (hv : s.node.server.table.get row column = none) :
    SaveInv ⟨s.node, s.threads.set i { t with phase := .snapshot rest }⟩ ws := by
  have hphase : (writerOf t).phase = .snapshot ((row, column) :: rest) := by
    rw [writerOf, hp, writerPhase]
  refine ⟨h.own, h.notReading, h.log, h.resets, h.plain, h.writes_set ht _,
    h.tmp_set ht (fun _ => by rw [hp]; trivial) rfl, ?_⟩
  refine h.inv.copy (moved ht rfl) hphase rfl rfl ?_ rfl
  obtain ⟨-, hfresh⟩ := h.inv.fresh i _ _ ((writers_get s ws i _).mpr ⟨t, ht, rfl⟩) hphase
  have hmem : (writersOf s ws).memory (row, column) = none := hv
  rw [hmem, Function.update_eq_self_iff.mpr (hfresh _ List.mem_cons_self).symm]
  rfl

theorem SaveInv.remove (h : SaveInv s ws) (ht : s.threads[i]? = some t)
    (hp : t.phase = .snapshot []) :
    SaveInv ⟨{ s.node with disk := (FileStep.remove (pathOf s)).run s.node.disk },
      s.threads.set i { t with phase := .replacing }⟩ ws := by
  have htmp := Ne.symm (tmpPath_ne (pathOf s))
  refine ⟨h.own, h.notReading, ?_, h.resets, h.plain, h.writes_set ht _,
    h.tmp_set ht (fun _ => by rw [hp]; trivial) (Function.update_of_ne htmp _ _), ?_⟩
  · exact h.log.of_update (Ne.symm (checkpointPath_ne _)) (Ne.symm (deadServerLogPath_ne _))
  · exact h.inv.remove (moved ht rfl) (by rw [writerOf, hp, writerPhase]) rfl
      (cellsIn_update _ _ htmp)

theorem SaveInv.rename (h : SaveInv s ws) (ht : s.threads[i]? = some t)
    (hp : t.phase = .replacing) :
    SaveInv ⟨{ s.node with
        disk := (FileStep.rename (tmpPath (pathOf s)) (pathOf s)).run s.node.disk },
      s.threads.set i { t with phase := .truncating }⟩ ws := by
  obtain ⟨text, htext, -⟩ := h.tmp t (List.mem_of_getElem? ht) (by rw [hp]; trivial)
  have hrun : (FileStep.rename (tmpPath (pathOf s)) (pathOf s)).run s.node.disk =
      Function.update (Function.update s.node.disk (tmpPath (pathOf s)) none) (pathOf s)
        (some text) := by
    simp only [FileStep.run, htext]
  have hself := (writers_get s ws i _).mpr ⟨t, ht, rfl⟩
  have hphase : (writerOf t).phase = .replacing := by rw [writerOf, hp, writerPhase]
  rw [hrun]
  refine ⟨h.own, h.notReading, ?_, h.resets, h.plain, h.writes_set ht _, ?_, ?_⟩
  · exact (h.log.of_update (checkpointPath_ne_tmpPath _) (deadServerLogPath_ne_tmpPath _)).of_update
      (Ne.symm (checkpointPath_ne _)) (Ne.symm (deadServerLogPath_ne _))
  · -- nobody else had the temporary file in use
    intro u hu huse
    obtain ⟨j, hj⟩ := List.mem_iff_getElem?.mp hu
    have hmv : State.Moved (writersOf s ws) (writersOf ⟨s.node,
        s.threads.set i { t with phase := .truncating }⟩ ws) i (writerOf t) .truncating :=
      moved ht rfl
    have hcopy := (usesCopy_iff u.phase).mpr huse
    have hphase' : (writerOf u).phase ≠ .truncating := by
      intro he
      have he : writerPhase u.phase = .truncating := he
      rw [he] at hcopy
      exact hcopy
    obtain ⟨hne, hother⟩ := hmv.back ((writers_get _ ws j _).mpr ⟨u, hj, rfl⟩) hphase'
    exact absurd (h.inv.solo j i _ _ hother hself hcopy (hphase ▸ trivial)) hne
  · refine h.inv.replace (moved ht rfl) hphase rfl ?_
    refine (cellsIn_update_self _ _ _).trans ?_
    simp only [writersOf, cellsIn, readFile, htext, Option.getD_some]

theorem SaveInv.truncate (h : SaveInv s ws) (ht : s.threads[i]? = some t)
    (hp : t.phase = .truncating) :
    SaveInv ⟨{ s.node with disk := truncateFile (checkpointPath (pathOf s)) s.node.disk },
      s.threads.set i { t with phase := .resetting }⟩ [] := by
  have htmp := Ne.symm (checkpointPath_ne_tmpPath (pathOf s))
  refine ⟨h.own, h.notReading, ⟨?_, by simp, ?_⟩, by simp, h.plain, h.writes_set ht _,
    h.tmp_set ht False.elim (Function.update_of_ne htmp _ _), ?_⟩
  · exact (readFile_truncateFile _ _ _).trans (if_pos rfl)
  · exact ((readFile_truncateFile _ _ _).trans
      (if_neg (deadServerLogPath_ne_checkpointPath _))).trans h.log.dead
  · exact h.inv.truncate (moved ht rfl) (by rw [writerOf, hp, writerPhase]) rfl
      (cellsIn_update _ _ (checkpointPath_ne _)) (cellsIn_update _ _ htmp) rfl

/-- The counter is set back. -/
theorem SaveInv.reset (h : SaveInv s ws) (ht : s.threads[i]? = some t)
    (hp : t.phase = .resetting) :
    SaveInv ⟨s.node.setWrites 0, s.threads.set i { t with phase := .answered }⟩ ws := by
  have hsame : writersOf ⟨s.node.setWrites 0, s.threads.set i { t with phase := .answered }⟩ ws =
      writersOf s ws := by
    have hwriter : writerOf { t with phase := .answered } = writerOf t := by
      rw [writerOf, writerOf, hp]
      rfl
    obtain ⟨hlt, hi⟩ := List.getElem?_eq_some_iff.mp ((writers_get s ws i _).mpr ⟨t, ht, rfl⟩)
    simp only [writersOf, List.map_set]
    congr 1
    rw [hwriter, ← hi]
    exact List.set_getElem_self hlt
  refine ⟨h.own, h.notReading, h.log, h.resets, h.plain, h.writes_set ht _,
    h.tmp_set ht False.elim rfl, ?_⟩
  rw [hsame]
  exact h.inv

end steps

/-! ### Runs -/

theorem SaveInv.accept {s : Saving} {ws : List Write} (h : SaveInv s ws) {x : Write}
    (hx : Plain x ∧ (opOf x).Resets) :
    SaveInv { s with threads := s.threads ++ [⟨x, .updating⟩] } ws := by
  have hmem : ∀ u ∈ s.threads ++ [(⟨x, .updating⟩ : SaveThread)],
      u ∈ s.threads ∨ u = ⟨x, .updating⟩ := by
    intro u hu
    cases List.mem_append.mp hu with
    | inl hu => exact Or.inl hu
    | inr hu => exact Or.inr (List.mem_singleton.mp hu)
  refine ⟨h.own, h.notReading, h.log, h.resets, h.plain, ?_, ?_, ?_⟩
  · intro u hu
    cases hmem u hu with
    | inl hu => exact h.writes u hu
    | inr hu => exact hu ▸ hx
  · intro u hu huse
    cases hmem u hu with
    | inl hu => exact h.tmp u hu huse
    | inr hu =>
      subst hu
      exact absurd huse id
  · refine h.inv.accept (w := writerOf ⟨x, .updating⟩) rfl ?_
    simp [writersOf, pathOf]

theorem SaveInv.step {s s' : Saving} {ws : List Write} {e : SaveEvent} (h : SaveInv s ws)
    (hok : Orderly s e) (hnext : s.next e = some s') : ∃ ws', SaveInv s' ws' := by
  cases e with
  | accept x =>
    cases hnext
    exact ⟨ws, h.accept hok⟩
  | step i result =>
    simp only [Saving.next, Option.bind_eq_bind, Option.bind_eq_some_iff] at hnext
    obtain ⟨t, ht, ⟨n, t'⟩, hstep, hs⟩ := hnext
    cases hs
    obtain ⟨happend, hbegin⟩ := hok t ht
    obtain ⟨x, phase⟩ := t
    have hx := h.writes _ (List.mem_of_getElem? ht)
    cases phase with
    | updating =>
      have hrun : (x.run s.node.server.table).2 = true := run_ok_of_resets hx.2 _
      simp only [SaveThread.step, hrun, if_true] at hstep
      cases hstep
      exact ⟨ws, h.update ht rfl⟩
    | logging =>
      cases hstep
      exact ⟨ws ++ [x], h.log_line ht rfl (happend rfl)⟩
    | checking =>
      simp only [SaveThread.step] at hstep
      split at hstep
      · next hfull =>
        cases hstep
        exact ⟨ws, h.begin ht rfl result (hbegin rfl hfull)⟩
      · cases hstep
        exact ⟨ws, h.skip ht rfl⟩
    | snapshot rest =>
      cases rest with
      | nil =>
        cases hstep
        exact ⟨ws, h.remove ht rfl⟩
      | cons k rest =>
        obtain ⟨row, column⟩ := k
        simp only [SaveThread.step] at hstep
        split at hstep
        · next value hv =>
          cases hstep
          exact ⟨ws, h.copy ht rfl hv⟩
        · next hv =>
          cases hstep
          exact ⟨ws, h.copy_none ht rfl hv⟩
    | replacing =>
      cases hstep
      exact ⟨ws, h.rename ht rfl⟩
    | truncating =>
      cases hstep
      exact ⟨[], h.truncate ht rfl⟩
    | resetting =>
      cases hstep
      exact ⟨ws, h.reset ht rfl⟩
    | answered => cases hstep

lemma PlainTable.runAll {ws : List Write} {t : Table} (h : PlainTable t)
    (hws : ∀ w ∈ ws, Plain w) (hr : ∀ w ∈ ws, (opOf w).Resets) : PlainTable (runAll ws t) := by
  induction ws generalizing t with
  | nil => exact h
  | cons w ws ih =>
    exact ih (h.run (hws w List.mem_cons_self) (hr w List.mem_cons_self))
      (fun y hy => hws y (List.mem_cons_of_mem w hy))
      (fun y hy => hr y (List.mem_cons_of_mem w hy))

theorem SaveInv.init {s : Saving} (h : savingServer.init s) : ∃ ws, SaveInv s ws := by
  obtain ⟨hno, g, info, servers, result, d, ws, hlog, hr, hplain, hn⟩ := h
  have hs := startedFrom hlog hn
  have htable : PlainTable s.node.server.table := by
    rw [hs.table]
    exact hplain.runAll hlog.plain hr
  have hpath : pathOf s = storagePath g info.tcpPort := hs.diskFile
  have build : ∀ ws', LogHolds (storagePath g info.tcpPort) s.node.disk ws' →
      (∀ w ∈ ws', (opOf w).Resets) →
      (∀ r c, (runAll ws' (loadDataFile (readFile (storagePath g info.tcpPort)
        s.node.disk) ∅)).get r c = s.node.server.table.get r c) → SaveInv s ws' := by
    intro ws' hlog' hr' hcells
    refine ⟨hs.diskFile.trans hs.own, hs.notReading, hpath ▸ hlog', hr', htable, ?_, ?_, ?_⟩
    · simp [hno]
    · simp [hno]
    · apply Inv.initial
      · simp [writersOf, hno]
      · refine (overlay_entries hr' _).trans ?_
        funext k
        rw [hpath]
        exact hcells k.1 k.2
  cases hs.files with
  | inl hshort =>
    obtain ⟨-, -, hdata, hholds⟩ := hshort
    refine ⟨ws, build ws hholds hr (fun r c => ?_)⟩
    rw [hdata, hs.table]
  | inr hfull =>
    obtain ⟨-, hdata, hholds⟩ := hfull
    refine ⟨[], build [] hholds (by simp) (fun r c => ?_)⟩
    rw [hdata]
    exact get_snapshot htable result r c

theorem saveInv_of_reachable {s : Saving} (h : savingServer.Reachable Orderly s) :
    ∃ ws, SaveInv s ws := by
  induction h with
  | init hi => exact SaveInv.init hi
  | step _ hok hnext ih =>
    obtain ⟨ws, hws⟩ := ih
    exact hws.step hok hnext

/-- When every write has been answered, a start from the files restores the cells of the
table, if the lines reached the log in order. -/
theorem idle_server_restores {s : Saving} (h : savingServer.Reachable Orderly s)
    (hidle : s.Idle) (servers : Int → List ServerInfo) (time : Nat) :
    ∃ n', startProcess s.node.server.replicaGroup s.node.server.myInfo servers time
        s.node.disk = some n' ∧
      ∀ r c, n'.server.table.get r c = s.node.server.table.get r c := by
  obtain ⟨ws, hs⟩ := saveInv_of_reachable h
  have hdone : ∀ (j : Nat) u, (writersOf s ws).writers[j]? = some u → u.phase = .done := by
    intro j u hu
    obtain ⟨t, ht, rfl⟩ := (writers_get s ws j u).mp hu
    rw [writerOf, hidle t (List.mem_of_getElem? ht), writerPhase]
  have hcells := hs.inv.restores hdone
  have hover := (overlay_entries hs.resets _).symm.trans hcells
  obtain ⟨n', hn', hget⟩ := (@exists_initializeFrom_iff s.node.server.replicaGroup
    s.node.server.myInfo s.node.disk ws _ time hs.log s.node.server.table).mpr
    (fun r c => congrFun hover (r, c))
  rw [hs.own] at hn'
  refine ⟨{ n' with server :=
    { n'.server with currentlyInitializing := false, servers := servers } }, ?_, hget⟩
  have hstart : initializeFrom (startServer s.node.server.replicaGroup
      s.node.server.myInfo).diskFilePath time ⟨startServer s.node.server.replicaGroup
      s.node.server.myInfo, s.node.disk⟩ = some n' := hn'
  rw [startProcess]
  simp only [hstart, Option.bind_eq_bind, Option.bind_some]
  rfl

/-! ### An example -/

/-- A server started for the first time. -/
def emptyStart : Option Node := startProcess 1 cutInfo (fun _ => []) 7 (fun _ => none)

lemma savingServer_init {n : Node} (h : emptyStart = some n) : savingServer.init ⟨n, []⟩ := by
  refine ⟨rfl, 1, cutInfo, fun _ => [], 7, fun _ => none, [], ⟨rfl, by simp, rfl⟩, by simp, ?_, h⟩
  intro r c v hv
  have hempty : loadDataFile (readFile (storagePath 1 cutInfo.tcpPort) (fun _ => none)) ∅ = ∅ := rfl
  rw [hempty, NestedMap.get_empty] at hv
  exact absurd hv (by simp)

lemma idle_of_phases {s : Saving} {n : ℕ}
    (h : s.threads.map SaveThread.phase = List.replicate n .answered) : s.Idle := by
  intro t ht
  have hin : t.phase ∈ s.threads.map SaveThread.phase := List.mem_map_of_mem ht
  rw [h] at hin
  exact List.eq_of_mem_replicate hin

def firstPut : Write := .put ['u'] ['x'] ['1']

instance (s : Saving) (i : Nat) (k : Str × Str) (v : Option Str) : Decidable (Settles s i k v) :=
  decidable_of_iff (v = cellsOf s.node.server.table k ∨
      ∃ j ∈ List.range s.threads.length, ∃ t ∈ s.threads[j]?, j ≠ i ∧ t.phase = .logging ∧
        (opOf t.write).key = k ∧ leaves t.write = cellsOf s.node.server.table k) (by
    refine or_congr_right ⟨?_, ?_⟩
    · rintro ⟨j, -, t, ht, hne, hrest⟩
      exact ⟨j, t, hne, ht, hrest⟩
    · rintro ⟨j, t, hne, ht, hrest⟩
      have hj := (List.getElem?_eq_some_iff.mp ht).1
      exact ⟨j, List.mem_range.mpr hj, t, ht, hne, hrest⟩)

instance : DecidablePred UsesTmp := fun phase =>
  match phase with
  | .snapshot _ | .replacing => isTrue trivial
  | .updating | .logging | .checking | .truncating | .resetting | .answered => isFalse not_false

/-- The temporary file holds the cell, and will become the data file. -/
def Copied (k : Str × Str) : SavePhase → Prop
  | .snapshot rest => k ∉ rest
  | .replacing => True
  | _ => False

instance (k : Str × Str) : DecidablePred (Copied k) := fun phase =>
  match phase with
  | .snapshot rest => inferInstanceAs (Decidable (k ∉ rest))
  | .replacing => isTrue trivial
  | .updating | .logging | .checking | .truncating | .resetting | .answered => isFalse not_false

/-- The condition on a step, for all threads alike. -/
def OrderlyNow (s : Saving) : SaveEvent → Prop
  | .accept x => Plain x ∧ (opOf x).Resets
  | .step i _ => ∀ t ∈ s.threads[i]?,
    (t.phase = .logging → Settles s i (opOf t.write).key (leaves t.write) ∧
      ∀ u ∈ s.threads,
        (Copied (opOf t.write).key u.phase → Settles s i (opOf t.write).key
          (cellsIn (tmpPath (pathOf s)) s.node.disk (opOf t.write).key)) ∧
        (u.phase = .truncating → Settles s i (opOf t.write).key
          (cellsIn (pathOf s) s.node.disk (opOf t.write).key))) ∧
    (t.phase = .checking → s.node.writes = CHECKPOINTING_THRESHOLD →
      ∀ u ∈ s.threads, ¬UsesTmp u.phase)

instance (s : Saving) : DecidablePred (OrderlyNow s) := fun e =>
  match e with
  | .accept _ => inferInstanceAs (Decidable (_ ∧ _))
  | .step i _ => inferInstanceAs (Decidable (∀ t ∈ s.threads[i]?, _ ∧ _))

lemma orderly_of_now {s : Saving} {e : SaveEvent} (h : OrderlyNow s e) : Orderly s e := by
  cases e with
  | accept x => exact h
  | step i result =>
    intro t ht
    obtain ⟨hlogging, hchecking⟩ := h t ht
    refine ⟨fun hp => ?_, fun hp hfull j u _ hu => hchecking hp hfull u (List.mem_of_getElem? hu)⟩
    obtain ⟨hlatest, hcopies⟩ := hlogging hp
    refine ⟨hlatest, ?_, ?_, ?_⟩
    · intro j u rest hu hphase hrest
      refine (hcopies u (List.mem_of_getElem? hu)).1 ?_
      rw [hphase]
      exact hrest
    · intro j u hu hphase
      refine (hcopies u (List.mem_of_getElem? hu)).1 ?_
      rw [hphase]
      trivial
    · intro j u hu hphase _
      exact (hcopies u (List.mem_of_getElem? hu)).2 hphase

/-- Two threads write one cell at once and log their lines in order. The third write makes
the checkpoint; meanwhile a fourth one, whose value was copied, is logged and answered. -/
def sharedCheckpointing : List SaveEvent :=
  [.accept firstPut, .accept (.put ['u'] ['x'] ['2']), .step 0 8, .step 1 8, .step 0 8, .step 1 8,
    .step 1 8, .step 0 8,
    .accept (.put ['u'] ['y'] ['3']), .step 2 8, .accept (.put ['u'] ['x'] ['9']), .step 3 8,
    .step 2 8, .step 2 8, .step 2 8, .step 2 8, .step 3 8, .step 3 8,
    .step 2 8, .step 2 8, .step 2 8, .step 2 8]

theorem idle_server_restores_shared : ∃ s, savingServer.Reachable Orderly s ∧
    s.threads.map SaveThread.phase = List.replicate 4 .answered ∧
    s.node.server.table.get ['u'] ['x'] = some ['9'] ∧
    readFile (checkpointPath (pathOf s)) s.node.disk = [] ∧
    ∃ n', startProcess s.node.server.replicaGroup s.node.server.myInfo (fun _ => []) 9
        s.node.disk = some n' ∧
      ∀ r c, n'.server.table.get r c = s.node.server.table.get r c := by
  have hrun : (emptyStart.bind (fun n => (savingServer.exec ⟨n, []⟩ sharedCheckpointing).map
      (fun s => (savingServer.checkAlong (fun s e => decide (OrderlyNow s e)) ⟨n, []⟩
        sharedCheckpointing, s.threads.map SaveThread.phase,
        s.node.server.table.get ['u'] ['x'], readFile (checkpointPath (pathOf s)) s.node.disk)))) =
      some (true, List.replicate 4 .answered, some ['9'], []) := by
    decide +kernel
  obtain ⟨n, hn, hrun⟩ := Option.bind_eq_some_iff.mp hrun
  obtain ⟨s, hs, hr⟩ := Option.map_eq_some_iff.mp hrun
  obtain ⟨hcheck, hr⟩ := Prod.mk.inj hr
  obtain ⟨hphases, hr⟩ := Prod.mk.inj hr
  obtain ⟨hcell, hlog⟩ := Prod.mk.inj hr
  have hreach : savingServer.Reachable Orderly s := by
    refine System.Reachable.of_check ?_ (.init (savingServer_init hn)) hcheck hs
    exact fun _ _ _ h => orderly_of_now (of_decide_eq_true h)
  have hidle : s.Idle := idle_of_phases hphases
  exact ⟨s, hreach, hphases, hcell, hlog, idle_server_restores hreach hidle (fun _ => []) 9⟩

/-- Three writes fill the log, and the third thread copies the table. Then a fourth write is
carried out, logged and answered, before the third thread truncates the log. -/
def lateLine : List SaveEvent :=
  [.accept firstPut, .step 0 8, .step 0 8, .step 0 8,
    .accept (.put ['u'] ['y'] ['2']), .step 1 8, .step 1 8, .step 1 8,
    .accept (.put ['u'] ['z'] ['3']), .step 2 8, .step 2 8, .step 2 8,
    .step 2 8, .step 2 8, .step 2 8,
    .accept (.put ['u'] ['x'] ['9']), .step 3 8, .step 3 8, .step 3 8,
    .step 2 8, .step 2 8, .step 2 8, .step 2 8]

/-- The condition on the commands alone. -/
def PlainResets (_ : Saving) : SaveEvent → Prop
  | .accept x => Plain x ∧ (opOf x).Resets
  | .step _ _ => True

/-- The fourth write was answered and is gone after a start. -/
theorem late_line_is_lost :
    ¬∀ (s : Saving), savingServer.Reachable PlainResets s → s.Idle →
      ∀ (servers : Int → List ServerInfo) (time : Nat),
      ∃ n', startProcess s.node.server.replicaGroup s.node.server.myInfo servers time
          s.node.disk = some n' ∧
        ∀ r c, n'.server.table.get r c = s.node.server.table.get r c := by
  intro h
  have hrun : (emptyStart.bind (fun n => (savingServer.exec ⟨n, []⟩ lateLine).bind (fun s =>
      (startProcess s.node.server.replicaGroup s.node.server.myInfo (fun _ => []) 9
        s.node.disk).map (fun n' => (s.threads.map SaveThread.phase,
          s.node.server.table.get ['u'] ['x'], n'.server.table.get ['u'] ['x']))))) =
      some ([.answered, .answered, .answered, .answered], some ['9'], some ['1']) := by
    decide +kernel
  obtain ⟨n, hn, hrun⟩ := Option.bind_eq_some_iff.mp hrun
  obtain ⟨s, hs, hrun⟩ := Option.bind_eq_some_iff.mp hrun
  obtain ⟨m, hm, hr⟩ := Option.map_eq_some_iff.mp hrun
  obtain ⟨hphases, hr⟩ := Prod.mk.inj hr
  obtain ⟨htable, hlost⟩ := Prod.mk.inj hr
  have hok : ∀ u, ∀ e ∈ lateLine, PlainResets u e := by
    intro u e he
    cases e with
    | accept x =>
      have hplain : ∀ e ∈ lateLine, ∀ x, e = .accept x → Plain x ∧ (opOf x).Resets := by
        simp [lateLine, firstPut, opOf, Op.Resets]
        decide
      exact hplain _ he x rfl
    | step i result => trivial
  have hreach := (System.Reachable.init (savingServer_init hn)).exec hok hs
  have hidle : s.Idle := idle_of_phases (n := 4) hphases
  obtain ⟨n', hn', hget⟩ := h s hreach hidle (fun _ => []) 9
  have hsame : m = n' := Option.some.inj (hm.symm.trans hn')
  have hx := hget ['u'] ['x']
  rw [← hsame, hlost, htable] at hx
  exact absurd hx (by decide)

end CloudStorage.Proofs
