import CloudStorage.Lib.Registers
import CloudStorage.Proofs.CommandText

/-!
# Tables as stores of registers

Each cell of a table is a register, absent cells reading as the empty string, and each
write command one operation on it. Replaying a log of write commands while a server
initializes is replaying these operations.
-/

namespace CloudStorage.Proofs
open DelimitedText Registers

def cellsOf (t : Table) : Str × Str → Option Str := fun k => t.get k.1 k.2

def opOf : Write → Op (Str × Str) Str
  | .put row col value => .assign (row, col) value
  | .cput row col currentValue newValue => .swap (row, col) currentValue newValue
  | .delete row col => .erase (row, col)

theorem cellsOf_run (w : Write) (t : Table) :
    cellsOf (w.run t).1 = (opOf w).effect [] (cellsOf t) := by
  funext k
  obtain ⟨r, c⟩ := k
  cases w with
  | put row col value =>
    simp [cellsOf, Write.run, opOf, Op.effect, Op.act, Op.key, Function.update_apply,
      NestedMap.get_set]
  | cput row col cur new =>
    by_cases he : (t.get row col).getD [] = cur
    · simp [cellsOf, Write.run, opOf, Op.effect, Op.act, Op.key, Function.update_apply,
        NestedMap.get_touch, NestedMap.get_set, he]
      split <;> simp_all
    · simp [cellsOf, Write.run, opOf, Op.effect, Op.act, Op.key, Function.update_apply,
        NestedMap.get_touch, he]
  | delete row col =>
    simp [cellsOf, Write.run, opOf, Op.effect, Op.act, Op.key, Function.update_apply,
      NestedMap.get_eraseCell]

/-- A write takes effect unless it is a conditional write that finds another value. -/
theorem run_ok_iff (w : Write) (t : Table) :
    (w.run t).2 = true ↔ (opOf w).Succeeds [] (cellsOf t (opOf w).key) := by
  cases w with
  | put row col value => simp [Write.run, opOf, Op.Succeeds]
  | cput row col cur new =>
    by_cases he : (t.get row col).getD [] = cur <;>
      simp [Write.run, opOf, Op.Succeeds, Op.key, cellsOf, NestedMap.get_touch, he]
  | delete row col => simp [Write.run, opOf, Op.Succeeds]

/-- What a PUT or a DELETE leaves in its cell. -/
def leaves : Write → Option Str
  | .put _ _ value => some value
  | .cput _ _ _ newValue => some newValue
  | .delete _ _ => none

lemma cellsOf_run_of_resets {x : Write} (h : (opOf x).Resets) (t : Table) (k : Str × Str) :
    cellsOf (x.run t).1 k = if (opOf x).key = k then leaves x else cellsOf t k := by
  rw [cellsOf_run, Op.effect]
  split
  · next hk =>
    subst hk
    rw [Function.update_self]
    cases x with
    | put row col value => rfl
    | cput row col cur new => exact h.elim
    | delete row col => rfl
  · next hk => rw [Function.update_of_ne (Ne.symm hk)]

lemma run_ok_of_resets {x : Write} (h : (opOf x).Resets) (t : Table) : (x.run t).2 = true := by
  cases x with
  | put row col value => rfl
  | cput row col cur new => exact h.elim
  | delete row col => rfl

/-- The table after a log of writes. -/
def runAll (ws : List Write) (t : Table) : Table :=
  ws.foldl (fun t w => (w.run t).1) t

theorem cellsOf_runAll (ws : List Write) (t : Table) :
    cellsOf (runAll ws t) = replay [] (ws.map opOf) (cellsOf t) := by
  induction ws generalizing t with
  | nil => rfl
  | cons w ws ih =>
    have h := ih (w.run t).1
    rw [cellsOf_run] at h
    exact h

lemma get_runAll (ws : List Write) (t : Table) (r c : Str) :
    (runAll ws t).get r c = actAll [] (opsOn (r, c) (ws.map opOf)) (t.get r c) := by
  have h := congrFun (cellsOf_runAll ws t) (r, c)
  rwa [replay_apply] at h

/-- Every write of the list took effect when the list was run from the table. Only such
writes are logged. -/
def TookEffect : List Write → Table → Prop
  | [], _ => True
  | w :: ws, t => (w.run t).2 = true ∧ TookEffect ws (w.run t).1

lemma runAll_append_singleton (ws : List Write) (w : Write) (t : Table) :
    runAll (ws ++ [w]) t = (w.run (runAll ws t)).1 := by
  simp [runAll]

lemma TookEffect.append {ws : List Write} {t : Table} (h : TookEffect ws t) {w : Write}
    (hw : (w.run (runAll ws t)).2 = true) : TookEffect (ws ++ [w]) t := by
  induction ws generalizing t with
  | nil => exact ⟨hw, trivial⟩
  | cons v ws ih => exact ⟨h.1, ih h.2 hw⟩

/-- GET sees the cells. -/
lemma getReply_congr {t t' : Table} (h : cellsOf t = cellsOf t') (args : List Str) :
    getReply t args = getReply t' args := by
  match args with
  | [row, col] =>
    have hcell : t.get row col = t'.get row col := congrFun h (row, col)
    simp only [getReply, hcell]
  | [] => rfl
  | [_] => rfl
  | _ :: _ :: _ :: _ => rfl

/-! ### Tables up to empty cells -/

/-- The table with absent cells read as empty. -/
def valuesOf (t : Table) (k : Str × Str) : Str := (cellsOf t k).getD []

/-- A write that fails leaves an empty cell where there was none. -/
lemma cellsOf_run_of_failed {x : Write} {t : Table} (h : (x.run t).2 = false) :
    cellsOf (x.run t).1 =
      Function.update (cellsOf t) (opOf x).key (some (valuesOf t (opOf x).key)) := by
  have hno : ¬(opOf x).Succeeds [] (cellsOf t (opOf x).key) := by
    rw [← run_ok_iff, h]
    decide
  rw [cellsOf_run, Op.effect, Op.act_of_not_succeeds hno, valuesOf]

lemma valuesOf_run_of_failed {x : Write} {t : Table} (h : (x.run t).2 = false) :
    valuesOf (x.run t).1 = valuesOf t := by
  funext k
  rw [valuesOf, cellsOf_run_of_failed h]
  by_cases hk : k = (opOf x).key
  · rw [hk, Function.update_self, Option.getD_some]
  · rw [Function.update_of_ne hk, valuesOf]

/-- What a write does depends only on the values it reads. -/
lemma run_ok_of_values {x : Write} {t t' : Table} (h : valuesOf t = valuesOf t') :
    (x.run t).2 = (x.run t').2 := by
  have hk : (cellsOf t (opOf x).key).getD [] = (cellsOf t' (opOf x).key).getD [] :=
    congrFun h (opOf x).key
  rw [Bool.eq_iff_iff, run_ok_iff, run_ok_iff]
  exact Op.succeeds_congr (opOf x) hk

lemma valuesOf_run_congr {x : Write} {t t' : Table} (h : valuesOf t = valuesOf t') :
    valuesOf (x.run t).1 = valuesOf (x.run t').1 := by
  funext k
  unfold valuesOf
  rw [cellsOf_run, cellsOf_run]
  unfold Op.effect
  by_cases hk : k = (opOf x).key
  · subst hk
    rw [Function.update_self, Function.update_self]
    exact Op.getD_act_congr (opOf x) (congrFun h (opOf x).key)
  · rw [Function.update_of_ne hk, Function.update_of_ne hk]
    exact congrFun h k

lemma get_eq_some_iff_of_values {t t' : Table} (h : valuesOf t = valuesOf t') (r c v : Str)
    (hv : v ≠ []) : t.get r c = some v ↔ t'.get r c = some v := by
  have hget : ∀ u : Table, u.get r c = some v ↔ valuesOf u (r, c) = v := by
    intro u
    unfold valuesOf cellsOf
    cases hu : u.get r c with
    | none => simp [Ne.symm hv]
    | some y => simp
  rw [hget, hget, h]

/-! ### Replaying a log -/

lemma splitKVStoreCommand_handled {w : Write} (h : Plain w) (origin : Origin) (msg : Str)
    (n : Node) :
    handleCommand (splitKVStoreCommand w.line) origin msg n = handleWrite w origin msg n := by
  rw [splitKVStoreCommand_line h, ← List.append_nil w.fields]
  exact handleCommand_write w [] origin msg n

lemma applyWrite_setTable (w : Write) (n : Node) :
    (applyWrite w n).1.server.table = (w.run n.server.table).1 := by
  unfold applyWrite handleAppend
  dsimp only
  split
  · split <;> rfl
  · rfl

/-- While the log is read nothing is logged or counted again. -/
lemma applyWrite_of_reading (w : Write) {n : Node}
    (h : n.server.currentlyReadingFromCheckpointFile = true) :
    (applyWrite w n).1 = n.setTable (w.run n.server.table).1 := by
  unfold applyWrite handleAppend
  dsimp only
  split
  · have hr : (n.setTable (w.run n.server.table).1).server.currentlyReadingFromCheckpointFile =
        true := h
    simp [hr]
  · rfl

lemma replayLine_plain {w : Write} (h : Plain w) {n : Node}
    (hi : n.server.currentlyInitializing = true) :
    replayLine n w.line = some (applyWrite w n).1 := by
  rw [replayLine, splitKVStoreCommand_handled h, handleWrite, if_pos hi]
  rfl

/-- Replaying a log counts its lines and runs its writes. -/
theorem foldlM_replayLogLine {ws : List Write} (h : ∀ w ∈ ws, Plain w) {n : Node}
    (hi : n.server.currentlyInitializing = true)
    (hr : n.server.currentlyReadingFromCheckpointFile = true) :
    (ws.map Write.line).foldlM replayLogLine n =
      some ((n.setWrites (n.writes + ws.length)).setTable (runAll ws n.server.table)) := by
  induction ws generalizing n with
  | nil => rfl
  | cons w ws ih =>
    let m := (n.setWrites (n.writes + 1)).setTable (w.run n.server.table).1
    have hw : replayLogLine n w.line = some m := by
      have hi' : (n.setWrites (n.writes + 1)).server.currentlyInitializing = true := hi
      have hr' : (n.setWrites (n.writes + 1)).server.currentlyReadingFromCheckpointFile = true := hr
      rw [replayLogLine, replayLine_plain (h w List.mem_cons_self) hi', applyWrite_of_reading w hr']
      rfl
    have hm := ih (fun x hx => h x (List.mem_cons_of_mem w hx)) (n := m) hi hr
    rw [List.map_cons, List.foldlM_cons, hw]
    refine hm.trans ?_
    simp only [m, Node.setWrites, Node.setTable, Node.writes, runAll, List.length_cons,
      List.foldl_cons, Nat.add_assoc, Nat.add_comm 1]

end CloudStorage.Proofs
