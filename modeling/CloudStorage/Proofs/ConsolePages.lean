import CloudStorage.AdminConsole
import CloudStorage.Proofs.CommandText
import CloudStorage.Proofs.StatusText

/-!
# Pages of the admin console

`GETALL` shows three cells of the table at a time. This file proves that the pages put one
after another show every cell once.
-/

namespace CloudStorage.Proofs
open DelimitedText

/-! ### Windows of a list -/

section Windows

variable {α : Type*}

/-- What a counter between two bounds selects is a window of the list. -/
lemma filter_zipIdx (lo hi : Int) (xs : List α) (i : Nat) :
    (((xs.zipIdx i).filter (fun e => lo ≤ e.2 ∧ e.2 < hi)).map Prod.fst) =
      (xs.take (hi - i).toNat).drop (lo - i).toNat := by
  induction xs generalizing i with
  | nil => simp
  | cons x xs ih =>
    have hi' := ih (i + 1)
    rw [List.zipIdx_cons, List.filter_cons]
    split
    · next hin =>
      rw [decide_eq_true_iff] at hin
      have htake : (hi - i).toNat = (hi - (i + 1 : Nat)).toNat + 1 := by omega
      have hdrop : (lo - i).toNat = 0 := by omega
      have hnext : (lo - (i + 1 : Nat)).toNat = 0 := by omega
      rw [List.map_cons, hi', htake, hdrop, hnext, List.take_succ_cons, List.drop_zero,
        List.drop_zero]
    · next hout =>
      rw [decide_eq_true_iff, not_and_or] at hout
      rw [hi']
      by_cases hend : hi ≤ i
      · have hnone : (hi - i).toNat = 0 := by omega
        have hnext : (hi - (i + 1 : Nat)).toNat = 0 := by omega
        rw [hnone, hnext, List.take_zero, List.take_zero, List.drop_nil, List.drop_nil]
      · have htake : (hi - i).toNat = (hi - (i + 1 : Nat)).toNat + 1 := by omega
        have hdrop : (lo - i).toNat = (lo - (i + 1 : Nat)).toNat + 1 := by omega
        rw [htake, hdrop, List.take_succ_cons, List.drop_succ_cons]

/-- Windows of one width, side by side, cover a list up to where they end. -/
lemma flatMap_windows (width : Nat) (xs : List α) (n : Nat) :
    (List.range n).flatMap (fun k => (xs.drop (width * k)).take width) = xs.take (width * n) := by
  induction n with
  | zero => rfl
  | succ n ih =>
    rw [List.range_succ, List.flatMap_append, ih, Nat.mul_succ, List.take_add,
      List.flatMap_singleton]

end Windows

/-! ### The replies -/

/-- The rows and columns that have a value, in the order in which the loops pass them. -/
def cellNames (t : Table) : List (Str × Str) := t.cells.map Prod.fst

/-- What page `k` shows. -/
def consolePage (t : Table) (k : Nat) : List (Str × Str) := ((cellNames t).drop (3 * k)).take 3

/-- A page as it is sent. -/
def pageReply (names : List (Str × Str)) : Str :=
  "+OK\n".toList ++
    names.flatMap (fun name => name.1 ++ ",".toList ++ name.2 ++ "\n".toList) ++ "\r\n".toList

lemma getAllReply_page (t : Table) (k : Nat) :
    getAllReply (3 * k) t = pageReply (consolePage t k) := by
  have hnames : consolePage t k = ((t.cells.zipIdx.filter
      (fun e => (3 * k : Int) ≤ e.2 ∧ e.2 < (3 * k : Int) + 3)).map Prod.fst).map Prod.fst := by
    have htake : ((3 * k : Int) + 3 - (0 : Nat)).toNat = 3 * k + 3 := by omega
    have hdrop : ((3 * k : Int) - (0 : Nat)).toNat = 3 * k := by omega
    rw [filter_zipIdx, htake, hdrop, consolePage, cellNames, List.drop_take,
      Nat.add_sub_cancel_left, List.map_take, List.map_drop]
  rw [getAllReply, pageReply, hnames, List.map_map, List.flatMap_map]
  rfl

/-- A `GETALL` with a number that `stoi` reads. -/
lemma adminConsole_getall (result : Nat) {skip : Int} (hskip : IsInt skip) (n : Node) :
    adminConsole result ("GETALL ".toList ++ toStr skip) n =
      some (n, getAllReply skip n.server.table) := by
  have hcomma : ',' ∉ toStr skip := not_mem_toStr (by decide) (by decide)
  have hsplit : consoleCommands ("GETALL ".toList ++ toStr skip) =
      ["GETALL ".toList, toStr skip] := by
    have hblank : ' ' ∈ "GETALL ".toList ++ toStr skip := List.mem_append_left _ (by decide)
    rw [consoleCommands, if_pos hblank]
    exact (splitKVStoreCommand_blank (v := "GETALL".toList) (by decide) (by decide) _).trans
      (congrArg _ (getlines_of_not_mem hcomma (toStr_ne_nil skip)))
  have hword : consoleWord ("GETALL ".toList ++ toStr skip) = "GETALL ".toList := by
    rw [consoleWord, hsplit]
    rfl
  unfold adminConsole
  dsimp only
  rw [hword, hsplit, if_neg (by simp), if_neg (by simp), if_pos rfl]
  change (stoi (toStr skip)).bind _ = _
  rw [stoi_toStr_end hskip]
  rfl

lemma mem_cellNames {t : Table} {row col : Str} :
    (row, col) ∈ cellNames t ↔ (t.get row col).isSome := by
  rw [cellNames, List.mem_map, Option.isSome_iff_exists]
  constructor
  · rintro ⟨⟨key, v⟩, hmem, rfl⟩
    exact ⟨v, (t.mem_cells row col v).mp hmem⟩
  · rintro ⟨v, hv⟩
    exact ⟨((row, col), v), (t.mem_cells row col v).mpr hv, rfl⟩

/-- The pages for 0, 3, 6 and so on up to the size of the table. -/
def consolePages (t : Table) : List (List (Str × Str)) :=
  (List.range ((cellNames t).length / 3 + 1)).map (consolePage t)

/-- The replies to the commands are the pages, and the pages together are the cells of the
table in its order, none twice. -/
theorem getall_pages (result : Nat) (n : Node) :
    (∀ k : Nat, IsInt (3 * k) →
      adminConsole result ("GETALL ".toList ++ toStr (3 * k)) n =
        some (n, pageReply (consolePage n.server.table k))) ∧
    (consolePages n.server.table).flatten = cellNames n.server.table ∧
    (cellNames n.server.table).Nodup ∧
    ∀ row col, (row, col) ∈ cellNames n.server.table ↔ (n.server.table.get row col).isSome := by
  refine ⟨fun k hk => ?_, ?_, n.server.table.nodup_cells, fun row col => mem_cellNames⟩
  · rw [adminConsole_getall result hk, getAllReply_page]
  · have hwindows := flatMap_windows 3 (cellNames n.server.table)
      ((cellNames n.server.table).length / 3 + 1)
    rw [List.take_of_length_le (by omega)] at hwindows
    rw [consolePages, ← List.flatMap_def]
    exact hwindows

/-- A server with four cells. -/
def fourCells : Node where
  server := { startServer 1 defaultInfo with
    table := ((((∅ : Table).set "anna".toList "password".toList "eA==".toList).set "anna".toList
      "/content/a.txt".toList "QQ==".toList).set "bob".toList "/emails/1".toList
      "aGk=".toList).set "bob".toList "password".toList "eQ==".toList }
  disk := fun _ => none

theorem getall_pages_second : ∃ name,
    (cellNames fourCells.server.table)[3]? = some name ∧
    adminConsole 0 "GETALL 3".toList fourCells = some (fourCells, pageReply [name]) ∧
    (consolePages fourCells.server.table).flatten = cellNames fourCells.server.table := by
  have hlength : (cellNames fourCells.server.table).length = 4 := by decide +kernel
  obtain ⟨hpage, hflatten, -⟩ := getall_pages 0 fourCells
  have hthree : (cellNames fourCells.server.table)[3]? =
      some (cellNames fourCells.server.table)[3] := List.getElem?_eq_getElem _
  refine ⟨_, hthree, ?_, hflatten⟩
  have hlast : consolePage fourCells.server.table 1 =
      [(cellNames fourCells.server.table)[3]] := by
    rw [consolePage, List.drop_eq_getElem_cons (by omega), List.take_succ_cons]
    rw [List.drop_eq_nil_of_le (by omega), List.take_nil]
  exact hlast ▸ hpage 1 (by decide)

end CloudStorage.Proofs
