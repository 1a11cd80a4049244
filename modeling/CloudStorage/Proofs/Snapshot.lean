import CloudStorage.Proofs.ClientFields
import CloudStorage.Proofs.Durability
import CloudStorage.Proofs.ElectionState

/-!
# Loading what a checkpoint wrote

The lines of the data file have no escapes. A table comes back from them as it was if its
cells have no line feeds and no empty values.
-/

namespace CloudStorage.Proofs
open DelimitedText

variable {t t' : Table} {r c v : Str}

/-- Every GET command is answered alike. -/
def SameAnswers (t t' : Table) : Prop :=
  ∀ line args, splitKVStoreCommand line = "GET ".toList :: args → getReply t args = getReply t' args

lemma sameAnswers_of_cells (h : cellsOf t = cellsOf t') : SameAnswers t t' :=
  fun _ args _ => getReply_congr h args

/-- Every row and every column without a comma can be asked for, with one more comma behind
an empty column. -/
lemma SameAnswers.get (h : SameAnswers t t') (hr : ',' ∉ r) (hc : ',' ∉ c) :
    t.get r c = t'.get r c := by
  let column := if c = [] then [','] else c
  have hcolumn : getlines ',' column = [c] := by
    by_cases hnil : c = []
    · have hcomma : column = [','] := if_pos hnil
      rw [hcomma, hnil]
      rfl
    · have hsame : column = c := if_neg hnil
      rw [hsame, getlines_of_not_mem hc hnil]
  have hline : splitKVStoreCommand ("GET".toList ++ [' '] ++ (r ++ ',' :: column)) =
      "GET ".toList :: [r, c] := by
    rw [splitKVStoreCommand_blank (by decide) rfl, getlines_append_delim hr, hcolumn]
    rfl
  have hreply := h _ _ hline
  rw [getReply_pair, getReply_pair] at hreply
  exact getAnswer_injective hreply

/-- No field of a cell has a comma. -/
def CommaFreeTable (t : Table) : Prop :=
  ∀ r c v, t.get r c = some v → ',' ∉ r ∧ ',' ∉ c ∧ ',' ∉ v

/-- The cells have no line feeds and no empty values. -/
def Loadable (t : Table) : Prop :=
  ∀ r c v, t.get r c = some v → '\n' ∉ r ∧ '\n' ∉ c ∧ '\n' ∉ v ∧ v ≠ []

lemma CommaFreeTable.clean (h : CommaFreeTable t) (hload : Loadable t) : CleanTable t := by
  intro r c v hv
  obtain ⟨hr, hc, hval⟩ := h r c v hv
  obtain ⟨hr', hc', hval', -⟩ := hload r c v hv
  exact ⟨⟨hr, hr'⟩, ⟨hc, hc'⟩, ⟨hval, hval'⟩⟩

/-- The cells that come back are those without line feeds and with a value, so all of them
come back only if all are such. -/
lemma loaded_answers_iff (h : CommaFreeTable t) (result : Nat) :
    SameAnswers t (loadDataFile (checkpointText result t) ∅) ↔ Loadable t := by
  constructor
  · intro hsame
    have hloaded : ∀ r c v, t.get r c = some v →
        (loadDataFile (checkpointText result t) ∅).get r c = some v := by
      intro r c v hv
      obtain ⟨hr, hc, -⟩ := h r c v hv
      rw [← hsame.get hr hc, hv]
    have hclean : CleanTable t := fun r c v hv =>
      cleanTable_loadDataFile _ r c v (hloaded r c v hv)
    intro r c v hv
    obtain ⟨hr, hc, hval⟩ := hclean r c v hv
    refine ⟨hr.2, hc.2, hval.2, ?_⟩
    rintro rfl
    have hget := hloaded r c [] hv
    rw [get_loadDataFile_checkpointText hclean, hv] at hget
    exact absurd hget (by decide)
  · intro hload
    apply sameAnswers_of_cells
    funext k
    unfold cellsOf
    rw [get_loadDataFile_checkpointText (h.clean hload)]
    cases hv : t.get k.1 k.2 with
    | none => rfl
    | some v =>
      have hne : v ≠ [] := (hload _ _ v hv).2.2.2
      simp [Option.filter, hne]

/-- A checkpoint of a table without commas, loaded by `initialize` into an empty table with
empty logs, gives the same answers exactly if no cell has a line feed or an empty value. -/
theorem snapshot_loaded_iff {t : Table} (hcomma : CommaFreeTable t) {s : Server} {d : Disk}
    (hs : Starting ⟨s, d⟩) (hempty : s.table = ∅) {path : Str}
    (hdead : readFile (deadServerLogPath path) d = []) (result result' : Nat) :
    ∃ n, initializeFrom path result' ⟨s, checkpointTable path result t d⟩ = some n ∧
      (SameAnswers t n.server.table ↔ Loadable t) := by
  obtain ⟨hdata, hlog, hother⟩ := readFile_checkpointTable path result t d
  have hlogs : LogHolds path (checkpointTable path result t d) [] := by
    refine ⟨hlog, fun _ hw => absurd hw List.not_mem_nil, ?_⟩
    rw [hother _ (Ne.symm (deadServerLogPath_ne path)) (deadServerLogPath_ne_tmpPath path)
      (deadServerLogPath_ne_checkpointPath path), hdead]
  have hstart : Starting ⟨s, checkpointTable path result t d⟩ := ⟨hs.initializing, hs.notReading⟩
  obtain ⟨n, hinit, hrestored⟩ := initializeFrom_spec result' hstart hlogs
  refine ⟨n, hinit, ?_⟩
  have htable : n.server.table = loadDataFile (checkpointText result t) ∅ := by
    rw [hrestored.table, hdata, hempty]
    rfl
  rw [htable]
  exact loaded_answers_iff hcomma result

/-- Server 2001 as it starts, without files. -/
def freshNode : Node := ⟨startServer 1 (group1Entry 2001), fun _ => none⟩

/-- What server 2001 has after a checkpoint of the table and a start. -/
def reloaded (t : Table) : Option Node :=
  let path := freshNode.server.diskFilePath
  initializeFrom path 0 ⟨freshNode.server, checkpointTable path 0 t freshNode.disk⟩

def twoRows : Table :=
  ((∅ : Table).set "anna".toList "a".toList "1".toList).set "bob".toList [] "2".toList

lemma twoRows_commaFree : CommaFreeTable twoRows := by
  have hcells : ∀ e ∈ twoRows.cells, ',' ∉ e.1.1 ∧ ',' ∉ e.1.2 ∧ ',' ∉ e.2 := by
    decide
  intro r c v hv
  exact hcells _ ((NestedMap.mem_cells twoRows r c v).mpr hv)

theorem snapshot_loaded_iff_two : ∃ n, reloaded twoRows = some n ∧
    (SameAnswers twoRows n.server.table ↔ Loadable twoRows) :=
  snapshot_loaded_iff twoRows_commaFree ⟨rfl, rfl⟩ rfl rfl 0 0

/-- A value with a line feed, and a row with one behind which a line of another row
begins. -/
def brokenLines : Table :=
  ((∅ : Table).set "x\nbob".toList "a".toList "3\n4".toList).set "bob".toList "a".toList
    "1".toList

/-- The value is cut at its line feed, and what stands in front of it takes the place of the
value of another row; and an empty value is gone. -/
theorem line_feed_breaks_cells :
    getReply brokenLines ["bob".toList, "a".toList] = "+OK 1\r\n".toList ∧
    (reloaded brokenLines).map
        (fun n => getReply n.server.table ["bob".toList, "a".toList]) =
      some "+OK 3\r\n".toList ∧
    (reloaded brokenLines).map
        (fun n => getReply n.server.table ["x\nbob".toList, "a".toList]) =
      some "-ERR Not Found\r\n".toList ∧
    (reloaded ((∅ : Table).set "bob".toList "a".toList [])).map
        (fun n => getReply n.server.table ["bob".toList, "a".toList]) =
      some "-ERR Not Found\r\n".toList := by
  refine ⟨by decide, ?_, ?_, ?_⟩
  · decide +kernel
  · decide +kernel
  · decide +kernel

end CloudStorage.Proofs
