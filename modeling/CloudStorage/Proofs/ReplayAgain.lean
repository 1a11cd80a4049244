import CloudStorage.Proofs.CheckpointCrash

/-!
# Replaying a log again

A log whose conditional writes took effect may be replayed over a table that already holds
some of its results: each cell ends as it did the first time.
-/

namespace CloudStorage.Proofs
open DelimitedText Registers

/-- A line of a log is parsed to this write, whatever fields follow. -/
def EntryOf (line : Str) (w : Write) : Prop :=
  ∃ extra, splitKVStoreCommand line = w.word :: (w.fields ++ extra)

lemma entryOf_line {w : Write} (h : Plain w) : EntryOf w.line w :=
  ⟨[], by rw [splitKVStoreCommand_line h, List.append_nil]⟩

lemma applyWrite_initializing (w : Write) (n : Node) :
    (applyWrite w n).1.server.currentlyInitializing = n.server.currentlyInitializing := by
  unfold applyWrite handleAppend
  dsimp only
  split
  · split <;> rfl
  · rfl

lemma replayLogLine_entry {line : Str} {w : Write} (h : EntryOf line w) {n : Node}
    (hi : n.server.currentlyInitializing = true) :
    replayLogLine n line = some (applyWrite w (n.setWrites (n.writes + 1))).1 := by
  obtain ⟨extra, hx⟩ := h
  have hi' : (n.setWrites (n.writes + 1)).server.currentlyInitializing = true := hi
  rw [replayLogLine, replayLine, hx, handleCommand_write, handleWrite, if_pos hi']
  rfl

/-- Replaying the lines of a log runs its writes, whether they are logged again or not. -/
theorem foldlM_replayLogLine_entries {lines : List Str} {ws : List Write}
    (h : List.Forall₂ EntryOf lines ws) {n : Node}
    (hi : n.server.currentlyInitializing = true) :
    ∃ m, lines.foldlM replayLogLine n = some m ∧ m.server.table = runAll ws n.server.table := by
  induction h generalizing n with
  | nil => exact ⟨n, rfl, rfl⟩
  | @cons line w lines ws hw _ ih =>
    let n' := (applyWrite w (n.setWrites (n.writes + 1))).1
    have hi' : n'.server.currentlyInitializing = true :=
      (applyWrite_initializing w _).trans hi
    obtain ⟨m, hm, ht⟩ := ih hi'
    refine ⟨m, ?_, ?_⟩
    · rw [List.foldlM_cons, replayLogLine_entry hw hi]
      exact hm
    · rw [ht, applyWrite_setTable]
      rfl

/-- A log replayed over a table whose cells are as before the log or as after it gives the
cells it gave before. -/
theorem replay_again {lines : List Str} {ws : List Write}
    (h : List.Forall₂ EntryOf lines ws) {d n : Node}
    (hd : d.server.currentlyInitializing = true) (hn : n.server.currentlyInitializing = true)
    (took : TookEffect ws d.server.table)
    (hcell : ∀ r c, n.server.table.get r c = d.server.table.get r c ∨
      n.server.table.get r c = (runAll ws d.server.table).get r c) :
    ∃ m n', lines.foldlM replayLogLine d = some m ∧
      m.server.table = runAll ws d.server.table ∧
      lines.foldlM replayLogLine n = some n' ∧
      ∀ r c, n'.server.table.get r c = m.server.table.get r c := by
  obtain ⟨m, hm, hmt⟩ := foldlM_replayLogLine_entries h hd
  obtain ⟨n', hn', hnt⟩ := foldlM_replayLogLine_entries h hn
  refine ⟨m, n', hm, hmt, hn', fun r c => ?_⟩
  have hc := hcell r c
  rw [get_runAll] at hc
  rw [hnt, hmt, get_runAll, get_runAll]
  exact actAll_of_start_or_result (took.succeed (r, c)) hc

def againNode (t : Table) : Node := (⟨startServer 1 cutInfo, fun _ => none⟩ : Node).setTable t

def againLog : List Write :=
  [.cput ['u'] ['x'] ['1'] ['2'], .delete ['u'] ['y'], .put ['u'] ['z'] ['3']]

/-- Over a table with the first cell as before the log and the last as after it. -/
theorem replay_again_half : ∃ m n',
    (againLog.map Write.line).foldlM replayLogLine
      (againNode ((∅ : Table).set ['u'] ['x'] ['1'])) = some m ∧
    m.server.table = runAll againLog ((∅ : Table).set ['u'] ['x'] ['1']) ∧
    (againLog.map Write.line).foldlM replayLogLine
      (againNode (((∅ : Table).set ['u'] ['x'] ['1']).set ['u'] ['z'] ['3'])) = some n' ∧
    ∀ r c, n'.server.table.get r c = m.server.table.get r c := by
  have hentries : List.Forall₂ EntryOf (againLog.map Write.line) againLog := by
    rw [List.forall₂_map_left_iff, List.forall₂_same]
    exact fun w hw => entryOf_line ((by decide : ∀ w ∈ againLog, Plain w) w hw)
  apply replay_again hentries rfl rfl
  · exact ⟨rfl, rfl, rfl, trivial⟩
  · intro r c
    simp only [againNode, Node.setTable, NestedMap.get_set]
    by_cases hz : r = ['u'] ∧ c = ['z']
    · obtain ⟨rfl, rfl⟩ := hz
      exact Or.inr rfl
    · rw [if_neg hz]
      exact Or.inl rfl

/-! ### ENABLE -/

lemma get_loadLine_foldl (lines : List Str) (t₀ : Table) (r c : Str) (s t : Table)
    (h : t.get r c = s.get r c ∨ t.get r c = t₀.get r c) :
    (lines.foldl loadLine t).get r c = (lines.foldl loadLine s).get r c ∨
      (lines.foldl loadLine t).get r c = t₀.get r c := by
  induction lines generalizing s t with
  | nil => exact h
  | cons line lines ih =>
    apply ih
    unfold loadLine
    split
    · rw [NestedMap.get_set, NestedMap.get_set]
      split
      · exact Or.inl rfl
      · exact h
    · exact h

/-- Enabling a server reads its files over the table it still has; the cells stay. -/
theorem loadAndReplay_again {path : Str} {n : Node} {ws : List Write} (hs : Starting n)
    (h : LogHolds path n.disk ws)
    (took : TookEffect ws (loadDataFile (readFile path n.disk) ∅))
    (hmem : ∀ r c, n.server.table.get r c =
      (runAll ws (loadDataFile (readFile path n.disk) ∅)).get r c) :
    ∃ n', loadAndReplay path n = some n' ∧
      ∀ r c, n'.server.table.get r c = n.server.table.get r c := by
  refine ⟨_, loadAndReplay_spec hs h, fun r c => ?_⟩
  have hload := get_loadLine_foldl (getlines '\n' (readFile path n.disk)) n.server.table r c
    ∅ n.server.table (Or.inr rfl)
  have hm := hmem r c
  rw [get_runAll] at hm
  change (runAll ws (loadDataFile (readFile path n.disk) n.server.table)).get r c = _
  rw [get_runAll, hm]
  exact actAll_of_start_or_result (took.succeed (r, c)) (hm ▸ hload)

end CloudStorage.Proofs
