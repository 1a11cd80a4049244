import CloudStorage.AdminConsole
import CloudStorage.Cluster
import CloudStorage.Proofs.DeadLog
import CloudStorage.Proofs.ElectionState
import CloudStorage.Proofs.PartialMap
import CloudStorage.Proofs.ReplayAgain

/-!
# Commands that read their own parameters only

Of the commands of `threadFunc` only LIST reads parameters without a look at their number.
At the admin console GETALL does, and ENABLE replays the logs, whose lines may be LIST
commands as well.
-/

namespace CloudStorage.Proofs
open DelimitedText

variable {n m : Node} {t : Table} {line : Str} {lines : List Str}

/-! ### Lines at a storage server -/

/-- A LIST has the parameters that it comes to read; other commands look at their number. -/
def OwnParameters (t : Table) (line : Str) : Prop :=
  ∀ args, splitKVStoreCommand line = "LIST ".toList :: args → ListDefined t args

lemma splitKVStoreCommand_cons (line : Str) :
    ∃ word args, splitKVStoreCommand line = word :: args := ⟨_, _, rfl⟩

lemma handleCommand_undefined_iff (line msg : Str) (origin : Origin) (n : Node) :
    handleCommand (splitKVStoreCommand line) origin msg n = .undefined ↔
      ¬OwnParameters n.server.table line := by
  obtain ⟨word, args, hs⟩ := splitKVStoreCommand_cons line
  have howns : OwnParameters n.server.table line ↔
      (word = "LIST ".toList → ListDefined n.server.table args) := by
    unfold OwnParameters
    rw [hs]
    constructor
    · exact fun h hword => h args (by rw [hword])
    · intro h args' heq
      obtain ⟨hword, rfl⟩ := List.cons.inj heq
      exact h hword
  rw [hs, howns]
  rcases handleCommand_writeOf word args origin msg n with
    ⟨x, hx, hh⟩ | ⟨-, hlist, reply, hh⟩ | ⟨hword, hlist, hh⟩
  · have hnot : word ≠ "LIST ".toList := by
      rintro rfl
      rw [writeOf_list] at hx
      exact absurd hx (by simp)
    have hdefined : handleWrite x origin msg n ≠ .undefined := by
      unfold handleWrite
      split
      · exact Handling.noConfusion
      · split
        · exact Handling.noConfusion
        · cases origin <;> exact Handling.noConfusion
    rw [hh]
    exact iff_of_false hdefined (fun h => h (fun hword => absurd hword hnot))
  · rw [hh]
    exact iff_of_false Handling.noConfusion (fun h => h hlist)
  · rw [hh]
    exact iff_of_true rfl (fun h => hlist (h hword))

/-! ### Lines of a log -/

/-- The table after a line of a log. -/
def afterLine (t : Table) (line : Str) : Table :=
  match writeOf (splitKVStoreCommand line) with
  | some x => (x.run t).1
  | none => t

/-- Every line, when it is handled, reads its own parameters. -/
def AllOwn : Table → List Str → Prop
  | _, [] => True
  | t, line :: lines => OwnParameters t line ∧ AllOwn (afterLine t line) lines

lemma allOwn_append (t : Table) (lines more : List Str) :
    AllOwn t (lines ++ more) ↔ AllOwn t lines ∧ AllOwn (lines.foldl afterLine t) more := by
  induction lines generalizing t with
  | nil => exact (true_and _).symm ▸ Iff.rfl
  | cons line lines ih =>
    change OwnParameters t line ∧ AllOwn _ (lines ++ more) ↔ (OwnParameters t line ∧ AllOwn _ _) ∧ _
    rw [ih, and_assoc]
    rfl

/-- A server that initializes from its files, with this text in its dead-server log. -/
structure Initializes (file deadLog : Str) (n : Node) : Prop where
  initializing : n.server.currentlyInitializing = true
  path : n.server.diskFilePath = file
  dead : readFile (deadServerLogPath file) n.disk = deadLog

variable {file deadLog : Str}

lemma Initializes.applyWrite (h : Initializes file deadLog n) (x : Write) :
    Initializes file deadLog (applyWrite x n).1 where
  initializing := (applyWrite_initializing x n).trans h.initializing
  path := by
    have hsettings := applyWrite_settings x n
    exact (settings_congr Server.diskFilePath (fun _ => rfl) hsettings).trans h.path
  dead := by
    have hlog : deadServerLogPath file ≠ checkpointPath n.server.diskFilePath := by
      rw [h.path]
      exact deadServerLogPath_ne_checkpointPath file
    rw [applyWrite_disk x n hlog, h.dead]

/-- A step over the lines of a log: it is defined for the lines with their own parameters,
and gives the table after the line. -/
def Replays (file deadLog : Str) (step : Node → Str → Option Node) : Prop :=
  ∀ n line, Initializes file deadLog n →
    (OwnParameters n.server.table line → ∃ m, step n line = some m ∧ Initializes file deadLog m ∧
      m.server.table = afterLine n.server.table line) ∧
    (¬OwnParameters n.server.table line → step n line = none)

lemma replays_replayLine : Replays file deadLog replayLine := by
  intro n line hn
  constructor
  · intro hown
    have hdefined := mt (handleCommand_undefined_iff line [] .frontend n).mp (not_not_intro hown)
    obtain ⟨word, args, hs⟩ := splitKVStoreCommand_cons line
    unfold replayLine afterLine
    rw [hs] at hdefined ⊢
    rcases handleCommand_writeOf word args .frontend [] n with
      ⟨x, hx, hh⟩ | ⟨hnone, -, reply, hh⟩ | ⟨-, -, hh⟩
    · refine ⟨(applyWrite x n).1, ?_, hn.applyWrite x, ?_⟩
      · rw [hh, handleWrite, if_pos hn.initializing]
        rfl
      · rw [hx, applyWrite_setTable]
    · refine ⟨n, ?_, hn, ?_⟩
      · rw [hh]
        rfl
      · rw [hnone]
    · exact absurd hh hdefined
  · intro hown
    unfold replayLine
    rw [(handleCommand_undefined_iff line [] .frontend n).mpr hown]
    rfl

/-- Counting the line first changes neither the table nor the files. -/
lemma replays_replayLogLine : Replays file deadLog replayLogLine := by
  intro n line hn
  exact replays_replayLine (n.setWrites (n.writes + 1)) line ⟨hn.initializing, hn.path, hn.dead⟩

lemma Replays.foldlM {step : Node → Str → Option Node} (hstep : Replays file deadLog step)
    (lines : List Str) (hn : Initializes file deadLog n) :
    (AllOwn n.server.table lines → ∃ m, lines.foldlM step n = some m ∧
      Initializes file deadLog m ∧ m.server.table = lines.foldl afterLine n.server.table) ∧
    (¬AllOwn n.server.table lines → lines.foldlM step n = none) := by
  induction lines generalizing n with
  | nil => exact ⟨fun _ => ⟨n, rfl, hn, rfl⟩, fun h => absurd trivial h⟩
  | cons line lines ih =>
    rw [List.foldlM_cons, List.foldl_cons]
    by_cases hown : OwnParameters n.server.table line
    · obtain ⟨m, hm, hinit, htable⟩ := (hstep n line hn).1 hown
      obtain ⟨hall, hnot⟩ := ih hinit
      rw [htable] at hall hnot
      rw [hm]
      exact ⟨fun h => hall h.2, fun h => hnot (fun hrest => h ⟨hown, hrest⟩)⟩
    · rw [(hstep n line hn).2 hown]
      exact ⟨fun h => absurd h.1 hown, fun _ => rfl⟩

/-! ### Enabling a server -/

/-- The lines that `initialize` handles, those of the server's own log first. -/
def logLines (file : Str) (d : Disk) : List Str :=
  getlines '\n' (readFile (checkpointPath file) d) ++
    getlines '\n' (readFile (deadServerLogPath file) d)

/-- Every line of the logs, when it comes to it, reads its own parameters. -/
def LogsOwn (n : Node) : Prop :=
  let file := n.server.diskFilePath
  AllOwn (loadDataFile (readFile file n.disk) n.server.table) (logLines file n.disk)

lemma readDeadServerLog_isSome_iff (hn : Initializes file deadLog n) :
    (readDeadServerLog file n).isSome ↔ AllOwn n.server.table (getlines '\n' deadLog) := by
  have hcreated : Initializes file deadLog
      { n with disk := createFile (deadServerLogPath file) n.disk } :=
    ⟨hn.initializing, hn.path, by rw [readFile_createFile, hn.dead]⟩
  obtain ⟨hall, hnot⟩ := replays_replayLine.foldlM (getlines '\n' deadLog) hcreated
  unfold readDeadServerLog
  dsimp only
  rw [readFile_createFile, hn.dead]
  by_cases hown : AllOwn n.server.table (getlines '\n' deadLog)
  · obtain ⟨m, hm, -⟩ := hall hown
    rw [hm]
    exact iff_of_true rfl hown
  · rw [hnot hown]
    exact iff_of_false (by decide) hown

lemma Initializes.checkpointIfFull (h : Initializes file deadLog n) (result : Nat) :
    Initializes file deadLog (checkpointIfFull file result n) ∧
      (checkpointIfFull file result n).server.table = n.server.table := by
  unfold CloudStorage.checkpointIfFull
  split
  · refine ⟨⟨h.initializing, h.path, ?_⟩, rfl⟩
    unfold checkpointNode
    dsimp only
    rw [(readFile_checkpointTable file result n.server.table n.disk).2.2 _
      (Ne.symm (deadServerLogPath_ne file)) (deadServerLogPath_ne_tmpPath file)
      (deadServerLogPath_ne_checkpointPath file), h.dead]
  · exact ⟨h, rfl⟩

/-- The first half of `initialize` is defined exactly if the lines of the server's own log
read their own parameters; it leaves the table after them. -/
lemma loadAndReplay_own (hn : Initializes file deadLog n) :
    let loaded := loadDataFile (readFile file n.disk) n.server.table
    let own := getlines '\n' (readFile (checkpointPath file) n.disk)
    (AllOwn loaded own → ∃ m, loadAndReplay file n = some m ∧ Initializes file deadLog m ∧
      m.server.table = own.foldl afterLine loaded) ∧
    (¬AllOwn loaded own → loadAndReplay file n = none) := by
  intro loaded own
  let start := (({ n with disk := createFile (checkpointPath file) (createFile file n.disk) } :
    Node).setTable loaded).setReading true
  have hstart : Initializes file deadLog start := by
    refine ⟨hn.initializing, hn.path, ?_⟩
    change readFile _ (createFile _ (createFile _ n.disk)) = _
    rw [readFile_createFile, readFile_createFile, hn.dead]
  have heq : loadAndReplay file n =
      (own.foldlM replayLogLine start).map (fun n => n.setReading false) := by
    unfold loadAndReplay
    simp only [Node.setTable, readFile_createFile]
    rfl
  obtain ⟨hall, hnot⟩ := replays_replayLogLine.foldlM own hstart
  rw [heq]
  constructor
  · intro h
    obtain ⟨m, hm, hinit, htable⟩ := hall h
    rw [hm]
    exact ⟨_, rfl, ⟨hinit.initializing, hinit.path, hinit.dead⟩, htable⟩
  · intro h
    rw [hnot h]
    rfl

lemma initializeFrom_isSome_iff (result : Nat) (hn : n.server.currentlyInitializing = true) :
    (initializeFrom n.server.diskFilePath result n).isSome ↔ LogsOwn n := by
  have hinit : Initializes n.server.diskFilePath
      (readFile (deadServerLogPath n.server.diskFilePath) n.disk) n := ⟨hn, rfl, rfl⟩
  obtain ⟨hall, hnot⟩ := loadAndReplay_own hinit
  unfold LogsOwn logLines
  dsimp only
  rw [allOwn_append]
  unfold initializeFrom
  by_cases hown : AllOwn (loadDataFile (readFile n.server.diskFilePath n.disk) n.server.table)
      (getlines '\n' (readFile (checkpointPath n.server.diskFilePath) n.disk))
  · obtain ⟨m, hm, hinit', htable⟩ := hall hown
    obtain ⟨hinit'', htable'⟩ := hinit'.checkpointIfFull result
    have hdead := readDeadServerLog_isSome_iff hinit''
    rw [htable', htable] at hdead
    rw [hm, ← hdead]
    dsimp only [Option.bind_eq_bind, Option.bind_some]
    unfold crashRecoveryFunction
    cases hread : readDeadServerLog n.server.diskFilePath
        (checkpointIfFull n.server.diskFilePath result m) with
    | none => exact iff_of_false (by simp) (by simp)
    | some k => exact iff_of_true rfl ⟨hown, rfl⟩
  · rw [hnot hown]
    exact iff_of_false (by simp) (fun h => hown h.1)

/-! ### Lines at the admin console -/

/-- The parameter of GETALL is there, and is a number. -/
def SkipGiven (line : Str) : Prop :=
  ∀ args, splitKVStoreCommand line = "GETALL ".toList :: args →
    ∃ parameter rest skip, args = parameter :: rest ∧ stoi parameter = some skip

/-- ENABLE at a disabled server. -/
def Enables (line : Str) (n : Node) : Prop :=
  line.map Char.toUpper = "ENABLE".toList ∧ n.server.enabled = false

lemma toNat_toUpper (ch : Char) : ch.toUpper.toNat =
    if 97 ≤ ch.toNat ∧ ch.toNat ≤ 122 then ch.toNat - 32 else ch.toNat := by
  have hlower : ('a'.val ≤ ch.val ∧ ch.val ≤ 'z'.val) ↔ 97 ≤ ch.toNat ∧ ch.toNat ≤ 122 := Iff.rfl
  unfold Char.toUpper
  split
  · next h =>
    have hrange := hlower.mp h
    rw [if_pos hrange]
    change (ch.val + ('A'.val - 'a'.val)).toNat = _
    rw [UInt32.toNat_add]
    have hval : ch.val.toNat = ch.toNat := rfl
    have hdiff : ('A'.val - 'a'.val).toNat = 2 ^ 32 - 32 := by
      decide
    rw [hval, hdiff]
    omega
  · next h => rw [if_neg (fun hrange => h (hlower.mpr hrange))]

lemma toUpper_toUpper (ch : Char) : ch.toUpper.toUpper = ch.toUpper := by
  apply Char.toNat_inj.mp
  rw [toNat_toUpper ch.toUpper, toNat_toUpper ch]
  split_ifs <;> omega

lemma toUpper_eq_blank_iff (ch : Char) : ch.toUpper = ' ' ↔ ch = ' ' := by
  rw [← Char.toNat_inj, ← Char.toNat_inj, toNat_toUpper]
  have hblank : ' '.toNat = 32 := rfl
  rw [hblank]
  split <;> omega

lemma blank_mem_toUpper (s : Str) : ' ' ∈ s.map Char.toUpper ↔ ' ' ∈ s := by
  simp only [List.mem_map, toUpper_eq_blank_iff, exists_eq_right]

/-- A line with a blank is split, and its word ends with the blank. -/
lemma console_of_blank (h : ' ' ∈ line) : ∃ word args,
    splitKVStoreCommand line = word :: args ∧ ' ' ∈ word ∧
      consoleCommands line = word :: args ∧ consoleWord line = word := by
  obtain ⟨v, s, hline, hv⟩ := List.eq_append_cons_of_mem h
  have hsplit : splitKVStoreCommand line = (v ++ [' ']).map Char.toUpper :: getlines ',' s := by
    have hwhole : line = (v ++ [' ']) ++ s := by
      rw [hline, List.append_assoc]
      rfl
    have hpos : posAfter ' ' line = (v ++ [' ']).length := by
      rw [hwhole]
      exact posAfter_append hv s
    unfold splitKVStoreCommand
    dsimp only
    rw [hpos, hwhole, List.take_left, List.drop_left]
  have hcommands : consoleCommands line = splitKVStoreCommand line := if_pos h
  refine ⟨_, _, hsplit, ?_, hcommands.trans hsplit, ?_⟩
  · rw [blank_mem_toUpper]
    exact List.mem_append_right _ (List.mem_singleton.mpr rfl)
  · unfold consoleWord
    rw [hcommands, hsplit, List.headD_cons, List.map_map]
    exact List.map_congr_left (fun ch _ => toUpper_toUpper ch)

lemma console_of_no_blank (h : ' ' ∉ line) :
    consoleCommands line = [] ∧ consoleWord line = line.map Char.toUpper ∧
      ∃ args, splitKVStoreCommand line = [] :: args := by
  have hcommands : consoleCommands line = [] := if_neg h
  refine ⟨hcommands, ?_, ?_⟩
  · unfold consoleWord
    rw [hcommands]
    rfl
  · have hpos : posAfter ' ' line = 0 := if_neg h
    refine ⟨getlines ',' line, ?_⟩
    unfold splitKVStoreCommand
    dsimp only
    rw [hpos]
    rfl

lemma enableServer_isSome_iff (result : Nat) (n : Node) :
    (enableServer result n).isSome ↔ LogsOwn n := by
  unfold enableServer
  dsimp only
  rw [Option.isSome_map]
  exact initializeFrom_isSome_iff result rfl

lemma adminConsole_isSome_iff (result : Nat) (line : Str) (n : Node) :
    (adminConsole result line n).isSome ↔ SkipGiven line ∧ (Enables line n → LogsOwn n) := by
  unfold adminConsole
  dsimp only
  by_cases hblank : ' ' ∈ line
  · obtain ⟨word, args, hsplit, hword, hcommands, hconsole⟩ := console_of_blank hblank
    have hnot : ∀ s : Str, ' ' ∉ s → word ≠ s := fun s hs he => hs (he ▸ hword)
    have henables : ¬Enables line n := by
      rintro ⟨hline, -⟩
      have hmem := (blank_mem_toUpper line).mpr hblank
      rw [hline] at hmem
      exact absurd hmem (by decide)
    rw [hconsole, hcommands, if_neg (fun h => hnot _ (by decide) h.1),
      if_neg (fun h => hnot _ (by decide) h.1)]
    have hgiven : SkipGiven line ↔ (word = "GETALL ".toList →
        ∃ parameter rest skip, args = parameter :: rest ∧ stoi parameter = some skip) := by
      unfold SkipGiven
      rw [hsplit]
      constructor
      · exact fun h hw => h args (by rw [hw])
      · intro h args' heq
        obtain ⟨hw, rfl⟩ := List.cons.inj heq
        exact h hw
    rw [hgiven, and_iff_left (fun h => absurd h henables)]
    by_cases hgetall : word = "GETALL ".toList
    · rw [if_pos hgetall]
      constructor
      · intro h _
        match args, h with
        | parameter :: rest, h =>
          cases hskip : stoi parameter with
          | none =>
            dsimp only [List.getElem?_cons_succ, List.getElem?_cons_zero, Option.bind_eq_bind,
              Option.bind_some] at h
            rw [hskip] at h
            exact absurd h (by simp)
          | some skip => exact ⟨parameter, rest, skip, rfl, hskip⟩
      · intro h
        obtain ⟨parameter, rest, skip, rfl, hskip⟩ := h hgetall
        dsimp only [List.getElem?_cons_succ, List.getElem?_cons_zero, Option.bind_eq_bind,
          Option.bind_some]
        rw [hskip]
        rfl
    · rw [if_neg hgetall]
      refine iff_of_true ?_ (fun h => absurd h hgetall)
      split
      · rfl
      · rfl
  · obtain ⟨hcommands, hconsole, args, hsplit⟩ := console_of_no_blank hblank
    have hupper : ' ' ∉ line.map Char.toUpper := fun h => hblank ((blank_mem_toUpper line).mp h)
    have hgiven : SkipGiven line := by
      intro args' heq
      rw [hsplit] at heq
      exact absurd (List.cons.inj heq).1 (by decide)
    have hnot : ∀ s : Str, ' ' ∈ s → line.map Char.toUpper ≠ s := fun s hs he => hupper (he ▸ hs)
    rw [hconsole, and_iff_right hgiven]
    unfold Enables
    by_cases henables : line.map Char.toUpper = "ENABLE".toList ∧ n.server.enabled = false
    · rw [if_pos henables, Option.isSome_map, enableServer_isSome_iff]
      exact ⟨fun h _ => h, fun h => h henables⟩
    · rw [if_neg henables]
      refine iff_of_true ?_ (fun h => absurd h henables)
      split
      · rfl
      · rw [if_neg (hnot _ (by decide)), if_neg (hnot _ (by decide))]
        rfl

/-! ### Both handlers -/

/-- A line is handled at a storage server exactly if it is no LIST that comes to read a
missing parameter, and at the admin console exactly if a GETALL has a number and an ENABLE
finds no such LIST in the logs. -/
theorem own_parameters_iff (line msg : Str) (result : Nat) (n : Node) :
    (handleCommand (splitKVStoreCommand line) (classify (splitKVStoreCommand line)) msg n ≠
        .undefined ↔ OwnParameters n.server.table line) ∧
      ((adminConsole result line n).isSome ↔
        SkipGiven line ∧ (Enables line n → LogsOwn n)) := by
  constructor
  · rw [ne_eq, handleCommand_undefined_iff, not_not]
  · exact adminConsole_isSome_iff result line n

/-- The table with one cell. -/
def oneCellNode : Node where
  server := { startServer 1 (group1Entry 2001) with table := (∅ : Table).set ['r'] ['c'] ['v'] }
  disk := fun _ => none

theorem missing_parameter_read :
    handleCommand (splitKVStoreCommand "LIST ".toList) .frontend [] oneCellNode = .undefined ∧
    adminConsole 0 "GETALL ".toList oneCellNode = none ∧
    adminConsole 0 "GETALL all".toList oneCellNode = none := by
  refine ⟨?_, ?_, ?_⟩
  · rfl
  · rfl
  · rfl

/-! ### The cluster's view of the console -/

/-- `ENABLE` of the cluster is this command. -/
theorem console_enable (c : Cluster) (a : Address) (result : Nat)
    (h : (c.replica a).server.enabled = false) :
    c.enable a result = (adminConsole result "ENABLE".toList ⟨(c.replica a).server, c.disk⟩).map
      (fun r => { c.setReplica a { c.replica a with server := r.1.server } with
        disk := r.1.disk }) := by
  have hconsole : adminConsole result "ENABLE".toList ⟨(c.replica a).server, c.disk⟩ =
      (enableServer result ⟨(c.replica a).server, c.disk⟩).map (fun n => (n, okMsg)) :=
    if_pos ⟨rfl, h⟩
  have henable : c.enable a result =
      (enableServer result ⟨(c.replica a).server, c.disk⟩).map (fun n =>
        { c.setReplica a { c.replica a with server := n.server } with disk := n.disk }) := by
    unfold Cluster.enable enableServer
    dsimp only
    rw [if_pos h, Option.map_map]
    rfl
  rw [henable, hconsole, Option.map_map]
  rfl

end CloudStorage.Proofs
