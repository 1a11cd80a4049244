import CloudStorage.Proofs.Files
import CloudStorage.Proofs.Wire

/-!
# Forwarding a write

`Forwards` lists the ways through the loop of `forwardToAllSecondaryServers`, each with the
world it leaves behind. What holds along every one of them is proved by induction on it:
which tables and which dead-server logs a write can reach.
-/

namespace CloudStorage.Proofs
open DelimitedText Registers

/-! ### What a handled write changes -/

/-- A server without what writes change. -/
def settings (s : Server) : Server :=
  { s with table := ∅, currentNumberOfWritesForReplicaAndServer := 0 }

/-- What reads only settings is the same for servers with the same settings. -/
lemma settings_congr {β : Type*} (f : Server → β) (hf : ∀ s, f (settings s) = f s)
    {s t : Server} (h : settings s = settings t) : f s = f t := by
  rw [← hf s, ← hf t, h]

lemma settings_myInfo {s t : Server} (h : settings s = settings t) : s.myInfo = t.myInfo :=
  settings_congr Server.myInfo (fun _ => rfl) h

lemma settings_initializing {s t : Server} (h : settings s = settings t) :
    s.currentlyInitializing = t.currentlyInitializing :=
  settings_congr Server.currentlyInitializing (fun _ => rfl) h

lemma settings_primaryInfo {s t : Server} (h : settings s = settings t) :
    s.primaryInfo = t.primaryInfo :=
  settings_congr Server.primaryInfo (fun _ => rfl) h

lemma settings_replicaGroup {s t : Server} (h : settings s = settings t) :
    s.replicaGroup = t.replicaGroup :=
  settings_congr Server.replicaGroup (fun _ => rfl) h

lemma settings_serverList {s t : Server} (h : settings s = settings t) :
    s.serverList = t.serverList :=
  settings_congr Server.serverList (fun _ => rfl) h

lemma settings_enabled {s t : Server} (h : settings s = settings t) : s.enabled = t.enabled :=
  settings_congr Server.enabled (fun _ => rfl) h

lemma settings_diskFilePath {s t : Server} (h : settings s = settings t) :
    s.diskFilePath = t.diskFilePath :=
  settings_congr Server.diskFilePath (fun _ => rfl) h

/-- The reply to a write that a server carries out itself. -/
def writeReply (w : Write) (t : Table) : Str := if (w.run t).2 then okMsg else conditionalErr

lemma applyWrite_reply (w : Write) (n : Node) :
    (applyWrite w n).2 = writeReply w n.server.table := by
  unfold applyWrite writeReply
  dsimp only
  split
  · rfl
  · rfl

lemma applyWrite_settings (w : Write) (n : Node) :
    settings (applyWrite w n).1.server = settings n.server := by
  unfold applyWrite handleAppend
  dsimp only
  split
  · split
    · rfl
    · rfl
  · rfl

/-- A write reaches only the log of its server. -/
lemma applyWrite_disk (w : Write) (n : Node) {q : Str}
    (hq : q ≠ checkpointPath n.server.diskFilePath) :
    readFile q (applyWrite w n).1.disk = readFile q n.disk := by
  unfold applyWrite handleAppend
  dsimp only
  split
  · split
    · rw [readFile_appendToFile, if_neg]
      · rfl
      · exact hq
    · rfl
  · rfl

lemma checkpointAfter_table (result : Nat) (n : Node) :
    (checkpointAfter result n).server.table = n.server.table := by
  unfold checkpointAfter checkpointNode
  split
  · rfl
  · rfl

lemma checkpointAfter_settings (result : Nat) (n : Node) :
    settings (checkpointAfter result n).server = settings n.server := by
  unfold checkpointAfter checkpointNode
  split
  · rfl
  · rfl

lemma checkpointAfter_disk (result : Nat) (n : Node) {q : Str}
    (hp : q ≠ n.server.diskFilePath) (ht : q ≠ tmpPath n.server.diskFilePath)
    (hc : q ≠ checkpointPath n.server.diskFilePath) :
    readFile q (checkpointAfter result n).disk = readFile q n.disk := by
  unfold checkpointAfter
  split
  · exact (readFile_checkpointTable _ _ _ _).2.2 q hp ht hc
  · rfl

/-! ### Dead-server logs -/

lemma toStr_injective {m n : Int} (h : toStr m = toStr n) : m = n := by
  have hinj : ∀ {a b : Nat}, Nat.toDigits 10 a = Nat.toDigits 10 b → a = b := by
    intro a b hab
    have hof := congrArg (fun l => Nat.ofDigitChars 10 l 0) hab
    simpa using hof
  have hsign : ∀ {a b : Nat}, '-' :: Nat.toDigits 10 a ≠ Nat.toDigits 10 b := by
    intro a b hab
    have hmem : '-' ∈ Nat.toDigits 10 b := hab ▸ List.mem_cons_self
    exact absurd (Nat.isDigit_of_mem_toDigits (by decide) (by decide) hmem) (by decide)
  unfold toStr at h
  split at h
  · split at h
    · have ha := hinj (List.cons.inj h).2
      omega
    · exact absurd h hsign
  · split at h
    · exact absurd h.symm hsign
    · have ha := hinj h
      omega

/-- The servers of a group keep their files apart by port. -/
lemma storagePath_injective {g p q : Int} (h : storagePath g p = storagePath g q) : p = q := by
  unfold storagePath at h
  exact toStr_injective (List.append_cancel_left h)

lemma not_mem_storagePath (g p : Int) : 'L' ∉ storagePath g p := by
  have hstr : ∀ n : Int, 'L' ∉ toStr n := by
    intro n h
    rcases toStr_chars n h with h | h
    · exact absurd h (by decide)
    · exact absurd h (by decide)
  unfold storagePath
  simp only [List.mem_append, not_or]
  exact ⟨⟨⟨by decide, hstr g⟩, by decide⟩, hstr p⟩

/-- No server's own files are dead-server logs. -/
lemma deadServerLogPath_ne_own (g p g' p' : Int) :
    deadServerLogPath (storagePath g p) ≠ storagePath g' p' ∧
    deadServerLogPath (storagePath g p) ≠ tmpPath (storagePath g' p') ∧
    deadServerLogPath (storagePath g p) ≠ checkpointPath (storagePath g' p') := by
  have hmem : 'L' ∈ deadServerLogPath (storagePath g p) :=
    List.mem_append_right _ (by decide)
  have hno := not_mem_storagePath g' p'
  refine ⟨?_, ?_, ?_⟩
  · intro h
    exact hno (h ▸ hmem)
  · intro h
    have hin : 'L' ∈ tmpPath (storagePath g' p') := h ▸ hmem
    exact (List.mem_append.mp hin).elim hno (by decide)
  · intro h
    have hin : 'L' ∈ checkpointPath (storagePath g' p') := h ▸ hmem
    exact (List.mem_append.mp hin).elim hno (by decide)

/-- The dead-server log of the server of group `g` at port `p`. -/
def deadLog (g p : Int) (d : Disk) : Str := readFile (deadServerLogPath (storagePath g p)) d

lemma deadLog_append (g p q : Int) (line : Str) (d : Disk) :
    deadLog g p (appendToFile (deadServerLogPath (storagePath g q)) line d) =
      if p = q then deadLog g p d ++ line ++ ['\n'] else deadLog g p d := by
  unfold deadLog
  rw [readFile_appendToFile]
  by_cases h : p = q
  · simp [h]
  · have hne : deadServerLogPath (storagePath g p) ≠ deadServerLogPath (storagePath g q) := by
      intro he
      exact h (storagePath_injective (List.append_cancel_right he))
    rw [if_neg hne, if_neg h]

/-! ### Worlds -/

/-- Every server keeps its data file where `main` puts it. -/
def Named (w : World) : Prop := ∀ a, ∃ g p, (w.server a).diskFilePath = storagePath g p

def SameSettings (w w' : World) : Prop := ∀ a, settings (w'.server a) = settings (w.server a)

lemma SameSettings.trans {u v w : World} (h : SameSettings u v) (h' : SameSettings v w) :
    SameSettings u w :=
  fun a => (h' a).trans (h a)

lemma Named.of_sameSettings {w w' : World} (h : Named w) (hs : SameSettings w w') : Named w' := by
  intro a
  obtain ⟨g, p, hp⟩ := h a
  exact ⟨g, p, (settings_diskFilePath (hs a)).trans hp⟩

lemma settle_server_self (w : World) (a : Address) (n : Node) :
    (w.settle a n).server a = (checkpointAfter w.time n).server :=
  Function.update_self a _ _

lemma settle_server_of_ne (w : World) {a b : Address} (h : b ≠ a) (n : Node) :
    (w.settle a n).server b = w.server b :=
  Function.update_of_ne h _ _

lemma settle_sameSettings {w : World} {a : Address} {n : Node}
    (h : settings n.server = settings (w.server a)) : SameSettings w (w.settle a n) := by
  intro b
  by_cases hb : b = a
  · subst hb
    rw [settle_server_self, checkpointAfter_settings, h]
  · rw [settle_server_of_ne w hb]

lemma settle_table (w : World) (a : Address) (n : Node) :
    ((w.settle a n).server a).table = n.server.table := by
  rw [settle_server_self, checkpointAfter_table]

lemma settle_deadLog {w : World} {a : Address} {n : Node} {g p : Int}
    (hn : n.server.diskFilePath = storagePath g p) (g' q : Int) :
    deadLog g' q (w.settle a n).disk = deadLog g' q n.disk := by
  obtain ⟨hp, ht, hc⟩ := deadServerLogPath_ne_own g' q g p
  rw [← hn] at hp ht hc
  exact checkpointAfter_disk w.time n hp ht hc

/-- Server `a` carries out a write. -/
def applyAt (w : World) (a : Address) (x : Write) : World :=
  w.settle a (applyWrite x (w.node a)).1

lemma applyAt_table (w : World) (a : Address) (x : Write) :
    ((applyAt w a x).server a).table = (x.run (w.server a).table).1 := by
  rw [applyAt, settle_table]
  exact applyWrite_setTable x (w.node a)

lemma applyAt_server_of_ne (w : World) {a b : Address} (h : b ≠ a) (x : Write) :
    (applyAt w a x).server b = w.server b :=
  settle_server_of_ne w h _

lemma applyAt_sameSettings (w : World) (a : Address) (x : Write) :
    SameSettings w (applyAt w a x) :=
  settle_sameSettings (applyWrite_settings x (w.node a))

lemma applyAt_deadLog {w : World} (hw : Named w) (a : Address) (x : Write) (g q : Int) :
    deadLog g q (applyAt w a x).disk = deadLog g q w.disk := by
  obtain ⟨g', p', hp⟩ := hw a
  have hn : (applyWrite x (w.node a)).1.server.diskFilePath = storagePath g' p' :=
    (settings_diskFilePath (applyWrite_settings x (w.node a))).trans hp
  obtain ⟨-, -, hc⟩ := deadServerLogPath_ne_own g q g' p'
  rw [applyAt, settle_deadLog hn]
  exact applyWrite_disk x (w.node a) (by rw [← hp] at hc; exact hc)

/-! ### A write at a secondary -/

lemma contains_okMsg : contains "+OK".toList okMsg = true := by decide

lemma contains_writeReply (x : Write) (t : Table) :
    contains "+OK".toList (writeReply x t) = (x.run t).2 := by
  unfold writeReply
  cases (x.run t).2 with
  | true => exact contains_okMsg
  | false => exact (by decide : contains "+OK".toList conditionalErr = false)

lemma writeReply_length (x : Write) (t : Table) : 5 ≤ (writeReply x t).length := by
  unfold writeReply
  split
  · decide
  · decide

lemma classify_tagged (x : Write) {tag : Str} :
    classify (x.word :: (x.fields ++ [tag])) =
      if tag = "PRIMARY".toList then .primary
      else if tag = "SECONDARY".toList then .secondary else .frontend := by
  have hword : some x.word = some "PUT ".toList ∨ some x.word = some "CPUT ".toList ∨
      some x.word = some "DELETE ".toList := by
    cases x
    · exact Or.inl rfl
    · exact Or.inr (Or.inl rfl)
    · exact Or.inr (Or.inr rfl)
  have hlen : 4 ≤ (x.word :: (x.fields ++ [tag])).length := by
    cases x <;> simp [Write.fields]
  have hlast : (x.word :: (x.fields ++ [tag])).getLast? = some tag := by
    rw [← List.cons_append, List.getLast?_append]
    simp
  rw [classify, if_pos ⟨hlen, hword⟩, hlast]
  simp only [Option.some.injEq]

lemma splitKVStoreCommand_primary {x : Write} (hx : CommaFree x) :
    splitKVStoreCommand (x.line ++ ",".toList ++ "PRIMARY".toList) =
      x.word :: (x.fields ++ ["PRIMARY".toList]) :=
  splitKVStoreCommand_tagged hx (by decide) (by decide)

lemma splitKVStoreCommand_secondary {x : Write} (hx : CommaFree x) :
    splitKVStoreCommand (x.line ++ ",".toList ++ "SECONDARY".toList) =
      x.word :: (x.fields ++ ["SECONDARY".toList]) :=
  splitKVStoreCommand_tagged hx (by decide) (by decide)

/-- A secondary carries out what the primary sends. -/
lemma serveCommand_from_primary {x : Write} (hx : CommaFree x) (depth : Nat) {w : World}
    {a : Address} (ha : (w.server a).myInfo.isPrimary = false) (msg : Str) :
    serveCommand (depth + 1) a msg (x.line ++ ",".toList ++ "PRIMARY".toList) w =
      some (applyAt w a x, writeReply x (w.server a).table) := by
  have hp : (w.node a).server.myInfo.isPrimary = false := ha
  have hhandle : handleWrite x .primary msg (w.node a) =
      .finished (applyWrite x (w.node a)).1 (applyWrite x (w.node a)).2 := by
    unfold handleWrite
    split
    · rfl
    · rw [hp]
      rfl
  unfold serveCommand
  dsimp only
  rw [splitKVStoreCommand_primary hx, classify_tagged, if_pos rfl, handleCommand_write, hhandle]
  dsimp only
  rw [applyWrite_reply]
  rfl

/-- The call of a secondary by the primary. -/
lemma call_secondary {x : Write} (hx : CommaFree x) (hl : NoCrlf x.line) (depth : Nat)
    {w : World} {a : Address} (ha : (w.server a).myInfo.isPrimary = false) :
    readAndWriteFromSocket (serveCommand (depth + 1)) a (x.tempCommand "PRIMARY".toList) w =
      some (if (w.server a).enabled then
          (writeReply x (w.server a).table, applyAt w a x)
        else ("-ERR Server Disabled\r\n".toList, w)) := by
  unfold readAndWriteFromSocket
  cases (w.server a).enabled with
  | false => rfl
  | true =>
    rw [if_pos rfl, commandLines_tempCommand hl (by decide), serveLines,
      serveCommand_from_primary hx depth ha]
    simp only [Option.bind_some, serveLines, List.nil_append, if_pos (writeReply_length x _),
      if_true]

/-! ### The loop over the secondaries -/

/-- A write is logged for the dead server at port `p`. -/
def logAt (w : World) (g p : Int) (x : Write) : World :=
  { w with disk := appendToFile (deadServerLogPath (storagePath g p)) x.line w.disk }

/-- A loop that meets no live secondary writes dead-server logs only. -/
lemma forwardToAllSecondaryServers_dead (call : Call) (g : Int) (x : Write)
    {list : List ServerInfo} (w : World)
    (h : ∀ it ∈ list, it.isPrimary = false → it.isDead = true) :
    ∃ d, forwardToAllSecondaryServers call g (x.tempCommand "PRIMARY".toList) list w =
        some (true, { w with disk := d }) ∧
      ∀ q, (∀ it ∈ list, it.isPrimary = false →
        q ≠ deadServerLogPath (storagePath g it.tcpPort)) → readFile q d = readFile q w.disk := by
  induction list generalizing w with
  | nil => exact ⟨w.disk, rfl, fun _ _ => rfl⟩
  | cons it rest ih =>
    have hrest := fun y hy => h y (List.mem_cons_of_mem it hy)
    cases hp : it.isPrimary with
    | true =>
      obtain ⟨d, he, hd⟩ := ih w hrest
      refine ⟨d, ?_, fun q hq => hd q (fun y hy => hq y (List.mem_cons_of_mem it hy))⟩
      rw [forwardToAllSecondaryServers, if_neg (by simp [hp]), if_neg (by simp [hp])]
      exact he
    | false =>
      have hdead := h it List.mem_cons_self hp
      obtain ⟨d, he, hd⟩ := ih (logAt w g it.tcpPort x) hrest
      refine ⟨d, ?_, ?_⟩
      · rw [forwardToAllSecondaryServers, if_neg (by simp [hdead]), if_pos ⟨hp, hdead⟩,
          logForDead_tempCommand]
        exact he
      · intro q hq
        rw [hd q (fun y hy => hq y (List.mem_cons_of_mem it hy)), logAt, readFile_appendToFile,
          if_neg (hq it List.mem_cons_self hp)]

/-- The ways through the loop for a write `x`: the list, the world before, what the loop
returns and the world afterwards. -/
inductive Forwards (g : Int) (x : Write) : List ServerInfo → World → Bool → World → Prop where
  | done {w : World} : Forwards g x [] w true w
  | primary {it : ServerInfo} {rest : List ServerInfo} {w w' : World} {ok : Bool} :
      it.isPrimary = true → Forwards g x rest w ok w' → Forwards g x (it :: rest) w ok w'
  | dead {it : ServerInfo} {rest : List ServerInfo} {w w' : World} {ok : Bool} :
      it.isPrimary = false → it.isDead = true →
      Forwards g x rest (logAt w g it.tcpPort x) ok w' → Forwards g x (it :: rest) w ok w'
  | noSocket {it : ServerInfo} {rest : List ServerInfo} {w w' : World} :
      it.isPrimary = false → it.isDead = false → w.connect = (.noSocket, w') →
      Forwards g x (it :: rest) w true w'
  | refused {it : ServerInfo} {rest : List ServerInfo} {w w' : World} :
      it.isPrimary = false → it.isDead = false → w.connect = (.refused, w') →
      Forwards g x (it :: rest) w false w'
  | disabled {it : ServerInfo} {rest : List ServerInfo} {w w' : World} :
      it.isPrimary = false → it.isDead = false → w.connect = (.connected, w') →
      (w'.server it.address).enabled = false → Forwards g x (it :: rest) w false w'
  | rejected {it : ServerInfo} {rest : List ServerInfo} {w u : World} :
      it.isPrimary = false → it.isDead = false → w.connect = (.connected, u) →
      (u.server it.address).enabled = true → (x.run (u.server it.address).table).2 = false →
      Forwards g x (it :: rest) w false (applyAt u it.address x)
  | taken {it : ServerInfo} {rest : List ServerInfo} {w u w' : World} {ok : Bool} :
      it.isPrimary = false → it.isDead = false → w.connect = (.connected, u) →
      (u.server it.address).enabled = true → (x.run (u.server it.address).table).2 = true →
      Forwards g x rest (applyAt u it.address x) ok w' → Forwards g x (it :: rest) w ok w'

lemma connect_server {w w' : World} {o : Outcome} (h : w.connect = (o, w')) :
    w'.server = w.server ∧ w'.disk = w.disk := by
  unfold World.connect at h
  split at h
  · cases h
    exact ⟨rfl, rfl⟩
  · cases h
    exact ⟨rfl, rfl⟩

lemma connect_sameSettings {w w' : World} {o : Outcome} (h : w.connect = (o, w')) :
    SameSettings w w' := by
  intro a
  rw [(connect_server h).1]

/-- The secondaries of a server list do not take themselves for the primary. -/
def SecondaryRoles (list : List ServerInfo) (w : World) : Prop :=
  ∀ it ∈ list, it.isPrimary = false → (w.server it.address).myInfo.isPrimary = false

lemma SecondaryRoles.of_sameSettings {list : List ServerInfo} {w w' : World}
    (h : SecondaryRoles list w) (hs : SameSettings w w') : SecondaryRoles list w' := by
  intro it hit hp
  rw [settings_myInfo (hs it.address)]
  exact h it hit hp

/-- The loop always returns, in one of these ways. -/
theorem forwardToAllSecondaryServers_forwards {x : Write} (hx : CommaFree x)
    (hl : NoCrlf x.line) (g : Int) (depth : Nat) {list : List ServerInfo} {w : World}
    (hroles : SecondaryRoles list w) :
    ∃ ok w', forwardToAllSecondaryServers (readAndWriteFromSocket (serveCommand (depth + 1))) g
        (x.tempCommand "PRIMARY".toList) list w = some (ok, w') ∧ Forwards g x list w ok w' := by
  induction list generalizing w with
  | nil => exact ⟨true, w, rfl, .done⟩
  | cons it rest ih =>
    have hrest : SecondaryRoles rest w := fun y hy => hroles y (List.mem_cons_of_mem it hy)
    cases hp : it.isPrimary with
    | true =>
      obtain ⟨ok, w', he, hf⟩ := ih hrest
      refine ⟨ok, w', ?_, .primary hp hf⟩
      simpa [forwardToAllSecondaryServers, hp] using he
    | false =>
      cases hd : it.isDead with
      | true =>
        obtain ⟨ok, w', he, hf⟩ := ih (w := logAt w g it.tcpPort x) hrest
        refine ⟨ok, w', ?_, .dead hp hd hf⟩
        rw [forwardToAllSecondaryServers, if_neg (by simp [hd]), if_pos ⟨hp, hd⟩,
          logForDead_tempCommand]
        exact he
      | false =>
        rcases hc : w.connect with ⟨_ | _ | _, u⟩
        · exact ⟨true, u, by simp [forwardToAllSecondaryServers, hp, hd, hc],
            .noSocket hp hd hc⟩
        · exact ⟨false, u, by simp [forwardToAllSecondaryServers, hp, hd, hc],
            .refused hp hd hc⟩
        · have hs := connect_sameSettings hc
          have ha : (u.server it.address).myInfo.isPrimary = false :=
            hroles.of_sameSettings hs it List.mem_cons_self hp
          have hcall := call_secondary hx hl depth ha
          cases hen : (u.server it.address).enabled with
          | false =>
            refine ⟨false, u, ?_, .disabled hp hd hc hen⟩
            have hno : contains "+OK".toList "-ERR Server Disabled\r\n".toList = false := by decide
            simp only [hen, Bool.false_eq_true, if_false] at hcall
            rw [forwardToAllSecondaryServers, if_pos ⟨hp, hd⟩, hc]
            simp only [hcall, Option.bind_some, hno, Bool.false_eq_true, if_false]
          | true =>
            simp only [hen, if_true] at hcall
            cases hrun : (x.run (u.server it.address).table).2 with
            | false =>
              refine ⟨false, _, ?_, .rejected hp hd hc hen hrun⟩
              rw [forwardToAllSecondaryServers, if_pos ⟨hp, hd⟩, hc]
              simp only [hcall, Option.bind_some, contains_writeReply, hrun, Bool.false_eq_true,
                if_false]
            | true =>
              have hnext := hrest.of_sameSettings
                (hs.trans (applyAt_sameSettings u it.address x))
              obtain ⟨ok, w', he, hf⟩ := ih hnext
              refine ⟨ok, w', ?_, .taken hp hd hc hen hrun hf⟩
              rw [forwardToAllSecondaryServers, if_pos ⟨hp, hd⟩, hc]
              simp only [hcall, Option.bind_some, contains_writeReply, hrun, if_true]
              exact he

lemma port_ne_of_nodup {it y : ServerInfo} {rest : List ServerInfo}
    (h : ((it :: rest).map ServerInfo.tcpPort).Nodup) (hy : y ∈ rest) :
    y.tcpPort ≠ it.tcpPort := by
  intro he
  rw [List.map_cons, List.nodup_cons] at h
  exact h.1 (he ▸ List.mem_map_of_mem hy)

lemma address_ne_of_nodup {it y : ServerInfo} {rest : List ServerInfo}
    (h : ((it :: rest).map ServerInfo.tcpPort).Nodup) (hy : y ∈ rest) :
    y.address ≠ it.address :=
  fun he => port_ne_of_nodup h hy (congrArg Prod.snd he)

/-! ### What the loop leaves alone -/

variable {g : Int} {x : Write} {list : List ServerInfo} {w w' : World} {ok : Bool}

theorem Forwards.sameSettings (h : Forwards g x list w ok w') : SameSettings w w' := by
  induction h with
  | done => exact fun _ => rfl
  | primary _ _ ih => exact ih
  | dead _ _ _ ih => exact ih
  | noSocket _ _ hc => exact connect_sameSettings hc
  | refused _ _ hc => exact connect_sameSettings hc
  | disabled _ _ hc _ => exact connect_sameSettings hc
  | rejected _ _ hc _ _ => exact (connect_sameSettings hc).trans (applyAt_sameSettings _ _ _)
  | taken _ _ hc _ _ _ ih =>
    exact ((connect_sameSettings hc).trans (applyAt_sameSettings _ _ _)).trans ih

/-- Only servers on the list that are not marked primary are reached. -/
theorem Forwards.server_eq (h : Forwards g x list w ok w') {a : Address}
    (ha : ∀ it ∈ list, it.isPrimary = false → it.address ≠ a) : w'.server a = w.server a := by
  induction h with
  | done => rfl
  | primary _ _ ih => exact ih (fun y hy => ha y (List.mem_cons_of_mem _ hy))
  | dead _ _ _ ih => exact ih (fun y hy => ha y (List.mem_cons_of_mem _ hy))
  | noSocket _ _ hc => rw [(connect_server hc).1]
  | refused _ _ hc => rw [(connect_server hc).1]
  | disabled _ _ hc _ => rw [(connect_server hc).1]
  | rejected hp _ hc _ _ =>
    have hne := ha _ List.mem_cons_self hp
    rw [applyAt_server_of_ne _ (Ne.symm hne), (connect_server hc).1]
  | taken hp _ hc _ _ _ ih =>
    have hne := ha _ List.mem_cons_self hp
    rw [ih (fun y hy => ha y (List.mem_cons_of_mem _ hy)),
      applyAt_server_of_ne _ (Ne.symm hne), (connect_server hc).1]

/-- Only the dead-server logs of servers marked dead are written. -/
theorem Forwards.deadLog_eq (h : Forwards g x list w ok w') (hw : Named w) {q : Int}
    (hq : ∀ it ∈ list, it.isPrimary = false → it.tcpPort ≠ q) :
    deadLog g q w'.disk = deadLog g q w.disk := by
  induction h with
  | done => rfl
  | primary _ _ ih => exact ih hw (fun y hy => hq y (List.mem_cons_of_mem _ hy))
  | dead hp _ _ ih =>
    have hne := hq _ List.mem_cons_self hp
    rw [ih hw (fun y hy => hq y (List.mem_cons_of_mem _ hy)), logAt, deadLog_append,
      if_neg (Ne.symm hne)]
  | noSocket _ _ hc => rw [(connect_server hc).2]
  | refused _ _ hc => rw [(connect_server hc).2]
  | disabled _ _ hc _ => rw [(connect_server hc).2]
  | rejected _ _ hc _ _ =>
    rw [applyAt_deadLog (hw.of_sameSettings (connect_sameSettings hc)), (connect_server hc).2]
  | taken _ _ hc _ _ _ ih =>
    have hu := hw.of_sameSettings (connect_sameSettings hc)
    rw [ih (hu.of_sameSettings (applyAt_sameSettings _ _ _))
      (fun y hy => hq y (List.mem_cons_of_mem _ hy)), applyAt_deadLog hu, (connect_server hc).2]

end CloudStorage.Proofs
