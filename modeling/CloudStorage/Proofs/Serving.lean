import CloudStorage.Proofs.Forwarding

/-!
# Commands at the primary and at the secondaries

What `serveCommand` does with a command text, by the role of the server: a write at the
primary goes through the loop over the secondaries, a write at a secondary goes to the
primary, and every other command changes no table.
-/

namespace CloudStorage.Proofs
open DelimitedText Registers

/-- A server that leads its group: the other servers on its list are secondaries with
ports of their own. -/
structure Leads (w : World) (p : Address) : Prop where
  isPrimary : (w.server p).myInfo.isPrimary = true
  ready : (w.server p).currentlyInitializing = false
  own : ∀ it ∈ (w.server p).serverList, it.isPrimary = false → it.address ≠ p
  ports : ((w.server p).serverList.map ServerInfo.tcpPort).Nodup
  roles : SecondaryRoles (w.server p).serverList w
  named : Named w

lemma Leads.of_sameSettings {w w' : World} {p : Address} (hw : Leads w p)
    (hs : SameSettings w w') : Leads w' p := by
  have hlist := settings_serverList (hs p)
  constructor
  · rw [settings_myInfo (hs p)]
    exact hw.isPrimary
  · rw [settings_initializing (hs p)]
    exact hw.ready
  · rw [hlist]
    exact hw.own
  · rw [hlist]
    exact hw.ports
  · rw [hlist]
    exact hw.roles.of_sameSettings hs
  · exact hw.named.of_sameSettings hs

/-- The world and the reply once the loop over the secondaries has returned `ok`. -/
def afterForward (p : Address) (x : Write) (ok : Bool) (w : World) : World × Str :=
  if ok then (applyAt w p x, writeReply x (w.server p).table)
  else (w.settle p (w.node p), x.secondaryErr)

lemma handleWrite_at_primary {n : Node} (hi : n.server.currentlyInitializing = false)
    (hp : n.server.myInfo.isPrimary = true) (x : Write) (origin : Origin) (msg : Str) :
    handleWrite x origin msg n = .secondaries (x.tempCommand "PRIMARY".toList)
      (fun ok n => if ok then applyWrite x n else (n, x.secondaryErr)) := by
  unfold handleWrite
  rw [hi, hp]
  rfl

/-- A write at the primary. -/
theorem serveCommand_primary {w : World} {p : Address} (hw : Leads w p) {command : Str}
    (hc : NoCrlf command) {x : Write} {extra : List Str}
    (hx : splitKVStoreCommand command = x.word :: (x.fields ++ extra)) (depth : Nat) (msg : Str) :
    ∃ ok u, Forwards (w.server p).replicaGroup x (w.server p).serverList w ok u ∧
      serveCommand (depth + 2) p msg command w = some (afterForward p x ok u) := by
  obtain ⟨ok, u, he, hf⟩ := forwardToAllSecondaryServers_forwards (commaFree_of_split hx)
    (noCrlf_line hc hx) (w.server p).replicaGroup depth hw.roles
  refine ⟨ok, u, hf, ?_⟩
  unfold serveCommand
  dsimp only
  rw [hx, handleCommand_write, handleWrite_at_primary hw.ready hw.isPrimary]
  simp only [he, Option.map_some, Option.some.injEq]
  unfold afterForward
  cases ok with
  | true =>
    simp only [if_true, applyWrite_reply]
    rfl
  | false => rfl

/-- A command that is no write with its parameters changes at most the server's own files. -/
theorem serveCommand_other {w w' : World} {a : Address} {command msg reply : Str} {depth : Nat}
    (hx : ∀ x extra, splitKVStoreCommand command ≠ Write.word x :: (x.fields ++ extra))
    (h : serveCommand depth a msg command w = some (w', reply)) :
    w' = w.settle a (w.node a) := by
  cases depth with
  | zero => exact absurd h (by simp [serveCommand])
  | succ depth =>
    unfold serveCommand at h
    dsimp only at h
    rcases handleCommand_cases (splitKVStoreCommand command)
      (classify (splitKVStoreCommand command)) msg (w.node a) with
      ⟨x, extra, hs, -⟩ | ⟨r, hr⟩ | hu
    · exact absurd hs (hx x extra)
    · rw [hr] at h
      cases h
      rfl
    · simp [hu] at h

/-! ### A secondary -/

/-- A server that takes `p` for its primary. -/
structure Follows (w : World) (p a : Address) : Prop where
  isSecondary : (w.server a).myInfo.isPrimary = false
  ready : (w.server a).currentlyInitializing = false
  primary : (w.server a).primaryInfo.address = p

lemma Follows.of_sameSettings {w w' : World} {p a : Address} (ha : Follows w p a)
    (hs : SameSettings w w') : Follows w' p a := by
  constructor
  · rw [settings_myInfo (hs a)]
    exact ha.isSecondary
  · rw [settings_initializing (hs a)]
    exact ha.ready
  · rw [settings_primaryInfo (hs a)]
    exact ha.primary

lemma handleWrite_at_secondary {n : Node} (hi : n.server.currentlyInitializing = false)
    (hp : n.server.myInfo.isPrimary = false) (x : Write) (origin : Origin) (msg : Str) :
    handleWrite x origin msg n = match origin with
      | .frontend => .primary (x.tempCommand "SECONDARY".toList)
          (fun ok n => (n, if ok then okMsg else x.primaryErr))
      | .primary => .finished (applyWrite x n).1 (applyWrite x n).2
      | .secondary => .finished n msg := by
  unfold handleWrite
  rw [hi, hp]
  rfl

section secondary

variable {w : World} {p a : Address} {command : Str} {x : Write} {extra : List Str}

/-- A write at a secondary whose last parameter names the primary as its sender. -/
theorem serveCommand_tagged_primary (ha : Follows w p a)
    (hx : splitKVStoreCommand command = x.word :: (x.fields ++ extra))
    (ho : classify (splitKVStoreCommand command) = .primary) (depth : Nat) (msg : Str) :
    serveCommand (depth + 1) a msg command w =
      some (applyAt w a x, writeReply x (w.server a).table) := by
  rw [hx] at ho
  unfold serveCommand
  dsimp only
  rw [hx, ho, handleCommand_write, handleWrite_at_secondary ha.ready ha.isSecondary]
  dsimp only
  rw [applyWrite_reply]
  rfl

/-- A write at a secondary whose last parameter names a secondary as its sender. -/
theorem serveCommand_tagged_secondary (ha : Follows w p a)
    (hx : splitKVStoreCommand command = x.word :: (x.fields ++ extra))
    (ho : classify (splitKVStoreCommand command) = .secondary) (depth : Nat) (msg : Str) :
    serveCommand (depth + 1) a msg command w = some (w.settle a (w.node a), msg) := by
  rw [hx] at ho
  unfold serveCommand
  dsimp only
  rw [hx, ho, handleCommand_write, handleWrite_at_secondary ha.ready ha.isSecondary]

/-- A write of a frontend at a secondary goes to the primary. -/
theorem serveCommand_frontend (ha : Follows w p a)
    (hx : splitKVStoreCommand command = x.word :: (x.fields ++ extra))
    (ho : classify (splitKVStoreCommand command) = .frontend) (depth : Nat) (msg : Str) :
    serveCommand (depth + 1) a msg command w =
      (forwardToPrimary (readAndWriteFromSocket (serveCommand depth)) p
        (x.tempCommand "SECONDARY".toList) w).map
        (fun r => (r.2.settle a (r.2.node a), if r.1 then okMsg else x.primaryErr)) := by
  rw [hx] at ho
  unfold serveCommand
  dsimp only
  rw [hx, ho, handleCommand_write, handleWrite_at_secondary ha.ready ha.isSecondary, ha.primary]

lemma secondaryErr_length (x : Write) : 5 ≤ x.secondaryErr.length := by
  cases x
  · exact (by decide : 5 ≤ "-ERR Writing PUT values to secondary\r\n".toList.length)
  · exact (by decide : 5 ≤ "-ERR Writing CPUT values to secondary\r\n".toList.length)
  · exact (by decide : 5 ≤ "-ERR DELETING values from all secondary\r\n".toList.length)

lemma afterForward_length (p : Address) (x : Write) (ok : Bool) (w : World) :
    5 ≤ (afterForward p x ok w).2.length := by
  unfold afterForward
  cases ok with
  | true => exact writeReply_length x _
  | false => exact secondaryErr_length x

/-- The call of the primary by a secondary. -/
theorem call_primary (hw : Leads w p) (hx : CommaFree x) (hl : NoCrlf x.line)
    (he : (w.server p).enabled = true) (depth : Nat) :
    ∃ ok u, Forwards (w.server p).replicaGroup x (w.server p).serverList w ok u ∧
      readAndWriteFromSocket (serveCommand (depth + 2)) p (x.tempCommand "SECONDARY".toList) w =
        some ((afterForward p x ok u).2, (afterForward p x ok u).1) := by
  have hc : NoCrlf (x.line ++ ",".toList ++ "SECONDARY".toList) := by
    simpa using hl.comma (noCrlf_of_not_mem (by decide : '\r' ∉ "SECONDARY".toList))
  obtain ⟨ok, u, hf, hs⟩ := serveCommand_primary hw hc (splitKVStoreCommand_secondary hx) depth []
  refine ⟨ok, u, hf, ?_⟩
  unfold readAndWriteFromSocket
  rw [if_pos he, commandLines_tempCommand hl (by decide), serveLines, hs]
  simp only [Option.bind_some, serveLines, List.nil_append,
    if_pos (afterForward_length p x ok u)]

lemma call_disabled (he : (w.server p).enabled = false) (text : Str)
    (serve : Address → Str → Str → World → Option (World × Str)) :
    readAndWriteFromSocket serve p text w = some ("-ERR Server Disabled\r\n".toList, w) := by
  unfold readAndWriteFromSocket
  rw [he]
  rfl

end secondary

/-! ### Replica group 1 of the configuration -/

/-- The servers of group 1 once 2001 was elected and the others joined. -/
def group1Info (port : Int) : ServerInfo where
  ip := "127.0.0.1".toList
  tcpPort := port
  udpPort2 := port + 7000
  isPrimary := decide (port = 2001)
  isDead := false
  replicaGroup := 1

def group1 (tables : Int → Table) (outcomes : List Outcome) : World where
  server := fun a =>
    { table := tables a.2
      servers := fun _ => [group1Info 2001, group1Info 2002, group1Info 2003]
      myInfo := group1Info a.2
      primaryInfo := group1Info 2001
      replicaGroup := 1
      diskFilePath := storagePath 1 a.2 }
  disk := fun _ => none
  time := 0
  outcomes := outcomes

def group1Address (port : Int) : Address := ("127.0.0.1".toList, port)

lemma group1_leads (tables : Int → Table) (outcomes : List Outcome) :
    Leads (group1 tables outcomes) (group1Address 2001) where
  isPrimary := rfl
  ready := rfl
  own := by
    intro it hit hp ha
    have hport : it.tcpPort = 2001 := congrArg Prod.snd ha
    have hmem : it = group1Info 2001 ∨ it = group1Info 2002 ∨ it = group1Info 2003 := by
      simpa [Server.serverList, group1] using hit
    rcases hmem with rfl | rfl | rfl
    · exact absurd hp (by decide)
    · exact absurd hport (by decide)
    · exact absurd hport (by decide)
  ports := by
    change ([2001, 2002, 2003] : List Int).Nodup
    decide
  roles := fun it hit hp => by
    have hmem : it = group1Info 2001 ∨ it = group1Info 2002 ∨ it = group1Info 2003 := by
      simpa [Server.serverList, group1] using hit
    rcases hmem with rfl | rfl | rfl
    · exact absurd hp (by decide)
    · rfl
    · rfl
  named := fun a => ⟨1, a.2, rfl⟩

end CloudStorage.Proofs
