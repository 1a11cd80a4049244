import CloudStorage.Proofs.Serving

/-!
# Acknowledged writes

Both forwarding functions report success when they could not make a socket, the one to
the primary also when it could not connect, and a command may name its own sender. This
file proves exactly which replicas an acknowledged write misses.
-/

namespace CloudStorage.Proofs
open DelimitedText Registers

/-- The client is told that its command succeeded. -/
def Acknowledged (reply : Str) : Prop := "+OK".toList <+: reply

instance : DecidablePred Acknowledged := fun reply =>
  inferInstanceAs (Decidable ("+OK".toList <+: reply))

/-- Server `a` carried the write `x` out between `w` and `w'`. -/
def Applied (x : Write) (w w' : World) (a : Address) : Prop :=
  (x.run (w.server a).table).2 = true ∧
    cellsOf (w'.server a).table = cellsOf (x.run (w.server a).table).1

/-- The write `x` would leave the table as it is. -/
def InForce (x : Write) (t : Table) : Prop := (x.run t).2 = true ∧ cellsOf (x.run t).1 = cellsOf t

def MarkedLive (it : ServerInfo) : Prop := it.isPrimary = false ∧ it.isDead = false

instance : DecidablePred MarkedLive := fun it =>
  inferInstanceAs (Decidable (it.isPrimary = false ∧ it.isDead = false))

lemma not_markedLive_of_primary {it : ServerInfo} (h : it.isPrimary = true) : ¬MarkedLive it :=
  fun hl => absurd hl.1 (by simp [h])

lemma not_markedLive_of_dead {it : ServerInfo} (h : it.isDead = true) : ¬MarkedLive it :=
  fun hl => absurd hl.2 (by simp [h])

/-- The primary and the secondaries that it has marked live. -/
def replicas (w : World) (p : Address) : List Address :=
  p :: ((w.server p).serverList.filter MarkedLive).map ServerInfo.address

/-- The end of the server list that the loop leaves out because `socket` fails. -/
def leftOut (x : Write) (server : Address → Server) :
    List ServerInfo → List Outcome → List ServerInfo
  | [], _ => []
  | it :: rest, outcomes =>
    if MarkedLive it then
      match outcomes.headD .connected with
      | .noSocket => it :: rest
      | .refused => []
      | .connected =>
        if (server it.address).enabled ∧ (x.run (server it.address).table).2 then
          leftOut x server rest outcomes.tail
        else []
    else leftOut x server rest outcomes

variable {g : Int} {x : Write} {list : List ServerInfo} {w w' : World} {ok : Bool}

lemma Applied.of_unchanged {a : Address} (h : w'.server a = w.server a) :
    Applied x w w' a ↔ InForce x (w.server a).table := by
  unfold Applied InForce
  rw [h]
  exact and_congr_right (fun _ => eq_comm)

lemma leftOut_congr {server server' : Address → Server} (outcomes : List Outcome)
    (h : ∀ it ∈ list, server it.address = server' it.address) :
    leftOut x server list outcomes = leftOut x server' list outcomes := by
  induction list generalizing outcomes with
  | nil => rfl
  | cons it rest ih =>
    have hrest := fun os => ih os (fun y hy => h y (List.mem_cons_of_mem it hy))
    simp only [leftOut, h it List.mem_cons_self, hrest]

lemma mem_of_mem_leftOut {server : Address → Server} {outcomes : List Outcome} {y : ServerInfo}
    (h : y ∈ leftOut x server list outcomes) : y ∈ list := by
  induction list generalizing outcomes with
  | nil => exact h
  | cons it rest ih =>
    unfold leftOut at h
    split at h
    · split at h
      · exact h
      · exact absurd h List.not_mem_nil
      · split at h
        · exact List.mem_cons_of_mem it (ih h)
        · exact absurd h List.not_mem_nil
    · exact List.mem_cons_of_mem it (ih h)

lemma connect_headD {o : Outcome} (h : w.connect = (o, w')) :
    w.outcomes.headD .connected = o ∧ w'.outcomes = w.outcomes.tail := by
  unfold World.connect at h
  split at h
  · next he =>
    cases h
    simp [he]
  · next he =>
    cases h
    simp [he]

lemma Applied.congr_start {u : World} {a : Address} (h : u.server a = w.server a) :
    Applied x u w' a ↔ Applied x w w' a := by
  unfold Applied
  rw [h]

lemma leftOut_of_not_live {it : ServerInfo} {rest : List ServerInfo} (h : ¬MarkedLive it)
    (server : Address → Server) (outcomes : List Outcome) :
    leftOut x server (it :: rest) outcomes = leftOut x server rest outcomes := by
  rw [leftOut, if_neg h]

/-- What the loop that returned `ok` did to the live servers of its list. -/
structure Reaches (x : Write) (list : List ServerInfo) (w w' : World) (ok : Bool) : Prop where
  success : leftOut x w.server list w.outcomes ≠ [] → ok = true
  left : ∀ it ∈ leftOut x w.server list w.outcomes, w'.server it.address = w.server it.address
  applied : ok = true → ∀ it ∈ list, MarkedLive it →
    it ∉ leftOut x w.server list w.outcomes → Applied x w w' it.address

/-- A server that is not live does not matter to the loop. -/
lemma Reaches.cons_of_not_live {it : ServerInfo} {rest : List ServerInfo} {u : World}
    (h : Reaches x rest u w' ok) (hit : ¬MarkedLive it) (hs : u.server = w.server)
    (ho : u.outcomes = w.outcomes) : Reaches x (it :: rest) w w' ok where
  success := by
    rw [leftOut_of_not_live hit, ← hs, ← ho]
    exact h.success
  left := by
    rw [leftOut_of_not_live hit, ← hs, ← ho]
    exact h.left
  applied := by
    intro hok y hy hlive hout
    rw [leftOut_of_not_live hit, ← hs, ← ho] at hout
    have hyr : y ∈ rest := by
      rcases List.mem_cons.mp hy with rfl | hy
      · exact absurd hlive hit
      · exact hy
    exact (Applied.congr_start (by rw [hs])).mp (h.applied hok y hyr hlive hout)

/-- The loop stopped with a failure at the first live server. -/
lemma Reaches.of_failed {it : ServerInfo} {rest : List ServerInfo}
    (hout : leftOut x w.server (it :: rest) w.outcomes = []) :
    Reaches x (it :: rest) w w' false where
  success := fun hne => absurd hout hne
  left := by
    rw [hout]
    intro y hy
    exact absurd hy List.not_mem_nil
  applied := fun hok => absurd hok (by decide)

/-- The loop reports success for the servers that it leaves out, and for no others unless
they carried the write out. -/
theorem Forwards.reaches (h : Forwards g x list w ok w')
    (hports : (list.map ServerInfo.tcpPort).Nodup) : Reaches x list w w' ok := by
  induction h with
  | done => exact ⟨fun hne => absurd rfl hne, fun y hy => absurd hy List.not_mem_nil,
      fun _ y hy => absurd hy List.not_mem_nil⟩
  | primary hp hf ih =>
    exact (ih (List.nodup_cons.mp hports).2).cons_of_not_live (not_markedLive_of_primary hp) rfl rfl
  | dead hp hd hf ih =>
    exact (ih (List.nodup_cons.mp hports).2).cons_of_not_live (not_markedLive_of_dead hd) rfl rfl
  | @noSocket it rest w w' hp hd hc =>
    have hout : leftOut x w.server (it :: rest) w.outcomes = it :: rest := by
      rw [leftOut, if_pos ⟨hp, hd⟩, (connect_headD hc).1]
    refine ⟨fun _ => rfl, ?_, ?_⟩
    · intro y _
      rw [(connect_server hc).1]
    · intro _ y hy _ hno
      rw [hout] at hno
      exact absurd hy hno
  | refused hp hd hc =>
    apply Reaches.of_failed
    rw [leftOut, if_pos ⟨hp, hd⟩, (connect_headD hc).1]
  | disabled hp hd hc hen =>
    rw [(connect_server hc).1] at hen
    apply Reaches.of_failed
    rw [leftOut, if_pos ⟨hp, hd⟩, (connect_headD hc).1]
    simp only [hen, Bool.false_eq_true, false_and, if_false]
  | rejected hp hd hc hen hrun =>
    rw [(connect_server hc).1] at hrun
    apply Reaches.of_failed
    rw [leftOut, if_pos ⟨hp, hd⟩, (connect_headD hc).1]
    simp only [hrun, Bool.false_eq_true, and_false, if_false]
  | @taken it rest w u w' ok hp hd hc hen hrun hf ih =>
    have hr := ih (List.nodup_cons.mp hports).2
    have hserver : ∀ y ∈ rest, (applyAt u it.address x).server y.address = w.server y.address := by
      intro y hy
      rw [applyAt_server_of_ne u (address_ne_of_nodup hports hy), (connect_server hc).1]
    have hout : leftOut x (applyAt u it.address x).server rest (applyAt u it.address x).outcomes =
        leftOut x w.server (it :: rest) w.outcomes := by
      rw [leftOut_congr _ hserver, leftOut, if_pos ⟨hp, hd⟩, (connect_headD hc).1,
        ← (connect_server hc).1, if_pos ⟨hen, hrun⟩, ← (connect_headD hc).2]
      rfl
    refine ⟨?_, ?_, ?_⟩
    · rw [← hout]
      exact hr.success
    · intro y hy
      rw [← hout] at hy
      rw [hr.left y hy, hserver y (mem_of_mem_leftOut hy)]
    · intro hok y hy hlive hno
      rw [← hout] at hno
      rcases List.mem_cons.mp hy with rfl | hy
      · have hrest := hf.server_eq (fun z hz _ => address_ne_of_nodup hports hz)
        rw [Applied, hrest, applyAt_table, ← (connect_server hc).1]
        exact ⟨hrun, rfl⟩
      · exact (Applied.congr_start (hserver y hy)).mp (hr.applied hok y hy hlive hno)

/-- The primary and every secondary that it has marked live carried the write out. -/
def AppliedByAll (x : Write) (p : Address) (w w' : World) : Prop :=
  ∀ a ∈ replicas w p, Applied x w w' a

lemma mem_replicas {p a : Address} : a ∈ replicas w p ↔
    a = p ∨ ∃ it ∈ (w.server p).serverList, MarkedLive it ∧ it.address = a := by
  simp [replicas, and_assoc]

lemma acknowledged_okMsg : Acknowledged okMsg := by decide

lemma acknowledged_writeReply (x : Write) (t : Table) :
    Acknowledged (writeReply x t) ↔ (x.run t).2 = true := by
  unfold writeReply
  cases (x.run t).2 with
  | true => exact iff_of_true (by decide) rfl
  | false => exact iff_of_false (by decide) (by decide)

lemma not_acknowledged_secondaryErr (x : Write) : ¬Acknowledged x.secondaryErr := by
  cases x
  · exact (by decide : ¬Acknowledged "-ERR Writing PUT values to secondary\r\n".toList)
  · exact (by decide : ¬Acknowledged "-ERR Writing CPUT values to secondary\r\n".toList)
  · exact (by decide : ¬Acknowledged "-ERR DELETING values from all secondary\r\n".toList)

lemma not_acknowledged_primaryErr (x : Write) : ¬Acknowledged x.primaryErr := by
  cases x
  · exact (by decide : ¬Acknowledged "-ERR Returned by Server while writing PUT Values\r\n".toList)
  · exact (by decide : ¬Acknowledged "-ERR Error Editing the values\r\n".toList)
  · exact (by decide : ¬Acknowledged "-ERR Error Deleting Values\r\n".toList)

/-- The live secondaries that the primary's loop leaves out because `socket` fails. -/
def leftOutLive (x : Write) (p : Address) (w : World) (outcomes : List Outcome) : List Address :=
  ((leftOut x w.server (w.server p).serverList outcomes).filter MarkedLive).map ServerInfo.address

/-- What the primary acknowledges was applied by all exactly when the servers it left out
already hold the result. -/
theorem afterForward_applied_iff {p : Address} (hw : Leads w p)
    (hf : Forwards (w.server p).replicaGroup x (w.server p).serverList w ok w') :
    (Acknowledged (afterForward p x ok w').2 → AppliedByAll x p w (afterForward p x ok w').1) ↔
      ((x.run (w.server p).table).2 = true →
        ∀ b ∈ leftOutLive x p w w.outcomes, InForce x (w.server b).table) := by
  have hr := hf.reaches hw.ports
  have hp : w'.server p = w.server p := hf.server_eq hw.own
  have hother : ∀ it ∈ (w.server p).serverList, MarkedLive it →
      (applyAt w' p x).server it.address = w'.server it.address := by
    intro it hit hlive
    exact applyAt_server_of_ne w' (hw.own it hit hlive.1) x
  unfold afterForward
  cases ok with
  | false =>
    simp only [Bool.false_eq_true, if_false]
    refine iff_of_true (fun hack => absurd hack (not_acknowledged_secondaryErr x)) ?_
    intro _ b hb
    -- nothing was left out, or the loop would have reported success
    have hout : leftOut x w.server (w.server p).serverList w.outcomes = [] := by
      by_contra hne
      exact absurd (hr.success hne) (by decide)
    simp [leftOutLive, hout] at hb
  | true =>
    simp only [if_true, acknowledged_writeReply, hp]
    refine imp_congr_right (fun hrun => ?_)
    have hself : Applied x w (applyAt w' p x) p := by
      rw [Applied, applyAt_table, hp]
      exact ⟨hrun, rfl⟩
    constructor
    · intro hall b hb
      obtain ⟨it, hit, rfl⟩ := List.mem_map.mp hb
      obtain ⟨hit, hlive⟩ := List.mem_filter.mp hit
      have hlive : MarkedLive it := of_decide_eq_true hlive
      have hmem := mem_of_mem_leftOut hit
      have happ := hall it.address (mem_replicas.mpr (Or.inr ⟨it, hmem, hlive, rfl⟩))
      exact (Applied.of_unchanged ((hother it hmem hlive).trans (hr.left it hit))).mp happ
    · intro hforce a ha
      rcases mem_replicas.mp ha with rfl | ⟨it, hit, hlive, rfl⟩
      · exact hself
      · by_cases hout : it ∈ leftOut x w.server (w.server p).serverList w.outcomes
        · apply (Applied.of_unchanged ((hother it hit hlive).trans (hr.left it hout))).mpr
          exact hforce it.address (List.mem_map_of_mem
            (List.mem_filter.mpr ⟨hout, decide_eq_true hlive⟩))
        · have happ := hr.applied rfl it hit hlive hout
          rw [Applied, hother it hit hlive]
          exact happ

/-! ### At any replica -/

/-- The replicas that the write of a client at `a` does not reach although nothing is
refused: those left out for want of a socket, all when the primary is not connected to,
and all but `a` when the last parameter names a sender. -/
def missed (x : Write) (p a : Address) (origin : Origin) (w : World) : List Address :=
  if a = p then leftOutLive x p w w.outcomes
  else match origin with
    | .frontend =>
      if w.outcomes.headD .connected = .connected then leftOutLive x p w w.outcomes.tail
      else replicas w p
    | .primary => (replicas w p).filter (· ≠ a)
    | .secondary => replicas w p

/-- The server that decides the reply does not refuse the write itself. -/
def Accepts (x : Write) (p a : Address) (origin : Origin) (msg : Str) (w : World) : Prop :=
  if a = p then (x.run (w.server p).table).2 = true
  else match origin with
    | .frontend => w.outcomes.headD .connected = .connected →
        (w.server p).enabled = true ∧ (x.run (w.server p).table).2 = true
    | .primary => (x.run (w.server a).table).2 = true
    | .secondary => Acknowledged msg

lemma contains_afterForward (p : Address) (x : Write) (ok : Bool) (w : World) :
    contains "+OK".toList (afterForward p x ok w).2 = true ↔
      Acknowledged (afterForward p x ok w).2 := by
  unfold afterForward
  cases ok with
  | true => simp only [if_true, contains_writeReply, acknowledged_writeReply]
  | false =>
    refine iff_of_false ?_ (not_acknowledged_secondaryErr x)
    cases x
    · exact (by decide : contains "+OK".toList
        "-ERR Writing PUT values to secondary\r\n".toList ≠ true)
    · exact (by decide : contains "+OK".toList
        "-ERR Writing CPUT values to secondary\r\n".toList ≠ true)
    · exact (by decide : contains "+OK".toList
        "-ERR DELETING values from all secondary\r\n".toList ≠ true)

/-- A secondary acknowledges what its call of the primary reports. -/
lemma acknowledged_relay (x : Write) (ok : Bool) :
    Acknowledged (if ok then okMsg else x.primaryErr) ↔ ok = true := by
  cases ok with
  | true => exact iff_of_true acknowledged_okMsg rfl
  | false => exact iff_of_false (not_acknowledged_primaryErr x) (by decide)

lemma appliedByAll_congr_start {p : Address} {u : World} (h : u.server = w.server) :
    AppliedByAll x p u w' ↔ AppliedByAll x p w w' := by
  unfold AppliedByAll replicas
  rw [h]
  exact forall₂_congr (fun b _ => Applied.congr_start (by rw [h]))

lemma applied_settle {p : Address} (a : Address) :
    Applied x w (w'.settle a (w'.node a)) p ↔ Applied x w w' p := by
  have ht : ((w'.settle a (w'.node a)).server p).table = (w'.server p).table := by
    by_cases hp : p = a
    · subst hp
      rw [settle_table]
      rfl
    · rw [settle_server_of_ne w' hp]
  unfold Applied
  rw [ht]

lemma appliedByAll_settle {p : Address} (a : Address) :
    AppliedByAll x p w (w'.settle a (w'.node a)) ↔ AppliedByAll x p w w' :=
  forall₂_congr (fun _ _ => applied_settle a)

/-- What changed nothing was applied by all exactly when all hold the result already. -/
lemma appliedByAll_unchanged {p : Address} (h : w'.server = w.server) :
    AppliedByAll x p w w' ↔ ∀ b ∈ replicas w p, InForce x (w.server b).table :=
  forall₂_congr (fun b _ => Applied.of_unchanged (by rw [h]))

section client

variable {p a : Address} {command msg : Str} {extra : List Str}

/-- A write at the primary. -/
lemma primary_applied_iff (hw : Leads w p) (hc : NoCrlf command)
    (hx : splitKVStoreCommand command = x.word :: (x.fields ++ extra)) (origin : Origin)
    (depth : Nat) :
    ∃ w' reply, serveCommand (depth + 2) p msg command w = some (w', reply) ∧
      ((Acknowledged reply → AppliedByAll x p w w') ↔
        (Accepts x p p origin msg w → ∀ b ∈ missed x p p origin w,
          InForce x (w.server b).table)) := by
  obtain ⟨ok, u, hf, hs⟩ := serveCommand_primary hw hc hx depth msg
  refine ⟨_, _, hs, ?_⟩
  unfold Accepts missed
  rw [if_pos rfl, if_pos rfl]
  exact afterForward_applied_iff hw hf

/-- A write at a secondary that goes on to the primary. -/
lemma frontend_applied_iff (hw : Leads w p) (ha : Follows w p a) (hap : a ≠ p)
    (hc : NoCrlf command) (hx : splitKVStoreCommand command = x.word :: (x.fields ++ extra))
    (ho : classify (splitKVStoreCommand command) = .frontend) (depth : Nat) :
    ∃ w' reply, serveCommand (depth + 3) a msg command w = some (w', reply) ∧
      ((Acknowledged reply → AppliedByAll x p w w') ↔
        (Accepts x p a .frontend msg w → ∀ b ∈ missed x p a .frontend w,
          InForce x (w.server b).table)) := by
  rw [serveCommand_frontend ha hx ho]
  unfold Accepts missed
  rw [if_neg hap, if_neg hap]
  rcases hcon : w.connect with ⟨o, u⟩
  obtain ⟨hhead, htail⟩ := connect_headD hcon
  obtain ⟨hserver, -⟩ := connect_server hcon
  have hfail : o ≠ .connected → forwardToPrimary (readAndWriteFromSocket
      (serveCommand (depth + 2))) p (x.tempCommand "SECONDARY".toList) w = some (true, u) := by
    intro hne
    unfold forwardToPrimary
    rw [hcon]
    cases o with
    | noSocket => rfl
    | refused => rfl
    | connected => exact absurd rfl hne
  by_cases hok : o = .connected
  · subst hok
    have hlead := hw.of_sameSettings (connect_sameSettings hcon)
    cases hen : (u.server p).enabled with
    | false =>
      refine ⟨_, _, by rw [forwardToPrimary, hcon]; simp only [call_disabled hen]; rfl, ?_⟩
      rw [hserver] at hen
      refine iff_of_true (fun hack => absurd hack ?_) ?_
      · exact not_acknowledged_primaryErr x
      · intro hacc
        exact absurd (hacc hhead).1 (by simp [hen])
    | true =>
      obtain ⟨ok, v, hf, hcall⟩ := call_primary hlead (commaFree_of_split hx)
        (noCrlf_line hc hx) hen depth
      refine ⟨_, _, by rw [forwardToPrimary, hcon]; simp only [hcall]; rfl, ?_⟩
      have hiff := afterForward_applied_iff hlead hf
      have hleft : leftOutLive x p u u.outcomes = leftOutLive x p w w.outcomes.tail := by
        unfold leftOutLive
        rw [hserver, htail]
      rw [hserver] at hen
      rw [hleft, hserver, appliedByAll_congr_start hserver] at hiff
      rw [if_pos hhead, acknowledged_relay, contains_afterForward, appliedByAll_settle]
      refine hiff.trans (imp_congr_left ?_)
      exact ⟨fun hrun _ => ⟨hen, hrun⟩, fun hacc => (hacc hhead).2⟩
  · refine ⟨_, _, by rw [hfail hok]; rfl, ?_⟩
    have hne : w.outcomes.headD .connected ≠ .connected := by
      rw [hhead]
      exact hok
    rw [if_neg hne, acknowledged_relay, appliedByAll_settle, appliedByAll_unchanged hserver]
    have hno : w.outcomes.headD .connected = .connected →
        (w.server p).enabled = true ∧ (x.run (w.server p).table).2 = true := by
      intro hcn
      exact absurd hcn hne
    exact ⟨fun h _ => h rfl, fun h _ => h hno⟩

/-- A write at a secondary that names the primary as its sender stays there. -/
lemma tagged_primary_applied_iff (ha : Follows w p a) (hap : a ≠ p)
    (hx : splitKVStoreCommand command = x.word :: (x.fields ++ extra))
    (ho : classify (splitKVStoreCommand command) = .primary) (depth : Nat) :
    ∃ w' reply, serveCommand (depth + 1) a msg command w = some (w', reply) ∧
      ((Acknowledged reply → AppliedByAll x p w w') ↔
        (Accepts x p a .primary msg w → ∀ b ∈ missed x p a .primary w,
          InForce x (w.server b).table)) := by
  refine ⟨_, _, serveCommand_tagged_primary ha hx ho depth msg, ?_⟩
  unfold Accepts missed
  rw [if_neg hap, if_neg hap, acknowledged_writeReply]
  refine imp_congr_right (fun hrun => ?_)
  have hself : Applied x w (applyAt w a x) a := by
    rw [Applied, applyAt_table]
    exact ⟨hrun, rfl⟩
  have hother : ∀ b, b ≠ a → (Applied x w (applyAt w a x) b ↔ InForce x (w.server b).table) :=
    fun b hb => Applied.of_unchanged (applyAt_server_of_ne w hb x)
  constructor
  · intro hall b hb
    obtain ⟨hb, hne⟩ := List.mem_filter.mp hb
    exact (hother b (of_decide_eq_true hne)).mp (hall b hb)
  · intro hforce b hb
    by_cases hne : b = a
    · exact hne ▸ hself
    · exact (hother b hne).mpr (hforce b (List.mem_filter.mpr ⟨hb, decide_eq_true hne⟩))

/-- A write at a secondary that names a secondary as its sender does nothing. -/
lemma tagged_secondary_applied_iff (ha : Follows w p a) (hap : a ≠ p)
    (hx : splitKVStoreCommand command = x.word :: (x.fields ++ extra))
    (ho : classify (splitKVStoreCommand command) = .secondary) (depth : Nat) :
    ∃ w' reply, serveCommand (depth + 1) a msg command w = some (w', reply) ∧
      ((Acknowledged reply → AppliedByAll x p w w') ↔
        (Accepts x p a .secondary msg w → ∀ b ∈ missed x p a .secondary w,
          InForce x (w.server b).table)) := by
  refine ⟨_, _, serveCommand_tagged_secondary ha hx ho depth msg, ?_⟩
  unfold Accepts missed
  rw [if_neg hap, if_neg hap, appliedByAll_settle, appliedByAll_unchanged rfl]

/-- A client at any replica is told the truth about a write exactly when the replicas that
the write misses hold its result already, or the write is refused anyway. -/
theorem acknowledged_write_applied_iff (hw : Leads w p) (ha : a = p ∨ Follows w p a)
    (hc : NoCrlf command) (hx : splitKVStoreCommand command = x.word :: (x.fields ++ extra))
    (depth : Nat) :
    ∃ w' reply, serveCommand (depth + 3) a msg command w = some (w', reply) ∧
      ((Acknowledged reply → AppliedByAll x p w w') ↔
        (Accepts x p a (classify (splitKVStoreCommand command)) msg w →
          ∀ b ∈ missed x p a (classify (splitKVStoreCommand command)) w,
            InForce x (w.server b).table)) := by
  by_cases hap : a = p
  · subst hap
    exact primary_applied_iff hw hc hx _ (depth + 1)
  · have ha := ha.resolve_left hap
    cases ho : classify (splitKVStoreCommand command) with
    | frontend => exact frontend_applied_iff hw ha hap hc hx ho depth
    | primary => exact tagged_primary_applied_iff ha hap hx ho (depth + 2)
    | secondary => exact tagged_secondary_applied_iff ha hap hx ho (depth + 2)

end client

lemma group1_follows (tables : Int → Table) (outcomes : List Outcome) {port : Int}
    (h : port ≠ 2001) :
    Follows (group1 tables outcomes) (group1Address 2001) (group1Address port) where
  isSecondary := decide_eq_false h
  ready := rfl
  primary := rfl

/-- Group 1 when 2002 cannot connect to the primary. -/
def cutOffGroup : World := group1 (fun _ => ∅) [.refused]

theorem acknowledged_write_applied_iff_put : ∃ w' reply,
    serveCommand 3 (group1Address 2002) [] "PUT r,c,v".toList cutOffGroup = some (w', reply) ∧
      ((Acknowledged reply →
          AppliedByAll (.put ['r'] ['c'] ['v']) (group1Address 2001) cutOffGroup w') ↔
        (Accepts (.put ['r'] ['c'] ['v']) (group1Address 2001) (group1Address 2002)
            (classify (splitKVStoreCommand "PUT r,c,v".toList)) [] cutOffGroup →
          ∀ b ∈ missed (.put ['r'] ['c'] ['v']) (group1Address 2001) (group1Address 2002)
            (classify (splitKVStoreCommand "PUT r,c,v".toList)) cutOffGroup,
            InForce (.put ['r'] ['c'] ['v']) (cutOffGroup.server b).table)) :=
  acknowledged_write_applied_iff (group1_leads _ _) (Or.inr (group1_follows _ _ (by decide)))
    (by decide) (by decide : splitKVStoreCommand "PUT r,c,v".toList =
      (Write.put ['r'] ['c'] ['v']).word :: ((Write.put ['r'] ['c'] ['v']).fields ++ [])) 0

/-- The secondary acknowledges a write that reached nobody. -/
theorem acknowledged_put_not_applied : ∃ w' reply,
    serveCommand 3 (group1Address 2002) [] "PUT r,c,v".toList cutOffGroup = some (w', reply) ∧
      Acknowledged reply ∧
      (w'.server (group1Address 2001)).table.get ['r'] ['c'] = none ∧
      ¬AppliedByAll (.put ['r'] ['c'] ['v']) (group1Address 2001) cutOffGroup w' := by
  have hrun : (serveCommand 3 (group1Address 2002) [] "PUT r,c,v".toList cutOffGroup).map
      (fun r => (decide (Acknowledged r.2),
        (r.1.server (group1Address 2001)).table.get ['r'] ['c'])) =
      some (true, none) := by
    decide +kernel
  obtain ⟨⟨w', reply⟩, h, hr⟩ := Option.map_eq_some_iff.mp hrun
  obtain ⟨hack, hget⟩ := Prod.mk.injEq .. ▸ hr
  refine ⟨w', reply, h, of_decide_eq_true hack, hget, ?_⟩
  intro hall
  have hcell := congrFun (hall (group1Address 2001) List.mem_cons_self).2 (['r'], ['c'])
  have hput : cellsOf ((Write.put ['r'] ['c'] ['v']).run
      (cutOffGroup.server (group1Address 2001)).table).1 (['r'], ['c']) = some ['v'] := by
    decide
  have hnone : cellsOf (w'.server (group1Address 2001)).table (['r'], ['c']) = none := hget
  rw [hput, hnone] at hcell
  exact absurd hcell (by decide)

end CloudStorage.Proofs
