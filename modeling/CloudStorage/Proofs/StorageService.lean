import CloudStorage.Proofs.PartialMap
import CloudStorage.Site

/-!
# The storage behind a frontend

A frontend sees one table: a text that is one command is answered as the table has it, and
changes the table as the command says. A primary without secondaries is such a service.
-/

namespace CloudStorage.Proofs
open DelimitedText Registers

/-- The reply to a command that asks for no write. -/
def readReply (parameters : List Str) (t : Table) : Option Str :=
  match parameters with
  | [] => none
  | word :: args =>
    if word = "GET ".toList then some (getReply t args)
    else if word = "LIST ".toList then listReply t args
    else if word = "PUT ".toList then some "-ERR Invalidp PUT parameters\r\n".toList
    else if word = "CPUT ".toList then some "-ERR Invalid CPUT parameters\r\n".toList
    else if word = "DELETE ".toList then some "-ERR Invalid DELETE parameters\r\n".toList
    else some "-ERR Unknown command\r\n".toList

/-- The reply to a parsed command and the table afterwards. -/
def answerTo (parameters : List Str) (t : Table) : Option (Str × Table) :=
  match writeOf parameters with
  | some x => some (writeReply x t, (x.run t).1)
  | none => (readReply parameters t).map (fun reply => (reply, t))

/-- A storage service with one table. A text that is one command has one answer. -/
structure StorageService (σ : Type) where
  answer : (i : Action) → σ → Option (i.Answer × σ)
  valid : σ → Prop
  table : σ → Table
  connect : ∀ u e, valid e →
    ∃ made e', answer (.connect u) e = some (made, e') ∧ valid e' ∧ table e' = table e
  mail : ∀ text e, valid e →
    ∃ e', answer (.mail text) e = some ((), e') ∧ valid e' ∧ table e' = table e
  storage : ∀ u c e, valid e → NoCrlf c →
    match answerTo (splitKVStoreCommand c) (table e) with
    | some (reply, t) => ∃ e', answer (.storage u (c ++ "\r\n".toList)) e = some (reply, e') ∧
        valid e' ∧ table e' = t
    | none => answer (.storage u (c ++ "\r\n".toList)) e = none

/-- The table after a parsed command that is answered. -/
def tableAfter (parameters : List Str) (t : Table) : Table :=
  match writeOf parameters with
  | some x => (x.run t).1
  | none => t

lemma tableAfter_of_answerTo {parameters : List Str} {t s : Table} {reply : Str}
    (h : answerTo parameters t = some (reply, s)) : s = tableAfter parameters t := by
  unfold answerTo at h
  unfold tableAfter
  cases hx : writeOf parameters with
  | some x =>
    rw [hx] at h
    cases h
    rfl
  | none =>
    rw [hx] at h
    obtain ⟨r, -, h⟩ := Option.map_eq_some_iff.mp h
    cases h
    rfl

/-- What holds of all cells of a table, and of the fields of a write, holds afterwards. -/
lemma cells_run {P : Str → Str → Str → Prop} {t : Table} {x : Write}
    (h : ∀ row col v, t.get row col = some v → P row col v)
    (hx : ∀ v, v = [] ∨ v ∈ x.fields → P (opOf x).key.1 (opOf x).key.2 v) :
    ∀ row col v, (x.run t).1.get row col = some v → P row col v := by
  intro row col v hv
  have hcell : cellsOf (x.run t).1 (row, col) = some v := hv
  rw [cellsOf_run, Op.effect] at hcell
  by_cases hkey : (row, col) = (opOf x).key
  · have hrow : (opOf x).key.1 = row := by rw [← hkey]
    have hcol : (opOf x).key.2 = col := by rw [← hkey]
    rw [hrow, hcol] at hx
    rw [← hkey, Function.update_self] at hcell
    rcases Op.eq_of_act hcell with ⟨k, hop⟩ | ⟨k, old, hop⟩ | rfl | hold
    · cases x with
      | put r c value =>
        cases hop
        exact hx _ (Or.inr (by simp [Write.fields]))
      | cput r c cur new => exact absurd hop (by simp [opOf])
      | delete r c => exact absurd hop (by simp [opOf])
    · cases x with
      | put r c value => exact absurd hop (by simp [opOf])
      | cput r c cur new =>
        cases hop
        exact hx _ (Or.inr (by simp [Write.fields]))
      | delete r c => exact absurd hop (by simp [opOf])
    · exact hx [] (Or.inl rfl)
    · exact h row col v hold
  · rw [Function.update_of_ne hkey] at hcell
    exact h row col v hcell

/-- What holds of all cells, and of the fields of each write that a command can be, holds
after the command. -/
lemma cells_answerTo {P : Str → Str → Str → Prop} {command reply : Str} {t t' : Table}
    (h : ∀ row col v, t.get row col = some v → P row col v)
    (hx : ∀ x extra, splitKVStoreCommand command = x.word :: (x.fields ++ extra) →
      ∀ v, v = [] ∨ v ∈ x.fields → P (opOf x).key.1 (opOf x).key.2 v)
    (ha : answerTo (splitKVStoreCommand command) t = some (reply, t')) :
    ∀ row col v, t'.get row col = some v → P row col v := by
  rw [tableAfter_of_answerTo ha, tableAfter]
  cases hw : writeOf (splitKVStoreCommand command) with
  | none => exact h
  | some x =>
    obtain ⟨extra, hsplit⟩ := eq_of_writeOf hw
    exact cells_run h (hx x extra hsplit)

lemma key_mem_fields (x : Write) : (opOf x).key.1 ∈ x.fields ∧ (opOf x).key.2 ∈ x.fields := by
  cases x <;> simp [opOf, Op.key, Write.fields]

namespace StorageService

variable {σ : Type} (S : StorageService σ)

lemma table_of_connect {u : Str} {e e' : σ} {made : Bool} (he : S.valid e)
    (h : S.answer (.connect u) e = some (made, e')) : S.valid e' ∧ S.table e' = S.table e := by
  obtain ⟨_, x, hx, hv, ht⟩ := S.connect u e he
  rw [hx] at h
  cases h
  exact ⟨hv, ht⟩

lemma answers {u c reply : Str} {t : Table} {e : σ} (he : S.valid e) (hc : NoCrlf c)
    (ha : answerTo (splitKVStoreCommand c) (S.table e) = some (reply, t)) :
    ∃ e', S.answer (.storage u (c ++ "\r\n".toList)) e = some (reply, e') ∧ S.valid e' ∧
      S.table e' = t := by
  have hs := S.storage u c e he hc
  rw [ha] at hs
  exact hs

lemma table_of_storage {u c o : Str} {e e' : σ} (he : S.valid e) (hc : NoCrlf c)
    (h : S.answer (.storage u (c ++ "\r\n".toList)) e = some (o, e')) :
    S.valid e' ∧ answerTo (splitKVStoreCommand c) (S.table e) = some (o, S.table e') := by
  cases ha : answerTo (splitKVStoreCommand c) (S.table e) with
  | none =>
    have hs := S.storage u c e he hc
    rw [ha] at hs
    exact absurd (hs.symm.trans h) (by simp)
  | some x =>
    obtain ⟨e₁, he₁, hv, ht⟩ := S.answers he hc ha
    rw [he₁] at h
    cases h
    exact ⟨hv, by rw [ht]⟩

end StorageService

lemma handleCommand_read {parameters : List Str} (hx : writeOf parameters = none)
    (origin : Origin) (msg : Str) (n : Node) :
    handleCommand parameters origin msg n =
      match readReply parameters n.server.table with
      | some reply => .finished n reply
      | none => .undefined := by
  cases parameters with
  | nil => rfl
  | cons word args =>
    by_cases hput : word = "PUT ".toList
    · subst hput
      rcases args with _ | ⟨row, _ | ⟨col, _ | ⟨value, extra⟩⟩⟩
      · rfl
      · rfl
      · rfl
      · exact absurd hx (by simp [writeOf])
    by_cases hget : word = "GET ".toList
    · subst hget
      rfl
    by_cases hcput : word = "CPUT ".toList
    · subst hcput
      rcases args with _ | ⟨row, _ | ⟨col, _ | ⟨cur, _ | ⟨new, extra⟩⟩⟩⟩
      · rfl
      · rfl
      · rfl
      · rfl
      · exact absurd hx (by simp [writeOf])
    by_cases hdelete : word = "DELETE ".toList
    · subst hdelete
      rcases args with _ | ⟨row, _ | ⟨col, extra⟩⟩
      · rfl
      · rfl
      · exact absurd hx (by simp [writeOf])
    simp only [handleCommand, readReply, hput, hget, hcput, hdelete, if_false]
    by_cases hlist : word = "LIST ".toList
    · subst hlist
      cases listReply n.server.table args <;> rfl
    · rw [if_neg hlist, if_neg hlist]

/-! ### A primary on its own -/

/-- A primary none of whose secondaries is live. -/
structure NoLiveSecondary (w : World) (p : Address) : Prop where
  isPrimary : (w.server p).myInfo.isPrimary = true
  ready : (w.server p).currentlyInitializing = false
  dead : ∀ it ∈ (w.server p).serverList, it.isPrimary = false → it.isDead = true

lemma PrimaryAlone.noLiveSecondary {w : World} {p : Address} (hp : PrimaryAlone w p) :
    NoLiveSecondary w p where
  isPrimary := hp.isPrimary
  ready := hp.ready
  dead it hit hno := absurd (hp.alone it hit) (by simp [hno])

lemma NoLiveSecondary.of_sameSettings {w w' : World} {p : Address} (hp : NoLiveSecondary w p)
    (hs : SameSettings w w') : NoLiveSecondary w' p := by
  constructor
  · rw [settings_myInfo (hs p)]
    exact hp.isPrimary
  · rw [settings_initializing (hs p)]
    exact hp.ready
  · rw [settings_serverList (hs p)]
    exact hp.dead

lemma PrimaryAlone.of_sameSettings {w w' : World} {p : Address} (hp : PrimaryAlone w p)
    (hs : SameSettings w w') : PrimaryAlone w' p := by
  constructor
  · rw [settings_myInfo (hs p)]
    exact hp.isPrimary
  · rw [settings_initializing (hs p)]
    exact hp.ready
  · rw [settings_serverList (hs p)]
    exact hp.alone

/-- A primary without live secondaries answers each command from its own table. -/
theorem serveCommand_answerTo {w : World} {p : Address} (hp : NoLiveSecondary w p)
    (depth : Nat) (msg command : Str) :
    match answerTo (splitKVStoreCommand command) (w.server p).table with
    | some (reply, t) => ∃ w', serveCommand (depth + 1) p msg command w = some (w', reply) ∧
        (w'.server p).table = t ∧ SameSettings w w'
    | none => serveCommand (depth + 1) p msg command w = none := by
  unfold serveCommand answerTo
  dsimp only
  generalize splitKVStoreCommand command = parameters
  cases hx : writeOf parameters with
  | some x =>
    have hh : handleCommand parameters (classify parameters) msg (w.node p) =
        handleWrite x (classify parameters) msg (w.node p) := by
      cases parameters with
      | nil => exact absurd hx (by simp [writeOf])
      | cons word args =>
        rcases handleCommand_writeOf word args (classify (word :: args)) msg (w.node p) with
          ⟨y, hy, hh⟩ | ⟨hy, -⟩ | ⟨rfl, -⟩
        · rw [hx] at hy
          cases hy
          exact hh
        · rw [hx] at hy
          exact absurd hy (by simp)
        · rw [writeOf_list] at hx
          exact absurd hx (by simp)
    obtain ⟨d, hd, -⟩ := forwardToAllSecondaryServers_dead
      (readAndWriteFromSocket (serveCommand depth)) (w.server p).replicaGroup x w hp.dead
    rw [hh, handleWrite_at_primary hp.ready hp.isPrimary]
    simp only [hd, Option.map_some, if_true]
    let u : World := { w with disk := d }
    refine ⟨applyAt u p x, ?_, applyAt_table u p x, applyAt_sameSettings u p x⟩
    rw [applyWrite_reply]
    rfl
  | none =>
    rw [handleCommand_read hx]
    dsimp only [World.node]
    cases readReply parameters (w.server p).table with
    | none => rfl
    | some reply =>
      exact ⟨w.settle p (w.node p), rfl, settle_table w p _, settle_sameSettings rfl⟩

/-- So it is a storage service. -/
def aloneService (depth : Nat) (p : Address) : StorageService World where
  answer := answerAt (depth + 1) p
  valid w := PrimaryAlone w p
  table w := (w.server p).table
  connect _ w hw := ⟨true, w, rfl, hw, rfl⟩
  mail _ w hw := ⟨w, rfl, hw, rfl⟩
  storage u c w hw hc := by
    have hserve := serveCommand_answerTo hw.noLiveSecondary depth [] c
    unfold answerAt
    dsimp only
    rw [commandLines_line hc, List.nil_append, serveLines]
    cases ha : answerTo (splitKVStoreCommand c) (w.server p).table with
    | none =>
      rw [ha] at hserve
      rw [hserve]
      rfl
    | some x =>
      rw [ha] at hserve
      obtain ⟨w', hs, ht, hsame⟩ := hserve
      rw [hs]
      exact ⟨w', rfl, hw.of_sameSettings hsame, ht⟩

/-! ### Texts of several commands -/

/-- The replies to commands that arrive in one text, and the table after the last of them. -/
def answersTo : List Str → Table → Option (Str × Table)
  | [], t => some ([], t)
  | command :: commands, t =>
    (answerTo (splitKVStoreCommand command) t).bind (fun (reply, t) =>
      (answersTo commands t).map (fun (replies, t) => (reply ++ replies, t)))

/-- A storage service that takes any text apart. -/
structure TextService (σ : Type) extends StorageService σ where
  text : ∀ u s e, valid e →
    match answersTo (commandLines [] s) (table e) with
    | some (reply, t) => ∃ e', answer (.storage u s) e = some (reply, e') ∧ valid e' ∧
        table e' = t
    | none => answer (.storage u s) e = none

lemma serveLines_answersTo {w : World} {p : Address} (hp : PrimaryAlone w p) (depth : Nat)
    (commands : List Str) (msg replies : Str) :
    match answersTo commands (w.server p).table with
    | some (reply, t) => ∃ w', serveLines (serveCommand (depth + 1) p) commands msg replies w =
        some (replies ++ reply, w') ∧ PrimaryAlone w' p ∧ (w'.server p).table = t
    | none => serveLines (serveCommand (depth + 1) p) commands msg replies w = none := by
  induction commands generalizing w msg replies with
  | nil => exact ⟨w, by rw [serveLines, List.append_nil], hp, rfl⟩
  | cons command commands ih =>
    have hserve := serveCommand_answerTo hp.noLiveSecondary depth msg command
    rw [answersTo, serveLines]
    cases ha : answerTo (splitKVStoreCommand command) (w.server p).table with
    | none =>
      rw [ha] at hserve
      rw [hserve]
      rfl
    | some x =>
      rw [ha] at hserve
      obtain ⟨w', hs, ht, hsame⟩ := hserve
      rw [hs, Option.bind_some, Option.bind_some]
      dsimp only
      have hrest := ih (hp.of_sameSettings hsame) x.1 (replies ++ x.1)
      rw [ht] at hrest
      cases hr : answersTo commands x.2 with
      | none =>
        rw [hr] at hrest
        rw [Option.map_none]
        exact hrest
      | some y =>
        rw [hr] at hrest
        rw [Option.map_some]
        simp only [List.append_assoc] at hrest
        exact hrest

/-- The primary without secondaries takes any text apart. -/
def aloneTextService (depth : Nat) (p : Address) : TextService World where
  toStorageService := aloneService depth p
  text u s w hw := by
    have hlines := serveLines_answersTo hw depth (commandLines [] s) [] []
    simp only [aloneService, answerAt]
    exact hlines

end CloudStorage.Proofs
