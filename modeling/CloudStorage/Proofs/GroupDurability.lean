import CloudStorage.Proofs.DeadLog
import CloudStorage.Proofs.OneCopy

/-!
# A group that loses its power

The replicas of a group write to files of their own. After any run of requests the files of
each replica hold the table that one server would have, so that all of them can crash at once.
-/

namespace CloudStorage.Proofs
open DelimitedText Registers

/-! ### Files of different servers -/

/-- Servers with different data files have no file in common. -/
theorem files_apart {g p g' p' : Int} {s s' : Str} (hs : s ∈ fileSuffixes)
    (hs' : s' ∈ fileSuffixes) (h : storagePath g p ≠ storagePath g' p') :
    storagePath g p ++ s ≠ storagePath g' p' ++ s' := by
  intro heq
  have hletters : ∀ ch ∈ ['m', 'k', 'L'], (ch ∈ s ↔ ch ∈ s') := by
    intro ch hch
    have hmem : ch ∈ storagePath g p ++ s ↔ ch ∈ storagePath g' p' ++ s' := by
      rw [heq]
    simpa [letter_not_mem_storagePath hch] using hmem
  have hsame : ∀ x ∈ fileSuffixes, ∀ y ∈ fileSuffixes, ('m' ∈ x ↔ 'm' ∈ y) →
      ('k' ∈ x ↔ 'k' ∈ y) → ('L' ∈ x ↔ 'L' ∈ y) → x = y := by
    decide
  obtain rfl := hsame s hs s' hs' (hletters 'm' (by simp)) (hletters 'k' (by simp))
    (hletters 'L' (by simp))
  exact h (List.append_cancel_right heq)

/-! ### Writes in the group -/

/-- Each member is durable, in files of its own. -/
structure DurableGroup (members : List Address) (w : World) : Prop where
  durable : ∀ a ∈ members, DurableAt a w
  apart : ∀ a ∈ members, ∀ b ∈ members, a ≠ b →
    (w.server a).diskFilePath ≠ (w.server b).diskFilePath

section

variable {members : List Address} {w w' : World} {a b p : Address} {x : Write}

/-- What one server writes is in none of the files of another. -/
lemma readFile_applyAt (ha : DurableAt a w) (hb : DurableAt b w)
    (hpath : (w.server a).diskFilePath ≠ (w.server b).diskFilePath) {s : Str}
    (hs : s ∈ fileSuffixes) (x : Write) :
    readFile ((w.server a).diskFilePath ++ s) (applyAt w b x).disk =
      readFile ((w.server a).diskFilePath ++ s) w.disk := by
  have hfile : ∀ s' ∈ fileSuffixes, (w.server a).diskFilePath ++ s ≠
      (applyWrite x (w.node b)).1.server.diskFilePath ++ s' := by
    intro s' hs'
    have hsame : (applyWrite x (w.node b)).1.server.diskFilePath = (w.server b).diskFilePath :=
      settings_diskFilePath (applyWrite_settings x (w.node b))
    rw [hsame, ha.2, hb.2]
    rw [ha.2, hb.2] at hpath
    exact files_apart hs hs' hpath
  have hdata := hfile [] (by decide)
  rw [List.append_nil] at hdata
  have hcheckpoint := checkpointAfter_disk w.time (applyWrite x (w.node b)).1 hdata
    (hfile ".tmp".toList (by decide)) (hfile "-checkpoint".toList (by decide))
  have hsame : (applyWrite x (w.node b)).1.server.diskFilePath = (w.server b).diskFilePath :=
    settings_diskFilePath (applyWrite_settings x (w.node b))
  refine hcheckpoint.trans (applyWrite_disk x (w.node b) ?_)
  have hlog := hfile "-checkpoint".toList (by decide)
  rw [hsame] at hlog
  exact hlog

/-- A write that a member carries out leaves the group durable. -/
theorem DurableGroup.applyAt (h : DurableGroup members w) (hb : b ∈ members) (hx : Plain x) :
    DurableGroup members (Proofs.applyAt w b x) := by
  have hsettings := applyAt_sameSettings w b x
  constructor
  · intro a ha
    have hpaths : ((Proofs.applyAt w b x).server a).diskFilePath =
        storagePath ((Proofs.applyAt w b x).server a).replicaGroup
          ((Proofs.applyAt w b x).server a).myInfo.tcpPort := by
      rw [settings_diskFilePath (hsettings a), settings_replicaGroup (hsettings a),
        settings_myInfo (hsettings a)]
      exact (h.durable a ha).2
    obtain ⟨ws, hdur⟩ := (h.durable a ha).1
    refine ⟨?_, hpaths⟩
    by_cases hab : a = b
    · subst hab
      obtain ⟨ws', hdur'⟩ := hdur.applyWrite hx w.time
      refine ⟨ws', ?_⟩
      rw [Proofs.applyAt, World.settle, node_setNode]
      exact hdur'
    · have hread {s : Str} (hs : s ∈ fileSuffixes) :=
        readFile_applyAt (h.durable a ha) (h.durable b hb) (h.apart a ha b hb hab) hs x
      have hdata := hread (s := []) (by decide)
      rw [List.append_nil] at hdata
      have hkept := hdur.of_disk (d := (Proofs.applyAt w b x).disk) hdata
        (hread (s := "-checkpoint".toList) (by decide))
        (hread (s := "-deadServerLog".toList) (by decide))
      refine ⟨ws, ?_⟩
      have hnode : (Proofs.applyAt w b x).node a =
          { w.node a with disk := (Proofs.applyAt w b x).disk } := by
        unfold World.node
        rw [applyAt_server_of_ne w hab x]
      rw [hnode]
      exact hkept
  · intro a ha c hc hac
    rw [settings_diskFilePath (hsettings a), settings_diskFilePath (hsettings c)]
    exact h.apart a ha c hc hac

/-- No checkpoint is due at a member that carried nothing out. -/
lemma DurableGroup.settle_eq (h : DurableGroup members w) (hb : b ∈ members) :
    w.settle b (w.node b) = w := by
  obtain ⟨⟨ws, hdur⟩, -⟩ := h.durable b hb
  have hfew : (w.node b).writes ≠ CHECKPOINTING_THRESHOLD := by
    rw [hdur.writes]
    exact Nat.ne_of_lt hdur.few
  have hafter : checkpointAfter w.time (w.node b) = w.node b := if_neg hfew
  unfold World.settle World.setNode
  rw [hafter]
  unfold World.node
  rw [Function.update_eq_self]

/-- The loop over the secondaries leaves the group durable. -/
theorem Forwards.durable {g : Int} {list : List ServerInfo} {ok : Bool}
    (h : Forwards g x list w ok w') (hx : Plain x) (ho : w.outcomes = [])
    (hlive : ∀ it ∈ list, it.isPrimary = false → it.isDead = false)
    (hmem : ∀ it ∈ list, it.isPrimary = false → it.address ∈ members)
    (hd : DurableGroup members w) : DurableGroup members w' := by
  induction h with
  | done => exact hd
  | primary hp hf ih =>
    exact ih ho (fun y hy => hlive y (List.mem_cons_of_mem _ hy))
      (fun y hy => hmem y (List.mem_cons_of_mem _ hy)) hd
  | dead hp hdead _ _ => exact absurd (hlive _ List.mem_cons_self hp) (by simp [hdead])
  | noSocket hp _ hc => exact absurd (connect_of_nil ho ▸ hc) (by simp)
  | refused hp _ hc => exact absurd (connect_of_nil ho ▸ hc) (by simp)
  | disabled hp _ hc _ =>
    rw [connect_of_nil ho] at hc
    cases hc
    exact hd
  | rejected hp _ hc _ _ =>
    rw [connect_of_nil ho] at hc
    cases hc
    exact hd.applyAt (hmem _ List.mem_cons_self hp) hx
  | taken hp _ hc _ _ hf ih =>
    rw [connect_of_nil ho] at hc
    cases hc
    exact ih ho (fun y hy => hlive y (List.mem_cons_of_mem _ hy))
      (fun y hy => hmem y (List.mem_cons_of_mem _ hy))
      (hd.applyAt (hmem _ List.mem_cons_self hp) hx)

lemma DurableGroup.afterForward (h : DurableGroup members w) (hp : p ∈ members) (hx : Plain x)
    (ok : Bool) : DurableGroup members (Proofs.afterForward p x ok w).1 := by
  unfold Proofs.afterForward
  cases ok with
  | true => exact h.applyAt hp hx
  | false =>
    rw [if_neg (by decide)]
    dsimp only
    rw [h.settle_eq hp]
    exact h

/-! ### Requests -/

/-- The fields of a write are there, without line ends. -/
def PlainRequest (r : ClientRequest) : Prop :=
  ∀ x, writeOf (splitKVStoreCommand r.command) = some x → Plain x

/-- A request to the group leaves it durable. -/
theorem DurableGroup.request {depth : Nat} {t : Table} {r : ClientRequest} {reply : Str}
    (h : HoldsTable p members w t) (hd : DurableGroup members w) (hr : Admitted p members r t)
    (hplain : PlainRequest r) (hrun : replicaGroup depth r w = some (reply, w')) :
    DurableGroup members w' := by
  obtain ⟨a, msg, command⟩ := r
  unfold replicaGroup at hrun
  dsimp only at hrun
  cases hw : writeOf (splitKVStoreCommand command) with
  | none =>
    rw [serveCommand_read hw, hd.settle_eq hr.member] at hrun
    cases hread : readReply (splitKVStoreCommand command) (w.server a).table with
    | none =>
      rw [hread] at hrun
      exact absurd hrun (by simp)
    | some text =>
      rw [hread] at hrun
      cases hrun
      exact hd
  | some x =>
    obtain ⟨extra, hx⟩ := eq_of_writeOf hw
    have hmem : ∀ it ∈ (w.server p).serverList, it.isPrimary = false → it.address ∈ members :=
      fun it hit hit' => h.mem_iff.mpr (Or.inr ⟨it, hit, hit', rfl⟩)
    by_cases hap : a = p
    · subst hap
      obtain ⟨ok, u, hf, hs⟩ := serveCommand_primary h.leads hr.line hx (depth + 1) msg
      rw [hs] at hrun
      cases hrun
      exact (hf.durable (hplain x hw) h.connections h.live hmem hd).afterForward h.primary_mem
        (hplain x hw) ok
    · have hfrontend := (hr.origin x hw).resolve_left hap
      obtain ⟨it, hit, hit', rfl⟩ := (h.mem_iff.mp hr.member).resolve_left hap
      obtain ⟨ok, u, hf, hcall⟩ := call_primary h.leads (commaFree_of_split hx)
        (noCrlf_line hr.line hx) h.enabled depth
      have hafter := (hf.durable (hplain x hw) h.connections h.live hmem hd).afterForward
        h.primary_mem (hplain x hw) ok
      rw [serveCommand_frontend (h.follows it hit hit') hx hfrontend, forwardToPrimary,
        connect_of_nil h.connections] at hrun
      simp only [hcall, Option.map_some] at hrun
      rw [hafter.settle_eq hr.member] at hrun
      cases hrun
      exact hafter

/-! ### Runs -/

/-- The next start of a durable server restores the cells with a value. -/
lemma DurableAt.restart (h : DurableAt a w) (result : Nat) :
    ∃ n, restarted a result w = some n ∧ ∀ row col v, v ≠ [] →
      (n.server.table.get row col = some v ↔ (w.server a).table.get row col = some v) := by
  obtain ⟨⟨ws, hdur⟩, hpath⟩ := h
  obtain ⟨n, hn, hvalues⟩ := hdur.restored result (w.server a).replicaGroup (w.server a).myInfo
  have hfiles : (w.node a).server.diskFilePath =
      storagePath (w.server a).replicaGroup (w.server a).myInfo.tcpPort := hpath
  rw [hfiles] at hn
  refine ⟨_, Option.bind_eq_some_iff.mpr ⟨n, hn, rfl⟩, fun row col v hv => ?_⟩
  exact get_eq_some_iff_of_values hvalues row col v hv

theorem replicaGroup_simulates_durably (depth : Nat) (p : Address) (members : List Address) :
    (replicaGroup depth).Simulates oneServer SameReply
      (fun w t => HoldsTable p members w t ∧ DurableGroup members w)
      (fun r t => Admitted p members r t ∧ PlainRequest r) := by
  rintro r w t ⟨h, hd⟩ ⟨hr, hplain⟩
  have hagree := replicaGroup_simulates depth p members r w t h hr
  have hkeeps {reply : Str} {w' : World} (hrun : replicaGroup depth r w = some (reply, w')) :=
    hd.request h hr hplain hrun
  generalize replicaGroup depth r w = x at hagree hkeeps
  generalize oneServer r t = y at hagree
  cases hagree with
  | none => exact .none
  | some hq => exact .some ⟨hq.1, hq.2, hkeeps rfl⟩

/-- After every run of requests the whole group can crash: each reply is the one that a
single server gives, and each replica starts again with the values of that server's table. -/
theorem group_restarts_as_oneServer (depth : Nat) {t : Table} (h : HoldsTable p members w t)
    (hd : DurableGroup members w) {requests : List ClientRequest}
    (hr : oneServer.Along (Admitted p members) requests t)
    (hplain : ∀ r ∈ requests, PlainRequest r) {replies : List Str}
    (hrun : (replicaGroup depth).answers requests w = some (replies, w')) :
    ∃ replies' t', oneServer.answers requests t = some (replies', t') ∧
      List.Forall₂ SameReply replies replies' ∧
      ∀ a ∈ members, ∀ result, ∃ n, restarted a result w' = some n ∧ ∀ row col v, v ≠ [] →
        (n.server.table.get row col = some v ↔ t'.get row col = some v) := by
  have hagree := (replicaGroup_simulates_durably depth p members).answers ⟨h, hd⟩
    (hr.and hplain)
  rw [hrun] at hagree
  generalize hone : oneServer.answers requests t = y at hagree
  cases hagree with
  | @some _ q hq =>
    obtain ⟨hreplies, hholds, hdurable⟩ := hq
    refine ⟨q.1, q.2, rfl, hreplies, fun a ha result => ?_⟩
    obtain ⟨n, hn, hcells⟩ := (hdurable.durable a ha).restart result
    rw [hholds.table a ha] at hcells
    exact ⟨n, hn, hcells⟩

end

lemma group1_durable :
    DurableGroup (replicas (group1 (fun _ => ∅) []) (group1Address 2001))
      (group1 (fun _ => ∅) []) := by
  constructor
  · intro a _
    have hlog : LogHolds (storagePath 1 a.2) (fun _ => none) [] := ⟨rfl, by simp, rfl⟩
    have hclean : CleanTable (∅ : Table) := by
      intro r c v hv
      exact absurd hv (by simp [NestedMap.get_empty])
    exact ⟨⟨[], ⟨rfl, rfl, hlog, rfl, hclean, rfl⟩, by decide⟩, rfl⟩
  · decide

lemma putCputGet_plain : ∀ r ∈ putCputGet, PlainRequest r := by
  intro r hr x hx
  rcases List.mem_cons.mp hr with rfl | hr
  · cases hx
    decide
  rcases List.mem_pair.mp hr with rfl | rfl
  · cases hx
    decide
  · have hread : writeOf (splitKVStoreCommand "GET r,c".toList) = none := by decide
    exact absurd (hread.symm.trans hx) (by simp)

theorem group_restarts_putCputGet : ∃ replies w',
    (replicaGroup 0).answers putCputGet (group1 (fun _ => ∅) []) = some (replies, w') ∧
    ∃ replies' t', oneServer.answers putCputGet ∅ = some (replies', t') ∧
      List.Forall₂ SameReply replies replies' ∧
      ∀ a ∈ replicas (group1 (fun _ => ∅) []) (group1Address 2001), ∀ result,
        ∃ n, restarted a result w' = some n ∧ ∀ row col v, v ≠ [] →
          (n.server.table.get row col = some v ↔ t'.get row col = some v) := by
  have hruns : ((replicaGroup 0).answers putCputGet (group1 (fun _ => ∅) [])).isSome := by
    decide +kernel
  obtain ⟨⟨replies, w'⟩, hrun⟩ := Option.isSome_iff_exists.mp hruns
  exact ⟨replies, w', hrun, group_restarts_as_oneServer 0 (group1_holdsTable ∅) group1_durable
    putCputGet_admitted putCputGet_plain hrun⟩

end CloudStorage.Proofs
