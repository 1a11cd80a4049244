import CloudStorage.Proofs.Forwarding

/-!
# What initializing leaves alone

Whatever the files hold, reading them changes the table, the counter of writes and the
flag for reading the log, and nothing else of a server.
-/

namespace CloudStorage.Proofs
open DelimitedText

/-- A server without what reading its files changes. -/
def identity (s : Server) : Server :=
  { settings s with currentlyReadingFromCheckpointFile := false }

lemma identity_of_settings {s t : Server} (h : settings s = settings t) :
    identity s = identity t := by
  unfold identity
  rw [h]

lemma node_of_handleWrite {w : Write} {msg : Str} {n n' : Node}
    (h : (handleWrite w .frontend msg n).node? = some n') :
    identity n'.server = identity n.server := by
  unfold handleWrite at h
  split at h
  · have hn : (applyWrite w n).1 = n' := Option.some.inj h
    rw [← hn]
    exact identity_of_settings (applyWrite_settings w n)
  · split at h
    · exact absurd h (by simp [Handling.node?])
    · exact absurd h (by simp [Handling.node?])

lemma identity_of_finished {n n' : Node} {msg : Str}
    (h : (Handling.finished n msg).node? = some n') : identity n'.server = identity n.server := by
  have hn : n = n' := Option.some.inj h
  rw [hn]

lemma identity_replayLine {n n' : Node} {line : Str} (h : replayLine n line = some n') :
    identity n'.server = identity n.server := by
  unfold replayLine handleCommand at h
  split at h
  · exact absurd h (by simp [Handling.node?])
  · split at h
    · unfold handlePut at h
      split at h
      · exact node_of_handleWrite h
      · exact identity_of_finished h
    · split at h
      · exact identity_of_finished h
      · split at h
        · unfold handleCput at h
          split at h
          · exact node_of_handleWrite h
          · exact identity_of_finished h
        · split at h
          · unfold handleDelete at h
            split at h
            · exact node_of_handleWrite h
            · exact identity_of_finished h
          · split at h
            · split at h
              · exact identity_of_finished h
              · exact absurd h (by simp [Handling.node?])
            · exact identity_of_finished h

lemma identity_foldlM {step : Node → Str → Option Node}
    (hstep : ∀ n line n', step n line = some n' → identity n'.server = identity n.server)
    {lines : List Str} {n n' : Node} (h : lines.foldlM step n = some n') :
    identity n'.server = identity n.server := by
  induction lines generalizing n with
  | nil =>
    have hn : n = n' := Option.some.inj h
    rw [hn]
  | cons line lines ih =>
    rw [List.foldlM_cons] at h
    obtain ⟨m, hm, hrest⟩ := Option.bind_eq_some_iff.mp h
    exact (ih hrest).trans (hstep n line m hm)

lemma identity_checkpointIfFull (path : Str) (result : Nat) (n : Node) :
    identity (checkpointIfFull path result n).server = identity n.server := by
  unfold checkpointIfFull checkpointNode
  split
  · rfl
  · rfl

lemma identity_loadAndReplay {path : Str} {n n' : Node} (h : loadAndReplay path n = some n') :
    identity n'.server = identity n.server := by
  unfold loadAndReplay at h
  obtain ⟨m, hm, hread⟩ := Option.map_eq_some_iff.mp h
  have hline : ∀ n line n', replayLogLine n line = some n' →
      identity n'.server = identity n.server := by
    intro n line n' hr
    have hid := identity_replayLine hr
    exact hid
  have hfold := identity_foldlM hline hm
  rw [← hread]
  exact hfold

/-- A server that initialized is the server it was, with another table. -/
theorem identity_initializeFrom {path : Str} {result : Nat} {n n' : Node}
    (h : initializeFrom path result n = some n') : identity n'.server = identity n.server := by
  unfold initializeFrom at h
  obtain ⟨n₁, hload, h⟩ := Option.bind_eq_some_iff.mp h
  obtain ⟨n₂, hcrash, h⟩ := Option.bind_eq_some_iff.mp h
  have hn : checkpointIfFull path result n₂ = n' := Option.some.inj h
  have hcrashed : identity n₂.server = identity n₁.server := by
    unfold crashRecoveryFunction readDeadServerLog at hcrash
    obtain ⟨m, hm, htrunc⟩ := Option.map_eq_some_iff.mp hcrash
    have hfold := identity_foldlM (fun _ _ _ hr => identity_replayLine hr) hm
    rw [← htrunc]
    exact hfold.trans (identity_checkpointIfFull path result n₁)
  rw [← hn, identity_checkpointIfFull, hcrashed, identity_loadAndReplay hload]

end CloudStorage.Proofs
