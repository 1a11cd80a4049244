import CloudStorage.Connection
import CloudStorage.Proofs.Wire

/-!
# Framing of commands

The commands a connection hands to `handleCommand` are its stream split at each CR LF,
unless some read ended between a CR and its LF: such a pair ends no command.
-/

namespace CloudStorage.Proofs

/-- A stream cut at each CR LF: the commands, and the text after the last pair. -/
structure SplitAtCrlf (s : Str) (commands : List Str) (rest : Str) : Prop where
  stream : s = commands.flatMap (· ++ "\r\n".toList) ++ rest
  commands : ∀ command ∈ commands, NoCrlf command
  rest : NoCrlf rest

/-- The two bytes of a CR LF come from different texts. -/
def Meet (s t : Str) : Prop := s.getLast? = some '\r' ∧ t.head? = some '\n'

instance (s t : Str) : Decidable (Meet s t) :=
  inferInstanceAs (Decidable (s.getLast? = some '\r' ∧ t.head? = some '\n'))

/-- The number of CR LF pairs. -/
def crlfs : Str → Nat
  | [] => 0
  | '\r' :: '\n' :: s => crlfs s + 1
  | _ :: s => crlfs s

lemma crlfs_cons {ch : Char} {s : Str} (h : ¬Meet [ch] s) : crlfs (ch :: s) = crlfs s := by
  rw [crlfs]
  intro t hch ht
  apply h
  simp [Meet, hch, ht]

lemma meet_cons {ch : Char} {s : Str} (hs : s ≠ []) (t : Str) :
    Meet (ch :: s) t ↔ Meet s t := by
  cases s with
  | nil => exact absurd rfl hs
  | cons b s => simp [Meet]

/-- Putting two texts together adds one pair exactly where they meet in one. -/
lemma crlfs_append (s t : Str) :
    crlfs (s ++ t) = crlfs s + crlfs t + if Meet s t then 1 else 0 := by
  fun_induction crlfs s with
  | case1 => simp [Meet]
  | case2 s ih =>
    have hm : Meet ('\r' :: '\n' :: s) t ↔ Meet s t := by
      cases s with
      | nil => simp [Meet]
      | cons b s => simp [Meet]
    simp only [List.cons_append, crlfs, ih, hm]
    omega
  | case3 ch s h ih =>
    by_cases hs : s = []
    · subst hs
      by_cases hm : Meet [ch] t
      · obtain ⟨hch, ht⟩ := hm
        obtain ⟨u, rfl⟩ : ∃ u, t = '\n' :: u := by
          cases t with
          | nil => simp at ht
          | cons b u => exact ⟨u, by simpa using ht⟩
        obtain rfl : ch = '\r' := by simpa using hch
        have hu : crlfs ('\n' :: u) = crlfs u := crlfs_cons (by simp [Meet])
        have hpair : crlfs ('\r' :: '\n' :: u) = crlfs u + 1 := by rw [crlfs]
        simp [Meet, hu, hpair, crlfs]
      · simp [hm, crlfs_cons hm, crlfs]
    · have hno : ¬Meet [ch] (s ++ t) := by
        intro hm
        obtain ⟨b, u, rfl⟩ := List.exists_cons_of_ne_nil hs
        have hch : ch = '\r' := by simpa using hm.1
        have hb : b = '\n' := by simpa using hm.2
        exact h u hch (by rw [hb])
      rw [List.cons_append, crlfs_cons hno, ih]
      simp only [meet_cons hs]

/-! ### One read -/

lemma scanBuffer_commands (command s : Str) :
    (scanBuffer command s).1 = commandLines command s := by
  fun_induction commandLines command s with
  | case1 command => rfl
  | case2 command s ih => rw [scanBuffer, ← ih]
  | case3 command ch s h ih => rw [scanBuffer, ih]; exact h

lemma length_commandLines (command s : Str) : (commandLines command s).length = crlfs s := by
  fun_induction commandLines command s with
  | case1 command => rfl
  | case2 command s ih => rw [crlfs, List.length_cons, ih]
  | case3 command ch s h ih => rw [crlfs, ih]; exact h

/-- Where two texts do not meet in a pair, the second one is scanned with what the first
one left. -/
lemma commandLines_append (command s : Str) {t : Str} (h : ¬Meet s t) :
    commandLines command (s ++ t) =
      commandLines command s ++ commandLines (scanBuffer command s).2 t := by
  fun_induction commandLines command s with
  | case1 command => rfl
  | case2 command s ih =>
    have hm : ¬Meet s t := by
      cases s with
      | nil => simp [Meet]
      | cons b s => simpa [Meet] using h
    simp [commandLines, scanBuffer, ih hm]
  | case3 command ch s hne ih =>
    have hm : ¬Meet s t := by
      cases s with
      | nil => simp [Meet]
      | cons b s => simpa [Meet] using h
    have hne' : ∀ u, ch = '\r' → s ++ t ≠ '\n' :: u := by
      intro u hch hu
      cases s with
      | nil => exact h (by simp_all [Meet])
      | cons b s =>
        have hb : b = '\n' := (List.cons.inj hu).1
        exact hne s hch (by rw [hb])
    rw [List.cons_append, commandLines, ih hm, scanBuffer]
    · exact hne
    · exact hne'

/-! ### The stream and its split -/

lemma noCrlf_scanBuffer {command s : Str} (hc : NoCrlf command)
    (hlast : command.getLast? = some '\r' → s.head? ≠ some '\n') :
    NoCrlf (scanBuffer command s).2 := by
  fun_induction scanBuffer command s with
  | case1 command => exact hc
  | case2 command s commands rest hs ih =>
    rw [hs] at ih
    exact ih List.isChain_nil (by simp)
  | case3 command ch s h ih =>
    apply ih
    · apply List.IsChain.append hc (List.isChain_singleton ch)
      intro x hx y hy hxy
      have hch : ch = y := by simpa using hy
      exact hlast (hxy.1 ▸ hx) (by simp [hch, hxy.2])
    · intro hl hh
      have hch : ch = '\r' := by simpa using hl
      cases s with
      | nil => simp at hh
      | cons b s => exact h s hch (by rw [show b = '\n' by simpa using hh])

lemma scanBuffer_stream (command s : Str) :
    command ++ s = (scanBuffer command s).1.flatMap (· ++ "\r\n".toList) ++
      (scanBuffer command s).2 := by
  fun_induction scanBuffer command s with
  | case1 command => simp
  | case2 command s commands rest hs ih =>
    rw [List.nil_append, hs] at ih
    simp [ih]
  | case3 command ch s h ih => simpa using ih

/-- A text that arrives in one piece is split at each CR LF. -/
theorem splitAtCrlf_commandLines (s : Str) :
    SplitAtCrlf s (commandLines [] s) (scanBuffer [] s).2 where
  stream := by simpa [scanBuffer_commands] using scanBuffer_stream [] s
  commands := fun _ h => noCrlf_of_mem_commandLines List.isChain_nil (by simp) h
  rest := noCrlf_scanBuffer List.isChain_nil (by simp)

lemma commandLines_of_noCrlf {s : Str} (h : NoCrlf s) : commandLines [] s = [] := by
  have hsplit := commandLines_line h []
  have hlen := congrArg List.length hsplit
  rw [length_commandLines, crlfs_append] at hlen
  have hpair : crlfs "\r\n".toList = 1 := rfl
  have hs : crlfs s = 0 := by
    simp only [hpair, List.length_singleton] at hlen
    omega
  rw [← List.length_eq_zero_iff, length_commandLines, hs]

/-- There is one way to split a stream. -/
theorem SplitAtCrlf.eq_commandLines {s : Str} {commands : List Str} {rest : Str}
    (h : SplitAtCrlf s commands rest) : commands = commandLines [] s := by
  obtain ⟨rfl, hc, hr⟩ := h
  induction commands with
  | nil => exact (commandLines_of_noCrlf hr).symm
  | cons c cs ih =>
    have hline := commandLines_line (hc c List.mem_cons_self) []
    have hkept : (scanBuffer [] (c ++ "\r\n".toList)).2 = [] := by
      have hs := scanBuffer_stream [] (c ++ "\r\n".toList)
      rw [scanBuffer_commands, hline] at hs
      simpa using hs
    have hmeet : ¬Meet (c ++ "\r\n".toList) (cs.flatMap (· ++ "\r\n".toList) ++ rest) := by
      simp [Meet]
    rw [List.flatMap_cons, List.append_assoc, commandLines_append [] _ hmeet, hline, hkept,
      ← ih (fun d hd => hc d (List.mem_cons_of_mem c hd))]
    simp

/-! ### All reads -/

/-- No read ends between a CR and its LF. -/
def NoSplitPair (pieces : List Piece) : Prop :=
  pieces.IsChain (fun p q => ¬Meet p.bytes q.bytes)

lemma meet_stream (s : Str) (pieces : List Piece) :
    Meet s (stream pieces) ↔ ∃ p ∈ pieces.head?, Meet s p.bytes := by
  cases pieces with
  | nil => simp [Meet, stream]
  | cons p ps =>
    have hhead : (stream (p :: ps)).head? = p.bytes.head? := by
      obtain ⟨b, u, hb⟩ := List.exists_cons_of_ne_nil p.nonempty
      simp [stream, hb]
    simp [Meet, hhead]

lemma stream_cons (p : Piece) (ps : List Piece) : stream (p :: ps) = p.bytes ++ stream ps := rfl

lemma threadFunc_cons (command : Str) (p : Piece) (ps : List Piece) :
    threadFunc command (p :: ps) =
      commandLines command p.bytes ++ threadFunc (scanBuffer command p.bytes).2 ps := by
  rw [← scanBuffer_commands]
  rfl

lemma noSplitPair_cons (p : Piece) (ps : List Piece) :
    NoSplitPair (p :: ps) ↔ ¬Meet p.bytes (stream ps) ∧ NoSplitPair ps := by
  rw [NoSplitPair, List.isChain_cons, meet_stream]
  simp [NoSplitPair]

theorem threadFunc_of_noSplitPair {pieces : List Piece} (h : NoSplitPair pieces)
    (command : Str) : threadFunc command pieces = commandLines command (stream pieces) := by
  induction pieces generalizing command with
  | nil => rfl
  | cons p ps ih =>
    obtain ⟨hm, hps⟩ := (noSplitPair_cons p ps).mp h
    rw [threadFunc_cons, ih hps, stream_cons, commandLines_append command p.bytes hm]

/-- Every pair inside a read ends a command, so the reads miss as many commands as they
separate pairs. -/
lemma length_threadFunc_le (command : Str) (pieces : List Piece) :
    (threadFunc command pieces).length ≤ crlfs (stream pieces) := by
  induction pieces generalizing command with
  | nil => exact Nat.zero_le _
  | cons p ps ih =>
    have hps := ih (scanBuffer command p.bytes).2
    rw [threadFunc_cons, List.length_append, length_commandLines, stream_cons, crlfs_append]
    omega

lemma noSplitPair_of_length {command : Str} {pieces : List Piece}
    (h : (threadFunc command pieces).length = crlfs (stream pieces)) : NoSplitPair pieces := by
  induction pieces generalizing command with
  | nil => exact List.isChain_nil
  | cons p ps ih =>
    have hle := length_threadFunc_le (scanBuffer command p.bytes).2 ps
    rw [threadFunc_cons, List.length_append, length_commandLines, stream_cons,
      crlfs_append] at h
    rw [noSplitPair_cons]
    by_cases hm : Meet p.bytes (stream ps)
    · rw [if_pos hm] at h
      omega
    · rw [if_neg hm] at h
      have hrest : (threadFunc (scanBuffer command p.bytes).2 ps).length = crlfs (stream ps) := by
        omega
      exact ⟨hm, ih hrest⟩

/-- The commands of a connection are its stream split at each CR LF exactly when no read
ends inside a pair. -/
theorem commands_framed_iff (pieces : List Piece) :
    (∃ rest, SplitAtCrlf (stream pieces) (threadFunc [] pieces) rest) ↔ NoSplitPair pieces := by
  constructor
  · intro ⟨rest, h⟩
    apply noSplitPair_of_length
    rw [h.eq_commandLines, length_commandLines]
  · intro h
    rw [threadFunc_of_noSplitPair h]
    exact ⟨_, splitAtCrlf_commandLines (stream pieces)⟩

/-- A LIST command whose CR and LF come in two reads is never handled. -/
def listInTwoReads : List Piece :=
  [⟨"LIST anna,/content\r".toList, by decide, by decide⟩, ⟨"\n".toList, by decide, by decide⟩]

theorem command_lost_between_reads :
    threadFunc [] listInTwoReads = [] ∧
    SplitAtCrlf (stream listInTwoReads) ["LIST anna,/content".toList] [] ∧
    ¬∃ rest, SplitAtCrlf (stream listInTwoReads) (threadFunc [] listInTwoReads) rest := by
  have hlost : threadFunc [] listInTwoReads = [] := by decide
  have hline : commandLines [] (stream listInTwoReads) = ["LIST anna,/content".toList] := by decide
  have hrest : (scanBuffer [] (stream listInTwoReads)).2 = [] := by decide
  have hsplit := splitAtCrlf_commandLines (stream listInTwoReads)
  rw [hline, hrest] at hsplit
  refine ⟨hlost, hsplit, fun ⟨rest, h⟩ => ?_⟩
  have hnone := h.eq_commandLines
  rw [hlost, hline] at hnone
  exact absurd hnone (by decide)

end CloudStorage.Proofs
