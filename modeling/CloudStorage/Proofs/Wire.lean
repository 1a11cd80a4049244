import CloudStorage.Group
import CloudStorage.Proofs.CommandText
import Mathlib.Data.List.Chain

/-!
# Commands on the wire

A command that a server took from a connection holds no CR LF, so the line it forwards is
one command at the other end, and cutting it before its last `,PRIMARY` gives the logged
line.
-/

namespace CloudStorage.Proofs
open DelimitedText

/-- No CR LF inside, as in every command taken from a connection. -/
def NoCrlf (s : Str) : Prop := s.IsChain (fun a b => ¬(a = '\r' ∧ b = '\n'))

instance : DecidablePred NoCrlf := fun s =>
  inferInstanceAs (Decidable (s.IsChain (fun a b => ¬(a = '\r' ∧ b = '\n'))))

lemma NoCrlf.append {s t : Str} (hs : NoCrlf s) (ht : NoCrlf t)
    (h : s.getLast? = some '\r' → t.head? ≠ some '\n') : NoCrlf (s ++ t) := by
  refine List.IsChain.append hs ht ?_
  rintro x hx y hy ⟨rfl, rfl⟩
  exact h hx hy

lemma NoCrlf.sep {s t : Str} {ch : Char} (hr : ch ≠ '\r') (hn : ch ≠ '\n') (hs : NoCrlf s)
    (ht : NoCrlf t) : NoCrlf (s ++ ch :: t) := by
  refine hs.append (List.IsChain.cons ht ?_) (fun _ h => hn (by simpa using h))
  intro y _ hy
  exact hr hy.1

lemma NoCrlf.comma {s t : Str} (hs : NoCrlf s) (ht : NoCrlf t) : NoCrlf (s ++ ',' :: t) :=
  hs.sep (by decide) (by decide) ht

lemma noCrlf_of_not_mem {s : Str} (h : '\r' ∉ s) : NoCrlf s := by
  induction s with
  | nil => exact List.isChain_nil
  | cons c s ih =>
    simp only [List.mem_cons, not_or] at h
    exact List.IsChain.cons (ih h.2) (fun y _ hy => h.1 hy.1.symm)

lemma noCrlf_of_no_newline {s : Str} (h : '\n' ∉ s) : NoCrlf s := by
  induction s with
  | nil => exact List.isChain_nil
  | cons c s ih =>
    simp only [List.mem_cons, not_or] at h
    refine List.IsChain.cons (ih h.2) (fun y hy hcy => h.2 ?_)
    exact hcy.2 ▸ List.mem_of_mem_head? hy

lemma noCrlf_of_contains {s : Str} (h : contains "\r\n".toList s = false) : NoCrlf s := by
  induction s with
  | nil => exact List.isChain_nil
  | cons ch s ih =>
    rw [contains, Bool.or_eq_false_iff] at h
    refine List.IsChain.cons (ih h.2) (fun y hy hcrlf => ?_)
    cases s with
    | nil => exact absurd hy (by simp)
    | cons d s =>
      cases hy
      obtain ⟨rfl, rfl⟩ := hcrlf
      have hp : "\r\n".toList.isPrefixOf ('\r' :: '\n' :: s) = true := rfl
      exact absurd (hp.symm.trans h.1) (by decide)

lemma NoCrlf.joined {xs : List Str} (h : ∀ x ∈ xs, NoCrlf x) :
    NoCrlf (DelimitedText.joined ',' xs) := by
  induction xs with
  | nil => exact List.isChain_nil
  | cons x xs ih =>
    have hx := h x List.mem_cons_self
    cases xs with
    | nil => exact hx
    | cons y ys =>
      exact hx.comma (ih (fun z hz => h z (List.mem_cons_of_mem x hz)))

/-- A command word and a text without CR LF behind it. -/
lemma noCrlf_word {v s : Str} (hr : '\r' ∉ v) (hs : NoCrlf s) : NoCrlf (v ++ [' '] ++ s) := by
  have hword : NoCrlf (v ++ [' ']) := noCrlf_of_not_mem (by simp [hr])
  exact hword.append hs (fun h => by simp at h)

/-- A text that holds a CR LF can be cut at its first one. -/
lemma exists_first_crlf {s : Str} (h : ¬NoCrlf s) :
    ∃ p q, s = p ++ "\r\n".toList ++ q ∧ NoCrlf p := by
  induction s with
  | nil => exact absurd List.isChain_nil h
  | cons c s ih =>
    by_cases hpair : c = '\r' ∧ s.head? = some '\n'
    · obtain ⟨rfl, hs⟩ := hpair
      cases s with
      | nil => exact absurd hs (by simp)
      | cons d s =>
        obtain rfl : d = '\n' := Option.some.inj hs
        exact ⟨[], s, rfl, List.isChain_nil⟩
    · have hcons {t : Str} (ht : NoCrlf t) (hhead : t.head? = none ∨ t.head? = s.head?) :
          NoCrlf (c :: t) := by
        refine List.isChain_cons.mpr ⟨fun d hd hcd => ?_, ht⟩
        rcases hhead with hnone | hsame
        · rw [hnone] at hd
          exact absurd hd (by simp)
        · rw [hsame] at hd
          exact hpair ⟨hcd.1, hcd.2 ▸ hd⟩
      obtain ⟨p, q, rfl, hp⟩ := ih (fun hs => h (hcons hs (Or.inr rfl)))
      refine ⟨c :: p, q, rfl, hcons hp ?_⟩
      cases p with
      | nil => exact Or.inl rfl
      | cons d p => exact Or.inr rfl

/-- A text that ends with CR LF and has no other is one command. -/
lemma commandLines_line {s : Str} (h : NoCrlf s) (acc : Str) :
    commandLines acc (s ++ "\r\n".toList) = [acc ++ s] := by
  induction s generalizing acc with
  | nil => simp [commandLines]
  | cons c s ih =>
    have hs : NoCrlf s := List.IsChain.tail h
    have hne : ∀ t, c = '\r' → s ++ "\r\n".toList ≠ '\n' :: t := by
      intro t hc ht
      cases s with
      | nil => simp at ht
      | cons b s =>
        have hb : b = '\n' := (List.cons.inj ht).1
        exact List.IsChain.rel_head? h (y := b) (by simp) ⟨hc, hb⟩
    rw [List.cons_append, commandLines, ih hs]
    · simp
    · intro t hc ht
      exact hne t hc ht

/-- Every command that is cut from a text holds no CR LF. -/
lemma noCrlf_of_mem_commandLines {s acc c : Str} (hacc : NoCrlf acc)
    (hlast : acc.getLast? = some '\r' → s.head? ≠ some '\n') (h : c ∈ commandLines acc s) :
    NoCrlf c := by
  induction acc, s using commandLines.induct with
  | case1 acc => simp [commandLines] at h
  | case2 acc s ih =>
    rw [commandLines, List.mem_cons] at h
    rcases h with rfl | h
    · exact hacc
    · exact ih List.isChain_nil (by simp) h
  | case3 acc ch s hne ih =>
    rw [commandLines] at h
    · refine ih (List.IsChain.append hacc (List.isChain_singleton ch) ?_) ?_ h
      · intro x hx y hy hxy
        have hch : ch = y := by simpa using hy
        exact hlast (hxy.1 ▸ hx) (by simp [hch, hxy.2])
      · intro hl hh
        have hch : ch = '\r' := by simpa using hl
        cases s with
        | nil => simp at hh
        | cons b s =>
          have hb : b = '\n' := by simpa using hh
          exact hne s hch (by rw [hb])
    · exact hne

lemma fields_pieces {command : Str} {w : Write} {extra : List Str}
    (hw : splitKVStoreCommand command = w.word :: (w.fields ++ extra)) :
    ∀ f ∈ w.fields, f ∈ getlines ',' (command.drop (posAfter ' ' command)) := by
  intro f hf
  have hargs := (List.cons.inj hw).2
  exact hargs ▸ List.mem_append_left extra hf

lemma commaFree_of_split {command : Str} {w : Write} {extra : List Str}
    (hw : splitKVStoreCommand command = w.word :: (w.fields ++ extra)) : CommaFree w :=
  fun f hf => delim_not_mem_of_mem_getlines (fields_pieces hw f hf)

lemma noCrlf_fields {command : Str} {w : Write} {extra : List Str} (hc : NoCrlf command)
    (hw : splitKVStoreCommand command = w.word :: (w.fields ++ extra)) :
    ∀ f ∈ w.fields, NoCrlf f := by
  intro f hf
  have hin := infix_of_mem_getlines (fields_pieces hw f hf)
  exact List.IsChain.infix hc (hin.trans (List.drop_suffix _ command).isInfix)

/-- The line a server logs and forwards for a command it parsed. -/
lemma noCrlf_line {command : Str} {w : Write} {extra : List Str} (hc : NoCrlf command)
    (hw : splitKVStoreCommand command = w.word :: (w.fields ++ extra)) : NoCrlf w.line := by
  have hfields := noCrlf_fields hc hw
  have hword : NoCrlf w.word := by
    cases w
    · exact (by decide : NoCrlf "PUT ".toList)
    · exact (by decide : NoCrlf "CPUT ".toList)
    · exact (by decide : NoCrlf "DELETE ".toList)
  refine hword.append (NoCrlf.joined hfields) (fun hr => ?_)
  obtain ⟨s, hs, -⟩ := word_split w
  exact absurd hr (by simp [hs])

/-- A forwarded text is one command, the line with its tag. -/
lemma commandLines_tempCommand {w : Write} (h : NoCrlf w.line) {tag : Str} (ht : '\r' ∉ tag) :
    commandLines [] (w.tempCommand tag) = [w.line ++ ",".toList ++ tag] := by
  have hl : NoCrlf (w.line ++ ",".toList ++ tag) := by
    simpa using h.comma (noCrlf_of_not_mem ht)
  exact commandLines_line hl []

lemma rfind_append {pattern t : Str} (h : rfind pattern t = some 0) (s : Str) :
    rfind pattern (s ++ t) = some s.length := by
  induction s with
  | nil => exact h
  | cons c s ih =>
    rw [List.cons_append, rfind, ih]
    rfl

/-- What is appended for a dead secondary is the line that the others log. -/
lemma logForDead_tempCommand (replicaGroup tcpPort : Int) (w : Write) (d : Disk) :
    logForDead replicaGroup tcpPort (w.tempCommand "PRIMARY".toList) d =
      appendToFile (deadServerLogPath (storagePath replicaGroup tcpPort)) w.line d := by
  have hc : w.tempCommand "PRIMARY".toList = w.line ++ ",PRIMARY\r\n".toList := by
    simp [Write.tempCommand]
  have hr : rfind ",PRIMARY".toList (w.line ++ ",PRIMARY\r\n".toList) = some w.line.length :=
    rfind_append (by decide) w.line
  rw [logForDead, hc, hr]
  simp

end CloudStorage.Proofs
