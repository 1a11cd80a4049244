import CloudStorage.Storage

/-!
# Writing and parsing commands

The lines a server logs and forwards are parsed back to the write they came from.
-/

namespace CloudStorage.Proofs
open DelimitedText

/-! ### Cutting a text at a character -/

lemma before_append {c : Char} {s : Str} (h : c ∉ s) (t : Str) : before c (s ++ c :: t) = s := by
  have hs : ∀ ch ∈ s, decide (ch ≠ c) = true := by
    intro ch hch
    exact decide_eq_true (fun heq => h (heq ▸ hch))
  unfold before
  rw [List.takeWhile_append_of_pos hs, List.takeWhile_cons_of_neg (by simp), List.append_nil]

lemma posAfter_mid {c : Char} {s : Str} (h : c ∉ s) (t : Str) :
    posAfter c (s ++ c :: t) = s.length + 1 := by
  simp [posAfter, List.idxOf_append_of_notMem h]

lemma after_append {c : Char} {s : Str} (h : c ∉ s) (t : Str) : after c (s ++ c :: t) = t := by
  unfold after
  rw [posAfter_mid h]
  simp [List.drop_append]

lemma posAfter_append {c : Char} {s : Str} (h : c ∉ s) (t : Str) :
    posAfter c (s ++ [c] ++ t) = (s ++ [c]).length := by
  rw [List.append_assoc, List.length_append]
  exact posAfter_mid h t

lemma between_append {c d : Char} {s t : Str} (hs : c ∉ s) (hds : d ∉ s) (hcd : c ≠ d)
    (hdt : d ∉ t) (u : Str) : between c d (s ++ c :: (t ++ d :: u)) = t := by
  have hmem : d ∈ s ++ c :: (t ++ d :: u) := by simp
  have hidx : (s ++ c :: (t ++ d :: u)).idxOf d = s.length + 1 + t.length := by
    rw [List.idxOf_append_of_notMem hds, List.idxOf_cons_ne _ hcd,
      List.idxOf_append_of_notMem hdt]
    simp
    omega
  have hfind : find d 0 (s ++ c :: (t ++ d :: u)) = some (s.length + 1 + t.length) := by
    unfold find
    rw [List.drop_zero, if_pos hmem, hidx, Nat.zero_add]
  unfold between
  rw [hfind]
  dsimp only
  rw [posAfter_mid hs, if_neg (by omega), after_append hs]
  have hlen : s.length + 1 + t.length - (s.length + 1) = t.length := by omega
  rw [hlen]
  simp

lemma find_lt {c : Char} {pos k : Nat} {s : Str} (h : find c pos s = some k) : k < s.length := by
  unfold find at h
  split at h
  · next hmem =>
    have hidx := List.idxOf_lt_length_of_mem hmem
    rw [List.length_drop] at hidx
    cases h
    omega
  · exact absurd h (by simp)

lemma find_eq_none {c : Char} {s : Str} (h : c ∉ s) (pos : Nat) : find c pos s = none :=
  if_neg (fun hmem => h (List.mem_of_mem_drop hmem))

lemma find_zero {c : Char} {s : Str} {k : Nat} : find c 0 s = some k ↔ c ∈ s ∧ k = s.idxOf c := by
  unfold find
  rw [List.drop_zero, Nat.zero_add]
  split
  · next h => simp [h, eq_comm]
  · next h => simp [h]

/-! ### Commands -/

/-- A parameter that survives being written to a line: not empty, no comma, no line feed. -/
structure PlainField (s : Str) : Prop where
  ne_nil : s ≠ []
  no_comma : ',' ∉ s
  no_newline : '\n' ∉ s

instance : DecidablePred PlainField := fun s =>
  decidable_of_iff (s ≠ [] ∧ ',' ∉ s ∧ '\n' ∉ s)
    ⟨fun h => ⟨h.1, h.2.1, h.2.2⟩, fun h => ⟨h.1, h.2, h.3⟩⟩

/-- A write whose parameters contain no comma, as every parsed write. -/
def CommaFree (w : Write) : Prop := ∀ f ∈ w.fields, ',' ∉ f

def Plain (w : Write) : Prop := ∀ f ∈ w.fields, PlainField f

instance : DecidablePred Plain := fun w => inferInstanceAs (Decidable (∀ f ∈ w.fields, _))

lemma Plain.commaFree {w : Write} (h : Plain w) : CommaFree w :=
  fun f hf => (h f hf).no_comma

/-- Every command word ends at its only blank and is in upper case. -/
lemma word_split (w : Write) :
    ∃ s, w.word = s ++ [' '] ∧ ' ' ∉ s ∧ w.word.map Char.toUpper = w.word := by
  cases w
  · exact ⟨"PUT".toList, rfl, by decide, rfl⟩
  · exact ⟨"CPUT".toList, rfl, by decide, rfl⟩
  · exact ⟨"DELETE".toList, rfl, by decide, rfl⟩

lemma word_no_newline (w : Write) : '\n' ∉ w.word := by
  cases w
  · exact (by decide : '\n' ∉ "PUT ".toList)
  · exact (by decide : '\n' ∉ "CPUT ".toList)
  · exact (by decide : '\n' ∉ "DELETE ".toList)

lemma fields_ne_nil (w : Write) : w.fields ≠ [] := by
  cases w <;> simp [Write.fields]

/-- A command word in upper case is split off, with its blank. -/
lemma splitKVStoreCommand_blank {v : Str} (hb : ' ' ∉ v)
    (hu : (v ++ [' ']).map Char.toUpper = v ++ [' ']) (s : Str) :
    splitKVStoreCommand (v ++ [' '] ++ s) = (v ++ [' ']) :: getlines ',' s := by
  unfold splitKVStoreCommand
  dsimp only
  rw [posAfter_append hb, List.take_left, List.drop_left, hu]

theorem splitKVStoreCommand_word (w : Write) (s : Str) :
    splitKVStoreCommand (w.word ++ s) = w.word :: getlines ',' s := by
  obtain ⟨v, hv, hb, hu⟩ := word_split w
  rw [hv] at hu ⊢
  exact splitKVStoreCommand_blank hb hu s

/-- A logged line is parsed to the write it was made from. -/
theorem splitKVStoreCommand_line {w : Write} (h : Plain w) :
    splitKVStoreCommand w.line = w.word :: w.fields := by
  have hl : w.fields.getLast? ≠ some [] := by
    intro he
    exact (h [] (List.mem_of_getLast? he)).ne_nil rfl
  rw [Write.line, splitKVStoreCommand_word, getlines_joined h.commaFree hl]

/-- A forwarded line is parsed to the write it was made from and its tag, also where the
write has empty parameters. -/
theorem splitKVStoreCommand_tagged {w : Write} (h : CommaFree w) {tag : Str} (ht : tag ≠ [])
    (hc : ',' ∉ tag) :
    splitKVStoreCommand (w.line ++ ",".toList ++ tag) = w.word :: (w.fields ++ [tag]) := by
  have hj : w.line ++ ",".toList ++ tag = w.word ++ joined ',' (w.fields ++ [tag]) := by
    rw [joined_append_singleton (fields_ne_nil w)]
    simp [Write.line]
  have hm : ∀ f ∈ w.fields ++ [tag], ',' ∉ f := by
    intro f hf
    rcases List.mem_append.mp hf with hf | hf
    · exact h f hf
    · exact List.mem_singleton.mp hf ▸ hc
  rw [hj, splitKVStoreCommand_word, getlines_joined hm (by simpa using ht)]

lemma line_no_newline {w : Write} (h : Plain w) : '\n' ∉ w.line := by
  have hj : '\n' ∉ joined ',' w.fields :=
    not_mem_joined (by decide) (fun f hf => (h f hf).no_newline)
  simpa [Write.line] using ⟨word_no_newline w, hj⟩

lemma line_length_pos (w : Write) : 0 < w.line.length := by
  obtain ⟨s, hs, _⟩ := word_split w
  simp only [Write.line, hs, List.length_append, List.length_singleton]
  omega

/-- A command with the word and the parameters of a write is handled as this write,
whatever parameters follow. -/
theorem handleCommand_write (w : Write) (extra : List Str) (origin : Origin) (msg : Str)
    (n : Node) :
    handleCommand (w.word :: (w.fields ++ extra)) origin msg n = handleWrite w origin msg n := by
  cases w <;> rfl

/-- Every parsed command either is a write or is answered without touching the node. -/
theorem handleCommand_cases (parameters : List Str) (origin : Origin) (msg : Str) (n : Node) :
    (∃ w extra, parameters = Write.word w :: (w.fields ++ extra) ∧
      handleCommand parameters origin msg n = handleWrite w origin msg n) ∨
    (∃ reply, handleCommand parameters origin msg n = .finished n reply) ∨
    handleCommand parameters origin msg n = .undefined := by
  have write {w : Write} {extra : List Str} (hp : parameters = w.word :: (w.fields ++ extra)) :
      ∃ w extra, parameters = Write.word w :: (w.fields ++ extra) ∧
        handleCommand parameters origin msg n = handleWrite w origin msg n :=
    ⟨w, extra, hp, hp ▸ handleCommand_write w extra origin msg n⟩
  cases parameters with
  | nil => exact Or.inr (Or.inr rfl)
  | cons word args =>
    by_cases hput : word = "PUT ".toList
    · subst hput
      match args with
      | row :: col :: value :: extra => exact Or.inl (write (w := .put row col value) rfl)
      | [] | [_] | [_, _] => exact Or.inr (Or.inl ⟨_, rfl⟩)
    by_cases hget : word = "GET ".toList
    · subst hget
      exact Or.inr (Or.inl ⟨_, rfl⟩)
    by_cases hcput : word = "CPUT ".toList
    · subst hcput
      match args with
      | row :: col :: cur :: new :: extra => exact Or.inl (write (w := .cput row col cur new) rfl)
      | [] | [_] | [_, _] | [_, _, _] => exact Or.inr (Or.inl ⟨_, rfl⟩)
    by_cases hdelete : word = "DELETE ".toList
    · subst hdelete
      match args with
      | row :: col :: extra => exact Or.inl (write (w := .delete row col) rfl)
      | [] | [_] => exact Or.inr (Or.inl ⟨_, rfl⟩)
    simp only [handleCommand, hput, hget, hcput, hdelete, if_false]
    by_cases hlist : word = "LIST ".toList
    · rw [if_pos hlist]
      cases listReply n.server.table args with
      | some reply => exact Or.inr (Or.inl ⟨reply, rfl⟩)
      | none => exact Or.inr (Or.inr rfl)
    · rw [if_neg hlist]
      exact Or.inr (Or.inl ⟨_, rfl⟩)

end CloudStorage.Proofs
