import CloudStorage.Proofs.StorageService

/-!
# The fields of a client's command

A command joins its fields with commas, and the server takes it apart again. This file
proves which fields a secondary takes for those of a client, and which a PUT stores as they
were named.
-/

namespace CloudStorage.Proofs
open DelimitedText Registers

/-! ### The parsed line -/

/-- An empty last field is not read. -/
lemma splitKVStoreCommand_joined {x : Write} (h : CommaFree x) :
    splitKVStoreCommand x.line =
      x.word :: if x.fields.getLast? = some [] then x.fields.dropLast else x.fields := by
  rw [Write.line, splitKVStoreCommand_word]
  split
  · next hlast =>
    have hsplit : x.fields = x.fields.dropLast ++ [[]] :=
      (List.dropLast_append_getLast? [] hlast).symm
    have hfields : getlines ',' (joined ',' (x.fields.dropLast ++ [[]])) = x.fields.dropLast :=
      getlines_joined_nil (fun f hf => h f (List.dropLast_subset _ hf))
    rw [← hsplit] at hfields
    rw [hfields]
  · next hlast => rw [getlines_joined h hlast]

/-! ### The origin of a command -/

/-- The server takes each command of the text for a client's, and as a secondary it sends
the command on. -/
def SentOn (text : Str) : Prop :=
  ∀ command ∈ commandLines [] text,
    classify (splitKVStoreCommand command) = .frontend ∧
    ∀ (n : Node) (msg : Str), n.server.currentlyInitializing = false →
      n.server.myInfo.isPrimary = false → ∃ forwarded resume,
        handleCommand (splitKVStoreCommand command) (classify (splitKVStoreCommand command))
          msg n = .primary forwarded resume

def lastField : Write → Str
  | .put _ _ value => value
  | .cput _ _ _ newValue => newValue
  | .delete _ col => col

lemma getLast_fields (x : Write) : x.fields.getLast? = some (lastField x) := by
  cases x <;> rfl

/-- The value is there, and is none of the names that stand for a sender. -/
def Unmistakable (x : Write) : Prop :=
  lastField x ≠ [] ∧
    ((∃ row col, x = .delete row col) ∨
      lastField x ≠ "PRIMARY".toList ∧ lastField x ≠ "SECONDARY".toList)

/-- A DELETE has too few parameters to be taken for another server's command. -/
lemma classify_fields {x : Write} :
    classify (x.word :: x.fields) = .frontend ↔
      (∃ row col, x = .delete row col) ∨
        lastField x ≠ "PRIMARY".toList ∧ lastField x ≠ "SECONDARY".toList := by
  have hvalue {parameters : List Str} {v : Str} (hlen : 4 ≤ parameters.length)
      (hword : parameters.head? = some "PUT ".toList ∨ parameters.head? = some "CPUT ".toList)
      (hlast : parameters.getLast? = some v) :
      classify parameters = .frontend ↔ v ≠ "PRIMARY".toList ∧ v ≠ "SECONDARY".toList := by
    have hw : parameters.head? = some "PUT ".toList ∨ parameters.head? = some "CPUT ".toList ∨
        parameters.head? = some "DELETE ".toList :=
      hword.elim Or.inl (fun h => Or.inr (Or.inl h))
    unfold classify
    rw [if_pos ⟨hlen, hw⟩, hlast]
    simp only [Option.some.injEq]
    split
    · next h => exact iff_of_false (by decide) (fun hv => hv.1 h)
    split
    · next h => exact iff_of_false (by decide) (fun hv => hv.2 h)
    · next h h' => exact iff_of_true rfl ⟨h, h'⟩
  cases x with
  | put row col value =>
    rw [hvalue (v := value) (by exact le_refl 4) (Or.inl rfl) rfl]
    simp [lastField]
  | cput row col cur new =>
    rw [hvalue (v := new) (by exact Nat.le_succ 4) (Or.inr rfl) rfl]
    simp [lastField]
  | delete row col => exact iff_of_true rfl (Or.inl ⟨row, col, rfl⟩)

/-- A write without its last field is refused. -/
lemma handleCommand_dropLast (x : Write) (origin : Origin) (msg : Str) (n : Node) :
    ∃ reply, handleCommand (x.word :: x.fields.dropLast) origin msg n = .finished n reply := by
  cases x with
  | put row col value => exact ⟨_, rfl⟩
  | cput row col cur new => exact ⟨_, rfl⟩
  | delete row col => exact ⟨_, rfl⟩

/-- A write with fields free of commas and CR LF is taken for a client's and sent on exactly
if its value is there and is not the name of a sender. -/
theorem clean_write_sent_on_iff {x : Write} (hx : ∀ f ∈ x.fields, ',' ∉ f ∧ NoCrlf f) :
    SentOn (x.line ++ "\r\n".toList) ↔ Unmistakable x := by
  have hcomma : CommaFree x := fun f hf => (hx f hf).1
  have hline : NoCrlf x.line := by
    obtain ⟨v, hv, -, -⟩ := word_split x
    have hr : '\r' ∉ v := by
      have hword : '\r' ∉ x.word := by
        cases x
        · exact (by decide : '\r' ∉ "PUT ".toList)
        · exact (by decide : '\r' ∉ "CPUT ".toList)
        · exact (by decide : '\r' ∉ "DELETE ".toList)
      exact fun hm => hword (hv ▸ List.mem_append_left _ hm)
    rw [Write.line, hv]
    exact noCrlf_word hr (NoCrlf.joined (fun f hf => (hx f hf).2))
  unfold SentOn Unmistakable
  rw [commandLines_line hline, List.nil_append]
  simp only [List.mem_singleton, forall_eq]
  rw [splitKVStoreCommand_joined hcomma, getLast_fields]
  by_cases hnil : lastField x = []
  · -- the server answers with an error
    rw [if_pos (congrArg some hnil)]
    refine iff_of_false (fun h => ?_) (fun h => h.1 hnil)
    let s : Server := startServer 0 { ip := [], tcpPort := 0, udpPort2 := 0, replicaGroup := 0 }
    obtain ⟨forwarded, resume, hf⟩ :=
      h.2 ⟨{ s with currentlyInitializing := false }, fun _ => none⟩ [] rfl rfl
    obtain ⟨reply, hr⟩ := handleCommand_dropLast x (classify (x.word :: x.fields.dropLast)) []
      ⟨{ s with currentlyInitializing := false }, fun _ => none⟩
    rw [hr] at hf
    exact absurd hf (by simp)
  · rw [if_neg (fun h => hnil (Option.some.inj h))]
    constructor
    · exact fun h => ⟨hnil, classify_fields.mp h.1⟩
    · rintro ⟨-, h⟩
      have horigin := classify_fields.mpr h
      refine ⟨horigin, fun n msg hi hp => ?_⟩
      have hhandle := handleCommand_write x [] .frontend msg n
      rw [List.append_nil] at hhandle
      rw [horigin, hhandle, handleWrite_at_secondary hi hp]
      exact ⟨_, _, rfl⟩

theorem clean_write_sent_on_put :
    SentOn ((Write.put "anna".toList "password".toList "cXdlcnR5".toList).line ++
      "\r\n".toList) :=
  (clean_write_sent_on_iff (by decide)).mpr ⟨by decide, Or.inr (by decide)⟩

/-- A file whose text is a sender's name stays at the secondary. -/
theorem tagged_value_not_sent_on : ¬∀ x : Write, (∀ f ∈ x.fields, ',' ∉ f ∧ NoCrlf f) →
    SentOn (x.line ++ "\r\n".toList) := by
  intro h
  have hsent := h (.put ['r'] ['c'] "PRIMARY".toList) (by decide)
    "PUT r,c,PRIMARY".toList (by decide)
  exact absurd hsent.1 (by decide)

/-! ### What a PUT stores -/

/-- The command of a client that stores a value. -/
def putText (row column value : Str) : Str :=
  "PUT".toList ++ [' '] ++ (row ++ ',' :: (column ++ ',' :: value))

def getText (row column : Str) : Str := "GET".toList ++ [' '] ++ (row ++ ',' :: column)

/-- The PUT was refused and changed nothing, or it was accepted, a GET of the same row and
column returns the value, and no other cell changed. -/
def StoredOrRefused (row column value reply : Str) (p : Address) (w w' : World) : Prop :=
  ("-ERR".toList <+: reply ∧ (w'.server p).table = (w.server p).table) ∨
  (reply = okMsg ∧
    (∀ depth msg, (serveCommand (depth + 1) p msg (getText row column) w').map Prod.snd =
      some (getAnswer (some value))) ∧
    ∀ r c, ¬(r = row ∧ c = column) →
      (w'.server p).table.get r c = (w.server p).table.get r c)

/-- The fields are read as they are named, or too few of them are read, or the cell that is
read in their place holds the value that is read, and shows as the one named. -/
def ReadsAsNamed (row column value : Str) (t : Table) : Prop :=
  match getlines ',' (row ++ ',' :: (column ++ ',' :: value)) with
  | r :: c :: v :: _ =>
    (',' ∉ row ∧ ',' ∉ column ∧ ',' ∉ value ∧ column ≠ []) ∨
    (t.get r c = some v ∧
      getReply t (getlines ',' (row ++ ',' :: column)) = getAnswer (some value))
  | _ => True

lemma split_putText (row column value : Str) : splitKVStoreCommand (putText row column value) =
    "PUT ".toList :: getlines ',' (row ++ ',' :: (column ++ ',' :: value)) :=
  splitKVStoreCommand_blank (v := "PUT".toList) (by decide) rfl _

lemma split_getText (row column : Str) : splitKVStoreCommand (getText row column) =
    "GET ".toList :: getlines ',' (row ++ ',' :: column) :=
  splitKVStoreCommand_blank (v := "GET".toList) (by decide) rfl _

lemma getReply_pair (t : Table) (r c : Str) : getReply t [r, c] = getAnswer (t.get r c) := by
  rw [getReply]
  cases t.get r c <;> rfl

/-- Two fields are read as they are named where they hold no comma and the second is there. -/
lemma getlines_pair {row column : Str} (hr : ',' ∉ row) (hc : ',' ∉ column) :
    getlines ',' (row ++ ',' :: column) = row :: if column = [] then [] else [column] := by
  rw [getlines_append_delim hr]
  split
  · next h => rw [h, getlines_nil]
  · next h => rw [getlines_of_not_mem hc h]

/-- A GET with one field gets no value. -/
lemma getReply_one_ne (t : Table) (r value : Str) : getReply t [r] ≠ getAnswer (some value) := by
  intro h
  have hhead := congrArg List.head? h
  exact absurd hhead (by decide : ¬some '-' = some '+')

lemma cellsOf_set_of_get {t : Table} {r c v : Str} (h : t.get r c = some v) :
    cellsOf (t.set r c v) = cellsOf t := by
  funext ⟨r', c'⟩
  unfold cellsOf
  rw [NestedMap.get_set]
  split
  · next heq =>
    obtain ⟨rfl, rfl⟩ := heq
    exact h.symm
  · rfl

lemma answerTo_get (args : List Str) (t : Table) :
    answerTo ("GET ".toList :: args) t = some (getReply t args, t) := by
  match args with
  | [] | [_] | _ :: _ :: _ => rfl

/-- After three fields were stored, the named cell shows the value exactly if the fields are
those named, or were stored already. -/
lemma stored_iff {row column value r c v : Str} {extra : List Str} {t : Table}
    (hfields : getlines ',' (row ++ ',' :: (column ++ ',' :: value)) = r :: c :: v :: extra) :
    (getReply (t.set r c v) (getlines ',' (row ++ ',' :: column)) = getAnswer (some value) ∧
      ∀ r' c', ¬(r' = row ∧ c' = column) → (t.set r c v).get r' c' = t.get r' c') ↔
    ReadsAsNamed row column value t := by
  unfold ReadsAsNamed
  rw [hfields]
  dsimp only
  constructor
  · rintro ⟨hget, hothers⟩
    by_cases hcell : r = row ∧ c = column
    · obtain ⟨rfl, rfl⟩ := hcell
      have hmem : ∀ f ∈ [r, c, v], ',' ∉ f := by
        intro f hf
        apply delim_not_mem_of_mem_getlines (s := r ++ ',' :: (c ++ ',' :: value))
        rw [hfields]
        exact List.mem_append_left extra hf
      have hr := hmem r (by simp)
      have hc := hmem c (by simp)
      left
      rw [getlines_pair hr hc] at hget
      by_cases hnil : c = []
      · rw [if_pos hnil] at hget
        exact absurd hget (getReply_one_ne _ r value)
      · rw [if_neg hnil, getReply_pair, NestedMap.get_set, if_pos ⟨rfl, rfl⟩] at hget
        have hv : v = value := Option.some.inj (getAnswer_injective hget)
        exact ⟨hr, hc, hv ▸ hmem v (by simp), hnil⟩
    · -- the cell that was set is another one, and did not change
      right
      have hsame := hothers r c hcell
      rw [NestedMap.get_set, if_pos ⟨rfl, rfl⟩] at hsame
      refine ⟨hsame.symm, ?_⟩
      have hcells : cellsOf (t.set r c v) = cellsOf t := cellsOf_set_of_get hsame.symm
      rw [← getReply_congr hcells]
      exact hget
  · rintro (⟨hr, hc, hv, hnil⟩ | ⟨hold, hget⟩)
    · rw [getlines_append_delim hr, getlines_append_delim hc] at hfields
      have hvalue : value ≠ [] := by
        rintro rfl
        simp at hfields
      rw [getlines_of_not_mem hv hvalue] at hfields
      cases hfields
      rw [getlines_pair hr hc, if_neg hnil, getReply_pair, NestedMap.get_set,
        if_pos ⟨rfl, rfl⟩]
      refine ⟨rfl, fun r' c' h => ?_⟩
      rw [NestedMap.get_set, if_neg h]
    · have hcells : cellsOf (t.set r c v) = cellsOf t := cellsOf_set_of_get hold
      refine ⟨(getReply_congr hcells _).trans hget, fun r' c' _ => congrFun hcells (r', c')⟩

/-- A PUT is refused, or stores what the client named, exactly if its fields are read as
they are named. -/
theorem put_stores_as_named_iff {w : World} {p : Address} (hw : NoLiveSecondary w p)
    (depth : Nat) (msg row column value : Str) :
    ∃ w' reply, serveCommand (depth + 1) p msg (putText row column value) w = some (w', reply) ∧
      (StoredOrRefused row column value reply p w w' ↔
        ReadsAsNamed row column value (w.server p).table) := by
  have hserve := serveCommand_answerTo hw depth msg (putText row column value)
  rw [split_putText] at hserve
  have hget (w' : World) (hs : SameSettings w w') (d : Nat) (msg' : Str) :
      (serveCommand (d + 1) p msg' (getText row column) w').map Prod.snd =
        some (getReply (w'.server p).table (getlines ',' (row ++ ',' :: column))) := by
    have h := serveCommand_answerTo (hw.of_sameSettings hs) d msg' (getText row column)
    rw [split_getText, answerTo_get] at h
    obtain ⟨u, hu, -⟩ := h
    rw [hu]
    rfl
  have hrefused (hreads : ReadsAsNamed row column value (w.server p).table)
      (ha : answerTo ("PUT ".toList :: getlines ',' (row ++ ',' :: (column ++ ',' :: value)))
        (w.server p).table =
        some ("-ERR Invalidp PUT parameters\r\n".toList, (w.server p).table)) :
      ∃ w' reply, serveCommand (depth + 1) p msg (putText row column value) w =
        some (w', reply) ∧ (StoredOrRefused row column value reply p w w' ↔
          ReadsAsNamed row column value (w.server p).table) := by
    rw [ha] at hserve
    obtain ⟨w', hs, ht, -⟩ := hserve
    exact ⟨w', _, hs, iff_of_true (Or.inl ⟨⟨_, rfl⟩, ht⟩) hreads⟩
  match hfields : getlines ',' (row ++ ',' :: (column ++ ',' :: value)) with
  | [] | [_] | [_, _] =>
    apply hrefused
    · unfold ReadsAsNamed
      rw [hfields]
      trivial
    · rw [hfields]
      rfl
  | r :: c :: v :: extra =>
    rw [hfields] at hserve
    obtain ⟨w', hs, ht, hsame⟩ := hserve
    refine ⟨w', _, hs, ?_⟩
    have ht : (w'.server p).table = (w.server p).table.set r c v := ht
    rw [← stored_iff hfields]
    unfold StoredOrRefused
    rw [ht]
    constructor
    · rintro (⟨herr, -⟩ | ⟨-, hanswer, hothers⟩)
      · exact absurd herr (by decide : ¬"-ERR".toList <+: okMsg)
      · have h := hanswer 0 []
        rw [hget w' hsame, ht] at h
        exact ⟨Option.some.inj h, hothers⟩
    · rintro ⟨hanswer, hothers⟩
      refine Or.inr ⟨rfl, fun d msg' => ?_, hothers⟩
      rw [hget w' hsame, ht, hanswer]

/-- The files of a user of the demo. -/
theorem put_stores_as_named_file :
    ∃ w' reply, serveCommand 1 (group1Address 2001) []
        (putText "anna".toList "/content/a.pdf".toList "JVBERi0x".toList) (aloneWorld ∅) =
        some (w', reply) ∧
      (StoredOrRefused "anna".toList "/content/a.pdf".toList "JVBERi0x".toList reply
          (group1Address 2001) (aloneWorld ∅) w' ↔
        ReadsAsNamed "anna".toList "/content/a.pdf".toList "JVBERi0x".toList
          ((aloneWorld ∅).server (group1Address 2001)).table) :=
  put_stores_as_named_iff (aloneWorld_alone ∅).noLiveSecondary 0 [] _ _ _

/-- A file with a comma in its name is stored under another name. -/
theorem comma_name_not_stored : ¬∀ (w : World) (p : Address) (depth : Nat)
    (msg row column value : Str), NoLiveSecondary w p → NoCrlf row → NoCrlf column →
      NoCrlf value → ∃ w' reply,
        serveCommand (depth + 1) p msg (putText row column value) w = some (w', reply) ∧
        StoredOrRefused row column value reply p w w' := by
  intro h
  have hlone := (aloneWorld_alone ∅).noLiveSecondary
  obtain ⟨w', reply, hs, hstored⟩ := h (aloneWorld ∅) (group1Address 2001) 0 [] "u".toList
    "/content/a,b.txt".toList "YQ==".toList hlone (by decide) (by decide) (by decide)
  obtain ⟨w'', reply', hs', hiff⟩ := put_stores_as_named_iff hlone 0 [] "u".toList
    "/content/a,b.txt".toList "YQ==".toList
  cases hs.symm.trans hs'
  have hreads : ReadsAsNamed "u".toList "/content/a,b.txt".toList "YQ==".toList ∅ :=
    hiff.mp hstored
  have hfields : getlines ',' ("u".toList ++ ',' :: ("/content/a,b.txt".toList ++ ',' ::
      "YQ==".toList)) = "u".toList :: "/content/a".toList :: "b.txt".toList ::
      ["YQ==".toList] := by
    decide
  unfold ReadsAsNamed at hreads
  rw [hfields] at hreads
  rcases hreads with ⟨-, hcomma, -⟩ | ⟨hold, -⟩
  · exact hcomma (by decide)
  · rw [NestedMap.get_empty] at hold
    exact absurd hold (by simp)

end CloudStorage.Proofs
