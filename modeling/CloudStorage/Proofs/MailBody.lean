import CloudStorage.MailServer

/-!
# The end of a mail

The body of a mail ends at the first line that is a single dot. The loop that reads it looks
for that line only behind what it has just read, which finds the right end for some ways in
which the bytes arrive and not for others.
-/

namespace CloudStorage.Proofs

def endOfData : Str := ".\r\n".toList

/-- A line starts behind the text. -/
def LineStart (text : Str) : Prop := text = [] ∨ "\r\n".toList <:+ text

/-- The first end-of-data line of a stream stands between the content and the rest. -/
structure EndsAt (stream content rest : Str) : Prop where
  eq : stream = content ++ endOfData ++ rest
  line : LineStart content
  first : ∀ text, text ++ endOfData <+: stream → LineStart text → content.length ≤ text.length

lemma EndsAt.append {stream content rest : Str} (h : EndsAt stream content rest) (s : Str) :
    EndsAt (stream ++ s) content (rest ++ s) where
  eq := by rw [h.eq, List.append_assoc]
  line := h.line
  first text hprefix hline := by
    by_contra hlt
    have hlen : (text ++ endOfData).length ≤ stream.length := by
      have hstream := congrArg List.length h.eq
      simp only [List.length_append] at hstream ⊢
      omega
    have hshort : text ++ endOfData <+: stream :=
      List.prefix_of_prefix_length_le hprefix (List.prefix_append stream s) hlen
    exact hlt (h.first text hshort hline)

/-! ### The loop -/

/-- A text that ends as the loop wants it. -/
def Terminated (text : Str) : Prop := "\r\n.\r\n".toList <:+ text

instance (text : Str) : Decidable (Terminated text) := inferInstanceAs (Decidable (_ <:+ _))

lemma terminated_iff (content : Str) :
    Terminated (content ++ endOfData) ↔ "\r\n".toList <:+ content := by
  have hend : "\r\n.\r\n".toList = "\r\n".toList ++ endOfData := rfl
  unfold Terminated
  rw [hend, List.suffix_append_self_iff]

lemma readContent_cons (email_content : Str) (piece : MailPiece) (pieces : List MailPiece) :
    readContent email_content (piece :: pieces) =
      if Terminated (email_content ++ piece.bytes) then
        ((email_content ++ piece.bytes).take ((email_content ++ piece.bytes).length - 3), pieces)
      else readContent (email_content ++ piece.bytes) pieces := by
  by_cases h : Terminated (email_content ++ piece.bytes)
  · rw [if_pos h, readContent, if_pos (List.isSuffixOf_iff_suffix.mpr h)]
  · rw [if_neg h, readContent, if_neg (fun hend => h (List.isSuffixOf_iff_suffix.mp hend))]

lemma bytesOf_cons (piece : MailPiece) (pieces : List MailPiece) :
    bytesOf (piece :: pieces) = piece.bytes ++ bytesOf pieces := List.flatMap_cons

lemma bytesOf_append (pieces others : List MailPiece) :
    bytesOf (pieces ++ others) = bytesOf pieces ++ bytesOf others := List.flatMap_append

/-- The loop reads the pieces up to the first one behind which the text ends as it wants. -/
lemma readContent_append {email_content : Str} {read unread : List MailPiece} (hne : read ≠ [])
    (hend : Terminated (email_content ++ bytesOf read))
    (hfirst : ∀ some others, read = some ++ others → some ≠ [] → others ≠ [] →
      ¬Terminated (email_content ++ bytesOf some)) :
    readContent email_content (read ++ unread) =
      ((email_content ++ bytesOf read).take ((email_content ++ bytesOf read).length - 3),
        unread) := by
  induction read generalizing email_content with
  | nil => exact absurd rfl hne
  | cons piece read ih =>
    rw [List.cons_append, readContent_cons]
    rw [bytesOf_cons, ← List.append_assoc] at hend ⊢
    by_cases hread : read = []
    · subst hread
      have hbytes : bytesOf [] = [] := rfl
      rw [hbytes, List.append_nil] at hend ⊢
      rw [if_pos hend, List.nil_append]
    · have hno := hfirst [piece] read rfl (List.cons_ne_nil _ _) hread
      rw [bytesOf_cons, show bytesOf [] = [] from rfl, List.append_nil] at hno
      rw [if_neg hno]
      refine ih hread hend (fun some others heq hsome hothers => ?_)
      have hlater := hfirst (piece :: some) others (by rw [heq, List.cons_append])
        (List.cons_ne_nil _ _) hothers
      rw [bytesOf_cons, ← List.append_assoc] at hlater
      exact hlater

/-- The loop stops behind a text that ends as it wants, or reads everything without such an
end. -/
lemma readContent_cases (email_content : Str) (pieces : List MailPiece) :
    (∃ read, pieces = read ++ (readContent email_content pieces).2 ∧
      Terminated (email_content ++ bytesOf read) ∧
      email_content ++ bytesOf read = (readContent email_content pieces).1 ++ endOfData) ∨
    readContent email_content pieces = (email_content ++ bytesOf pieces, []) ∧
      (pieces ≠ [] → ¬Terminated (email_content ++ bytesOf pieces)) := by
  induction pieces generalizing email_content with
  | nil =>
    right
    rw [readContent, show bytesOf [] = [] from rfl, List.append_nil]
    exact ⟨rfl, fun h => absurd rfl h⟩
  | cons piece pieces ih =>
    rw [readContent_cons, bytesOf_cons, ← List.append_assoc]
    split
    · next hend =>
      left
      refine ⟨[piece], rfl, ?_, ?_⟩
      · rw [bytesOf_cons, show bytesOf [] = [] from rfl, List.append_nil]
        exact hend
      · rw [bytesOf_cons, show bytesOf [] = [] from rfl, List.append_nil]
        obtain ⟨text, htext⟩ := hend
        have hthree : text ++ "\r\n.\r\n".toList = (text ++ "\r\n".toList) ++ endOfData := by
          rw [List.append_assoc]
          rfl
        rw [hthree] at htext
        rw [← htext]
        dsimp only
        rw [List.length_append, show endOfData.length = 3 from rfl, Nat.add_sub_cancel,
          List.take_left]
    · next hopen =>
      rcases ih (email_content ++ piece.bytes) with ⟨read, hpieces, hend, htext⟩ | ⟨hall, hlast⟩
      · left
        refine ⟨piece :: read, ?_, ?_, ?_⟩
        · rw [List.cons_append, ← hpieces]
        · rw [bytesOf_cons, ← List.append_assoc]
          exact hend
        · rw [bytesOf_cons, ← List.append_assoc]
          exact htext
      · refine Or.inr ⟨hall, fun _ => ?_⟩
        by_cases hnil : pieces = []
        · rw [hnil, show bytesOf [] = [] from rfl, List.append_nil]
          exact hopen
        · exact hlast hnil

/-! ### The condition -/

/-- A mail leaves in any case. It is delimited by the stream if the stream has an end-of-data
line, the content of the mail is what stands before the first one, and the loop goes on with
what stands behind. -/
def DelimitedByStream (behind : Str) (pieces : List MailPiece) : Prop :=
  EndsAt (behind ++ bytesOf pieces) (readContent [] pieces).1
    (behind ++ bytesOf (readContent [] pieces).2)

/-- A content that is not empty and its end are read in pieces of their own. What was received
together with DATA could as well stand behind them: it is nothing, or the same text again. -/
def ReadOnItsOwn (behind : Str) (pieces : List MailPiece) : Prop :=
  ∃ content read unread, pieces = read ++ unread ∧ content ≠ [] ∧
    EndsAt (bytesOf read) content [] ∧ behind ++ bytesOf read = bytesOf read ++ behind

lemma EndsAt.terminated {stream content : Str} (h : EndsAt stream content [])
    (hne : content ≠ []) : Terminated stream := by
  rw [h.eq, List.append_nil, terminated_iff]
  exact h.line.resolve_left hne

/-- No beginning of a body ends as the loop wants it. -/
lemma EndsAt.not_terminated {stream content : Str} (h : EndsAt stream content []) {s t : Str}
    (hs : stream = s ++ t) (ht : t ≠ []) : ¬Terminated s := by
  rintro ⟨text, rfl⟩
  have htext : text ++ "\r\n.\r\n".toList = text ++ "\r\n".toList ++ endOfData := by
    rw [List.append_assoc]
    rfl
  have hprefix : text ++ "\r\n".toList ++ endOfData <+: stream := by
    rw [hs, ← htext]
    exact List.prefix_append _ _
  have hlen := h.first _ hprefix (Or.inr (List.suffix_append _ _))
  have heq := congrArg List.length (h.eq.symm.trans hs)
  have hpos := List.length_pos_iff.mpr ht
  rw [htext] at heq
  simp only [List.length_append, List.length_nil] at heq hlen
  omega

lemma readContent_of_endsAt {content : Str} {read : List MailPiece} (unread : List MailPiece)
    (h : EndsAt (bytesOf read) content []) (hne : content ≠ []) :
    readContent [] (read ++ unread) = (content, unread) := by
  have hbytes : bytesOf read = content ++ endOfData := by
    rw [h.eq, List.append_nil]
  have hread : read ≠ [] := by
    rintro rfl
    have hnil : content ++ endOfData = [] := hbytes.symm
    exact hne (List.append_eq_nil_iff.mp hnil).1
  have hloop := @readContent_append [] read unread hread (h.terminated hne)
    (fun some others heq _ hothers => by
      refine h.not_terminated (t := bytesOf others) ?_ ?_
      · rw [heq, bytesOf_append, List.nil_append]
      · obtain ⟨piece, rest, rfl⟩ := List.exists_cons_of_ne_nil hothers
        rw [bytesOf_cons]
        exact List.append_ne_nil_of_left_ne_nil piece.nonempty _)
  rw [hloop, List.nil_append, hbytes, List.length_append, show endOfData.length = 3 from rfl,
    Nat.add_sub_cancel, List.take_left]

theorem delimitedByStream_iff (behind : Str) (pieces : List MailPiece) :
    DelimitedByStream behind pieces ↔ ReadOnItsOwn behind pieces := by
  constructor
  · intro h
    unfold DelimitedByStream at h
    rcases readContent_cases [] pieces with ⟨read, hpieces, hend, htext⟩ | ⟨hall, -⟩
    · generalize (readContent [] pieces).1 = content at h htext
      generalize (readContent [] pieces).2 = unread at h hpieces
      rw [List.nil_append] at hend htext
      have hcrlf : "\r\n".toList <:+ content := (terminated_iff content).mp (htext ▸ hend)
      have hboth : behind ++ bytesOf read ++ bytesOf unread =
          bytesOf read ++ behind ++ bytesOf unread := by
        rw [List.append_assoc, List.append_assoc, ← bytesOf_append, ← hpieces, h.eq, htext]
      have hcommute := List.append_cancel_right hboth
      refine ⟨content, read, unread, hpieces, ?_, ?_, hcommute⟩
      · rintro rfl
        exact absurd (List.suffix_nil.mp hcrlf) (by decide)
      · refine ⟨by rw [htext, List.append_nil], Or.inr hcrlf, fun text hprefix hline => ?_⟩
        refine h.first text ?_ hline
        rw [hpieces, bytesOf_append, ← List.append_assoc, hcommute, List.append_assoc]
        exact hprefix.trans (List.prefix_append _ _)
    · -- nothing is left to stand behind an end
      rw [hall] at h
      have hlen := congrArg List.length h.eq
      simp only [List.nil_append, List.length_append, show endOfData.length = 3 from rfl,
        show bytesOf [] = [] from rfl, List.length_nil] at hlen
      omega
  · rintro ⟨content, read, unread, rfl, hne, hends, hcommute⟩
    unfold DelimitedByStream
    rw [readContent_of_endsAt unread hends hne, bytesOf_append, ← List.append_assoc, hcommute,
      List.append_assoc]
    have happend := hends.append (behind ++ bytesOf unread)
    rw [List.nil_append] at happend
    exact happend

/-! ### DATA on a connection -/

lemma handleConnection_data {buffer : Str} {t : Transaction} {pos : Nat}
    (hline : findStr "\r\n".toList (cString buffer) = some pos)
    (hdata : handleLine (cString buffer) t = .data) (pieces : List MailPiece) :
    handleConnection buffer t pieces =
      .exchange (cString buffer) (some startMail) :: .mail t (readContent [] pieces).1 ::
        handleConnection (buffer.drop (pos + 2)) .cleared (readContent [] pieces).2 := by
  rw [handleConnection.eq_def]
  split
  · next pos' hline' =>
    rw [hline] at hline'
    cases hline'
    rw [hdata]
  · next hnone => exact absurd (hline.symm.trans hnone) (by simp)

/-- The bytes behind an accepted DATA become one mail and then commands; they do so by
themselves exactly if the body is read on its own. -/
theorem mail_delimited_by_stream_iff {buffer : Str} {t : Transaction} {pos : Nat}
    (hline : findStr "\r\n".toList (cString buffer) = some pos)
    (hdata : handleLine (cString buffer) t = .data) (pieces : List MailPiece) :
    handleConnection buffer t pieces =
      .exchange (cString buffer) (some startMail) :: .mail t (readContent [] pieces).1 ::
        handleConnection (buffer.drop (pos + 2)) .cleared (readContent [] pieces).2 ∧
    (DelimitedByStream (buffer.drop (pos + 2)) pieces ↔
      ReadOnItsOwn (buffer.drop (pos + 2)) pieces) :=
  ⟨handleConnection_data hline hdata pieces, delimitedByStream_iff _ pieces⟩

def mailPiece (bytes : Str) (h : bytes ≠ [] ∧ bytes.length ≤ 1024) : MailPiece :=
  ⟨bytes, h.1, h.2⟩

/-- A mail from `anna` for `bob` whose DATA was just read. -/
def readyForData : Transaction where
  state := .RcptToReceived
  mailFrom := "anna@localhost".toList
  rcptTo := ["bob".toList]

/-- A body whose end arrives in two pieces. -/
def helloPieces : List MailPiece :=
  [mailPiece "Hello\r\n.".toList (by decide), mailPiece "\r\n".toList (by decide)]

theorem mail_delimited_by_stream_two :
    handleConnection "DATA\r\n".toList readyForData helloPieces =
      .exchange "DATA\r\n".toList (some startMail) :: .mail readyForData "Hello\r\n".toList ::
        handleConnection [] .cleared [] ∧
    (DelimitedByStream [] helloPieces ↔ ReadOnItsOwn [] helloPieces) :=
  @mail_delimited_by_stream_iff "DATA\r\n".toList readyForData 4 (by decide) (by decide)
    helloPieces

/-- A command that arrives together with the end of the mail becomes part of the mail. -/
theorem command_behind_mail_swallowed : ¬∀ (buffer : Str) (t : Transaction) (pos : Nat)
    (pieces : List MailPiece), findStr "\r\n".toList (cString buffer) = some pos →
    handleLine (cString buffer) t = .data →
    DelimitedByStream (buffer.drop (pos + 2)) pieces := by
  intro h
  have hends := h "DATA\r\n".toList readyForData 4
    [mailPiece "Hello\r\n.\r\nQUIT\r\n".toList (by decide)] (by decide) (by decide)
  have hlen := congrArg List.length hends.eq
  exact absurd hlen (by decide)

end CloudStorage.Proofs
