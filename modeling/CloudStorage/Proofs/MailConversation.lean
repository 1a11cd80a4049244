import CloudStorage.Proofs.Addresses
import CloudStorage.Proofs.MailBody

/-!
# Mails of a client that waits

A client that waits for the answer to each of its texts has them received one by one, each in
any number of pieces. This file follows such a conversation through the mail server: command
lines are handled as they were sent, and the texts of one mail after another become exactly
these mails.
-/

namespace CloudStorage.Proofs
open DelimitedText

/-! ### A line that is received on its own -/

lemma handleConnection_more {buffer : Str} {t : Transaction} {piece : MailPiece}
    (hline : findStr "\r\n".toList (cString buffer) = none)
    (hroom : buffer.length + piece.bytes.length ≤ 1001) (pieces : List MailPiece) :
    handleConnection buffer t (piece :: pieces) =
      handleConnection (buffer ++ piece.bytes) t pieces := by
  rw [handleConnection.eq_def]
  split
  · next pos hsome => exact absurd (hline.symm.trans hsome) (by simp)
  · exact if_pos hroom

lemma handleConnection_replied {buffer : Str} {t t' : Transaction} {response : Option Str}
    {pos : Nat} (hline : findStr "\r\n".toList (cString buffer) = some pos)
    (hstep : handleLine (cString buffer) t = .replied t' response) (pieces : List MailPiece) :
    handleConnection buffer t pieces =
      .exchange (cString buffer) response ::
        handleConnection (buffer.drop (pos + 2)) t' pieces := by
  rw [handleConnection.eq_def]
  split
  · next pos' hline' =>
    rw [hline] at hline'
    cases hline'
    rw [hstep]
  · next hnone => exact absurd (hline.symm.trans hnone) (by simp)

/-- A command line without a NUL that fits into the buffer. -/
structure CommandLine (l : Str) : Prop where
  line : NoCrlf l
  noNul : '\x00' ∉ l
  fits : l.length ≤ 999

instance (l : Str) : Decidable (CommandLine l) :=
  decidable_of_iff (NoCrlf l ∧ '\x00' ∉ l ∧ l.length ≤ 999)
    ⟨fun h => ⟨h.1, h.2.1, h.2.2⟩, fun h => ⟨h.line, h.noNul, h.fits⟩⟩

lemma drop_whole_line (l : Str) : (l ++ "\r\n".toList).drop (l.length + 2) = [] := by
  rw [List.drop_eq_nil_iff, List.length_append]
  exact Nat.le_refl _

namespace CommandLine

variable {l : Str} (h : CommandLine l)

include h

lemma noNul_line : '\x00' ∉ l ++ "\r\n".toList := by
  rw [List.mem_append, not_or]
  exact ⟨h.noNul, by decide⟩

/-- As long as the line is not complete, no end of a line is found. -/
lemma incomplete {buffer rest : Str} (hsplit : l ++ "\r\n".toList = buffer ++ rest)
    (hrest : rest ≠ []) : findStr "\r\n".toList (cString buffer) = none := by
  have hbuffer : buffer <+: l ++ ['\r'] := by
    have hlonger : buffer <+: l ++ "\r\n".toList := hsplit ▸ List.prefix_append _ _
    have hpos := List.length_pos_iff.mpr hrest
    have hlen := congrArg List.length hsplit
    have hcrlf : "\r\n".toList.length = 2 := rfl
    rw [List.length_append, List.length_append, hcrlf] at hlen
    refine List.prefix_of_prefix_length_le hlonger ⟨['\n'], by simp⟩ ?_
    rw [List.length_append, List.length_singleton]
    omega
  have hreturn : NoCrlf (l ++ ['\r']) :=
    h.line.append (by decide) (by simp)
  have hnul : '\x00' ∉ buffer := fun hm =>
    h.noNul_line (hsplit ▸ List.mem_append_left rest hm)
  have hclean : NoCrlf buffer := List.IsChain.infix hreturn hbuffer.isInfix
  rw [cString_of_not_mem hnul]
  exact findStr_eq_none (contains_of_noCrlf hclean)

/-- The line is complete only with the last piece, and is then in the buffer as it was sent. -/
theorem received {pieces : List MailPiece} {buffer : Str}
    (hsplit : l ++ "\r\n".toList = buffer ++ bytesOf pieces) (t : Transaction)
    (rest : List MailPiece) :
    handleConnection buffer t (pieces ++ rest) = handleConnection (l ++ "\r\n".toList) t rest := by
  induction pieces generalizing buffer with
  | nil =>
    have hbuffer : l ++ "\r\n".toList = buffer := hsplit.trans (List.append_nil buffer)
    rw [hbuffer, List.nil_append]
  | cons piece pieces ih =>
    rw [bytesOf_cons] at hsplit
    have hroom : buffer.length + piece.bytes.length ≤ 1001 := by
      have hlen := congrArg List.length hsplit
      have hcrlf : "\r\n".toList.length = 2 := rfl
      have hfits := h.fits
      simp only [List.length_append, hcrlf] at hlen
      omega
    have hmore : piece.bytes ++ bytesOf pieces ≠ [] :=
      List.append_ne_nil_of_left_ne_nil piece.nonempty _
    rw [List.cons_append, handleConnection_more (h.incomplete hsplit hmore) hroom]
    exact ih (by rw [hsplit, List.append_assoc])

lemma found : findStr "\r\n".toList (cString (l ++ "\r\n".toList)) = some l.length := by
  have hline := findStr_line h.line []
  rw [List.append_nil] at hline
  rw [cString_of_not_mem h.noNul_line]
  exact hline

/-- A line in pieces of its own is answered, and nothing of it is left. -/
theorem replied {pieces : List MailPiece} (hpieces : bytesOf pieces = l ++ "\r\n".toList)
    {t t' : Transaction} {response : Option Str}
    (hstep : handleLine (l ++ "\r\n".toList) t = .replied t' response) (rest : List MailPiece) :
    handleConnection [] t (pieces ++ rest) =
      .exchange (l ++ "\r\n".toList) response :: handleConnection [] t' rest := by
  have hnul := cString_of_not_mem h.noNul_line
  have hstep' : handleLine (cString (l ++ "\r\n".toList)) t = .replied t' response := by
    rw [hnul]
    exact hstep
  rw [h.received (by rw [hpieces, List.nil_append]), handleConnection_replied h.found hstep', hnul,
    drop_whole_line]

/-- DATA in pieces of its own, with the body of the mail behind it. -/
theorem data {pieces : List MailPiece} (hpieces : bytesOf pieces = l ++ "\r\n".toList)
    {t : Transaction} (hstep : handleLine (l ++ "\r\n".toList) t = .data)
    (rest : List MailPiece) :
    handleConnection [] t (pieces ++ rest) =
      .exchange (l ++ "\r\n".toList) (some startMail) :: .mail t (readContent [] rest).1 ::
        handleConnection [] .cleared (readContent [] rest).2 := by
  have hnul := cString_of_not_mem h.noNul_line
  have hstep' : handleLine (cString (l ++ "\r\n".toList)) t = .data := by
    rw [hnul]
    exact hstep
  rw [h.received (by rw [hpieces, List.nil_append]), handleConnection_data h.found hstep', hnul,
    drop_whole_line]

end CommandLine

/-! ### The lines of a mail -/

/-- A sender that is taken is recorded. -/
lemma mailCommand_taken {text x : Str} {t : Transaction} (ht : t.state = .HeloReceived)
    (hin : InBrackets text x) (hx : SenderTaken x) :
    mailCommand text t =
      .replied { t with state := .MailFromReceived, mailFrom := x } (some senderOk) := by
  obtain ⟨hat, hname, hdomain⟩ := hx
  have hparts : ¬(localPart x (before '@' x).length = [] ∨
      x.drop ((before '@' x).length + 1) = []) := by
    rw [localPart_eq_nil (List.ne_nil_of_mem hat), drop_at hat, not_or]
    exact ⟨hname, hdomain⟩
  unfold mailCommand
  rw [if_neg (not_not.mpr ht), addressIn_iff.mpr hin]
  dsimp only
  rw [find_at hat]
  dsimp only
  rw [if_neg hparts]

/-- A local recipient is recorded by its name. -/
lemma rcptCommand_local {text x : Str} {t : Transaction} (ht : t.state = .MailFromReceived)
    (hin : InBrackets text x) (hx : isLocal x = true) :
    rcptCommand text t = .replied { t with
      rcptTo := insertName (before '@' x) t.rcptTo
      state := .RcptToReceived } (some receiverOk) := by
  unfold rcptCommand
  rw [if_neg (by simp [ht]), addressIn_iff.mpr hin]
  dsimp only
  rw [if_pos hx]

/-- What the mail server records of a mail from `sender` for `recipient`. -/
def recordedMail (sender recipient : Str) : Transaction where
  state := .RcptToReceived
  mailFrom := sender
  rcptTo := [before '@' recipient]

/-- A line that begins with a command word and names an address in brackets. -/
structure AddressLine (word l x : Str) : Prop where
  line : CommandLine l
  word : caseInsensitiveStringCompare (l ++ "\r\n".toList) word = true
  address : InBrackets l x

/-- A mail whose lines and body are each received in pieces of their own. -/
structure MailReceived (sender recipient content : Str) (pieces : List MailPiece) : Prop where
  taken : SenderTaken sender
  isLocal : isLocal recipient = true
  pieces : ∃ mailLine rcptLine m r d c, pieces = m ++ (r ++ (d ++ c)) ∧
    AddressLine "MAIL FROM:".toList mailLine sender ∧ bytesOf m = mailLine ++ "\r\n".toList ∧
    AddressLine "RCPT TO:".toList rcptLine recipient ∧ bytesOf r = rcptLine ++ "\r\n".toList ∧
    bytesOf d = "DATA\r\n".toList ∧ content ≠ [] ∧ EndsAt (bytesOf c) content []

/-- Such a mail is answered line by line and becomes one mail with its sender, its recipient
and its content, and the conversation goes on behind it. -/
theorem MailReceived.conversation {sender recipient content : Str} {pieces : List MailPiece}
    (h : MailReceived sender recipient content pieces) (rest : List MailPiece) :
    ∃ mailText rcptText, handleConnection [] .cleared (pieces ++ rest) =
      .exchange mailText (some senderOk) :: .exchange rcptText (some receiverOk) ::
        .exchange "DATA\r\n".toList (some startMail) ::
          .mail (recordedMail sender recipient) content :: handleConnection [] .cleared rest := by
  obtain ⟨mailLine, rcptLine, m, r, d, c, rfl, hmail, hm, hrcpt, hr, hd, hne, hc⟩ := h.pieces
  have hsender : handleLine (mailLine ++ "\r\n".toList) .cleared =
      .replied { state := .MailFromReceived, mailFrom := sender } (some senderOk) := by
    rw [handleLine_mail hmail.word]
    exact mailCommand_taken rfl (hmail.address.append _) h.taken
  have hrecipient : handleLine (rcptLine ++ "\r\n".toList)
      { state := .MailFromReceived, mailFrom := sender } =
      .replied (recordedMail sender recipient) (some receiverOk) := by
    rw [handleLine_rcpt hrcpt.word]
    exact rcptCommand_local rfl (hrcpt.address.append _) h.isLocal
  have hdataLine : CommandLine "DATA".toList := by decide
  have hdata : handleLine ("DATA".toList ++ "\r\n".toList) (recordedMail sender recipient) =
      .data := rfl
  refine ⟨mailLine ++ "\r\n".toList, rcptLine ++ "\r\n".toList, ?_⟩
  rw [List.append_assoc, List.append_assoc, List.append_assoc, hmail.line.replied hm hsender,
    hrcpt.line.replied hr hrecipient, hdataLine.data hd hdata, readContent_of_endsAt rest hc hne]
  rfl

/-! ### One mail after another -/

/-- The mail of an event. -/
def SmtpEvent.mail? : SmtpEvent → Option (Transaction × Str)
  | .exchange _ _ => none
  | .mail t content => some (t, content)

/-- The pieces of several mails, given by sender, recipient and content. -/
inductive MailsReceived : List (Str × Str × Str) → List MailPiece → Prop where
  | nil : MailsReceived [] []
  | cons {sender recipient content : Str} {mails : List (Str × Str × Str)}
      {pieces rest : List MailPiece} : MailReceived sender recipient content pieces →
      MailsReceived mails rest →
      MailsReceived ((sender, recipient, content) :: mails) (pieces ++ rest)

/-- A conversation of mails leads to these mails, in their order, and to no others. -/
theorem MailsReceived.mails {mails : List (Str × Str × Str)} {pieces : List MailPiece}
    (h : MailsReceived mails pieces) :
    (handleConnection [] .cleared pieces).filterMap SmtpEvent.mail? =
      mails.map (fun x => (recordedMail x.1 x.2.1, x.2.2)) := by
  induction h with
  | nil =>
    have hnothing : handleConnection [] .cleared [] = [] := by
      rw [handleConnection.eq_def]
      rfl
    rw [hnothing]
    rfl
  | cons hmail _ ih =>
    obtain ⟨mailText, rcptText, hconversation⟩ := hmail.conversation _
    rw [hconversation, List.map_cons, ← ih]
    rfl

end CloudStorage.Proofs
