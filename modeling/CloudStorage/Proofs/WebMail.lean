import CloudStorage.Lib.Conversation
import CloudStorage.Pages
import CloudStorage.Proofs.EmailPage
import CloudStorage.Proofs.MailConversation
import CloudStorage.Proofs.MailDelivery
import Mathlib.Data.List.TakeWhile

/-!
# From the web to the mailbox

A mail that is written on the web goes as four texts to the mail server, becomes a mail there
with its body encoded in a cell of the recipient, and is decoded again for the page of the
mail. This file puts the three parts together, for any number of mails on one connection.
-/

namespace CloudStorage.Proofs
open DelimitedText Dialogue Positions Registers

/-! ### What goes to the mail server -/

/-- A mail as it is written on the web. -/
structure WebMail where
  username : Str
  toEmail : Str
  subject : Str
  message : Str

namespace WebMail

def sender (m : WebMail) : Str := fromEmail m.username m.toEmail

def content (m : WebMail) : Str := mailText m.username m.toEmail m.subject m.message

def mailLine (m : WebMail) : Str := "MAIL FROM:<".toList ++ m.sender ++ ">".toList

def rcptLine (m : WebMail) : Str := "RCPT TO:<".toList ++ m.toEmail ++ ">".toList

/-- The four texts of the mail. -/
def texts (m : WebMail) : List Str :=
  [m.mailLine ++ "\r\n".toList, m.rcptLine ++ "\r\n".toList, "DATA\r\n".toList,
    m.content ++ endOfData]

/-- The program that sends the mail. -/
def send (m : WebMail) : Web Unit := mailMessage m.username m.toEmail m.subject m.message

def sendAll : List WebMail → Web Unit
  | [] => return ()
  | m :: ms => do
    m.send
    sendAll ms

end WebMail

/-- What is sent on the connection to the mail server. -/
def mailText? : Action → Option Str
  | .mail text => some text
  | _ => none

def mailTexts (log : Conversation Action Action.Answer) : List Str :=
  log.filterMap (fun x => mailText? x.1)

lemma mailTexts_append (l₁ l₂ : Conversation Action Action.Answer) :
    mailTexts (l₁ ++ l₂) = mailTexts l₁ ++ mailTexts l₂ := List.filterMap_append

lemma WebMail.send_eq (m : WebMail) : m.send = (do
    sendMail (m.mailLine ++ "\r\n".toList)
    sendMail (m.rcptLine ++ "\r\n".toList)
    sendMail "DATA\r\n".toList
    sendMail (m.content ++ endOfData)) := by
  have hend : ">\r\n".toList = ">".toList ++ "\r\n".toList := rfl
  rw [WebMail.send, mailMessage_eq, hend, ← List.append_assoc, ← List.append_assoc]
  rfl

lemma sendMail_texts {text : Str} {log : Conversation Action Action.Answer}
    (h : (sendMail text).Ends log ()) : mailTexts log = [text] := by
  rw [ends_question.mp h]
  rfl

/-- A mail goes out as its four texts. -/
lemma WebMail.send_texts {m : WebMail} {log : Conversation Action Action.Answer}
    (h : m.send.Ends log ()) : mailTexts log = m.texts := by
  rw [m.send_eq] at h
  obtain ⟨l₁, l, _, rfl, h₁, h⟩ := ends_bind.mp h
  obtain ⟨l₂, l, _, rfl, h₂, h⟩ := ends_bind.mp h
  obtain ⟨l₃, l₄, _, rfl, h₃, h₄⟩ := ends_bind.mp h
  rw [mailTexts_append, mailTexts_append, mailTexts_append, sendMail_texts h₁, sendMail_texts h₂,
    sendMail_texts h₃, sendMail_texts h₄]
  rfl

lemma WebMail.sendAll_texts {ms : List WebMail} {log : Conversation Action Action.Answer}
    (h : (sendAll ms).Ends log ()) : mailTexts log = ms.flatMap WebMail.texts := by
  induction ms generalizing log with
  | nil =>
    obtain ⟨rfl, -⟩ := h
    rfl
  | cons m ms ih =>
    obtain ⟨l₁, l₂, _, rfl, h₁, h₂⟩ := ends_bind.mp h
    rw [mailTexts_append, send_texts h₁, ih h₂, List.flatMap_cons]

/-! ### What the mail server reads -/

/-- Each text is received on its own, in one or more pieces. -/
def ReceivedAlone (texts : List Str) (pieces : List MailPiece) : Prop :=
  ∃ groups : List (List MailPiece), groups.map bytesOf = texts ∧ groups.flatten = pieces

/-- The mail server takes both addresses, the recipient is local, the lines fit into its
buffer, and no line of the mail is a single dot. -/
structure WebMail.Deliverable (m : WebMail) : Prop where
  taken : SenderTaken m.sender
  isLocal : isLocal m.toEmail = true
  brackets : '>' ∉ m.sender ∧ '>' ∉ m.toEmail
  mailLine : CommandLine m.mailLine
  rcptLine : CommandLine m.rcptLine
  dot : contains "\r\n.\r\n".toList m.content = false

namespace WebMail

variable {m : WebMail}

lemma addressLine {word x : Str} (hline : CommandLine (word ++ "<".toList ++ x ++ ">".toList))
    (hword : '<' ∉ word ∧ '>' ∉ word) (hx : '>' ∉ x) :
    AddressLine word (word ++ "<".toList ++ x ++ ">".toList) x where
  line := hline
  word := by
    have hprefix : (word ++ "<".toList ++ x ++ ">".toList ++ "\r\n".toList).take word.length =
        word := by
      rw [List.append_assoc, List.append_assoc, List.append_assoc, List.take_left]
    rw [caseInsensitiveStringCompare, hprefix, beq_self_eq_true]
  address := ⟨word, [], by simp, hword.1, hword.2, hx⟩

lemma content_ne_nil (m : WebMail) : m.content ≠ [] := by
  unfold content mailText withCrlf headerLines
  simp

/-- The body ends where it was sent to end. -/
lemma Deliverable.endsAt (h : m.Deliverable) : EndsAt (m.content ++ endOfData) m.content [] where
  eq := (List.append_nil _).symm
  line := by
    right
    refine ⟨withCrlf (headerLines m.username m.toEmail m.subject) ++ m.message ++
      "\r\n".toList, ?_⟩
    unfold content mailText
    simp
  first text hprefix hline := by
    by_contra hlt
    obtain ⟨rest, hrest⟩ := hprefix
    rcases hline with rfl | ⟨a, rfl⟩
    · -- the mail begins with a letter
      have hhead : some '.' = some 'F' := by
        have hcongr := congrArg List.head? hrest
        unfold content mailText withCrlf headerLines endOfData at hcongr
        simp at hcongr
      exact absurd hhead (by decide)
    · have hdot : a ++ "\r\n.\r\n".toList ++ rest = m.content ++ endOfData := by
        rw [← hrest]
        unfold endOfData
        simp
      have hlen := congrArg List.length hdot
      have hfive : "\r\n.\r\n".toList.length = 5 := rfl
      have hthree : endOfData.length = 3 := rfl
      have htwo : "\r\n".toList.length = 2 := rfl
      simp only [List.length_append, hfive, hthree, htwo] at hlen hlt
      have hno : ¬"\r\n.\r\n".toList <:+: m.content := by
        rw [← contains_iff, h.dot]
        decide
      rcases List.append_eq_append_iff.mp hdot with ⟨u, hu, -⟩ | ⟨u, hu, hrest'⟩
      · -- a line of the mail is a single dot
        exact hno ⟨a, u, hu.symm⟩
      · -- what is left of the end of the mail would have to end in a line feed
        have hlast : (m.content ++ u).getLast? = some '\n' := by
          rw [← hu, List.getLast?_append_of_ne_nil _ (by decide)]
          rfl
        have hshort : u.length < 3 := by
          have hulen := congrArg List.length hu
          simp only [List.length_append, hfive] at hulen
          omega
        rcases u with _ | ⟨c, _ | ⟨d, _ | ⟨e, u⟩⟩⟩
        · exact hno ⟨a, [], by rw [List.append_nil, hu, List.append_nil]⟩
        · rw [List.getLast?_append_of_ne_nil _ (List.cons_ne_nil _ _)] at hlast
          have hc : '.' = c := (List.cons.inj hrest').1
          rw [← hc] at hlast
          exact absurd hlast (by decide)
        · rw [List.getLast?_append_of_ne_nil _ (List.cons_ne_nil _ _)] at hlast
          have hd : '\r' = d := (List.cons.inj (List.cons.inj hrest').2).1
          rw [← hd] at hlast
          exact absurd hlast (by simp)
        · exact absurd hshort (by simp)

/-- The texts of a mail in pieces of their own are a mail for the mail server. -/
lemma Deliverable.mailReceived (h : m.Deliverable) {g₁ g₂ g₃ g₄ : List MailPiece}
    (h₁ : bytesOf g₁ = m.mailLine ++ "\r\n".toList)
    (h₂ : bytesOf g₂ = m.rcptLine ++ "\r\n".toList) (h₃ : bytesOf g₃ = "DATA\r\n".toList)
    (h₄ : bytesOf g₄ = m.content ++ endOfData) :
    MailReceived m.sender m.toEmail m.content (g₁ ++ (g₂ ++ (g₃ ++ g₄))) where
  taken := h.taken
  isLocal := h.isLocal
  pieces := by
    have hends : EndsAt (bytesOf g₄) m.content [] := by
      rw [h₄]
      exact h.endsAt
    have hwords : ('<' ∉ "MAIL FROM:".toList ∧ '>' ∉ "MAIL FROM:".toList) ∧
        '<' ∉ "RCPT TO:".toList ∧ '>' ∉ "RCPT TO:".toList := by decide
    have hmail : AddressLine "MAIL FROM:".toList m.mailLine m.sender :=
      addressLine h.mailLine hwords.1 h.brackets.1
    have hrcpt : AddressLine "RCPT TO:".toList m.rcptLine m.toEmail :=
      addressLine h.rcptLine hwords.2 h.brackets.2
    exact ⟨m.mailLine, m.rcptLine, g₁, g₂, g₃, g₄, rfl, hmail, h₁, hrcpt, h₂, h₃,
      m.content_ne_nil, hends⟩

lemma mailsReceived {ms : List WebMail} (h : ∀ m ∈ ms, m.Deliverable) {pieces : List MailPiece}
    (hpieces : ReceivedAlone (ms.flatMap texts) pieces) :
    MailsReceived (ms.map (fun m => (m.sender, m.toEmail, m.content))) pieces := by
  induction ms generalizing pieces with
  | nil =>
    obtain ⟨groups, hgroups, rfl⟩ := hpieces
    rw [List.map_eq_nil_iff.mp hgroups]
    exact .nil
  | cons m ms ih =>
    obtain ⟨groups, hgroups, rfl⟩ := hpieces
    have hfour : groups.map bytesOf = (m.mailLine ++ "\r\n".toList) ::
        (m.rcptLine ++ "\r\n".toList) :: "DATA\r\n".toList :: (m.content ++ endOfData) ::
          ms.flatMap texts := hgroups
    obtain ⟨g₁, groups, rfl, h₁, hfour⟩ := List.map_eq_cons_iff.mp hfour
    obtain ⟨g₂, groups, rfl, h₂, hfour⟩ := List.map_eq_cons_iff.mp hfour
    obtain ⟨g₃, groups, rfl, h₃, hfour⟩ := List.map_eq_cons_iff.mp hfour
    obtain ⟨g₄, groups, rfl, h₄, hfour⟩ := List.map_eq_cons_iff.mp hfour
    have hrest := ih (fun m' hm => h m' (List.mem_cons_of_mem m hm)) ⟨groups, hfour, rfl⟩
    have hmail := (h m List.mem_cons_self).mailReceived h₁ h₂ h₃ h₄
    have hall := MailsReceived.cons hmail hrest
    rw [List.map_cons, List.flatten_cons, List.flatten_cons, List.flatten_cons, List.flatten_cons]
    simpa only [List.append_assoc] using hall

end WebMail

/-- The first text of a connection. -/
def heloTester : Str := "HELO tester\r\n".toList

/-- The mails on a connection, whose texts are all received on their own, are those that were
written, each with its sender, its recipient and its content. -/
theorem web_mails_received {ms : List WebMail} (h : ∀ m ∈ ms, m.Deliverable)
    {pieces : List MailPiece}
    (hpieces : ReceivedAlone (heloTester :: ms.flatMap WebMail.texts) pieces) :
    (handleConnection [] {} pieces).filterMap SmtpEvent.mail? =
      ms.map (fun m => (recordedMail m.sender m.toEmail, m.content)) := by
  obtain ⟨groups, hgroups, rfl⟩ := hpieces
  obtain ⟨g, groups, rfl, hg, hgroups⟩ := List.map_eq_cons_iff.mp hgroups
  have hline : CommandLine "HELO tester".toList := by decide
  have hstep : handleLine ("HELO tester".toList ++ "\r\n".toList) {} =
      .replied .cleared (some "250 localhost\r\n".toList) := rfl
  have hrest := (WebMail.mailsReceived h ⟨groups, hgroups, rfl⟩).mails
  rw [List.flatten_cons, hline.replied hg hstep, List.filterMap_cons_none rfl, hrest,
    List.map_map]
  rfl

/-! ### What is stored -/

/-- The turns of the loop over the recipients, for one mail after another. The clock is read
in each turn. -/
def deliveries (clock : Nat → Str → Nat) (mails : List (Transaction × Str)) : List Delivery :=
  mails.zipIdx.flatMap (fun x => x.1.1.rcptTo.map (fun recipient_email =>
    ⟨x.1.1.mailFrom, recipient_email, x.1.2, clock x.2 recipient_email⟩))

/-- The delivery of the mail number `i`. -/
def WebMail.delivery (clock : Nat → Str → Nat) (m : WebMail) (i : Nat) : Delivery :=
  ⟨m.sender, before '@' m.toEmail, m.content, clock i (before '@' m.toEmail)⟩

lemma deliveries_eq (clock : Nat → Str → Nat) (ms : List WebMail) :
    deliveries clock (ms.map (fun m => (recordedMail m.sender m.toEmail, m.content))) =
      ms.zipIdx.map (fun x => x.1.delivery clock x.2) := by
  unfold deliveries
  rw [List.zipIdx_map, List.flatMap_map, List.map_eq_flatMap]
  rfl

/-- The user name that the recipient's mails are stored under. -/
def WebMail.user (m : WebMail) : Str := before '@' m.toEmail

lemma WebMail.rowOf_delivery (clock : Nat → Str → Nat) (m : WebMail) (i : Nat) :
    rowOf (m.delivery clock i) = m.user := by
  refine List.takeWhile_eq_self_iff.mpr (fun ch hch => decide_eq_true ?_)
  rintro rfl
  exact not_mem_before '@' m.toEmail hch

/-- The mails of a connection can be stored apart from each other: no commas in the names, and
no two mails from one sender to one user in the same second. -/
structure Storable (b : Base64) (strftime : Nat → Str) (clock : Nat → Str → Nat)
    (ms : List WebMail) : Prop where
  comma : ∀ m ∈ ms, ',' ∉ m.user ∧ ',' ∉ m.sender
  bytes : ∀ m ∈ ms, Bytes m.content
  apart : OwnNames b strftime (ms.zipIdx.map (fun x => x.1.delivery clock x.2))

/-! ### What the page shows -/

/-- No line break in the names and the subject, no line of the message that looks like a
header line, and no text longer than a `string` can be. -/
structure WebMail.Plain (m : WebMail) : Prop where
  sender : Unbroken m.sender
  toEmail : Unbroken m.toEmail
  subject : Unbroken m.subject
  bracket : '>' ∉ m.sender
  message : ∀ l ∈ getlines '\n' (m.message ++ "\r\n\r\n".toList), ¬"From:".toList <+: l ∧
    ¬"Subject:".toList <+: l ∧ ¬"To:".toList <+: l
  size : m.content.length < npos

/-- The lines of the message with `<br>` behind each. -/
def WebMail.body (m : WebMail) : Str :=
  (getlines '\n' (m.message ++ "\r\n\r\n".toList)).flatMap (fun l => l ++ "<br>".toList)

lemma foldlM_addLine_message {lines : List Str} (h : ∀ l ∈ lines, ¬"From:".toList <+: l ∧
    ¬"Subject:".toList <+: l ∧ ¬"To:".toList <+: l) (v : EmailView) :
    lines.foldlM EmailView.addLine v =
      some { v with body := v.body ++ lines.flatMap (fun l => l ++ "<br>".toList) } := by
  induction lines generalizing v with
  | nil => simp
  | cons l lines ih =>
    obtain ⟨hfrom, hsubject, hto⟩ := h l List.mem_cons_self
    have hline : v.addLine l = some { v with body := v.body ++ l ++ "<br>".toList } := by
      unfold EmailView.addLine
      rw [if_neg (mt List.isPrefixOf_iff_prefix.mp hfrom),
        if_neg (mt List.isPrefixOf_iff_prefix.mp hsubject),
        if_neg (mt List.isPrefixOf_iff_prefix.mp hto)]
    rw [List.foldlM_cons, hline, Option.bind_eq_bind, Option.bind_some,
      ih (fun l' hl => h l' (List.mem_cons_of_mem l hl)), List.flatMap_cons]
    simp only [List.append_assoc]

/-- The page shows the sender, the subject with the end of its line, and the message. -/
lemma WebMail.Plain.shown {m : WebMail} (h : m.Plain) :
    emailView m.content = some ⟨m.sender, m.subject ++ ['\r'], m.body⟩ := by
  set fromLine := "From: <".toList ++ m.sender ++ ">".toList ++ ['\r'] with hfromLine
  set toLine := "To: <".toList ++ m.toEmail ++ ">".toList ++ ['\r'] with htoLine
  set subjectLine := "Subject: ".toList ++ m.subject ++ ['\r'] with hsubjectLine
  have hlines : getlines '\n' m.content =
      fromLine :: toLine :: subjectLine :: getlines '\n' (m.message ++ "\r\n\r\n".toList) :=
    getlines_mail h.sender h.toEmail h.subject (m.message ++ "\r\n\r\n".toList)
  have hsize : ∀ l ∈ getlines '\n' m.content, l.length < npos := fun l hl =>
    (infix_of_mem_getlines hl).length_le.trans_lt h.size
  rw [hlines] at hsize
  have hfrom : EmailView.addLine {} fromLine = some { sender := m.sender } := by
    have hsets : SetsSender fromLine := ⟨⟨" <".toList ++ m.sender ++ ">".toList ++ ['\r'], by
      simp [hfromLine]⟩, by simp [hfromLine], by simp [hfromLine]⟩
    rw [addLine_sender hsets (hsize _ List.mem_cons_self), (between_from m.sender).mpr h.bracket]
  have hto : EmailView.addLine { sender := m.sender } toLine = some { sender := m.sender } := by
    rw [htoLine]
    rfl
  have hsubject : EmailView.addLine { sender := m.sender } subjectLine =
      some { sender := m.sender, subject := m.subject ++ ['\r'] } := by
    have hsets : SetsSubject subjectLine := ⟨" ".toList ++ m.subject ++ ['\r'], by
      simp [hsubjectLine]⟩
    have hne : subjectLine ≠ "Subject:".toList := by
      intro heq
      have hlen := congrArg List.length heq
      have hnine : "Subject: ".toList.length = 9 := rfl
      have height : "Subject:".toList.length = 8 := rfl
      simp only [hsubjectLine, List.length_append, hnine, height] at hlen
      omega
    have hdrop : subjectLine.drop 9 = m.subject ++ ['\r'] := by
      rw [hsubjectLine, List.append_assoc]
      exact List.drop_left' rfl
    rw [addLine_subject hsets (hsize _ (by simp)), if_neg hne, hdrop]
  unfold emailView
  rw [hlines, List.foldlM_cons, hfrom, Option.bind_eq_bind, Option.bind_some, List.foldlM_cons, hto,
    Option.bind_eq_bind, Option.bind_some, List.foldlM_cons, hsubject, Option.bind_eq_bind,
    Option.bind_some, foldlM_addLine_message h.message]
  rfl

/-! ### All the way -/

/-- The storage server accepts the delivery of a mail that can be delivered. -/
lemma WebMail.Deliverable.acceptable {m : WebMail} (h : m.Deliverable) {b : Base64}
    (hcomma : ',' ∉ m.user ∧ ',' ∉ m.sender) (hbytes : Bytes m.content) (strftime : Nat → Str)
    (clock : Nat → Str → Nat) (i : Nat) : Acceptable b strftime (m.delivery clock i) where
  free := ⟨(rowOf_delivery clock m i).symm ▸ hcomma.1, hcomma.2⟩
  line := by
    have hsender : NoCrlf m.sender := by
      refine List.IsChain.infix h.mailLine.line ?_
      exact ⟨"MAIL FROM:<".toList, ">".toList, rfl⟩
    have htoEmail : NoCrlf m.toEmail := by
      refine List.IsChain.infix h.rcptLine.line ?_
      exact ⟨"RCPT TO:<".toList, ">".toList, rfl⟩
    have huser : NoCrlf m.user := List.IsChain.infix htoEmail (List.takeWhile_prefix _).isInfix
    have hpath : emailColumn b strftime (m.delivery clock i) =
        "/emails".toList ++ '/' :: (m.sender ++
          '/' :: b.encode (strftime (m.delivery clock i).rawtime)) := by
      unfold emailColumn emailsPath delivery
      simp
    rw [rowOf_delivery, hpath]
    refine huser.comma (NoCrlf.sep (by decide) (by decide) (by decide) ?_)
    exact NoCrlf.sep (by decide) (by decide) hsender (noCrlf_encode b _)
  someContent := by
    intro hnil
    apply m.content_ne_nil
    have hempty : b.decode [] = [] := by
      have hdecode := b.decode_encode [] (by simp)
      rwa [b.encode_nil] at hdecode
    have hdecode : b.decode (b.encode m.content) = m.content := b.decode_encode _ hbytes
    rw [← hdecode, ← hempty]
    exact congrArg b.decode hnil

/-- Mails that are written on the web one after another, whose texts the mail server receives
each on its own, are all accepted by the storage server and found in the rows of their
recipients: each in its own cell, with a value that decodes to the mail. For a mail without
line breaks in the names and header lines in the message, the page made from it shows the
sender, the subject and the message. -/
theorem web_mails_reach_mailboxes {σ τ : Type} {env : (i : Action) → σ → Option (i.Answer × σ)}
    {ms : List WebMail} (hms : ∀ m ∈ ms, m.Deliverable) {e e' : σ}
    {log : Conversation Action Action.Answer}
    (hsend : (WebMail.sendAll ms).run (logged env) (e, []) = some ((), (e', log)))
    {pieces : List MailPiece} (hpieces : ReceivedAlone (heloTester :: mailTexts log) pieces)
    {b : Base64} {strftime : Nat → Str} {clock : Nat → Str → Nat}
    (hstorable : Storable b strftime clock ms) {T : TextService τ} {d : τ} (hd : T.valid d) :
    ∃ d', (sendAll b strftime (deliveries clock
        ((handleConnection [] {} pieces).filterMap SmtpEvent.mail?))).run
          (accepting Answered T.answer) d = some ((), d') ∧
      ∀ m i, (m, i) ∈ ms.zipIdx →
        ∃ v, (T.table d').get m.user (emailColumn b strftime (m.delivery clock i)) = some v ∧
          b.decode v = m.content ∧
          (m.Plain → emailView (b.decode v) = some ⟨m.sender, m.subject ++ ['\r'], m.body⟩) := by
  obtain ⟨l, hl, hends⟩ := ends_of_logged hsend
  have hlog : mailTexts log = ms.flatMap WebMail.texts :=
    (congrArg mailTexts hl).trans (WebMail.sendAll_texts hends)
  rw [web_mails_received hms (hlog ▸ hpieces), deliveries_eq]
  set ds := ms.zipIdx.map (fun x => x.1.delivery clock x.2) with hds
  have haccepted : ∀ d ∈ ds, Acceptable b strftime d := by
    intro d hd
    obtain ⟨x, hx, rfl⟩ := List.mem_map.mp hd
    have hmem : x.1 ∈ ms := List.fst_mem_of_mem_zipIdx hx
    exact (hms x.1 hmem).acceptable (hstorable.comma x.1 hmem) (hstorable.bytes x.1 hmem) _ _ _
  obtain ⟨d', hstore⟩ := sendAll_accepted haccepted hd
  have hnodup : ((ds.map (emailCell b strftime)).map Prod.fst).Nodup := by
    rw [List.map_map, List.Nodup, List.pairwise_map]
    refine hstorable.apart.imp (fun {x y} hxy heq => ?_)
    obtain ⟨hrow, hcolumn⟩ := Prod.mk.inj heq
    exact hxy hrow (emailColumn_eq_iff.mp hcolumn)
  refine ⟨d', hstore, fun m i hm => ?_⟩
  have hcell : emailCell b strftime (m.delivery clock i) ∈ ds.map (emailCell b strftime) :=
    List.mem_map_of_mem (List.mem_map_of_mem (f := fun x => x.1.delivery clock x.2) hm)
  have hget := NestedMap.get_foldl_set_of_mem hnodup hcell (T.table d)
  rw [← table_of_sendAll hd (fun x hx => (haccepted x hx).free) hstore] at hget
  have hdecode : b.decode (b.encode m.content) = m.content :=
    b.decode_encode _ (hstorable.bytes m (List.fst_mem_of_mem_zipIdx hm))
  refine ⟨b.encode m.content, ?_, hdecode, fun hplain => ?_⟩
  · rw [← WebMail.rowOf_delivery clock m i]
    exact hget
  · rw [hdecode]
    exact hplain.shown

/-- A mail that Anna writes to Bob. -/
def annasMail (message : Str) : WebMail where
  username := "anna".toList
  toEmail := "bob@localhost".toList
  subject := "hi".toList
  message := message

def annasTwo : List WebMail := [annasMail "hello".toList, annasMail "hello again".toList]

lemma annasMail_deliverable {message : Str}
    (h : contains "\r\n.\r\n".toList (annasMail message).content = false) :
    (annasMail message).Deliverable where
  taken := (by decide : '@' ∈ "anna@localhost".toList ∧
    (before '@' "anna@localhost".toList).length ≠ 1 ∧ after '@' "anna@localhost".toList ≠ [])
  isLocal := (by decide : isLocal "bob@localhost".toList = true)
  brackets := (by decide : '>' ∉ "anna@localhost".toList ∧ '>' ∉ "bob@localhost".toList)
  mailLine := (by decide : CommandLine "MAIL FROM:<anna@localhost>".toList)
  rcptLine := (by decide : CommandLine "RCPT TO:<bob@localhost>".toList)
  dot := h

/-- The first text in two pieces, and each text of the mails in one. -/
def annasTexts : List Str :=
  ["HELO te".toList, "ster\r\n".toList] ++ annasTwo.flatMap WebMail.texts

lemma annasTexts_fit : ∀ bytes ∈ annasTexts, bytes ≠ [] ∧ bytes.length ≤ 1024 := by
  decide

def annasPieces : List MailPiece := annasTexts.pmap mailPiece annasTexts_fit

/-- The second mail comes a second later. -/
def annasClock (i : Nat) (_ : Str) : Nat := i

theorem web_mails_reach_mailboxes_annas : ∃ d',
    (sendAll base64 earlyTime (deliveries annasClock
      ((handleConnection [] {} annasPieces).filterMap SmtpEvent.mail?))).run
        (accepting Answered (aloneTextService 0 (group1Address 2001)).answer) (aloneWorld ∅) =
      some ((), d') ∧
    ∀ m i, (m, i) ∈ annasTwo.zipIdx →
      ∃ v, ((aloneTextService 0 (group1Address 2001)).table d').get m.user
          (emailColumn base64 earlyTime (m.delivery annasClock i)) = some v ∧
        base64.decode v = m.content ∧
        (m.Plain → emailView (base64.decode v) =
          some ⟨m.sender, m.subject ++ ['\r'], m.body⟩) := by
  have hms : ∀ m ∈ annasTwo, m.Deliverable := by
    intro m hm
    rcases List.mem_pair.mp hm with rfl | rfl
    · exact annasMail_deliverable (by decide)
    · exact annasMail_deliverable (by decide)
  have hpieces : ReceivedAlone (heloTester :: annasTwo.flatMap WebMail.texts) annasPieces := by
    refine ⟨annasPieces.take 2 :: (annasPieces.drop 2).map (fun piece => [piece]), ?_, rfl⟩
    decide
  have hstorable : Storable base64 earlyTime annasClock annasTwo := by
    constructor
    · decide
    · decide
    · refine List.pairwise_pair.mpr (fun _ => ?_)
      decide
  have hsend : (WebMail.sendAll annasTwo).run
      (logged (aloneTextService 0 (group1Address 2001)).answer) (aloneWorld ∅, []) =
      some ((), (aloneWorld ∅,
        (annasTwo.flatMap WebMail.texts).map (fun text => ⟨.mail text, ()⟩))) := rfl
  exact web_mails_reach_mailboxes hms hsend hpieces hstorable
    (T := aloneTextService 0 (group1Address 2001)) (aloneWorld_alone ∅)

end CloudStorage.Proofs
