import CloudStorage.Proofs.CommandText
import CloudStorage.Proofs.MailBody
import CloudStorage.Proofs.Substrings

/-!
# Mails that are written on the web

The web server sends a mail as three header lines with the message behind them, and the mail
server stores what it reads up to the end-of-data line. This file shows that the header lines
are stored as they were sent, and what a forwarded mail makes of them.
-/

namespace CloudStorage.Proofs
open DelimitedText

/-! ### What is sent -/

/-- The address of the sender: the domain is the one of the recipient. -/
def fromEmail (username toEmail : Str) : Str := username ++ "@".toList ++ after '@' toEmail

def headerLines (username toEmail subject : Str) : List Str :=
  ["From: <".toList ++ fromEmail username toEmail ++ ">".toList,
    "To: <".toList ++ toEmail ++ ">".toList, "Subject: ".toList ++ subject]

def withCrlf (lines : List Str) : Str := lines.flatMap (fun l => l ++ "\r\n".toList)

/-- The header lines, the message and the line ends behind it. -/
def mailText (username toEmail subject message : Str) : Str :=
  withCrlf (headerLines username toEmail subject) ++ (message ++ "\r\n\r\n".toList)

lemma mailMessage_eq (username toEmail subject message : Str) :
    mailMessage username toEmail subject message = (do
      sendMail ("MAIL FROM:<".toList ++ fromEmail username toEmail ++ ">\r\n".toList)
      sendMail ("RCPT TO:<".toList ++ toEmail ++ ">\r\n".toList)
      sendMail "DATA\r\n".toList
      sendMail (mailText username toEmail subject message ++ endOfData)) := by
  have htext : mailText username toEmail subject message ++ endOfData =
      "From: <".toList ++ (username ++ "@".toList ++ after '@' toEmail) ++ ">\r\nTo: <".toList ++
        toEmail ++ ">\r\nSubject: ".toList ++ subject ++ "\r\n".toList ++ message ++
          "\r\n\r\n.\r\n".toList := by
    unfold mailText withCrlf headerLines endOfData fromEmail
    simp
  rw [htext]
  rfl

/-- The content of such a mail as the mail server reads it, in whatever pieces it arrives. -/
def StoredContent (username toEmail subject message content : Str) : Prop :=
  ∃ pieces, bytesOf pieces = mailText username toEmail subject message ++ endOfData ∧
    content = (readContent [] pieces).1

/-! ### What is stored -/

/-- A text without line breaks. -/
def Unbroken (s : Str) : Prop := '\r' ∉ s ∧ '\n' ∉ s

instance : DecidablePred Unbroken := fun _ => inferInstanceAs (Decidable (_ ∧ _))

/-- Lines that are no end of data stand in the content before any end of data. -/
lemma withCrlf_prefix {lines : List Str}
    (hlines : ∀ l ∈ lines, '\n' ∉ l ∧ l ≠ [] ∧ l.head? ≠ some '.') {content rest : Str}
    (hend : content = [] ∨ content.getLast? = some '\n')
    (h : content ++ endOfData <+: withCrlf lines ++ rest) : withCrlf lines <+: content := by
  induction lines generalizing content with
  | nil => exact List.nil_prefix
  | cons l lines ih =>
    obtain ⟨hbreak, hne, hdot⟩ := hlines l List.mem_cons_self
    have hsplit : withCrlf (l :: lines) = l ++ "\r\n".toList ++ withCrlf lines := List.flatMap_cons
    rw [hsplit] at h ⊢
    rcases hend with rfl | hlast
    · -- the line would have to begin with the dot
      obtain ⟨ch, l, rfl⟩ := List.exists_cons_of_ne_nil hne
      obtain ⟨t, ht⟩ := h
      have hhead : '.' = ch := (List.cons.inj ht).1
      exact absurd (congrArg some hhead.symm) hdot
    · have hline : l ++ "\r\n".toList <+: content := by
        have hmem : '\n' ∈ content := List.mem_of_getLast? hlast
        obtain ⟨s, c, rfl, hs⟩ := List.eq_append_cons_of_mem hmem
        obtain ⟨t, ht⟩ := h
        have hleft : before '\n' (s ++ '\n' :: c ++ endOfData ++ t) = s := by
          rw [List.append_assoc, List.append_assoc]
          exact before_append hs _
        have hright : before '\n' (l ++ "\r\n".toList ++ withCrlf lines ++ rest) = l ++ ['\r'] := by
          have hreturn : '\n' ∉ l ++ ['\r'] := by simp [hbreak]
          rw [show l ++ "\r\n".toList ++ withCrlf lines ++ rest =
            (l ++ ['\r']) ++ '\n' :: (withCrlf lines ++ rest) by simp]
          exact before_append hreturn _
        have hs : s = l ++ ['\r'] := by rw [← hleft, ht, hright]
        exact ⟨c, by rw [hs]; simp⟩
      obtain ⟨c, rfl⟩ := hline
      have hrest : c ++ endOfData <+: withCrlf lines ++ rest := by
        rw [List.append_assoc (l ++ _), List.append_assoc (l ++ _)] at h
        exact (List.prefix_append_right_inj _).mp h
      refine (List.prefix_append_right_inj _).mpr
        (ih (fun l' hl => hlines l' (List.mem_cons_of_mem l hl)) ?_ hrest)
      by_cases hnil : c = []
      · exact Or.inl hnil
      · right
        rwa [List.getLast?_append_of_ne_nil _ hnil] at hlast

/-- The header lines are stored as they were sent, with as much of the rest as was read. -/
theorem stored_content {username toEmail subject message content : Str}
    (hfrom : Unbroken (fromEmail username toEmail)) (hto : Unbroken toEmail)
    (hsubject : Unbroken subject) (h : StoredContent username toEmail subject message content) :
    ∃ rest, content = withCrlf (headerLines username toEmail subject) ++ rest ∧
      rest <+: message ++ "\r\n\r\n".toList := by
  obtain ⟨pieces, hbytes, rfl⟩ := h
  have hlines : ∀ l ∈ headerLines username toEmail subject,
      '\n' ∉ l ∧ l ≠ [] ∧ l.head? ≠ some '.' := by
    intro l hl
    simp only [headerLines, List.mem_cons, List.not_mem_nil, or_false] at hl
    rcases hl with rfl | rfl | rfl
    · exact ⟨by simp [hfrom.2], by simp, by simp⟩
    · exact ⟨by simp [hto.2], by simp, by simp⟩
    · exact ⟨by simp [hsubject.2], by simp, by simp⟩
  have hdata : Terminated (bytesOf pieces) := by
    rw [hbytes, terminated_iff]
    exact ⟨withCrlf (headerLines username toEmail subject) ++ message ++ "\r\n".toList, by
      unfold mailText
      simp⟩
  have hpieces : pieces ≠ [] := by
    rintro rfl
    exact absurd hdata (by decide)
  rcases readContent_cases [] pieces with ⟨read, hread, hend, htext⟩ | ⟨-, hopen⟩
  · rw [List.nil_append] at hend htext
    rw [htext, terminated_iff] at hend
    set content := (readContent [] pieces).1
    -- what was read is a beginning of what was sent
    have hsent :
        content ++ endOfData <+: mailText username toEmail subject message ++ endOfData := by
      rw [← htext, ← hbytes, hread, bytesOf_append]
      exact List.prefix_append _ _
    have hshort : content <+: mailText username toEmail subject message := by
      apply List.prefix_of_prefix_length_le ((List.prefix_append _ _).trans hsent)
        (List.prefix_append _ _)
      have hlen := hsent.length_le
      rw [List.length_append, List.length_append] at hlen
      omega
    have hlast : content.getLast? = some '\n' := by
      obtain ⟨s, hs⟩ := hend
      rw [← hs]
      simp
    obtain ⟨rest, hrest⟩ : withCrlf (headerLines username toEmail subject) <+: content := by
      apply withCrlf_prefix hlines (Or.inr hlast)
      rw [mailText, List.append_assoc] at hsent
      exact hsent
    refine ⟨rest, hrest.symm, ?_⟩
    rw [← hrest, mailText] at hshort
    exact (List.prefix_append_right_inj _).mp hshort
  · exact absurd (show Terminated ([] ++ bytesOf pieces) from hdata) (hopen hpieces)

/-! ### What is forwarded -/

/-- The marker is found in the third line. -/
lemma findStr_subject {username toEmail : Str}
    (hfrom : contains "Subject:".toList (fromEmail username toEmail) = false)
    (hto : contains "Subject:".toList toEmail = false) (subject rest : Str) :
    ∃ pos, findStr "Subject:".toList
        (withCrlf (headerLines username toEmail subject) ++ rest) = some pos ∧
      (withCrlf (headerLines username toEmail subject) ++ rest).drop (pos + 8) =
        ' ' :: (subject ++ '\r' :: '\n' :: rest) := by
  set front := "From: <".toList ++ fromEmail username toEmail ++ ">\r\nTo: <".toList ++ toEmail ++
    ">\r".toList with hfront
  have hsplit : withCrlf (headerLines username toEmail subject) ++ rest =
      front ++ '\n' :: ("Subject:".toList ++ ' ' :: (subject ++ '\r' :: '\n' :: rest)) := by
    unfold withCrlf headerLines
    simp [hfront]
  have hno : contains "Subject:".toList front = false := by
    have hbrackets : front = "From: ".toList ++ '<' :: (fromEmail username toEmail ++ '>' ::
        ("\r\nTo: ".toList ++ '<' :: (toEmail ++ '>' :: "\r".toList))) := by simp [hfront]
    rw [hbrackets, contains_sep (by decide) (by decide), contains_sep (by decide) (by decide),
      contains_sep (by decide) (by decide), contains_sep (by decide) (by decide), hfrom, hto]
    decide
  refine ⟨front.length + 1, ?_, ?_⟩
  · rw [hsplit, findStr_sep (by decide) (by decide) hno, findStr_start (by decide)]
    simp
  · have hmarker : front.length + 1 + 8 = (front ++ '\n' :: "Subject:".toList).length := by simp
    have hwhole : front ++ '\n' :: ("Subject:".toList ++ ' ' :: (subject ++ '\r' :: '\n' :: rest)) =
        (front ++ '\n' :: "Subject:".toList) ++ ' ' :: (subject ++ '\r' :: '\n' :: rest) := by simp
    rw [hsplit, hmarker, hwhole, List.drop_left]

/-- The subject is read up to the end of its line, of which only blanks are cut off. -/
theorem extract_stored {username toEmail subject : Str}
    (hfrom : contains "Subject:".toList (fromEmail username toEmail) = false)
    (hto : contains "Subject:".toList toEmail = false) (hline : Unbroken subject)
    (hblank : subject.head? ≠ some ' ') (rest : Str) :
    extractSubjectAndMessage (withCrlf (headerLines username toEmail subject) ++ rest) =
      some (subject ++ ['\r'], rest) := by
  obtain ⟨pos, hpos, hdrop⟩ := findStr_subject hfrom hto subject rest
  have hmarker : "Subject:".length = 8 := rfl
  have hbreak : '\n' ∉ ' ' :: (subject ++ ['\r']) := by simp [hline.2]
  have hwhole : ' ' :: (subject ++ '\r' :: '\n' :: rest) =
      ' ' :: (subject ++ ['\r']) ++ '\n' :: rest := by simp
  have hfirst : (' ' :: (subject ++ ['\r'])).dropWhile (· = ' ') = subject ++ ['\r'] := by
    rw [List.dropWhile_cons_of_pos (by decide)]
    cases subject with
    | nil => rfl
    | cons ch subject =>
      have hch : ¬ch = ' ' := fun h => hblank (by rw [h]; rfl)
      rw [List.cons_append, List.dropWhile_cons_of_neg (by simpa using hch)]
  have hlast : ((subject ++ ['\r']).reverse.dropWhile (· = ' ')).reverse = subject ++ ['\r'] := by
    rw [List.reverse_append, List.reverse_singleton, List.singleton_append,
      List.dropWhile_cons_of_neg (by decide), List.reverse_cons, List.reverse_reverse]
  unfold extractSubjectAndMessage
  rw [hpos]
  dsimp only
  rw [hmarker, hdrop, hwhole, if_pos (by simp), before_append hbreak, after_append hbreak, hfirst,
    if_neg (by simp), hlast]

/-- The subject that is forwarded is never the one that was sent. -/
theorem forwarded_subject_changed {username toEmail subject message content : Str}
    (hfrom : Unbroken (fromEmail username toEmail)) (hto : Unbroken toEmail)
    (hmarker : contains "Subject:".toList (fromEmail username toEmail) = false)
    (hmarker' : contains "Subject:".toList toEmail = false) (hsubject : Unbroken subject)
    (hblank : subject.head? ≠ some ' ')
    (h : StoredContent username toEmail subject message content) :
    extractSubjectAndMessage content ≠ some (subject, message ++ "\r\n\r\n".toList) := by
  obtain ⟨rest, rfl, -⟩ := stored_content hfrom hto hsubject h
  rw [extract_stored hmarker hmarker' hsubject hblank]
  intro heq
  have hlen := congrArg List.length (Prod.mk.inj (Option.some.inj heq)).1
  rw [List.length_append, List.length_singleton] at hlen
  omega

/-- The greeting that Anna sends to Bob. -/
def greeting : Str := mailText "anna".toList "bob@localhost".toList "hi".toList "hello".toList

lemma greeting_stored :
    StoredContent "anna".toList "bob@localhost".toList "hi".toList "hello".toList greeting :=
  ⟨[mailPiece (greeting ++ endOfData) (by decide)], rfl, by decide⟩

theorem forwarded_greeting_changed :
    extractSubjectAndMessage greeting ≠ some ("hi".toList, "hello".toList ++ "\r\n\r\n".toList) :=
  forwarded_subject_changed (by decide) (by decide) (by decide) (by decide) (by decide) (by decide)
    greeting_stored

/-- The carriage return of the header line stays at the subject. -/
theorem greeting_not_kept : ¬∀ username toEmail subject message content : Str,
    Unbroken (fromEmail username toEmail) → Unbroken toEmail →
    contains "Subject:".toList (fromEmail username toEmail) = false →
    contains "Subject:".toList toEmail = false → Unbroken subject →
    subject.head? ≠ some ' ' → subject.getLast? ≠ some ' ' →
    StoredContent username toEmail subject message content →
    extractSubjectAndMessage content = some (subject, message ++ "\r\n\r\n".toList) := by
  intro h
  have hkept := h "anna".toList "bob@localhost".toList "hi".toList "hello".toList greeting
    (by decide) (by decide) (by decide) (by decide) (by decide) (by decide) (by decide)
    greeting_stored
  exact absurd hkept (by decide)

end CloudStorage.Proofs
