import CloudStorage.Pages
import CloudStorage.Proofs.StoredMail

/-!
# The page of a mail

The page of a mail takes sender and subject from the last lines that look like header lines,
those of the message included. This file proves which messages leave the page as the header
lines of the mail say.
-/

namespace CloudStorage.Proofs
open DelimitedText Positions

/-! ### One line -/

/-- A line that sets the sender. -/
def SetsSender (l : Str) : Prop := "From:".toList <+: l ∧ '<' ∈ l ∧ '>' ∈ l

instance : DecidablePred SetsSender := fun _ => inferInstanceAs (Decidable (_ ∧ _))

/-- A line that sets the subject. -/
def SetsSubject (l : Str) : Prop := "Subject:".toList <+: l

instance : DecidablePred SetsSubject := fun _ => inferInstanceAs (Decidable (_ <+: _))

lemma not_from_of_subject {l : Str} (h : SetsSubject l) : ¬"From:".toList <+: l := by
  obtain ⟨t, rfl⟩ := h
  rintro ⟨u, hu⟩
  exact absurd (List.cons.inj hu).1 (by decide)

/-- What stands between the brackets is cut out; where they stand the other way round, the
length wraps and the rest of the line is taken. -/
lemma slice_between {l : Str} {start finish : Nat} (hsize : l.length < npos)
    (hstart : find '<' 0 l = some start) (hfinish : find '>' 0 l = some finish) :
    slice (add start 1) (sub (sub finish start) 1) l = some (between '<' '>' l) := by
  have hlast := npos_add_one
  have hpos : add start 1 = posAfter '<' l := by
    rw [← add_position_find hsize, hstart, position_some]
  obtain ⟨hopen, hstart'⟩ := find_zero.mp hstart
  obtain ⟨hclose, hfinish'⟩ := find_zero.mp hfinish
  have hlt := find_lt hstart
  have hlt' := find_lt hfinish
  have hne : start ≠ finish := by
    intro heq
    rw [hstart', hfinish', List.idxOf_inj hopen] at heq
    exact absurd heq (by decide)
  rw [add_of_lt (by omega)] at hpos
  have hafter : after '<' l = l.drop (start + 1) := by
    rw [after, hpos]
  unfold between
  rw [hfinish, add_of_lt (by omega)]
  dsimp only
  rw [← hpos, hafter]
  by_cases horder : finish < start + 1
  · rw [if_pos horder, slice_rest (by omega)]
    unfold sub
    omega
  · have hinner : sub finish start = finish - start := sub_of_le (by omega) (by omega)
    rw [if_neg horder, hinner, sub_of_le (by omega) (by omega), slice_of_le (by omega)]
    congr 2

lemma addLine_sender {l : Str} (hl : SetsSender l) (hsize : l.length < npos) (v : EmailView) :
    v.addLine l = some { v with sender := between '<' '>' l } := by
  obtain ⟨hfrom, hopen, hclose⟩ := hl
  have hstart := find_zero.mpr ⟨hopen, rfl⟩
  have hfinish := find_zero.mpr ⟨hclose, rfl⟩
  unfold EmailView.addLine
  rw [if_pos (List.isPrefixOf_iff_prefix.mpr hfrom), hstart, hfinish]
  dsimp only
  rw [slice_between hsize hstart hfinish]
  rfl

lemma addLine_subject {l : Str} (hl : SetsSubject l) (hsize : l.length < npos) (v : EmailView) :
    v.addLine l =
      if l = "Subject:".toList then none else some { v with subject := l.drop 9 } := by
  unfold EmailView.addLine
  rw [if_neg (fun h => not_from_of_subject hl (List.isPrefixOf_iff_prefix.mp h)),
    if_pos (List.isPrefixOf_iff_prefix.mpr hl)]
  by_cases hshort : l = "Subject:".toList
  · rw [if_pos hshort, hshort]
    rfl
  · rw [if_neg hshort, slice_rest]
    · rfl
    · obtain ⟨t, rfl⟩ := hl
      have hne : t ≠ [] := by
        rintro rfl
        exact hshort (List.append_nil _)
      have hpos := List.length_pos_iff.mpr hne
      rw [List.length_append]
      exact Nat.add_le_add_left hpos 8
    · omega

/-- Any other line leaves sender and subject as they are. -/
lemma addLine_other {l : Str} (hsender : ¬SetsSender l) (hsubject : ¬SetsSubject l)
    (v : EmailView) :
    ∃ v', v.addLine l = some v' ∧ v'.sender = v.sender ∧ v'.subject = v.subject := by
  unfold EmailView.addLine
  by_cases hfrom : "From:".toList.isPrefixOf l
  · rw [if_pos hfrom]
    have hbrackets : find '<' 0 l = none ∨ find '>' 0 l = none := by
      by_contra hboth
      rw [not_or] at hboth
      refine hsender ⟨List.isPrefixOf_iff_prefix.mp hfrom, ?_, ?_⟩
      · by_contra hno
        exact hboth.1 (find_eq_none hno 0)
      · by_contra hno
        exact hboth.2 (find_eq_none hno 0)
    refine ⟨v, ?_, rfl, rfl⟩
    rcases hbrackets with h | h
    · rw [h]
    · rw [h]
      cases find '<' 0 l <;> rfl
  · rw [if_neg hfrom, if_neg (fun h => hsubject (List.isPrefixOf_iff_prefix.mp h))]
    split
    · exact ⟨v, rfl, rfl, rfl⟩
    · exact ⟨_, rfl, rfl, rfl⟩

/-! ### All lines -/

/-- What the last line with `p` says. -/
def lastSaid (p : Str → Prop) [DecidablePred p] (f : Str → Str) (said : Str) (lines : List Str) :
    Str :=
  ((lines.filter p).getLast?.map f).getD said

section

variable {p : Str → Prop} [DecidablePred p] {f : Str → Str} {said : Str}

lemma lastSaid_cons (l : Str) (lines : List Str) :
    lastSaid p f said (l :: lines) = lastSaid p f (if p l then f l else said) lines := by
  unfold lastSaid
  by_cases hl : p l
  · rw [List.filter_cons_of_pos (by simpa using hl), List.getLast?_cons, if_pos hl]
    cases (lines.filter p).getLast? <;> rfl
  · rw [List.filter_cons_of_neg (by simpa using hl), if_neg hl]

lemma lastSaid_append (xs ys : List Str) :
    lastSaid p f said (xs ++ ys) = lastSaid p f (lastSaid p f said xs) ys := by
  induction xs generalizing said with
  | nil => rfl
  | cons l xs ih => rw [List.cons_append, lastSaid_cons, lastSaid_cons, ih]

/-- It is what the last such line says, or what was said before. -/
lemma lastSaid_iff {q : Str → Prop} {lines : List Str} :
    q (lastSaid p f said lines) ↔
      (∀ l, (lines.filter p).getLast? = some l → q (f l)) ∧ (lines.filter p = [] → q said) := by
  unfold lastSaid
  cases hlast : (lines.filter p).getLast? with
  | none => simp [List.getLast?_eq_none_iff.mp hlast]
  | some l =>
    have hne : lines.filter p ≠ [] := by
      intro hnil
      rw [hnil] at hlast
      cases hlast
    simp [hne]

end

abbrev lastSender : Str → List Str → Str := lastSaid SetsSender (between '<' '>')

abbrev lastSubject : Str → List Str → Str := lastSaid SetsSubject (List.drop 9)

/-- The page throws at a line that is `Subject:` and nothing more. Otherwise it has sender and
subject from the last lines that set them. -/
lemma foldlM_addLine {lines : List Str} (hsize : ∀ l ∈ lines, l.length < npos) (v : EmailView) :
    if "Subject:".toList ∈ lines then lines.foldlM EmailView.addLine v = none
    else ∃ v', lines.foldlM EmailView.addLine v = some v' ∧
      v'.sender = lastSender v.sender lines ∧ v'.subject = lastSubject v.subject lines := by
  induction lines generalizing v with
  | nil => exact ⟨v, rfl, rfl, rfl⟩
  | cons l lines ih =>
    have hrest := ih (fun l' hl => hsize l' (List.mem_cons_of_mem l hl))
    have hlength := hsize l List.mem_cons_self
    simp only [List.foldlM_cons, lastSaid_cons, List.mem_cons]
    by_cases hsender : SetsSender l
    · have hsubject : ¬SetsSubject l := fun h => not_from_of_subject h hsender.1
      have hne : "Subject:".toList ≠ l := by
        rintro rfl
        exact hsubject List.prefix_rfl
      have hstep := hrest { v with sender := between '<' '>' l }
      rw [addLine_sender hsender hlength]
      simpa only [Option.bind_eq_bind, Option.bind_some, hne, false_or, if_pos hsender,
        if_neg hsubject] using hstep
    by_cases hsubject : SetsSubject l
    · rw [addLine_subject hsubject hlength]
      by_cases hshort : l = "Subject:".toList
      · rw [if_pos hshort, if_pos (Or.inl hshort.symm)]
        rfl
      · have hstep := hrest { v with subject := l.drop 9 }
        rw [if_neg hshort]
        simpa only [Option.bind_eq_bind, Option.bind_some, Ne.symm hshort, false_or,
          if_neg hsender, if_pos hsubject] using hstep
    · have hne : "Subject:".toList ≠ l := by
        rintro rfl
        exact hsubject List.prefix_rfl
      obtain ⟨v', hv', hs, hs'⟩ := addLine_other hsender hsubject v
      have hstep := hrest v'
      rw [hs, hs'] at hstep
      rw [hv']
      simpa only [Option.bind_eq_bind, Option.bind_some, hne, false_or, if_neg hsender,
        if_neg hsubject] using hstep

/-! ### A mail that was sent from the web -/

/-- The page shows these, the subject with or without the end of its line. -/
def ShownAs (sender subject : Str) (v : EmailView) : Prop :=
  v.sender = sender ∧ (v.subject = subject ∨ v.subject = subject ++ ['\r'])

/-- The message has no line that is `Subject:` and nothing more, and its last lines that set
the subject and the sender, if it has any, set those of the mail. Without such a line the
sender is shown up to a `>`. -/
structure Harmless (sender subject : Str) (lines : List Str) : Prop where
  readable : "Subject:".toList ∉ lines
  subjects : ∀ l, (lines.filter SetsSubject).getLast? = some l →
    l.drop 9 = subject ∨ l.drop 9 = subject ++ ['\r']
  senders : ∀ l, (lines.filter SetsSender).getLast? = some l → between '<' '>' l = sender
  brackets : lines.filter SetsSender = [] → '>' ∉ sender

/-- The lines of the whole mail. -/
lemma getlines_mail {username toEmail subject : Str}
    (hfrom : Unbroken (fromEmail username toEmail)) (hto : Unbroken toEmail)
    (hsubject : Unbroken subject) (rest : Str) :
    getlines '\n' (withCrlf (headerLines username toEmail subject) ++ rest) =
      (headerLines username toEmail subject).map (· ++ ['\r']) ++ getlines '\n' rest := by
  have hterminated : withCrlf (headerLines username toEmail subject) =
      terminated '\n' ((headerLines username toEmail subject).map (· ++ ['\r'])) := by
    unfold withCrlf terminated
    rw [List.flatMap_map]
    simp
  rw [hterminated, getlines_terminated_append]
  intro l hl
  simp only [headerLines, List.map_cons, List.map_nil, List.mem_cons, List.not_mem_nil,
    or_false] at hl
  rcases hl with rfl | rfl | rfl
  · simp [hfrom.2]
  · simp [hto.2]
  · simp [hsubject.2]

lemma between_from (sender : Str) :
    between '<' '>' ("From: <".toList ++ sender ++ ">".toList ++ ['\r']) = sender ↔
      '>' ∉ sender := by
  have hline : ∀ x c : Str, '>' ∉ x →
      between '<' '>' ("From: ".toList ++ '<' :: (x ++ '>' :: c)) = x := fun x c hx =>
    between_append (by decide) (by decide) (by decide) hx c
  by_cases hmem : '>' ∈ sender
  · obtain ⟨x, y, rfl, hx⟩ := List.eq_append_cons_of_mem hmem
    have hshort := hline x (y ++ ">\r".toList) hx
    have hsplit : "From: <".toList ++ (x ++ '>' :: y) ++ ">".toList ++ ['\r'] =
        "From: ".toList ++ '<' :: (x ++ '>' :: (y ++ ">\r".toList)) := by simp
    rw [hsplit, hshort]
    refine iff_of_false (fun h => ?_) (not_not.mpr hmem)
    have hlen := congrArg List.length h
    rw [List.length_append, List.length_cons] at hlen
    omega
  · have hsplit : "From: <".toList ++ sender ++ ">".toList ++ ['\r'] =
        "From: ".toList ++ '<' :: (sender ++ '>' :: "\r".toList) := by simp
    rw [hsplit, hline sender _ hmem]
    exact iff_of_true rfl hmem

/-- What the header lines say. -/
lemma lastSaid_header (username toEmail subject : Str) :
    lastSender [] ((headerLines username toEmail subject).map (· ++ ['\r'])) =
        between '<' '>' ("From: <".toList ++ fromEmail username toEmail ++ ">".toList ++ ['\r']) ∧
      lastSubject [] ((headerLines username toEmail subject).map (· ++ ['\r'])) =
        subject ++ ['\r'] := by
  have hto : ¬SetsSender ("To: <".toList ++ toEmail ++ ">".toList ++ ['\r']) ∧
      ¬SetsSubject ("To: <".toList ++ toEmail ++ ">".toList ++ ['\r']) := by
    constructor
    · rintro ⟨⟨t, ht⟩, -⟩
      exact absurd (List.cons.inj ht).1 (by decide)
    · rintro ⟨t, ht⟩
      exact absurd (List.cons.inj ht).1 (by decide)
  have hfrom : SetsSender
      ("From: <".toList ++ fromEmail username toEmail ++ ">".toList ++ ['\r']) := by
    refine ⟨?_, by simp, by simp⟩
    simp only [List.append_assoc]
    exact ⟨" <".toList ++ _, rfl⟩
  have hsubject : SetsSubject ("Subject: ".toList ++ subject ++ ['\r']) := by
    rw [List.append_assoc]
    exact ⟨" ".toList ++ _, rfl⟩
  have hfrom' : ¬SetsSubject
      ("From: <".toList ++ fromEmail username toEmail ++ ">".toList ++ ['\r']) := fun h =>
    not_from_of_subject h hfrom.1
  have hsubject' : ¬SetsSender ("Subject: ".toList ++ subject ++ ['\r']) := fun h =>
    not_from_of_subject hsubject h.1
  simp only [headerLines, List.map_cons, List.map_nil, lastSaid_cons, if_pos hfrom, if_neg hto.1,
    if_neg hsubject', if_neg hfrom', if_neg hto.2, if_pos hsubject]
  exact ⟨rfl, rfl⟩

/-- Exactly with a harmless message the page shows sender and subject as the header lines say. -/
theorem email_page_iff {username toEmail subject message content : Str}
    (hfrom : Unbroken (fromEmail username toEmail)) (hto : Unbroken toEmail)
    (hsubject : Unbroken subject) (h : StoredContent username toEmail subject message content)
    (hsize : content.length < npos) :
    ∃ rest, content = withCrlf (headerLines username toEmail subject) ++ rest ∧
      rest <+: message ++ "\r\n\r\n".toList ∧
      ((∃ v, emailView content = some v ∧ ShownAs (fromEmail username toEmail) subject v) ↔
        Harmless (fromEmail username toEmail) subject (getlines '\n' rest)) := by
  obtain ⟨rest, rfl, hrest⟩ := stored_content hfrom hto hsubject h
  refine ⟨rest, rfl, hrest, ?_⟩
  have hlines := getlines_mail hfrom hto hsubject rest
  set header := (headerLines username toEmail subject).map (· ++ ['\r']) with hheader
  set lines := getlines '\n' rest
  have hshort : ∀ l ∈ header ++ lines, l.length < npos := by
    intro l hl
    rw [← hlines] at hl
    exact (infix_of_mem_getlines hl).length_le.trans_lt hsize
  have hview := foldlM_addLine hshort {}
  obtain ⟨hsender, hsubject'⟩ := lastSaid_header username toEmail subject
  simp only [lastSender, lastSubject, lastSaid_append] at hview hsender hsubject'
  rw [hsender, hsubject'] at hview
  have hreadable : "Subject:".toList ∈ header ++ lines ↔ "Subject:".toList ∈ lines := by
    rw [List.mem_append, or_iff_right]
    simp [hheader, headerLines]
  unfold emailView
  rw [hlines]
  by_cases hthrows : "Subject:".toList ∈ lines
  · rw [if_pos (hreadable.mpr hthrows)] at hview
    rw [hview]
    refine iff_of_false ?_ (fun h => h.readable hthrows)
    rintro ⟨v, hv, -⟩
    cases hv
  · rw [if_neg (fun h => hthrows (hreadable.mp h))] at hview
    obtain ⟨v, hv, hvs, hvs'⟩ := hview
    have hsaid : (∃ v', some v = some v' ∧ ShownAs (fromEmail username toEmail) subject v') ↔
        ShownAs (fromEmail username toEmail) subject v := by
      constructor
      · rintro ⟨v', hv', hshown⟩
        exact Option.some.inj hv' ▸ hshown
      · exact fun hshown => ⟨v, rfl, hshown⟩
    rw [hv, hsaid, ShownAs, hvs, hvs']
    rw [lastSaid_iff (q := fun s => s = fromEmail username toEmail), between_from,
      lastSaid_iff (q := fun s => s = subject ∨ s = subject ++ ['\r'])]
    constructor
    · rintro ⟨⟨hsenders, hbrackets⟩, hsubjects, -⟩
      exact ⟨hthrows, hsubjects, hsenders, hbrackets⟩
    · rintro ⟨-, hsubjects, hsenders, hbrackets⟩
      exact ⟨⟨hsenders, hbrackets⟩, hsubjects, fun _ => Or.inr rfl⟩

theorem email_page_greeting :
    ∃ rest, greeting =
        withCrlf (headerLines "anna".toList "bob@localhost".toList "hi".toList) ++ rest ∧
      rest <+: "hello".toList ++ "\r\n\r\n".toList ∧
      ((∃ v, emailView greeting = some v ∧
          ShownAs (fromEmail "anna".toList "bob@localhost".toList) "hi".toList v) ↔
        Harmless (fromEmail "anna".toList "bob@localhost".toList) "hi".toList
          (getlines '\n' rest)) :=
  email_page_iff (by decide) (by decide) (by decide) greeting_stored (by decide)

/-- A line of the message that looks like the first header line is taken for it. -/
theorem sender_spoofed : ¬∀ username toEmail subject message content : Str,
    Unbroken username → Unbroken toEmail → Unbroken subject →
    StoredContent username toEmail subject message content →
    ∃ v, emailView content = some v ∧ ShownAs (fromEmail username toEmail) subject v := by
  intro h
  set message := "From: <carl@localhost>".toList with hmessage
  set content := mailText "anna".toList "bob@localhost".toList "hi".toList message with hcontent
  have hstored : StoredContent "anna".toList "bob@localhost".toList "hi".toList message content :=
    ⟨[mailPiece (content ++ endOfData) (by decide)], rfl, by decide⟩
  obtain ⟨v, hv, hsender, -⟩ := h "anna".toList "bob@localhost".toList "hi".toList message content
    (by decide) (by decide) (by decide) hstored
  have hview : (emailView content).map EmailView.sender = some "carl@localhost".toList := by decide
  rw [hv, Option.map_some, hsender] at hview
  exact absurd hview (by decide)

end CloudStorage.Proofs
