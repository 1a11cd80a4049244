import CloudStorage.Proofs.PipelinedLines
import CloudStorage.Proofs.SmtpSession

/-!
# Senders and recipients

Which addresses the mail server takes. Both of its handlers cut a name one character before
the first `@`, and the one for recipients cuts the sender in place of the recipient.
-/

namespace CloudStorage.Proofs

/-! ### Addresses -/

/-- Some `@` has text on both sides. -/
def IsAddress (s : Str) : Prop :=
  ∃ name domain, s = name ++ '@' :: domain ∧ name ≠ [] ∧ domain ≠ []

/-- The text from the first `<` to the first `>`, which is behind it. -/
def InBrackets (text x : Str) : Prop :=
  ∃ a c, text = a ++ '<' :: (x ++ '>' :: c) ∧ '<' ∉ a ∧ '>' ∉ a ∧ '>' ∉ x

lemma addressIn_iff {text x : Str} : addressIn text = some x ↔ InBrackets text x :=
  addressIn_eq_some

lemma InBrackets.unique {text x y : Str} (hx : InBrackets text x) (hy : InBrackets text y) :
    x = y :=
  Option.some.inj ((addressIn_iff.mpr hx).symm.trans (addressIn_iff.mpr hy))

/-- There is at most one text to speak about. -/
lemma InBrackets.exists_iff {text x : Str} (hx : InBrackets text x) {P : Str → Prop} :
    (∃ y, InBrackets text y ∧ P y) ↔ P x :=
  ⟨fun ⟨_, hy, h⟩ => hx.unique hy ▸ h, fun h => ⟨x, hx, h⟩⟩

lemma InBrackets.forall_iff {text x : Str} (hx : InBrackets text x) {P : Str → Prop} :
    (∀ y, InBrackets text y → P y) ↔ P x :=
  ⟨fun h => h x hx, fun h _ hy => hx.unique hy ▸ h⟩

lemma InBrackets.append {text x : Str} (h : InBrackets text x) (rest : Str) :
    InBrackets (text ++ rest) x :=
  addressIn_iff.mp (addressIn_append (addressIn_iff.mpr h) rest)

lemma not_inBrackets {text : Str} (h : addressIn text = none) (x : Str) : ¬InBrackets text x := by
  intro hx
  rw [addressIn_iff.mpr hx] at h
  exact Option.some_ne_none x h

/-- A text is cut at its first `@`. -/
lemma cut_at {s : Str} (h : '@' ∈ s) : s = before '@' s ++ '@' :: after '@' s := by
  obtain ⟨name, domain, rfl, hname⟩ := List.eq_append_cons_of_mem h
  rw [before_append hname, after_append hname]

lemma not_mem_before (c : Char) (s : Str) : c ∉ before c s := by
  intro h
  exact of_decide_eq_true (List.all_eq_true.mp List.all_takeWhile c h) rfl

lemma idxOf_at {s : Str} (h : '@' ∈ s) : s.idxOf '@' = (before '@' s).length := by
  obtain ⟨name, domain, rfl, hname⟩ := List.eq_append_cons_of_mem h
  rw [before_append hname, List.idxOf_append_of_notMem hname, List.idxOf_cons_self, Nat.add_zero]

lemma mem_dropLast_iff {c : Char} {s : Str} :
    c ∈ s.dropLast ↔ ∃ a b, s = a ++ c :: b ∧ b ≠ [] := by
  constructor
  · intro h
    obtain ⟨a, b, hab⟩ := List.append_of_mem h
    have hne : s ≠ [] := by
      rintro rfl
      exact absurd h (by simp)
    refine ⟨a, b ++ [s.getLast hne], ?_, by simp⟩
    calc s = s.dropLast ++ [s.getLast hne] := (List.dropLast_append_getLast hne).symm
      _ = a ++ c :: (b ++ [s.getLast hne]) := by
        rw [hab, List.append_assoc, List.cons_append]
  · rintro ⟨a, b, rfl, hb⟩
    rw [List.dropLast_append_of_ne_nil (List.cons_ne_nil c b), List.dropLast_cons_of_ne_nil hb]
    exact List.mem_append_right a List.mem_cons_self

/-- A name in front of the first `@` is enough; without one a later `@` is looked for. -/
lemma isAddress_iff {s : Str} : IsAddress s ↔
    '@' ∈ s ∧ after '@' s ≠ [] ∧ (before '@' s = [] → '@' ∈ (after '@' s).dropLast) := by
  constructor
  · rintro ⟨name, domain, hs, hname, hdomain⟩
    have hat : '@' ∈ s := hs ▸ List.mem_append_right name List.mem_cons_self
    rw [cut_at hat] at hs
    rcases List.append_eq_append_iff.mp hs with ⟨u, rfl, hu⟩ | ⟨u, hu, htail⟩
    · -- the `@` of the address is the first one or one behind it
      cases u with
      | nil =>
        rw [(List.cons.inj hu).2]
        rw [List.append_nil] at hname
        exact ⟨hat, hdomain, fun h => absurd h hname⟩
      | cons ch u =>
        have hlater := (List.cons.inj hu).2
        rw [hlater]
        exact ⟨hat, by simp, fun _ => mem_dropLast_iff.mpr ⟨u, domain, rfl, hdomain⟩⟩
    · cases u with
      | nil =>
        rw [List.append_nil] at hu
        rw [hu, ← (List.cons.inj htail).2]
        exact ⟨hat, hdomain, fun h => absurd h hname⟩
      | cons ch u =>
        have hch := (List.cons.inj htail).1
        have hmem : '@' ∈ before '@' s := by
          rw [hu, hch]
          exact List.mem_append_right name List.mem_cons_self
        exact absurd hmem (not_mem_before '@' s)
  · rintro ⟨hat, hdomain, hlater⟩
    by_cases hname : before '@' s = []
    · obtain ⟨a, b, hab, hb⟩ := mem_dropLast_iff.mp (hlater hname)
      refine ⟨'@' :: a, b, ?_, List.cons_ne_nil _ _, hb⟩
      have hs := cut_at hat
      rwa [hname, hab] at hs
    · exact ⟨before '@' s, after '@' s, cut_at hat, hname, hdomain⟩

/-! ### Which handler it is -/

lemma compare_head {text command : Str} {ch : Char}
    (h : caseInsensitiveStringCompare text (ch :: command) = true) :
    text.head?.map Char.toLower = some ch.toLower := by
  rw [caseInsensitiveStringCompare, beq_iff_eq] at h
  cases text with
  | nil => exact absurd h (by simp)
  | cons d text =>
    rw [List.length_cons, List.take_succ_cons, List.map_cons, List.map_cons] at h
    exact congrArg some (List.cons.inj h).1

/-- A text is one command only, if the commands begin with different letters. -/
lemma compare_other {text command : Str} {ch : Char}
    (h : caseInsensitiveStringCompare text (ch :: command) = true) (ch' : Char) (command' : Str)
    (hne : ch.toLower ≠ ch'.toLower) :
    caseInsensitiveStringCompare text (ch' :: command') = false := by
  rw [← Bool.not_eq_true]
  intro h'
  exact hne (Option.some.inj ((compare_head h).symm.trans (compare_head h')))

/-- What the handler of a line sees. -/
lemma received_line {l : Str} (hnul : '\x00' ∉ l) (rest : Str) :
    cString (l ++ "\r\n".toList ++ rest) = l ++ "\r\n".toList ++ cString rest := by
  apply cString_append
  rw [List.mem_append, not_or]
  exact ⟨hnul, by decide⟩

lemma handleLine_mail {text : Str}
    (h : caseInsensitiveStringCompare text "MAIL FROM:".toList = true) (t : Transaction) :
    handleLine text t = mailCommand text t := by
  have hhelo := compare_other h 'H' "ELO ".toList (by decide)
  exact (if_neg (Bool.not_eq_true _ ▸ hhelo)).trans (if_pos h)

lemma handleLine_rcpt {text : Str}
    (h : caseInsensitiveStringCompare text "RCPT TO:".toList = true) (t : Transaction) :
    handleLine text t = rcptCommand text t := by
  have hhelo := compare_other h 'H' "ELO ".toList (by decide)
  have hmail := compare_other h 'M' "AIL FROM:".toList (by decide)
  exact (if_neg (Bool.not_eq_true _ ▸ hhelo)).trans
    ((if_neg (Bool.not_eq_true _ ▸ hmail)).trans (if_pos h))

/-! ### Senders -/

/-- The sender is accepted. -/
def SenderAccepted (step : SmtpStep) : Prop :=
  ∃ t, step = .replied t (some senderOk) ∧ t.state = .MailFromReceived

/-- The name in front of the first `@` does not have one character, and a domain stands
behind it. -/
def SenderTaken (x : Str) : Prop :=
  '@' ∈ x ∧ (before '@' x).length ≠ 1 ∧ after '@' x ≠ []

lemma find_at {s : Str} (h : '@' ∈ s) : find '@' 0 s = some (before '@' s).length :=
  find_zero.mpr ⟨h, (idxOf_at h).symm⟩

lemma drop_at {s : Str} (h : '@' ∈ s) : s.drop ((before '@' s).length + 1) = after '@' s := by
  rw [after, posAfter, if_pos h, idxOf_at h]

/-- The name is empty where it should have one character. -/
lemma localPart_eq_nil {s : Str} (hs : s ≠ []) (atPos : Nat) :
    localPart s atPos = [] ↔ atPos = 1 := by
  unfold localPart
  split
  · next hzero => simp [hzero, hs]
  · next hpos =>
    rw [List.take_eq_nil_iff]
    simp only [hs, or_false]
    omega

lemma mailCommand_accepted {text : Str} {t : Transaction} (ht : t.state = .HeloReceived) :
    SenderAccepted (mailCommand text t) ↔ ∃ x, InBrackets text x ∧ SenderTaken x := by
  have hrefused {t' : Transaction} {response : Str} (hne : response ≠ senderOk) :
      ¬SenderAccepted (.replied t' (some response)) :=
    fun ⟨_, heq, _⟩ => replied_ne hne heq
  unfold mailCommand
  rw [if_neg (not_not.mpr ht)]
  cases haddress : addressIn text with
  | none =>
    exact iff_of_false (hrefused (by decide)) (fun ⟨x, hx, _⟩ => not_inBrackets haddress x hx)
  | some mailFrom =>
    have hin := addressIn_iff.mp haddress
    rw [hin.exists_iff]
    dsimp only
    by_cases hat : '@' ∈ mailFrom
    · rw [find_at hat]
      dsimp only
      have hne := List.ne_nil_of_mem hat
      split
      · next hempty =>
        rw [localPart_eq_nil hne, drop_at hat] at hempty
        refine iff_of_false (hrefused (by decide)) (fun htaken => ?_)
        exact hempty.elim htaken.2.1 htaken.2.2
      · next hparts =>
        rw [localPart_eq_nil hne, drop_at hat, not_or] at hparts
        exact iff_of_true ⟨_, rfl, rfl⟩ ⟨hat, hparts⟩
    · rw [find_eq_none hat]
      exact iff_of_false (hrefused (by decide)) (fun htaken => hat htaken.1)

/-- The first `@` has a longer name in front of it, or nothing behind it, or it stands at the
start and another one further on makes an address. -/
def SenderJudged (x : Str) : Prop :=
  '@' ∈ x → 2 ≤ (before '@' x).length ∨ after '@' x = [] ∨
    before '@' x = [] ∧ '@' ∈ (after '@' x).dropLast

/-- There is no `@`, or the first has one character in front of it or nothing behind it. -/
def SenderRefused (x : Str) : Prop :=
  '@' ∈ x → (before '@' x).length = 1 ∨ after '@' x = []

lemma taken_iff_address (x : Str) : (SenderTaken x ↔ IsAddress x) ↔ SenderJudged x := by
  rw [isAddress_iff, SenderTaken, SenderJudged]
  by_cases hat : '@' ∈ x
  · simp only [hat, true_and, true_implies]
    by_cases hdomain : after '@' x = []
    · simp [hdomain]
    · rcases Nat.lt_trichotomy (before '@' x).length 1 with hlen | hlen | hlen
      · have hnil := List.length_eq_zero_iff.mp (Nat.lt_one_iff.mp hlen)
        simp [hdomain, hnil]
      · have hne : before '@' x ≠ [] := List.ne_nil_of_length_pos (by omega)
        simp [hdomain, hlen, hne]
      · have hne : before '@' x ≠ [] := List.ne_nil_of_length_pos (by omega)
        have hone : (before '@' x).length ≠ 1 := by omega
        have htwo : 2 ≤ (before '@' x).length := hlen
        simp [hdomain, hne, hone, htwo]
  · simp [hat]

lemma not_taken_iff (x : Str) : ¬SenderTaken x ↔ SenderRefused x := by
  unfold SenderTaken SenderRefused
  tauto

/-- The handler agrees with its purpose for the addresses it judges rightly, as long as it
does not take one from the text behind the line. -/
theorem sender_accepted_iff {l : Str} (hnul : '\x00' ∉ l)
    (hmail : caseInsensitiveStringCompare (l ++ "\r\n".toList) "MAIL FROM:".toList = true)
    (rest : Str) {t : Transaction} (ht : t.state = .HeloReceived) :
    (SenderAccepted (handleLine (cString (l ++ "\r\n".toList ++ rest)) t) ↔
        ∃ x, InBrackets l x ∧ IsAddress x) ↔
      ∀ x, InBrackets (l ++ "\r\n".toList ++ cString rest) x →
        (InBrackets l x → SenderJudged x) ∧ (¬InBrackets l x → SenderRefused x) := by
  have hline : caseInsensitiveStringCompare (l ++ "\r\n".toList ++ cString rest)
      "MAIL FROM:".toList = true := (compare_line (by decide) l _).trans hmail
  have hmore {x : Str} (h : InBrackets l x) :
      InBrackets (l ++ "\r\n".toList ++ cString rest) x := (h.append _).append _
  rw [received_line hnul, handleLine_mail hline, mailCommand_accepted ht]
  cases haddress : addressIn (l ++ "\r\n".toList ++ cString rest) with
  | none =>
    have hno := not_inBrackets haddress
    refine iff_of_true (iff_of_false ?_ ?_) (fun x hx => absurd hx (hno x))
    · exact fun ⟨x, hx, _⟩ => hno x hx
    · exact fun ⟨x, hx, _⟩ => hno x (hmore hx)
  | some x =>
    have hin := addressIn_iff.mp haddress
    rw [hin.exists_iff, hin.forall_iff]
    by_cases hl : InBrackets l x
    · rw [hl.exists_iff, taken_iff_address]
      simp [hl]
    · have hnone : ¬∃ y, InBrackets l y ∧ IsAddress y :=
        fun ⟨y, hy, _⟩ => hl (hin.unique (hmore hy) ▸ hy)
      simp only [hnone, hl, iff_false, not_taken_iff, false_implies, true_and, not_false_eq_true,
        true_implies]

theorem sender_accepted_two :
    (SenderAccepted (handleLine (cString ("MAIL FROM:<al@b>".toList ++ "\r\n".toList ++ []))
        { state := .HeloReceived }) ↔
      ∃ x, InBrackets "MAIL FROM:<al@b>".toList x ∧ IsAddress x) ↔
      ∀ x, InBrackets ("MAIL FROM:<al@b>".toList ++ "\r\n".toList ++ cString []) x →
        (InBrackets "MAIL FROM:<al@b>".toList x → SenderJudged x) ∧
        (¬InBrackets "MAIL FROM:<al@b>".toList x → SenderRefused x) :=
  sender_accepted_iff (by decide) (by decide) [] rfl

/-- A name of one character is refused. -/
theorem short_name_refused : ¬∀ (l rest : Str) (t : Transaction), '\x00' ∉ l →
    caseInsensitiveStringCompare (l ++ "\r\n".toList) "MAIL FROM:".toList = true →
    t.state = .HeloReceived →
    (SenderAccepted (handleLine (cString (l ++ "\r\n".toList ++ rest)) t) ↔
      ∃ x, InBrackets l x ∧ IsAddress x) := by
  intro h
  have haccepted := (h "MAIL FROM:<a@b>".toList [] { state := .HeloReceived } (by decide)
    (by decide) rfl).mpr ⟨"a@b".toList, ⟨"MAIL FROM:".toList, [], by decide⟩,
      "a".toList, "b".toList, by decide⟩
  obtain ⟨t, heq, -⟩ := haccepted
  exact replied_ne (by decide) heq

/-! ### Recipients -/

/-- The recipient is accepted for the relay. -/
def RecipientAccepted (email : Str) (step : SmtpStep) : Prop :=
  ∃ t, step = .replied t (some willForward) ∧ t.state = .RcptToReceived ∧ email ∈ t.rcptToRelay

/-- The handler does not throw, and it accepts addresses and nothing else. -/
def JudgedAlone (email : Str) (step : SmtpStep) : Prop :=
  step ≠ .thrown ∧ (RecipientAccepted email step ↔ IsAddress email)

/-- What the handler makes of a recipient: it looks at the length of the sender. -/
def RecipientTaken (mailFrom email : Str) : Prop :=
  (before '@' email).length ≠ 1 ∧ (before '@' email).length + 1 < mailFrom.length

lemma not_recipientAccepted {email response : Str} {t : Transaction} (h : response ≠ willForward) :
    ¬RecipientAccepted email (.replied t (some response)) :=
  fun ⟨_, heq, _⟩ => replied_ne h heq

lemma substr_eq_none {i : Nat} {s : Str} : substr i s = none ↔ s.length < i := by
  unfold substr
  split
  · next hle => exact iff_of_false (Option.some_ne_none _) (Nat.not_lt.mpr hle)
  · next hlt => exact iff_of_true rfl (Nat.lt_of_not_le hlt)

/-- The handler of a recipient elsewhere, by the sender. -/
lemma rcptCommand_relayed {text email : Str} {t : Transaction}
    (ht : t.state = .MailFromReceived ∨ t.state = .RcptToReceived) (hin : InBrackets text email)
    (hlocal : isLocal email = false) (hat : '@' ∈ email) :
    (rcptCommand text t ≠ .thrown ↔ (before '@' email).length < t.mailFrom.length) ∧
    (RecipientAccepted email (rcptCommand text t) ↔ RecipientTaken t.mailFrom email) := by
  unfold rcptCommand RecipientTaken
  rw [if_neg (by tauto), addressIn_iff.mpr hin]
  dsimp only
  rw [if_neg (Bool.not_eq_true _ ▸ hlocal), if_pos (by rfl), find_at hat]
  dsimp only
  cases hdomain : substr ((before '@' email).length + 1) t.mailFrom with
  | none =>
    have hlen := substr_eq_none.mp hdomain
    refine ⟨iff_of_false (not_not.mpr rfl) (by omega), iff_of_false ?_ (by omega)⟩
    rintro ⟨t', heq, -⟩
    exact SmtpStep.noConfusion heq
  | some domain =>
    have hlen : ¬t.mailFrom.length < (before '@' email).length + 1 := by
      rw [← substr_eq_none, hdomain]
      exact Option.some_ne_none domain
    have hdrop : domain = t.mailFrom.drop ((before '@' email).length + 1) := by
      unfold substr at hdomain
      split at hdomain
      · exact (Option.some.inj hdomain).symm
      · exact absurd hdomain (Option.some_ne_none domain).symm
    have hnil : domain = [] ↔ t.mailFrom.length ≤ (before '@' email).length + 1 := by
      rw [hdrop, List.drop_eq_nil_iff]
    have hsender : t.mailFrom ≠ [] := List.ne_nil_of_length_pos (by omega)
    dsimp only
    split
    · next hempty =>
      rw [localPart_eq_nil hsender, hnil] at hempty
      refine ⟨iff_of_true (fun h => SmtpStep.noConfusion h) (by omega), ?_⟩
      exact iff_of_false (not_recipientAccepted (by decide)) (by omega)
    · next hparts =>
      rw [localPart_eq_nil hsender, hnil] at hparts
      refine ⟨iff_of_true (fun h => SmtpStep.noConfusion h) (by omega), ?_⟩
      exact iff_of_true ⟨_, rfl, rfl, (mem_insertName _ _ _).mpr (Or.inl rfl)⟩ (by omega)

/-- The sender is longer than the name of the recipient, and it goes on behind that length
where the recipient is an address. A name of one character must have nothing behind it. -/
def RecipientJudged (mailFrom email : Str) : Prop :=
  '@' ∈ email → (before '@' email).length < mailFrom.length ∧
    match before '@' email with
    | [] => 1 < mailFrom.length ↔ '@' ∈ (after '@' email).dropLast
    | [_] => after '@' email = []
    | name => name.length + 1 < mailFrom.length ↔ after '@' email ≠ []

lemma recipient_taken_iff {mailFrom email : Str} (hat : '@' ∈ email) :
    (before '@' email).length < mailFrom.length ∧
        (RecipientTaken mailFrom email ↔ IsAddress email) ↔
      RecipientJudged mailFrom email := by
  rw [isAddress_iff, RecipientTaken, RecipientJudged]
  simp only [hat, true_and, true_implies]
  refine and_congr_right (fun _ => ?_)
  match hname : before '@' email with
  | [] =>
    have hdomain : '@' ∈ (after '@' email).dropLast → after '@' email ≠ [] :=
      fun hmem hnil => absurd (hnil ▸ hmem) (by simp)
    simp only [List.length_nil, true_implies]
    tauto
  | [_] => simp
  | _ :: _ :: _ => simp

/-- A recipient elsewhere is judged on its own exactly if the sender happens to be long
enough or short enough. -/
theorem recipient_judged_iff {l : Str} (hnul : '\x00' ∉ l)
    (hrcpt : caseInsensitiveStringCompare (l ++ "\r\n".toList) "RCPT TO:".toList = true)
    {email : Str} (hin : InBrackets l email) (hlocal : isLocal email = false) (rest : Str)
    {t : Transaction} (ht : t.state = .MailFromReceived ∨ t.state = .RcptToReceived) :
    JudgedAlone email (handleLine (cString (l ++ "\r\n".toList ++ rest)) t) ↔
      RecipientJudged t.mailFrom email := by
  have hline : caseInsensitiveStringCompare (l ++ "\r\n".toList ++ cString rest)
      "RCPT TO:".toList = true := (compare_line (by decide) l _).trans hrcpt
  have hmore : InBrackets (l ++ "\r\n".toList ++ cString rest) email :=
    (hin.append _).append _
  rw [received_line hnul, handleLine_rcpt hline, JudgedAlone]
  by_cases hat : '@' ∈ email
  · obtain ⟨hthrown, haccepted⟩ := rcptCommand_relayed ht hmore hlocal hat
    rw [hthrown, haccepted]
    exact recipient_taken_iff hat
  · have hrefused : rcptCommand (l ++ "\r\n".toList ++ cString rest) t =
        .replied t (some "501 Syntax Error, No @ provided\r\n".toList) := by
      unfold rcptCommand
      rw [if_neg (by tauto), addressIn_iff.mpr hmore]
      dsimp only
      rw [if_neg (Bool.not_eq_true _ ▸ hlocal), if_pos (by rfl), find_eq_none hat]
    rw [hrefused]
    refine iff_of_true ⟨fun h => SmtpStep.noConfusion h, ?_⟩ (fun h => absurd h hat)
    refine iff_of_false (not_recipientAccepted (by decide)) ?_
    exact fun h => hat (isAddress_iff.mp h).1

theorem recipient_judged_long :
    JudgedAlone "bob@y".toList (handleLine
        (cString ("RCPT TO:<bob@y>".toList ++ "\r\n".toList ++ []))
        { state := .MailFromReceived, mailFrom := "anna@x".toList }) ↔
      RecipientJudged "anna@x".toList "bob@y".toList :=
  recipient_judged_iff (by decide) (by decide) ⟨"RCPT TO:".toList, [], by decide⟩ (by decide) []
    (Or.inl rfl)

/-- A recipient whose name is longer than an accepted sender ends the program. -/
theorem long_recipient_throws : ¬∀ (text : Str) (t₀ t : Transaction) (l rest email : Str),
    handleLine text t₀ = .replied t (some senderOk) → '\x00' ∉ l →
    caseInsensitiveStringCompare (l ++ "\r\n".toList) "RCPT TO:".toList = true →
    InBrackets l email → isLocal email = false →
    JudgedAlone email (handleLine (cString (l ++ "\r\n".toList ++ rest)) t) := by
  intro h
  have hjudged := h "MAIL FROM:<an@x>\r\n".toList { state := .HeloReceived }
    { state := .MailFromReceived, mailFrom := "an@x".toList } "RCPT TO:<roberta@y>".toList []
    "roberta@y".toList (by decide) (by decide) (by decide) ⟨"RCPT TO:".toList, [], by decide⟩
    (by decide)
  exact hjudged.1 (by decide)

end CloudStorage.Proofs
