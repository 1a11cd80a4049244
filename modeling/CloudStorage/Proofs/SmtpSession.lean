import CloudStorage.Lib.Runs
import CloudStorage.MailServer

/-!
# Mail transactions

A session as the client sees it is a list of lines with their answers. When the session
accepts DATA, its sender and its recipients are those that were accepted for this mail.
-/

namespace CloudStorage.Proofs

/-- A line and the answer to it. -/
abbrev Exchange := Str × Option Str

/-- A session in which lines come one at a time, each DATA with the whole body of its mail. It
ends where a handler throws. -/
def smtp : System Transaction Exchange where
  init t := t = {}
  next t x :=
    match handleLine x.1 t with
    | .replied t' response => if response = x.2 then some t' else none
    | .data => if some startMail = x.2 then some .cleared else none
    | .quit => none
    | .thrown => none

/-! ### What the client was told -/

/-- The address of the last accepted sender, and the recipients accepted since. -/
structure Accepted where
  sender : Option Str := none
  recipients : List Str := []

def Accepted.after (a : Accepted) (x : Exchange) : Accepted :=
  if x.2 = some senderOk then { sender := addressIn x.1 }
  else if x.2 = some receiverOk ∨ x.2 = some willForward then
    { a with recipients := a.recipients ++ (addressIn x.1).toList }
  else a

def accepted (xs : List Exchange) : Accepted := xs.foldl Accepted.after {}

lemma accepted_concat (xs : List Exchange) (x : Exchange) :
    accepted (xs ++ [x]) = (accepted xs).after x := by
  rw [accepted, List.foldl_append]
  rfl

/-- A local recipient is recorded by the name in front of the `@`, any other by its address. -/
structure Recorded (recipients : List Str) (t : Transaction) : Prop where
  rcptTo : ∀ s, s ∈ t.rcptTo ↔ ∃ email ∈ recipients, isLocal email = true ∧ s = before '@' email
  rcptToRelay : ∀ s, s ∈ t.rcptToRelay ↔ s ∈ recipients ∧ isLocal s = false

lemma mem_insertName (s x : Str) (xs : List Str) : x ∈ insertName s xs ↔ x = s ∨ x ∈ xs := by
  induction xs with
  | nil => simp [insertName]
  | cons y ys ih =>
    rw [insertName]
    split
    · simp
    split
    · next h =>
      subst h
      simp
    · rw [List.mem_cons, ih, List.mem_cons]
      tauto

/-! ### What a line does -/

/-- Not an answer that accepts a sender or a recipient. -/
def Unaccepted (response : Option Str) : Prop :=
  response ≠ some senderOk ∧ response ≠ some receiverOk ∧ response ≠ some willForward

instance (response : Option Str) : Decidable (Unaccepted response) :=
  inferInstanceAs (Decidable (_ ∧ _ ∧ _))

/-- All that a line can do to the session that it does not end. -/
inductive LineEffect (text : Str) (t : Transaction) : Transaction → Option Str → Prop where
  | unchanged {response : Option Str} : Unaccepted response → LineEffect text t t response
  | greeted {response : Option Str} : t.state = .Initial ∨ t.state = .HeloReceived →
      Unaccepted response → LineEffect text t { t with state := .HeloReceived } response
  | assigned {response : Option Str} (mailFrom : Str) : t.state = .HeloReceived →
      Unaccepted response → LineEffect text t { t with mailFrom := mailFrom } response
  | sender {mailFrom : Str} : t.state = .HeloReceived → addressIn text = some mailFrom →
      LineEffect text t { t with state := .MailFromReceived, mailFrom := mailFrom }
        (some senderOk)
  | receiver {email : Str} : t.state = .MailFromReceived ∨ t.state = .RcptToReceived →
      addressIn text = some email → isLocal email = true →
      LineEffect text t { t with
        state := .RcptToReceived
        rcptTo := insertName (before '@' email) t.rcptTo } (some receiverOk)
  | relayed {email : Str} : t.state = .MailFromReceived ∨ t.state = .RcptToReceived →
      addressIn text = some email → isLocal email = false →
      LineEffect text t { t with
        state := .RcptToReceived
        rcptToRelay := insertName email t.rcptToRelay } (some willForward)
  | reset {response : Option Str} : Unaccepted response → LineEffect text t .cleared response

lemma badSequence_unaccepted : Unaccepted (some badSequence) := by decide

lemma badParameters_unaccepted :
    Unaccepted (some "501 Syntax error in parameters or arguments\r\n".toList) := by decide

lemma noAt_unaccepted : Unaccepted (some "501 Syntax Error, No @ provided\r\n".toList) := by
  decide

lemma emptyPart_unaccepted :
    Unaccepted (some "501 Syntax Error, local or domain part empty".toList) := by decide

lemma helo_effect {text : Str} {t t' : Transaction} {response : Option Str}
    (h : helo text t = .replied t' response) : LineEffect text t t' response := by
  unfold helo at h
  split at h
  · cases h
    exact .unchanged badSequence_unaccepted
  next hstate =>
  split at h
  · cases h
    exact .unchanged badParameters_unaccepted
  · cases h
    refine .greeted ?_ (by decide)
    by_contra hno
    exact hstate (not_or.mp hno)

lemma mailCommand_effect {text : Str} {t t' : Transaction} {response : Option Str}
    (h : mailCommand text t = .replied t' response) : LineEffect text t t' response := by
  unfold mailCommand at h
  split at h
  · cases h
    exact .unchanged badSequence_unaccepted
  next hstate =>
  have hstate : t.state = .HeloReceived := not_not.mp hstate
  split at h
  · cases h
    exact .unchanged badParameters_unaccepted
  next mailFrom haddress =>
  dsimp only at h
  split at h
  · cases h
    exact .assigned mailFrom hstate noAt_unaccepted
  split at h
  · cases h
    exact .assigned mailFrom hstate emptyPart_unaccepted
  · cases h
    exact .sender hstate haddress

lemma rcptCommand_effect {text : Str} {t t' : Transaction} {response : Option Str}
    (h : rcptCommand text t = .replied t' response) : LineEffect text t t' response := by
  unfold rcptCommand at h
  split at h
  · cases h
    exact .unchanged badSequence_unaccepted
  next hstate =>
  have hstate : t.state = .MailFromReceived ∨ t.state = .RcptToReceived := by
    by_contra hno
    exact hstate (not_or.mp hno)
  split at h
  · cases h
    exact .unchanged badParameters_unaccepted
  next email haddress =>
  split at h
  · next hlocal =>
    cases h
    exact .receiver hstate haddress hlocal
  next hlocal =>
  have hlocal : isLocal email = false := Bool.not_eq_true _ ▸ hlocal
  rw [if_pos (show relay = true from rfl)] at h
  split at h
  · cases h
    exact .unchanged noAt_unaccepted
  split at h
  · exact absurd h (by simp)
  split at h
  · cases h
    exact .unchanged emptyPart_unaccepted
  · cases h
    exact .relayed hstate haddress hlocal

theorem handleLine_effect {text : Str} {t t' : Transaction} {response : Option Str}
    (h : handleLine text t = .replied t' response) : LineEffect text t t' response := by
  unfold handleLine at h
  split at h
  · exact helo_effect h
  split at h
  · exact mailCommand_effect h
  split at h
  · exact rcptCommand_effect h
  split at h
  · split at h
    · cases h
      exact .unchanged badSequence_unaccepted
    · exact absurd h (by simp)
  split at h
  · split at h
    · cases h
      exact .unchanged badSequence_unaccepted
    · cases h
      exact .reset (by decide)
  split at h
  · split at h
    · cases h
      exact .unchanged badSequence_unaccepted
    · cases h
      exact .unchanged (by decide)
  split at h
  · exact absurd h (by simp)
  · cases h
    exact .unchanged (by decide)

lemma helo_replied (text : Str) (t : Transaction) :
    ∃ t' response, helo text t = .replied t' response := by
  unfold helo
  split
  · exact ⟨_, _, rfl⟩
  split
  · exact ⟨_, _, rfl⟩
  · exact ⟨_, _, rfl⟩

lemma mailCommand_replied (text : Str) (t : Transaction) :
    ∃ t' response, mailCommand text t = .replied t' response := by
  unfold mailCommand
  split
  · exact ⟨_, _, rfl⟩
  split
  · exact ⟨_, _, rfl⟩
  dsimp only
  split
  · exact ⟨_, _, rfl⟩
  split
  · exact ⟨_, _, rfl⟩
  · exact ⟨_, _, rfl⟩

lemma rcptCommand_ne_data (text : Str) (t : Transaction) : rcptCommand text t ≠ .data := by
  unfold rcptCommand
  repeat' split
  all_goals simp

/-- DATA is accepted behind a recipient only. -/
theorem handleLine_data {text : Str} {t : Transaction} (h : handleLine text t = .data) :
    t.state = .RcptToReceived := by
  unfold handleLine at h
  split at h
  · obtain ⟨t', response, hr⟩ := helo_replied text t
    exact absurd (hr.symm.trans h) (by simp)
  split at h
  · obtain ⟨t', response, hr⟩ := mailCommand_replied text t
    exact absurd (hr.symm.trans h) (by simp)
  split at h
  · exact absurd h (rcptCommand_ne_data text t)
  split at h
  · split at h
    · exact absurd h (by simp)
    · next hstate => exact not_not.mp hstate
  repeat' split at h
  all_goals exact absurd h (by simp)

/-! ### Sessions -/

/-- What the session has recorded, at each of its stages. -/
def Isolated (a : Accepted) (t : Transaction) : Prop :=
  match t.state with
  | .Initial => t.rcptTo = [] ∧ t.rcptToRelay = []
  | .HeloReceived => t.rcptTo = [] ∧ t.rcptToRelay = []
  | .MailFromReceived => a.sender = some t.mailFrom ∧ a.recipients = [] ∧ Recorded a.recipients t
  | .RcptToReceived => a.sender = some t.mailFrom ∧ a.recipients ≠ [] ∧ Recorded a.recipients t

lemma recorded_nil {t : Transaction} (h : t.rcptTo = []) (h' : t.rcptToRelay = []) :
    Recorded [] t := by
  constructor
  · intro s
    simp [h]
  · intro s
    simp [h']

lemma Isolated.nothing {a : Accepted} {t : Transaction} (h : Isolated a t)
    (hstate : t.state = .Initial ∨ t.state = .HeloReceived) :
    t.rcptTo = [] ∧ t.rcptToRelay = [] := by
  unfold Isolated at h
  rcases hstate with hs | hs <;> rw [hs] at h <;> exact h

lemma Isolated.recorded {a : Accepted} {t : Transaction} (h : Isolated a t)
    (hstate : t.state = .MailFromReceived ∨ t.state = .RcptToReceived) :
    a.sender = some t.mailFrom ∧ Recorded a.recipients t := by
  unfold Isolated at h
  rcases hstate with hs | hs <;> rw [hs] at h <;> exact ⟨h.1, h.2.2⟩

lemma Accepted.after_unaccepted (a : Accepted) {x : Exchange} (h : Unaccepted x.2) :
    a.after x = a := by
  unfold Accepted.after
  rw [if_neg h.1, if_neg (not_or.mpr h.2)]

lemma Accepted.after_recipient (a : Accepted) {text email : Str} {response : Option Str}
    (h : response = some receiverOk ∨ response = some willForward)
    (he : addressIn text = some email) :
    a.after (text, response) = { a with recipients := a.recipients ++ [email] } := by
  have hno : response ≠ some senderOk := by
    rcases h with rfl | rfl <;> decide
  unfold Accepted.after
  rw [if_neg hno, if_pos h, he]
  rfl

lemma Recorded.receiver {recipients : List Str} {t : Transaction} (h : Recorded recipients t)
    {email : Str} (hlocal : isLocal email = true) (state : SMTPState) :
    Recorded (recipients ++ [email]) { t with
      state := state
      rcptTo := insertName (before '@' email) t.rcptTo } := by
  constructor
  · intro s
    simp only [mem_insertName, h.rcptTo, List.mem_append, List.mem_singleton]
    constructor
    · rintro (rfl | ⟨r, hr, hs⟩)
      · exact ⟨email, Or.inr rfl, hlocal, rfl⟩
      · exact ⟨r, Or.inl hr, hs⟩
    · rintro ⟨r, hr | rfl, hl, hs⟩
      · exact Or.inr ⟨r, hr, hl, hs⟩
      · exact Or.inl hs
  · intro s
    have hne : isLocal s = false → s ≠ email := by
      intro hs he
      rw [he, hlocal] at hs
      exact absurd hs (by decide)
    rw [h.rcptToRelay, List.mem_append, List.mem_singleton]
    exact ⟨fun ⟨hs, hl⟩ => ⟨Or.inl hs, hl⟩, fun ⟨hs, hl⟩ => ⟨hs.resolve_right (hne hl), hl⟩⟩

lemma Recorded.relayed {recipients : List Str} {t : Transaction} (h : Recorded recipients t)
    {email : Str} (hlocal : isLocal email = false) (state : SMTPState) :
    Recorded (recipients ++ [email]) { t with
      state := state
      rcptToRelay := insertName email t.rcptToRelay } := by
  constructor
  · intro s
    rw [h.rcptTo]
    constructor
    · rintro ⟨r, hr, hs⟩
      exact ⟨r, List.mem_append_left _ hr, hs⟩
    · rintro ⟨r, hr, hl, hs⟩
      rcases List.mem_append.mp hr with hr | hr
      · exact ⟨r, hr, hl, hs⟩
      · rw [List.mem_singleton.mp hr, hlocal] at hl
        exact absurd hl (by decide)
  · intro s
    simp only [mem_insertName, h.rcptToRelay, List.mem_append, List.mem_singleton]
    constructor
    · rintro (rfl | ⟨hs, hl⟩)
      · exact ⟨Or.inr rfl, hlocal⟩
      · exact ⟨Or.inl hs, hl⟩
    · rintro ⟨hs | rfl, hl⟩
      · exact Or.inr ⟨hs, hl⟩
      · exact Or.inl rfl

/-- Each line keeps what is recorded in step with what the client was told. -/
theorem LineEffect.isolated {a : Accepted} {text : Str} {t t' : Transaction}
    {response : Option Str} (h : LineEffect text t t' response) (ht : Isolated a t) :
    Isolated (a.after (text, response)) t' := by
  cases h with
  | unchanged hr =>
    rw [a.after_unaccepted hr]
    exact ht
  | greeted hstate hr => exact ht.nothing hstate
  | assigned mailFrom hstate hr =>
    unfold Isolated
    simp only [hstate]
    exact ht.nothing (Or.inr hstate)
  | sender hstate haddress =>
    have hnone := ht.nothing (Or.inr hstate)
    exact ⟨haddress, rfl, recorded_nil hnone.1 hnone.2⟩
  | receiver hstate haddress hlocal =>
    rw [a.after_recipient (Or.inl rfl) haddress]
    have hrecorded := ht.recorded hstate
    exact ⟨hrecorded.1, List.append_ne_nil_of_right_ne_nil _ (List.cons_ne_nil _ _),
      hrecorded.2.receiver hlocal _⟩
  | relayed hstate haddress hlocal =>
    rw [a.after_recipient (Or.inr rfl) haddress]
    have hrecorded := ht.recorded hstate
    exact ⟨hrecorded.1, List.append_ne_nil_of_right_ne_nil _ (List.cons_ne_nil _ _),
      hrecorded.2.relayed hlocal _⟩
  | reset hr => exact ⟨rfl, rfl⟩

theorem smtp_isolated {xs : List Exchange} {t : Transaction} (h : smtp.exec {} xs = some t) :
    Isolated (accepted xs) t := by
  have hinit : Isolated (accepted []) {} := ⟨rfl, rfl⟩
  refine System.exec_history (H := fun xs t => Isolated (accepted xs) t) hinit ?_ h
  intro xs t x t' ht hnext
  rw [accepted_concat]
  simp only [smtp] at hnext
  split at hnext
  · next t₁ response hline =>
    split at hnext
    · next hx =>
      cases hnext
      have heffect := (handleLine_effect hline).isolated ht
      rw [hx] at heffect
      exact heffect
    · exact absurd hnext (by simp)
  · split at hnext
    · cases hnext
      exact ⟨rfl, rfl⟩
    · exact absurd hnext (by simp)
  · exact absurd hnext (by simp)
  · exact absurd hnext (by simp)

/-- The accepted recipients of a mail. -/
structure MailIsolated (a : Accepted) (t : Transaction) : Prop where
  sender : a.sender = some t.mailFrom
  someone : t.rcptTo ≠ [] ∨ t.rcptToRelay ≠ []
  recorded : Recorded a.recipients t

lemma Isolated.mail {a : Accepted} {t : Transaction} (h : Isolated a t)
    (hstate : t.state = .RcptToReceived) : MailIsolated a t := by
  have hrecorded := (h.recorded (Or.inr hstate)).2
  unfold Isolated at h
  rw [hstate] at h
  obtain ⟨hsender, hne, -⟩ := h
  refine ⟨hsender, ?_, hrecorded⟩
  obtain ⟨email, rest, hrest⟩ := List.exists_cons_of_ne_nil hne
  have hmem : email ∈ a.recipients := hrest ▸ List.mem_cons_self
  cases hl : isLocal email with
  | true =>
    have hin := (hrecorded.rcptTo (before '@' email)).mpr ⟨email, hmem, hl, rfl⟩
    exact Or.inl (List.ne_nil_of_mem hin)
  | false =>
    have hin := (hrecorded.rcptToRelay email).mpr ⟨hmem, hl⟩
    exact Or.inr (List.ne_nil_of_mem hin)

/-- Whatever lines come, a mail has the last accepted sender and the recipients accepted since,
and none is recorded before a sender. -/
theorem transactions_isolated {xs : List Exchange} {t : Transaction}
    (h : smtp.exec {} xs = some t) :
    (∀ text, handleLine text t = .data → MailIsolated (accepted xs) t) ∧
    (t.state = .Initial ∨ t.state = .HeloReceived → t.rcptTo = [] ∧ t.rcptToRelay = []) :=
  ⟨fun _ hdata => (smtp_isolated h).mail (handleLine_data hdata), (smtp_isolated h).nothing⟩

/-- A sender that is refused, one that is accepted, and a recipient of each kind. -/
def mailLines : List Exchange :=
  [("HELO tester\r\n".toList, some "250 localhost\r\n".toList),
    ("MAIL FROM:<anna>\r\n".toList, some "501 Syntax Error, No @ provided\r\n".toList),
    ("MAIL FROM:<anna@localhost>\r\n".toList, some senderOk),
    ("RCPT TO:<bob@localhost>\r\n".toList, some receiverOk),
    ("RCPT TO:<carl@elsewhere>\r\n".toList, some willForward)]

def mailToBobAndCarl : Transaction where
  state := .RcptToReceived
  mailFrom := "anna@localhost".toList
  rcptTo := ["bob".toList]
  rcptToRelay := ["carl@elsewhere".toList]

lemma exec_mailLines : smtp.exec {} mailLines = some mailToBobAndCarl := by decide +kernel

theorem transactions_isolated_two :
    MailIsolated (accepted mailLines) mailToBobAndCarl :=
  (transactions_isolated exec_mailLines).1 "DATA\r\n".toList (by decide)

/-! ### The loop over the bytes -/

def exchangesOf (events : List SmtpEvent) : List Exchange :=
  events.filterMap (fun event =>
    match event with
    | .exchange text response => some (text, response)
    | .mail _ _ => none)

/-- A mail leaves the loop behind a DATA line, and the lines before it are a session. -/
theorem mail_of_session {buffer : Str} {t t' : Transaction} {pieces : List MailPiece}
    {content : Str} {before after : List SmtpEvent}
    (h : handleConnection buffer t pieces = before ++ .mail t' content :: after) :
    ∃ xs text, exchangesOf before = xs ++ [(text, some startMail)] ∧
      smtp.exec t xs = some t' ∧ handleLine text t' = .data := by
  fun_induction handleConnection buffer t pieces generalizing before with
  | case1 buffer t pieces pos hline t₁ response hstep ih =>
    cases before with
    | nil => exact absurd h (by simp)
    | cons event before =>
      obtain ⟨rfl, hrest⟩ := List.cons.inj h
      obtain ⟨xs, text, hx, hexec, hdata⟩ := ih hrest
      refine ⟨(cString buffer, response) :: xs, text, ?_, ?_, hdata⟩
      · simp only [exchangesOf] at hx ⊢
        rw [List.filterMap_cons, hx, List.cons_append]
      · rw [System.exec, smtp]
        simp only [hstep, if_true, Option.bind_some]
        exact hexec
  | case2 buffer t pieces pos hline hstep ih =>
    rcases before with _ | ⟨event, _ | ⟨event', before⟩⟩
    · exact absurd h (by simp)
    · obtain ⟨rfl, hrest⟩ := List.cons.inj h
      obtain ⟨hmail, -⟩ := List.cons.inj hrest
      cases hmail
      exact ⟨[], cString buffer, rfl, rfl, hstep⟩
    · obtain ⟨rfl, hmail⟩ := List.cons.inj h
      obtain ⟨rfl, hrest⟩ := List.cons.inj hmail
      obtain ⟨xs, text, hx, hexec, hdata⟩ := ih hrest
      refine ⟨(cString buffer, some startMail) :: xs, text, ?_, ?_, hdata⟩
      · simp only [exchangesOf] at hx ⊢
        rw [List.filterMap_cons, List.filterMap_cons, hx, List.cons_append]
      · rw [System.exec, smtp]
        simp only [hstep, if_true, Option.bind_some]
        exact hexec
  | case3 buffer t pieces pos hline hstep =>
    cases before <;> simp at h
  | case4 buffer t pieces pos hline hstep => simp at h
  | case5 buffer t hline => simp at h
  | case6 buffer t hline piece pieces hfits ih => exact ih h
  | case7 buffer t hline piece pieces hfull => simp at h

/-- So a mail that leaves the loop is isolated, however its lines arrived. -/
theorem mails_isolated {t : Transaction} {pieces : List MailPiece} {content : Str}
    {before after : List SmtpEvent}
    (h : handleConnection [] {} pieces = before ++ .mail t content :: after) :
    ∃ xs text, exchangesOf before = xs ++ [(text, some startMail)] ∧
      MailIsolated (accepted xs) t := by
  obtain ⟨xs, text, hx, hexec, hdata⟩ := mail_of_session h
  exact ⟨xs, text, hx, (smtp_isolated hexec).mail (handleLine_data hdata)⟩

end CloudStorage.Proofs
