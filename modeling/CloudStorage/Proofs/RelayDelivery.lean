import CloudStorage.RelayDelivery
import Mathlib.Data.List.Chain
import Mathlib.Data.List.Forall2

/-!
# Every relayed mail is delivered once or kept

Whatever the resolver and the servers answer, a run of `smtpec` that ends has offered each
mail of the queue to one server after another up to the first that accepted it. The mails
that no server accepted are written back.
-/

namespace CloudStorage.Smtpec
open DelimitedText Dialogue

abbrev Log := Conversation Call Call.Answer

/-! ### What an accepted mail is -/

/-- A server has taken the end of a mail. -/
def Acceptance (x y : Σ c : Call, c.Answer) : Prop :=
  x = ⟨.send ".\r\n".toList, true⟩ ∧ ∃ reply, y = ⟨.recv, some reply⟩ ∧ isOKResponse reply = true

/-- No server has taken the end of a mail. -/
def Refused (log : Log) : Prop := log.IsChain (fun x y => ¬Acceptance x y)

/-- Each of the texts is sent and answered with success. -/
inductive Taken : List Str → Log → Prop where
  | nil : Taken [] []
  | cons {text reply : Str} {texts : List Str} {log : Log} : isOKResponse reply = true →
      Taken texts log →
      Taken (text :: texts) (⟨.send text, true⟩ :: ⟨.recv, some reply⟩ :: log)

/-- The whole conversation with a server that accepts the mail: it is told the sender and the
recipient, and it gets the content. -/
def Accepted (email : EmailInfo) (address : Str) (log : Log) : Prop :=
  ∃ greeting l c c' reply, log = ⟨.socket, true⟩ :: ⟨.connect address, true⟩ ::
      ⟨.recv, some greeting⟩ :: (l ++ [⟨.send email.content, c⟩, ⟨.send "\r\n".toList, c'⟩,
        ⟨.send ".\r\n".toList, true⟩, ⟨.recv, some reply⟩]) ∧
    isServiceReady greeting = true ∧ Taken (commands email) l ∧ isOKResponse reply = true

/-- The last of the servers accepts the mail, and no end of a mail is taken before. -/
def Delivered (email : EmailInfo) (log : Log) : Prop :=
  Refused log.dropLast ∧ ∃ earlier address last, log = earlier ++ last ∧
    Accepted email address last

/-! ### Conversations without an acceptance -/

/-- No end of a mail is sent. -/
def NoEnd (log : Log) : Prop := ∀ x ∈ log, x ≠ ⟨.send ".\r\n".toList, true⟩

lemma NoEnd.cons {c : Call} {o : c.Answer} {log : Log} (hc : c ≠ .send ".\r\n".toList)
    (h : NoEnd log) : NoEnd (⟨c, o⟩ :: log) := by
  intro x hx
  rcases List.mem_cons.mp hx with rfl | hx
  · exact fun heq => hc (congrArg Sigma.fst heq)
  · exact h x hx

lemma noEnd_nil : NoEnd [] := fun _ h => absurd h List.not_mem_nil

lemma NoEnd.refused_append {l₁ l₂ : Log} (h₁ : NoEnd l₁) (h₂ : Refused l₂) :
    Refused (l₁ ++ l₂) := by
  induction l₁ with
  | nil => exact h₂
  | cons x l₁ ih =>
    have hx := h₁ x List.mem_cons_self
    refine List.IsChain.cons (ih (fun y hy => h₁ y (List.mem_cons_of_mem x hy))) ?_
    exact fun y _ hacc => hx hacc.1

lemma NoEnd.refused {log : Log} (h : NoEnd log) : Refused log := by
  have happend : Refused (log ++ []) := h.refused_append List.isChain_nil
  rwa [List.append_nil] at happend

/-- The two parts are conversations with different servers. -/
lemma Refused.append {l₁ l₂ : Log} (h₁ : Refused l₁) (h₂ : Refused l₂)
    (hstart : ∀ x ∈ l₂.head?, x.1 ≠ .recv) : Refused (l₁ ++ l₂) := by
  refine List.IsChain.append h₁ h₂ ?_
  rintro x - y hy ⟨-, reply, rfl, -⟩
  exact hstart _ hy rfl

/-! ### One server -/

variable {email : EmailInfo} {address : Str} {log : Log} {b : Bool}

lemma ends_call {c : Call} {f : c.Answer → Program Bool} :
    (call c >>= f).Ends log b ↔ ∃ o rest, log = ⟨c, o⟩ :: rest ∧ (f o).Ends rest b := Iff.rfl

lemma receive_ends {accept : Str → Bool} (h : (receive accept).Ends log b) :
    ∃ str, log = [⟨.recv, some str⟩] ∧ (b = true → accept str = true) ∧
      (b = false → str = [] ∨ accept str = false) := by
  unfold receive at h
  replace h := ends_call.mp h
  obtain ⟨o, rest, rfl, h⟩ := h
  replace h := ends_bind.mp h
  obtain ⟨l₁, l₂, str, rfl, hstr, hend⟩ := h
  obtain ⟨rfl, rfl⟩ := ends_ofOption.mp hstr
  obtain ⟨rfl, rfl⟩ := hend
  refine ⟨str, rfl, fun hok => ?_, fun hno => ?_⟩
  · exact (Bool.and_eq_true_iff.mp hok).2
  · rcases Bool.and_eq_false_iff.mp hno with hnil | hno
    · exact Or.inl (by simpa using hnil)
    · exact Or.inr hno

/-- Commands are taken one after another, or the loop ends at one that is not. -/
lemma sendCommands_ends {cmds : List Str} (hcmds : ∀ cmd ∈ cmds, cmd ≠ ".\r\n".toList)
    (h : (sendCommands cmds).Ends log b) : NoEnd log ∧ (b = true → Taken cmds log) := by
  induction cmds generalizing log with
  | nil =>
    obtain ⟨rfl, rfl⟩ := h
    exact ⟨noEnd_nil, fun _ => .nil⟩
  | cons cmd cmds ih =>
    unfold sendCommands at h
    have hsend : Call.send cmd ≠ .send ".\r\n".toList := fun heq =>
      hcmds cmd List.mem_cons_self (Call.send.inj heq)
    replace h := ends_call.mp h
    obtain ⟨sent, rest, rfl, h⟩ := h
    cases sent with
    | false =>
      obtain ⟨rfl, rfl⟩ := h
      exact ⟨noEnd_nil.cons hsend, fun hno => absurd hno (by decide)⟩
    | true =>
      rw [if_pos rfl] at h
      replace h := ends_bind.mp h
      obtain ⟨l₁, l₂, ok, rfl, hreceive, h⟩ := h
      obtain ⟨reply, rfl, hok, -⟩ := receive_ends hreceive
      cases ok with
      | false =>
        obtain ⟨rfl, rfl⟩ := h
        exact ⟨(noEnd_nil.cons (by simp)).cons hsend, fun hno => absurd hno (by decide)⟩
      | true =>
        obtain ⟨hend, htaken⟩ := ih (fun c hc => hcmds c (List.mem_cons_of_mem cmd hc)) h
        refine ⟨(hend.cons (by simp)).cons hsend, fun hb => ?_⟩
        exact .cons (hok rfl) (htaken hb)

lemma heloCommand_head (email : EmailInfo) : (heloCommand email).head? = some 'H' := rfl

lemma mailCommand_head (email : EmailInfo) : (mailCommand email).head? = some 'M' := rfl

lemma rcptCommand_head (email : EmailInfo) : (rcptCommand email).head? = some 'R' := rfl

lemma commands_ne_end (email : EmailInfo) : ∀ cmd ∈ commands email, cmd ≠ ".\r\n".toList := by
  intro cmd hcmd heq
  have hhead : cmd.head? = some '.' := congrArg List.head? heq
  simp only [commands, List.mem_cons, List.not_mem_nil, or_false] at hcmd
  rcases hcmd with rfl | rfl | rfl | rfl
  · exact absurd ((heloCommand_head email).symm.trans hhead) (by decide)
  · exact absurd ((mailCommand_head email).symm.trans hhead) (by decide)
  · exact absurd ((rcptCommand_head email).symm.trans hhead) (by decide)
  · exact absurd hhead (by decide)

/-- The content is accepted with the reply to its end, or not at all. -/
lemma sendContent_ends (h : (sendContent email).Ends log b) :
    ∃ c c' rest, log = [⟨.send email.content, c⟩, ⟨.send "\r\n".toList, c'⟩] ++ rest ∧
      (∀ x ∈ rest.head?, x.1 ≠ .recv) ∧
      (b = true → ∃ reply, rest = [⟨.send ".\r\n".toList, true⟩, ⟨.recv, some reply⟩] ∧
        isOKResponse reply = true) ∧
      (b = false → Refused rest) := by
  unfold sendContent at h
  replace h := ends_call.mp h
  obtain ⟨c, l, rfl, h⟩ := h
  replace h := ends_call.mp h
  obtain ⟨c', l, rfl, h⟩ := h
  replace h := ends_call.mp h
  obtain ⟨sent, rest, rfl, h⟩ := h
  refine ⟨c, c', _, rfl, by simp, ?_⟩
  cases sent with
  | false =>
    obtain ⟨rfl, rfl⟩ := h
    exact ⟨fun hno => absurd hno (by decide), fun _ => List.isChain_singleton _⟩
  | true =>
    rw [if_pos rfl] at h
    obtain ⟨reply, rfl, hok, hno⟩ := receive_ends h
    refine ⟨fun hb => ⟨reply, rfl, hok hb⟩, fun hb => ?_⟩
    refine List.isChain_pair.mpr ?_
    rintro ⟨-, reply', heq, hok'⟩
    have hreply : reply = reply' := by simpa using heq
    subst hreply
    rcases hno hb with rfl | hno
    · exact absurd hok' (by decide)
    · exact absurd (hok'.symm.trans hno) (by decide)

/-- An attempt ends with success exactly with an accepted mail, and else without any. -/
theorem attemptDelivery_ends (h : (attemptDelivery email address).Ends log b) :
    (b = true → Accepted email address log) ∧ (b = false → Refused log) := by
  have hfail {l : Log} (hl : NoEnd l) :
      (false = true → Accepted email address l) ∧ (false = false → Refused l) :=
    ⟨fun hno => absurd hno (by decide), fun _ => hl.refused⟩
  unfold attemptDelivery at h
  replace h := ends_call.mp h
  obtain ⟨made, l, rfl, h⟩ := h
  cases made with
  | false =>
    obtain ⟨rfl, rfl⟩ := h
    exact hfail (noEnd_nil.cons (by simp))
  | true =>
  rw [if_pos rfl] at h
  replace h := ends_call.mp h
  obtain ⟨connected, l, rfl, h⟩ := h
  cases connected with
  | false =>
    obtain ⟨rfl, rfl⟩ := h
    exact hfail ((noEnd_nil.cons (by simp)).cons (by simp))
  | true =>
  rw [if_pos rfl] at h
  replace h := ends_bind.mp h
  obtain ⟨l₁, l, greeted, rfl, hgreeting, h⟩ := h
  obtain ⟨greeting, rfl, hready, -⟩ := receive_ends hgreeting
  cases greeted with
  | false =>
    obtain ⟨rfl, rfl⟩ := h
    exact hfail (((noEnd_nil.cons (by simp)).cons (by simp)).cons (by simp))
  | true =>
  rw [if_pos rfl] at h
  replace h := ends_bind.mp h
  obtain ⟨l₂, l, taken, rfl, hcommands, h⟩ := h
  obtain ⟨hend, htaken⟩ := sendCommands_ends (commands_ne_end email) hcommands
  have hstart : NoEnd (⟨.socket, true⟩ :: ⟨.connect address, true⟩ ::
      ⟨.recv, some greeting⟩ :: l₂) :=
    ((hend.cons (by simp)).cons (by simp)).cons (by simp)
  cases taken with
  | false =>
    obtain ⟨rfl, rfl⟩ := h
    rw [List.append_nil]
    exact hfail hstart
  | true =>
  rw [if_pos rfl] at h
  obtain ⟨c, c', rest, rfl, hhead, hyes, hno⟩ := sendContent_ends h
  have hcontent : Refused [⟨.send email.content, c⟩, ⟨.send "\r\n".toList, c'⟩] := by
    refine List.isChain_pair.mpr ?_
    rintro ⟨-, reply, heq, -⟩
    exact absurd (congrArg Sigma.fst heq) (by simp)
  constructor
  · intro hb
    obtain ⟨reply, rfl, hok⟩ := hyes hb
    exact ⟨greeting, l₂, c, c', reply, rfl, hready rfl, htaken rfl, hok⟩
  · intro hb
    exact hstart.refused_append (hcontent.append (hno hb) hhead)

/-! ### One mail -/

/-- What is sent before the end of a mail is answered. -/
lemma refused_sends {x y z : Str} {c c' c'' : Bool} :
    Refused [⟨.send x, c⟩, ⟨.send y, c'⟩, ⟨.send z, c''⟩] := by
  have hsend {t u : Str} {b b' : Bool} : ¬Acceptance ⟨.send t, b⟩ ⟨.send u, b'⟩ := by
    rintro ⟨-, reply, heq, -⟩
    exact absurd (congrArg Sigma.fst heq) (by simp)
  exact List.isChain_cons_cons.mpr ⟨hsend, List.isChain_pair.mpr hsend⟩

lemma Taken.noEnd {texts : List Str} (h : Taken texts log)
    (hne : ∀ text ∈ texts, text ≠ ".\r\n".toList) : NoEnd log := by
  induction h with
  | nil => exact noEnd_nil
  | cons hok htaken ih =>
    refine ((ih (fun t ht => hne t (List.mem_cons_of_mem _ ht))).cons (by simp)).cons ?_
    exact fun heq => hne _ List.mem_cons_self (Call.send.inj heq)

/-- The end of the mail is taken once, by the last reply. -/
lemma Accepted.refused_dropLast (h : Accepted email address log) : Refused log.dropLast := by
  obtain ⟨greeting, l, c, c', reply, rfl, -, htaken, -⟩ := h
  have hl : NoEnd (⟨.socket, true⟩ :: ⟨.connect address, true⟩ :: ⟨.recv, some greeting⟩ :: l) :=
    (((htaken.noEnd (commands_ne_end email)).cons (by simp)).cons (by simp)).cons (by simp)
  rw [← List.cons_append, ← List.cons_append, ← List.cons_append,
    List.dropLast_append_of_ne_nil (by simp)]
  exact hl.refused_append refused_sends

lemma Accepted.start (h : Accepted email address log) :
    log ≠ [] ∧ ∀ x ∈ log.head?, x.1 ≠ .recv := by
  obtain ⟨greeting, l, c, c', reply, rfl, -⟩ := h
  simp

lemma Accepted.delivered (h : Accepted email address log) : Delivered email log :=
  ⟨h.refused_dropLast, [], address, log, rfl, h⟩

lemma Delivered.append {earlier : Log} (hearlier : Refused earlier) (h : Delivered email log)
    (hstart : ∀ x ∈ log.head?, x.1 ≠ .recv) : Delivered email (earlier ++ log) := by
  obtain ⟨hlast, l, address, last, rfl, haccepted⟩ := h
  have hne : l ++ last ≠ [] := by simp [haccepted.start.1]
  refine ⟨?_, earlier ++ l, address, last, (List.append_assoc _ _ _).symm, haccepted⟩
  rw [List.dropLast_append_of_ne_nil hne]
  refine hearlier.append hlast (fun x hx => hstart x ?_)
  rw [List.head?_dropLast] at hx
  split at hx
  · exact hx
  · exact absurd hx (by simp)

lemma tryServers_start {mxRecords : List Str} (h : (tryServers email mxRecords).Ends log b) :
    ∀ x ∈ log.head?, x.1 ≠ .recv := by
  cases mxRecords with
  | nil =>
    obtain ⟨rfl, -⟩ := h
    simp
  | cons mxServer mxRecords =>
    unfold tryServers at h
    replace h := ends_bind.mp h
    obtain ⟨l₁, l₂, name, rfl, hname, h⟩ := h
    obtain ⟨rfl, -⟩ := ends_ofOption.mp hname
    replace h := ends_call.mp h
    obtain ⟨host, l, rfl, -⟩ := h
    simp

/-- The servers are tried up to the first that accepts the mail. -/
theorem tryServers_ends {mxRecords : List Str} (h : (tryServers email mxRecords).Ends log b) :
    (b = true → Delivered email log) ∧ (b = false → Refused log) := by
  induction mxRecords generalizing log with
  | nil =>
    obtain ⟨rfl, rfl⟩ := h
    exact ⟨fun hno => absurd hno (by decide), fun _ => List.isChain_nil⟩
  | cons mxServer mxRecords ih =>
    unfold tryServers at h
    replace h := ends_bind.mp h
    obtain ⟨l₁, l, name, rfl, hname, h⟩ := h
    obtain ⟨rfl, -⟩ := ends_ofOption.mp hname
    replace h := ends_call.mp h
    obtain ⟨host, l, rfl, h⟩ := h
    replace h := ends_bind.mp h
    obtain ⟨l₂, l, address, rfl, haddress, h⟩ := h
    obtain ⟨rfl, -⟩ := ends_ofOption.mp haddress
    replace h := ends_bind.mp h
    obtain ⟨l₃, l₄, sent, rfl, hattempt, h⟩ := h
    obtain ⟨hyes, hno⟩ := attemptDelivery_ends hattempt
    have hlookup : NoEnd [⟨.gethostbyname name, host⟩] := noEnd_nil.cons (by simp)
    cases sent with
    | true =>
      obtain ⟨rfl, rfl⟩ := h
      rw [List.append_nil]
      have haccepted := (hyes rfl).delivered.append hlookup.refused (hyes rfl).start.2
      exact ⟨fun _ => haccepted, fun hb => absurd hb (by decide)⟩
    | false =>
      obtain ⟨hrest, hnone⟩ := ih h
      have hfirst := hlookup.refused_append (hno rfl)
      have hstart := tryServers_start h
      refine ⟨fun hb => ?_, fun hb => ?_⟩
      · have hdelivered := (hrest hb).append hfirst hstart
        exact hdelivered
      · exact hfirst.append (hnone hb) hstart

/-- A mail counts as sent exactly if a server has accepted it. -/
theorem deliver_ends (h : (deliver email).Ends log b) :
    (b = true → Delivered email log) ∧ (b = false → Refused log) := by
  unfold deliver at h
  replace h := ends_call.mp h
  obtain ⟨mxRecords, l, rfl, h⟩ := h
  obtain ⟨hyes, hno⟩ := tryServers_ends h
  have hlookup {o : List Str} :
      NoEnd [⟨.getMxRecordsForDomain (after '@' email.recipient), o⟩] := noEnd_nil.cons (by simp)
  refine ⟨fun hb => ?_, fun hb => ?_⟩
  · exact (hyes hb).append hlookup.refused (tryServers_start h)
  · exact hlookup.refused_append (hno hb)

/-! ### One run -/

/-- What became of a mail in one run, and the questions about it. -/
structure Attempt where
  email : EmailInfo
  sent : Bool
  log : Log

structure Attempt.Accounted (attempt : Attempt) : Prop where
  delivered : attempt.sent = true → Delivered attempt.email attempt.log
  refused : attempt.sent = false → Refused attempt.log

def sentIn (attempts : List Attempt) : List EmailInfo :=
  (attempts.filter (·.sent)).map Attempt.email

def unsentIn (attempts : List Attempt) : List EmailInfo :=
  (attempts.filter (fun attempt => !attempt.sent)).map Attempt.email

/-- The mails are tried one after another. -/
theorem deliverAll_ends {emails : List EmailInfo} {sent : List Bool}
    (h : (deliverAll emails).Ends log sent) :
    ∃ attempts : List Attempt, attempts.map Attempt.email = emails ∧
      unsent emails sent = unsentIn attempts ∧ attempts.flatMap Attempt.log = log ∧
      ∀ attempt ∈ attempts, attempt.Accounted := by
  induction emails generalizing log sent with
  | nil =>
    obtain ⟨rfl, rfl⟩ := h
    exact ⟨[], rfl, rfl, rfl, by simp⟩
  | cons email emails ih =>
    unfold deliverAll at h
    replace h := ends_bind.mp h
    obtain ⟨l₁, l, ok, rfl, hdeliver, h⟩ := h
    replace h := ends_bind.mp h
    obtain ⟨l₂, l₃, rest, rfl, hrest, h⟩ := h
    obtain ⟨rfl, rfl⟩ := h
    obtain ⟨attempts, rfl, hunsent, rfl, haccounted⟩ := ih hrest
    obtain ⟨hyes, hno⟩ := deliver_ends hdeliver
    refine ⟨⟨email, ok, l₁⟩ :: attempts, rfl, ?_, by simp, ?_⟩
    · cases ok with
      | true => simpa [unsent, unsentIn] using hunsent
      | false => simpa [unsent, unsentIn] using hunsent
    · intro attempt hattempt
      rcases List.mem_cons.mp hattempt with rfl | hattempt
      · exact ⟨hyes, hno⟩
      · exact haccounted attempt hattempt

theorem main_ends {mqueue mqueue' : Str} (h : (main mqueue).Ends log mqueue') :
    ∃ attempts : List Attempt, attempts.map Attempt.email = buildEmailInfo mqueue ∧
      attempts.flatMap Attempt.log = log ∧ (∀ attempt ∈ attempts, attempt.Accounted) ∧
      mqueue' = if buildEmailInfo mqueue = [] then mqueue
        else (unsentIn attempts).flatMap unsentEntry := by
  unfold main at h
  dsimp only at h
  split at h
  · next hempty =>
    obtain ⟨rfl, rfl⟩ := h
    exact ⟨[], hempty.symm, rfl, by simp, by rw [if_pos hempty]⟩
  · next hne =>
    replace h := ends_bind.mp h
    obtain ⟨l₁, l₂, sent, rfl, hsent, h⟩ := h
    obtain ⟨rfl, rfl⟩ := h
    obtain ⟨attempts, hemails, hunsent, hlog, haccounted⟩ := deliverAll_ends hsent
    refine ⟨attempts, hemails, ?_, haccounted, ?_⟩
    · rw [hlog, List.append_nil]
    · rw [if_neg hne, hunsent]

end CloudStorage.Smtpec
