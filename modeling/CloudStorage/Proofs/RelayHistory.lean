import CloudStorage.Proofs.RelayDelivery
import CloudStorage.Proofs.RelayFile

/-!
# The relay over its whole history

Mails are appended to the queue file, and runs of `smtpec` offer them to other servers and
write back the rest. Both hold the lock on the file. However appends and runs follow each
other, and whatever the servers answer, a mail is accepted once or it is still in the file.
-/

namespace CloudStorage.Proofs
open DelimitedText Dialogue Smtpec

/-- A mail is appended, or a run of `smtpec` has ended, with its questions and their
answers. -/
inductive RelayEvent where
  | appended (email : EmailInfo)
  | ran (log : Log)

/-- What can happen to the queue file from the empty file on. -/
inductive RelayHistory : List RelayEvent → Str → Prop where
  | empty : RelayHistory [] []
  | append {events : List RelayEvent} {mqueue : Str} (email : EmailInfo) :
      RelayHistory events mqueue →
      RelayHistory (events ++ [.appended email]) (mqueue ++ appendEntry email)
  | run {events : List RelayEvent} {mqueue mqueue' : Str} {log : Log} {σ : Type}
      {env : (c : Smtpec.Call) → σ → Option (c.Answer × σ)} {s s' : σ} :
      RelayHistory events mqueue →
      (Smtpec.main mqueue).run (logged env) (s, []) = some (mqueue', (s', log)) →
      RelayHistory (events ++ [.ran log]) mqueue'

def RelayEvent.mail? : RelayEvent → Option EmailInfo
  | .appended email => some email
  | .ran _ => none

def RelayEvent.log : RelayEvent → Log
  | .appended _ => []
  | .ran log => log

def appendedMails (events : List RelayEvent) : List EmailInfo := events.filterMap RelayEvent.mail?

/-! ### What the file holds -/

/-- What the mail server appends. -/
structure RelayedMail (email : EmailInfo) : Prop where
  sender : AcceptedAddress email.senderEmail
  recipient : AcceptedAddress email.recipient
  plain : PlainMail email

lemma RelayedMail.entry {email : EmailInfo} (h : RelayedMail email) :
    PlainEntry email (getlines '\n' email.content) :=
  ⟨addressText_of_accepted h.sender, addressText_of_accepted h.recipient, h.plain,
    (terminated_lines h.plain.content).1, (terminated_lines h.plain.content).2⟩

/-- The lines of mails whose headers may end differently. -/
def mixedLines (pending : List (EmailInfo × Str)) : List Str :=
  pending.flatMap (fun x => entryLines x.2 x.1 (getlines '\n' x.1.content))

/-- The file is made of the entries of the mails. -/
structure HoldsMails (mqueue : Str) (pending : List (EmailInfo × Str)) : Prop where
  text : mqueue = terminated '\n' (mixedLines pending)
  mails : ∀ x ∈ pending, RelayedMail x.1 ∧ HeaderEnd x.2

lemma lines_mixed {pending : List (EmailInfo × Str)}
    (h : ∀ x ∈ pending, RelayedMail x.1 ∧ HeaderEnd x.2) {p : Parse}
    (hp : p.inEmail = true ∨ p.content = []) :
    ((mixedLines pending).foldl Parse.line p).saved = p.saved ++ pending.map Prod.fst := by
  induction pending generalizing p with
  | nil => simp [mixedLines]
  | cons x pending ih =>
    obtain ⟨hmail, heol⟩ := h x List.mem_cons_self
    have hrest := ih (fun y hy => h y (List.mem_cons_of_mem x hy))
      (p := ⟨p.saved, true, x.1.senderEmail, x.1.recipient, x.1.content⟩) (Or.inl rfl)
    rw [mixedLines, List.flatMap_cons, List.foldl_append, lines_entry hmail.entry heol hp]
    refine hrest.trans ?_
    simp [Parse.saved]

lemma HoldsMails.read {mqueue : Str} {pending : List (EmailInfo × Str)}
    (h : HoldsMails mqueue pending) : buildEmailInfo mqueue = pending.map Prod.fst := by
  have hlines : ∀ line ∈ mixedLines pending, '\n' ∉ line ∧ line.length < 4096 := by
    intro line hline
    obtain ⟨x, hx, hline⟩ := List.mem_flatMap.mp hline
    exact entryLines_oneLine (h.mails x hx).1.entry (h.mails x hx).2 line hline
  rw [h.text]
  unfold buildEmailInfo
  rw [getlines_terminated (fun line hl => (hlines line hl).1),
    List.takeWhile_eq_self_iff.mpr (fun line hl => decide_eq_true (hlines line hl).2),
    lines_mixed h.mails (Or.inr rfl)]
  rfl

lemma HoldsMails.append {mqueue : Str} {pending : List (EmailInfo × Str)}
    (h : HoldsMails mqueue pending) {email : EmailInfo} (hmail : RelayedMail email) :
    HoldsMails (mqueue ++ appendEntry email) (pending ++ [(email, [])]) := by
  constructor
  · rw [h.text, appendEntry_eq hmail.plain.content, ← terminated_append]
    simp [mixedLines]
  · intro x hx
    rcases List.mem_append.mp hx with hx | hx
    · exact h.mails x hx
    · rw [List.mem_singleton.mp hx]
      exact ⟨hmail, Or.inl rfl⟩

/-- What a run writes back. -/
lemma holdsMails_unsent {emails : List EmailInfo} (h : ∀ email ∈ emails, RelayedMail email) :
    HoldsMails (emails.flatMap unsentEntry) (emails.map (fun email => (email, ['\r']))) := by
  constructor
  · rw [mixedLines, List.flatMap_map, terminated_flatMap]
    exact List.flatMap_congr (fun email he => unsentEntry_eq (h email he).plain.content)
  · intro x hx
    obtain ⟨email, he, rfl⟩ := List.mem_map.mp hx
    exact ⟨h email he, Or.inr rfl⟩

/-! ### One run -/

lemma sentIn_append (xs ys : List Attempt) : sentIn (xs ++ ys) = sentIn xs ++ sentIn ys := by
  simp [sentIn]

lemma perm_sentIn_unsentIn (attempts : List Attempt) :
    (attempts.map Attempt.email).Perm (sentIn attempts ++ unsentIn attempts) := by
  rw [sentIn, unsentIn, ← List.map_append]
  exact (List.filter_append_perm _ attempts).symm.map Attempt.email

/-- A run takes the mails out of the file that servers have accepted. -/
lemma HoldsMails.run {mqueue mqueue' : Str} {pending : List (EmailInfo × Str)} {log : Log}
    (h : HoldsMails mqueue pending) (hends : (Smtpec.main mqueue).Ends log mqueue') :
    ∃ (attempts : List Attempt) (pending' : List (EmailInfo × Str)),
      attempts.flatMap Attempt.log = log ∧ (∀ attempt ∈ attempts, attempt.Accounted) ∧
      attempts.map Attempt.email = buildEmailInfo mqueue ∧ HoldsMails mqueue' pending' ∧
      buildEmailInfo mqueue' = unsentIn attempts := by
  obtain ⟨attempts, hemails, hlog, haccounted, hfile⟩ := main_ends hends
  have hread := h.read
  split at hfile
  · next hempty =>
    subst hfile
    have hnone : attempts = [] := List.map_eq_nil_iff.mp (hemails.trans hempty)
    subst hnone
    exact ⟨[], pending, hlog, haccounted, hemails, h, hempty⟩
  · have hmails : ∀ email ∈ unsentIn attempts, RelayedMail email := by
      intro email he
      obtain ⟨attempt, hattempt, rfl⟩ := List.mem_map.mp he
      have hmem : attempt.email ∈ pending.map Prod.fst := by
        rw [← hread, ← hemails]
        exact List.mem_map_of_mem (List.mem_of_mem_filter hattempt)
      obtain ⟨x, hx, hemail⟩ := List.mem_map.mp hmem
      exact hemail ▸ (h.mails x hx).1
    have hholds := holdsMails_unsent hmails
    subst hfile
    refine ⟨attempts, _, hlog, haccounted, hemails, hholds, ?_⟩
    rw [hholds.read, List.map_map]
    exact List.map_id _

/-! ### Whole histories -/

/-- The account of a history: what was asked is attempts at mails that were appended, and
each of these mails was sent in one of the attempts or is still in the file, in the order in
which the mails came. -/
structure RelayAccount (events : List RelayEvent) (mqueue : Str) (attempts : List Attempt) :
    Prop where
  log : attempts.flatMap Attempt.log = events.flatMap RelayEvent.log
  accounted : ∀ attempt ∈ attempts, attempt.Accounted
  emails : ∀ attempt ∈ attempts, attempt.email ∈ appendedMails events
  once : (appendedMails events).Perm (sentIn attempts ++ buildEmailInfo mqueue)
  order : (buildEmailInfo mqueue).Sublist (appendedMails events)

lemma appendedMails_append (events : List RelayEvent) (event : RelayEvent) :
    appendedMails (events ++ [event]) = appendedMails events ++ event.mail?.toList := by
  rw [appendedMails, List.filterMap_append]
  cases event with
  | appended email => rfl
  | ran log => rfl

/-- A mail is accepted once, or it is refused whenever it is tried and stays in the file. -/
theorem relay_history_accounted {events : List RelayEvent} {mqueue : Str}
    (h : RelayHistory events mqueue) (hmails : ∀ email ∈ appendedMails events, RelayedMail email) :
    ∃ attempts : List Attempt, RelayAccount events mqueue attempts := by
  suffices hholds : ∃ attempts pending,
      RelayAccount events mqueue attempts ∧ HoldsMails mqueue pending by
    obtain ⟨attempts, pending, haccount, -⟩ := hholds
    exact ⟨attempts, haccount⟩
  induction h with
  | empty =>
    refine ⟨[], [], ⟨rfl, by simp, by simp, ?_, ?_⟩, ⟨rfl, by simp⟩⟩
    · exact List.Perm.refl _
    · exact List.Sublist.refl _
  | @append events mqueue email h ih =>
    rw [appendedMails_append] at hmails
    obtain ⟨attempts, pending, haccount, hholds⟩ :=
      ih (fun x hx => hmails x (List.mem_append_left _ hx))
    have hmail : RelayedMail email := hmails email (List.mem_append_right _ List.mem_cons_self)
    have hholds' := hholds.append hmail
    have hread : buildEmailInfo (mqueue ++ appendEntry email) =
        buildEmailInfo mqueue ++ [email] := by
      rw [hholds'.read, hholds.read, List.map_append]
      rfl
    refine ⟨attempts, _, ⟨?_, haccount.accounted, ?_, ?_, ?_⟩, hholds'⟩
    · rw [haccount.log, List.flatMap_append]
      exact (List.append_nil _).symm
    · intro attempt hattempt
      rw [appendedMails_append]
      exact List.mem_append_left _ (haccount.emails attempt hattempt)
    · rw [appendedMails_append, hread, ← List.append_assoc]
      exact haccount.once.append_right _
    · rw [appendedMails_append, hread]
      exact haccount.order.append_right _
  | @run events mqueue mqueue' log σ env s s' h hrun ih =>
    obtain ⟨l, hl, hends⟩ := ends_of_logged hrun
    rw [List.nil_append] at hl
    subst hl
    have hsame : appendedMails (events ++ [.ran log]) = appendedMails events := by
      rw [appendedMails_append]
      exact List.append_nil _
    rw [hsame] at hmails
    obtain ⟨attempts, pending, haccount, hholds⟩ := ih hmails
    obtain ⟨attempts', pending', hlog, haccounted, hemails, hholds', hread⟩ := hholds.run hends
    have hsplit := perm_sentIn_unsentIn attempts'
    rw [hemails] at hsplit
    refine ⟨attempts ++ attempts', pending', ⟨?_, ?_, ?_, ?_, ?_⟩, hholds'⟩
    · rw [List.flatMap_append, haccount.log, hlog, List.flatMap_append]
      exact congrArg _ (List.append_nil _).symm
    · intro attempt hattempt
      rcases List.mem_append.mp hattempt with hattempt | hattempt
      · exact haccount.accounted attempt hattempt
      · exact haccounted attempt hattempt
    · intro attempt hattempt
      rw [hsame]
      rcases List.mem_append.mp hattempt with hattempt | hattempt
      · exact haccount.emails attempt hattempt
      · exact haccount.order.subset (hemails ▸ List.mem_map_of_mem hattempt)
    · rw [hsame, hread, sentIn_append, List.append_assoc]
      exact haccount.once.trans (hsplit.append_left _)
    · rw [hsame, hread]
      refine List.Sublist.trans ?_ haccount.order
      rw [← hemails]
      exact List.filter_sublist.map Attempt.email

/-- A server that takes one mail. -/
def acceptingServer : (c : Smtpec.Call) → Nat → Option (c.Answer × Nat) :=
  serverReplies (fun _ => true) (fun n => if n = 0 then "220 ready\r\n" else "250 OK\r\n")

/-- The queue file with both mails of Carl. -/
def carlsQueue : Str :=
  [] ++ appendEntry (mailToCarl "Hello\r\n".toList) ++ appendEntry (mailToCarl "Again\r\n".toList)

/-- The second mail is refused and written back. -/
lemma carlsFirstRun : ((Smtpec.main carlsQueue).run
    (logged (serverReplies (fun _ => true) mixedReplies)) (0, [])).map Prod.fst =
      some (unsentEntry (mailToCarl "Again\r\n".toList)) := by
  decide +kernel

lemma carlsSecondRun : ((Smtpec.main (unsentEntry (mailToCarl "Again\r\n".toList))).run
    (logged acceptingServer) (0, [])).map Prod.fst = some [] := by
  decide +kernel

theorem relay_history_of_carlsTwo : ∃ (log₁ log₂ : Log) (attempts : List Attempt),
    RelayAccount (carlsTwo.map .appended ++ [.ran log₁, .ran log₂]) [] attempts := by
  obtain ⟨⟨file₁, s₁, log₁⟩, hrun₁, hfile₁⟩ := Option.map_eq_some_iff.mp carlsFirstRun
  obtain ⟨⟨file₂, s₂, log₂⟩, hrun₂, hfile₂⟩ := Option.map_eq_some_iff.mp carlsSecondRun
  subst hfile₁ hfile₂
  have hhistory : RelayHistory (carlsTwo.map .appended ++ [.ran log₁, .ran log₂]) [] :=
    (((RelayHistory.empty.append (mailToCarl "Hello\r\n".toList)).append
      (mailToCarl "Again\r\n".toList)).run hrun₁).run hrun₂
  refine ⟨log₁, log₂, relay_history_accounted hhistory (fun email he => ?_)⟩
  have hmem : email ∈ carlsTwo := he
  exact ⟨(carlsTwo_accepted email hmem).1, (carlsTwo_accepted email hmem).2,
    carlsTwo_plain email hmem⟩

end CloudStorage.Proofs
