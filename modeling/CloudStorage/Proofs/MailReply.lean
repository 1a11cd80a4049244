import CloudStorage.MailReply
import CloudStorage.Proofs.Requests

/-!
# What the reply to a mail says

The reply says that a mail was sent. This file proves for which outcomes of the calls at least
one recipient got the mail then.
-/

namespace CloudStorage.Proofs
open MailServer

/-! ### What happened to a mail -/

/-- The storage server answered the PUT with success, or the mail is in the queue file. -/
def MailReached : DeliveryEvent → Prop
  | .put _ _ sent response => sent = true ∧ "+OK".toList <+: response
  | .queued _ _ => True

/-- The reply after the body says that the mail was sent only if some recipient got it. -/
def TrueReply (outcome : Option (Str × List DeliveryEvent)) : Prop :=
  ∀ events, outcome = some (emailSent, events) → ∃ e ∈ events, MailReached e

/-! ### Local recipients -/

/-- The calls for a local recipient return, and none of them throws. -/
def Returns (calls : DeliveryCalls) (username : Str) : Prop :=
  ∃ sock, MailServer.connectToBackend calls.connect username = some sock ∧
    (readFromBackendSocket sock calls.received).isSome

/-- A storage server is reached, takes the PUT and answers it with success. -/
def PutAnswered (calls : DeliveryCalls) (username : Str) : Prop :=
  ∃ sock response, MailServer.connectToBackend calls.connect username = some sock ∧ 0 ≤ sock ∧
    calls.sent = true ∧ readResponse [] calls.received = some response ∧
    "+OK".toList <+: response

section Recipients

variable (calls : MailCalls) (b : Base64) (strftime : Nat → Str) (mailFrom email_content : Str)

lemma deliver_eq_none (recipient_email : Str) :
    calls.deliver b strftime mailFrom email_content recipient_email = none ↔
      ¬Returns (calls.backend recipient_email) (before '@' recipient_email) := by
  have hdeliver : calls.deliver b strftime mailFrom email_content recipient_email =
      (MailServer.connectToBackend (calls.backend recipient_email).connect
        (before '@' recipient_email)).bind (fun sock =>
          (readFromBackendSocket sock (calls.backend recipient_email).received).bind _) := rfl
  rw [hdeliver, Option.bind_eq_none_iff, Returns]
  constructor
  · rintro hnone ⟨sock, hsock, hread⟩
    obtain ⟨response, hresponse⟩ := Option.isSome_iff_exists.mp hread
    exact absurd (Option.bind_eq_none_iff.mp (hnone sock hsock) response hresponse) (by simp)
  · intro hno sock hsock
    rw [Option.bind_eq_none_iff]
    intro response hresponse
    exact absurd ⟨sock, hsock, Option.isSome_iff_exists.mpr ⟨response, hresponse⟩⟩ hno

lemma deliver_spec {recipient_email : Str} {e : DeliveryEvent}
    (h : calls.deliver b strftime mailFrom email_content recipient_email = some e) :
    MailReached e ↔ PutAnswered (calls.backend recipient_email) (before '@' recipient_email) := by
  obtain ⟨sock, hsock, h⟩ := Option.bind_eq_some_iff.mp h
  obtain ⟨response, hresponse, h⟩ := Option.bind_eq_some_iff.mp h
  obtain rfl := Option.some.inj h
  unfold MailReached sendToBackendSocket PutAnswered
  dsimp only
  rw [Bool.and_eq_true, decide_eq_true_iff]
  unfold readFromBackendSocket at hresponse
  constructor
  · rintro ⟨⟨hpos, hsent⟩, hok⟩
    rw [if_neg (by omega)] at hresponse
    exact ⟨sock, response, hsock, hpos, hsent, hresponse, hok⟩
  · rintro ⟨sock', response', hsock', hpos, hsent, hread, hok⟩
    obtain rfl := Option.some.inj (hsock.symm.trans hsock')
    rw [if_neg (by omega), hread] at hresponse
    obtain rfl := Option.some.inj hresponse
    exact ⟨⟨hpos, hsent⟩, hok⟩

end Recipients

/-! ### The loops -/

lemma localLoop_eq_none (deliver : Str → Option DeliveryEvent) (rcptTo : List Str)
    (success : Bool) :
    localLoop deliver rcptTo success = none ↔ ∃ r ∈ rcptTo, deliver r = none := by
  induction rcptTo generalizing success with
  | nil => simp [localLoop]
  | cons r rcptTo ih =>
    have hloop : localLoop deliver (r :: rcptTo) success = (deliver r).bind (fun event =>
        (localLoop deliver rcptTo true).bind (fun rest => some (rest.1, event :: rest.2))) := rfl
    rw [hloop, List.exists_mem_cons_iff, ← ih true]
    cases deliver r with
    | none => simp
    | some event =>
      cases localLoop deliver rcptTo true with
      | none => simp
      | some rest => simp

/-- The loop makes an event for each recipient, and succeeds if it has made one. -/
lemma localLoop_eq_some {deliver : Str → Option DeliveryEvent} {rcptTo : List Str}
    {success success' : Bool} {events : List DeliveryEvent}
    (h : localLoop deliver rcptTo success = some (success', events)) :
    (success' = true ↔ success = true ∨ rcptTo ≠ []) ∧
      ∀ e, e ∈ events ↔ ∃ r ∈ rcptTo, deliver r = some e := by
  induction rcptTo generalizing success success' events with
  | nil =>
    cases h
    exact ⟨by simp, by simp⟩
  | cons r rcptTo ih =>
    obtain ⟨event, hevent, h⟩ := Option.bind_eq_some_iff.mp h
    obtain ⟨rest, hrest, h⟩ := Option.bind_eq_some_iff.mp h
    cases h
    obtain ⟨hsuccess, hevents⟩ := ih hrest
    refine ⟨iff_of_true (hsuccess.mpr (Or.inl rfl)) (Or.inr (List.cons_ne_nil _ _)), fun e => ?_⟩
    rw [List.mem_cons, hevents, List.exists_mem_cons_iff, hevent, Option.some.injEq, eq_comm]

/-- The events of the local recipients, once all their calls have returned. -/
lemma localLoop_reached {calls : MailCalls} {b : Base64} {strftime : Nat → Str}
    {mailFrom email_content : Str} {rcptTo : List Str} {success : Bool}
    {events : List DeliveryEvent}
    (h : localLoop (calls.deliver b strftime mailFrom email_content) rcptTo false =
      some (success, events)) :
    (∃ e ∈ events, MailReached e) ↔
      ∃ r ∈ rcptTo, PutAnswered (calls.backend r) (before '@' r) := by
  have hevents := (localLoop_eq_some h).2
  constructor
  · rintro ⟨e, he, hreached⟩
    obtain ⟨r, hr, hdeliver⟩ := (hevents e).mp he
    exact ⟨r, hr, (deliver_spec calls b strftime _ _ hdeliver).mp hreached⟩
  · rintro ⟨r, hr, hanswered⟩
    cases hdeliver : calls.deliver b strftime mailFrom email_content r with
    | none =>
      have hnone := (localLoop_eq_none _ _ false).mpr ⟨r, hr, hdeliver⟩
      exact absurd (h.symm.trans hnone) (by simp)
    | some e =>
      exact ⟨e, (hevents e).mpr ⟨r, hr, hdeliver⟩,
        (deliver_spec calls b strftime _ _ hdeliver).mpr hanswered⟩

/-- The queue file can be opened and locked for a recipient. -/
def Queued (calls : MailCalls) (recipient_email : Str) : Prop :=
  calls.mqueueOpened recipient_email = true ∧ calls.mqueueLocked recipient_email = true

lemma relayLoop_spec (calls : MailCalls) (mailFrom email_content : Str) (rcptToRelay : List Str)
    (success : Bool) :
    ((calls.relayLoop mailFrom email_content rcptToRelay success).1 = true ↔
      success = true ∨ ∃ r ∈ rcptToRelay, Queued calls r) ∧
    ((∃ e ∈ (calls.relayLoop mailFrom email_content rcptToRelay success).2, MailReached e) ↔
      ∃ r ∈ rcptToRelay, Queued calls r) := by
  induction rcptToRelay generalizing success with
  | nil => simp [MailCalls.relayLoop]
  | cons r rcptToRelay ih =>
    have hskip (hr : ¬Queued calls r) : (∃ r' ∈ r :: rcptToRelay, Queued calls r') ↔
        ∃ r' ∈ rcptToRelay, Queued calls r' := by
      rw [List.exists_mem_cons_iff]
      exact or_iff_right hr
    rw [MailCalls.relayLoop]
    split
    · next hopened =>
      rw [hskip (fun h => absurd (hopened.symm.trans h.1) (by decide))]
      exact ih success
    · next hopened =>
      split
      · next hlocked =>
        rw [hskip (fun h => absurd (hlocked.symm.trans h.2) (by decide))]
        exact ih success
      · next hlocked =>
        have hr : ∃ r' ∈ r :: rcptToRelay, Queued calls r' :=
          ⟨r, List.mem_cons_self, Bool.not_eq_false _ ▸ hopened, Bool.not_eq_false _ ▸ hlocked⟩
        refine ⟨iff_of_true ((ih true).1.mpr (Or.inl rfl)) (Or.inr hr), iff_of_true ?_ hr⟩
        exact ⟨_, List.mem_cons_self, trivial⟩

/-- The reply says that the mail was sent as soon as it has a local recipient, or an entry in
the queue file. -/
lemma finish_spec {calls : MailCalls} {b : Base64} {strftime : Nat → Str} {t : Transaction}
    {email_content reply : Str} {events : List DeliveryEvent}
    (h : calls.finish b strftime t email_content = some (reply, events)) :
    (reply = emailSent ↔ t.rcptTo ≠ [] ∨ ∃ r ∈ t.rcptToRelay, Queued calls r) ∧
    ((∃ e ∈ events, MailReached e) ↔
      (∃ r ∈ t.rcptTo, PutAnswered (calls.backend r) (before '@' r)) ∨
        ∃ r ∈ t.rcptToRelay, Queued calls r) := by
  obtain ⟨⟨success, local_events⟩, hlocal, h⟩ := Option.bind_eq_some_iff.mp h
  have hsuccess := (localLoop_eq_some hlocal).1
  obtain ⟨hreply, hqueued⟩ := relayLoop_spec calls t.mailFrom email_content t.rcptToRelay success
  rw [show relay = true from rfl, if_pos rfl] at h
  obtain ⟨rfl, rfl⟩ := Prod.mk.inj (Option.some.inj h)
  constructor
  · rw [hsuccess] at hreply
    simp only [Bool.false_eq_true, false_or] at hreply
    rw [← hreply]
    split
    · next hset => exact iff_of_true rfl hset
    · next hset => exact iff_of_false (by decide) hset
  · rw [← localLoop_reached hlocal, ← hqueued]
    constructor
    · rintro ⟨e, he, hdelivered⟩
      rcases List.mem_append.mp he with he | he
      · exact Or.inl ⟨e, he, hdelivered⟩
      · exact Or.inr ⟨e, he, hdelivered⟩
    · rintro (⟨e, he, hdelivered⟩ | ⟨e, he, hdelivered⟩)
      · exact ⟨e, List.mem_append_left _ he, hdelivered⟩
      · exact ⟨e, List.mem_append_right _ he, hdelivered⟩

lemma finish_eq_none {calls : MailCalls} {b : Base64} {strftime : Nat → Str} {t : Transaction}
    {email_content : Str} :
    calls.finish b strftime t email_content = none ↔
      ∃ r ∈ t.rcptTo, ¬Returns (calls.backend r) (before '@' r) := by
  have hfinish : calls.finish b strftime t email_content =
      (localLoop (calls.deliver b strftime t.mailFrom email_content) t.rcptTo false).bind
        (fun delivered => some _) := rfl
  rw [hfinish, Option.bind_eq_none_iff]
  simp only [reduceCtorEq, imp_false, ← deliver_eq_none calls b strftime t.mailFrom email_content]
  rw [← localLoop_eq_none _ _ false, Option.eq_none_iff_forall_ne_some]

/-! ### The reply -/

/-- A reply of success is true exactly if there is no reply, or no local recipient, or a
recipient did get the mail. -/
theorem reply_true_iff (calls : MailCalls) (b : Base64) (strftime : Nat → Str) (t : Transaction)
    (email_content : Str) :
    TrueReply (calls.finish b strftime t email_content) ↔
      (∃ r ∈ t.rcptTo, ¬Returns (calls.backend r) (before '@' r)) ∨ t.rcptTo = [] ∨
      (∃ r ∈ t.rcptTo, PutAnswered (calls.backend r) (before '@' r)) ∨
      ∃ r ∈ t.rcptToRelay, Queued calls r := by
  cases h : calls.finish b strftime t email_content with
  | none => exact iff_of_true (fun _ hnone => nomatch hnone) (Or.inl (finish_eq_none.mp h))
  | some result =>
    obtain ⟨reply, events⟩ := result
    have hreturns : ¬∃ r ∈ t.rcptTo, ¬Returns (calls.backend r) (before '@' r) := by
      rw [← @finish_eq_none calls b strftime t email_content]
      exact h ▸ Option.some_ne_none _
    obtain ⟨hreply, hdelivered⟩ := finish_spec h
    rw [or_iff_right hreturns, ← hdelivered]
    constructor
    · intro htrue
      by_cases hlocal : t.rcptTo = []
      · exact Or.inl hlocal
      · have hsent := hreply.mpr (Or.inl hlocal)
        exact Or.inr (htrue events (congrArg (fun r => some (r, events)) hsent))
    · rintro (hlocal | hsome) events' heq
      · obtain ⟨rfl, rfl⟩ := Prod.mk.inj (Option.some.inj heq)
        have hqueued := (hreply.mp rfl).resolve_left (not_not.mpr hlocal)
        exact hdelivered.mpr (Or.inr hqueued)
      · obtain ⟨rfl, rfl⟩ := Prod.mk.inj (Option.some.inj heq)
        exact hsome

/-- The master is not there. -/
def masterDown : MailCalls where
  rawtime := fun _ => 0
  backend := fun _ =>
    { connect :=
        { master_sock := some 5
          masterConnected := false
          commandSent := fun _ => false
          reply := none
          memory := []
          backend_sock := none
          backendConnected := fun _ _ => false
          greeted := false }
      sent := false
      received := [] }
  mqueueOpened := fun _ => false
  mqueueLocked := fun _ => false

/-- After `MAIL FROM:<bob@localhost>` and `RCPT TO:<anna@localhost>`. -/
def bobToAnna : Transaction where
  mailFrom := "bob@localhost".toList
  rcptTo := ["anna@localhost".toList]

/-- A mail for a local recipient is acknowledged without a storage server. -/
theorem lost_mail_acknowledged : ¬∀ (calls : MailCalls) (b : Base64) (strftime : Nat → Str)
    (t : Transaction) (email_content : Str),
    TrueReply (calls.finish b strftime t email_content) := by
  intro h
  have htrue := h masterDown base64 (fun _ => []) bobToAnna "Hi\r\n".toList
  obtain ⟨e, he, hdelivered⟩ := htrue _ rfl
  obtain rfl := List.mem_singleton.mp he
  exact absurd hdelivered.1 (by decide)

end CloudStorage.Proofs
