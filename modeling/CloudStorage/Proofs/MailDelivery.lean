import CloudStorage.MailServer
import CloudStorage.Proofs.ClientFields
import CloudStorage.Proofs.FormEncoding
import CloudStorage.Proofs.Framing
import CloudStorage.Proofs.PasswordCommands
import CloudStorage.Proofs.Requests

/-!
# Local delivery

A mail for a local user is one cell of the user's row, named after the sender and the second
of the delivery. This file proves which sequences of deliveries, of any number of sessions,
leave each mail in a cell of its own.
-/

namespace CloudStorage.Proofs
open DelimitedText Dialogue Registers

/-! ### Names in the table -/

/-- No row and no column has a comma in its name. -/
def CommaFreeNames (t : Table) : Prop :=
  ∀ row col v, t.get row col = some v → ',' ∉ row ∧ ',' ∉ col

lemma CommaFreeNames.answerTo {command reply : Str} {t t' : Table} (h : CommaFreeNames t)
    (ha : answerTo (splitKVStoreCommand command) t = some (reply, t')) : CommaFreeNames t' := by
  refine cells_answerTo (P := fun row col _ => ',' ∉ row ∧ ',' ∉ col) h ?_ ha
  intro x extra hsplit v _
  exact ⟨commaFree_of_split hsplit _ (key_mem_fields x).1,
    commaFree_of_split hsplit _ (key_mem_fields x).2⟩

lemma CommaFreeNames.answersTo {commands : List Str} {reply : Str} {t t' : Table}
    (h : CommaFreeNames t) (ha : answersTo commands t = some (reply, t')) :
    CommaFreeNames t' := by
  induction commands generalizing t reply with
  | nil =>
    cases ha
    exact h
  | cons command commands ih =>
    obtain ⟨⟨first, t₁⟩, hfirst, ha⟩ := Option.bind_eq_some_iff.mp ha
    obtain ⟨⟨replies, t₂⟩, hrest, ha⟩ := Option.map_eq_some_iff.mp ha
    cases ha
    exact ih (h.answerTo hfirst) hrest

/-! ### One delivery -/

/-- The row of a delivery. -/
def rowOf (d : Delivery) : Str := before '@' d.recipient_email

def emailsPath : Str := "/emails/".toList

/-- The column that a delivery means. -/
def emailColumn (b : Base64) (strftime : Nat → Str) (d : Delivery) : Str :=
  emailsPath ++ d.mailFrom ++ "/".toList ++ b.encode (strftime d.rawtime)

/-- The storage server answers with success. -/
def Answered : (i : Action) → i.Answer → Prop
  | .connect _, _ => True
  | .storage _ _, reply => "+OK".toList <+: reply
  | .mail _, _ => True

instance (i : Action) (o : i.Answer) : Decidable (Answered i o) :=
  match i with
  | .connect _ => isTrue trivial
  | .storage _ _ => inferInstanceAs (Decidable (_ <+: _))
  | .mail _ => isTrue trivial

/-- A text that is answered with success takes one table to another. -/
def Stores (text : Str) (t t' : Table) : Prop :=
  ∃ reply, answersTo (commandLines [] text) t = some (reply, t') ∧ "+OK".toList <+: reply

lemma emailColumn_comma {b : Base64} {strftime : Nat → Str} {d : Delivery} :
    ',' ∈ emailColumn b strftime d ↔ ',' ∈ d.mailFrom := by
  have henc : ',' ∉ b.encode (strftime d.rawtime) := not_mem_encode b _ (by decide)
  have hemails : ',' ∉ emailsPath := by decide
  have hslash : ',' ∉ "/".toList := by decide
  rw [emailColumn, List.mem_append, List.mem_append, List.mem_append]
  exact ⟨fun h => ((h.resolve_right henc).resolve_right hslash).resolve_left hemails,
    fun h => Or.inl (Or.inl (Or.inr h))⟩

lemma answerTo_put_short {args : List Str} (h : args.length ≤ 2) (t : Table) :
    answerTo ("PUT ".toList :: args) t =
      some ("-ERR Invalidp PUT parameters\r\n".toList, t) := by
  match args with
  | [] | [_] | [_, _] => rfl
  | _ :: _ :: _ :: _ =>
    simp only [List.length_cons] at h
    omega

/-- A text whose first command is a PUT with too few fields is not answered with success. -/
lemma not_stores_short {p rest : Str} (hp : NoCrlf p) (hcount : p.count ',' ≤ 1) {t t' : Table} :
    ¬Stores ("PUT".toList ++ [' '] ++ p ++ "\r\n".toList ++ rest) t t' := by
  rintro ⟨reply, ha, hok⟩
  have hline : NoCrlf ("PUT".toList ++ [' '] ++ p) := noCrlf_word (by decide) hp
  have hmeet : ¬Meet ("PUT".toList ++ [' '] ++ p ++ "\r\n".toList) rest := by
    rintro ⟨hlast, -⟩
    rw [List.getLast?_append_of_ne_nil _ (by decide)] at hlast
    exact absurd hlast (by decide)
  rw [commandLines_append [] _ hmeet, commandLines_line hline, List.nil_append,
    List.singleton_append, answersTo, splitKVStoreCommand_blank (v := "PUT".toList) (by decide) rfl,
    show "PUT".toList ++ [' '] = "PUT ".toList from rfl] at ha
  have hlen := length_getlines_le ',' p
  rw [answerTo_put_short (by omega), Option.bind_some] at ha
  obtain ⟨⟨replies, t₂⟩, -, hreply⟩ := Option.map_eq_some_iff.mp ha
  cases hreply
  obtain ⟨s, hs⟩ := hok
  have hhead := congrArg List.head? hs
  have hplus : ("+OK".toList ++ s).head? = some '+' := rfl
  have hminus : ("-ERR Invalidp PUT parameters\r\n".toList ++ replies).head? = some '-' := rfl
  exact absurd (hplus.symm.trans (hhead.trans hminus)) (by decide)

/-- Without commas and with an answer of success a value is stored. -/
lemma stores_clean {row col value : Str} (hr : ',' ∉ row) (hc : ',' ∉ col) (hv : ',' ∉ value)
    (hcrlf : NoCrlf value) {t t' : Table}
    (h : Stores (putText row col value ++ "\r\n".toList) t t') : t' = t.set row col value := by
  by_cases hname : NoCrlf (row ++ ',' :: col)
  · have hline : NoCrlf (putText row col value) := by
      have hfields := hname.comma hcrlf
      rw [List.append_assoc, List.cons_append] at hfields
      exact noCrlf_word (by decide) hfields
    obtain ⟨reply, ha, hok⟩ := h
    rw [commandLines_line hline, List.nil_append, answersTo, split_putText,
      getlines_append_delim hr, getlines_append_delim hc] at ha
    obtain ⟨⟨first, t₁⟩, hfirst, ha⟩ := Option.bind_eq_some_iff.mp ha
    cases ha
    by_cases hnil : value = []
    · subst hnil
      cases hfirst
      exact absurd hok (by decide)
    · rw [getlines_of_not_mem hv hnil] at hfirst
      cases hfirst
      rfl
  · -- the text ends too early for a value
    obtain ⟨p, q, hsplit, hp⟩ := exists_first_crlf hname
    have htext : putText row col value ++ "\r\n".toList = "PUT".toList ++ [' '] ++ p ++
        "\r\n".toList ++ (q ++ ',' :: value ++ "\r\n".toList) := by
      have hfields : row ++ ',' :: (col ++ ',' :: value) =
          p ++ "\r\n".toList ++ q ++ ',' :: value := by
        rw [← hsplit, List.append_assoc, List.cons_append]
      rw [putText, hfields]
      simp only [List.append_assoc]
    have hcount : p.count ',' ≤ 1 := by
      have hone : (row ++ ',' :: col).count ',' = 1 := by
        rw [List.count_append, List.count_cons_self, List.count_eq_zero.mpr hr,
          List.count_eq_zero.mpr hc]
      rw [hsplit, List.append_assoc, List.count_append] at hone
      omega
    rw [htext] at h
    exact absurd h (not_stores_short hp hcount)

/-! ### Deliveries -/

section

variable {b : Base64} {strftime : Nat → Str} {σ : Type} {T : TextService σ}

/-- The deliveries of all sessions, in the order in which they reach the storage server. -/
def sendAll (b : Base64) (strftime : Nat → Str) : List Delivery → Web Unit
  | [] => return ()
  | d :: ds => do
    d.send b strftime
    sendAll b strftime ds

/-- The text of a delivery. -/
def deliveryText (b : Base64) (strftime : Nat → Str) (d : Delivery) : Str :=
  putText (rowOf d) (emailColumn b strftime d) (b.encode d.email_content) ++ "\r\n".toList

lemma send_eq (b : Base64) (strftime : Nat → Str) (d : Delivery) : d.send b strftime = (do
    let _ ← connectToBackend (rowOf d)
    let _ ← exchange (rowOf d) (deliveryText b strftime d)
    return ()) := by
  have htext : "PUT ".toList ++ rowOf d ++ ",/emails/".toList ++ d.mailFrom ++ "/".toList ++
      b.encode (strftime d.rawtime) ++ ",".toList ++ b.encode d.email_content ++
      "\r\n".toList = deliveryText b strftime d := by
    have hput : "PUT ".toList = "PUT".toList ++ [' '] := rfl
    have hemails : ",/emails/".toList = ',' :: emailsPath := rfl
    have hcomma : ",".toList = [','] := rfl
    rw [hput, hemails, hcomma, deliveryText, putText, emailColumn]
    simp only [List.append_assoc, List.cons_append, List.nil_append]
  rw [← htext]
  rfl

/-- A delivery that is answered with success. -/
def Delivered (b : Base64) (strftime : Nat → Str) (d : Delivery) (t t' : Table) : Prop :=
  Stores (deliveryText b strftime d) t t'

lemma send_run {d : Delivery} {e e' : σ} (he : T.valid e)
    (h : (d.send b strftime).run (accepting Answered T.answer) e = some ((), e')) :
    T.valid e' ∧ Delivered b strftime d (T.table e) (T.table e') := by
  rw [send_eq, run_bind, run_connectToBackend] at h
  obtain ⟨⟨made, e₁⟩, hconnect, h⟩ := Option.bind_eq_some_iff.mp h
  obtain ⟨hv₁, ht₁⟩ := T.table_of_connect he (accepting_eq_some.mp hconnect).1
  rw [run_bind, run_exchange] at h
  obtain ⟨⟨reply, e₂⟩, hput, h⟩ := Option.bind_eq_some_iff.mp h
  obtain ⟨hput, hok⟩ := accepting_eq_some.mp hput
  cases h
  have htext := T.text (rowOf d) (deliveryText b strftime d) e₁ hv₁
  rw [ht₁] at htext
  cases ha : answersTo (commandLines [] (deliveryText b strftime d)) (T.table e) with
  | none =>
    rw [ha] at htext
    exact absurd (htext.symm.trans hput) (by simp)
  | some x =>
    rw [ha] at htext
    obtain ⟨e₃, he₃, hv₃, ht₃⟩ := htext
    cases he₃.symm.trans hput
    exact ⟨hv₃, x.1, by rw [ha, ht₃], hok⟩

lemma sendAll_cons {d : Delivery} {ds : List Delivery} {e e' : σ}
    (h : (sendAll b strftime (d :: ds)).run (accepting Answered T.answer) e = some ((), e')) :
    ∃ e₁, (d.send b strftime).run (accepting Answered T.answer) e = some ((), e₁) ∧
      (sendAll b strftime ds).run (accepting Answered T.answer) e₁ = some ((), e') := by
  rw [sendAll, run_bind] at h
  obtain ⟨⟨u, e₁⟩, hsend, hrest⟩ := Option.bind_eq_some_iff.mp h
  exact ⟨e₁, hsend, hrest⟩

/-- No commas in the names that go into the command. -/
def CommaFreeDelivery (d : Delivery) : Prop := ',' ∉ rowOf d ∧ ',' ∉ d.mailFrom

instance (d : Delivery) : Decidable (CommaFreeDelivery d) :=
  inferInstanceAs (Decidable (_ ∧ _))

/-- The cell that a delivery means, with its value. -/
def emailCell (b : Base64) (strftime : Nat → Str) (d : Delivery) : (Str × Str) × Str :=
  ((rowOf d, emailColumn b strftime d), b.encode d.email_content)

lemma Delivered.set {d : Delivery} {t t' : Table} (h : Delivered b strftime d t t')
    (hd : CommaFreeDelivery d) :
    t' = t.set (rowOf d) (emailColumn b strftime d) (b.encode d.email_content) :=
  stores_clean hd.1 (fun hm => hd.2 (emailColumn_comma.mp hm)) (not_mem_encode b _ (by decide))
    (noCrlf_encode b _) h

theorem table_of_sendAll {ds : List Delivery} {e e' : σ} (he : T.valid e)
    (hds : ∀ d ∈ ds, CommaFreeDelivery d)
    (h : (sendAll b strftime ds).run (accepting Answered T.answer) e = some ((), e')) :
    T.table e' = (ds.map (emailCell b strftime)).foldl (fun t x => t.set x.1.1 x.1.2 x.2)
      (T.table e) := by
  induction ds generalizing e with
  | nil =>
    cases h
    rfl
  | cons d ds ih =>
    obtain ⟨e₁, hsend, hrest⟩ := sendAll_cons h
    obtain ⟨hv, hd⟩ := send_run he hsend
    rw [ih hv (fun x hx => hds x (List.mem_cons_of_mem d hx)) hrest,
      hd.set (hds d List.mem_cons_self)]
    rfl

lemma names_of_sendAll {ds : List Delivery} {e e' : σ} (he : T.valid e)
    (hnames : CommaFreeNames (T.table e))
    (h : (sendAll b strftime ds).run (accepting Answered T.answer) e = some ((), e')) :
    CommaFreeNames (T.table e') := by
  induction ds generalizing e with
  | nil =>
    cases h
    exact hnames
  | cons d ds ih =>
    obtain ⟨e₁, hsend, hrest⟩ := sendAll_cons h
    obtain ⟨hv, reply, ha, -⟩ := send_run he hsend
    exact ih hv (hnames.answersTo ha) hrest

/-- Each delivery has a cell of its own in the row of its user, with a value that decodes to
its content. -/
structure MailsKept (b : Base64) (strftime : Nat → Str) (ds : List Delivery) (t : Table) :
    Prop where
  kept : ∀ d ∈ ds, ∃ v, t.get (rowOf d) (emailColumn b strftime d) = some v ∧
    b.decode v = d.email_content
  separate : ds.Pairwise (fun d d' => rowOf d = rowOf d' →
    emailColumn b strftime d ≠ emailColumn b strftime d')

/-- Two deliveries to one user differ in the text that names the cell. -/
def OwnNames (b : Base64) (strftime : Nat → Str) (ds : List Delivery) : Prop :=
  ds.Pairwise (fun d d' => rowOf d = rowOf d' →
    d.mailFrom ++ "/".toList ++ b.encode (strftime d.rawtime) ≠
      d'.mailFrom ++ "/".toList ++ b.encode (strftime d'.rawtime))

lemma emailColumn_eq_iff {d d' : Delivery} : emailColumn b strftime d = emailColumn b strftime d' ↔
    d.mailFrom ++ "/".toList ++ b.encode (strftime d.rawtime) =
      d'.mailFrom ++ "/".toList ++ b.encode (strftime d'.rawtime) := by
  unfold emailColumn
  rw [List.append_assoc, List.append_assoc, List.append_assoc, List.append_assoc]
  constructor
  · intro h
    rw [List.append_assoc, List.append_assoc]
    exact List.append_cancel_left h
  · intro h
    rw [List.append_assoc, List.append_assoc] at h
    rw [h]

/-- Deliveries that the storage server all accepts keep every mail exactly if no name has a
comma in it and no two mails to a user have the same name. -/
theorem mails_kept_iff {ds : List Delivery} {e e' : σ} (he : T.valid e)
    (hnames : CommaFreeNames (T.table e)) (hbytes : ∀ d ∈ ds, Bytes d.email_content)
    (h : (sendAll b strftime ds).run (accepting Answered T.answer) e = some ((), e')) :
    MailsKept b strftime ds (T.table e') ↔
      (∀ d ∈ ds, CommaFreeDelivery d) ∧ OwnNames b strftime ds := by
  have hseparate : ds.Pairwise (fun d d' => rowOf d = rowOf d' →
      emailColumn b strftime d ≠ emailColumn b strftime d') ↔ OwnNames b strftime ds := by
    unfold OwnNames
    simp only [ne_eq, emailColumn_eq_iff]
  rw [← hseparate]
  constructor
  · intro hkept
    refine ⟨fun d hd => ?_, hkept.separate⟩
    obtain ⟨v, hv, -⟩ := hkept.kept d hd
    have hfree := names_of_sendAll he hnames h _ _ v hv
    exact ⟨hfree.1, fun hm => hfree.2 (emailColumn_comma.mpr hm)⟩
  · rintro ⟨hfree, hown⟩
    refine ⟨fun d hd => ⟨b.encode d.email_content, ?_, b.decode_encode _ (hbytes d hd)⟩, hown⟩
    rw [table_of_sendAll he hfree h]
    have hnodup : ((ds.map (emailCell b strftime)).map Prod.fst).Nodup := by
      rw [List.map_map, List.Nodup, List.pairwise_map]
      refine hown.imp (fun {x y} hxy heq => ?_)
      obtain ⟨hu, hc⟩ := Prod.mk.inj heq
      exact hxy hu hc
    exact NestedMap.get_foldl_set_of_mem hnodup (List.mem_map_of_mem hd) _

/-- A delivery that the storage server accepts. -/
structure Acceptable (b : Base64) (strftime : Nat → Str) (d : Delivery) : Prop where
  free : CommaFreeDelivery d
  line : NoCrlf (rowOf d ++ ',' :: emailColumn b strftime d)
  someContent : b.encode d.email_content ≠ []

lemma send_accepted {d : Delivery} (hd : Acceptable b strftime d) {e : σ} (he : T.valid e) :
    ∃ e', (d.send b strftime).run (accepting Answered T.answer) e = some ((), e') ∧
      T.valid e' := by
  obtain ⟨made, e₁, hconnect, hv₁, -⟩ := T.connect (rowOf d) e he
  have hline :
      NoCrlf (putText (rowOf d) (emailColumn b strftime d) (b.encode d.email_content)) := by
    have hfields := hd.line.comma (noCrlf_encode b d.email_content)
    rw [List.append_assoc, List.cons_append] at hfields
    exact noCrlf_word (by decide) hfields
  have hanswer : answerTo (splitKVStoreCommand (putText (rowOf d) (emailColumn b strftime d)
      (b.encode d.email_content))) (T.table e₁) = some (okMsg, (T.table e₁).set (rowOf d)
        (emailColumn b strftime d) (b.encode d.email_content)) := by
    rw [split_putText, getlines_append_delim hd.free.1,
      getlines_append_delim (fun hm => hd.free.2 (emailColumn_comma.mp hm)), getlines_encode,
      if_neg hd.someContent]
    rfl
  obtain ⟨e₂, hput, hv₂, -⟩ := T.answers (u := rowOf d) hv₁ hline hanswer
  have hok : Answered (.storage (rowOf d) (deliveryText b strftime d)) okMsg :=
    (by decide : "+OK".toList <+: okMsg)
  have hconnect : accepting Answered T.answer (.connect (rowOf d)) e = some (made, e₁) :=
    accepting_eq_some.mpr ⟨hconnect, trivial⟩
  have hput : accepting Answered T.answer (.storage (rowOf d) (deliveryText b strftime d)) e₁ =
      some (okMsg, e₂) := accepting_eq_some.mpr ⟨hput, hok⟩
  refine ⟨e₂, ?_, hv₂⟩
  rw [send_eq, run_bind, run_connectToBackend, hconnect, Option.bind_some, run_bind,
    run_exchange]
  rw [hput]
  rfl

lemma sendAll_accepted {ds : List Delivery} (hds : ∀ d ∈ ds, Acceptable b strftime d) {e : σ}
    (he : T.valid e) :
    ∃ e', (sendAll b strftime ds).run (accepting Answered T.answer) e = some ((), e') := by
  induction ds generalizing e with
  | nil => exact ⟨e, rfl⟩
  | cons d ds ih =>
    obtain ⟨e₁, hsend, hv₁⟩ := send_accepted (hds d List.mem_cons_self) he
    obtain ⟨e₂, hrest⟩ := ih (fun x hx => hds x (List.mem_cons_of_mem d hx)) hv₁
    refine ⟨e₂, ?_⟩
    rw [sendAll, run_bind, hsend]
    exact hrest

end

/-- The first ten seconds of the clock. -/
def earlyTime (rawtime : Nat) : Str :=
  "Thu Jan 01 00:00:0".toList ++ Nat.toDigits 10 rawtime ++ " 1970".toList

def mailFromAnna (email_content : Str) (rawtime : Nat) : Delivery where
  mailFrom := "anna@localhost".toList
  recipient_email := "bob".toList
  email_content := email_content
  rawtime := rawtime

/-- Two mails within one second. -/
def twoMails : List Delivery := [mailFromAnna "a\r\n".toList 0, mailFromAnna "b\r\n".toList 0]

lemma twoMails_acceptable : ∀ d ∈ twoMails, Acceptable base64 earlyTime d := by
  intro d hd
  have hfields : CommaFreeDelivery d ∧ NoCrlf (rowOf d ++ ',' :: emailColumn base64 earlyTime d) ∧
      base64.encode d.email_content ≠ [] := by
    rcases List.mem_pair.mp hd with rfl | rfl
    · decide +kernel
    · decide +kernel
  exact ⟨hfields.1, hfields.2.1, hfields.2.2⟩

lemma commaFreeNames_empty : CommaFreeNames ∅ := by
  intro row col v h
  simp at h

theorem mails_kept_two : ∃ e', (sendAll base64 earlyTime twoMails).run (accepting Answered
      (aloneTextService 0 (group1Address 2001)).answer) (aloneWorld ∅) = some ((), e') ∧
    (MailsKept base64 earlyTime twoMails (e'.server (group1Address 2001)).table ↔
      (∀ d ∈ twoMails, CommaFreeDelivery d) ∧ OwnNames base64 earlyTime twoMails) := by
  have hvalid : (aloneTextService 0 (group1Address 2001)).valid (aloneWorld ∅) :=
    aloneWorld_alone ∅
  obtain ⟨e', hrun⟩ := sendAll_accepted twoMails_acceptable hvalid
  exact ⟨e', hrun, mails_kept_iff hvalid commaFreeNames_empty (by decide) hrun⟩

/-- The second mail takes the cell of the first. -/
theorem mail_in_same_second_lost : ¬∀ (b : Base64) (strftime : Nat → Str) (σ : Type)
    (T : TextService σ) (ds : List Delivery) (e e' : σ), T.valid e → CommaFreeNames (T.table e) →
      (∀ d ∈ ds, Bytes d.email_content) →
      ds.Pairwise (fun d d' => d.rawtime ≤ d'.rawtime) →
      (sendAll b strftime ds).run (accepting Answered T.answer) e = some ((), e') →
      MailsKept b strftime ds (T.table e') := by
  intro h
  have hvalid : (aloneTextService 0 (group1Address 2001)).valid (aloneWorld ∅) :=
    aloneWorld_alone ∅
  obtain ⟨e', hrun⟩ := sendAll_accepted twoMails_acceptable hvalid
  have hkept := h base64 earlyTime World (aloneTextService 0 (group1Address 2001)) twoMails
    (aloneWorld ∅) e' hvalid commaFreeNames_empty (by decide) (by decide) hrun
  have hdiffer := List.rel_of_pairwise_cons hkept.separate List.mem_cons_self
  exact hdiffer rfl rfl

end CloudStorage.Proofs
