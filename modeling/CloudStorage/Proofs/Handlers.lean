import CloudStorage.Proofs.Requests

/-!
# What the handlers of requests ask

The handlers build their commands from the user name of the session and from fields of the
request. This file follows all requests other than login, signup and password change once,
for any set of permitted questions.
-/

namespace CloudStorage.Proofs
open DelimitedText Dialogue

/-- The questions in `P` include those about a row `u` and texts with `F`, given that the
answers have `Q`. A value that is stored again has `A`. -/
structure Permits (P : Action → Prop) (Q : (i : Action) → i.Answer → Prop) (u : Str)
    (F A : Str → Prop) : Prop where
  mail : ∀ command, P (.mail command)
  list : ∀ x, F x → P (.storage u ("LIST ".toList ++ u ++ ",".toList ++ x ++ "\r\n".toList))
  get : ∀ x, F x → P (.storage u ("GET ".toList ++ u ++ ",".toList ++ x ++ "\r\n".toList))
  delete : ∀ x, F x → P (.storage u ("DELETE ".toList ++ u ++ ",".toList ++ x ++ "\r\n".toList))
  put : ∀ x r, F x → A r →
    P (.storage u ("PUT ".toList ++ u ++ ",".toList ++ x ++ ",".toList ++ r))
  rest : ∀ x response r, F x →
    Q (.storage u ("GET ".toList ++ u ++ ",".toList ++ x ++ "\r\n".toList)) response →
    substr 4 response = some r → A r
  value : ∀ y, F y → A (y ++ "\r\n".toList)
  slash : ∀ x y, F x → F y → F (x ++ "/".toList ++ y)
  noCr : ∀ y, '\r' ∉ y → F y
  noLf : ∀ y, '\n' ∉ y → F y

variable {P : Action → Prop} {Q : (i : Action) → i.Answer → Prop} {u : Str} {F A : Str → Prop}

lemma asks_exchange {v text : Str} (h : P (.storage v text)) :
    (exchange v text).Asks P Q (Q (.storage v text)) := asks_question h

lemma asks_sendMail (hp : Permits P Q u F A) (command : Str) :
    (sendMail command).Asks P Q (fun _ => True) :=
  (asks_question (hp.mail command)).mono (fun _ _ => trivial)

lemma not_mem_encode (b : Base64) {ch : Char} (s : Str)
    (h : ¬(isalnum ch ∨ ch = '+' ∨ ch = '/' ∨ ch = '=')) : ch ∉ b.encode s :=
  fun hm => h (b.alphabet s ch hm)

namespace Permits

/-! ### Paths -/

lemma path (hp : Permits P Q u F A) {s : Session} {name : Str} (hi : F s.item) (hn : F name) :
    F (s.path name) := by
  unfold Session.path
  split
  · exact hp.slash _ _ hi hn
  · exact hn

lemma column (hp : Permits P Q u F A) {x : Str} (hx : F x) : F (contentPath x) :=
  hp.slash "/content".toList x (hp.noCr _ (by decide)) hx

/-! ### Pages -/

lemma asks_getDrive (hp : Permits P Q u F A) {directory : Str} (hd : F directory) :
    (getDrive u directory).Asks P Q (fun _ => True) := by
  have hc : "LIST ".toList ++ u ++ ",/content/".toList ++ directory ++ "\r\n".toList =
      "LIST ".toList ++ u ++ ",".toList ++ contentPath directory ++
        "\r\n".toList := by
    unfold contentPath
    rw [List.append_assoc _ ",/content/".toList, List.append_assoc _ ",".toList]
    rfl
  unfold getDrive
  rw [hc]
  exact Asks.bind (asks_exchange (hp.list _ (hp.column hd))) (fun _ _ => trivial)

lemma asks_getMailbox (hp : Permits P Q u F A) : (getMailbox u).Asks P Q (fun _ => True) := by
  have hc : "LIST ".toList ++ u ++ ",/emails".toList ++ "\r\n".toList =
      "LIST ".toList ++ u ++ ",".toList ++ "/emails".toList ++ "\r\n".toList := by
    rw [List.append_assoc _ ",".toList]
    rfl
  unfold getMailbox
  rw [hc]
  exact Asks.bind (asks_exchange (hp.list _ (hp.noCr _ (by decide)))) (fun _ _ => trivial)

end Permits

/-- The commands that consist of the text of a request and no user name. -/
def ownCommands (b : Base64) (s : Session) (content : Str) : List Str :=
  match s.reply_code with
  | .EMAIL =>
    if "delete".toList.isPrefixOf s.item then
      (deletedEmail s.item).toList.map (fun x => "DELETE ".toList ++ x ++ "\r\n".toList)
    else if s.item = "send".toList then []
    else ["GET ".toList ++ s.item ++ "\r\n".toList]
  | .FORWARD =>
    if content = [] then []
    else ["GET ".toList ++ b.decode (parseQuery (cString content) "email_id".toList) ++
      "\r\n".toList]
  | _ => []

/-- The fields of a request that become parts of columns. -/
def fieldsOf (s : Session) (content : Str) : List Str :=
  match s.reply_code with
  | .DELETE => [parseQuery (cString content) "fileName".toList]
  | .RENAME => [parseQuery (cString content) "fileName".toList,
      parseQuery (cString content) "newName".toList]
  | .MOVE => [parseQuery (cString content) "fileName".toList,
      parseQuery (cString content) "newPath".toList]
  | .NEWDIR => [parseQuery (cString content) "folderName".toList]
  | .UPLOAD => (parseMultipartFormData s.contentType content).toList.map Prod.snd
  | .DOWNLOAD => [after '=' (cString content)]
  | _ => []

namespace Permits

lemma asks_generateReply (hp : Permits P Q u F A) {b : Base64} {s : Session} (content : Str)
    (hu : s.username = u) (hi : F s.item)
    (hown : ∀ text ∈ ownCommands b s content, P (.storage u text)) :
    (generateReply b s).Asks P Q (fun _ => True) := by
  subst hu
  unfold generateReply
  cases hc : s.reply_code with
  | EMAIL =>
    simp only [ownCommands, hc] at hown
    dsimp only
    split
    · next hdel =>
      rw [if_pos hdel] at hown
      refine Asks.bind (R := fun _ => True) ?_ (fun _ _ => hp.asks_getMailbox)
      refine Asks.bind (asks_ofOption (R := fun x => deletedEmail s.item = some x)
        (fun _ h => h)) (fun x hx => ?_)
      rw [hx] at hown
      exact Asks.bind (asks_exchange (hown _ (by simp))) (fun _ _ => trivial)
    · next hdel =>
      rw [if_neg hdel] at hown
      unfold renderEmailPage
      split
      · trivial
      · next hsend =>
        rw [if_neg hsend] at hown
        refine Asks.bind (R := fun _ => True) ?_ (fun _ _ => trivial)
        refine Asks.bind (asks_exchange (hown _ (by simp))) (fun _ _ => ?_)
        exact asks_ofOption (fun _ _ => trivial)
  | MAILBOX => exact hp.asks_getMailbox
  | SENDEMAIL => exact hp.asks_getMailbox
  | FORWARD => exact hp.asks_getMailbox
  | DRIVE => exact hp.asks_getDrive hi
  | DOWNLOAD => exact hp.asks_getDrive hi
  | RENAME => exact hp.asks_getDrive hi
  | MOVE => exact hp.asks_getDrive hi
  | DELETE => exact hp.asks_getDrive hi
  | NEWDIR => exact hp.asks_getDrive hi
  | UPLOAD => exact hp.asks_getDrive hi
  | LOGIN => trivial
  | SIGNUP => trivial
  | NEWPASS => trivial
  | REDIRECT => trivial
  | MENU => trivial
  | NOTFOUND => trivial
  | FORBIDDEN => trivial

/-! ### Contents -/

lemma asks_mailMessage (hp : Permits P Q u F A) (username toEmail subject message : Str) :
    (mailMessage username toEmail subject message).Asks P Q (fun _ => True) := by
  unfold mailMessage
  refine Asks.bind (asks_sendMail hp _) (fun _ _ => ?_)
  refine Asks.bind (asks_sendMail hp _) (fun _ _ => ?_)
  exact Asks.bind (asks_sendMail hp _) (fun _ _ => asks_sendMail hp _)

lemma asks_deleteLines (hp : Permits P Q u F A) {lines : List Str} (h : ∀ l ∈ lines, F l) :
    (deleteLines u lines).Asks P Q (fun _ => True) := by
  induction lines with
  | nil => trivial
  | cons line lines ih =>
    have hrest := ih (fun l hl => h l (List.mem_cons_of_mem line hl))
    unfold deleteLines
    by_cases hline : line = []
    · rw [if_neg (not_not_intro hline)]
      exact hrest
    · rw [if_pos hline]
      refine Asks.bind (R := fun _ => True) ?_ (fun _ _ => hrest)
      refine Asks.bind (asks_exchange (hp.delete line (h line List.mem_cons_self))) ?_
      exact fun _ _ => trivial

lemma asks_moveCell (hp : Permits P Q u F A) {column newColumn : Str} (hc : F column)
    (hn : F newColumn) : (moveCell u column newColumn).Asks P Q (fun _ => True) := by
  unfold moveCell
  refine Asks.bind (asks_exchange (hp.get column hc)) (fun response hr => ?_)
  refine Asks.bind (asks_ofOption (fun r hs => hp.rest column response r hc hr hs))
    (fun r ha => ?_)
  refine Asks.bind (asks_exchange (hp.put newColumn r hn ha)) (fun _ _ => ?_)
  exact Asks.bind (asks_exchange (hp.delete column hc)) (fun _ _ => trivial)

lemma asks_moveLines (hp : Permits P Q u F A) {newColumn : Str} (hn : F newColumn)
    {lines : List Str} (h : ∀ l ∈ lines, F l) :
    (moveLines u newColumn lines).Asks P Q (fun _ => True) := by
  induction lines with
  | nil => trivial
  | cons line lines ih =>
    have hrest := ih (fun l hl => h l (List.mem_cons_of_mem line hl))
    unfold moveLines
    split
    · refine Asks.bind (R := fun _ => True) ?_ (fun _ _ => hrest)
      exact hp.asks_moveCell (h line List.mem_cons_self) hn
    · exact hrest

lemma lines (hp : Permits P Q u F A) (response : Str) : ∀ l ∈ getlines '\n' response, F l :=
  fun l hl => hp.noLf l (delim_not_mem_of_mem_getlines hl)

lemma asks_forward (hp : Permits P Q u F A) {b : Base64} {s : Session} {content : Str}
    (hown : P (.storage s.username ("GET ".toList ++
      b.decode (parseQuery content "email_id".toList) ++ "\r\n".toList))) :
    (s.forward b content).Asks P Q (fun _ => True) := by
  unfold Session.forward
  refine Asks.bind (asks_exchange hown) (fun response _ => ?_)
  refine Asks.bind (asks_ofOption (R := fun _ => True) (fun _ _ => trivial)) (fun r _ => ?_)
  refine Asks.bind (asks_ofOption (R := fun _ => True) (fun _ _ => trivial)) (fun x _ => ?_)
  exact hp.asks_mailMessage _ _ _ _

lemma asks_delete (hp : Permits P Q u F A) {s : Session} {content : Str} (hu : s.username = u)
    (hi : F s.item) (hf : F (parseQuery content "fileName".toList)) :
    (s.delete content).Asks P Q (fun _ => True) := by
  subst hu
  unfold Session.delete
  refine Asks.bind (asks_exchange (hp.list _ (hp.column (hp.path hi hf)))) ?_
  exact fun response _ => hp.asks_deleteLines (hp.lines response)

lemma asks_rename (hp : Permits P Q u F A) {s : Session} {content : Str} (hu : s.username = u)
    (hi : F s.item) (hf : F (parseQuery content "fileName".toList))
    (hn : F (parseQuery content "newName".toList)) :
    (s.rename content).Asks P Q (fun _ => True) := by
  subst hu
  exact hp.asks_moveCell (hp.column (hp.path hi hf)) (hp.column (hp.path hi hn))

lemma asks_move (hp : Permits P Q u F A) {s : Session} {content : Str} (hu : s.username = u)
    (hi : F s.item) (hf : F (parseQuery content "fileName".toList))
    (hn : F (parseQuery content "newPath".toList)) :
    (s.move content).Asks P Q (fun _ => True) := by
  subst hu
  have hnew : F (if s.item ≠ [] then parseQuery content "newPath".toList ++ "/".toList ++
      parseQuery content "fileName".toList else parseQuery content "newPath".toList) := by
    split
    · exact hp.slash _ _ hn hf
    · exact hn
  have hold := hp.column (hp.path hi hf)
  unfold Session.move
  dsimp only
  split
  · refine Asks.bind (asks_exchange (hp.list _ hold)) (fun response _ => ?_)
    exact hp.asks_moveLines (hp.column (hp.slash _ _ hnew hf)) (hp.lines response)
  · exact hp.asks_moveCell hold (hp.column hnew)

lemma asks_newdir (hp : Permits P Q u F A) {s : Session} {content : Str} (hu : s.username = u)
    (hi : F s.item) (hf : F (parseQuery content "folderName".toList)) :
    (s.newdir content).Asks P Q (fun _ => True) := by
  subst hu
  have hdir := hp.slash _ _ hi hf
  unfold Session.newdir
  dsimp only
  have hcol : F (if s.item = [] then "/content".toList ++ (s.item ++ "/".toList ++
      parseQuery content "folderName".toList)
      else contentPath (s.item ++ "/".toList ++
        parseQuery content "folderName".toList)) := by
    split
    · next hnil =>
      rw [hnil]
      exact hp.column hf
    · exact hp.column hdir
  refine Asks.bind (R := fun _ => True) ?_ (fun _ _ => trivial)
  have hput := hp.put _ _ hcol (hp.value "dummyData".toList (hp.noCr _ (by decide)))
  rw [List.append_assoc _ ",".toList] at hput
  exact (asks_exchange hput).mono (fun _ _ => trivial)

lemma asks_upload (hp : Permits P Q u F A) {b : Base64} {s : Session} {content : Str}
    (hu : s.username = u) (hi : F s.item)
    (hf : ∀ x, parseMultipartFormData s.contentType content = some x → F x.2) :
    (s.upload b content).Asks P Q (fun t => t = { s with contentType := [] }) := by
  subst hu
  unfold Session.upload
  refine Asks.bind (asks_ofOption hf) (fun x hx => ?_)
  have hvalue := hp.value (b.encode x.1) (hp.noCr _ (not_mem_encode b x.1 (by decide)))
  have hput := hp.put _ _ (hp.column (hp.path hi hx)) hvalue
  rw [← List.append_assoc] at hput
  exact Asks.bind (asks_exchange hput) (fun _ _ => rfl)

lemma asks_download (hp : Permits P Q u F A) {b : Base64} {s : Session} {content : Str}
    (hu : s.username = u) (hi : F s.item) (hc : s.reply_code = .DOWNLOAD)
    (hf : F (after '=' (cString content))) :
    (s.download b content).Asks P Q (fun _ => True) := by
  have hown : ownCommands b s content = [] := by
    unfold ownCommands
    rw [hc]
  have hpage : (generateReply b s).Asks P Q (fun _ => True) := by
    refine hp.asks_generateReply content hu hi (fun text ht => ?_)
    rw [hown] at ht
    exact absurd ht List.not_mem_nil
  subst hu
  unfold Session.download
  refine Asks.bind (asks_exchange (hp.get _ (hp.column (hp.path hi hf)))) (fun _ _ => ?_)
  refine Asks.bind (asks_ofOption (R := fun _ => True) (fun _ _ => trivial)) (fun _ _ => ?_)
  exact Asks.bind hpage (fun _ _ => trivial)

end Permits

/-- A request with this code is no login, signup or password change. -/
def NoCredentials (code : ReplyCode) : Prop := code ≠ .MENU ∧ code ≠ .SIGNUP ∧ code ≠ .NEWPASS

/-- What a request other than these leaves as it was. -/
structure SameView (s t : Session) : Prop where
  login : SameLogin s t
  reply_code : t.reply_code = s.reply_code
  item : t.item = s.item

lemma SameView.refl (s : Session) : SameView s s := ⟨SameLogin.refl s, rfl, rfl⟩

namespace Permits

lemma asks_requestContent (hp : Permits P Q u F A) {b : Base64} {s : Session} {content : Str}
    (hne : content ≠ []) (hu : s.username = u) (hi : F s.item)
    (hcode : NoCredentials s.reply_code) (hf : ∀ x ∈ fieldsOf s content, F x)
    (hown : ∀ text ∈ ownCommands b s content, P (.storage u text)) :
    (Session.requestContent b content s).Asks P Q (SameView s) := by
  have hkeep {d : Web Unit} (h : d.Asks P Q (fun _ => True)) :
      (do d; return s : Web Session).Asks P Q (SameView s) :=
    Asks.bind h (fun _ _ => SameView.refl s)
  unfold Session.requestContent
  dsimp only
  cases hc : s.reply_code with
  | MENU => exact absurd hc hcode.1
  | SIGNUP => exact absurd hc hcode.2.1
  | NEWPASS => exact absurd hc hcode.2.2
  | SENDEMAIL => exact hkeep (hp.asks_mailMessage _ _ _ _)
  | FORWARD =>
    simp only [ownCommands, hc, if_neg hne] at hown
    rw [← hu] at hown
    exact hkeep (hp.asks_forward (hown _ List.mem_cons_self))
  | DELETE =>
    simp only [fieldsOf, hc] at hf
    exact hkeep (hp.asks_delete hu hi (hf _ List.mem_cons_self))
  | RENAME =>
    simp only [fieldsOf, hc] at hf
    exact hkeep (hp.asks_rename hu hi (hf _ (by simp)) (hf _ (by simp)))
  | MOVE =>
    simp only [fieldsOf, hc] at hf
    exact hkeep (hp.asks_move hu hi (hf _ (by simp)) (hf _ (by simp)))
  | NEWDIR =>
    simp only [fieldsOf, hc] at hf
    exact hkeep (hp.asks_newdir hu hi (hf _ List.mem_cons_self))
  | UPLOAD =>
    simp only [fieldsOf, hc] at hf
    refine (hp.asks_upload hu hi (fun x hx => hf x.2 (by simp [hx]))).mono (fun t ht => ?_)
    subst ht
    exact ⟨⟨rfl, rfl, rfl, rfl⟩, rfl, rfl⟩
  | LOGIN => exact SameView.refl s
  | MAILBOX => exact SameView.refl s
  | DRIVE => exact SameView.refl s
  | EMAIL => exact SameView.refl s
  | DOWNLOAD => exact SameView.refl s
  | REDIRECT => exact SameView.refl s
  | NOTFOUND => exact SameView.refl s
  | FORBIDDEN => exact SameView.refl s

end Permits

lemma checked_cases (s : Session) (withContent : Bool) :
    s.checked withContent = s ∨ s.checked withContent = { s with reply_code := .FORBIDDEN } := by
  unfold Session.checked
  split
  · exact Or.inr rfl
  · exact Or.inl rfl

/-- The access check leaves the view, except that it may forbid the page. -/
lemma checked_view {s : Session} (withContent : Bool) :
    SameLogin s (s.checked withContent) ∧ (s.checked withContent).item = s.item ∧
      ((s.checked withContent).reply_code = s.reply_code ∨
        (s.checked withContent).reply_code = .FORBIDDEN) := by
  rcases checked_cases s withContent with h | h <;> rw [h]
  · exact ⟨SameLogin.refl s, rfl, Or.inl rfl⟩
  · exact ⟨⟨rfl, rfl, rfl, rfl⟩, rfl, Or.inr rfl⟩

lemma ownCommands_view (b : Base64) {s t : Session} (content : Str) (hi : t.item = s.item)
    (hc : t.reply_code = s.reply_code ∨ t.reply_code = .FORBIDDEN) :
    ownCommands b t content ⊆ ownCommands b s content := by
  unfold ownCommands
  rcases hc with hc | hc <;> rw [hc]
  · rw [hi]
    exact List.Subset.refl _
  · exact List.nil_subset _

/-- A request asks no other questions, and changes nothing that a login sets. -/
theorem Permits.asks_request (hp : Permits P Q u F A) {b : Base64} {s t : Session} {r : Request}
    (ht : s.received r = some t) (hu : s.username = u) (hi : F t.item)
    (hcode : NoCredentials t.reply_code) (hf : ∀ x ∈ fieldsOf t r.content, F x)
    (hown : ∀ text ∈ ownCommands b t r.content, P (.storage u text)) :
    (s.request b r).Asks P Q (fun y => SameLogin s y.1 ∧ y.1.item = t.item) := by
  obtain ⟨hsame, -, -⟩ := received_same ht
  have hut : t.username = u := hsame.username.trans hu
  -- the page is made from a session whose view is that of the received request
  have hpage {v : Session} (hv : SameLogin t v) (hiv : v.item = t.item)
      (hcv : v.reply_code = t.reply_code ∨ v.reply_code = .FORBIDDEN) :
      (generateReply b v).Asks P Q (fun _ => True) := by
    refine hp.asks_generateReply r.content (hv.username.trans hut) (hiv ▸ hi) ?_
    exact fun text hm => hown text (ownCommands_view b r.content hiv hcv hm)
  unfold Session.request
  rw [ht, ofOption_some, done_bind]
  dsimp only
  split
  · obtain ⟨hv, hiv, hcv⟩ := checked_view (s := t) false
    exact Asks.bind (hpage hv hiv hcv) (fun _ _ => ⟨hsame.trans hv, hiv⟩)
  · next hne =>
    refine Asks.bind (hp.asks_requestContent hne hut hi hcode hf hown) (fun v hv => ?_)
    obtain ⟨hl, hi', hc'⟩ := checked_view (s := v) true
    have hvl := hv.login.trans hl
    have hvi := hi'.trans hv.item
    rw [hv.reply_code] at hc'
    split
    · next hd =>
      have htd : t.reply_code = .DOWNLOAD := by
        rcases hc' with h | h
        · exact h.symm.trans hd
        · exact absurd (h.symm.trans hd) (by decide)
      have hname : after '=' (cString r.content) ∈ fieldsOf t r.content := by
        simp only [fieldsOf, htd, List.mem_singleton]
      have hask := hp.asks_download (b := b) (hvl.username.trans hut) (hvi ▸ hi) hd (hf _ hname)
      exact Asks.bind hask (fun _ _ => ⟨hsame.trans hvl, hvi⟩)
    · exact Asks.bind (hpage hvl hvi hc') (fun _ _ => ⟨hsame.trans hvl, hvi⟩)

/-- The storage is asked under one name only. -/
def AsksFor (u : Str) : Action → Prop
  | .connect _ => False
  | .storage v _ => v = u
  | .mail _ => True

lemma permits_asksFor (u : Str) :
    Permits (AsksFor u) (fun _ _ => True) u (fun _ => True) (fun _ => True) where
  mail _ := trivial
  list _ _ := rfl
  get _ _ := rfl
  delete _ _ := rfl
  put _ _ _ _ := rfl
  rest _ _ _ _ _ _ := trivial
  value _ _ := trivial
  slash _ _ _ _ := trivial
  noCr _ _ := trivial
  noLf _ _ := trivial

end CloudStorage.Proofs
