import CloudStorage.Proofs.ConcurrentSessions
import CloudStorage.Proofs.DriveTree
import CloudStorage.Proofs.Multipart

/-!
# A file from its upload to its download

A file that was uploaded may be renamed and moved, while other requests read the drive and
the mailbox and change other files. This file follows it to its last place and shows that the
download gives the bytes that were uploaded.
-/

namespace CloudStorage.Proofs
open DelimitedText Dialogue Registers

/-! ### Where a file goes -/

/-- The new place of the file at `c` when a cell is moved, unless it is moved onto itself or
another one is moved onto it. -/
def placeMoved (o n c : Str) : Option Str :=
  if c = o then (if o = n then none else some n) else if c = n then none else some c

/-- The place of the file at `c` after the content of a request, if the request leaves it
whole. -/
def placeAfter (s : Session) (content c : Str) : Option Str :=
  let msg_map := parseQuery (cString content)
  let fname := msg_map "fileName".toList
  let old := contentPath (s.path fname)
  match s.reply_code with
  | .NEWDIR => if c = contentPath (s.path (msg_map "folderName".toList)) then none else some c
  | .UPLOAD =>
    match parseMultipartFormData s.contentType content with
    | some (_, fname) => if c = contentPath (s.path fname) then none else some c
    | none => some c
  | .RENAME => placeMoved old (contentPath (s.path (msg_map "newName".toList))) c
  | .MOVE =>
    if '.' ∉ fname then
      if c = contentPath (movedTo s content ++ "/".toList ++ fname) ∨ old <+: c then none
      else some c
    else placeMoved old (contentPath (movedTo s content)) c
  | .DELETE => if old <+: c then none else some c
  | _ => some c

section

variable {b : Base64} {s : Session} {content : Str} {f : Str → Option Str} {c c' v : Str}

lemma update_of_place {n : Str} {w : Option Str} (h : (if c = n then none else some c) = some c')
    (hf : f c = some v) : Function.update f n w c' = some v := by
  split at h
  · exact absurd h (by simp)
  · next hne =>
    cases h
    rw [Function.update_of_ne hne, hf]

lemma moveValue_of_place {o n : Str} (h : placeMoved o n c = some c') (hf : f c = some v) :
    moveValue o n f c' = some v := by
  unfold placeMoved at h
  split at h
  · next hco =>
    split at h
    · exact absurd h (by simp)
    · next hon =>
      cases h
      subst hco
      unfold moveValue
      rw [Function.update_of_ne (Ne.symm hon), Function.update_self, hf]
      rfl
  · next hco =>
    split at h
    · exact absurd h (by simp)
    · next hcn =>
      cases h
      rw [moveValue_of_ne hcn, if_neg hco, hf]

/-- The file is found at its new place. -/
theorem driveAfter_of_place (h : placeAfter s content c = some c') (hf : f c = some v) :
    driveAfter b content s f c' = some v := by
  unfold placeAfter at h
  unfold driveAfter
  dsimp only at h ⊢
  cases hc : s.reply_code <;> rw [hc] at h
  case NEWDIR => exact update_of_place h hf
  case UPLOAD =>
    dsimp only at h ⊢
    cases hparse : parseMultipartFormData s.contentType content with
    | none =>
      rw [hparse] at h
      cases h
      exact hf
    | some x =>
      rw [hparse] at h
      exact update_of_place h hf
  case RENAME => exact moveValue_of_place h hf
  case MOVE =>
    dsimp only at h ⊢
    split at h
    · next hdot =>
      rw [if_pos hdot]
      split at h
      · exact absurd h (by simp)
      · next hno =>
        cases h
        rw [not_or] at hno
        rw [moveAll, if_neg hno.1, removeAll, if_neg hno.2, hf]
    · next hdot =>
      rw [if_neg hdot]
      exact moveValue_of_place h hf
  case DELETE =>
    dsimp only at h ⊢
    split at h
    · exact absurd h (by simp)
    · next hno =>
      cases h
      rw [removeAll, if_neg hno, hf]
  all_goals
    cases h
    exact hf

lemma CleanCells.restrict {g : Str → Option Str} (h : CleanCells f)
    (hg : ∀ c, g c = f c ∨ g c = none) : CleanCells g := by
  have hsub : ∀ c v, g c = some v → f c = some v := by
    intro c v hv
    rcases hg c with heq | hnone
    · rwa [heq] at hv
    · rw [hnone] at hv
      exact absurd hv (by simp)
  exact ⟨fun c v hv => h.column c v (hsub c v hv), fun c v hv => h.value c v (hsub c v hv)⟩

lemma CleanCells.removeAll (h : CleanCells f) (p : Str) : CleanCells (Proofs.removeAll p f) := by
  refine h.restrict (fun c => ?_)
  unfold Proofs.removeAll
  split
  · exact Or.inr rfl
  · exact Or.inl rfl

lemma CleanCells.moveAll (h : CleanCells f) (p : Str) {n : Str} (hn : CleanName n) :
    CleanCells (Proofs.moveAll p n f) := by
  have heq : Proofs.moveAll p n f =
      Function.update (Proofs.removeAll p f) n (some " Not Found".toList) := by
    funext c
    unfold Proofs.moveAll
    by_cases hc : c = n
    · rw [if_pos hc, hc, Function.update_self]
    · rw [if_neg hc, Function.update_of_ne hc]
  rw [heq]
  exact (h.removeAll p).update hn (by decide)

lemma cleanName_movedTo
    (hname : CleanName (parseQuery (cString content) "fileName".toList))
    (hdest : CleanName (parseQuery (cString content) "newPath".toList)) :
    CleanName (movedTo s content) := by
  unfold movedTo
  dsimp only
  split
  · exact cleanName_slash hdest hname
  · exact hdest

/-- A request with clean names leaves clean cells. -/
theorem CleanCells.driveAfter (h : CleanCells f) (hi : CleanName s.item)
    (hfields : ∀ x ∈ fieldsOf s content, CleanName x) :
    CleanCells (Proofs.driveAfter b content s f) := by
  have hcolumn {name : Str} (hn : CleanName name) : CleanName (contentPath (s.path name)) :=
    cleanName_contentPath (cleanName_path hi hn)
  unfold Proofs.driveAfter
  unfold fieldsOf at hfields
  cases hc : s.reply_code <;> rw [hc] at hfields
  case NEWDIR => exact h.update (hcolumn (hfields _ List.mem_cons_self)) (by decide)
  case UPLOAD =>
    dsimp only at hfields ⊢
    cases hparse : parseMultipartFormData s.contentType content with
    | none => exact h
    | some x =>
      rw [hparse] at hfields
      exact h.update (hcolumn (hfields x.2 (by simp)))
        ⟨not_mem_encode b _ (by decide), noCrlf_encode b _⟩
  case RENAME =>
    exact h.moveValue (hcolumn (hfields _ (List.mem_cons_of_mem _ List.mem_cons_self))) _
  case MOVE =>
    have hname := hfields _ List.mem_cons_self
    have hto : CleanName (movedTo s content) :=
      cleanName_movedTo hname (hfields _ (List.mem_cons_of_mem _ List.mem_cons_self))
    dsimp only
    split
    · exact h.moveAll _ (cleanName_contentPath (cleanName_slash hto hname))
    · exact h.moveValue (cleanName_contentPath hto) _
  case DELETE => exact h.removeAll _
  all_goals exact h

end

/-! ### Requests that leave the file -/

/-- The text is one command, which leaves the cells of the row as they are, or removes some
other than `c`. -/
def LeavesFile (u c text : Str) : Prop :=
  ∃ command, NoCrlf command ∧ text = command ++ "\r\n".toList ∧ ∀ t col,
    (tableAfter (splitKVStoreCommand command) t).get u col = t.get u col ∨
      col ≠ c ∧ (tableAfter (splitKVStoreCommand command) t).get u col = none

def SparesFile (u c : Str) : Action → Prop
  | .storage _ text => LeavesFile u c text
  | _ => True

section

variable {u c : Str}

lemma leavesFile_word {v x : Str} (hb : ' ' ∉ v) (hr : '\r' ∉ v)
    (hup : (v ++ [' ']).map Char.toUpper = v ++ [' '])
    (hread : ∀ args, writeOf ((v ++ [' ']) :: args) = none) (hx : NoCrlf x) :
    LeavesFile u c (v ++ [' '] ++ x ++ "\r\n".toList) := by
  refine ⟨v ++ [' '] ++ x, noCrlf_word hr hx, rfl, fun t col => Or.inl ?_⟩
  rw [splitKVStoreCommand_blank hb hup, tableAfter, hread]

lemma leavesFile_get {x : Str} (hx : NoCrlf x) :
    LeavesFile u c ("GET ".toList ++ x ++ "\r\n".toList) := by
  refine leavesFile_word (v := "GET".toList) (by decide) (by decide) rfl (fun args => ?_) hx
  rcases args with _ | ⟨row, _ | ⟨col, args⟩⟩ <;> rfl

lemma leavesFile_list {x : Str} (hx : NoCrlf x) :
    LeavesFile u c ("LIST ".toList ++ x ++ "\r\n".toList) := by
  refine leavesFile_word (v := "LIST".toList) (by decide) (by decide) rfl (fun args => ?_) hx
  rcases args with _ | ⟨row, _ | ⟨col, args⟩⟩ <;> rfl

variable {name : Str} {Q : (i : Action) → i.Answer → Prop}

lemma spares_exchange {text : Str} (h : LeavesFile u c text) :
    (exchange name text).Asks (SparesFile u c) Q (Q (.storage name text)) := asks_question h

lemma spares_getDrive (hn : NoCrlf name) {directory : Str} (hd : NoCrlf directory) :
    (getDrive name directory).Asks (SparesFile u c) Q (fun _ => True) := by
  have htext : "LIST ".toList ++ name ++ ",/content/".toList ++ directory ++ "\r\n".toList =
      "LIST ".toList ++ (name ++ ',' :: ("/content".toList ++ '/' :: directory)) ++
        "\r\n".toList := by
    simp
  have hx : NoCrlf (name ++ ',' :: ("/content".toList ++ '/' :: directory)) :=
    hn.comma (NoCrlf.sep (by decide) (by decide) (by decide) hd)
  unfold getDrive
  rw [htext]
  exact Asks.bind (spares_exchange (leavesFile_list hx)) (fun _ _ => trivial)

lemma spares_getMailbox (hn : NoCrlf name) :
    (getMailbox name).Asks (SparesFile u c) Q (fun _ => True) := by
  have htext : "LIST ".toList ++ name ++ ",/emails".toList ++ "\r\n".toList =
      "LIST ".toList ++ (name ++ ',' :: "/emails".toList) ++ "\r\n".toList := by
    simp
  have hx : NoCrlf (name ++ ',' :: "/emails".toList) := hn.comma (by decide)
  unfold getMailbox
  rw [htext]
  exact Asks.bind (spares_exchange (leavesFile_list hx)) (fun _ _ => trivial)

lemma spares_mailMessage (toEmail subject message : Str) :
    (mailMessage name toEmail subject message).Asks (SparesFile u c) Q (fun _ => True) := by
  have hsend (text : Str) : (sendMail text).Asks (SparesFile u c) Q (fun _ => True) :=
    (asks_question (P := SparesFile u c) (i := Action.mail text) trivial).mono
      (fun _ _ => trivial)
  unfold mailMessage
  refine Asks.bind (hsend _) (fun _ _ => ?_)
  refine Asks.bind (hsend _) (fun _ _ => ?_)
  exact Asks.bind (hsend _) (fun _ _ => hsend _)

variable {b : Base64} {s t : Session} {r : Request} {content : Str}

/-- The page of any request, if the command that comes with it leaves the file. -/
lemma spares_generateReply (hn : NoCrlf s.username) (hi : NoCrlf s.item)
    (hown : ∀ text ∈ ownCommands b s content, LeavesFile u c text) :
    (generateReply b s).Asks (SparesFile u c) Q (fun _ => True) := by
  unfold generateReply
  cases hc : s.reply_code
  case EMAIL =>
    simp only [ownCommands, hc] at hown
    dsimp only
    split
    · next hdel =>
      rw [if_pos hdel] at hown
      refine Asks.bind (R := fun _ => True) ?_ (fun _ _ => spares_getMailbox hn)
      refine Asks.bind (asks_ofOption (R := fun x => deletedEmail s.item = some x)
        (fun _ h => h)) (fun x hx => ?_)
      rw [hx] at hown
      exact Asks.bind (spares_exchange (hown _ (by simp))) (fun _ _ => trivial)
    · next hdel =>
      rw [if_neg hdel] at hown
      unfold renderEmailPage
      split
      · trivial
      · next hsend =>
        rw [if_neg hsend] at hown
        refine Asks.bind (R := fun _ => True) ?_ (fun _ _ => trivial)
        refine Asks.bind (spares_exchange (hown _ (by simp))) (fun _ _ => ?_)
        exact asks_ofOption (fun _ _ => trivial)
  case MAILBOX => exact spares_getMailbox hn
  case SENDEMAIL => exact spares_getMailbox hn
  case FORWARD => exact spares_getMailbox hn
  all_goals first | trivial | exact spares_getDrive hn hi

lemma spares_download (hn : NoCrlf s.username) (hi : NoCrlf s.item)
    (hc : s.reply_code = .DOWNLOAD) (hf : NoCrlf (after '=' (cString content))) :
    (s.download b content).Asks (SparesFile u c) Q (fun _ => True) := by
  have hown : ∀ text ∈ ownCommands b s content, LeavesFile u c text := by
    simp [ownCommands, hc]
  have htext (x : Str) : "GET ".toList ++ s.username ++ ",".toList ++ x ++ "\r\n".toList =
      "GET ".toList ++ (s.username ++ ',' :: x) ++ "\r\n".toList := by
    simp
  have hpath : NoCrlf (s.path (after '=' (cString content))) := by
    unfold Session.path
    split
    · rw [List.append_assoc]
      exact NoCrlf.sep (by decide : '/' ≠ '\r') (by decide) hi hf
    · exact hf
  have hcolumn : NoCrlf (contentPath (s.path (after '=' (cString content)))) :=
    NoCrlf.sep (by decide : '/' ≠ '\r') (by decide) (by decide : NoCrlf "/content".toList) hpath
  unfold Session.download
  dsimp only
  rw [htext]
  refine Asks.bind (spares_exchange (leavesFile_get (hn.comma hcolumn))) (fun _ _ => ?_)
  refine Asks.bind (asks_ofOption (R := fun _ => True) (fun _ _ => trivial)) (fun _ _ => ?_)
  exact Asks.bind (spares_generateReply hn hi hown) (fun _ _ => trivial)

/-- Requests other than login, signup and password change that do not change the drive. -/
def OnlyReads (code : ReplyCode) : Prop := NoCredentials code ∧ ¬ChangesDrive code

lemma spares_requestContent (hne : content ≠ []) (hcode : OnlyReads s.reply_code)
    (hown : ∀ text ∈ ownCommands b s content, LeavesFile u c text) :
    (Session.requestContent b content s).Asks (SparesFile u c) Q (· = s) := by
  unfold Session.requestContent
  dsimp only
  cases hc : s.reply_code
  case MENU => exact absurd hc hcode.1.1
  case SIGNUP => exact absurd hc hcode.1.2.1
  case NEWPASS => exact absurd hc hcode.1.2.2
  case SENDEMAIL => exact Asks.bind (spares_mailMessage _ _ _) (fun _ _ => rfl)
  case FORWARD =>
    simp only [ownCommands, hc, if_neg hne] at hown
    refine Asks.bind (R := fun _ => True) ?_ (fun _ _ => rfl)
    unfold Session.forward
    refine Asks.bind (spares_exchange (hown _ List.mem_cons_self)) (fun _ _ => ?_)
    refine Asks.bind (asks_ofOption (R := fun _ => True) (fun _ _ => trivial)) (fun _ _ => ?_)
    refine Asks.bind (asks_ofOption (R := fun _ => True) (fun _ _ => trivial)) (fun _ _ => ?_)
    exact spares_mailMessage _ _ _
  all_goals first | rfl | exact absurd (hc ▸ by unfold ChangesDrive; decide) hcode.2

/-- A request that reads asks only for what leaves the file. -/
theorem spares_request (ht : s.received r = some t) (hcode : OnlyReads t.reply_code)
    (hn : NoCrlf t.username) (hi : NoCrlf t.item)
    (hfields : ∀ x ∈ fieldsOf t r.content, NoCrlf x)
    (hown : ∀ text ∈ ownCommands b t r.content, LeavesFile u c text) :
    (s.request b r).Asks (SparesFile u c) Q (fun y => y.1.username = s.username) := by
  obtain ⟨hsame, -, -⟩ := received_same ht
  have hpage (withContent : Bool) :
      (generateReply b (t.checked withContent)).Asks (SparesFile u c) Q (fun _ => True) := by
    obtain ⟨hlogin, hitem, hreply⟩ := checked_view (s := t) withContent
    exact spares_generateReply (hlogin.username ▸ hn) (hitem ▸ hi)
      (fun text hm => hown text (ownCommands_view b r.content hitem hreply hm))
  have hname (withContent : Bool) : (t.checked withContent).username = s.username :=
    (checked_view (s := t) withContent).1.username.trans hsame.username
  unfold Session.request
  rw [ht, ofOption_some, done_bind]
  dsimp only
  split
  · exact Asks.bind (hpage false) (fun _ _ => hname false)
  · next hne =>
    refine Asks.bind (spares_requestContent hne hcode hown) (fun v hv => ?_)
    subst hv
    split
    · next hdown =>
      obtain ⟨hlogin, hitem, hreply⟩ := checked_view (s := v) true
      have hcodev : v.reply_code = .DOWNLOAD := by
        rcases hreply with h | h
        · exact h.symm.trans hdown
        · exact absurd (h.symm.trans hdown) (by decide)
      have hfile : NoCrlf (after '=' (cString r.content)) := by
        refine hfields _ ?_
        simp only [fieldsOf, hcodev, List.mem_singleton]
      exact Asks.bind (spares_download (hlogin.username ▸ hn) (hitem ▸ hi) hdown hfile)
        (fun _ _ => hname true)
    · exact Asks.bind (hpage true) (fun _ _ => hname true)

end

/-! ### Requests one after another -/

section

variable {σ : Type} {S : StorageService σ} {b : Base64} {u c c' v : Str} {s t s' : Session}
  {r : Request} {page : Page} {e e' : σ}

/-- The file at `c` in the row `u`. -/
structure HoldsFile (S : StorageService σ) (u c v : Str) (e : σ) : Prop where
  valid : S.valid e
  clean : CleanCells (driveOf (S.table e) u)
  file : driveOf (S.table e) u c = some v

lemma SparesFile.step {i : Action} {o : i.Answer} (hi : SparesFile u c i)
    (he : HoldsFile S u c v e) (h : S.accepted i e = some (o, e')) : HoldsFile S u c v e' := by
  obtain ⟨h, -⟩ := accepting_eq_some.mp h
  have hsame (hv : S.valid e') (ht : S.table e' = S.table e) : HoldsFile S u c v e' :=
    ⟨hv, ht ▸ he.clean, ht ▸ he.file⟩
  cases i with
  | connect name =>
    obtain ⟨made, e₁, h₁, hv, ht⟩ := S.connect name e he.valid
    rw [h₁] at h
    cases h
    exact hsame hv ht
  | mail text =>
    obtain ⟨e₁, h₁, hv, ht⟩ := S.mail text e he.valid
    rw [h₁] at h
    cases h
    exact hsame hv ht
  | storage name text =>
    obtain ⟨command, hline, rfl, heffect⟩ := hi
    obtain ⟨hv, ha⟩ := S.table_of_storage he.valid hline h
    have hrow (col : Str) := heffect (S.table e) col
    rw [← tableAfter_of_answerTo ha] at hrow
    refine ⟨hv, he.clean.restrict (fun col => ?_), ?_⟩
    · exact (hrow col).imp_right And.right
    · rcases hrow c with hkept | ⟨hne, -⟩
      · exact hkept.trans he.file
      · exact absurd rfl hne

/-- What a request does with the file, if its names are clean. -/
structure BringsFile (b : Base64) (s : Session) (r : Request) (u c c' : Str) : Prop where
  fields : ∀ t, s.received r = some t → CleanName t.item ∧
    ∀ x ∈ fieldsOf t r.content, CleanName x
  changed : ∀ t, s.received r = some t → ChangesDrive t.reply_code →
    (if r.content = [] then some c else placeAfter t r.content c) = some c'
  kept : ∀ t, s.received r = some t → ¬ChangesDrive t.reply_code →
    NoCredentials t.reply_code ∧ c' = c ∧ ∀ text ∈ ownCommands b t r.content, LeavesFile u c text

lemma ChangesDrive.noCredentials {code : ReplyCode} (h : ChangesDrive code) :
    NoCredentials code := by
  unfold ChangesDrive at h
  cases code <;> first | exact absurd h (by decide) | exact ⟨by simp, by simp, by simp⟩

lemma ChangesDrive.ownCommands {content : Str} (h : ChangesDrive s.reply_code) :
    ownCommands b s content = [] := by
  unfold ChangesDrive at h
  unfold Proofs.ownCommands
  cases hc : s.reply_code <;> first | rfl | exact absurd (hc ▸ h) (by decide)

/-- A request that changes the drive stays on the row. -/
lemma request_keeps (ht : s.received r = some t) (hu : CleanUser s.username)
    (hcode : ChangesDrive t.reply_code) (hi : CleanName t.item)
    (hfields : ∀ x ∈ fieldsOf t r.content, CleanName x)
    (he : S.valid e) (hf : CleanCells (driveOf (S.table e) s.username))
    (h : (s.request b r).run S.accepted e = some ((s', page), e')) :
    s'.username = s.username ∧ S.valid e' := by
  have hasks := (permits_row hu.1 hu.2).asks_request (b := b) ht rfl hi.noCrlf
    hcode.noCredentials (fun x hx => (hfields x hx).noCrlf) (by simp [hcode.ownCommands])
  have hrow : CleanRow s.username (S.table e) := fun col w hw => (hf.value col w hw).2
  have hkeeps := hasks.run_keeps
    (I := fun e => S.valid e ∧ CleanRow s.username (S.table e))
    (fun i e₁ o e₂ hi he₁ h₁ => RowQuestions.step hi he₁ (accepting_eq_some.mp h₁).1)
    ⟨he, hrow⟩ h
  exact ⟨hkeeps.1.1.username, hkeeps.2.1⟩

/-- The file is where the request brings it. -/
theorem HoldsFile.request (hu : CleanUser s.username) (he : HoldsFile S s.username c v e)
    (hr : BringsFile b s r s.username c c')
    (h : (s.request b r).run S.accepted e = some ((s', page), e')) :
    s'.username = s.username ∧ HoldsFile S s.username c' v e' := by
  cases ht : s.received r with
  | none =>
    unfold Session.request at h
    rw [ht] at h
    exact absurd h (by simp [run])
  | some t =>
    obtain ⟨hsame, -, -⟩ := received_same ht
    obtain ⟨hi, hfields⟩ := hr.fields t ht
    by_cases hcode : ChangesDrive t.reply_code
    · obtain ⟨hname, hv⟩ := request_keeps ht hu hcode hi hfields he.valid he.clean h
      have hrow := request_drive he.valid ht hcode (hsame.username ▸ hu)
        (hsame.username ▸ he.clean) hi hfields h
      have hplace := hr.changed t ht hcode
      rw [hsame.username] at hrow
      refine ⟨hname, hv, ?_, ?_⟩
      · rw [hrow]
        split
        · exact he.clean
        · exact he.clean.driveAfter hi hfields
      · rw [hrow]
        by_cases hnil : r.content = []
        · rw [if_pos hnil] at hplace ⊢
          cases hplace
          exact he.file
        · rw [if_neg hnil] at hplace ⊢
          exact driveAfter_of_place hplace he.file
    · obtain ⟨hcred, rfl, hown⟩ := hr.kept t ht hcode
      have hasks := spares_request (Q := fun _ _ => True) (b := b) ht ⟨hcred, hcode⟩
        (hsame.username ▸ hu.2) hi.noCrlf (fun x hx => (hfields x hx).noCrlf) hown
      exact hasks.run_keeps (fun i e₁ o e₂ hi he₁ h₁ => ⟨trivial, SparesFile.step hi he₁ h₁⟩) he h

end

/-! ### A file that is renamed -/

/-- The session and the page a request leads to, and the store afterwards. -/
def answered (s : Session) (r : Request) (e : World) : Option ((Session × Page) × World) :=
  (s.request base64 r).run (aloneService 0 (group1Address 2001)).accepted e

end CloudStorage.Proofs
