import CloudStorage.Proofs.Requests

/-!
# Effects and the access check

The content of a request is handled before the access check, and the check goes by the last
cookie that any request of the connection brought. This file proves which requests have an
effect only when they are authorised.
-/

namespace CloudStorage.Proofs
open DelimitedText Dialogue

/-- A storage command or a mail. -/
def HasEffect : Action → Prop
  | .connect _ => False
  | .storage _ _ => True
  | .mail _ => True

/-- The requests that are to have an effect only when authorised. -/
def Guarded (code : ReplyCode) : Prop :=
  code ∈ [.SENDEMAIL, .FORWARD, .DELETE, .RENAME, .MOVE, .NEWDIR, .UPLOAD]

instance : DecidablePred Guarded := fun code => inferInstanceAs (Decidable (code ∈ _))

/-- A guarded request has an effect only if the connection is logged in and the cookie sent
with the request is that of the session. -/
def EffectAuthorised (b : Base64) (s : Session) (r : Request) : Prop :=
  ∀ t, s.received r = some t → Guarded t.reply_code → (s.request b r).CanAsk HasEffect →
    s.logged_in = true ∧ cookieSent r = some s.sid

/-- The condition on a guarded request: it is authorised, or it comes without content and
does not rest on the cookie of an earlier request, or it is an upload that cannot be read. -/
def OwnAuthority (s : Session) (r : Request) : Prop :=
  ∀ t, s.received r = some t → Guarded t.reply_code →
    (s.logged_in = true ∧ cookieSent r = some s.sid) ∨
    (r.content = [] ∧ ¬(s.logged_in = true ∧ cookieSent r = none ∧ s.tmp_sid = s.sid)) ∨
    (r.content ≠ [] ∧ t.reply_code = .UPLOAD ∧
      parseMultipartFormData t.contentType r.content = none)

/-! ### Which stages have an effect -/

lemma canAsk_exchange (username command : Str) : (exchange username command).CanAsk HasEffect :=
  Or.inl trivial

lemma canAsk_sendMail (command : Str) : (sendMail command).CanAsk HasEffect := Or.inl trivial

lemma canAsk_getDrive (username directory : Str) :
    (getDrive username directory).CanAsk HasEffect :=
  canAsk_bind (canAsk_exchange _ _) _

lemma canAsk_getMailbox (username : Str) : (getMailbox username).CanAsk HasEffect :=
  canAsk_bind (canAsk_exchange _ _) _

/-- The page of a guarded request shows a folder or the mailbox. -/
lemma canAsk_generateReply (b : Base64) {s : Session} (h : Guarded s.reply_code) :
    (generateReply b s).CanAsk HasEffect := by
  unfold generateReply
  cases hc : s.reply_code with
  | SENDEMAIL => exact canAsk_getMailbox _
  | FORWARD => exact canAsk_getMailbox _
  | DELETE => exact canAsk_getDrive _ _
  | RENAME => exact canAsk_getDrive _ _
  | MOVE => exact canAsk_getDrive _ _
  | NEWDIR => exact canAsk_getDrive _ _
  | UPLOAD => exact canAsk_getDrive _ _
  | _ =>
    rw [hc] at h
    exact absurd h (by decide)

lemma generateReply_forbidden (b : Base64) {s : Session} (h : s.reply_code = .FORBIDDEN) :
    generateReply b s = done (.error .FORBIDDEN) := by
  unfold generateReply
  rw [h]
  rfl

/-- The access check makes no exception for guarded requests. -/
lemma checked_of_guarded {s : Session} (h : Guarded s.reply_code) (withContent : Bool) :
    s.checked withContent =
      if s.authorised then s else { s with reply_code := .FORBIDDEN } := by
  have hne : ∀ code, Guarded code →
      code ≠ .LOGIN ∧ code ≠ .SIGNUP ∧ code ≠ .NEWPASS ∧ code ≠ .REDIRECT := by
    intro code
    cases code <;> decide
  obtain ⟨hlogin, hsignup, hnewpass, hredirect⟩ := hne s.reply_code h
  unfold Session.checked
  by_cases ha : s.authorised
  · rw [if_pos ha, if_neg (fun hc => hc.2.2.2.2 ha)]
  · rw [if_neg ha, if_pos ⟨hlogin, hsignup, hnewpass, fun hc => hredirect hc.2, ha⟩]

lemma canAsk_moveCell (username column newColumn : Str) :
    (moveCell username column newColumn).CanAsk HasEffect :=
  canAsk_bind (canAsk_exchange _ _) _

/-- The content of a guarded request has an effect whenever it can be read. -/
lemma canAsk_requestContent (b : Base64) (content : Str) {s : Session}
    (h : Guarded s.reply_code)
    (hread : s.reply_code = .UPLOAD → parseMultipartFormData s.contentType content ≠ none) :
    (Session.requestContent b content s).CanAsk HasEffect := by
  unfold Session.requestContent
  cases hc : s.reply_code with
  | SENDEMAIL => exact canAsk_bind (canAsk_bind (canAsk_sendMail _) _) _
  | FORWARD => exact canAsk_bind (canAsk_bind (canAsk_exchange _ _) _) _
  | DELETE => exact canAsk_bind (canAsk_bind (canAsk_exchange _ _) _) _
  | RENAME => exact canAsk_bind (canAsk_moveCell _ _ _) _
  | MOVE =>
    refine canAsk_bind ?_ _
    unfold Session.move
    dsimp only
    split
    · exact canAsk_bind (canAsk_exchange _ _) _
    · exact canAsk_moveCell _ _ _
  | NEWDIR => exact canAsk_bind (canAsk_bind (canAsk_exchange _ _) _) _
  | UPLOAD =>
    obtain ⟨file, hf⟩ := Option.ne_none_iff_exists'.mp (hread hc)
    unfold Session.upload
    rw [hf]
    exact canAsk_bind (canAsk_exchange _ _) _
  | _ =>
    rw [hc] at h
    exact absurd h (by decide)

/-- A request without content has an effect exactly when it passes the access check. -/
lemma canAsk_request_nil (b : Base64) {s t : Session} {r : Request} (ht : s.received r = some t)
    (h : Guarded t.reply_code) (hnil : r.content = []) :
    (s.request b r).CanAsk HasEffect ↔ t.authorised := by
  unfold Session.request
  rw [ht, ofOption_some, done_bind, if_pos hnil]
  rw [checked_of_guarded h]
  by_cases ha : t.authorised
  · rw [if_pos ha]
    exact iff_of_true (canAsk_bind (canAsk_generateReply b h) _) ha
  · rw [if_neg ha]
    dsimp only
    rw [generateReply_forbidden b rfl]
    exact iff_of_false id ha

lemma canAsk_request_content (b : Base64) {s t : Session} {r : Request}
    (ht : s.received r = some t) (h : Guarded t.reply_code) (hne : r.content ≠ []) :
    (s.request b r).CanAsk HasEffect ↔ ¬(t.reply_code = .UPLOAD ∧
      parseMultipartFormData t.contentType r.content = none) := by
  unfold Session.request
  rw [ht, ofOption_some, done_bind, if_neg hne]
  constructor
  · rintro hask ⟨hcode, hparse⟩
    rw [Session.requestContent, hcode] at hask
    simp only [Session.upload, hparse, ofOption_none, stop_bind] at hask
    exact hask
  · intro hread
    exact canAsk_bind (canAsk_requestContent b _ h (fun hc hp => hread ⟨hc, hp⟩)) _

/-- A request has effects only when authorised exactly if it meets the condition. -/
lemma effectAuthorised_iff (b : Base64) (s : Session) (r : Request) :
    EffectAuthorised b s r ↔ OwnAuthority s r := by
  refine forall_congr' (fun t => imp_congr_right (fun ht => imp_congr_right (fun hg => ?_)))
  obtain ⟨hsame, htmp, -⟩ := received_same ht
  by_cases hnil : r.content = []
  · rw [canAsk_request_nil b ht hg hnil, Session.authorised, hsame.logged_in, hsame.sid, htmp]
    constructor
    · intro h
      by_cases hstale : s.logged_in = true ∧ cookieSent r = none ∧ s.tmp_sid = s.sid
      · obtain ⟨hl, hc, hs⟩ := hstale
        have hsid : s.sid = (cookieSent r).getD s.tmp_sid := by
          rw [hc]
          exact hs.symm
        exact Or.inl (h ⟨hl, hsid⟩)
      · exact Or.inr (Or.inl ⟨hnil, hstale⟩)
    · rintro (h | ⟨-, h⟩ | ⟨h, -⟩) ⟨hl, hs⟩
      · exact h
      · cases hc : cookieSent r with
        | none =>
          rw [hc, Option.getD_none] at hs
          exact absurd ⟨hl, hc, hs.symm⟩ h
        | some c =>
          rw [hc, Option.getD_some] at hs
          exact ⟨hl, congrArg some hs.symm⟩
      · exact absurd hnil h
  · rw [canAsk_request_content b ht hg hnil]
    constructor
    · intro h
      by_cases hread : t.reply_code = .UPLOAD ∧
          parseMultipartFormData t.contentType r.content = none
      · exact Or.inr (Or.inr ⟨hnil, hread⟩)
      · exact Or.inl (h hread)
    · rintro (h | ⟨h, -⟩ | ⟨-, h⟩) hread
      · exact h
      · exact absurd h hnil
      · exact absurd h hread

/-! ### Runs -/

variable {σ : Type}

/-- What holds of each request of a run, in the session it comes to. -/
def Throughout (b : Base64) (env : (i : Action) → σ → Option (i.Answer × σ)) (x : Session × σ)
    (rs : List Request) (P : Session → Request → Prop) : Prop :=
  (connection b env).Along (fun y r => P y.1 r) x rs

/-- In a run of a connection the guarded requests have effects only when authorised exactly
if each of them meets the condition. -/
theorem effects_authorised_iff (b : Base64) (env : (i : Action) → σ → Option (i.Answer × σ))
    (x : Session × σ) (rs : List Request) :
    Throughout b env x rs (EffectAuthorised b) ↔ Throughout b env x rs OwnAuthority := by
  unfold Throughout
  apply System.along_congr
  intro y r
  exact effectAuthorised_iff b y.1 r

/-- A request to delete a file, without a cookie. -/
def strangersDelete : Request where
  method := .POST
  target := "/delete HTTP/1.1".toList
  headers := ["Content-Length: 10".toList]
  content := "fileName=a".toList
  lines := by decide
  headers_ne := by decide

/-- It is carried out on a connection that never logged in. -/
theorem effect_without_login : ¬∀ (b : Base64) (σ : Type)
    (env : (i : Action) → σ → Option (i.Answer × σ)) (x : Session × σ) (rs : List Request),
    (connection b env).init x → Throughout b env x rs (EffectAuthorised b) := by
  intro h
  have hall := h base64 Unit (fun _ _ => none) ({ sid := [] }, ()) [strangersDelete] ⟨[], rfl⟩
  have hone : EffectAuthorised base64 { sid := [] } strangersDelete := hall.1
  have ht : Session.received { sid := [] } strangersDelete =
      some { sid := [], reply_code := .DELETE } := by rfl
  have hg : Guarded .DELETE := by decide
  have hask := (canAsk_request_content base64 ht hg (by decide)).mpr (by decide)
  exact absurd (hone _ ht hg hask).1 (by decide)

end CloudStorage.Proofs
