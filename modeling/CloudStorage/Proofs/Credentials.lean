import CloudStorage.Proofs.Handlers

/-!
# Login, signup and password change

What a run of the three requests with a user name and a password asks, and the session
afterwards.
-/

namespace CloudStorage.Proofs
open DelimitedText Dialogue

variable {σ : Type} {env : (i : Action) → σ → Option (i.Answer × σ)} {b : Base64}

/-- The pages with these codes are made without the storage server. -/
def Quiet (code : ReplyCode) : Prop :=
  code ∈ [.LOGIN, .SIGNUP, .NEWPASS, .REDIRECT, .MENU, .NOTFOUND, .FORBIDDEN]

instance : DecidablePred Quiet := fun code => inferInstanceAs (Decidable (code ∈ _))

lemma generateReply_quiet {s : Session} (h : Quiet s.reply_code) :
    ∃ page, generateReply b s = .done page := by
  unfold generateReply
  cases hc : s.reply_code <;>
    first
    | exact ⟨_, rfl⟩
    | exact absurd (hc ▸ h) (by decide)

lemma quiet_checked {s : Session} (h : Quiet s.reply_code) (withContent : Bool) :
    Quiet (s.checked withContent).reply_code := by
  rcases checked_cases s withContent with hc | hc <;> rw [hc]
  · exact h
  · exact (by decide : Quiet .FORBIDDEN)

lemma received_of_run {s : Session} {r : Request} {e : σ} {y : (Session × Page) × σ}
    (h : (s.request b r).run env e = some y) : ∃ t, s.received r = some t := by
  cases ht : s.received r with
  | some t => exact ⟨t, rfl⟩
  | none =>
    unfold Session.request at h
    rw [ht] at h
    exact absurd h (by simp [run])

/-- A quiet request is over once its content has been handled. -/
lemma request_of_content {s t v : Session} {r : Request} {e e' : σ} (ht : s.received r = some t)
    (hne : r.content ≠ []) (hv : (Session.requestContent b r.content t).run env e = some (v, e'))
    (hq : Quiet v.reply_code) :
    ∃ page, (s.request b r).run env e = some ((v.checked true, page), e') := by
  have hq' := quiet_checked hq true
  obtain ⟨page, hpage⟩ := generateReply_quiet (b := b) hq'
  have hd : (v.checked true).reply_code ≠ .DOWNLOAD := by
    intro hd
    rw [hd] at hq'
    exact absurd hq' (by decide)
  refine ⟨page, ?_⟩
  unfold Session.request
  rw [ht, ofOption_some, done_bind, if_neg hne, run_bind, hv]
  dsimp only [Option.bind_some]
  rw [if_neg hd, hpage]
  rfl

lemma request_stops {s t : Session} {r : Request} {e : σ} (ht : s.received r = some t)
    (hne : r.content ≠ []) (hv : (Session.requestContent b r.content t).run env e = none) :
    (s.request b r).run env e = none := by
  unfold Session.request
  rw [ht, ofOption_some, done_bind, if_neg hne, run_bind, hv]
  rfl

/-- A quiet request without content asks nothing. -/
lemma request_of_no_content {s t : Session} {r : Request} (e : σ) (ht : s.received r = some t)
    (hnil : r.content = []) (hq : Quiet t.reply_code) :
    ∃ page, (s.request b r).run env e = some ((t.checked false, page), e) := by
  obtain ⟨page, hpage⟩ := generateReply_quiet (b := b) (quiet_checked hq false)
  refine ⟨page, ?_⟩
  unfold Session.request
  rw [ht, ofOption_some, done_bind, if_pos hnil]
  dsimp only
  rw [hpage]
  rfl

/-! ### The three handlers -/

/-- The command that reads the password of a user. -/
def passwordGet (username : Str) : Str := "GET ".toList ++ username ++ ",password\r\n".toList

def passwordPut (b : Base64) (username password : Str) : Str :=
  "PUT ".toList ++ username ++ ",password,".toList ++ b.encode password ++ "\r\n".toList

def passwordCput (username oldpass newpass : Str) : Str :=
  "CPUT ".toList ++ username ++ ",password,".toList ++ oldpass ++ ",".toList ++ newpass ++
    "\r\n".toList

/-- The session after a login attempt for a name whose password is `stored`. -/
def afterLogin (s : Session) (username password stored : Str) : Session :=
  if stored ≠ [] ∧ password = stored then
    { s with username := username, logged_in := true, authenticated := some username }
  else { s with username := [], reply_code := .REDIRECT }

lemma run_ofOption {α : Type} (x : Option α) (e : σ) :
    (ofOption x : Web α).run env e = x.map (fun a => (a, e)) := by
  cases x <;> rfl

lemma run_connectToBackend (username : Str) (e : σ) :
    (connectToBackend username).run env e = env (.connect username) e := run_question _ _

lemma run_exchange (username command : Str) (e : σ) :
    (exchange username command).run env e = env (.storage username command) e := run_question _ _

lemma run_menu (content : Str) (s : Session) (e : σ) :
    (Session.menu b content s).run env e =
      (env (.connect (parseLoginData content).1) e).bind (fun x =>
        (env (.storage (parseLoginData content).1
            (passwordGet (parseLoginData content).1)) x.2).bind (fun y =>
          (extractPassword y.1).map (fun encoded =>
            (afterLogin s (parseLoginData content).1 (parseLoginData content).2
              (b.decode encoded), y.2)))) := by
  cases h : parseLoginData content with
  | mk username password =>
  unfold Session.menu authenticate
  rw [h]
  simp only [run_bind, run_connectToBackend, run_exchange, run_ofOption]
  congr 1
  funext x
  rw [Option.bind_assoc]
  congr 1
  funext y
  cases extractPassword y.1 with
  | none => rfl
  | some encoded =>
    have hrun (ok : Bool) (t t' : Session) :
        (if ok then pure t else pure t' : Web Session).run env y.2 =
          some (if ok then t else t', y.2) := by
      cases ok <;> rfl
    simp only [Option.map_some, Option.bind_some]
    refine (hrun _ _ _).trans ?_
    unfold afterLogin
    simp only [decide_eq_true_eq]

lemma run_signup (content : Str) (s : Session) (e : σ) :
    (Session.signup b content s).run env e =
      (env (.connect (parseLoginData content).1) e).bind (fun x =>
        (env (.storage (parseLoginData content).1 (passwordPut b (parseLoginData content).1
            (parseLoginData content).2)) x.2).map (fun y =>
          ({ s with username := [], reply_code := .REDIRECT }, y.2))) := by
  cases h : parseLoginData content with
  | mk username password =>
  unfold Session.signup
  rw [h]
  simp only [run_bind, run_connectToBackend, run_exchange]
  congr 1
  funext x
  unfold passwordPut
  cases env (.storage username _) x.2 <;> rfl

/-- The old and the new password as a password change sends them. -/
def newpassValues (b : Base64) (content : Str) : Str × Str :=
  (b.encode (urlEncode (parseQuery content "oldpass".toList)),
    b.encode (urlEncode (parseQuery content "newpass".toList)))

lemma run_newpass (content : Str) (s : Session) (e : σ) :
    (Session.newpass b content s).run env e =
      (env (.connect (parseQuery content "username".toList)) e).bind (fun x =>
        (env (.storage (parseQuery content "username".toList)
            (passwordCput (parseQuery content "username".toList) (newpassValues b content).1
              (newpassValues b content).2)) x.2).map (fun y => (s, y.2))) := by
  unfold Session.newpass
  simp only [run_bind, run_connectToBackend, run_exchange]
  congr 1
  funext x
  unfold passwordCput newpassValues
  cases env (.storage _ _) x.2 <;> rfl

/-! ### Runs of the three requests -/

lemma credentials_cases {code : ReplyCode} (h : ¬NoCredentials code) :
    code = .MENU ∨ code = .SIGNUP ∨ code = .NEWPASS := by
  unfold NoCredentials at h
  tauto

lemma quiet_content {t v : Session} {content : Str} {e e' : σ}
    (hcode : ¬NoCredentials t.reply_code)
    (h : (Session.requestContent b content t).run env e = some (v, e')) :
    Quiet v.reply_code ∧ v.item = t.item := by
  unfold Session.requestContent at h
  rcases credentials_cases hcode with hc | hc | hc
  · simp only [hc, run_menu] at h
    obtain ⟨x, -, h⟩ := Option.bind_eq_some_iff.mp h
    obtain ⟨y, -, h⟩ := Option.bind_eq_some_iff.mp h
    obtain ⟨encoded, -, h⟩ := Option.map_eq_some_iff.mp h
    cases h
    unfold afterLogin
    split
    · refine ⟨?_, rfl⟩
      rw [show Session.reply_code _ = t.reply_code from rfl, hc]
      decide
    · exact ⟨(by decide : Quiet .REDIRECT), rfl⟩
  · simp only [hc, run_signup] at h
    obtain ⟨x, -, h⟩ := Option.bind_eq_some_iff.mp h
    obtain ⟨y, -, h⟩ := Option.map_eq_some_iff.mp h
    cases h
    exact ⟨(by decide : Quiet .REDIRECT), rfl⟩
  · simp only [hc, run_newpass] at h
    obtain ⟨x, -, h⟩ := Option.bind_eq_some_iff.mp h
    obtain ⟨y, -, h⟩ := Option.map_eq_some_iff.mp h
    cases h
    rw [hc]
    exact ⟨by decide, rfl⟩

/-- One of the three requests does what its handler does, and the access check follows. -/
lemma credentials_request {s t s' : Session} {r : Request} {page : Page} {e e' : σ}
    (ht : s.received r = some t) (hcode : ¬NoCredentials t.reply_code) (hne : r.content ≠ [])
    (h : (s.request b r).run env e = some ((s', page), e')) :
    ∃ v, (Session.requestContent b r.content t).run env e = some (v, e') ∧
      s' = v.checked true := by
  cases hv : (Session.requestContent b r.content t).run env e with
  | none =>
    rw [request_stops ht hne hv] at h
    exact absurd h (by simp)
  | some y =>
    obtain ⟨v, e₁⟩ := y
    obtain ⟨page', hr⟩ := request_of_content ht hne hv (quiet_content hcode hv).1
    rw [hr] at h
    cases h
    exact ⟨v, rfl, rfl⟩

/-- Without content it does nothing. -/
lemma credentials_request_nil {s t s' : Session} {r : Request} {page : Page} {e e' : σ}
    (ht : s.received r = some t) (hcode : ¬NoCredentials t.reply_code) (hnil : r.content = [])
    (h : (s.request b r).run env e = some ((s', page), e')) :
    s' = t.checked false ∧ e' = e := by
  have hq : Quiet t.reply_code := by
    rcases credentials_cases hcode with hc | hc | hc <;> rw [hc] <;> decide
  obtain ⟨page', hr⟩ := @request_of_no_content _ env b _ _ _ e ht hnil hq
  rw [hr] at h
  cases h
  exact ⟨rfl, rfl⟩

/-- The url that a session shows is the one it received. -/
lemma request_item {s t s' : Session} {r : Request} {page : Page} {e e' : σ}
    (ht : s.received r = some t)
    (h : (s.request b r).run env e = some ((s', page), e')) : s'.item = t.item := by
  by_cases hcode : NoCredentials t.reply_code
  · have hasks := (permits_asksFor s.username).asks_request (b := b) ht rfl trivial hcode
      (fun _ _ => trivial) (fun _ _ => rfl)
    exact (hasks.run_keeps (I := fun _ => True) (fun _ _ _ _ _ _ _ => ⟨trivial, trivial⟩)
      trivial h).1.2
  · by_cases hnil : r.content = []
    · obtain ⟨rfl, -⟩ := credentials_request_nil ht hcode hnil h
      exact (checked_view false).2.1
    · obtain ⟨v, hv, rfl⟩ := credentials_request ht hcode hnil h
      exact (checked_view true).2.1.trans (quiet_content hcode hv).2

end CloudStorage.Proofs
