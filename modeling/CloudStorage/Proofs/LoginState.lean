import CloudStorage.Proofs.Credentials

/-!
# Who is logged in

Login, signup and password change each overwrite some of the user name, the login flag and
the storage connection. This file proves when the three keep to one user.
-/

namespace CloudStorage.Proofs
open DelimitedText Dialogue

/-- What answers a connection. It knows the name for which the connection's entry of
`backend_socks` was last connected, by `connectToBackend` or by an exchange that connected
again. -/
structure Backend (σ : Type) where
  answer : (i : Action) → σ → Option (i.Answer × σ)
  connectedFor : σ → Option Str
  connected : ∀ u e e', answer (.connect u) e = some (true, e') → connectedFor e' = some u
  refused : ∀ u e e', answer (.connect u) e = some (false, e') → connectedFor e' = connectedFor e
  exchanged : ∀ u text e o e', answer (.storage u text) e = some (o, e') →
    connectedFor e' = connectedFor e ∨ connectedFor e' = some u
  mailed : ∀ text e o e', answer (.mail text) e = some (o, e') →
    connectedFor e' = connectedFor e

variable {σ : Type} {k : Backend σ} {b : Base64}

lemma Backend.exchanged_self {u text : Str} {e e' : σ} {o : Str}
    (h : k.answer (.storage u text) e = some (o, e')) (he : k.connectedFor e = some u) :
    k.connectedFor e' = some u :=
  (k.exchanged u text e o e' h).elim (fun hk => hk.trans he) id

/-- A request other than login, signup and password change stays with the user. -/
lemma request_stays {s t s' : Session} {r : Request} {e e' : σ} {page : Page}
    (ht : s.received r = some t) (hcode : NoCredentials t.reply_code)
    (h : (s.request b r).run k.answer e = some ((s', page), e')) :
    SameLogin s s' ∧ (k.connectedFor e = some s.username →
      k.connectedFor e' = some s.username) := by
  have hasks := (permits_asksFor s.username).asks_request (b := b) ht rfl trivial hcode
    (fun _ _ => trivial) (fun _ _ => rfl)
  constructor
  · exact (hasks.run_keeps (I := fun _ => True) (fun _ _ _ _ _ _ _ => ⟨trivial, trivial⟩)
      trivial h).1.1
  · intro he
    refine (hasks.run_keeps (I := fun e => k.connectedFor e = some s.username) ?_ he h).2
    intro i e₁ o e₂ hi he₁ ho
    refine ⟨trivial, ?_⟩
    cases i with
    | connect v => exact hi.elim
    | storage v text =>
      cases hi
      exact k.exchanged_self ho he₁
    | mail text => exact (k.mailed text e₁ o e₂ ho).trans he₁

/-! ### The condition -/

/-- The password that the storage server would answer with. -/
def passwordAt (b : Base64) (k : Backend σ) (e : σ) (username : Str) : Option Str :=
  (k.answer (.connect username) e).bind (fun x =>
    (k.answer (.storage username (passwordGet username)) x.2).bind (fun y =>
      (extractPassword y.1).map b.decode))

/-- The storage server confirms the password of a login form. -/
def Confirmed (b : Base64) (k : Backend σ) (e : σ) (login : Str × Str) : Prop :=
  login.2 ≠ [] ∧ passwordAt b k e login.1 = some login.2

/-- The connection to the storage server is made, or made for that name already. -/
def ReachesStorage (k : Backend σ) (e : σ) (username : Str) : Prop :=
  (∃ e', k.answer (.connect username) e = some (true, e')) ∨ k.connectedFor e = some username

/-- Nobody is logged in, apart from a user without a name who is named again. -/
def Free (s : Session) (username : Str) : Prop :=
  s.logged_in = true → s.username = [] ∧ username = []

/-- A login is confirmed and reaches the storage server, or fails while nobody is logged in;
nobody signs up while somebody is logged in; and a password change is for the user logged
in. -/
def KeepsLogin (b : Base64) (k : Backend σ) (x : Session × σ) (r : Request) : Prop :=
  ∀ t, x.1.received r = some t → r.content ≠ [] →
    match t.reply_code with
    | .MENU =>
      (Confirmed b k x.2 (parseLoginData (cString r.content)) →
        ReachesStorage k x.2 (parseLoginData (cString r.content)).1) ∧
      (¬Confirmed b k x.2 (parseLoginData (cString r.content)) →
        Free x.1 (parseLoginData (cString r.content)).1)
    | .SIGNUP => Free x.1 (parseLoginData (cString r.content)).1
    | .NEWPASS => x.1.logged_in = true →
      parseQuery (cString r.content) "username".toList = x.1.username
    | _ => True

/-- If the connection is logged in, its user name is the one last authenticated, and the
storage connection was made for it. -/
def LoginNamed (k : Backend σ) (x : Session × σ) : Prop :=
  x.1.logged_in = true →
    x.1.authenticated = some x.1.username ∧ k.connectedFor x.2 = some x.1.username

/-! ### The three requests -/

lemma LoginNamed.same {s t : Session} {e e' : σ} (h : LoginNamed k (s, e)) (hs : SameLogin s t)
    (he : k.connectedFor e = some s.username → k.connectedFor e' = some s.username) :
    LoginNamed k (t, e') := by
  intro hl
  obtain ⟨ha, hc⟩ := h (hs.logged_in.symm.trans hl)
  dsimp only
  rw [hs.authenticated, hs.username]
  exact ⟨ha, he hc⟩

/-- Connecting and one exchange for the user that is connected change nothing. -/
lemma stays_connected {u text o : Str} {made : Bool} {e e₁ e₂ : σ}
    (hc : k.answer (.connect u) e = some (made, e₁))
    (hs : k.answer (.storage u text) e₁ = some (o, e₂)) (he : k.connectedFor e = some u) :
    k.connectedFor e₂ = some u := by
  apply k.exchanged_self hs
  cases made with
  | true => exact k.connected u e e₁ hc
  | false => exact (k.refused u e e₁ hc).trans he

lemma reaches_connected {u text o : Str} {made : Bool} {e e₁ e₂ : σ}
    (hc : k.answer (.connect u) e = some (made, e₁))
    (hs : k.answer (.storage u text) e₁ = some (o, e₂)) (h : ReachesStorage k e u) :
    k.connectedFor e₂ = some u := by
  cases h with
  | inl h =>
    obtain ⟨e', he'⟩ := h
    rw [hc] at he'
    cases he'
    exact k.exchanged_self hs (k.connected u e e₁ hc)
  | inr h => exact stays_connected hc hs h

/-- A session whose user name is cleared, after an exchange for a name that is free. -/
lemma LoginNamed.cleared {s t : Session} {u text o : Str} {made : Bool} {e e₁ e₂ : σ}
    (h : LoginNamed k (s, e)) (hfree : Free s u)
    (hc : k.answer (.connect u) e = some (made, e₁))
    (hs : k.answer (.storage u text) e₁ = some (o, e₂)) (hl : t.logged_in = s.logged_in)
    (ha : t.authenticated = s.authenticated) (hu : t.username = []) :
    LoginNamed k (t, e₂) := by
  intro hin
  have hin' : s.logged_in = true := hl.symm.trans hin
  obtain ⟨hsu, hun⟩ := hfree hin'
  obtain ⟨hauth, hconn⟩ := h hin'
  dsimp only at hauth hconn ⊢
  rw [hsu] at hauth hconn
  rw [ha, hu]
  refine ⟨hauth, ?_⟩
  rw [← hun] at hconn ⊢
  exact stays_connected hc hs hconn

lemma menu_named {content : Str} {s v : Session} {e e' : σ} (h : LoginNamed k (s, e))
    (hyes : Confirmed b k e (parseLoginData content) →
      ReachesStorage k e (parseLoginData content).1)
    (hno : ¬Confirmed b k e (parseLoginData content) → Free s (parseLoginData content).1)
    (hv : (Session.menu b content s).run k.answer e = some (v, e')) :
    LoginNamed k (v, e') := by
  rw [run_menu] at hv
  obtain ⟨⟨made, e₁⟩, hc, hv⟩ := Option.bind_eq_some_iff.mp hv
  obtain ⟨⟨o, e₂⟩, hs, hv⟩ := Option.bind_eq_some_iff.mp hv
  obtain ⟨encoded, henc, hv⟩ := Option.map_eq_some_iff.mp hv
  cases hv
  have hstored : passwordAt b k e (parseLoginData content).1 = some (b.decode encoded) := by
    unfold passwordAt
    rw [hc, Option.bind_some, hs, Option.bind_some, henc, Option.map_some]
  unfold afterLogin
  split
  · next hok =>
    have hconf : Confirmed b k e (parseLoginData content) := by
      refine ⟨?_, ?_⟩
      · rw [hok.2]
        exact hok.1
      · rw [hstored, hok.2]
    exact fun _ => ⟨rfl, reaches_connected hc hs (hyes hconf)⟩
  · next hbad =>
    have hconf : ¬Confirmed b k e (parseLoginData content) := by
      rintro ⟨hne, hp⟩
      have heq : b.decode encoded = (parseLoginData content).2 :=
        Option.some.inj (hstored.symm.trans hp)
      exact hbad ⟨by rw [heq]; exact hne, heq.symm⟩
    exact h.cleared (hno hconf) hc hs rfl rfl rfl

lemma signup_named {content : Str} {s v : Session} {e e' : σ} (h : LoginNamed k (s, e))
    (hfree : Free s (parseLoginData content).1)
    (hv : (Session.signup b content s).run k.answer e = some (v, e')) :
    LoginNamed k (v, e') := by
  rw [run_signup] at hv
  obtain ⟨⟨made, e₁⟩, hc, hv⟩ := Option.bind_eq_some_iff.mp hv
  obtain ⟨⟨o, e₂⟩, hs, hv⟩ := Option.map_eq_some_iff.mp hv
  cases hv
  exact h.cleared hfree hc hs rfl rfl rfl

lemma newpass_named {content : Str} {s v : Session} {e e' : σ} (h : LoginNamed k (s, e))
    (hname : s.logged_in = true → parseQuery content "username".toList = s.username)
    (hv : (Session.newpass b content s).run k.answer e = some (v, e')) :
    LoginNamed k (v, e') := by
  rw [run_newpass] at hv
  obtain ⟨⟨made, e₁⟩, hc, hv⟩ := Option.bind_eq_some_iff.mp hv
  obtain ⟨⟨o, e₂⟩, hs, hv⟩ := Option.map_eq_some_iff.mp hv
  cases hv
  intro hl
  obtain ⟨ha, hconn⟩ := h hl
  rw [hname hl] at hc hs
  exact ⟨ha, stays_connected hc hs hconn⟩

/-! ### Runs -/

/-- A received session names nobody else. -/
lemma LoginNamed.received {s t : Session} {r : Request} {e : σ} (h : LoginNamed k (s, e))
    (ht : s.received r = some t) : LoginNamed k (t, e) :=
  h.same (received_same ht).1 id

lemma loginNamed_step {x y : Session × σ} {r : Request} (h : LoginNamed k x)
    (hok : KeepsLogin b k x r) (hy : (connection b k.answer).next x r = some y) :
    LoginNamed k y := by
  obtain ⟨s, e⟩ := x
  obtain ⟨⟨⟨s', page⟩, e'⟩, hrun, hy⟩ := Option.map_eq_some_iff.mp hy
  cases hy
  dsimp only at hrun ⊢
  obtain ⟨t, ht⟩ := received_of_run hrun
  by_cases hcode : NoCredentials t.reply_code
  · obtain ⟨hsame, hconn⟩ := request_stays ht hcode hrun
    exact h.same hsame hconn
  · have hnamed := h.received ht
    by_cases hnil : r.content = []
    · obtain ⟨rfl, rfl⟩ := credentials_request_nil ht hcode hnil hrun
      exact hnamed.same (checked_view false).1 id
    · obtain ⟨v, hv, rfl⟩ := credentials_request ht hcode hnil hrun
      refine LoginNamed.same ?_ (checked_view true).1 id
      have hfree {name : Str} (hf : Free s name) : Free t name := by
        have hsame := (received_same ht).1
        unfold Free
        rw [hsame.logged_in, hsame.username]
        exact hf
      have hcond := hok t ht hnil
      unfold Session.requestContent at hv
      rcases credentials_cases hcode with hc | hc | hc
      · simp only [hc] at hv hcond
        exact menu_named hnamed hcond.1 (fun hno => hfree (hcond.2 hno)) hv
      · simp only [hc] at hv hcond
        exact signup_named hnamed (hfree hcond) hv
      · simp only [hc] at hv hcond
        refine newpass_named hnamed (fun hl => ?_) hv
        have hsame := (received_same ht).1
        rw [hsame.username]
        exact hcond (hsame.logged_in ▸ hl)

/-- In every run whose requests meet the condition, a connection that is logged in names the
user last authenticated, and its storage connection was last made for that user. -/
theorem login_names_user {x : Session × σ}
    (h : (connection b k.answer).Reachable (KeepsLogin b k) x) (hl : x.1.logged_in = true) :
    x.1.authenticated = some x.1.username ∧ k.connectedFor x.2 = some x.1.username := by
  have hinv : LoginNamed k x := by
    apply h.invariant
    · rintro x ⟨sid, hs⟩ hin
      rw [hs] at hin
      exact absurd hin Bool.false_ne_true
    · intro x r y hx hok hy
      exact loginNamed_step hx hok hy
  exact hinv hl

/-- A storage server that is always reached and holds the same password for every name. -/
def alwaysQwerty : Backend (Option Str) where
  answer i e := match i with
    | .connect u => some (true, some u)
    | .storage _ _ => some ("+OK cXdlcnR5\r\n".toList, e)
    | .mail _ => some ((), e)
  connectedFor e := e
  connected u e e' h := by
    cases h
    rfl
  refused u e e' h := by
    cases h
  exchanged u text e o e' h := by
    cases h
    exact Or.inl rfl
  mailed text e o e' h := by
    cases h
    rfl

/-- A login form. -/
def loginRequest (content : Str) : Request :=
  formRequest "/menu HTTP/1.1".toList content (by decide)

/-- Anna logs in. -/
theorem login_names_user_anna : ∃ x : Session × Option Str,
    (connection base64 alwaysQwerty.answer).exec ({ sid := [] }, none)
      [loginRequest "username=anna&password=qwerty".toList] = some x ∧
    x.1.logged_in = true ∧ x.1.authenticated = some x.1.username ∧
    alwaysQwerty.connectedFor x.2 = some x.1.username := by
  obtain ⟨x, hx, hl⟩ : ∃ x : Session × Option Str,
      (connection base64 alwaysQwerty.answer).exec ({ sid := [] }, none)
        [loginRequest "username=anna&password=qwerty".toList] = some x ∧
      x.1.logged_in = true := by
    have hrun : ((connection base64 alwaysQwerty.answer).exec ({ sid := [] }, none)
        [loginRequest "username=anna&password=qwerty".toList]).map
          (fun x => x.1.logged_in) = some true := by
      decide +kernel
    exact Option.map_eq_some_iff.mp hrun
  refine ⟨x, hx, hl, login_names_user (b := base64) (k := alwaysQwerty) ?_ hl⟩
  have hstart : (connection base64 alwaysQwerty.answer).Reachable
      (KeepsLogin base64 alwaysQwerty) ({ sid := [] }, none) := .init ⟨[], rfl⟩
  have hstep : (connection base64 alwaysQwerty.answer).next ({ sid := [] }, none)
      (loginRequest "username=anna&password=qwerty".toList) = some x := by
    simpa only [System.exec, Option.bind_fun_some] using hx
  refine hstart.step ?_ hstep
  intro t ht _
  obtain ⟨-, -, u, hu, hc, -⟩ := received_same ht
  have hmenu : t.reply_code = .MENU := by
    cases hu
    exact hc
  rw [hmenu]
  refine ⟨fun _ => Or.inl ⟨_, rfl⟩, fun _ hin => ?_⟩
  exact absurd hin Bool.false_ne_true

/-- A failed login on a connection that is logged in clears the user name only. -/
theorem failed_login_stays_logged_in : ¬∀ (b : Base64) (σ : Type) (k : Backend σ)
    (x : Session × σ), (connection b k.answer).Reachable (fun _ _ => True) x →
      x.1.logged_in = true →
      x.1.authenticated = some x.1.username ∧ k.connectedFor x.2 = some x.1.username := by
  intro h
  obtain ⟨x, hx, hshown⟩ : ∃ x : Session × Option Str,
      (connection base64 alwaysQwerty.answer).exec ({ sid := [] }, none)
        [loginRequest "username=anna&password=qwerty".toList,
          loginRequest "username=anna&password=asdf".toList] = some x ∧
      (x.1.logged_in, x.1.username, x.1.authenticated) =
        (true, [], some "anna".toList) := by
    have hrun : ((connection base64 alwaysQwerty.answer).exec ({ sid := [] }, none)
        [loginRequest "username=anna&password=qwerty".toList,
          loginRequest "username=anna&password=asdf".toList]).map
          (fun x => (x.1.logged_in, x.1.username, x.1.authenticated)) =
        some (true, [], some "anna".toList) := by
      decide +kernel
    exact Option.map_eq_some_iff.mp hrun
  have hstart : (connection base64 alwaysQwerty.answer).Reachable (fun _ _ => True)
      ({ sid := [] }, none) := .init ⟨[], rfl⟩
  have hreach := hstart.exec (fun _ _ _ => trivial) hx
  obtain ⟨hl, hu⟩ := Prod.mk.inj hshown
  obtain ⟨hu, ha⟩ := Prod.mk.inj hu
  have hnamed := (h base64 _ alwaysQwerty x hreach hl).1
  rw [hu, ha] at hnamed
  exact absurd hnamed (by decide)

end CloudStorage.Proofs
