import CloudStorage.Proofs.PasswordCommands

/-!
# Who changes a password

Signup writes the password of its name, whoever has one, and password change replaces the
one that it carries. This file proves over the runs of all connections when a stored
password changes only for someone who knows it.
-/

namespace CloudStorage.Proofs
open DelimitedText

variable {σ : Type} {S : StorageService σ} {b : Base64}

/-- A login, signup or password change. -/
def ForPasswords (x : (Nat → Session) × σ) (a : Nat × Request) : Prop :=
  ∀ t, (x.1 a.1).received a.2 = some t → ¬NoCredentials t.reply_code

/-- The request is a password change for `u` with the old password `v`. -/
def CarriesPassword (b : Base64) (x : (Nat → Session) × σ) (a : Nat × Request) (u v : Str) :
    Prop :=
  ∃ t, (x.1 a.1).received a.2 = some t ∧ t.reply_code = .NEWPASS ∧ a.2.content ≠ [] ∧
    parseQuery (cString a.2.content) "username".toList = u ∧
    (newpassValues b (cString a.2.content)).1 = v

/-- Every name can be told apart in the commands, and nobody signs up for a name that has
another password. -/
def KeepsPasswords (b : Base64) (S : StorageService σ) (x : (Nat → Session) × σ)
    (a : Nat × Request) : Prop :=
  ∀ t, (x.1 a.1).received a.2 = some t → a.2.content ≠ [] →
    match t.reply_code with
    | .MENU => NoCrlf (parseLoginData (cString a.2.content)).1
    | .SIGNUP =>
      NoCrlf (parseLoginData (cString a.2.content)).1 ∧
      OwnCell (parseLoginData (cString a.2.content)).1 ∧
      ∀ v, storedPassword (S.table x.2) (parseLoginData (cString a.2.content)).1 = some v →
        v = b.encode (parseLoginData (cString a.2.content)).2
    | .NEWPASS =>
      NoCrlf (parseQuery (cString a.2.content) "username".toList) ∧
      OwnCell (parseQuery (cString a.2.content) "username".toList)
    | _ => True

/-! ### One request -/

lemma menu_keeps {content : Str} {s v : Session} {e e' : σ} (he : S.valid e)
    (hn : NoCrlf (parseLoginData content).1)
    (h : (Session.menu b content s).run S.answer e = some (v, e')) :
    S.valid e' ∧ S.table e' = S.table e := by
  rw [run_menu] at h
  obtain ⟨⟨made, e₁⟩, hc, h⟩ := Option.bind_eq_some_iff.mp h
  obtain ⟨⟨o, e₂⟩, hs, h⟩ := Option.bind_eq_some_iff.mp h
  obtain ⟨encoded, -, h⟩ := Option.map_eq_some_iff.mp h
  cases h
  obtain ⟨hv₁, ht₁⟩ := S.table_of_connect he hc
  obtain ⟨hv₂, ht₂⟩ := exchange_get hv₁ hn hs
  exact ⟨hv₂, ht₂.trans ht₁⟩

lemma signup_keeps {content : Str} {s v : Session} {e e' : σ} (he : S.valid e)
    (hn : NoCrlf (parseLoginData content).1) (hown : OwnCell (parseLoginData content).1)
    (hfree : ∀ v, storedPassword (S.table e) (parseLoginData content).1 = some v →
      v = b.encode (parseLoginData content).2)
    (h : (Session.signup b content s).run S.answer e = some (v, e')) :
    S.valid e' ∧ ∀ u w, storedPassword (S.table e) u = some w →
      storedPassword (S.table e') u = some w := by
  rw [run_signup] at h
  obtain ⟨⟨made, e₁⟩, hc, h⟩ := Option.bind_eq_some_iff.mp h
  obtain ⟨⟨o, e₂⟩, hs, h⟩ := Option.map_eq_some_iff.mp h
  cases h
  obtain ⟨hv₁, ht₁⟩ := S.table_of_connect he hc
  obtain ⟨hv₂, ht₂⟩ := exchange_put hv₁ hn hs
  refine ⟨hv₂, fun u w hw => ?_⟩
  rw [ht₂, ht₁]
  rcases storedPassword_put (b := b) (p := (parseLoginData content).2) hown (S.table e) u with
    h | ⟨rfl, h⟩
  · exact h.trans hw
  · rw [h, hfree w hw]

lemma newpass_keeps {content : Str} {s v : Session} {e e' : σ} (he : S.valid e)
    (hn : NoCrlf (parseQuery content "username".toList))
    (hown : OwnCell (parseQuery content "username".toList))
    (h : (Session.newpass b content s).run S.answer e = some (v, e')) :
    S.valid e' ∧ ∀ u w, storedPassword (S.table e) u = some w →
      storedPassword (S.table e') u = some w ∨
      (u = parseQuery content "username".toList ∧ w = (newpassValues b content).1) := by
  rw [run_newpass] at h
  obtain ⟨⟨made, e₁⟩, hc, h⟩ := Option.bind_eq_some_iff.mp h
  obtain ⟨⟨o, e₂⟩, hs, h⟩ := Option.map_eq_some_iff.mp h
  cases h
  obtain ⟨hv₁, ht₁⟩ := S.table_of_connect he hc
  obtain ⟨hv₂, ht₂⟩ := exchange_cput hv₁ hn (noCrlf_encode b _) (noCrlf_encode b _) hs
  refine ⟨hv₂, fun u w hw => ?_⟩
  rw [ht₂, ht₁]
  exact storedPassword_cput hown (not_mem_encode b _ (by decide)) hw

lemma site_step {x y : (Nat → Session) × σ} {a : Nat × Request} (hx : S.valid x.2)
    (hkind : ForPasswords x a) (hok : KeepsPasswords b S x a)
    (hy : (site b S.answer).next x a = some y) :
    S.valid y.2 ∧ ∀ u v, storedPassword (S.table x.2) u = some v →
      storedPassword (S.table y.2) u = some v ∨ CarriesPassword b x a u v := by
  obtain ⟨⟨⟨s', page⟩, e'⟩, hrun, hy⟩ := Option.map_eq_some_iff.mp hy
  cases hy
  dsimp only at hrun ⊢
  obtain ⟨t, ht⟩ := received_of_run hrun
  have hcode := hkind t ht
  by_cases hnil : a.2.content = []
  · obtain ⟨-, rfl⟩ := credentials_request_nil ht hcode hnil hrun
    exact ⟨hx, fun u v hv => Or.inl hv⟩
  · obtain ⟨v, hv, -⟩ := credentials_request ht hcode hnil hrun
    have hcond := hok t ht hnil
    unfold Session.requestContent at hv
    rcases credentials_cases hcode with hc | hc | hc
    · simp only [hc] at hv hcond
      obtain ⟨hvalid, htable⟩ := menu_keeps hx hcond hv
      exact ⟨hvalid, fun u w hw => Or.inl (htable ▸ hw)⟩
    · simp only [hc] at hv hcond
      obtain ⟨hvalid, hkept⟩ := signup_keeps hx hcond.1 hcond.2.1 hcond.2.2 hv
      exact ⟨hvalid, fun u w hw => Or.inl (hkept u w hw)⟩
    · simp only [hc] at hv hcond
      obtain ⟨hvalid, hkept⟩ := newpass_keeps hx hcond.1 hcond.2 hv
      refine ⟨hvalid, fun u w hw => (hkept u w hw).imp id ?_⟩
      rintro ⟨rfl, rfl⟩
      exact ⟨t, ht, hc, hnil, rfl, rfl⟩

/-! ### Runs -/

/-- A stored password that the request changes is one that it carries, as a password change
for its user. -/
def ChangesKnowingly (b : Base64) (S : StorageService σ) (x : (Nat → Session) × σ)
    (a : Nat × Request) : Prop :=
  ∀ y, (site b S.answer).next x a = some y → ∀ u v, storedPassword (S.table x.2) u = some v →
    storedPassword (S.table y.2) u = some v ∨ CarriesPassword b x a u v

/-- In every run of any number of connections whose requests meet the condition, a stored
password changes only through a password change that carried it. -/
theorem passwords_changed_knowingly {x : (Nat → Session) × σ} {as : List (Nat × Request)}
    (hx : S.valid x.2)
    (has : (site b S.answer).Along (fun y a => ForPasswords y a ∧ KeepsPasswords b S y a) x as) :
    (site b S.answer).Along (ChangesKnowingly b S) x as := by
  induction as generalizing x with
  | nil => trivial
  | cons a as ih =>
    obtain ⟨⟨hkind, hok⟩, hrest⟩ := has
    constructor
    · intro y hy
      exact (site_step hx hkind hok hy).2
    · intro y hy
      exact ih (site_step hx hkind hok hy).1 (hrest y hy)

/-- A store in which Anna's password is qwerty. -/
def annasStore : World :=
  aloneWorld ((∅ : Table).set "anna".toList passwordColumn "cXdlcnR5".toList)

/-- Connections on which nobody has logged in. -/
def newSessions : Nat → Session := fun _ => { sid := [] }

def newpassRequest : Request :=
  formRequest "/newpass HTTP/1.1".toList
    "username=anna&oldpass=qwerty&newpass=point".toList (by decide)

def signupRequest : Request :=
  formRequest "/signup HTTP/1.1".toList "username=anna&password=point".toList (by decide)

/-- Anna changes her password. -/
theorem passwords_changed_knowingly_newpass :
    (site base64 (aloneService 0 (group1Address 2001)).answer).Along
      (ChangesKnowingly base64 (aloneService 0 (group1Address 2001)))
      (newSessions, annasStore) [(0, newpassRequest)] := by
  have hrec : (newSessions 0).received newpassRequest =
      some { newSessions 0 with reply_code := .NEWPASS } := by
    decide +kernel
  refine passwords_changed_knowingly (b := base64) (S := aloneService 0 (group1Address 2001))
    (aloneWorld_alone _) (System.along_one ⟨?_, ?_⟩)
  · intro t ht
    cases hrec.symm.trans ht
    exact fun h => h.2.2 rfl
  · intro t ht _
    cases hrec.symm.trans ht
    exact ⟨by decide +kernel, by decide +kernel⟩

/-- Somebody signs up with Anna's name. -/
theorem signup_changes_password : ¬∀ (b : Base64) (σ : Type) (S : StorageService σ)
    (x : (Nat → Session) × σ) (as : List (Nat × Request)), S.valid x.2 →
      (site b S.answer).Along ForPasswords x as →
      (site b S.answer).Along (ChangesKnowingly b S) x as := by
  intro h
  have hrec : (newSessions 0).received signupRequest =
      some { newSessions 0 with reply_code := .SIGNUP } := by
    decide +kernel
  have hkind : ForPasswords (newSessions, annasStore) (0, signupRequest) := by
    intro t ht
    cases hrec.symm.trans ht
    exact fun h => h.2.1 rfl
  obtain ⟨y, hy, hnew⟩ : ∃ y, (site base64 (aloneService 0 (group1Address 2001)).answer).next
      (newSessions, annasStore) (0, signupRequest) = some y ∧
      storedPassword (y.2.server (group1Address 2001)).table "anna".toList =
        some "cG9pbnQ=".toList := by
    have hrun : ((site base64 (aloneService 0 (group1Address 2001)).answer).next
        (newSessions, annasStore) (0, signupRequest)).map (fun y =>
          storedPassword (y.2.server (group1Address 2001)).table "anna".toList) =
        some (some "cG9pbnQ=".toList) := by
      decide +kernel
    exact Option.map_eq_some_iff.mp hrun
  have hold : storedPassword ((aloneService 0 (group1Address 2001)).table annasStore)
      "anna".toList = some "cXdlcnR5".toList := by
    decide +kernel
  have hall := h base64 World (aloneService 0 (group1Address 2001)) (newSessions, annasStore)
    [(0, signupRequest)] (aloneWorld_alone _) (System.along_one hkind)
  rcases hall.1 y hy _ _ hold with hkept | ⟨t, ht, hcode, -⟩
  · exact absurd (Option.some.inj (hnew.symm.trans hkept)) (by decide)
  · cases hrec.symm.trans ht
    exact absurd hcode (by decide)

end CloudStorage.Proofs
