import CloudStorage.Proofs.FormEncoding
import CloudStorage.Proofs.PasswordCommands
import CloudStorage.Proofs.Substrings

/-!
# Three ways of a password

Signup and login take a password as the browser encoded it, password change decodes it and
encodes it again. This file proves for which passwords a signup, a password change and a
login fit together.
-/

namespace CloudStorage.Proofs
open DelimitedText Dialogue Registers

variable {σ : Type} {S : StorageService σ} {b : Base64}

/-! ### What a login reads -/

lemma extractPassword_reply {v : Str} (h : '\r' ∉ v) :
    extractPassword ("+OK ".toList ++ v ++ "\r\n".toList) = some v := by
  have hsub : substr 4 ("+OK ".toList ++ v ++ "\r\n".toList) = some (v ++ "\r\n".toList) := by
    unfold substr
    rw [if_pos (by
      simp only [List.length_append]
      exact Nat.le_add_right_of_le (Nat.le_add_right 4 _))]
    rfl
  have hfind := findStr_line (noCrlf_of_not_mem h) []
  rw [List.append_nil] at hfind
  unfold extractPassword
  rw [hsub, Option.map_some, hfind]
  simp

lemma encode_ne_nil {s : Str} (hs : Bytes s) (h : s ≠ []) : b.encode s ≠ [] := by
  intro hnil
  apply h
  calc s = b.decode (b.encode s) := (b.decode_encode s hs).symm
    _ = b.decode (b.encode []) := by rw [hnil, b.encode_nil]
    _ = [] := b.decode_encode [] (by simp)

lemma encode_injective {s t : Str} (hs : Bytes s) (ht : Bytes t) (h : b.encode s = b.encode t) :
    s = t := by
  rw [← b.decode_encode s hs, h, b.decode_encode t ht]

/-! ### Names -/

/-- A user name of one line. -/
structure UserName where
  name : Str
  bytes : Bytes name
  oneLine : NoCrlf name

namespace UserName

/-- The row that signup and login use. -/
def row (n : UserName) : Str := formText n.name

lemma no_comma (n : UserName) : ',' ∉ n.row := (not_mem_formText n.bytes).1

lemma noCrlf (n : UserName) : NoCrlf n.row := noCrlf_of_not_mem (not_mem_formText n.bytes).2

/-- The fields of a command on the password of the row. -/
lemma getlines_password (n : UserName) (x : Str) :
    getlines ',' (n.row ++ ',' :: (passwordColumn ++ ',' :: x)) =
      n.row :: passwordColumn :: getlines ',' x := by
  rw [getlines_append_delim n.no_comma, getlines_append_delim (by decide)]

lemma row_eq_iff (n : UserName) : n.row = n.name ↔ ∀ ch ∈ n.name, FormKept ch :=
  formText_eq_self_iff n.name

/-- A name that the form changes is not the first field of anything for its row. -/
lemma getlines_ne_row (n : UserName) (h : n.row ≠ n.name) (x : Str) (extra : List Str) :
    getlines ',' (n.name ++ ',' :: x) ≠ n.row :: extra := by
  intro heq
  obtain ⟨xs, hxs⟩ := getlines_takeWhile ',' n.name x
  rw [hxs] at heq
  have hrow := (List.cons.inj heq).1
  have hprefix := List.takeWhile_prefix (· ≠ ',') (l := n.name)
  rw [hrow] at hprefix
  apply h
  exact hprefix.eq_of_length_le (length_le_formText n.name)

end UserName

/-! ### The three requests -/

/-- The request is handled with this code, and has this content. -/
structure Sends (s : Session) (r : Request) (code : ReplyCode) (content : Str) : Prop where
  content : r.content = content
  received : ∃ t, s.received r = some t ∧ t.reply_code = code

lemma loginForm_ne_nil (n p : Str) : loginForm n p ≠ [] := List.cons_ne_nil _ _

lemma newpassForm_ne_nil (n p q : Str) : newpassForm n p q ≠ [] := List.cons_ne_nil _ _

lemma parseLoginData_sent (n : UserName) {p : Str} (hp : Bytes p) :
    parseLoginData (cString (loginForm n.name p)) = (n.row, formText p) := by
  have htext : cString (loginForm n.name p) = loginForm n.name p :=
    cString_form (formFields_login n.bytes hp)
  rw [htext, parseLoginData_loginForm n.bytes hp]
  rfl

lemma newpassValues_sent (n : UserName) {p q : Str} (hp : Bytes p) (hq : Bytes q) :
    parseQuery (cString (newpassForm n.name p q)) "username".toList = n.name ∧
    newpassValues b (cString (newpassForm n.name p q)) =
      (b.encode (urlEncode p), b.encode (urlEncode q)) := by
  have htext : cString (newpassForm n.name p q) = newpassForm n.name p q :=
    cString_form (formFields_newpass n.bytes hp hq)
  obtain ⟨hname, hold, hnew⟩ := parseQuery_newpassForm n.bytes hp hq
  rw [htext, newpassValues, hold, hnew]
  exact ⟨hname, rfl⟩

lemma formText_ne_nil {s : Str} (hs : Bytes s) (h : s ≠ []) : formText s ≠ [] := by
  intro hnil
  have hdec := decode_formText hs
  rw [hnil] at hdec
  exact h hdec.symm

lemma urlEncode_ne_nil {s : Str} (hs : Bytes s) (h : s ≠ []) : urlEncode s ≠ [] := by
  intro hnil
  have hdec := decode_urlEncode hs
  rw [hnil] at hdec
  exact h hdec.symm

lemma getlines_encode_one {s : Str} (hs : Bytes s) (h : s ≠ []) :
    getlines ',' (b.encode s) = [b.encode s] := by
  rw [getlines_encode, if_neg (encode_ne_nil hs h)]

lemma storedPassword_run_cput {n old new v : Str} {t : Table}
    (hv : storedPassword t n = some v) :
    storedPassword ((Write.cput n passwordColumn old new).run t).1 n =
      some (if v = old then new else v) := by
  have htouch : NestedMap.get (t.touch n passwordColumn []) n passwordColumn = some v := by
    unfold storedPassword at hv
    rw [NestedMap.get_touch, if_pos ⟨rfl, rfl⟩, hv, Option.getD_some]
  unfold storedPassword
  simp only [Write.run, htouch]
  by_cases h : v = old
  · rw [if_pos h, if_pos (congrArg some h), NestedMap.get_set, if_pos ⟨rfl, rfl⟩]
  · rw [if_neg h, if_neg (fun heq => h (Option.some.inj heq)), htouch]

/-- A signup stores the password as its form has it. -/
lemma signup_stores {n : UserName} {p : Str} (hp : Bytes p) (hne : p ≠ []) {s : Session}
    {r : Request} {e : σ} (he : S.valid e) (hr : Sends s r .SIGNUP (loginForm n.name p)) :
    ∃ y e', (s.request b r).run S.answer e = some (y, e') ∧ S.valid e' ∧
      storedPassword (S.table e') n.row = some (b.encode (formText p)) := by
  obtain ⟨hcontent, t, ht, hc⟩ := hr
  have hbytes : Bytes (formText p) := (formPlain_formText hp).bytes
  obtain ⟨made, e₁, hconn, hv₁, ht₁⟩ := S.connect n.row e he
  have hsplit : splitKVStoreCommand ("PUT".toList ++ [' '] ++
      (n.row ++ ',' :: (passwordColumn ++ ',' :: b.encode (formText p)))) =
      ["PUT ".toList, n.row, passwordColumn, b.encode (formText p)] := by
    rw [splitKVStoreCommand_blank (by decide) rfl, n.getlines_password,
      getlines_encode_one hbytes (formText_ne_nil hp hne)]
    rfl
  obtain ⟨e₂, hs, hv₂, ht₂⟩ := S.answers (u := n.row) (t := (S.table e₁).set n.row
    passwordColumn (b.encode (formText p))) hv₁ (noCrlf_word (v := "PUT".toList) (by decide)
      (n.noCrlf.comma (noCrlf_passwordColumn.comma (noCrlf_encode b _)))) (by rw [hsplit]; rfl)
  have hrun : (Session.requestContent b r.content t).run S.answer e =
      some ({ t with username := [], reply_code := .REDIRECT }, e₂) := by
    unfold Session.requestContent
    simp only [hc, hcontent]
    rw [run_signup, parseLoginData_sent n hp]
    dsimp only
    rw [hconn, Option.bind_some, passwordPut_eq, hs, Option.map_some]
  have hcn : r.content ≠ [] := hcontent ▸ loginForm_ne_nil _ _
  obtain ⟨page, hreq⟩ := request_of_content ht hcn hrun (by decide : Quiet .REDIRECT)
  refine ⟨_, e₂, hreq, hv₂, ?_⟩
  rw [ht₂, storedPassword, NestedMap.get_set, if_pos ⟨rfl, rfl⟩]

/-- A password change replaces the stored password if it is the old one, as `urlEncode` has
it, and the form keeps the name. -/
lemma newpass_stores {n : UserName} {p q v : Str} (hp : Bytes p) (hq : Bytes q) (hne : q ≠ [])
    {s : Session} {r : Request} {e : σ} (he : S.valid e)
    (hr : Sends s r .NEWPASS (newpassForm n.name p q))
    (hv : storedPassword (S.table e) n.row = some v) :
    ∃ y e', (s.request b r).run S.answer e = some (y, e') ∧ S.valid e' ∧
      storedPassword (S.table e') n.row = some (if n.row = n.name ∧ v = b.encode (urlEncode p)
        then b.encode (urlEncode q) else v) := by
  obtain ⟨hcontent, t, ht, hc⟩ := hr
  obtain ⟨hname, hvalues⟩ := newpassValues_sent (b := b) n hp hq
  obtain ⟨made, e₁, hconn, hv₁, ht₁⟩ := S.connect n.name e he
  rw [← ht₁] at hv
  have hcommand : NoCrlf ("CPUT".toList ++ [' '] ++ (n.name ++ ',' ::
      (passwordColumn ++ ',' :: (b.encode (urlEncode p) ++ ',' :: b.encode (urlEncode q))))) :=
    noCrlf_word (by decide) (n.oneLine.comma (noCrlf_passwordColumn.comma
      ((noCrlf_encode b (urlEncode p)).comma (noCrlf_encode b (urlEncode q)))))
  obtain ⟨reply, hreply⟩ := answerTo_cput (getlines ',' (n.name ++ ',' ::
    (passwordColumn ++ ',' :: (b.encode (urlEncode p) ++ ',' :: b.encode (urlEncode q)))))
    (S.table e₁)
  obtain ⟨e₂, hs, hv₂, ht₂⟩ := S.answers (u := n.name) hv₁ hcommand
    (by rw [splitKVStoreCommand_blank (v := "CPUT".toList) (by decide) rfl]; exact hreply)
  have hrun : (Session.requestContent b r.content t).run S.answer e = some (t, e₂) := by
    unfold Session.requestContent
    simp only [hc, hcontent]
    rw [run_newpass, hname, hvalues]
    dsimp only
    rw [hconn, Option.bind_some, passwordCput_eq, hs, Option.map_some]
  have hcn : r.content ≠ [] := hcontent ▸ newpassForm_ne_nil _ _ _
  obtain ⟨page, hreq⟩ := request_of_content ht hcn hrun (by rw [hc]; decide)
  refine ⟨_, e₂, hreq, hv₂, ?_⟩
  rw [ht₂]
  by_cases hk : n.row = n.name
  · have hargs : getlines ',' (n.name ++ ',' :: (passwordColumn ++ ',' ::
        (b.encode (urlEncode p) ++ ',' :: b.encode (urlEncode q)))) =
        [n.row, passwordColumn, b.encode (urlEncode p), b.encode (urlEncode q)] := by
      rw [← hk, n.getlines_password, getlines_append_delim (not_mem_encode b _ (by decide)),
        getlines_encode_one (bytes_urlEncode hq) (urlEncode_ne_nil hq hne)]
    rw [hargs]
    simp only [hk, true_and]
    exact storedPassword_run_cput (hk ▸ hv)
  · rw [if_neg (fun h => hk h.1)]
    rcases storedPassword_cputArgs hv _ with h | ⟨extra, h⟩
    · exact h
    · exact absurd h (n.getlines_ne_row hk _ _)

/-- A login succeeds with the form whose password text is the stored one. -/
lemma login_compares {n : UserName} {x z : Str} (hx : Bytes x) (hz : Bytes z) (hne : z ≠ [])
    {s : Session} {r : Request} {e : σ} (he : S.valid e) (hl : s.logged_in = false)
    (hr : Sends s r .MENU (loginForm n.name x))
    (hv : storedPassword (S.table e) n.row = some (b.encode z)) :
    ∃ y e', (s.request b r).run S.answer e = some (y, e') ∧
      (y.1.logged_in = true ↔ formText x = z) := by
  obtain ⟨hcontent, t, ht, hc⟩ := hr
  obtain ⟨made, e₁, hconn, hv₁, ht₁⟩ := S.connect n.row e he
  have hsplit : splitKVStoreCommand ("GET".toList ++ [' '] ++ (n.row ++ ',' :: passwordColumn)) =
      ["GET ".toList, n.row, passwordColumn] := by
    rw [splitKVStoreCommand_blank (by decide) rfl, getlines_append_delim n.no_comma]
    rfl
  have hget : answerTo ["GET ".toList, n.row, passwordColumn] (S.table e₁) =
      some ("+OK ".toList ++ b.encode z ++ "\r\n".toList, S.table e₁) := by
    rw [← ht₁] at hv
    unfold storedPassword at hv
    have hreply : getReply (S.table e₁) [n.row, passwordColumn] =
        "+OK ".toList ++ b.encode z ++ "\r\n".toList := by
      unfold getReply
      dsimp only
      rw [hv]
    exact congrArg (fun reply => some (reply, S.table e₁)) hreply
  obtain ⟨e₂, hs, -, -⟩ := S.answers (u := n.row) hv₁ (noCrlf_word (v := "GET".toList) (by decide)
    (n.noCrlf.comma noCrlf_passwordColumn)) (by rw [hsplit]; exact hget)
  have hrun : (Session.requestContent b r.content t).run S.answer e =
      some (afterLogin t n.row (formText x) z, e₂) := by
    unfold Session.requestContent
    simp only [hc, hcontent]
    rw [run_menu, parseLoginData_sent n hx]
    dsimp only
    rw [hconn, Option.bind_some, passwordGet_eq, hs, Option.bind_some,
      extractPassword_reply (not_mem_encode b z (by decide)), Option.map_some,
      b.decode_encode z hz]
  have hcn : r.content ≠ [] := hcontent ▸ loginForm_ne_nil _ _
  have hcode : ¬NoCredentials t.reply_code := fun h => h.1 hc
  obtain ⟨page, hreq⟩ := request_of_content ht hcn hrun (quiet_content hcode hrun).1
  refine ⟨_, e₂, hreq, ?_⟩
  rw [(checked_view true).1.logged_in]
  unfold afterLogin
  split
  · next hok => exact iff_of_true rfl hok.2
  · next hbad =>
    have hlt : t.logged_in = false := (received_same ht).1.logged_in.trans hl
    refine iff_of_false (fun hin => ?_) (fun heq => hbad ⟨hne, heq⟩)
    exact Bool.false_ne_true (hlt.symm.trans hin)

/-! ### Agreement -/

/-- After a signup with `p` and a change from `p` to `q`, the new password is stored, and a
login succeeds exactly with `q`. -/
def PathsAgree (b : Base64) (S : StorageService σ) (n : UserName) (p q : Str) (e : σ)
    (s₁ : Session) (r₁ : Request) (s₂ : Session) (r₂ : Request) : Prop :=
  ∃ y₁ e₁ y₂ e₂, (s₁.request b r₁).run S.answer e = some (y₁, e₁) ∧
    (s₂.request b r₂).run S.answer e₁ = some (y₂, e₂) ∧
    storedPassword (S.table e₂) n.row =
      some (newpassValues b (cString (newpassForm n.name p q))).2 ∧
    ∀ x s r, Bytes x → x ≠ [] → s.logged_in = false → Sends s r .MENU (loginForm n.name x) →
      ∃ y e', (s.request b r).run S.answer e₂ = some (y, e') ∧ (y.1.logged_in = true ↔ x = q)

lemma sends_formRequest (content : Str) :
    Sends { sid := [] } (formRequest "/menu HTTP/1.1".toList content (by decide)) .MENU content ∧
    Sends { sid := [] } (formRequest "/signup HTTP/1.1".toList content (by decide)) .SIGNUP
      content ∧
    Sends { sid := [] } (formRequest "/newpass HTTP/1.1".toList content (by decide)) .NEWPASS
      content :=
  ⟨⟨rfl, _, rfl, rfl⟩, ⟨rfl, _, rfl, rfl⟩, ⟨rfl, _, rfl, rfl⟩⟩

/-- The new password is stored exactly if the old one was stored as the change reads it, in
the row that the change names. -/
lemma replaced_iff {p q : Str} (hp : Bytes p) (hq : Bytes q) (hrow : Prop) [Decidable hrow] :
    (if hrow ∧ b.encode (formText p) = b.encode (urlEncode p) then b.encode (urlEncode q)
      else b.encode (formText p)) = b.encode (urlEncode q) ↔
    formText p = urlEncode p ∧ (hrow ∨ p = q) := by
  have hform := (formPlain_formText hp).bytes
  have hkept : b.encode (formText p) = b.encode (urlEncode q) ↔
      formText p = urlEncode p ∧ p = q := by
    constructor
    · intro he
      have hpq : formText p = urlEncode q := encode_injective hform (bytes_urlEncode hq) he
      have heq : p = q := eq_of_formText_eq hp hq hpq
      exact ⟨heq ▸ hpq, heq⟩
    · rintro ⟨h, rfl⟩
      rw [h]
  split
  · next h =>
    exact iff_of_true rfl ⟨encode_injective hform (bytes_urlEncode hp) h.2, Or.inl h.1⟩
  · next h =>
    rw [hkept]
    constructor
    · exact fun ⟨hp', hpq⟩ => ⟨hp', Or.inr hpq⟩
    · rintro ⟨hp', hr | hpq⟩
      · exact absurd ⟨hr, congrArg b.encode hp'⟩ h
      · exact ⟨hp', hpq⟩

/-- Signup, password change and login agree exactly on passwords without blanks, stars and
tildes, for a name that the form keeps. -/
theorem password_paths_agree_iff {n : UserName} {p q : Str} (hp : Bytes p) (hpne : p ≠ [])
    (hq : Bytes q) (hqne : q ≠ []) {e : σ} (he : S.valid e) {s₁ s₂ : Session}
    {r₁ r₂ : Request} (hr₁ : Sends s₁ r₁ .SIGNUP (loginForm n.name p))
    (hr₂ : Sends s₂ r₂ .NEWPASS (newpassForm n.name p q)) :
    PathsAgree b S n p q e s₁ r₁ s₂ r₂ ↔
      (∀ ch ∈ p, SameCode ch) ∧ (∀ ch ∈ q, SameCode ch) ∧
        ((∀ ch ∈ n.name, FormKept ch) ∨ p = q) := by
  obtain ⟨y₁, e₁, h₁, hv₁, hs₁⟩ := signup_stores (b := b) hp hpne he hr₁
  obtain ⟨y₂, e₂, h₂, hv₂, hs₂⟩ := newpass_stores hp hq hqne hv₁ hr₂ hs₁
  have hnew : (newpassValues b (cString (newpassForm n.name p q))).2 = b.encode (urlEncode q) := by
    rw [(newpassValues_sent n hp hq).2]
  have hz := bytes_urlEncode hq
  have hzne := urlEncode_ne_nil hq hqne
  rw [← formText_eq_urlEncode_iff, ← formText_eq_urlEncode_iff, ← n.row_eq_iff]
  constructor
  · rintro ⟨y₁', e₁', y₂', e₂', h₁', h₂', hstored, hlogin⟩
    cases h₁.symm.trans h₁'
    cases h₂.symm.trans h₂'
    rw [hnew] at hstored
    obtain ⟨hpsame, hrow⟩ :=
      (replaced_iff hp hq (n.row = n.name)).mp (Option.some.inj (hs₂.symm.trans hstored))
    refine ⟨hpsame, ?_, hrow⟩
    -- the new password itself must be let in
    have hsend := (sends_formRequest (loginForm n.name q)).1
    obtain ⟨y, e', hy, hin⟩ := hlogin q _ _ hq hqne rfl hsend
    obtain ⟨y', e'', hy', hin'⟩ := login_compares hq hz hzne hv₂ rfl hsend hstored
    cases hy.symm.trans hy'
    exact hin'.mp (hin.mpr rfl)
  · rintro ⟨hpsame, hqsame, hrow⟩
    have hstored := hs₂.trans
      (congrArg some ((replaced_iff (b := b) hp hq (n.row = n.name)).mpr ⟨hpsame, hrow⟩))
    refine ⟨y₁, e₁, y₂, e₂, h₁, h₂, by rw [hnew, hstored], ?_⟩
    intro x s r hx hxne hl hsend
    obtain ⟨y, e', hy, hin⟩ := login_compares hx hz hzne hv₂ hl hsend hstored
    refine ⟨y, e', hy, hin.trans ?_⟩
    rw [← hqsame]
    exact ⟨formText_injective hx hq, congrArg formText⟩

/-- The name of the user in the demo. -/
def anna : UserName where
  name := "anna".toList
  bytes := by decide
  oneLine := by decide

/-- The change of password in the demo. -/
theorem password_paths_agree_demo :
    PathsAgree base64 (aloneService 0 (group1Address 2001)) anna "qwerty!".toList
      "poiuyt$".toList (aloneWorld ∅) { sid := [] }
      (formRequest "/signup HTTP/1.1".toList (loginForm anna.name "qwerty!".toList) (by decide))
      { sid := [] }
      (formRequest "/newpass HTTP/1.1".toList
        (newpassForm anna.name "qwerty!".toList "poiuyt$".toList) (by decide)) := by
  refine (password_paths_agree_iff (by decide) (by decide) (by decide) (by decide)
    (aloneWorld_alone _) (sends_formRequest _).2.1 (sends_formRequest _).2.2).mpr ?_
  have hkept : "anna".toList.all (fun ch => FormKept ch) = true := by decide
  have hp : "qwerty!".toList.all (fun ch => SameCode ch) = true := by decide
  have hq : "poiuyt$".toList.all (fun ch => SameCode ch) = true := by decide
  simp only [List.all_eq_true, decide_eq_true_eq] at hkept hp hq
  exact ⟨hp, hq, Or.inl hkept⟩

/-- A password with a blank cannot be changed. -/
theorem blank_password_not_changed : ¬∀ (b : Base64) (σ : Type) (S : StorageService σ)
    (n : UserName) (p q : Str) (e : σ) (s₁ s₂ : Session) (r₁ r₂ : Request), Bytes p → p ≠ [] →
      Bytes q → q ≠ [] → S.valid e → Sends s₁ r₁ .SIGNUP (loginForm n.name p) →
      Sends s₂ r₂ .NEWPASS (newpassForm n.name p q) → PathsAgree b S n p q e s₁ r₁ s₂ r₂ := by
  intro h
  have hr₁ := (sends_formRequest (loginForm anna.name "a b".toList)).2.1
  have hr₂ := (sends_formRequest (newpassForm anna.name "a b".toList "c".toList)).2.2
  have hvalid : (aloneService 0 (group1Address 2001)).valid (aloneWorld ∅) := aloneWorld_alone _
  obtain ⟨y₁', e₁', y₂', e₂', h₁', h₂', hstored, -⟩ := h base64 World
    (aloneService 0 (group1Address 2001)) anna "a b".toList "c".toList (aloneWorld ∅) _ _ _ _
    (by decide) (by decide) (by decide) (by decide) hvalid hr₁ hr₂
  obtain ⟨y₁, e₁, h₁, hv₁, hs₁⟩ := signup_stores (b := base64) (by decide) (by decide) hvalid hr₁
  obtain ⟨y₂, e₂, h₂, -, hs₂⟩ :=
    newpass_stores (b := base64) (by decide) (by decide) (by decide) hv₁ hr₂ hs₁
  cases h₁.symm.trans h₁'
  cases h₂.symm.trans h₂'
  have hkept : base64.encode (formText "a b".toList) ≠ base64.encode (urlEncode "a b".toList) := by
    decide +kernel
  rw [if_neg (fun h => hkept h.2)] at hs₂
  have hcarried : (newpassValues base64
      (cString (newpassForm anna.name "a b".toList "c".toList))).2 = base64.encode "c".toList := by
    decide +kernel
  rw [hcarried] at hstored
  exact absurd (Option.some.inj (hs₂.symm.trans hstored)) (by decide +kernel)

end CloudStorage.Proofs
