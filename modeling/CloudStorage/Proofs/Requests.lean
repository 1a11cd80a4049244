import CloudStorage.Frontend
import CloudStorage.Lib.Radix64
import CloudStorage.Proofs.Wire

/-!
# Requests of a connection

What the line and the headers of a request do to the variables of its connection.
-/

namespace CloudStorage.Proofs
open DelimitedText

lemma isalnum_alphabet : ∀ ch ∈ Radix64.alphabet, isalnum ch ∨ ch = '+' ∨ ch = '/' := by
  have h : Radix64.alphabet.all (fun ch => isalnum ch ∨ ch = '+' ∨ ch = '/') = true := by decide
  intro ch hch
  exact of_decide_eq_true (List.all_eq_true.mp h ch hch)

/-- The standard base64 has the properties that the source relies on. -/
def base64 : Base64 where
  encode := Radix64.encode
  decode := Radix64.decode
  decode_encode _ hs := Radix64.decode_encode hs
  encode_nil := rfl
  alphabet s ch hch := by
    cases Radix64.mem_encode hch with
    | inl h =>
      have := isalnum_alphabet ch h
      tauto
    | inr h => exact Or.inr (Or.inr (Or.inr h))

/-- A form, sent without a cookie. -/
def formRequest (target content : Str) (h : contains "\r\n".toList target = false) : Request where
  method := .POST
  target := target
  headers := []
  content := content
  lines _ hl := List.mem_singleton.mp hl ▸ h
  headers_ne _ hh := absurd hh List.not_mem_nil

lemma move_line : contains "\r\n".toList "/move HTTP/1.1".toList = false := by decide

lemma rename_line : contains "\r\n".toList "/rename HTTP/1.1".toList = false := by decide

/-- The login of a session is as it was. -/
structure SameLogin (s t : Session) : Prop where
  sid : t.sid = s.sid
  username : t.username = s.username
  logged_in : t.logged_in = s.logged_in
  authenticated : t.authenticated = s.authenticated

lemma SameLogin.refl (s : Session) : SameLogin s s := ⟨rfl, rfl, rfl, rfl⟩

lemma SameLogin.trans {s t u : Session} (h : SameLogin s t) (h' : SameLogin t u) :
    SameLogin s u :=
  ⟨h'.sid.trans h.sid, h'.username.trans h.username, h'.logged_in.trans h.logged_in,
    h'.authenticated.trans h.authenticated⟩

/-- The cookie sent with the request, that of its last `Cookie` header. -/
def cookieSent (r : Request) : Option Str :=
  r.headers.foldl (fun c l => if "Cookie: ".toList.isPrefixOf l then cookieOf l else c) none

lemma getLine_same {s t : Session} {url : Str} {rest : Option Str}
    (h : s.getLine url rest = some t) : SameLogin s t ∧ t.tmp_sid = s.tmp_sid := by
  unfold Session.getLine at h
  split at h
  · cases h
    exact ⟨⟨rfl, rfl, rfl, rfl⟩, rfl⟩
  split at h
  · cases h
    exact ⟨⟨rfl, rfl, rfl, rfl⟩, rfl⟩
  split at h
  · cases h
    exact ⟨⟨rfl, rfl, rfl, rfl⟩, rfl⟩
  split at h
  · obtain ⟨item, -, h⟩ := Option.map_eq_some_iff.mp h
    cases h
    exact ⟨⟨rfl, rfl, rfl, rfl⟩, rfl⟩
  · cases h
    exact ⟨⟨rfl, rfl, rfl, rfl⟩, rfl⟩

lemma requestLine_same {s t : Session} {r : Request} (h : s.requestLine r = some t) :
    SameLogin s t ∧ t.tmp_sid = s.tmp_sid := by
  unfold Session.requestLine at h
  obtain ⟨⟨url, rest⟩, -, h⟩ := Option.bind_eq_some_iff.mp h
  cases hm : r.method with
  | GET =>
    simp only [hm] at h
    exact getLine_same h
  | POST =>
    simp only [hm] at h
    cases h
    exact ⟨⟨rfl, rfl, rfl, rfl⟩, rfl⟩

/-- No line is a `Content-Type` and a `Cookie` header at once. -/
lemma not_cookie_of_contentType {cmd : Str}
    (h : "Content-Type: ".toList.isPrefixOf cmd = true) :
    "Cookie: ".toList.isPrefixOf cmd = false := by
  obtain ⟨t, rfl⟩ := List.isPrefixOf_iff_prefix.mp h
  rfl

lemma headerLine_same {s t : Session} {cmd : Str} (h : s.headerLine cmd = some t) :
    SameLogin s t ∧ t.reply_code = s.reply_code ∧ t.item = s.item ∧
      if "Cookie: ".toList.isPrefixOf cmd then cookieOf cmd = some t.tmp_sid
      else t.tmp_sid = s.tmp_sid := by
  unfold Session.headerLine at h
  split at h
  · next hc =>
    cases h
    rw [not_cookie_of_contentType hc]
    exact ⟨⟨rfl, rfl, rfl, rfl⟩, rfl, rfl, rfl⟩
  · split at h
    · next hc =>
      obtain ⟨sid, hs, h⟩ := Option.map_eq_some_iff.mp h
      cases h
      rw [if_pos hc]
      exact ⟨⟨rfl, rfl, rfl, rfl⟩, rfl, rfl, hs⟩
    · next hc =>
      cases h
      rw [if_neg hc]
      exact ⟨SameLogin.refl s, rfl, rfl, rfl⟩

lemma headerLines_same {headers : List Str} {s t : Session} {cookie : Option Str} {first : Str}
    (h : headers.foldlM Session.headerLine s = some t)
    (hs : s.tmp_sid = cookie.getD first) :
    SameLogin s t ∧ t.reply_code = s.reply_code ∧ t.item = s.item ∧
      t.tmp_sid = (headers.foldl
        (fun c l => if "Cookie: ".toList.isPrefixOf l then cookieOf l else c) cookie).getD
        first := by
  induction headers generalizing s cookie with
  | nil =>
    cases h
    exact ⟨SameLogin.refl _, rfl, rfl, hs⟩
  | cons cmd headers ih =>
    rw [List.foldlM_cons] at h
    obtain ⟨u, hu, h⟩ := Option.bind_eq_some_iff.mp h
    obtain ⟨hsame, hcode, hitem, hcookie⟩ := headerLine_same hu
    have hs' : u.tmp_sid =
        (if "Cookie: ".toList.isPrefixOf cmd then cookieOf cmd else cookie).getD first := by
      by_cases hc : "Cookie: ".toList.isPrefixOf cmd = true
      · rw [if_pos hc] at hcookie ⊢
        rw [hcookie, Option.getD_some]
      · rw [if_neg hc] at hcookie ⊢
        exact hcookie.trans hs
    obtain ⟨hsame', hcode', hitem', ht⟩ := ih h hs'
    exact ⟨hsame.trans hsame', hcode'.trans hcode, hitem'.trans hitem, ht⟩

/-- The session that has received a request differs from the one before in nothing that a
login sets, and holds the request's own cookie, if it brought one. -/
theorem received_same {s t : Session} {r : Request} (h : s.received r = some t) :
    SameLogin s t ∧ t.tmp_sid = (cookieSent r).getD s.tmp_sid ∧
      ∃ u, s.requestLine r = some u ∧ t.reply_code = u.reply_code ∧ t.item = u.item := by
  unfold Session.received at h
  obtain ⟨u, hu, h⟩ := Option.bind_eq_some_iff.mp h
  obtain ⟨hsame, htmp⟩ := requestLine_same hu
  obtain ⟨hsame', hcode, hitem, ht⟩ := @headerLines_same _ _ _ none _ h rfl
  exact ⟨hsame.trans hsame', htmp ▸ ht, u, hu, hcode, hitem⟩

end CloudStorage.Proofs
