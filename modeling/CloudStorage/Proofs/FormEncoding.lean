import CloudStorage.FormText
import CloudStorage.Proofs.CommandText
import Mathlib.Data.List.AList

/-!
# Form encoding

The text in which a browser sends a field of a form, next to the one that `urlEncode`
makes. Both are read back by `decodeURIComponent`; they are the same text exactly for
fields without the three characters that the two rules treat differently.
-/

namespace CloudStorage.Proofs
open DelimitedText

/-- The characters are bytes. -/
def Bytes (s : Str) : Prop := ∀ ch ∈ s, ch.toNat < 256

instance : DecidablePred Bytes := fun s => List.decidableBAll _ s

/-- The characters that a form keeps. -/
def FormKept (ch : Char) : Prop := isalnum ch ∨ ch = '*' ∨ ch = '-' ∨ ch = '.' ∨ ch = '_'

instance : DecidablePred FormKept := fun _ => inferInstanceAs (Decidable (_ ∨ _))

/-- A character of a field as `application/x-www-form-urlencoded` has it. -/
def formCode (ch : Char) : Str :=
  if FormKept ch then [ch] else if ch = ' ' then ['+'] else '%' :: hexByte ch

def formText (s : Str) : Str := s.flatMap formCode

/-- A character as `urlEncode` has it. -/
def urlCode (ch : Char) : Str :=
  if isalnum ch ∨ ch = '-' ∨ ch = '_' ∨ ch = '.' ∨ ch = '~' then [ch] else '%' :: hexByte ch

lemma urlEncode_eq (s : Str) : urlEncode s = s.flatMap urlCode := rfl

/-! ### Reading back -/

/-- What holds of all 256 bytes. -/
lemma of_bytes {P : Char → Prop} (h : ∀ n < 256, P (Char.ofNat n)) {ch : Char}
    (hch : ch.toNat < 256) : P ch :=
  Char.ofNat_toNat ch ▸ h ch.toNat hch

lemma readHex_hexByte {ch : Char} (h : ch.toNat < 256) :
    (readHex (hexByte ch)).map byteOf = some ch :=
  of_bytes (P := fun ch => (readHex (hexByte ch)).map byteOf = some ch) (by decide +kernel) h

lemma decodeFrom_hexByte {ch : Char} (h : ch.toNat < 256) (rest : Str) :
    decodeFrom 0 ('%' :: hexByte ch ++ rest) = ch :: decodeFrom 0 rest := by
  obtain ⟨val, hval, hbyte⟩ := Option.map_eq_some_iff.mp (readHex_hexByte h)
  obtain ⟨x, y, hxy⟩ : ∃ x y, hexByte ch = [x, y] := ⟨_, _, rfl⟩
  rw [hxy] at hval ⊢
  have htake : ([x, y] ++ rest).take 2 = [x, y] := rfl
  rw [List.cons_append, decodeFrom, if_pos rfl, htake, hval]
  dsimp only
  rw [hbyte]
  rfl

lemma decodeFrom_plain {ch : Char} (h : ch ≠ '%') (h' : ch ≠ '+') (rest : Str) :
    decodeFrom 0 ([ch] ++ rest) = ch :: decodeFrom 0 rest := by
  rw [List.singleton_append, decodeFrom, if_neg h, if_neg h']

lemma decodeFrom_formCode {ch : Char} (h : ch.toNat < 256) (rest : Str) :
    decodeFrom 0 (formCode ch ++ rest) = ch :: decodeFrom 0 rest := by
  unfold formCode
  split
  · next hk =>
    apply decodeFrom_plain
    · rintro rfl
      exact absurd hk (by decide)
    · rintro rfl
      exact absurd hk (by decide)
  split
  · next hb =>
    subst hb
    rfl
  · exact decodeFrom_hexByte h rest

lemma decodeFrom_urlCode {ch : Char} (h : ch.toNat < 256) (rest : Str) :
    decodeFrom 0 (urlCode ch ++ rest) = ch :: decodeFrom 0 rest := by
  unfold urlCode
  split
  · next hk =>
    apply decodeFrom_plain
    · rintro rfl
      exact absurd hk (by decide)
    · rintro rfl
      exact absurd hk (by decide)
  · exact decodeFrom_hexByte h rest

/-- A code that is read back character by character is read back. -/
lemma decodeURIComponent_flatMap {code : Char → Str}
    (hcode : ∀ ch, ch.toNat < 256 → ∀ rest,
      decodeFrom 0 (code ch ++ rest) = ch :: decodeFrom 0 rest)
    {s : Str} (hs : Bytes s) : decodeURIComponent (s.flatMap code) = s := by
  unfold decodeURIComponent
  induction s with
  | nil => rfl
  | cons ch s ih =>
    rw [List.flatMap_cons, hcode ch (hs ch List.mem_cons_self),
      ih (fun x hx => hs x (List.mem_cons_of_mem ch hx))]

theorem decode_formText {s : Str} (hs : Bytes s) : decodeURIComponent (formText s) = s :=
  decodeURIComponent_flatMap (fun _ h => decodeFrom_formCode h) hs

theorem decode_urlEncode {s : Str} (hs : Bytes s) : decodeURIComponent (urlEncode s) = s :=
  decodeURIComponent_flatMap (fun _ h => decodeFrom_urlCode h) hs

lemma formText_injective {s t : Str} (hs : Bytes s) (ht : Bytes t)
    (h : formText s = formText t) : s = t := by
  rw [← decode_formText hs, h, decode_formText ht]

/-- A form text that `urlEncode` makes too is that of the same field. -/
lemma eq_of_formText_eq {s t : Str} (hs : Bytes s) (ht : Bytes t)
    (h : formText s = urlEncode t) : s = t := by
  rw [← decode_formText hs, h, decode_urlEncode ht]

/-! ### Where the two rules differ -/

/-- Both rules treat the character alike. -/
def SameCode (ch : Char) : Prop := ch ≠ ' ' ∧ ch ≠ '*' ∧ ch ≠ '~'

instance : DecidablePred SameCode := fun _ => inferInstanceAs (Decidable (_ ∧ _))

lemma formCode_eq {ch : Char} (h : SameCode ch) : formCode ch = urlCode ch := by
  unfold formCode urlCode FormKept
  obtain ⟨hblank, hstar, htilde⟩ := h
  simp only [hblank, hstar, htilde, if_false, false_or, or_false]
  by_cases hk : isalnum ch = true ∨ ch = '-' ∨ ch = '.' ∨ ch = '_'
  · rw [if_pos hk, if_pos (by tauto)]
  · rw [if_neg hk, if_neg (by tauto)]

lemma formCode_head {ch : Char} (h : ¬SameCode ch) :
    ∃ x s y t, formCode ch = x :: s ∧ urlCode ch = y :: t ∧ x ≠ y := by
  have hcases : ch = ' ' ∨ ch = '*' ∨ ch = '~' := by
    unfold SameCode at h
    tauto
  rcases hcases with rfl | rfl | rfl
  · exact ⟨'+', [], '%', _, rfl, rfl, by decide⟩
  · exact ⟨'*', [], '%', _, rfl, rfl, by decide⟩
  · exact ⟨'%', _, '~', [], rfl, rfl, by decide⟩

theorem formText_eq_urlEncode_iff (s : Str) :
    formText s = urlEncode s ↔ ∀ ch ∈ s, SameCode ch := by
  rw [urlEncode_eq, formText]
  induction s with
  | nil => simp
  | cons ch s ih =>
    rw [List.flatMap_cons, List.flatMap_cons, List.forall_mem_cons]
    by_cases h : SameCode ch
    · rw [formCode_eq h, List.append_cancel_left_eq, ih]
      exact (and_iff_right h).symm
    · obtain ⟨x, v, y, w, hx, hy, hne⟩ := formCode_head h
      rw [hx, hy]
      exact iff_of_false (fun heq => hne (List.cons.inj heq).1) (fun hall => h hall.1)

/-! ### Forms -/

/-- A text without the characters that separate the fields of a form, and without the end
of a C string. -/
def FormPlain (s : Str) : Prop :=
  ∀ ch ∈ s, ch ≠ '&' ∧ ch ≠ '=' ∧ ch ≠ '\x00' ∧ ch.toNat < 256

instance : DecidablePred FormPlain := fun s => List.decidableBAll _ s

lemma FormPlain.bytes {s : Str} (h : FormPlain s) : Bytes s := fun ch hch => (h ch hch).2.2.2

lemma FormPlain.no_amp {s : Str} (h : FormPlain s) : '&' ∉ s := fun hm => (h _ hm).1 rfl

lemma FormPlain.no_eq {s : Str} (h : FormPlain s) : '=' ∉ s := fun hm => (h _ hm).2.1 rfl

lemma formPlain_formText {s : Str} (hs : Bytes s) : FormPlain (formText s) := by
  intro ch hch
  obtain ⟨c, hc, hch⟩ := List.mem_flatMap.mp hch
  exact of_bytes (P := fun c => FormPlain (formCode c)) (by decide +kernel) (hs c hc) ch hch

lemma bytes_urlEncode {s : Str} (hs : Bytes s) : Bytes (urlEncode s) := by
  intro ch hch
  obtain ⟨c, hc, hch⟩ := List.mem_flatMap.mp hch
  exact of_bytes (P := fun c => Bytes (urlCode c)) (by decide +kernel) (hs c hc) ch hch

/-- A form text is one word of one line. -/
lemma not_mem_formText {s : Str} (hs : Bytes s) :
    ',' ∉ formText s ∧ '\r' ∉ formText s := by
  have hcode : ∀ ch, ch.toNat < 256 → ',' ∉ formCode ch ∧ '\r' ∉ formCode ch :=
    fun ch => of_bytes (P := fun ch => ',' ∉ formCode ch ∧ '\r' ∉ formCode ch) (by decide +kernel)
  constructor
  · intro hm
    obtain ⟨ch, hch, hm⟩ := List.mem_flatMap.mp hm
    exact (hcode ch (hs ch hch)).1 hm
  · intro hm
    obtain ⟨ch, hch, hm⟩ := List.mem_flatMap.mp hm
    exact (hcode ch (hs ch hch)).2 hm

/-! ### Texts that a form keeps -/

lemma length_formCode (ch : Char) : 1 ≤ (formCode ch).length := by
  unfold formCode
  split
  · exact le_rfl
  split
  · exact le_rfl
  · exact Nat.le_add_left 1 _

lemma length_le_formText (s : Str) : s.length ≤ (formText s).length := by
  induction s with
  | nil => exact le_rfl
  | cons ch s ih =>
    have hch := length_formCode ch
    have hcons : formText (ch :: s) = formCode ch ++ formText s := List.flatMap_cons
    rw [hcons, List.length_cons, List.length_append]
    omega

lemma formText_eq_self_iff (s : Str) : formText s = s ↔ ∀ ch ∈ s, FormKept ch := by
  induction s with
  | nil => simp [formText]
  | cons ch s ih =>
    have hcons : formText (ch :: s) = formCode ch ++ formText s := List.flatMap_cons
    rw [hcons, List.forall_mem_cons]
    unfold formCode
    split
    · next hk =>
      rw [List.singleton_append, List.cons_inj_right, ih]
      exact (and_iff_right hk).symm
    · next hk =>
      refine iff_of_false (fun heq => ?_) (fun hall => hk hall.1)
      split at heq
      · next hb =>
        rw [hb] at heq
        exact absurd (List.cons.inj heq).1 (by decide)
      · -- a code of three characters leaves too few for the rest
        have hlen : ('%' :: hexByte ch ++ formText s).length = (ch :: s).length :=
          congrArg List.length heq
        have hhex : (hexByte ch).length = 2 := rfl
        have hle := length_le_formText s
        rw [List.length_append, List.length_cons, List.length_cons, hhex] at hlen
        omega

/-- A field of a form. -/
def formField (key value : Str) : Str := key ++ '=' :: formText value

lemma formField_key {key value : Str} (hk : FormPlain key) :
    ((getlines '=' (formField key value))[0]?).getD [] = key := by
  rw [formField, getlines_append_delim hk.no_eq]
  rfl

lemma formField_value {key value : Str} (hk : FormPlain key) (hv : Bytes value) :
    ((getlines '=' (formField key value))[1]?).getD [] = formText value := by
  rw [formField, getlines_append_delim hk.no_eq]
  by_cases hnil : formText value = []
  · rw [hnil]
    rfl
  · rw [getlines_of_not_mem (formPlain_formText hv).no_eq hnil]
    rfl

lemma before_formField {key value : Str} (hk : FormPlain key) :
    before '=' (formField key value) = key := before_append hk.no_eq _

lemma after_formField {key value : Str} (hk : FormPlain key) :
    after '=' (formField key value) = formText value := after_append hk.no_eq _

lemma formField_no_amp {key value : Str} (hk : FormPlain key) (hv : Bytes value) :
    '&' ∉ formField key value := by
  unfold formField
  simp only [List.mem_append, List.mem_cons, not_or]
  exact ⟨hk.no_amp, by decide, (formPlain_formText hv).no_amp⟩

lemma formField_no_nul {key value : Str} (hk : FormPlain key) (hv : Bytes value) :
    '\x00' ∉ formField key value := by
  unfold formField
  simp only [List.mem_append, List.mem_cons, not_or]
  exact ⟨fun hm => (hk _ hm).2.2.1 rfl, by decide,
    fun hm => (formPlain_formText hv _ hm).2.2.1 rfl⟩

/-- The text of a form with these fields. -/
def form (fields : List (Str × Str)) : Str :=
  joined '&' (fields.map (fun f => formField f.1 f.2))

/-- The names need no code, and the values are bytes. -/
def FormFields (fields : List (Str × Str)) : Prop := ∀ f ∈ fields, FormPlain f.1 ∧ Bytes f.2

lemma getlines_form {fields : List (Str × Str)} (h : FormFields fields) :
    getlines '&' (form fields) = fields.map (fun f => formField f.1 f.2) := by
  apply getlines_joined
  · intro x hx
    obtain ⟨f, hf, rfl⟩ := List.mem_map.mp hx
    exact formField_no_amp (h f hf).1 (h f hf).2
  · intro hl
    obtain ⟨f, -, hnil⟩ := List.mem_map.mp (List.mem_of_getLast? hl)
    unfold formField at hnil
    simp at hnil

/-- A form is a C string. -/
lemma cString_form {fields : List (Str × Str)} (h : FormFields fields) :
    cString (form fields) = form fields := by
  have hnul : '\x00' ∉ form fields := by
    apply not_mem_joined (by decide)
    intro x hx
    obtain ⟨f, hf, rfl⟩ := List.mem_map.mp hx
    exact formField_no_nul (h f hf).1 (h f hf).2
  have hall : ∀ ch ∈ form fields, decide (ch ≠ '\x00') = true :=
    fun ch hch => decide_eq_true (fun heq => hnul (heq ▸ hch))
  unfold cString
  rw [← List.append_nil (form fields), List.takeWhile_append_of_pos hall]
  rfl

/-- The login form and the signup form, as they are sent. -/
def loginForm (username password : Str) : Str :=
  form [("username".toList, username), ("password".toList, password)]

/-- The form of a password change. -/
def newpassForm (username oldpass newpass : Str) : Str :=
  form [("username".toList, username), ("oldpass".toList, oldpass),
    ("newpass".toList, newpass)]

lemma formPlain_key : FormPlain "username".toList ∧ FormPlain "password".toList ∧
    FormPlain "oldpass".toList ∧ FormPlain "newpass".toList := by
  decide

lemma formFields_login {n p : Str} (hn : Bytes n) (hp : Bytes p) :
    FormFields [("username".toList, n), ("password".toList, p)] := by
  obtain ⟨huser, hpass, -⟩ := formPlain_key
  intro f hf
  rcases List.mem_pair.mp hf with rfl | rfl
  · exact ⟨huser, hn⟩
  · exact ⟨hpass, hp⟩

lemma formFields_newpass {n p q : Str} (hn : Bytes n) (hp : Bytes p) (hq : Bytes q) :
    FormFields [("username".toList, n), ("oldpass".toList, p), ("newpass".toList, q)] := by
  obtain ⟨huser, -, hold, hnew⟩ := formPlain_key
  intro f hf
  simp only [List.mem_cons, List.not_mem_nil, or_false] at hf
  rcases hf with rfl | rfl | rfl
  · exact ⟨huser, hn⟩
  · exact ⟨hold, hp⟩
  · exact ⟨hnew, hq⟩

/-- Login and signup take the texts of the two fields as they were sent. -/
lemma parseLoginData_loginForm {n p : Str} (hn : Bytes n) (hp : Bytes p) :
    parseLoginData (loginForm n p) = (formText n, formText p) := by
  obtain ⟨huser, hpass, -⟩ := formPlain_key
  unfold parseLoginData loginForm
  rw [getlines_form (formFields_login hn hp), List.map_cons, List.map_cons, List.map_nil,
    List.foldl_cons, List.foldl_cons, List.foldl_nil]
  dsimp only
  rw [formField_key huser, formField_value huser hn, formField_key hpass,
    formField_value hpass hp, if_pos rfl, if_neg (by decide), if_pos rfl]

/-- Password change decodes its fields. -/
lemma parseQuery_newpassForm {n p q : Str} (hn : Bytes n) (hp : Bytes p) (hq : Bytes q) :
    parseQuery (newpassForm n p q) "username".toList = n ∧
    parseQuery (newpassForm n p q) "oldpass".toList = p ∧
    parseQuery (newpassForm n p q) "newpass".toList = q := by
  obtain ⟨huser, -, hold, hnew⟩ := formPlain_key
  have hdecode : decodeURIComponent "username".toList = "username".toList ∧
      decodeURIComponent "oldpass".toList = "oldpass".toList ∧
      decodeURIComponent "newpass".toList = "newpass".toList := by
    decide
  unfold parseQuery newpassForm
  rw [getlines_form (formFields_newpass hn hp hq), List.map_cons, List.map_cons, List.map_cons,
    List.map_nil, List.foldl_cons, List.foldl_cons, List.foldl_cons, List.foldl_nil]
  dsimp only
  rw [before_formField huser, before_formField hold, before_formField hnew,
    after_formField huser, after_formField hold, after_formField hnew, decode_formText hn,
    decode_formText hp, decode_formText hq, hdecode.1, hdecode.2.1, hdecode.2.2]
  refine ⟨?_, ?_, ?_⟩
  · rw [Function.update_of_ne (by decide), Function.update_of_ne (by decide),
      Function.update_self]
  · rw [Function.update_of_ne (by decide), Function.update_self]
  · rw [Function.update_self]

/-! ### Maps of names and values -/

/-- `parseQuery` reads this map, and an empty text where it has no value. -/
theorem parseQuery_eq (query key : Str) :
    parseQuery query key = (queryMap query key).getD [] := by
  unfold parseQuery queryMap
  have hfold : ∀ (pairs : List Str) (data : Str → Str) (data' : Str → Option Str),
      (∀ k, data k = (data' k).getD []) → ∀ k,
      pairs.foldl (fun data pair => Function.update data (decodeURIComponent (before '=' pair))
        (decodeURIComponent (after '=' pair))) data k =
      (pairs.foldl (fun data pair => Function.update data (decodeURIComponent (before '=' pair))
        (some (decodeURIComponent (after '=' pair)))) data' k).getD [] := by
    intro pairs
    induction pairs with
    | nil => exact fun _ _ h k => h k
    | cons pair pairs ih =>
      intro data data' h
      apply ih
      intro k
      dsimp only
      by_cases hk : k = decodeURIComponent (before '=' pair)
      · rw [hk, Function.update_self, Function.update_self]
        rfl
      · rw [Function.update_of_ne hk, Function.update_of_ne hk]
        exact h k
  exact hfold _ (fun _ => []) (fun _ => none) (fun _ => rfl) key

/-- A name and its value, both encoded. -/
def queryPair (e : (_ : Str) × Str) : Str := urlEncode e.1 ++ '=' :: urlEncode e.2

/-- The encoded entries of a map, in their order. -/
def queryText (entries : List ((_ : Str) × Str)) : Str := joined '&' (entries.map queryPair)

lemma not_mem_urlEncode {s : Str} (hs : Bytes s) : '&' ∉ urlEncode s ∧ '=' ∉ urlEncode s := by
  have hcode : ∀ ch, ch.toNat < 256 → '&' ∉ urlCode ch ∧ '=' ∉ urlCode ch :=
    fun ch => of_bytes (P := fun ch => '&' ∉ urlCode ch ∧ '=' ∉ urlCode ch) (by decide +kernel)
  constructor
  · intro hm
    obtain ⟨ch, hch, hm⟩ := List.mem_flatMap.mp hm
    exact (hcode ch (hs ch hch)).1 hm
  · intro hm
    obtain ⟨ch, hch, hm⟩ := List.mem_flatMap.mp hm
    exact (hcode ch (hs ch hch)).2 hm

/-- The entries are byte strings. -/
def ByteEntries (entries : List ((_ : Str) × Str)) : Prop := ∀ e ∈ entries, Bytes e.1 ∧ Bytes e.2

lemma getlines_queryText {entries : List ((_ : Str) × Str)} (h : ByteEntries entries) :
    getlines '&' (queryText entries) = entries.map queryPair := by
  apply getlines_joined
  · intro x hx
    obtain ⟨e, he, rfl⟩ := List.mem_map.mp hx
    unfold queryPair
    simp only [List.mem_append, List.mem_cons, not_or]
    exact ⟨(not_mem_urlEncode (h e he).1).1, by decide, (not_mem_urlEncode (h e he).2).1⟩
  · intro hl
    obtain ⟨e, -, hnil⟩ := List.mem_map.mp (List.mem_of_getLast? hl)
    unfold queryPair at hnil
    simp at hnil

/-- Entries that are stored one after another, none twice, are found by their names. -/
lemma foldl_update_entries {entries : List ((_ : Str) × Str)} (h : entries.NodupKeys)
    (data : Str → Option Str) (key : Str) :
    entries.foldl (fun (data : Str → Option Str) e => Function.update data e.1 (some e.2)) data
      key = (entries.dlookup key).or (data key) := by
  induction entries generalizing data with
  | nil => simp
  | cons e entries ih =>
    obtain ⟨name, value⟩ := e
    obtain ⟨hnew, hrest⟩ := List.nodupKeys_cons.mp h
    rw [List.foldl_cons, ih hrest]
    by_cases hk : key = name
    · subst hk
      rw [Function.update_self, List.dlookup_cons_eq, List.dlookup_eq_none.mpr hnew]
      rfl
    · rw [Function.update_of_ne hk,
        List.dlookup_cons_ne entries (⟨name, value⟩ : (_ : Str) × Str) hk]

/-- A map is read back from the text of its entries, whatever their order. -/
theorem query_round_trip (m : AList (fun _ : Str => Str)) (h : ByteEntries m.entries) :
    ∀ key, queryMap (queryText m.entries) key = m.lookup key := by
  intro key
  have hread : ∀ (entries : List ((_ : Str) × Str)), ByteEntries entries →
      ∀ data : Str → Option Str, (entries.map queryPair).foldl (fun data pair =>
        Function.update data (decodeURIComponent (before '=' pair))
          (some (decodeURIComponent (after '=' pair)))) data =
      entries.foldl (fun (data : Str → Option Str) e => Function.update data e.1 (some e.2))
        data := by
    intro entries
    induction entries with
    | nil => exact fun _ _ => rfl
    | cons e entries ih =>
      intro hentries data
      obtain ⟨hname, hvalue⟩ := hentries e List.mem_cons_self
      have hno := (not_mem_urlEncode hname).2
      rw [List.map_cons, List.foldl_cons, List.foldl_cons, queryPair, before_append hno,
        after_append hno, decode_urlEncode hname, decode_urlEncode hvalue]
      exact ih (fun x hx => hentries x (List.mem_cons_of_mem e hx)) _
  unfold queryMap
  rw [getlines_queryText h, hread m.entries h, foldl_update_entries m.nodupKeys, Option.or_none]
  rfl

/-- Names and values with separators, blanks and high bytes, one value empty. -/
def oddEntries : AList (fun _ : Str => Str) :=
  ((∅ : AList (fun _ : Str => Str)).insert "a&b=".toList "\xe4 +%".toList).insert "".toList
    "".toList

theorem query_round_trip_odd :
    queryMap (queryText oddEntries.entries) "a&b=".toList = some "\xe4 +%".toList :=
  (query_round_trip oddEntries (by unfold ByteEntries; decide) "a&b=".toList).trans (by decide)

end CloudStorage.Proofs
