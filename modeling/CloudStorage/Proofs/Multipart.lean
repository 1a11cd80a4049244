import CloudStorage.Proofs.Substrings

/-!
# Uploaded files

What the parser of multipart forms returns. The body is taken apart at the delimiter between
two parts, which does not stand behind the last part; and the bytes of a part are counted
from its end, which may come too soon.
-/

namespace CloudStorage.Proofs
open DelimitedText

/-! ### Parts -/

/-- The parts that `split` makes of a body. -/
def partsOf (boundary body : Str) : List Str :=
  splitFrom ("--".toList ++ boundary ++ "\r\n".toList) 0 [] body

/-- The headers of a part that the loop looks at. -/
def headersOf (endDelimiter part : Str) : Option Str :=
  if part = [] ∨ part = endDelimiter then none
  else (findStr "\r\n\r\n".toList part).map (fun pos => part.take pos)

/-- The loop takes the part for the file. -/
def NamesFile (endDelimiter part : Str) : Prop :=
  ∃ headers, headersOf endDelimiter part = some headers ∧
    contains "filename=".toList headers = true

/-- Behind the headers of every part up to the first file there is room for a CR LF. -/
def LongEnough (endDelimiter : Str) (parts : List Str) : Prop :=
  ∀ front part rest, parts = front ++ part :: rest → (∀ q ∈ front, ¬NamesFile endDelimiter q) →
    ∀ headers, headersOf endDelimiter part = some headers → headers.length + 6 ≤ part.length

lemma longEnough_cons {endDelimiter part : Str} {parts : List Str} :
    LongEnough endDelimiter (part :: parts) ↔
      (∀ headers, headersOf endDelimiter part = some headers →
        headers.length + 6 ≤ part.length) ∧
      (¬NamesFile endDelimiter part → LongEnough endDelimiter parts) := by
  constructor
  · intro h
    refine ⟨h [] part parts rfl (fun _ hq => absurd hq List.not_mem_nil), ?_⟩
    intro hno front q rest heq hfront
    apply h (part :: front) q rest (by rw [heq, List.cons_append])
    intro x hx
    cases List.mem_cons.mp hx with
    | inl hx => exact hx ▸ hno
    | inr hx => exact hfront x hx
  · rintro ⟨hpart, hrest⟩ front q rest heq hfront
    cases front with
    | nil =>
      obtain ⟨rfl, -⟩ := List.cons.inj heq
      exact hpart
    | cons x front =>
      obtain ⟨rfl, hparts⟩ := List.cons.inj heq
      exact hrest (hfront _ List.mem_cons_self) front q rest hparts
        (fun y hy => hfront y (List.mem_cons_of_mem _ hy))

/-- Where `filename=` stands no substring begins behind the end. -/
lemma quotedAfter_isSome {headers : Str} (h : contains "filename=".toList headers = true)
    {key : Str} (hkey : key.length ≤ 10) : (quotedAfter key headers).isSome := by
  have hlen : 9 ≤ headers.length := (contains_iff _ _ |>.mp h).length_le
  have hpos : posBehind key headers ≤ headers.length := by
    unfold posBehind
    cases hk : findStr key headers with
    | some k => exact findStr_le hk
    | none =>
      have hle : key.length - 1 ≤ 9 := Nat.sub_le_of_le_add hkey
      exact hle.trans hlen
  unfold quotedAfter substr
  rw [if_pos hpos]
  rfl

lemma fileOfParts_skip {endDelimiter part : Str} (h : headersOf endDelimiter part = none)
    (parts : List Str) :
    fileOfParts endDelimiter (part :: parts) = fileOfParts endDelimiter parts := by
  unfold headersOf at h
  rw [fileOfParts]
  split at h
  · next hskip => rw [if_pos hskip]
  · next hskip =>
    rw [if_neg hskip, Option.map_eq_none_iff.mp h]

/-- A part with headers is too short, or the file, or another field. -/
lemma fileOfParts_headers {endDelimiter part headers : Str}
    (h : headersOf endDelimiter part = some headers) (parts : List Str) :
    fileOfParts endDelimiter (part :: parts) =
      if part.length < headers.length + 6 then none
      else if contains "filename=".toList headers then
        (quotedAfter "filename=\"".toList headers).map (fun filename =>
          ((part.drop (headers.length + 4)).take (part.length - headers.length - 6), filename))
      else fileOfParts endDelimiter parts := by
  unfold headersOf at h
  rw [fileOfParts]
  split at h
  · exact absurd h (by simp)
  · next hskip =>
    obtain ⟨pos, hpos, rfl⟩ := Option.map_eq_some_iff.mp h
    have hlen : (part.take pos).length = pos := by
      have hle := findStr_le hpos
      rw [List.length_take]
      omega
    rw [if_neg hskip, hpos, hlen]
    dsimp only
    congr 1
    by_cases hfile : contains "filename=".toList (part.take pos) = true
    · have hkey : "name=\"".toList.length ≤ 10 := by
        decide
      obtain ⟨name, hname⟩ := Option.isSome_iff_exists.mp (quotedAfter_isSome hfile hkey)
      rw [if_pos hfile, if_pos hfile, hname]
      cases quotedAfter "filename=\"".toList (part.take pos) with
      | none => rfl
      | some filename => rfl
    · rw [if_neg hfile, if_neg hfile]

theorem fileOfParts_isSome_iff (endDelimiter : Str) (parts : List Str) :
    (fileOfParts endDelimiter parts).isSome ↔ LongEnough endDelimiter parts := by
  induction parts with
  | nil =>
    refine iff_of_true rfl ?_
    intro front part rest heq
    exact absurd heq (by simp)
  | cons part parts ih =>
    rw [longEnough_cons]
    cases hh : headersOf endDelimiter part with
    | none =>
      rw [fileOfParts_skip hh, ih]
      have hno : ¬NamesFile endDelimiter part := by
        rintro ⟨headers, hsome, -⟩
        rw [hh] at hsome
        exact absurd hsome (by simp)
      simp [hno]
    | some headers =>
      rw [fileOfParts_headers hh]
      by_cases hshort : part.length < headers.length + 6
      · rw [if_pos hshort]
        refine iff_of_false (by simp) (fun h => ?_)
        have hlong := h.1 headers rfl
        omega
      · rw [if_neg hshort]
        have hlong : ∀ x, some headers = some x → x.length + 6 ≤ part.length := by
          intro x hx
          obtain rfl := Option.some.inj hx
          omega
        by_cases hfile : contains "filename=".toList headers = true
        · rw [if_pos hfile, Option.isSome_map]
          have hnames : NamesFile endDelimiter part := ⟨headers, hh, hfile⟩
          exact iff_of_true (quotedAfter_isSome hfile (by decide))
            ⟨hlong, fun hno => absurd hnames hno⟩
        · rw [if_neg hfile, ih]
          have hno : ¬NamesFile endDelimiter part := by
            rintro ⟨x, hx, hcontains⟩
            rw [hh] at hx
            obtain rfl := Option.some.inj hx
            exact hfile hcontains
          exact ⟨fun h => ⟨hlong, fun _ => h⟩, fun h => h.2 hno⟩

/-! ### Malformed bodies -/

/-- What stands behind `boundary=` is not a lone quote. -/
def NoLoneQuote (contentType : Str) : Prop :=
  ∀ pos, findStr "boundary=".toList contentType = some pos →
    contentType.drop (pos + "boundary=".length) ≠ ['"']

lemma extractBoundary_isSome_iff (contentType : Str) :
    (extractBoundary contentType).isSome ↔ NoLoneQuote contentType := by
  unfold extractBoundary NoLoneQuote
  cases hpos : findStr "boundary=".toList contentType with
  | none => simp
  | some pos =>
    dsimp only
    cases hb : contentType.drop (pos + "boundary=".length) with
    | nil => simp [hb]
    | cons ch rest =>
      by_cases hch : ch = '"'
      · subst hch
        cases rest with
        | nil => simp [hb]
        | cons d rest => simp [hb]
      · simp [hb, hch]

/-- The parser goes through a body, and throws nothing, exactly if the boundary is not a lone
quote and no part that it looks at ends too soon behind its headers. -/
theorem multipart_parsed_iff (contentType body : Str) :
    (parseMultipartFormData contentType body).isSome ↔
      NoLoneQuote contentType ∧ ∀ boundary, extractBoundary contentType = some boundary →
        LongEnough ("--".toList ++ boundary ++ "--".toList) (partsOf boundary body) := by
  rw [← extractBoundary_isSome_iff]
  unfold parseMultipartFormData
  cases hb : extractBoundary contentType with
  | none => simp
  | some boundary =>
    have hparts := fileOfParts_isSome_iff ("--".toList ++ boundary ++ "--".toList)
      (partsOf boundary body)
    rw [Option.bind_some]
    constructor
    · intro h
      refine ⟨rfl, fun x hx => ?_⟩
      obtain rfl := Option.some.inj hx
      exact hparts.mp h
    · intro h
      exact hparts.mpr (h.2 boundary rfl)

/-- The part is an empty line and nothing else: its content ends before it begins. -/
theorem short_part_not_parsed : parseMultipartFormData
    "Content-Type: multipart/form-data; boundary=B".toList
    "--B\r\n\r\n\r\n--B\r\n".toList = none := by
  decide +kernel

/-! ### Bodies made of parts -/

/-- `split` cuts at the first delimiter. -/
lemma splitFrom_skip (delimiter : Str) (k : Nat) (part s : Str) :
    splitFrom delimiter k part s = splitFrom delimiter 0 part (s.drop k) := by
  induction s generalizing k with
  | nil =>
    rw [List.drop_nil]
    cases k with
    | zero => rfl
    | succ k => rfl
  | cons ch s ih =>
    cases k with
    | zero => rfl
    | succ k =>
      rw [splitFrom, List.drop_succ_cons]
      exact ih k

lemma splitFrom_some {delimiter s : Str} (hd : delimiter ≠ []) {n : Nat}
    (h : findStr delimiter s = some n) (part : Str) :
    splitFrom delimiter 0 part s =
      (part ++ s.take n) :: splitFrom delimiter 0 [] (s.drop (n + delimiter.length)) := by
  induction s generalizing n part with
  | nil =>
    rw [findStr, if_neg hd] at h
    exact absurd h (by simp)
  | cons ch s ih =>
    rw [findStr] at h
    rw [splitFrom]
    split at h
    · next hp =>
      obtain rfl := Option.some.inj h
      have hlen := List.length_pos_iff.mpr hd
      rw [if_pos hp, splitFrom_skip, List.take_zero, List.append_nil, Nat.zero_add]
      congr 2
      obtain ⟨k, hk⟩ := Nat.exists_eq_succ_of_ne_zero hlen.ne'
      rw [hk, Nat.succ_sub_one, List.drop_succ_cons]
    · next hp =>
      obtain ⟨m, hm, rfl⟩ := Option.map_eq_some_iff.mp h
      rw [if_neg hp, ih hm, List.take_succ_cons, List.append_assoc, List.singleton_append,
        Nat.add_right_comm, List.drop_succ_cons]

lemma splitFrom_none {delimiter s : Str} (h : findStr delimiter s = none) {part : Str}
    (hne : part ++ s ≠ []) : splitFrom delimiter 0 part s = [part ++ s] := by
  induction s generalizing part with
  | nil =>
    rw [List.append_nil] at hne ⊢
    rw [splitFrom, if_neg hne]
  | cons ch s ih =>
    rw [findStr] at h
    split at h
    · exact absurd h (by simp)
    · next hp =>
      have happ : part ++ [ch] ++ s = part ++ ch :: s := by simp
      rw [splitFrom, if_neg hp, ih (Option.map_eq_none_iff.mp h) (happ ▸ hne), happ]

/-- A line that is found in front of a CR LF stands in front of the first one. -/
lemma prefix_line {p u v : Str} (hp : NoCrlf p)
    (h : p ++ "\r\n".toList <+: u ++ "\r\n".toList ++ v) : p <+: u := by
  obtain ⟨r, hr⟩ := h
  have hcut : ∃ a w, a <+: u ∧ NoCrlf a ∧
      u ++ "\r\n".toList ++ v = a ++ "\r\n".toList ++ w := by
    by_cases hu : NoCrlf u
    · exact ⟨u, v, List.prefix_rfl, hu, rfl⟩
    · obtain ⟨a, b, rfl, ha⟩ := exists_first_crlf hu
      refine ⟨a, b ++ "\r\n".toList ++ v, ?_, ha, ?_⟩
      · rw [List.append_assoc]
        exact List.prefix_append _ _
      · simp only [List.append_assoc]
  obtain ⟨a, w, hau, ha, hw⟩ := hcut
  rw [hw] at hr
  have hlen : p.length = a.length := by
    have hfirst := findStr_line hp r
    rw [hr, findStr_line ha w] at hfirst
    exact (Option.some.inj hfirst).symm
  rw [List.append_assoc, List.append_assoc] at hr
  exact (List.append_inj hr hlen).1 ▸ hau

/-- A delimiter that begins with `-` and ends at CR LF is not found before that CR LF in a
text without the rest of it. -/
lemma findStr_behind {p u : Str} (hp : NoCrlf p) (hdash : p.head? = some '-')
    (hu : contains p u = false) (v : Str) :
    findStr (p ++ "\r\n".toList) (u ++ "\r\n".toList ++ v) =
      (findStr (p ++ "\r\n".toList) v).map (· + (u.length + 2)) := by
  obtain ⟨rest, rfl⟩ : ∃ rest, p = '-' :: rest := by
    cases p with
    | nil => exact absurd hdash (by simp)
    | cons ch rest =>
      obtain rfl := Option.some.inj hdash
      exact ⟨rest, rfl⟩
  induction u with
  | nil =>
    have hskip : ∀ ch s, ch ≠ '-' → findStr ('-' :: rest ++ "\r\n".toList) (ch :: s) =
        (findStr ('-' :: rest ++ "\r\n".toList) s).map (· + 1) := by
      intro ch s hne
      rw [findStr, if_neg]
      rw [List.isPrefixOf_iff_prefix]
      intro hpre
      exact hne (List.cons_prefix_cons.mp hpre).1.symm
    change findStr _ ('\r' :: '\n' :: v) = _
    rw [hskip _ _ (by decide), hskip _ _ (by decide), Option.map_map]
    rfl
  | cons ch u ih =>
    rw [contains, Bool.or_eq_false_iff] at hu
    have hno : ('-' :: rest ++ "\r\n".toList).isPrefixOf (ch :: (u ++ "\r\n".toList ++ v)) =
        false := by
      rw [← Bool.not_eq_true, List.isPrefixOf_iff_prefix]
      intro hpre
      have hline : '-' :: rest <+: ch :: u := prefix_line (v := v) hp hpre
      rw [← List.isPrefixOf_iff_prefix, hu.1] at hline
      exact Bool.false_ne_true hline
    change findStr _ (ch :: (u ++ "\r\n".toList ++ v)) = _
    rw [findStr, hno, if_neg (by decide), ih hu.2, Option.map_map]
    congr 1

/-- A part of a form: its headers, up to the first empty line, and what stands behind it. -/
structure FormPart where
  headers : Str
  data : Str
  ends : findStr "\r\n\r\n".toList (headers ++ "\r\n\r\n".toList) = some headers.length

def FormPart.text (x : FormPart) : Str :=
  x.headers ++ "\r\n\r\n".toList ++ x.data ++ "\r\n".toList

lemma length_text (x : FormPart) : x.text.length = x.headers.length + x.data.length + 6 := by
  have hfour : "\r\n\r\n".toList.length = 4 := rfl
  have htwo : "\r\n".toList.length = 2 := rfl
  rw [FormPart.text]
  simp only [List.length_append, hfour, htwo]
  omega

/-- The body of a form with these parts. -/
def formBody (boundary : Str) : List FormPart → Str
  | [] => "--".toList ++ boundary ++ "--\r\n".toList
  | x :: xs => "--".toList ++ boundary ++ "\r\n".toList ++ (x.text ++ formBody boundary xs)

/-- The boundary occurs in neither half of the part. -/
def FreeOf (boundary : Str) (x : FormPart) : Prop :=
  contains ("--".toList ++ boundary) x.headers = false ∧
    contains ("--".toList ++ boundary) x.data = false

lemma partStart_ne_nil (boundary : Str) : "--".toList ++ boundary ++ "\r\n".toList ≠ [] :=
  List.append_ne_nil_of_right_ne_nil _ (by decide)

section Body

variable {boundary : Str} (hb : NoCrlf boundary)

include hb in
lemma noCrlf_dashes : NoCrlf ("--".toList ++ boundary) := by
  have hdashes : NoCrlf "--".toList := by
    decide
  exact hdashes.append hb (fun h => absurd h (by decide))

include hb in
lemma findStr_text {x : FormPart} (hx : FreeOf boundary x) (v : Str) :
    findStr ("--".toList ++ boundary ++ "\r\n".toList) (x.text ++ v) =
      (findStr ("--".toList ++ boundary ++ "\r\n".toList) v).map (· + x.text.length) := by
  have hp := noCrlf_dashes hb
  have hnil : contains ("--".toList ++ boundary) [] = false := rfl
  have htext : x.text ++ v = x.headers ++ "\r\n".toList ++ ([] ++ "\r\n".toList ++
      (x.data ++ "\r\n".toList ++ v)) := by
    have hcrlf : "\r\n\r\n".toList = "\r\n".toList ++ "\r\n".toList := rfl
    rw [FormPart.text, hcrlf]
    simp only [List.append_assoc, List.nil_append]
  rw [htext, findStr_behind hp rfl hx.1, findStr_behind hp rfl hnil, findStr_behind hp rfl hx.2,
    Option.map_map, Option.map_map, length_text]
  congr 1
  funext n
  simp only [Function.comp_apply, List.length_nil]
  omega

include hb in
/-- A part in front of another one is cut out as it is. -/
lemma partsOf_text {x y : FormPart} (hx : FreeOf boundary x) (ys : List FormPart) :
    partsOf boundary (x.text ++ formBody boundary (y :: ys)) =
      x.text :: partsOf boundary (y.text ++ formBody boundary ys) := by
  have hne := partStart_ne_nil boundary
  have hfound : findStr ("--".toList ++ boundary ++ "\r\n".toList)
      (x.text ++ formBody boundary (y :: ys)) = some x.text.length := by
    rw [findStr_text hb hx, formBody, findStr_start hne]
    simp
  unfold partsOf
  rw [splitFrom_some hne hfound, List.nil_append, List.take_left, ← List.drop_drop,
    List.drop_left, formBody, List.drop_left]

include hb in
/-- The last part takes the end of the body with it. -/
lemma partsOf_last {x : FormPart} (hx : FreeOf boundary x) :
    ∃ tail more, tail ≠ [] ∧
      partsOf boundary (x.text ++ formBody boundary []) = (x.text ++ tail) :: more := by
  have hne := partStart_ne_nil boundary
  have hend : formBody boundary [] ≠ [] :=
    List.append_ne_nil_of_right_ne_nil _ (by decide)
  have hfind := findStr_text hb hx (formBody boundary [])
  unfold partsOf
  cases hz : findStr ("--".toList ++ boundary ++ "\r\n".toList) (formBody boundary []) with
  | none =>
    rw [hz, Option.map_none] at hfind
    refine ⟨formBody boundary [], [], hend, ?_⟩
    have hwhole : [] ++ (x.text ++ formBody boundary []) ≠ [] :=
      List.append_ne_nil_of_right_ne_nil _ (List.append_ne_nil_of_right_ne_nil _ hend)
    rw [splitFrom_none hfind hwhole, List.nil_append]
  | some n =>
    rw [hz, Option.map_some] at hfind
    have hsplit := splitFrom_some hne hfind []
    rw [List.nil_append, Nat.add_comm n, List.take_length_add_append] at hsplit
    refine ⟨(formBody boundary []).take n, _, ?_, hsplit⟩
    intro hnil
    have hzero : n = 0 := (List.take_eq_nil_iff.mp hnil).resolve_right hend
    have hp := findStr_prefix hz
    rw [hzero, List.drop_zero, formBody, List.prefix_append_right_inj] at hp
    exact absurd hp (by decide)

include hb in
/-- The loop looks at every part. -/
lemma headersOf_text (x : FormPart) (tail : Str) :
    headersOf ("--".toList ++ boundary ++ "--".toList) (x.text ++ tail) = some x.headers := by
  have hfound : findStr "\r\n\r\n".toList (x.text ++ tail) = some x.headers.length := by
    rw [FormPart.text, List.append_assoc, List.append_assoc]
    exact findStr_append x.ends _
  have hne : ¬(x.text ++ tail = [] ∨
      x.text ++ tail = "--".toList ++ boundary ++ "--".toList) := by
    rintro (hnil | hend)
    · rw [hnil] at hfound
      exact absurd hfound (by simp [findStr])
    · have hline : NoCrlf ("--".toList ++ boundary ++ "--".toList) :=
        (noCrlf_dashes hb).append (by decide) (fun _ => by decide)
      have hnone : contains "\r\n\r\n".toList ("--".toList ++ boundary ++ "--".toList) =
          false := by
        rw [← Bool.not_eq_true, contains_iff]
        intro hin
        have hcrlf := contains_of_noCrlf hline
        rw [← Bool.not_eq_true, contains_iff] at hcrlf
        have hsub : "\r\n".toList <:+: "\r\n\r\n".toList := by
          decide
        exact hcrlf (hsub.trans hin)
      rw [hend, findStr_eq_none hnone] at hfound
      exact absurd hfound (by simp)
  unfold headersOf
  rw [if_neg hne, hfound, Option.map_some, FormPart.text, List.append_assoc, List.append_assoc,
    List.append_assoc, List.take_left]

include hb in
lemma fileOfParts_text {x : FormPart} (tail : Str) (parts : List Str) :
    fileOfParts ("--".toList ++ boundary ++ "--".toList) ((x.text ++ tail) :: parts) =
      if contains "filename=".toList x.headers then
        (quotedAfter "filename=\"".toList x.headers).map (fun filename =>
          ((x.data ++ "\r\n".toList ++ tail).take (x.data.length + tail.length), filename))
      else fileOfParts ("--".toList ++ boundary ++ "--".toList) parts := by
  have hlen : (x.text ++ tail).length = x.headers.length + x.data.length + 6 + tail.length := by
    rw [List.length_append, length_text]
  have hcount : (x.text ++ tail).length - x.headers.length - 6 =
      x.data.length + tail.length := by
    omega
  have hcontent : (x.text ++ tail).drop (x.headers.length + 4) =
      x.data ++ "\r\n".toList ++ tail := by
    have hfour : "\r\n\r\n".toList.length = 4 := rfl
    rw [FormPart.text, ← hfour, ← List.length_append, List.append_assoc, List.append_assoc,
      List.drop_left, ← List.append_assoc]
  rw [fileOfParts_headers (headersOf_text hb x tail), hcontent, hcount, if_neg (by omega)]

/-- The parts from the first one on whose headers have `filename=` in them. -/
def fromFile (parts : List FormPart) : List FormPart :=
  parts.dropWhile (fun x => !contains "filename=".toList x.headers)

lemma fromFile_head {parts xs : List FormPart} {x : FormPart} (h : fromFile parts = x :: xs) :
    contains "filename=".toList x.headers = true := by
  unfold fromFile at h
  have hhead := List.head?_dropWhile_not
    (fun x : FormPart => !contains "filename=".toList x.headers) parts
  rw [h, List.head?_cons] at hhead
  simpa using hhead

lemma mem_fromFile {parts : List FormPart} {x : FormPart} (hx : x ∈ parts)
    (hfile : contains "filename=".toList x.headers = true) : x ∈ fromFile parts := by
  rw [← List.takeWhile_append_dropWhile
    (p := fun x : FormPart => !contains "filename=".toList x.headers) (l := parts)] at hx
  cases List.mem_append.mp hx with
  | inl hx =>
    have hno := List.all_eq_true.mp List.all_takeWhile x hx
    rw [hfile] at hno
    exact absurd hno (by decide)
  | inr hx => exact hx

include hb in
/-- The loop comes to the first part whose headers have `filename=` in them. -/
lemma fileOfParts_fromFile {x y : FormPart} {parts xs : List FormPart}
    (hfree : ∀ z ∈ y :: parts, FreeOf boundary z) (hfrom : fromFile (y :: parts) = x :: xs) :
    fileOfParts ("--".toList ++ boundary ++ "--".toList)
        (partsOf boundary (y.text ++ formBody boundary parts)) =
      fileOfParts ("--".toList ++ boundary ++ "--".toList)
        (partsOf boundary (x.text ++ formBody boundary xs)) := by
  induction parts generalizing y with
  | nil =>
    unfold fromFile at hfrom
    rw [List.dropWhile_cons] at hfrom
    split at hfrom
    · exact absurd hfrom (by simp)
    · cases hfrom
      rfl
  | cons z parts ih =>
    unfold fromFile at hfrom
    rw [List.dropWhile_cons] at hfrom
    split at hfrom
    · next hfile =>
      have hno : contains "filename=".toList y.headers ≠ true := by
        rw [Bool.not_eq_true', ← Bool.not_eq_true] at hfile
        exact hfile
      have htext := fileOfParts_text hb (x := y) [] (partsOf boundary
        (z.text ++ formBody boundary parts))
      rw [List.append_nil, if_neg hno] at htext
      rw [partsOf_text hb (hfree y List.mem_cons_self), htext]
      exact ih (fun w hw => hfree w (List.mem_cons_of_mem y hw)) hfrom
    · cases hfrom
      rfl

end Body

/-! ### The uploaded file -/

/-- The headers of the part name a file. -/
def NamesAs (x : FormPart) (fname : Str) : Prop :=
  '"' ∉ fname ∧ ∃ pre post, x.headers = pre ++ "filename=\"".toList ++ fname ++ ['"'] ++ post

/-- The first part with `filename=` in its headers is not the last one, and has the data and
the name of the file. -/
def FirstNamed (parts : List FormPart) (data fname : Str) : Prop :=
  ∃ x y rest, fromFile parts = x :: y :: rest ∧ x.data = data ∧
    quotedAfter "filename=\"".toList x.headers = some fname

/-- The boundary is a piece of the header line. -/
lemma extractBoundary_piece {contentType boundary : Str}
    (h : extractBoundary contentType = some boundary) : boundary <:+: contentType := by
  unfold extractBoundary at h
  split at h
  · obtain rfl := Option.some.inj h
    exact List.nil_infix
  · next pos _ =>
    have hsuffix := List.drop_suffix (pos + "boundary=".length) contentType
    dsimp only at h
    split at h
    · split at h
      · exact absurd h (by simp)
      · obtain rfl := Option.some.inj h
        exact ((List.dropLast_prefix _).isInfix.trans (List.tail_suffix _).isInfix).trans
          hsuffix.isInfix
    · obtain rfl := Option.some.inj h
      exact hsuffix.isInfix

/-- The parser returns the file and its name exactly if the part that it takes for the file
is not the last one and is the file. -/
theorem upload_exact_iff {contentType boundary : Str}
    (hb : extractBoundary contentType = some boundary) (htype : NoCrlf contentType)
    {parts : List FormPart} (hfree : ∀ x ∈ parts, FreeOf boundary x) {file : FormPart}
    (hfile : file ∈ parts) {fname : Str} (hnames : NamesAs file fname) :
    parseMultipartFormData contentType (formBody boundary parts) = some (file.data, fname) ↔
      FirstNamed parts file.data fname := by
  have hline : NoCrlf boundary := List.IsChain.infix htype (extractBoundary_piece hb)
  have hcontains : contains "filename=".toList file.headers = true := by
    obtain ⟨-, pre, post, hheaders⟩ := hnames
    rw [hheaders, contains_iff]
    have hkey : "filename=".toList <:+: "filename=\"".toList := by
      decide
    apply hkey.trans
    rw [List.append_assoc, List.append_assoc, List.append_assoc]
    exact List.infix_append' _ _ _
  have hmem := mem_fromFile hfile hcontains
  obtain ⟨y, ys, rfl⟩ := List.exists_cons_of_ne_nil (List.ne_nil_of_mem hfile)
  have hparse : parseMultipartFormData contentType (formBody boundary (y :: ys)) =
      fileOfParts ("--".toList ++ boundary ++ "--".toList)
        (partsOf boundary (y.text ++ formBody boundary ys)) := by
    have hne := partStart_ne_nil boundary
    unfold parseMultipartFormData partsOf
    rw [hb, Option.bind_some, formBody, splitFrom_some hne (findStr_start hne _),
      List.take_zero, Nat.zero_add, List.drop_left, List.append_nil, fileOfParts,
      if_pos (Or.inl rfl)]
  unfold FirstNamed
  cases hfrom : fromFile (y :: ys) with
  | nil =>
    rw [hfrom] at hmem
    exact absurd hmem List.not_mem_nil
  | cons x xs =>
    have hhead := fromFile_head hfrom
    have hx : FreeOf boundary x := by
      apply hfree
      have hin : x ∈ fromFile (y :: ys) := hfrom ▸ List.mem_cons_self
      exact (List.dropWhile_suffix _).subset hin
    rw [hparse, fileOfParts_fromFile hline hfree hfrom]
    cases xs with
    | nil =>
      -- the end of the body is taken for content
      obtain ⟨tail, more, htail, hparts⟩ := partsOf_last hline hx
      rw [hparts, fileOfParts_text hline, if_pos hhead]
      rw [hfrom] at hmem
      obtain rfl := List.mem_singleton.mp hmem
      constructor
      · intro h
        obtain ⟨name, -, heq⟩ := Option.map_eq_some_iff.mp h
        have hlen := congrArg List.length (Prod.mk.inj heq).1
        have hpos := List.length_pos_iff.mpr htail
        rw [List.length_take, List.length_append, List.length_append] at hlen
        omega
      · rintro ⟨_, _, _, hshort, -⟩
        exact absurd hshort (by simp)
    | cons z zs =>
      have htext := fileOfParts_text hline (x := x) [] (partsOf boundary
        (z.text ++ formBody boundary zs))
      rw [List.append_nil, List.append_nil, List.length_nil, Nat.add_zero, List.take_left,
        if_pos hhead] at htext
      rw [partsOf_text hline hx, htext]
      constructor
      · intro h
        obtain ⟨name, hname, heq⟩ := Option.map_eq_some_iff.mp h
        obtain ⟨hdata, rfl⟩ := Prod.mk.inj heq
        exact ⟨x, z, zs, rfl, hdata, hname⟩
      · rintro ⟨x', z', zs', heq, hdata, hname⟩
        obtain ⟨rfl, -⟩ := List.cons.inj heq
        rw [hname, ← hdata]
        rfl

/-! ### A form with one file -/

def filePart : FormPart where
  headers := "Content-Disposition: form-data; name=\"file\"; filename=\"f.txt\"".toList
  data := "A".toList
  ends := by decide

def fieldPart : FormPart where
  headers := "Content-Disposition: form-data; name=\"note\"".toList
  data := "B".toList
  ends := by decide

lemma filePart_names : NamesAs filePart "f.txt".toList :=
  ⟨by decide, "Content-Disposition: form-data; name=\"file\"; ".toList, [], rfl⟩

instance (boundary : Str) (x : FormPart) : Decidable (FreeOf boundary x) :=
  inferInstanceAs (Decidable (_ ∧ _))

theorem upload_exact_two :
    parseMultipartFormData "Content-Type: multipart/form-data; boundary=xyz".toList
        (formBody "xyz".toList [filePart, fieldPart]) = some (filePart.data, "f.txt".toList) ↔
      FirstNamed [filePart, fieldPart] filePart.data "f.txt".toList :=
  upload_exact_iff (by decide +kernel) (by decide) (by decide) List.mem_cons_self filePart_names

/-- The end of the body becomes part of a file that stands last. -/
theorem last_file_grows : ¬∀ (contentType boundary : Str) (parts : List FormPart)
    (file : FormPart) (fname : Str), extractBoundary contentType = some boundary →
      NoCrlf contentType → (∀ x ∈ parts, FreeOf boundary x) → file ∈ parts →
      NamesAs file fname →
      (∀ x ∈ parts, contains "filename=".toList x.headers = true → x = file) →
      parseMultipartFormData contentType (formBody boundary parts) = some (file.data, fname) := by
  intro h
  have hexact := h "Content-Type: multipart/form-data; boundary=xyz".toList "xyz".toList
    [filePart] filePart "f.txt".toList (by decide +kernel) (by decide) (by decide)
    List.mem_cons_self filePart_names (fun x hx _ => List.mem_singleton.mp hx)
  have hgrown : parseMultipartFormData
      "Content-Type: multipart/form-data; boundary=xyz".toList
      (formBody "xyz".toList [filePart]) =
        some ("A\r\n--xyz--".toList, "f.txt".toList) := by
    decide +kernel
  rw [hgrown] at hexact
  exact absurd hexact (by decide)

end CloudStorage.Proofs
