import CloudStorage.Proofs.Drive

/-!
# Requests on drives

The five requests that change a drive, from the text of the form to the row of the user.
-/

namespace CloudStorage.Proofs
open DelimitedText Dialogue

/-! ### Paths -/


lemma contentPath_eq (fpath : Str) : contentPath fpath = "/content/".toList ++ fpath := rfl

lemma contentPath_ne_nil (fpath : Str) : contentPath fpath ≠ [] := by
  rw [contentPath_eq]
  exact List.append_ne_nil_of_left_ne_nil (by decide) _

lemma cleanName_contentPath {fpath : Str} (h : CleanName fpath) :
    CleanName (contentPath fpath) := by
  rw [contentPath_eq]
  exact cleanName_append.mpr ⟨by decide, h⟩

lemma cleanName_slash {s t : Str} (hs : CleanName s) (ht : CleanName t) :
    CleanName (s ++ "/".toList ++ t) :=
  cleanName_append.mpr ⟨cleanName_append.mpr ⟨hs, by decide⟩, ht⟩

lemma cleanName_path {s : Session} {name : Str} (hi : CleanName s.item) (hn : CleanName name) :
    CleanName (s.path name) := by
  unfold Session.path
  split
  · exact cleanName_slash hi hn
  · exact hn

lemma CleanName.line {c : Str} (h : CleanName c) (hne : c ≠ []) : CleanLine c :=
  ⟨h.1, h.2.1, hne⟩

/-! ### The five requests -/

/-- The path to which a MOVE request leads. -/
def movedTo (s : Session) (content : Str) : Str :=
  let fname := parseQuery (cString content) "fileName".toList
  let new_path := parseQuery (cString content) "newPath".toList
  if s.item ≠ [] then new_path ++ "/".toList ++ fname else new_path

/-- The row of the user after the content of a request that changes the drive. -/
def driveAfter (b : Base64) (content : Str) (s : Session) (f : Str → Option Str) :
    Str → Option Str :=
  let msg_map := parseQuery (cString content)
  let fname := msg_map "fileName".toList
  let old := contentPath (s.path fname)
  match s.reply_code with
  | .NEWDIR => Function.update f (contentPath (s.path (msg_map "folderName".toList)))
      (some "dummyData".toList)
  | .UPLOAD =>
    match parseMultipartFormData s.contentType content with
    | some (fdata, fname) =>
      Function.update f (contentPath (s.path fname)) (some (b.encode fdata))
    | none => f
  | .RENAME => moveValue old (contentPath (s.path (msg_map "newName".toList))) f
  | .MOVE =>
    if '.' ∉ fname then moveAll old (contentPath (movedTo s content ++ "/".toList ++ fname)) f
    else moveValue old (contentPath (movedTo s content)) f
  | .DELETE => removeAll old f
  | _ => f

/-- The requests that change a drive. -/
def ChangesDrive (code : ReplyCode) : Prop :=
  code ∈ [.NEWDIR, .UPLOAD, .RENAME, .MOVE, .DELETE]

section

variable {σ : Type} {S : StorageService σ} {b : Base64} {s : Session} {content : Str} {e e' : σ}

lemma newdir_text (s : Session) (dirname : Str) :
    "PUT ".toList ++ s.username ++ ",".toList ++
      (if s.item = [] then "/content".toList ++ (s.item ++ "/".toList ++ dirname)
        else contentPath (s.item ++ "/".toList ++ dirname)) ++ ",dummyData\r\n".toList =
      putText s.username (contentPath (s.path dirname)) "dummyData".toList ++ "\r\n".toList := by
  have hdummy : ",dummyData\r\n".toList = ",".toList ++ "dummyData".toList ++ "\r\n".toList := rfl
  have hcolumn : (if s.item = [] then "/content".toList ++ (s.item ++ "/".toList ++ dirname)
      else contentPath (s.item ++ "/".toList ++ dirname)) = contentPath (s.path dirname) := by
    unfold Session.path
    by_cases hi : s.item = []
    · rw [if_pos hi, if_neg (fun h => h hi), hi]
      rfl
    · rw [if_neg hi, if_pos hi]
  rw [hcolumn, hdummy, ← putText_eq]
  simp only [List.append_assoc]

lemma newdir_run {x : Unit} (he : S.valid e) (hu : CleanUser s.username)
    (hi : CleanName s.item) (hn : CleanName (parseQuery content "folderName".toList))
    (h : (Session.newdir content s).run S.accepted e = some (x, e')) :
    S.valid e' ∧ driveOf (S.table e') s.username = Function.update
      (driveOf (S.table e) s.username)
      (contentPath (s.path (parseQuery content "folderName".toList)))
      (some "dummyData".toList) := by
  obtain ⟨_, e₁, ht, hv, h⟩ := put_run he hu (cleanName_contentPath (cleanName_path hi hn))
    (by decide) (newdir_text s _) h
  cases h
  exact ⟨hv, by rw [ht, driveOf_set]⟩

lemma upload_run {v : Session} (he : S.valid e) (hu : CleanUser s.username)
    (hi : CleanName s.item) {fdata fname : Str} (hn : CleanName fname)
    (hparse : parseMultipartFormData s.contentType content = some (fdata, fname))
    (h : (Session.upload b content s).run S.accepted e = some (v, e')) :
    v = { s with contentType := [] } ∧ S.valid e' ∧ driveOf (S.table e') s.username =
      Function.update (driveOf (S.table e) s.username) (contentPath (s.path fname))
        (some (b.encode fdata)) := by
  unfold Session.upload at h
  rw [hparse, ofOption_some, done_bind] at h
  obtain ⟨_, e₁, ht, hv, h⟩ := put_run he hu (cleanName_contentPath (cleanName_path hi hn))
    ⟨not_mem_encode b _ (by decide), noCrlf_encode b _⟩ (putText_eq _ _ _) h
  cases h
  exact ⟨rfl, hv, by rw [ht, driveOf_set]⟩

/-- A storage exchange without a result, and the session as it was. -/
lemma run_keeping {d : Web Unit} {v : Session}
    (h : (do d; return s : Web Session).run S.accepted e = some (v, e')) :
    v = s ∧ d.run S.accepted e = some ((), e') := by
  rw [run_bind] at h
  obtain ⟨⟨u, e₁⟩, hd, h⟩ := Option.bind_eq_some_iff.mp h
  cases h
  exact ⟨rfl, hd⟩

/-- A request that changes the drive does what it says to the row, and nothing to the view. -/
theorem requestContent_drive {v : Session} (he : S.valid e) (hcode : ChangesDrive s.reply_code)
    (hu : CleanUser s.username) (hf : CleanCells (driveOf (S.table e) s.username))
    (hi : CleanName s.item) (hfields : ∀ x ∈ fieldsOf s content, CleanName x)
    (h : (Session.requestContent b content s).run S.accepted e = some (v, e')) :
    SameView s v ∧ S.valid e' ∧ driveOf (S.table e') s.username =
      driveAfter b content s (driveOf (S.table e) s.username) := by
  unfold Session.requestContent at h
  unfold driveAfter
  unfold fieldsOf at hfields
  cases hc : s.reply_code <;> rw [hc] at h hfields <;>
    try exact absurd (hc ▸ hcode) (by unfold ChangesDrive; decide)
  case NEWDIR =>
    obtain ⟨rfl, h⟩ := run_keeping h
    exact ⟨SameView.refl v, newdir_run he hu hi (hfields _ List.mem_cons_self) h⟩
  case UPLOAD =>
    dsimp only at h hfields ⊢
    cases hparse : parseMultipartFormData s.contentType content with
    | none =>
      unfold Session.upload at h
      rw [hparse] at h
      exact absurd h (by simp [run])
    | some x =>
      obtain ⟨rfl, hrow⟩ := upload_run he hu hi (hfields x.2 (by simp [hparse])) hparse h
      exact ⟨⟨⟨rfl, rfl, rfl, rfl⟩, rfl, rfl⟩, hrow⟩
  case RENAME =>
    obtain ⟨rfl, h⟩ := run_keeping h
    have hold := cleanName_contentPath (cleanName_path hi (hfields _ List.mem_cons_self))
    have hnew := cleanName_contentPath (cleanName_path hi
      (hfields _ (List.mem_cons_of_mem _ List.mem_cons_self)))
    exact ⟨SameView.refl v, moveCell_run he hu hf (hold.line (contentPath_ne_nil _)) hnew h⟩
  case MOVE =>
    obtain ⟨rfl, h⟩ := run_keeping h
    have hname := hfields _ List.mem_cons_self
    have hdest := hfields _ (List.mem_cons_of_mem _ List.mem_cons_self)
    have hold := cleanName_contentPath (cleanName_path hi hname)
    have hto : CleanName (movedTo v content) := by
      unfold movedTo
      dsimp only
      split
      · exact cleanName_slash hdest hname
      · exact hdest
    refine ⟨SameView.refl v, ?_⟩
    unfold Session.move at h
    dsimp only at h ⊢
    split at h
    · next hdot =>
      rw [if_pos hdot]
      exact moveAll_run he hu hf hold (contentPath_ne_nil _)
        (cleanName_contentPath (cleanName_slash hto hname)) rfl h
    · next hdot =>
      rw [if_neg hdot]
      exact moveCell_run he hu hf (hold.line (contentPath_ne_nil _))
        (cleanName_contentPath hto) h
  case DELETE =>
    obtain ⟨rfl, h⟩ := run_keeping h
    have hold := cleanName_contentPath (cleanName_path hi (hfields _ List.mem_cons_self))
    exact ⟨SameView.refl v, removeAll_run he hu hf hold (contentPath_ne_nil _) rfl h⟩

/-- The page that follows changes no table. -/
lemma page_drive {v : Session} {page : Page} (he : S.valid e) (hu : CleanUser v.username)
    (hi : CleanName v.item) (hcode : ChangesDrive v.reply_code ∨ v.reply_code = .FORBIDDEN)
    (h : (generateReply b v).run S.accepted e = some (page, e')) :
    S.valid e' ∧ S.table e' = S.table e := by
  have hdrive : (getDrive v.username v.item).run S.accepted e = some (page, e') →
      S.valid e' ∧ S.table e' = S.table e := by
    intro h
    have htext : "LIST ".toList ++ v.username ++ ",/content/".toList ++ v.item ++
        "\r\n".toList = "LIST ".toList ++ v.username ++ ",".toList ++ contentPath v.item ++
          "\r\n".toList := by
      have hcontent : ",/content/".toList = ",".toList ++ "/content/".toList := rfl
      rw [hcontent, contentPath_eq]
      simp only [List.append_assoc]
    obtain ⟨e₁, ht, hv, h⟩ := list_run he hu (cleanName_contentPath hi) (contentPath_ne_nil _)
      htext h
    cases h
    exact ⟨hv, ht⟩
  unfold generateReply at h
  cases hc : v.reply_code <;> rw [hc] at h hcode <;>
    try exact absurd hcode (by unfold ChangesDrive; decide)
  case FORBIDDEN =>
    cases h
    exact ⟨he, rfl⟩
  all_goals exact hdrive h

/-- What a request that changes the drive does to it. -/
theorem request_drive {r : Request} {t s' : Session} {page : Page} (he : S.valid e)
    (ht : s.received r = some t) (hcode : ChangesDrive t.reply_code)
    (hu : CleanUser t.username) (hf : CleanCells (driveOf (S.table e) t.username))
    (hi : CleanName t.item) (hfields : ∀ x ∈ fieldsOf t r.content, CleanName x)
    (h : (s.request b r).run S.accepted e = some ((s', page), e')) :
    driveOf (S.table e') t.username = if r.content = [] then driveOf (S.table e) t.username
      else driveAfter b r.content t (driveOf (S.table e) t.username) := by
  unfold Session.request at h
  rw [ht, ofOption_some, done_bind] at h
  have hchecked : ∀ (v : Session) (withContent : Bool), ChangesDrive v.reply_code →
      ChangesDrive (v.checked withContent).reply_code ∨
        (v.checked withContent).reply_code = .FORBIDDEN := by
    intro v withContent hv
    rcases (@checked_view v withContent).2.2 with hc | hc
    · exact Or.inl (hc ▸ hv)
    · exact Or.inr hc
  by_cases hnil : r.content = []
  · rw [if_pos hnil, run_bind] at h
    obtain ⟨⟨page', e₁⟩, hpage, h⟩ := Option.bind_eq_some_iff.mp h
    cases h
    obtain ⟨hlogin, hitem, -⟩ := @checked_view t false
    obtain ⟨-, htable⟩ := page_drive he (hlogin.username ▸ hu) (hitem ▸ hi)
      (hchecked t false hcode) hpage
    rw [if_pos hnil, htable]
  · rw [if_neg hnil, run_bind] at h
    obtain ⟨⟨v, e₁⟩, hcontent, h⟩ := Option.bind_eq_some_iff.mp h
    obtain ⟨hview, hv, hrow⟩ := requestContent_drive he hcode hu hf hi hfields hcontent
    have hcodev : ChangesDrive v.reply_code := hview.reply_code ▸ hcode
    have hdown : (v.checked true).reply_code ≠ .DOWNLOAD := by
      intro hd
      rcases hchecked v true hcodev with hc | hc <;> rw [hd] at hc
      · exact absurd hc (by unfold ChangesDrive; decide)
      · exact absurd hc (by decide)
    dsimp only at h
    rw [if_neg hdown, run_bind] at h
    obtain ⟨⟨page', e₂⟩, hpage, h⟩ := Option.bind_eq_some_iff.mp h
    cases h
    obtain ⟨hlogin, hitem, -⟩ := @checked_view v true
    have hname : (v.checked true).username = t.username :=
      hlogin.username.trans hview.login.username
    obtain ⟨-, htable⟩ := page_drive hv (hname ▸ hu) (hitem.trans hview.item ▸ hi)
      (hchecked v true hcodev) hpage
    rw [if_neg hnil, htable, hrow]

end

end CloudStorage.Proofs
