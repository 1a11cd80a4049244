import Mathlib.Data.Stream.Init
import CloudStorage.Proofs.FileMove

/-!
# Moving a cell while commands fail

A RENAME and the MOVE of a file are a GET, a PUT and a DELETE, and none of them waits for the
success of the one before. This file proves for which commands that fail the value is lost.
-/

namespace CloudStorage.Proofs
open DelimitedText Dialogue

/-! ### A server that refuses commands -/

/-- What stands behind `-ERR` in a reply. -/
abbrev Refusal := {text : Str // NoCrlf text}

def refusalReply (w : Refusal) : Str := "-ERR".toList ++ w.1 ++ "\r\n".toList

/-- An environment in which each storage command is refused, without an effect, or
executed. -/
def refusing {σ : Type} (env : (i : Action) → σ → Option (i.Answer × σ)) :
    (i : Action) → σ × Stream' (Option Refusal) →
      Option (i.Answer × (σ × Stream' (Option Refusal)))
  | .storage u command, (e, rs) =>
    match rs.head with
    | some w => some (refusalReply w, (e, rs.tail))
    | none => (env (.storage u command) e).map (fun x => (x.1, (x.2, rs.tail)))
  | .connect u, (e, rs) => (env (.connect u) e).map (fun x => (x.1, (x.2, rs)))
  | .mail text, (e, rs) => (env (.mail text) e).map (fun x => (x.1, (x.2, rs)))

section

variable {σ α : Type} {S : StorageService σ} {u : Str} {e : σ} {rs : Stream' (Option Refusal)}
  {x : α × (σ × Stream' (Option Refusal))}

lemma refusing_run {text c : Str} {k : Str → Web α} (he : S.valid e) (hc : NoCrlf c)
    (htext : text = c ++ "\r\n".toList)
    (h : (exchange u text >>= k).run (refusing S.answer) (e, rs) = some x) :
    match rs.head with
    | some w => (k (refusalReply w)).run (refusing S.answer) (e, rs.tail) = some x
    | none => ∃ reply e', answerTo (splitKVStoreCommand c) (S.table e) =
          some (reply, S.table e') ∧ S.valid e' ∧
        (k reply).run (refusing S.answer) (e', rs.tail) = some x := by
  subst htext
  rw [run_bind, run_exchange] at h
  obtain ⟨⟨reply, e₁, rs₁⟩, hask, h⟩ := Option.bind_eq_some_iff.mp h
  unfold refusing at hask
  dsimp only at hask
  cases hhead : rs.head with
  | some w =>
    rw [hhead] at hask
    obtain ⟨rfl, hstate⟩ := Prod.mk.inj (Option.some.inj hask)
    obtain ⟨rfl, rfl⟩ := Prod.mk.inj hstate
    exact h
  | none =>
    rw [hhead] at hask
    obtain ⟨⟨o, e'⟩, hanswer, hsame⟩ := Option.map_eq_some_iff.mp hask
    obtain ⟨rfl, hstate⟩ := Prod.mk.inj hsame
    obtain ⟨rfl, rfl⟩ := Prod.mk.inj hstate
    obtain ⟨hv, ha⟩ := S.table_of_storage he hc hanswer
    exact ⟨o, e', ha, hv, h⟩

/-- What stands behind the first four characters of the reply to the GET: the value, or the
rest of the refusal. -/
def readText (get : Option Refusal) (v : Str) : Str :=
  match get with
  | some w => w.1
  | none => v

/-- The cells after the PUT, of which the part up to a comma is stored, if anything is. -/
def putCells (put : Option Refusal) (n text : Str) (f : Str → Option Str) : Str → Option Str :=
  match put with
  | some _ => f
  | none =>
    match getlines ',' text with
    | [] => f
    | y :: _ => Function.update f n (some y)

lemma putCells_of_ne {c n : Str} (h : c ≠ n) (put : Option Refusal) (text : Str)
    (f : Str → Option Str) : putCells put n text f c = f c := by
  unfold putCells
  cases put with
  | some w => rfl
  | none =>
    cases getlines ',' text with
    | nil => rfl
    | cons y ys => exact Function.update_of_ne h _ _

def deleteCells (delete : Option Refusal) (o : Str) (f : Str → Option Str) : Str → Option Str :=
  match delete with
  | none => Function.update f o none
  | some _ => f

lemma substr_refusalReply (w : Refusal) :
    substr 4 (refusalReply w) = some (w.1 ++ "\r\n".toList) := by
  have hlen : 4 ≤ (refusalReply w).length := by
    unfold refusalReply
    rw [List.length_append, List.length_append]
    exact Nat.le_add_right_of_le (Nat.le_add_right 4 _)
  rw [substr, if_pos hlen, refusalReply, List.append_assoc]
  rfl

lemma get_refusing {c v : Str} {k : Str → Web α} (he : S.valid e) (hu : CleanUser u)
    (hc : CleanLine c) (hv : driveOf (S.table e) u c = some v)
    (h : (exchange u ("GET ".toList ++ u ++ ",".toList ++ c ++ "\r\n".toList) >>= k).run
      (refusing S.answer) (e, rs) = some x) :
    ∃ reply e', S.table e' = S.table e ∧ S.valid e' ∧
      substr 4 reply = some (readText rs.head v ++ "\r\n".toList) ∧
      (k reply).run (refusing S.answer) (e', rs.tail) = some x := by
  have hrun := refusing_run he (noCrlf_word (by decide) (hu.2.comma hc.noCrlf))
    (commandText_eq "GET".toList rfl u c) h
  cases hhead : rs.head with
  | some w =>
    rw [hhead] at hrun
    exact ⟨refusalReply w, e, rfl, he, substr_refusalReply w, hrun⟩
  | none =>
    rw [hhead] at hrun
    obtain ⟨reply, e', ha, hvalid, hrun⟩ := hrun
    have hsplit := split_getText u c
    rw [getText] at hsplit
    rw [hsplit, getlines_pair hu.1 hc.1, if_neg hc.2.2, answerTo_get, getReply_pair] at ha
    obtain ⟨hreply, htable⟩ := Prod.mk.inj (Option.some.inj ha)
    have hcell : (S.table e).get u c = some v := hv
    rw [hcell] at hreply
    refine ⟨reply, e', htable.symm, hvalid, ?_, hrun⟩
    rw [← hreply, substr_getAnswer]
    rfl

lemma put_refusing {c v text : Str} {k : Str → Web α} (he : S.valid e) (hu : CleanUser u)
    (hc : CleanName c) (hv : NoCrlf v) (htext : text = putText u c v ++ "\r\n".toList)
    (h : (exchange u text >>= k).run (refusing S.answer) (e, rs) = some x) :
    ∃ reply e', driveOf (S.table e') u = putCells rs.head c v (driveOf (S.table e) u) ∧
      S.valid e' ∧ (k reply).run (refusing S.answer) (e', rs.tail) = some x := by
  have hrun := refusing_run he (noCrlf_word (by decide) (hu.2.comma (hc.noCrlf.comma hv))) htext h
  cases hhead : rs.head with
  | some w =>
    rw [hhead] at hrun
    exact ⟨refusalReply w, e, rfl, he, hrun⟩
  | none =>
    rw [hhead] at hrun
    obtain ⟨reply, e', ha, hvalid, hrun⟩ := hrun
    refine ⟨reply, e', ?_, hvalid, hrun⟩
    have hsplit := split_putText u c v
    rw [putText] at hsplit
    rw [hsplit, getlines_append_delim hu.1, getlines_append_delim hc.1] at ha
    unfold putCells
    cases hlines : getlines ',' v with
    | nil =>
      rw [hlines] at ha
      obtain ⟨-, htable⟩ := Prod.mk.inj (Option.some.inj ha)
      rw [← htable]
    | cons y ys =>
      rw [hlines] at ha
      obtain ⟨-, htable⟩ := Prod.mk.inj (Option.some.inj ha)
      rw [← htable]
      exact driveOf_set _ u c y

lemma delete_refusing {c : Str} {k : Str → Web α} (he : S.valid e) (hu : CleanUser u)
    (hc : CleanLine c)
    (h : (exchange u ("DELETE ".toList ++ u ++ ",".toList ++ c ++ "\r\n".toList) >>= k).run
      (refusing S.answer) (e, rs) = some x) :
    ∃ reply e', driveOf (S.table e') u = deleteCells rs.head c (driveOf (S.table e) u) ∧
      S.valid e' ∧ (k reply).run (refusing S.answer) (e', rs.tail) = some x := by
  have hrun := refusing_run he (noCrlf_word (by decide) (hu.2.comma hc.noCrlf))
    (commandText_eq "DELETE".toList rfl u c) h
  cases hhead : rs.head with
  | some w =>
    rw [hhead] at hrun
    exact ⟨refusalReply w, e, rfl, he, hrun⟩
  | none =>
    rw [hhead] at hrun
    obtain ⟨reply, e', ha, hvalid, hrun⟩ := hrun
    refine ⟨reply, e', ?_, hvalid, hrun⟩
    rw [splitKVStoreCommand_blank (v := "DELETE".toList) (by decide) rfl,
      getlines_pair hu.1 hc.1, if_neg hc.2.2] at ha
    obtain ⟨-, htable⟩ := Prod.mk.inj (Option.some.inj ha)
    rw [← htable]
    exact driveOf_eraseCell _ u c

/-- The row after the three commands. -/
lemma moveCell_refusing {o n v : Str} {e' : σ} {rs' : Stream' (Option Refusal)} (he : S.valid e)
    (hu : CleanUser u) (ho : CleanLine o) (hn : CleanName n) (hv : NoCrlf v)
    (hcell : driveOf (S.table e) u o = some v)
    (h : (moveCell u o n).run (refusing S.answer) (e, rs) = some ((), (e', rs'))) :
    S.valid e' ∧ driveOf (S.table e') u = deleteCells (rs.get 2) o
      (putCells (rs.get 1) n (readText (rs.get 0) v) (driveOf (S.table e) u)) := by
  unfold moveCell at h
  obtain ⟨reply, e₁, ht₁, hv₁, hreply, h⟩ := get_refusing he hu ho hcell h
  rw [hreply, ofOption_some, done_bind] at h
  have hread : NoCrlf (readText rs.head v) := by
    unfold readText
    split
    · next w _ => exact w.2
    · exact hv
  have htext : "PUT ".toList ++ u ++ ",".toList ++ n ++ ",".toList ++
      (readText rs.head v ++ "\r\n".toList) =
      putText u n (readText rs.head v) ++ "\r\n".toList := by
    rw [← putText_eq]
    simp only [List.append_assoc]
  obtain ⟨_, e₂, ht₂, hv₂, h⟩ := put_refusing hv₁ hu hn hread htext h
  obtain ⟨_, e₃, ht₃, hv₃, h⟩ := delete_refusing hv₂ hu ho h
  cases h
  refine ⟨hv₃, ?_⟩
  rw [ht₃, ht₂, ht₁]
  rfl

/-- The page that follows changes no table, whether the LIST for it is refused or not. -/
lemma page_refusing {b : Base64} {v : Session} {page : Page} {e' : σ}
    {rs' : Stream' (Option Refusal)} (he : S.valid e) (hu : CleanUser v.username)
    (hi : CleanName v.item) (hcode : ChangesDrive v.reply_code ∨ v.reply_code = .FORBIDDEN)
    (h : (generateReply b v).run (refusing S.answer) (e, rs) = some (page, (e', rs'))) :
    S.table e' = S.table e := by
  have hdrive : (getDrive v.username v.item).run (refusing S.answer) (e, rs) =
      some (page, (e', rs')) → S.table e' = S.table e := by
    intro h
    have hfolder := cleanName_contentPath hi
    have htext : "LIST ".toList ++ v.username ++ ",/content/".toList ++ v.item ++
        "\r\n".toList = "LIST".toList ++ [' '] ++ (v.username ++ ',' :: contentPath v.item) ++
          "\r\n".toList := by
      rw [contentPath_eq]
      simp
    have hrun := refusing_run he (noCrlf_word (by decide) (hu.2.comma hfolder.noCrlf)) htext h
    cases hhead : rs.head with
    | some w =>
      rw [hhead] at hrun
      cases hrun
      rfl
    | none =>
      rw [hhead] at hrun
      obtain ⟨reply, e₁, ha, -, hrun⟩ := hrun
      rw [answerTo_list hu.1 hfolder.1 (contentPath_ne_nil _)] at ha
      cases hrun
      exact (Prod.mk.inj (Option.some.inj ha)).2.symm
  unfold generateReply at h
  cases hc : v.reply_code <;> rw [hc] at h hcode <;>
    try exact absurd hcode (by unfold ChangesDrive; decide)
  case FORBIDDEN =>
    cases h
    rfl
  all_goals exact hdrive h

/-! ### Which failures lose the value -/

/-- A request that moves one cell: a RENAME, or a MOVE of a file. -/
structure MovesCell (t : Session) (content fname : Str) : Prop where
  code : t.reply_code = .RENAME ∨ t.reply_code = .MOVE ∧ '.' ∈ fname
  name : parseQuery (cString content) "fileName".toList = fname

/-- The column to which it moves the cell. -/
def newColumn (t : Session) (content : Str) : Str :=
  contentPath (if t.reply_code = .RENAME then t.path (parseQuery (cString content) "newName".toList)
    else movedTo t content)

lemma requestContent_cell {t : Session} {b : Base64} {content fname : Str}
    (h : MovesCell t content fname) : Session.requestContent b content t =
      (do moveCell t.username (contentPath (t.path fname)) (newColumn t content); return t) := by
  unfold Session.requestContent newColumn
  rcases h.code with hcode | ⟨hcode, hfile⟩
  · rw [hcode, if_pos rfl]
    dsimp only
    rw [Session.rename, h.name]
  · have hne : ReplyCode.MOVE ≠ .RENAME := by decide
    rw [hcode, if_neg hne]
    dsimp only
    rw [Session.move, h.name, if_neg (not_not.mpr hfile)]
    unfold movedTo
    rw [h.name]

/-- The value stays at its column, is stored at the new one, comes back there as the
beginning of a refusal, or was there before and is not replaced. -/
def Survives (rs : Stream' (Option Refusal)) (v : Str) (atNew : Option Str) : Prop :=
  (rs.get 2).isSome ∨
    (rs.get 1 = none ∧ rs.get 0 = none ∧ v ≠ []) ∨
    (rs.get 1 = none ∧ ∃ w ys, rs.get 0 = some w ∧ getlines ',' w.1 = v :: ys) ∨
    (((rs.get 1).isSome ∨ readText (rs.get 0) v = []) ∧ atNew = some v)

lemma survives_iff {f : Str → Option Str} {o n v : Str} (hne : o ≠ n) (hcomma : ',' ∉ v)
    (hcell : f o = some v) :
    (deleteCells (rs.get 2) o (putCells (rs.get 1) n (readText (rs.get 0) v) f) o = some v ∨
      deleteCells (rs.get 2) o (putCells (rs.get 1) n (readText (rs.get 0) v) f) n = some v) ↔
    Survives rs v (f n) := by
  have hold : putCells (rs.get 1) n (readText (rs.get 0) v) f o = some v := by
    rw [putCells_of_ne hne, hcell]
  have hnew : putCells (rs.get 1) n (readText (rs.get 0) v) f n = some v ↔
      (rs.get 1 = none ∧ rs.get 0 = none ∧ v ≠ []) ∨
      (rs.get 1 = none ∧ ∃ w ys, rs.get 0 = some w ∧ getlines ',' w.1 = v :: ys) ∨
      (((rs.get 1).isSome ∨ readText (rs.get 0) v = []) ∧ f n = some v) := by
    unfold putCells
    cases rs.get 1 with
    | some w => simp
    | none =>
      cases rs.get 0 with
      | none =>
        by_cases hnil : v = []
        · simp [readText, hnil]
        · simp [readText, hnil, getlines_of_not_mem hcomma hnil]
      | some w =>
        have hread : readText (some w) v = w.1 := rfl
        rw [hread]
        cases hlines : getlines ',' w.1 with
        | nil =>
          have hempty : w.1 = [] := getlines_eq_nil.mp hlines
          simp [hempty]
        | cons y ys =>
          have hne : w.1 ≠ [] := by
            intro hempty
            rw [hempty] at hlines
            exact absurd hlines (by simp)
          simp [hlines, hne]
  unfold Survives
  cases hdelete : rs.get 2 with
  | some w => simp [deleteCells, hold]
  | none =>
    unfold deleteCells
    dsimp only
    rw [Function.update_self, Function.update_of_ne hne.symm, hnew]
    simp

variable {b : Base64} {s t s' : Session} {r : Request} {page : Page} {e' : σ}
  {rs' : Stream' (Option Refusal)}

/-- The row of the user after the whole request. -/
lemma cell_row {fname v : Str} (he : S.valid e) (ht : s.received r = some t)
    (hmove : MovesCell t r.content fname) (hne : r.content ≠ []) (hu : CleanUser t.username)
    (hf : CleanCells (driveOf (S.table e) t.username))
    (hcell : driveOf (S.table e) t.username (contentPath (t.path fname)) = some v)
    (hnew : CleanName (newColumn t r.content))
    (h : (s.request b r).run (refusing S.answer) (e, rs) = some ((s', page), (e', rs'))) :
    driveOf (S.table e') t.username = deleteCells (rs.get 2) (contentPath (t.path fname))
      (putCells (rs.get 1) (newColumn t r.content) (readText (rs.get 0) v)
        (driveOf (S.table e) t.username)) := by
  have hold : CleanName (contentPath (t.path fname)) := hf.column _ v hcell
  obtain ⟨hitem, -⟩ := cleanName_of_path (cleanName_append.mp hold).2
  have hchanges : ChangesDrive t.reply_code := by
    unfold ChangesDrive
    rcases hmove.code with hcode | ⟨hcode, -⟩ <;> rw [hcode] <;> decide
  unfold Session.request at h
  rw [ht, ofOption_some, done_bind, if_neg hne, requestContent_cell hmove, run_bind, run_bind] at h
  obtain ⟨⟨v', e₁, rs₁⟩, hcontent, h⟩ := Option.bind_eq_some_iff.mp h
  obtain ⟨⟨_, e₂, rs₂⟩, hmoved, hsame⟩ := Option.bind_eq_some_iff.mp hcontent
  cases hsame
  obtain ⟨hv, hrow⟩ := moveCell_refusing he hu (hold.line (contentPath_ne_nil _)) hnew
    (hf.value _ v hcell).2 hcell hmoved
  -- the page that follows changes nothing any more
  obtain ⟨hlogin, hview, hcode⟩ := @checked_view t true
  have hchecked : ChangesDrive (t.checked true).reply_code ∨
      (t.checked true).reply_code = .FORBIDDEN := by
    rcases hcode with hcode | hcode
    · exact Or.inl (hcode ▸ hchanges)
    · exact Or.inr hcode
  have hdown : (t.checked true).reply_code ≠ .DOWNLOAD := by
    intro hd
    rw [hd] at hchecked
    exact absurd hchecked (by unfold ChangesDrive; decide)
  dsimp only at h
  rw [if_neg hdown, run_bind] at h
  obtain ⟨⟨page', e₃, rs₃⟩, hpage, h⟩ := Option.bind_eq_some_iff.mp h
  cases h
  have htable := page_refusing hv (hlogin.username ▸ hu) (hview ▸ hitem) hchecked hpage
  rw [htable, hrow]

/-- The value of a cell that a request moves to another column is still at one of the two
exactly if the failures are such as it survives. -/
theorem failed_move_iff {fname v : Str} (he : S.valid e) (ht : s.received r = some t)
    (hmove : MovesCell t r.content fname) (hne : r.content ≠ []) (hu : CleanUser t.username)
    (hf : CleanCells (driveOf (S.table e) t.username))
    (hcell : driveOf (S.table e) t.username (contentPath (t.path fname)) = some v)
    (hnew : CleanName (newColumn t r.content))
    (hdiff : contentPath (t.path fname) ≠ newColumn t r.content)
    (h : (s.request b r).run (refusing S.answer) (e, rs) = some ((s', page), (e', rs'))) :
    (driveOf (S.table e') t.username (contentPath (t.path fname)) = some v ∨
        driveOf (S.table e') t.username (newColumn t r.content) = some v) ↔
      Survives rs v (driveOf (S.table e) t.username (newColumn t r.content)) := by
  rw [cell_row he ht hmove hne hu hf hcell hnew h]
  exact survives_iff hdiff (hf.value _ v hcell).1 hcell

end

/-! ### A PUT that fails -/

def renameFile : Request :=
  formRequest "/rename HTTP/1.1".toList "fileName=f.txt&newName=g.txt".toList rename_line

lemma renameFile_received : annasTab.received renameFile =
    some { annasTab with reply_code := .RENAME } := by rfl

lemma renameFile_moves : MovesCell { annasTab with reply_code := .RENAME } renameFile.content
    "f.txt".toList := ⟨Or.inl rfl, by decide +kernel⟩

lemma renameFile_column : newColumn { annasTab with reply_code := .RENAME } renameFile.content =
    contentPath "g.txt".toList := by decide +kernel

lemma rootDrive_file :
    driveOf rootDrive "anna".toList (contentPath "f.txt".toList) = some "QQ==".toList := by
  decide +kernel

/-- The PUT is refused, and no other command. -/
def putRefused : Stream' (Option Refusal) :=
  Stream'.cons none (Stream'.cons
    (some ⟨" Returned by Server while writing PUT Values".toList, by decide⟩)
    (Stream'.const none))

lemma renameFile_runs : ∃ s' page e' rs', (annasTab.request base64 renameFile).run
    (refusing (aloneService 0 (group1Address 2001)).answer) (aloneWorld rootDrive, putRefused) =
      some ((s', page), (e', rs')) := by
  have hrun : ((annasTab.request base64 renameFile).run
      (refusing (aloneService 0 (group1Address 2001)).answer)
      (aloneWorld rootDrive, putRefused)).isSome = true := by
    decide +kernel
  obtain ⟨⟨⟨s', page⟩, e', rs'⟩, h⟩ := Option.isSome_iff_exists.mp hrun
  exact ⟨s', page, e', rs', h⟩

theorem failed_move_put : ∃ s' page e' rs', (annasTab.request base64 renameFile).run
      (refusing (aloneService 0 (group1Address 2001)).answer)
      (aloneWorld rootDrive, putRefused) = some ((s', page), (e', rs')) ∧
    ((driveOf (e'.server (group1Address 2001)).table "anna".toList
            (contentPath "f.txt".toList) = some "QQ==".toList ∨
        driveOf (e'.server (group1Address 2001)).table "anna".toList
            (newColumn { annasTab with reply_code := .RENAME } renameFile.content) =
          some "QQ==".toList) ↔
      Survives putRefused "QQ==".toList (driveOf rootDrive "anna".toList
        (newColumn { annasTab with reply_code := .RENAME } renameFile.content))) := by
  obtain ⟨s', page, e', rs', h⟩ := renameFile_runs
  exact ⟨s', page, e', rs', h, failed_move_iff (S := aloneService 0 (group1Address 2001))
    (aloneWorld_alone _) renameFile_received renameFile_moves (by decide) (by decide)
    rootDrive_clean rootDrive_file (renameFile_column ▸ by decide)
    (renameFile_column ▸ by decide) h⟩

/-- The file is deleted although it was not stored. -/
theorem refused_put_loses_file : ¬∀ (b : Base64) (σ : Type) (S : StorageService σ)
    (s t s' : Session) (r : Request) (page : Page) (e e' : σ)
    (rs rs' : Stream' (Option Refusal)) (fname v : Str), S.valid e →
      s.received r = some t → MovesCell t r.content fname → r.content ≠ [] →
      CleanUser t.username → CleanCells (driveOf (S.table e) t.username) →
      driveOf (S.table e) t.username (contentPath (t.path fname)) = some v →
      CleanName (newColumn t r.content) → contentPath (t.path fname) ≠ newColumn t r.content →
      (s.request b r).run (refusing S.answer) (e, rs) = some ((s', page), (e', rs')) →
      driveOf (S.table e') t.username (contentPath (t.path fname)) = some v ∨
        driveOf (S.table e') t.username (newColumn t r.content) = some v := by
  intro h
  obtain ⟨s', page, e', rs', hrun⟩ := renameFile_runs
  have hkept := h base64 World (aloneService 0 (group1Address 2001)) annasTab _ s' renameFile page
    (aloneWorld rootDrive) e' putRefused rs' "f.txt".toList "QQ==".toList (aloneWorld_alone _)
    renameFile_received renameFile_moves (by decide) (by decide) rootDrive_clean rootDrive_file
    (renameFile_column ▸ by decide) (renameFile_column ▸ by decide) hrun
  have hrow := cell_row (S := aloneService 0 (group1Address 2001)) (aloneWorld_alone _)
    renameFile_received renameFile_moves (by decide) (by decide) rootDrive_clean rootDrive_file
    (renameFile_column ▸ by decide) hrun
  rw [hrow, renameFile_column] at hkept
  have hsurvives := (survives_iff (by decide) (by decide) rootDrive_file).mp hkept
  have hempty : driveOf rootDrive "anna".toList (contentPath "g.txt".toList) = none := by
    decide +kernel
  rcases hsurvives with hdelete | ⟨hput, -⟩ | ⟨hput, -⟩ | ⟨-, hvalue⟩
  · exact absurd hdelete (by decide)
  · exact absurd hput (by decide)
  · exact absurd hput (by decide)
  · rw [hempty] at hvalue
    exact absurd hvalue (by simp)

end CloudStorage.Proofs
