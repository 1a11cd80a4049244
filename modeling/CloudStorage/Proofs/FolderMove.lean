import CloudStorage.Proofs.DriveTree

/-!
# Moving a folder

A MOVE of a folder takes what a LIST of its column shows, line by line, to one new column.
This file proves in which drives that moves the entries of the folder and nothing else.
-/

namespace CloudStorage.Proofs
open DelimitedText Dialogue

/-- Everything below `old` is below `new` instead, and nothing else has changed. -/
structure SubtreeMoved (f f' : Str → Option Str) (old new : Str) : Prop where
  arrived : ∀ x v, f (old ++ '/' :: x) = some v → f' (new ++ '/' :: x) = some v
  emptied : ∀ x, f' (old ++ '/' :: x) = none
  others : ∀ c, c ≠ old → (∀ x, c ≠ old ++ '/' :: x) → c ≠ new →
    (∀ x, (f (old ++ '/' :: x)).isSome → c ≠ new ++ '/' :: x) → f' c = f c

/-- What is below `old` is at its place below `new` already, the target is not below `old`,
and no other column begins with `old` or is the target, where it has not its value yet. -/
structure NothingToMove (f : Str → Option Str) (old new target : Str) : Prop where
  arrived : ∀ x v, f (old ++ '/' :: x) = some v →
    if new ++ '/' :: x = target then v = " Not Found".toList
    else f (new ++ '/' :: x) = some v ∧ ¬old <+: new ++ '/' :: x
  outside : ∀ x, target ≠ old ++ '/' :: x
  others : ∀ c, c ≠ old → (∀ x, c ≠ old ++ '/' :: x) → c ≠ new →
    (∀ x, (f (old ++ '/' :: x)).isSome → c ≠ new ++ '/' :: x) →
      if c = target then f c = some " Not Found".toList else old <+: c → f c = none

/-- The cell of another column than the target. -/
lemma moveAll_of_ne {p n c : Str} (hc : c ≠ n) (f : Str → Option Str) :
    moveAll p n f c = if p <+: c then none else f c := by
  rw [moveAll, if_neg hc, removeAll]

lemma moveAll_target (p n : Str) (f : Str → Option Str) :
    moveAll p n f n = some " Not Found".toList := by
  rw [moveAll, if_pos rfl]

/-- The loop over the lines moves the subtree exactly if there is nothing to move. -/
theorem subtreeMoved_moveAll_iff (f : Str → Option Str) (old new target : Str) :
    SubtreeMoved f (moveAll old target f) old new ↔ NothingToMove f old new target := by
  have hcell : ∀ c v, moveAll old target f c = some v ↔
      if c = target then v = " Not Found".toList else f c = some v ∧ ¬old <+: c := by
    intro c v
    by_cases hc : c = target
    · rw [if_pos hc, hc, moveAll_target]
      exact ⟨fun h => (Option.some.inj h).symm, fun h => congrArg some h.symm⟩
    · rw [if_neg hc, moveAll_of_ne hc]
      by_cases hp : old <+: c
      · simp [hp]
      · simp [hp]
  have hsame : ∀ c, moveAll old target f c = f c ↔
      if c = target then f c = some " Not Found".toList else old <+: c → f c = none := by
    intro c
    by_cases hc : c = target
    · rw [if_pos hc, hc, moveAll_target]
      exact eq_comm
    · rw [if_neg hc, moveAll_of_ne hc]
      by_cases hp : old <+: c
      · simp only [hp, if_true, forall_const]
        exact eq_comm
      · simp [hp]
  constructor
  · intro h
    refine ⟨fun x v hv => (hcell _ v).mp (h.arrived x v hv), fun x htarget => ?_,
      fun c ho hb hn he => (hsame c).mp (h.others c ho hb hn he)⟩
    have hempty := h.emptied x
    rw [← htarget, moveAll_target] at hempty
    exact absurd hempty (by simp)
  · intro h
    refine ⟨fun x v hv => (hcell _ v).mpr (h.arrived x v hv), fun x => ?_,
      fun c ho hb hn he => (hsame c).mpr (h.others c ho hb hn he)⟩
    rw [moveAll_of_ne (h.outside x).symm, if_pos (List.prefix_append old _)]

section

variable {σ : Type} {S : StorageService σ} {b : Base64} {s t s' : Session} {r : Request}
  {page : Page} {e e' : σ}

/-- A request that moves the folder `fname`. -/
structure MovesFolder (t : Session) (content fname : Str) : Prop where
  code : t.reply_code = .MOVE
  name : parseQuery (cString content) "fileName".toList = fname
  folder : '.' ∉ fname

lemma cleanName_of_path {name : Str} (h : CleanName (t.path name)) :
    CleanName t.item ∧ CleanName name := by
  unfold Session.path at h
  split at h
  · obtain ⟨hslash, hname⟩ := cleanName_append.mp h
    exact ⟨(cleanName_append.mp hslash).1, hname⟩
  · next hi =>
    rw [not_ne_iff.mp hi]
    exact ⟨by decide, h⟩

/-- The row of the user after a request with content that names an entry of the page. -/
lemma drive_row {name : Str} (he : S.valid e) (ht : s.received r = some t)
    (hcode : ChangesDrive t.reply_code) (hne : r.content ≠ []) (hu : CleanUser t.username)
    (hf : CleanCells (driveOf (S.table e) t.username)) (hpath : CleanName (t.path name))
    (hfields : CleanName name → ∀ x ∈ fieldsOf t r.content, CleanName x)
    (h : (s.request b r).run S.accepted e = some ((s', page), e')) :
    driveOf (S.table e') t.username =
      driveAfter b r.content t (driveOf (S.table e) t.username) := by
  obtain ⟨hitem, hname⟩ := cleanName_of_path hpath
  rw [request_drive he ht hcode hu hf hitem (hfields hname) h, if_neg hne]

/-- The row of the user after a MOVE. -/
lemma move_row {fname : Str} (he : S.valid e) (ht : s.received r = some t)
    (hmove : t.reply_code = .MOVE)
    (hfile : parseQuery (cString r.content) "fileName".toList = fname) (hne : r.content ≠ [])
    (hu : CleanUser t.username) (hf : CleanCells (driveOf (S.table e) t.username))
    (hold : CleanName (t.path fname))
    (hdest : CleanName (parseQuery (cString r.content) "newPath".toList))
    (h : (s.request b r).run S.accepted e = some ((s', page), e')) :
    driveOf (S.table e') t.username =
      driveAfter b r.content t (driveOf (S.table e) t.username) := by
  have hcode : ChangesDrive t.reply_code := by
    rw [hmove]
    unfold ChangesDrive
    decide
  have hfields : CleanName fname → ∀ x ∈ fieldsOf t r.content, CleanName x := by
    intro hname x hx
    unfold fieldsOf at hx
    rw [hmove] at hx
    rcases List.mem_pair.mp hx with rfl | rfl
    · rw [hfile]
      exact hname
    · exact hdest
  exact drive_row he ht hcode hne hu hf hold hfields h

/-- The row of the user after a folder was moved. -/
lemma folder_row {fname : Str} (he : S.valid e) (ht : s.received r = some t)
    (hmove : MovesFolder t r.content fname) (hne : r.content ≠ []) (hu : CleanUser t.username)
    (hf : CleanCells (driveOf (S.table e) t.username)) (hold : CleanName (t.path fname))
    (hdest : CleanName (parseQuery (cString r.content) "newPath".toList))
    (h : (s.request b r).run S.accepted e = some ((s', page), e')) :
    driveOf (S.table e') t.username = moveAll (contentPath (t.path fname))
      (contentPath (movedTo t r.content ++ "/".toList ++ fname))
      (driveOf (S.table e) t.username) := by
  rw [move_row he ht hmove.code hmove.name hne hu hf hold hdest h]
  unfold driveAfter
  rw [hmove.code]
  dsimp only
  rw [hmove.name, if_pos hmove.folder]

/-- A folder is moved with all that is below it, to whatever path its new location is taken
to be, exactly if there is nothing to move. -/
theorem folder_moved_iff {fname : Str} (he : S.valid e) (ht : s.received r = some t)
    (hmove : MovesFolder t r.content fname) (hne : r.content ≠ []) (hu : CleanUser t.username)
    (hf : CleanCells (driveOf (S.table e) t.username)) (hold : CleanName (t.path fname))
    (hdest : CleanName (parseQuery (cString r.content) "newPath".toList))
    (h : (s.request b r).run S.accepted e = some ((s', page), e')) (location : Str) :
    SubtreeMoved (driveOf (S.table e) t.username) (driveOf (S.table e') t.username)
        (contentPath (t.path fname)) (contentPath location) ↔
      NothingToMove (driveOf (S.table e) t.username) (contentPath (t.path fname))
        (contentPath location) (contentPath (movedTo t r.content ++ "/".toList ++ fname)) := by
  rw [folder_row he ht hmove hne hu hf hold hdest h]
  exact subtreeMoved_moveAll_iff _ _ _ _

end

/-! ### The nested folder of the demo -/

/-- A file in `folderLevel0/folderLevel1`, and the empty folder `folderLevelNew`. -/
def demoDrive : Table :=
  ((((∅ : Table).set "anna".toList "/content/folderLevel0".toList "dummyData".toList).set
    "anna".toList "/content/folderLevel0/folderLevel1".toList "dummyData".toList).set
    "anna".toList "/content/folderLevel0/folderLevel1/b.jpg".toList "QQ==".toList).set
    "anna".toList "/content/folderLevelNew".toList "dummyData".toList

/-- Anna, logged in and on the page of `folderLevel0`. -/
def demoTab : Session :=
  { sid := [], username := "anna".toList, logged_in := true, item := "folderLevel0".toList }

def moveRequest : Request :=
  formRequest "/move HTTP/1.1".toList "fileName=folderLevel1&newPath=folderLevelNew".toList
    move_line

lemma moveRequest_received : demoTab.received moveRequest =
    some { demoTab with reply_code := .MOVE } := by rfl

lemma moveRequest_moves : MovesFolder { demoTab with reply_code := .MOVE } moveRequest.content
    "folderLevel1".toList where
  code := rfl
  name := by decide +kernel
  folder := by decide

lemma moveRequest_target :
    CleanName (parseQuery (cString moveRequest.content) "newPath".toList) := by decide +kernel

lemma demoDrive_row : driveOf demoDrive "anna".toList = Function.update
    (Function.update (Function.update (Function.update (fun _ => none)
      "/content/folderLevel0".toList (some "dummyData".toList))
      "/content/folderLevel0/folderLevel1".toList (some "dummyData".toList))
      "/content/folderLevel0/folderLevel1/b.jpg".toList (some "QQ==".toList))
      "/content/folderLevelNew".toList (some "dummyData".toList) := by
  rw [demoDrive, driveOf_set, driveOf_set, driveOf_set, driveOf_set, driveOf_empty]

lemma demoDrive_clean : CleanCells (driveOf demoDrive "anna".toList) := by
  rw [demoDrive_row]
  exact (((CleanCells.empty.update (by decide) (by decide)).update (by decide) (by decide)).update
    (by decide) (by decide)).update (by decide) (by decide)

/-- Only the file has this value. -/
lemma demoDrive_file {c : Str} (h : driveOf demoDrive "anna".toList c = some "QQ==".toList) :
    contentPath "folderLevel0/folderLevel1".toList <+: c := by
  have hfolder : some "dummyData".toList ≠ some "QQ==".toList := by decide
  rw [demoDrive_row] at h
  by_cases h₁ : c = "/content/folderLevelNew".toList
  · rw [h₁, Function.update_self] at h
    exact absurd h hfolder
  rw [Function.update_of_ne h₁] at h
  by_cases h₂ : c = "/content/folderLevel0/folderLevel1/b.jpg".toList
  · rw [h₂]
    decide
  rw [Function.update_of_ne h₂] at h
  by_cases h₃ : c = "/content/folderLevel0/folderLevel1".toList
  · rw [h₃]
    decide
  rw [Function.update_of_ne h₃] at h
  by_cases h₄ : c = "/content/folderLevel0".toList
  · rw [h₄, Function.update_self] at h
    exact absurd h hfolder
  rw [Function.update_of_ne h₄] at h
  exact absurd h (by simp)

lemma moveRequest_runs : ∃ s' page e', (demoTab.request base64 moveRequest).run
    (aloneService 0 (group1Address 2001)).accepted (aloneWorld demoDrive) =
      some ((s', page), e') := alone_request_runs (by decide +kernel)

theorem folder_moved_demo : ∃ s' page e', (demoTab.request base64 moveRequest).run
      (aloneService 0 (group1Address 2001)).accepted (aloneWorld demoDrive) =
        some ((s', page), e') ∧
    (SubtreeMoved (driveOf demoDrive "anna".toList)
        (driveOf (e'.server (group1Address 2001)).table "anna".toList)
        (contentPath "folderLevel0/folderLevel1".toList)
        (contentPath "folderLevelNew/folderLevel1".toList) ↔
      NothingToMove (driveOf demoDrive "anna".toList)
        (contentPath "folderLevel0/folderLevel1".toList)
        (contentPath "folderLevelNew/folderLevel1".toList)
        (contentPath (movedTo { demoTab with reply_code := .MOVE } moveRequest.content ++
          "/".toList ++ "folderLevel1".toList))) := by
  obtain ⟨s', page, e', h⟩ := moveRequest_runs
  exact ⟨s', page, e', h, folder_moved_iff (aloneWorld_alone _) moveRequest_received
    moveRequest_moves (by decide) (by decide) demoDrive_clean (by decide)
    moveRequest_target h _⟩

/-- The file of the nested folder is lost, wherever one looks for it. -/
theorem nested_folder_loses_file : ¬∀ (b : Base64) (σ : Type) (S : StorageService σ)
    (s t s' : Session) (r : Request) (page : Page) (e e' : σ) (fname : Str), S.valid e →
      s.received r = some t → MovesFolder t r.content fname → r.content ≠ [] →
      CleanUser t.username → CleanCells (driveOf (S.table e) t.username) →
      CleanName (t.path fname) →
      CleanName (parseQuery (cString r.content) "newPath".toList) →
      (s.request b r).run S.accepted e = some ((s', page), e') →
      ∃ location, SubtreeMoved (driveOf (S.table e) t.username)
        (driveOf (S.table e') t.username) (contentPath (t.path fname))
        (contentPath location) := by
  intro h
  obtain ⟨s', page, e', hrun⟩ := moveRequest_runs
  obtain ⟨location, hmoved⟩ := h base64 World (aloneService 0 (group1Address 2001)) demoTab _ s'
    moveRequest page (aloneWorld demoDrive) e' "folderLevel1".toList (aloneWorld_alone _)
    moveRequest_received moveRequest_moves (by decide) (by decide) demoDrive_clean (by decide)
    moveRequest_target hrun
  have hrow := folder_row (S := aloneService 0 (group1Address 2001)) (aloneWorld_alone _)
    moveRequest_received moveRequest_moves (by decide) (by decide) demoDrive_clean (by decide)
    moveRequest_target hrun
  rw [hrow] at hmoved
  have hnothing := (subtreeMoved_moveAll_iff (driveOf demoDrive "anna".toList) _ _ _).mp hmoved
  have hfile : driveOf demoDrive "anna".toList
      (contentPath "folderLevel0/folderLevel1".toList ++ '/' :: "b.jpg".toList) =
        some "QQ==".toList := by decide +kernel
  have harrived := hnothing.arrived "b.jpg".toList "QQ==".toList hfile
  split at harrived
  · exact absurd harrived (by decide)
  · exact harrived.2 (demoDrive_file harrived.1)

end CloudStorage.Proofs
