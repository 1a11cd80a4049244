import CloudStorage.Proofs.DriveEntries
import CloudStorage.Proofs.DrivePage

/-!
# Moving a file

A MOVE of a file stores its value in one column and erases another. From a folder, the new
column is that of the file in the folder it is moved to. From the root, it is the column of
this folder itself.
-/

namespace CloudStorage.Proofs
open DelimitedText Dialogue

/-- A value that is stored at `target` is moved to `new` if that is the same, or if the
value was at both columns before. -/
lemma entryRenamed_target_iff {f : Str → Option Str} {old new target : Str}
    (hold : (f old).isSome) : EntryRenamed f (moveValue old target f) old new ↔
      old ≠ new ∧ (target = new ∨ (f new = f old ∧ f target = f old)) := by
  obtain ⟨v, hv⟩ := Option.isSome_iff_exists.mp hold
  have htarget : old ≠ target → moveValue old target f target = some v := by
    intro hne
    rw [moveValue, Function.update_of_ne hne.symm, Function.update_self, hv]
    rfl
  have hgone : moveValue old target f old = none := by
    rw [moveValue, Function.update_self]
  constructor
  · intro h
    have hne : old ≠ new := by
      rintro rfl
      have harrived := h.arrived
      rw [hgone, hv] at harrived
      exact absurd harrived (by simp)
    refine ⟨hne, ?_⟩
    by_cases hnew : target = new
    · exact Or.inl hnew
    · right
      have harrived := h.arrived
      rw [moveValue_of_ne (Ne.symm hnew), if_neg hne.symm] at harrived
      refine ⟨harrived, ?_⟩
      by_cases htold : target = old
      · rw [htold]
      · have hother := h.others target htold hnew
        rw [← hother, htarget (Ne.symm htold), hv]
  · rintro ⟨hne, hnew⟩
    have hsame : ∀ c, c ≠ old → c ≠ new → f target = f old ∨ target = new →
        moveValue old target f c = f c := by
      intro c ho hn hcell
      by_cases hc : c = target
      · subst hc
        rcases hcell with hcell | hcell
        · rw [htarget ho.symm, hcell, hv]
        · exact absurd hcell hn
      · rw [moveValue_of_ne hc, if_neg ho]
    by_cases heq : target = new
    · subst heq
      refine ⟨?_, fun _ => hgone, fun c ho hn => hsame c ho hn (Or.inr rfl)⟩
      rw [htarget hne, hv]
    · obtain ⟨harrived, hcell⟩ := hnew.resolve_left heq
      refine ⟨?_, fun _ => hgone, fun c ho hn => hsame c ho hn (Or.inl hcell)⟩
      rw [moveValue_of_ne (Ne.symm heq), if_neg hne.symm, harrived]

section

variable {σ : Type} {S : StorageService σ} {b : Base64} {s t s' : Session} {r : Request}
  {page : Page} {e e' : σ}

/-- A request that moves the file `fname` into the folder `p`. -/
structure MovesFile (t : Session) (content fname p : Str) : Prop where
  code : t.reply_code = .MOVE
  name : parseQuery (cString content) "fileName".toList = fname
  folder : parseQuery (cString content) "newPath".toList = p
  file : '.' ∈ fname

lemma MovesFile.content_ne_nil {content fname p : Str} (h : MovesFile t content fname p) :
    content ≠ [] := by
  rintro rfl
  have hnil : parseQuery (cString []) "fileName".toList = [] := rfl
  have hfile := h.file
  rw [← h.name, hnil] at hfile
  exact absurd hfile List.not_mem_nil

/-- The row of the user after a file was moved. -/
lemma file_row {fname p : Str} (he : S.valid e) (ht : s.received r = some t)
    (hmove : MovesFile t r.content fname p) (hu : CleanUser t.username)
    (hf : CleanCells (driveOf (S.table e) t.username)) (hold : CleanName (t.path fname))
    (hp : CleanName p) (h : (s.request b r).run S.accepted e = some ((s', page), e')) :
    driveOf (S.table e') t.username =
      moveValue (contentPath (t.path fname))
        (contentPath (if t.item = [] then p else p ++ '/' :: fname))
        (driveOf (S.table e) t.username) := by
  have hdest : CleanName (parseQuery (cString r.content) "newPath".toList) := by
    rw [hmove.folder]
    exact hp
  rw [move_row he ht hmove.code hmove.name hmove.content_ne_nil hu hf hold hdest h]
  unfold driveAfter movedTo
  rw [hmove.code]
  dsimp only
  rw [hmove.name, hmove.folder, if_neg (not_not.mpr hmove.file)]
  by_cases hi : t.item = []
  · rw [if_neg (not_not.mpr hi), if_pos hi]
  · rw [if_pos hi, if_neg hi]
    simp

/-- The column of a file of the page. -/
lemma childColumn_path (t : Session) (fname : Str) :
    contentPath (t.path fname) = childColumn t.item fname := by
  rw [contentPath_path, childColumn_eq]
  by_cases hi : t.item = []
  · rw [if_pos hi, if_pos hi, hi]
  · rw [if_neg hi, if_neg hi]

lemma childColumn_inj {d p fname : Str} : childColumn d fname = childColumn p fname ↔ d = p := by
  have hlonger : ∀ q : Str, q ++ '/' :: fname ≠ fname := by
    intro q h
    have hlen := congrArg List.length h
    rw [List.length_append, List.length_cons] at hlen
    omega
  unfold childColumn contentPath
  rw [List.append_cancel_left_eq]
  by_cases hd : d = []
  · by_cases hp : p = []
    · simp [hd, hp]
    · rw [if_pos hd, if_neg hp, hd]
      exact ⟨fun h => absurd h.symm (hlonger p), fun h => absurd h.symm hp⟩
  · by_cases hp : p = []
    · rw [if_neg hd, if_pos hp, hp]
      exact ⟨fun h => absurd h (hlonger d), fun h => absurd h hd⟩
    · rw [if_neg hd, if_neg hp]
      exact List.append_left_inj _

/-- The column where a MOVE stores the value is that of the file in the new folder exactly
if neither folder is the root. -/
lemma target_eq_iff {d p fname : Str} (hne : fname ≠ []) :
    contentPath (if d = [] then p else p ++ '/' :: fname) = childColumn p fname ↔
      d ≠ [] ∧ p ≠ [] := by
  unfold childColumn contentPath
  rw [List.append_cancel_left_eq]
  by_cases hd : d = []
  · by_cases hp : p = []
    · simp [hd, hp, Ne.symm hne]
    · simp [hd, hp]
  · by_cases hp : p = []
    · simp [hd, hp]
    · simp [hd, hp]

/-- A file is moved into a folder exactly if it is in another one and neither of them is the
root, or if its value was at both columns already: where the request stores it, and where
the file belongs. -/
theorem file_moved_iff {fname p : Str} (he : S.valid e) (ht : s.received r = some t)
    (hmove : MovesFile t r.content fname p) (hu : CleanUser t.username)
    (hf : CleanCells (driveOf (S.table e) t.username))
    (hfile : (driveOf (S.table e) t.username (contentPath (t.path fname))).isSome)
    (hp : CleanName p) (h : (s.request b r).run S.accepted e = some ((s', page), e')) :
    EntryRenamed (driveOf (S.table e) t.username) (driveOf (S.table e') t.username)
        (contentPath (t.path fname)) (childColumn p fname) ↔
      t.item ≠ p ∧ (t.item ≠ [] ∧ p ≠ [] ∨
        driveOf (S.table e) t.username (childColumn p fname) =
            driveOf (S.table e) t.username (contentPath (t.path fname)) ∧
          driveOf (S.table e) t.username
              (contentPath (if t.item = [] then p else p ++ '/' :: fname)) =
            driveOf (S.table e) t.username (contentPath (t.path fname))) := by
  obtain ⟨v, hv⟩ := Option.isSome_iff_exists.mp hfile
  have hold : CleanName (t.path fname) := (cleanName_append.mp (hf.column _ v hv)).2
  have hne : fname ≠ [] := List.ne_nil_of_mem hmove.file
  rw [file_row he ht hmove hu hf hold hp h, entryRenamed_target_iff hfile, target_eq_iff hne,
    childColumn_path, Ne, childColumn_inj]

end

/-- Anna, logged in and on the page of the nested folder. -/
def nestedTab : Session :=
  { sid := [], username := "anna".toList, logged_in := true,
    item := "folderLevel0/folderLevel1".toList }

def fileRequest : Request :=
  formRequest "/move HTTP/1.1".toList "fileName=b.jpg&newPath=folderLevelNew".toList move_line

theorem file_moved_demo : ∃ s' page e', (nestedTab.request base64 fileRequest).run
      (aloneService 0 (group1Address 2001)).accepted (aloneWorld demoDrive) =
        some ((s', page), e') ∧
    (EntryRenamed (driveOf demoDrive "anna".toList)
        (driveOf (e'.server (group1Address 2001)).table "anna".toList)
        (contentPath (nestedTab.path "b.jpg".toList))
        (childColumn "folderLevelNew".toList "b.jpg".toList) ↔
      nestedTab.item ≠ "folderLevelNew".toList ∧
        (nestedTab.item ≠ [] ∧ "folderLevelNew".toList ≠ [] ∨
          driveOf demoDrive "anna".toList (childColumn "folderLevelNew".toList "b.jpg".toList) =
              driveOf demoDrive "anna".toList (contentPath (nestedTab.path "b.jpg".toList)) ∧
            driveOf demoDrive "anna".toList (contentPath (if nestedTab.item = [] then
                "folderLevelNew".toList else "folderLevelNew".toList ++ '/' :: "b.jpg".toList)) =
              driveOf demoDrive "anna".toList (contentPath (nestedTab.path "b.jpg".toList)))) := by
  have hrun : ((nestedTab.request base64 fileRequest).run
      (aloneService 0 (group1Address 2001)).accepted (aloneWorld demoDrive)).isSome = true := by
    decide +kernel
  have hreceived : nestedTab.received fileRequest =
      some { nestedTab with reply_code := .MOVE } := by rfl
  have hmove : MovesFile { nestedTab with reply_code := .MOVE } fileRequest.content
      "b.jpg".toList "folderLevelNew".toList :=
    ⟨rfl, by decide +kernel, by decide +kernel, by decide⟩
  obtain ⟨s', page, e', h⟩ := alone_request_runs hrun
  exact ⟨s', page, e', h, file_moved_iff (aloneWorld_alone _) hreceived hmove (by decide)
    demoDrive_clean (by decide +kernel) (by decide) h⟩

/-- A folder and a file at the root. -/
def rootDrive : Table :=
  ((∅ : Table).set "anna".toList "/content/a".toList "dummyData".toList).set "anna".toList
    "/content/f.txt".toList "QQ==".toList

lemma rootDrive_clean : CleanCells (driveOf rootDrive "anna".toList) := by
  rw [rootDrive, driveOf_set, driveOf_set, driveOf_empty]
  exact (CleanCells.empty.update (by decide) (by decide)).update (by decide) (by decide)

def rootRequest : Request :=
  formRequest "/move HTTP/1.1".toList "fileName=f.txt&newPath=a".toList move_line

/-- The file is stored in the place of the folder. -/
theorem root_file_overwrites_folder : ¬∀ (b : Base64) (σ : Type) (S : StorageService σ)
    (s t s' : Session) (r : Request) (page : Page) (e e' : σ) (fname p : Str), S.valid e →
      s.received r = some t → MovesFile t r.content fname p → CleanUser t.username →
      CleanCells (driveOf (S.table e) t.username) →
      (driveOf (S.table e) t.username (contentPath (t.path fname))).isSome →
      IsFolder (driveOf (S.table e) t.username) p →
      (s.request b r).run S.accepted e = some ((s', page), e') →
      EntryRenamed (driveOf (S.table e) t.username) (driveOf (S.table e') t.username)
        (contentPath (t.path fname)) (childColumn p fname) := by
  intro h
  have hrun : ((annasTab.request base64 rootRequest).run
      (aloneService 0 (group1Address 2001)).accepted (aloneWorld rootDrive)).isSome = true := by
    decide +kernel
  have hreceived : annasTab.received rootRequest =
      some { annasTab with reply_code := .MOVE } := by rfl
  have hmove : MovesFile { annasTab with reply_code := .MOVE } rootRequest.content
      "f.txt".toList "a".toList := ⟨rfl, by decide +kernel, by decide +kernel, by decide⟩
  have hstored : (driveOf rootDrive "anna".toList (contentPath "f.txt".toList)).isSome = true := by
    decide +kernel
  obtain ⟨s', page, e', hrun⟩ := alone_request_runs hrun
  have hmoved := h base64 World (aloneService 0 (group1Address 2001)) annasTab _ s' rootRequest
    page (aloneWorld rootDrive) e' "f.txt".toList "a".toList (aloneWorld_alone _) hreceived hmove
    (by decide) rootDrive_clean hstored (Or.inr (by decide +kernel)) hrun
  have hrow := file_row (S := aloneService 0 (group1Address 2001)) (aloneWorld_alone _) hreceived
    hmove (by decide) rootDrive_clean (by decide) (by decide) hrun
  rw [hrow] at hmoved
  obtain ⟨-, hplace⟩ := (entryRenamed_target_iff hstored).mp hmoved
  rcases hplace with hplace | hplace
  · exact absurd hplace (by decide)
  · have hvalue : ¬driveOf rootDrive "anna".toList (contentPath "a".toList) =
        driveOf rootDrive "anna".toList (contentPath "f.txt".toList) := by decide +kernel
    exact hvalue hplace.2

end CloudStorage.Proofs
