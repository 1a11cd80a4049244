import CloudStorage.Proofs.DriveRequests
import CloudStorage.Proofs.PartialMap

/-!
# The tree of a drive

A drive shows the columns under `/content/` as a tree of folders, which no column says it
is. This file proves for which requests the folders around each stored column are still
stored afterwards.
-/

namespace CloudStorage.Proofs
open DelimitedText Dialogue PathTree

/-- For every column `/content/a1/.../ak` each shorter `/content/a1/.../aj` is a column. -/
def WellFormedDrive (f : Str → Option Str) : Prop :=
  ∀ as bs : List Str, as ≠ [] → bs ≠ [] → (∀ a ∈ as ++ bs, '/' ∉ a) →
    (f (contentPath (joined '/' (as ++ bs)))).isSome → (f (contentPath (joined '/' as))).isSome

def columnsOf (f : Str → Option Str) : Set Str := {c | (f c).isSome}

lemma contentPath_append (s t : Str) : contentPath (s ++ t) = contentPath s ++ t := by
  rw [contentPath_eq, contentPath_eq, List.append_assoc]

lemma contentPath_root (s : Str) : contentPath s = contentPath [] ++ s := contentPath_append [] s

/-- A drive is well formed where its columns are a tree of paths. -/
theorem wellFormed_iff (f : Str → Option Str) :
    WellFormedDrive f ↔ Closed '/' (contentPath []) (columnsOf f) := by
  constructor
  · rintro h c hc a ⟨⟨x, rfl⟩, y, rfl⟩
    obtain ⟨as, has, hafree, rfl⟩ := exists_joined '/' x
    obtain ⟨bs, hbs, hbfree, rfl⟩ := exists_joined '/' y
    have hwhole : contentPath [] ++ joined '/' as ++ ['/'] ++ joined '/' bs =
        contentPath (joined '/' (as ++ bs)) := by
      rw [joined_append has hbs, contentPath_root (joined '/' as ++ _), List.append_assoc,
        List.append_assoc]
      rfl
    have hfree : ∀ a ∈ as ++ bs, '/' ∉ a := by
      intro a ha
      exact (List.mem_append.mp ha).elim (hafree a) (hbfree a)
    rw [hwhole] at hc
    have ha := h as bs has hbs hfree hc
    rwa [contentPath_root] at ha
  · intro h as bs has hbs hfree hc
    refine h _ hc _ ⟨?_, joined '/' bs, ?_⟩
    · rw [contentPath_root]
      exact List.prefix_append _ _
    · rw [joined_append has hbs, contentPath_append, List.append_assoc]
      rfl

/-! ### The columns after a request -/

lemma columnsOf_update (f : Str → Option Str) (n v : Str) :
    columnsOf (Function.update f n (some v)) = (Edit.add n).apply (columnsOf f) := by
  ext c
  show (Function.update f n (some v) c).isSome ↔ c = n ∨ (f c).isSome
  by_cases hc : c = n
  · simp [hc]
  · simp [hc]

lemma columnsOf_moveValue (f : Str → Option Str) (o n : Str) :
    columnsOf (moveValue o n f) = (Edit.move o n).apply (columnsOf f) := by
  ext c
  show (moveValue o n f c).isSome ↔ c ≠ o ∧ (c = n ∨ (f c).isSome)
  unfold moveValue
  by_cases hco : c = o
  · simp [hco]
  · by_cases hcn : c = n
    · subst hcn
      simp [hco]
    · simp [hco, hcn]

lemma columnsOf_removeAll (f : Str → Option Str) (p : Str) :
    columnsOf (removeAll p f) = (Edit.removeAll p).apply (columnsOf f) := by
  ext c
  show (removeAll p f c).isSome ↔ (f c).isSome ∧ ¬p <+: c
  unfold removeAll
  by_cases hp : p <+: c
  · simp [hp]
  · simp [hp]

lemma columnsOf_moveAll (f : Str → Option Str) (p n : Str) :
    columnsOf (moveAll p n f) = (Edit.moveAll p n).apply (columnsOf f) := by
  ext c
  show (moveAll p n f c).isSome ↔ c = n ∨ ((f c).isSome ∧ ¬p <+: c)
  unfold moveAll removeAll
  by_cases hc : c = n
  · simp [hc]
  · by_cases hp : p <+: c
    · simp [hc, hp]
    · simp [hc, hp]

/-! ### Requests from a folder -/

/-- A folder of the drive: the root or a stored column. -/
def IsFolder (f : Str → Option Str) (p : Str) : Prop := p = [] ∨ (f (contentPath p)).isSome

/-- The names in a request that changes a drive. -/
def namesOf (s : Session) (content : Str) : List Str :=
  if s.reply_code = .MOVE then [parseQuery (cString content) "fileName".toList]
  else fieldsOf s content

/-- The request is made from a folder, with names of entries, and leads to a folder. -/
structure Addressed (f : Str → Option Str) (s : Session) (content : Str) : Prop where
  folder : IsFolder f s.item
  names : ∀ x ∈ namesOf s content, '/' ∉ x ∧ CleanName x
  destination : s.reply_code = .MOVE → IsFolder f (parseQuery (cString content) "newPath".toList)

/-- Nothing stays behind without its folder: a renamed folder is empty, a moved file has no
entries and finds its new folder, and a moved folder finds its new folder, which goes on
existing. -/
def KeepsTree (f : Str → Option Str) (s : Session) (content : Str) : Prop :=
  let fname := parseQuery (cString content) "fileName".toList
  let old := contentPath (s.path fname)
  match s.reply_code with
  | .RENAME => ∀ c ∈ columnsOf f, ¬Above '/' (contentPath []) old c
  | .MOVE =>
    if '.' ∉ fname then
      (Edit.moveAll old (contentPath (movedTo s content ++ "/".toList ++ fname))).Keeps '/'
        (contentPath []) (columnsOf f)
    else (Edit.move old (contentPath (movedTo s content))).Keeps '/' (contentPath [])
      (columnsOf f)
  | _ => True

section

variable {f : Str → Option Str} {s : Session} {content : Str}

lemma CleanCells.folder (h : CleanCells f) {p : Str} (hp : IsFolder f p) : CleanName p := by
  rcases hp with rfl | hp
  · decide
  · obtain ⟨v, hv⟩ := Option.isSome_iff_exists.mp hp
    have hclean := h.column _ v hv
    rw [contentPath_root] at hclean
    exact (cleanName_append.mp hclean).2

lemma Addressed.fields (h : Addressed f s content) (hf : CleanCells f) :
    ∀ x ∈ fieldsOf s content, CleanName x := by
  intro x hx
  by_cases hmove : s.reply_code = .MOVE
  · have hnames := h.names
    unfold fieldsOf at hx
    rw [namesOf, if_pos hmove] at hnames
    rw [hmove] at hx
    rcases List.mem_pair.mp hx with rfl | rfl
    · exact (hnames _ List.mem_cons_self).2
    · exact hf.folder (h.destination hmove)
  · have hnames := h.names
    rw [namesOf, if_neg hmove] at hnames
    exact (hnames x hx).2

/-- An entry of a folder is the child of its column. -/
lemma contentPath_path (s : Session) (name : Str) :
    contentPath (s.path name) =
      if s.item = [] then contentPath [] ++ name else contentPath s.item ++ '/' :: name := by
  unfold Session.path
  by_cases hi : s.item = []
  · rw [if_pos hi, if_neg (fun h => h hi), contentPath_root]
  · rw [if_neg hi, if_pos hi, List.append_assoc, contentPath_append]
    rfl

/-- A new entry of an existing folder keeps the tree. -/
lemma keeps_entry (hwf : Closed '/' (contentPath []) (columnsOf f)) (hfolder : IsFolder f s.item)
    {name : Str} (hname : '/' ∉ name) :
    (Edit.add (contentPath (s.path name))).Keeps '/' (contentPath []) (columnsOf f) := by
  rw [contentPath_path]
  by_cases hi : s.item = []
  · rw [if_pos hi]
    exact keeps_root hname
  · rw [if_neg hi]
    exact hwf.keeps_child (hfolder.resolve_left hi) hname

/-- An entry of a folder is not around another one of the same folder. -/
lemma not_above_sibling (s : Session) {fname name : Str} (hname : '/' ∉ name) :
    ¬Above '/' (contentPath []) (contentPath (s.path fname)) (contentPath (s.path name)) := by
  intro h
  rw [contentPath_path, contentPath_path] at h
  by_cases hi : s.item = []
  · rw [if_pos hi, if_pos hi] at h
    exact not_above_root hname h
  · rw [if_neg hi, if_neg hi] at h
    have hlen : (contentPath s.item).length <
        (contentPath s.item ++ '/' :: fname).length := by
      rw [List.length_append, List.length_cons]
      omega
    rcases (above_child hname).mp h with ⟨heq, -⟩ | h
    · rw [heq] at hlen
      omega
    · have habove := h.length_lt
      omega

/-- A rename keeps the tree exactly if the entry has no entries of its own. -/
lemma rename_keeps_iff (hwf : Closed '/' (contentPath []) (columnsOf f))
    (hfolder : IsFolder f s.item) {fname name : Str} (hname : '/' ∉ name) :
    (Edit.move (contentPath (s.path fname)) (contentPath (s.path name))).Keeps '/'
        (contentPath []) (columnsOf f) ↔
      ∀ c ∈ columnsOf f, ¬Above '/' (contentPath []) (contentPath (s.path fname)) c := by
  refine and_iff_right (fun _ a ha => ⟨keeps_entry hwf hfolder hname a ha, ?_⟩)
  rintro rfl
  exact not_above_sibling s hname ha

/-- The effect of a request on the row keeps the tree exactly under the condition. -/
lemma driveAfter_wellFormed_iff {b : Base64} (hwf : WellFormedDrive f)
    (hcode : ChangesDrive s.reply_code) (h : Addressed f s content) :
    WellFormedDrive (driveAfter b content s f) ↔ KeepsTree f s content := by
  rw [wellFormed_iff] at hwf ⊢
  have hnames := h.names
  unfold driveAfter KeepsTree
  unfold namesOf fieldsOf at hnames
  dsimp only
  cases hc : s.reply_code <;> rw [hc] at hcode hnames <;>
    try exact absurd hcode (by unfold ChangesDrive; decide)
  case NEWDIR =>
    rw [columnsOf_update, hwf.apply_iff]
    exact iff_of_true (keeps_entry hwf h.folder (hnames _ List.mem_cons_self).1) trivial
  case UPLOAD =>
    dsimp only
    cases hparse : parseMultipartFormData s.contentType content with
    | none => exact iff_of_true hwf trivial
    | some x =>
      dsimp only
      rw [columnsOf_update, hwf.apply_iff]
      exact iff_of_true (keeps_entry hwf h.folder (hnames x.2 (by simp [hparse])).1) trivial
  case RENAME =>
    dsimp only
    rw [columnsOf_moveValue, hwf.apply_iff]
    exact rename_keeps_iff hwf h.folder
      (hnames _ (List.mem_cons_of_mem _ List.mem_cons_self)).1
  case MOVE =>
    dsimp only
    split
    · rw [columnsOf_moveAll, hwf.apply_iff]
    · rw [columnsOf_moveValue, hwf.apply_iff]
  case DELETE =>
    dsimp only
    rw [columnsOf_removeAll, hwf.apply_iff]
    exact iff_of_true trivial trivial

end

section

variable {σ : Type} {S : StorageService σ} {b : Base64} {s t s' : Session} {r : Request}
  {page : Page} {e e' : σ}

/-- A request on a well-formed drive that the storage server accepts leaves a well-formed
drive exactly if it keeps the tree. -/
theorem drive_wellFormed_iff (he : S.valid e) (ht : s.received r = some t)
    (hcode : ChangesDrive t.reply_code) (hu : CleanUser t.username)
    (hf : CleanCells (driveOf (S.table e) t.username))
    (hwf : WellFormedDrive (driveOf (S.table e) t.username))
    (haddressed : Addressed (driveOf (S.table e) t.username) t r.content)
    (h : (s.request b r).run S.accepted e = some ((s', page), e')) :
    WellFormedDrive (driveOf (S.table e') t.username) ↔
      r.content = [] ∨ KeepsTree (driveOf (S.table e) t.username) t r.content := by
  rw [request_drive he ht hcode hu hf (hf.folder haddressed.folder) (haddressed.fields hf) h]
  by_cases hnil : r.content = []
  · rw [if_pos hnil]
    exact iff_of_true hwf (Or.inl hnil)
  · rw [if_neg hnil, driveAfter_wellFormed_iff hwf hcode haddressed, or_iff_right hnil]

end

/-! ### A folder with a file -/

def annasDrive : Table :=
  ((∅ : Table).set "anna".toList "/content/a".toList "dummyData".toList).set "anna".toList
    "/content/a/f.txt".toList "QQ==".toList

/-- Anna, logged in and on the page of the root. -/
def annasTab : Session := { sid := [], username := "anna".toList, logged_in := true }

def renameRequest : Request :=
  formRequest "/rename HTTP/1.1".toList "fileName=a&newName=b".toList rename_line

lemma annasDrive_row : driveOf annasDrive "anna".toList = Function.update
    (Function.update (fun _ => none) (contentPath [] ++ "a".toList) (some "dummyData".toList))
    (contentPath "a".toList ++ '/' :: "f.txt".toList) (some "QQ==".toList) := by
  rw [annasDrive, driveOf_set, driveOf_set, driveOf_empty]
  rfl

lemma annasDrive_clean : CleanCells (driveOf annasDrive "anna".toList) := by
  rw [annasDrive_row]
  exact (CleanCells.empty.update (by decide) (by decide)).update (by decide) (by decide)

lemma annasDrive_wellFormed : WellFormedDrive (driveOf annasDrive "anna".toList) := by
  have hempty : Closed '/' (contentPath []) (columnsOf (fun _ => none)) := by
    intro c hc
    exact absurd hc (by simp [columnsOf])
  rw [wellFormed_iff, annasDrive_row, columnsOf_update, columnsOf_update]
  have hname : '/' ∉ "a".toList := by decide
  have hfolder := (hempty.add_iff _).mpr (keeps_root hname)
  exact (hfolder.add_iff _).mpr (hfolder.keeps_child (Or.inl rfl) (by decide))

lemma renameRequest_received : annasTab.received renameRequest =
    some { annasTab with reply_code := .RENAME } := by rfl

lemma renameRequest_addressed : Addressed (driveOf annasDrive "anna".toList)
    { annasTab with reply_code := .RENAME } renameRequest.content := by
  have hnames : namesOf { annasTab with reply_code := .RENAME } renameRequest.content =
      ["a".toList, "b".toList] := by decide +kernel
  refine ⟨Or.inl rfl, ?_, fun hmove => absurd hmove (by decide)⟩
  rw [hnames]
  decide

/-- A run of a request at a server without secondaries. -/
lemma alone_request_runs {s : Session} {r : Request} {t : Table}
    (h : ((s.request base64 r).run (aloneService 0 (group1Address 2001)).accepted
      (aloneWorld t)).isSome) : ∃ s' page e', (s.request base64 r).run
    (aloneService 0 (group1Address 2001)).accepted (aloneWorld t) = some ((s', page), e') := by
  obtain ⟨⟨⟨s', page⟩, e'⟩, h⟩ := Option.isSome_iff_exists.mp h
  exact ⟨s', page, e', h⟩

lemma renameRequest_runs : ∃ s' page e', (annasTab.request base64 renameRequest).run
    (aloneService 0 (group1Address 2001)).accepted (aloneWorld annasDrive) =
      some ((s', page), e') := alone_request_runs (by decide +kernel)

theorem drive_wellFormed_rename : ∃ s' page e', (annasTab.request base64 renameRequest).run
      (aloneService 0 (group1Address 2001)).accepted (aloneWorld annasDrive) =
        some ((s', page), e') ∧
    (WellFormedDrive (driveOf (e'.server (group1Address 2001)).table "anna".toList) ↔
      renameRequest.content = [] ∨ KeepsTree (driveOf annasDrive "anna".toList)
        { annasTab with reply_code := .RENAME } renameRequest.content) := by
  obtain ⟨s', page, e', h⟩ := renameRequest_runs
  exact ⟨s', page, e', h, drive_wellFormed_iff (aloneWorld_alone _) renameRequest_received
    (by unfold ChangesDrive; decide) (by decide) annasDrive_clean annasDrive_wellFormed
    renameRequest_addressed h⟩

/-- The file of a renamed folder stays behind. -/
theorem renamed_folder_loses_file : ¬∀ (b : Base64) (σ : Type) (S : StorageService σ)
    (s t s' : Session) (r : Request) (page : Page) (e e' : σ), S.valid e →
      s.received r = some t → ChangesDrive t.reply_code → CleanUser t.username →
      CleanCells (driveOf (S.table e) t.username) →
      WellFormedDrive (driveOf (S.table e) t.username) →
      Addressed (driveOf (S.table e) t.username) t r.content →
      (s.request b r).run S.accepted e = some ((s', page), e') →
      WellFormedDrive (driveOf (S.table e') t.username) := by
  intro h
  obtain ⟨s', page, e', hrun⟩ := renameRequest_runs
  have hcode : ChangesDrive .RENAME := by unfold ChangesDrive; decide
  have hafter := h base64 World (aloneService 0 (group1Address 2001)) annasTab _ s' renameRequest
    page (aloneWorld annasDrive) e' (aloneWorld_alone _) renameRequest_received hcode (by decide)
    annasDrive_clean annasDrive_wellFormed renameRequest_addressed hrun
  have hrow := request_drive (S := aloneService 0 (group1Address 2001)) (aloneWorld_alone _)
    renameRequest_received hcode (by decide) annasDrive_clean (by decide)
    (renameRequest_addressed.fields annasDrive_clean) hrun
  have hrow' : driveOf ((aloneService 0 (group1Address 2001)).table e') "anna".toList =
      driveAfter base64 renameRequest.content { annasTab with reply_code := .RENAME }
        (driveOf annasDrive "anna".toList) := hrow
  have hkeeps := (driveAfter_wellFormed_iff annasDrive_wellFormed hcode
    renameRequest_addressed).mp (hrow' ▸ hafter)
  have hfile : contentPath "a/f.txt".toList ∈ columnsOf (driveOf annasDrive "anna".toList) := by
    show (annasDrive.get "anna".toList (contentPath "a/f.txt".toList)).isSome = true
    decide +kernel
  have hold : contentPath (Session.path { annasTab with reply_code := .RENAME }
      (parseQuery (cString renameRequest.content) "fileName".toList)) = "/content/a".toList := by
    decide +kernel
  apply hkeeps _ hfile
  rw [hold]
  exact (by decide : contentPath [] <+: "/content/a".toList ∧
    "/content/a".toList ++ ['/'] <+: contentPath "a/f.txt".toList)

end CloudStorage.Proofs
