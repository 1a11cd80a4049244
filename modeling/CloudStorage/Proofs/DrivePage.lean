import Mathlib.Data.List.ReduceOption
import Mathlib.Data.List.TakeWhile
import CloudStorage.Pages
import CloudStorage.Proofs.DriveTree

/-!
# The page of a folder

The page of a folder is made from a LIST of the columns that begin with the path of the
folder, and the entries of a folder beside it can begin so, too. This file proves which
folders have all of their entries on their page and no others.
-/

namespace CloudStorage.Proofs
open DelimitedText Dialogue PathTree Positions

/-! ### File names -/

lemma getFileName_separator {ch : Char} (hch : ch = '/' ∨ ch = '\\') (s q : Str) :
    getFileName (s ++ ch :: q) = getFileName q := by
  have hstop : ∀ l : Str, (l ++ ch :: s.reverse).takeWhile (fun ch => ch ≠ '/' ∧ ch ≠ '\\') =
      l.takeWhile (fun ch => ch ≠ '/' ∧ ch ≠ '\\') := by
    intro l
    induction l with
    | nil =>
      rw [List.nil_append, List.takeWhile_cons_of_neg, List.takeWhile_nil]
      rcases hch with rfl | rfl <;> decide
    | cons c l ih => rw [List.cons_append, List.takeWhile_cons, List.takeWhile_cons, ih]
  have hreverse : (s ++ ch :: q).reverse = q.reverse ++ ch :: s.reverse := by simp
  rw [getFileName, hreverse, hstop, getFileName]

lemma getFileName_of_plain {q : Str} (hslash : '/' ∉ q) (hback : '\\' ∉ q) :
    getFileName q = q := by
  rw [getFileName, List.takeWhile_eq_self_iff.mpr, List.reverse_reverse]
  intro ch hch
  rw [List.mem_reverse] at hch
  rw [decide_eq_true_eq]
  constructor
  · rintro rfl
    exact hslash hch
  · rintro rfl
    exact hback hch

lemma getFileName_plain (q : Str) : '/' ∉ getFileName q ∧ '\\' ∉ getFileName q := by
  constructor
  · intro h
    have hch := List.mem_takeWhile_imp (List.mem_reverse.mp h)
    exact absurd hch (by decide)
  · intro h
    have hch := List.mem_takeWhile_imp (List.mem_reverse.mp h)
    exact absurd hch (by decide)

/-- A name is all that stands behind the last separator. -/
lemma getFileName_eq_iff {q n : Str} (hq : '/' ∉ q) :
    getFileName q = n ↔ '\\' ∉ n ∧ (q = n ∨ '\\' :: n <:+ q) := by
  constructor
  · rintro rfl
    refine ⟨(getFileName_plain q).2, ?_⟩
    by_cases hback : '\\' ∈ q
    · obtain ⟨r, s, hr, hfree⟩ := List.eq_append_cons_of_mem (List.mem_reverse.mpr hback)
      have hlast : q = s.reverse ++ '\\' :: r.reverse := by
        rw [← List.reverse_reverse q, hr]
        simp
      have hslash : '/' ∉ r.reverse := fun h => hq (hlast ▸ List.mem_append_right _
        (List.mem_cons_of_mem _ h))
      have hname : getFileName q = r.reverse := by
        rw [hlast, getFileName_separator (Or.inr rfl)]
        exact getFileName_of_plain hslash (fun h => hfree (List.mem_reverse.mp h))
      exact Or.inr ⟨s.reverse, by rw [hname, hlast]⟩
    · exact Or.inl (getFileName_of_plain hq hback).symm
  · rintro ⟨hn, rfl | ⟨s, rfl⟩⟩
    · exact getFileName_of_plain hq hn
    · rw [getFileName_separator (Or.inr rfl)]
      exact getFileName_of_plain (fun h => hq (by simp [h])) hn

/-! ### What is shown of a column -/

/-- The column of an entry of the folder `d`. -/
def childColumn (d x : Str) : Str := contentPath (if d = [] then x else d ++ '/' :: x)

/-- A rest behind the path of `d` that the page takes for an entry of `d`. -/
def TakenForChild (d rest : Str) : Prop :=
  (d = [] ∧ '/' ∉ rest) ∨ (d ≠ [] ∧ '/' ∈ rest ∧ '/' ∉ after '/' rest)

instance (d rest : Str) : Decidable (TakenForChild d rest) :=
  inferInstanceAs (Decidable (_ ∨ _))

/-- What the page of `d` shows of a column that goes on with `rest` behind `d`. -/
def shownRest (d rest : Str) : Option Str :=
  if TakenForChild d rest ∧ getFileName (d ++ rest) ≠ d then some (getFileName (d ++ rest))
  else none

def shownName (d c : Str) : Option Str := shownRest d (c.drop (contentPath d).length)

lemma shownName_append (d rest : Str) : shownName d (contentPath d ++ rest) = shownRest d rest := by
  rw [shownName, List.drop_left]

lemma findStr_own (pattern s : Str) : findStr pattern (pattern ++ s) = some 0 := by
  by_cases hp : pattern = []
  · subst hp
    cases s <;> rfl
  · exact findStr_start hp s

lemma addedPath_column {d rest : Str} (hsize : (contentPath d ++ rest).length < npos) :
    addedPath d (contentPath d ++ rest) =
      some (if TakenForChild d rest then some (d ++ rest) else none) := by
  have hfound : findStr "/content/".toList (contentPath d ++ rest) = some 0 := by
    rw [contentPath_eq, List.append_assoc]
    exact findStr_own _ _
  have hpath : (contentPath d ++ rest).drop (0 + 9) = d ++ rest := rfl
  have hlength : (contentPath d ++ rest).length = 9 + (d.length + rest.length) := by
    rw [contentPath_eq, List.append_assoc, List.length_append, List.length_append]
    rfl
  have hlast := npos_add_one
  have hrest : slice (add (position (some 0)) d.length) npos (d ++ rest) = some rest := by
    have hzero : add (position (some 0)) d.length = d.length := by
      rw [show position (some 0) = 0 from rfl, add_of_lt (by omega), Nat.zero_add]
    rw [hzero, slice_rest, List.drop_left]
    · rw [List.length_append]
      exact Nat.le_add_right _ _
    · rw [List.length_append]
      omega
  unfold addedPath
  rw [hfound]
  dsimp only
  rw [hpath, findStr_own, hrest]
  by_cases hd : d = []
  · subst hd
    by_cases hslash : '/' ∈ rest
    · simp [hslash, TakenForChild]
    · simp [hslash, TakenForChild]
  · have hpos : d.length ≠ 0 := fun h => hd (List.length_eq_zero_iff.mp h)
    by_cases hone : '/' ∈ rest ∧ '/' ∉ after '/' rest
    · simp [hpos, hd, hone, TakenForChild]
    · simp [hpos, hd, hone, TakenForChild]

/-- The name of a path, where the page keeps it. -/
def keptName (d : Str) (path : Option Str) : Option Str :=
  path.bind (fun path => if getFileName path = d then none else some (getFileName path))

lemma names_paths (d : Str) (paths : List (Option Str)) :
    ((paths.reduceOption.map (fun currPath =>
      (getFileName currPath, decide ('.' ∉ currPath)))).filter (fun file => file.1 ≠ d)).map
        Prod.fst = paths.filterMap (keptName d) := by
  induction paths with
  | nil => rfl
  | cons path paths ih =>
    cases path with
    | none =>
      have hnone : keptName d none = none := rfl
      rw [List.reduceOption_cons_of_none, ih, List.filterMap_cons_none hnone]
    | some path =>
      rw [List.reduceOption_cons_of_some, List.map_cons]
      by_cases hname : getFileName path = d
      · have hnone : keptName d (some path) = none := if_pos hname
        rw [List.filter_cons_of_neg (by simp [hname]), ih, List.filterMap_cons_none hnone]
      · have hsome : keptName d (some path) = some (getFileName path) := if_neg hname
        rw [List.filter_cons_of_pos (by simp [hname]), List.map_cons, ih,
          List.filterMap_cons_some hsome]

lemma mapM_addedPath {d : Str} {lines : List Str} {paths : Str → Option Str}
    (h : ∀ l ∈ lines, addedPath d l = some (paths l)) :
    lines.mapM (addedPath d) = some (lines.map paths) := by
  induction lines with
  | nil => rfl
  | cons l lines ih =>
    rw [List.mapM_cons, h l List.mem_cons_self,
      ih (fun l' hl => h l' (List.mem_cons_of_mem l hl))]
    rfl

/-- The names on a page are those that are shown of the columns. -/
lemma driveFiles_listAnswer {d : Str} {columns : List Str}
    (hcolumns : ∀ c ∈ columns, contentPath d <+: c ∧ '\n' ∉ c)
    (hsize : (listAnswer columns).length < npos) :
    ∃ files, driveFiles (listAnswer columns) d = some files ∧
      files.map Prod.fst = columns.filterMap (shownName d) := by
  obtain ⟨z, hz, hlines⟩ := lines_listAnswer (fun c hc => (hcolumns c hc).2)
  -- the line behind the columns holds no path
  have hzpath : addedPath d z = some none := by
    rcases List.mem_pair.mp hz with rfl | rfl
    · rfl
    · rfl
  have hcolumn : ∀ c ∈ columns, (addedPath d c).isSome ∧
      keptName d (addedPath d c).join = shownName d c := by
    intro c hc
    obtain ⟨⟨rest, rfl⟩, -⟩ := hcolumns c hc
    have hline : contentPath d ++ rest ∈ getlines '\n' (listAnswer columns) := by
      rw [hlines]
      exact List.mem_append_left _ hc
    have hlength := Nat.lt_of_le_of_lt (infix_of_mem_getlines hline).length_le hsize
    rw [addedPath_column hlength, shownName_append, shownRest]
    refine ⟨rfl, ?_⟩
    by_cases hchild : TakenForChild d rest
    · by_cases hname : getFileName (d ++ rest) = d
      · simp [hchild, hname, keptName]
      · simp [hchild, hname, keptName]
    · simp [hchild, keptName]
  have hsome : ∀ l ∈ columns ++ [z], addedPath d l = some (addedPath d l).join := by
    intro l hl
    rcases List.mem_append.mp hl with hl | hl
    · obtain ⟨path, hpath⟩ := Option.isSome_iff_exists.mp (hcolumn l hl).1
      rw [hpath]
      rfl
    · rw [List.mem_singleton.mp hl, hzpath]
      rfl
  have hnames := names_paths d ((columns ++ [z]).map (fun l => (addedPath d l).join))
  refine ⟨_, ?_, hnames.trans ?_⟩
  · unfold driveFiles extractFiles
    rw [hlines, mapM_addedPath hsome]
    rfl
  · have hshown : columns.filterMap (keptName d ∘ fun l => (addedPath d l).join) =
        columns.filterMap (shownName d) := List.filterMap_congr (fun c hc => (hcolumn c hc).2)
    rw [List.filterMap_map, List.filterMap_append, hshown]
    simp [hzpath, keptName]

/-! ### The folders whose page is right -/

/-- The names are those of the entries of `d`, each once. -/
structure ListsChildren (f : Str → Option Str) (d : Str) (names : List Str) : Prop where
  once : names.Nodup
  children : ∀ x, x ∈ names ↔ '/' ∉ x ∧ (f (childColumn d x)).isSome

/-- No entry is named like the folder or with a backslash, and an entry of a folder beside
it whose path goes on where that of `d` ends has the name that is left out. -/
structure PlainFolder (f : Str → Option Str) (d : Str) : Prop where
  names : ∀ x, '/' ∉ x → (f (childColumn d x)).isSome → '\\' ∉ x ∧ x ≠ d
  siblings : d ≠ [] → ∀ p q, p ≠ [] → '/' ∉ p → '/' ∉ q →
    (f (contentPath (d ++ p ++ '/' :: q))).isSome → '\\' ∉ d ∧ (q = d ∨ '\\' :: d <:+ q)

lemma childColumn_eq (d x : Str) :
    childColumn d x = contentPath d ++ if d = [] then x else '/' :: x := by
  unfold childColumn
  by_cases hd : d = []
  · rw [if_pos hd, if_pos hd, hd, contentPath_root]
  · rw [if_neg hd, if_neg hd, contentPath_append]

lemma shownName_child {d x : Str} (hx : '/' ∉ x) :
    shownName d (childColumn d x) = if getFileName x = d then none else some (getFileName x) := by
  rw [childColumn_eq, shownName_append, shownRest]
  by_cases hd : d = []
  · subst hd
    have hchild : TakenForChild [] x := Or.inl ⟨rfl, hx⟩
    simp [hchild]
  · have hchild : TakenForChild d ('/' :: x) := by
      have hafter : after '/' ([] ++ '/' :: x) = x := after_append List.not_mem_nil x
      rw [List.nil_append] at hafter
      exact Or.inr ⟨hd, List.mem_cons_self, hafter ▸ hx⟩
    rw [if_neg hd, getFileName_separator (Or.inl rfl)]
    simp [hchild]

/-- A name that is shown belongs to the entry of this name, too. -/
lemma shownName_name {d c x : Str} (h : shownName d c = some x) :
    '/' ∉ x ∧ shownName d (childColumn d x) = some x := by
  unfold shownName shownRest at h
  split at h
  · next hshown =>
    obtain ⟨hslash, hback⟩ := getFileName_plain (d ++ c.drop (contentPath d).length)
    obtain rfl := Option.some.inj h
    rw [shownName_child hslash, getFileName_of_plain hslash hback, if_neg hshown.2]
    exact ⟨hslash, rfl⟩
  · exact absurd h (by simp)

/-- The page of `d` shows nothing for the columns that are no entries of `d` exactly if
those that it takes for entries have the name that is left out. -/
lemma siblings_iff {f : Str → Option Str} {d : Str} :
    (∀ c, (f c).isSome → contentPath d <+: c → (∀ x, '/' ∉ x → c ≠ childColumn d x) →
      shownName d c = none) ↔
    (d ≠ [] → ∀ p q, p ≠ [] → '/' ∉ p → '/' ∉ q →
      (f (contentPath (d ++ p ++ '/' :: q))).isSome → '\\' ∉ d ∧ (q = d ∨ '\\' :: d <:+ q)) := by
  have htaken : ∀ {p q : Str}, d ≠ [] → '/' ∉ p → (TakenForChild d (p ++ '/' :: q) ↔ '/' ∉ q) := by
    intro p q hd hp
    unfold TakenForChild
    rw [after_append hp]
    simp [hd]
  have hname : ∀ p q : Str, getFileName (d ++ (p ++ '/' :: q)) = getFileName q := by
    intro p q
    rw [← List.append_assoc]
    exact getFileName_separator (Or.inl rfl) _ _
  have hcolumn : ∀ p q : Str,
      contentPath (d ++ p ++ '/' :: q) = contentPath d ++ (p ++ '/' :: q) := by
    intro p q
    rw [List.append_assoc, contentPath_append]
  constructor
  · intro h hd p q hp hpslash hq hstored
    rw [hcolumn] at hstored
    have hother : ∀ x, '/' ∉ x → contentPath d ++ (p ++ '/' :: q) ≠ childColumn d x := by
      intro x _ heq
      rw [childColumn_eq, if_neg hd] at heq
      obtain ⟨ch, p', rfl⟩ := List.exists_cons_of_ne_nil hp
      have hhead := List.append_cancel_left heq
      rw [List.cons_append] at hhead
      exact hpslash ((List.cons.inj hhead).1 ▸ List.mem_cons_self)
    have hnone := h _ hstored (List.prefix_append _ _) hother
    rw [shownName_append, shownRest, hname] at hnone
    by_contra hne
    rw [if_pos ⟨(htaken hd hpslash).mpr hq, fun hq' => hne ((getFileName_eq_iff hq).mp hq')⟩]
      at hnone
    exact absurd hnone (by simp)
  · rintro h c hc ⟨rest, rfl⟩ hother
    rw [shownName_append, shownRest]
    apply if_neg
    rintro ⟨hchild, hne⟩
    rcases hchild with ⟨rfl, hslash⟩ | ⟨hd, hslash, hafter⟩
    · refine hother rest hslash ?_
      rw [childColumn_eq, if_pos rfl]
    · obtain ⟨p, q, rfl, hp⟩ := List.eq_append_cons_of_mem hslash
      rw [after_append hp] at hafter
      have hpne : p ≠ [] := by
        rintro rfl
        refine hother q hafter ?_
        rw [childColumn_eq, if_neg hd, List.nil_append]
      rw [← hcolumn] at hc
      rw [hname] at hne
      exact hne ((getFileName_eq_iff hafter).mpr (h hd p q hpne hp hafter hc))

lemma names_iff {f : Str → Option Str} {d : Str} :
    (∀ x, '/' ∉ x → (f (childColumn d x)).isSome → shownName d (childColumn d x) = some x) ↔
    (∀ x, '/' ∉ x → (f (childColumn d x)).isSome → '\\' ∉ x ∧ x ≠ d) := by
  apply forall_congr'
  intro x
  apply forall_congr'
  intro hx
  apply forall_congr'
  intro _
  rw [shownName_child hx]
  constructor
  · intro h
    split at h
    · exact absurd h (by simp)
    · next hne =>
      have hfile := Option.some.inj h
      rw [hfile] at hne
      exact ⟨hfile ▸ (getFileName_plain x).2, hne⟩
  · rintro ⟨hback, hne⟩
    rw [getFileName_of_plain hx hback, if_neg hne]

/-- What the page shows of the columns that a LIST finds. -/
lemma listsChildren_iff (t : Table) (u d : Str) :
    ListsChildren (driveOf t u) d
        ((columnsFrom t u (contentPath d)).filterMap (shownName d)) ↔
      PlainFolder (driveOf t u) d := by
  have hmem : ∀ c, c ∈ columnsFrom t u (contentPath d) ↔
      (driveOf t u c).isSome ∧ contentPath d <+: c := mem_columnsFrom t u (contentPath d)
  have hchild : ∀ x, childColumn d x ∈ columnsFrom t u (contentPath d) ↔
      (driveOf t u (childColumn d x)).isSome := by
    intro x
    rw [hmem, childColumn_eq]
    simp
  have hname : ∀ c x, shownName d c = some x →
      '/' ∉ x ∧ shownName d (childColumn d x) = some x := fun _ _ => shownName_name
  have hiff := listing_iff (childColumn d) (fun x => '/' ∉ x)
    (columnsFrom_nodup t u (contentPath d)) hname
  simp only [hchild, hmem] at hiff
  constructor
  · intro h
    obtain ⟨hnames, hothers⟩ := hiff.mp ⟨h.once, h.children⟩
    exact ⟨names_iff.mp hnames, siblings_iff.mp (fun c hc hp => hothers c ⟨hc, hp⟩)⟩
  · intro h
    have hothers := siblings_iff.mpr h.siblings
    obtain ⟨honce, hchildren⟩ := hiff.mpr
      ⟨names_iff.mpr h.names, fun c hc => hothers c hc.1 hc.2⟩
    exact ⟨honce, hchildren⟩

section

variable {σ : Type} {S : StorageService σ} {e : σ} {u d : Str}

/-- The page is made from the columns that begin with the path of the folder. -/
lemma getDrive_run (he : S.valid e) (hu : CleanUser u) (hd : CleanName d) :
    ∃ e', (getDrive u d).run S.answer e =
      some (.drive u (listAnswer (columnsFrom (S.table e) u (contentPath d))) d, e') := by
  have hfolder : CleanName (contentPath d) := cleanName_contentPath hd
  have hline : NoCrlf ("LIST".toList ++ [' '] ++ (u ++ ',' :: contentPath d)) :=
    noCrlf_word (by decide) (hu.2.comma hfolder.noCrlf)
  have htext : "LIST ".toList ++ u ++ ",/content/".toList ++ d ++ "\r\n".toList =
      "LIST".toList ++ [' '] ++ (u ++ ',' :: contentPath d) ++ "\r\n".toList := by
    rw [contentPath_eq]
    simp
  obtain ⟨e', hanswer, -, -⟩ := S.answers (u := u) he hline
    (answerTo_list hu.1 hfolder.1 (contentPath_ne_nil d) (S.table e))
  refine ⟨e', ?_⟩
  unfold getDrive
  rw [run_bind, run_exchange, htext, hanswer]
  rfl

lemma driveFiles_columnsFrom {t : Table} (hrow : ∀ c v, driveOf t u c = some v → CleanName c)
    (hsize : (listAnswer (columnsFrom t u (contentPath d))).length < npos) :
    ∃ files, driveFiles (listAnswer (columnsFrom t u (contentPath d))) d = some files ∧
      (ListsChildren (driveOf t u) d (files.map Prod.fst) ↔ PlainFolder (driveOf t u) d) := by
  have hcolumns : ∀ c ∈ columnsFrom t u (contentPath d), contentPath d <+: c ∧ '\n' ∉ c := by
    intro c hc
    obtain ⟨hstored, hbegins⟩ := (mem_columnsFrom _ u _ c).mp hc
    obtain ⟨v, hv⟩ := Option.isSome_iff_exists.mp hstored
    exact ⟨hbegins, (hrow c v hv).2.1⟩
  obtain ⟨files, hfiles, hnames⟩ := driveFiles_listAnswer hcolumns hsize
  exact ⟨files, hfiles, hnames ▸ listsChildren_iff t u d⟩

/-- The page of a folder lists its entries, each once, and nothing else exactly if the
folder is plain. -/
theorem drive_page_iff (he : S.valid e) (hu : CleanUser u) (hd : CleanName d)
    (hrow : ∀ c v, driveOf (S.table e) u c = some v → CleanName c) :
    ∃ response e', (getDrive u d).run S.answer e = some (.drive u response d, e') ∧
      (response.length < npos → ∃ files, driveFiles response d = some files ∧
        (ListsChildren (driveOf (S.table e) u) d (files.map Prod.fst) ↔
          PlainFolder (driveOf (S.table e) u) d)) := by
  obtain ⟨e', hrun⟩ := getDrive_run he hu hd
  exact ⟨_, e', hrun, driveFiles_columnsFrom hrow⟩

end

theorem drive_page_annas : ∃ response e', (getDrive "anna".toList "a".toList).run
      (aloneService 0 (group1Address 2001)).answer (aloneWorld annasDrive) =
        some (.drive "anna".toList response "a".toList, e') ∧
    (response.length < npos → ∃ files, driveFiles response "a".toList = some files ∧
      (ListsChildren (driveOf annasDrive "anna".toList) "a".toList (files.map Prod.fst) ↔
        PlainFolder (driveOf annasDrive "anna".toList) "a".toList)) :=
  drive_page_iff (S := aloneService 0 (group1Address 2001)) (aloneWorld_alone _) (by decide)
    (by decide) annasDrive_clean.column

/-- A folder, and a file in the folder beside it whose name begins with the folder's. -/
def besideDrive : Table :=
  (((∅ : Table).set "anna".toList "/content/a".toList "dummyData".toList).set "anna".toList
    "/content/ab".toList "dummyData".toList).set "anna".toList "/content/ab/x.txt".toList
      "QQ==".toList

lemma besideDrive_clean : CleanCells (driveOf besideDrive "anna".toList) := by
  rw [besideDrive, driveOf_set, driveOf_set, driveOf_set, driveOf_empty]
  exact ((CleanCells.empty.update (by decide) (by decide)).update (by decide) (by decide)).update
    (by decide) (by decide)

/-- The page of the empty folder lists the file. -/
theorem beside_listed : ¬∀ (σ : Type) (S : StorageService σ) (e e' : σ) (u d response : Str)
    (files : List (Str × Bool)), S.valid e → CleanUser u → CleanName d →
      (∀ c v, driveOf (S.table e) u c = some v → CleanName c) →
      (getDrive u d).run S.answer e = some (.drive u response d, e') →
      driveFiles response d = some files →
      ListsChildren (driveOf (S.table e) u) d (files.map Prod.fst) := by
  intro h
  have hu : CleanUser "anna".toList := by decide
  have hd : CleanName "a".toList := by decide
  obtain ⟨e', hrun⟩ := getDrive_run (S := aloneService 0 (group1Address 2001))
    (aloneWorld_alone besideDrive) hu hd
  obtain ⟨files, hfiles, hiff⟩ := driveFiles_columnsFrom (d := "a".toList)
    besideDrive_clean.column (by decide +kernel)
  have hplain := hiff.mp (h World (aloneService 0 (group1Address 2001)) (aloneWorld besideDrive)
    e' "anna".toList "a".toList _ files (aloneWorld_alone _) hu hd besideDrive_clean.column hrun
    hfiles)
  obtain ⟨-, hname⟩ := hplain.siblings (by decide) "b".toList "x.txt".toList (by decide)
    (by decide) (by decide) (by decide +kernel)
  revert hname
  decide

end CloudStorage.Proofs
