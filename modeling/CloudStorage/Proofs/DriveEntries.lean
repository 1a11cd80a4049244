import CloudStorage.Proofs.FolderMove

/-!
# Deleting and renaming an entry

A DELETE erases every column that begins with the column of the entry, and a RENAME stores
the value at its new column before it erases the old one. Both do what they say as long as
two names are not mixed up: a sibling's that begins with the entry's, or the new name and
the old one.
-/

namespace CloudStorage.Proofs
open DelimitedText Dialogue

/-! ### Columns -/

/-- The column of an entry, or one below it. -/
def AtOrBelow (p c : Str) : Prop := c = p ∨ p ++ "/".toList <+: c

instance (p c : Str) : Decidable (AtOrBelow p c) := inferInstanceAs (Decidable (_ ∨ _))

lemma AtOrBelow.isPrefix {p c : Str} (h : AtOrBelow p c) : p <+: c := by
  cases h with
  | inl h =>
    rw [h]
  | inr h => exact (List.prefix_append p _).trans h

/-- The entry at `p` is gone with all that was below it, and nothing else has changed. -/
structure EntryDeleted (f f' : Str → Option Str) (p : Str) : Prop where
  gone : ∀ c, AtOrBelow p c → f' c = none
  others : ∀ c, ¬AtOrBelow p c → f' c = f c

theorem entryDeleted_removeAll_iff (f : Str → Option Str) (p : Str) :
    EntryDeleted f (removeAll p f) p ↔ ∀ c, (f c).isSome → p <+: c → AtOrBelow p c := by
  constructor
  · intro h c hc hp
    by_contra hbelow
    have hsame := h.others c hbelow
    rw [removeAll, if_pos hp] at hsame
    rw [← hsame] at hc
    exact absurd hc (by simp)
  · intro h
    constructor
    · intro c hbelow
      rw [removeAll, if_pos hbelow.isPrefix]
    · intro c hbelow
      unfold removeAll
      split
      · next hp =>
        cases hc : f c with
        | none => rfl
        | some v =>
          have hsome : (f c).isSome = true := by
            rw [hc]
            rfl
          exact absurd (h c hsome hp) hbelow
      · rfl

/-- The value is at the new column instead of the old one, and nothing else has changed. -/
structure EntryRenamed (f f' : Str → Option Str) (old new : Str) : Prop where
  arrived : f' new = f old
  removed : old ≠ new → f' old = none
  others : ∀ c, c ≠ old → c ≠ new → f' c = f c

theorem entryRenamed_moveValue_iff {f : Str → Option Str} {old new : Str}
    (hold : (f old).isSome) : EntryRenamed f (moveValue old new f) old new ↔ old ≠ new := by
  obtain ⟨v, hv⟩ := Option.isSome_iff_exists.mp hold
  constructor
  · rintro h rfl
    have harrived := h.arrived
    rw [moveValue, Function.update_self, hv] at harrived
    exact absurd harrived (by simp)
  · intro hne
    constructor
    · rw [moveValue, Function.update_of_ne hne.symm, Function.update_self, hv]
      rfl
    · intro _
      rw [moveValue, Function.update_self]
    · intro c ho hn
      rw [moveValue_of_ne hn, if_neg ho]

/-! ### Requests -/

lemma path_inj {t : Session} {name name' : Str} :
    contentPath (t.path name) = contentPath (t.path name') ↔ name = name' := by
  unfold contentPath Session.path
  split
  · simp
  · simp

section

variable {σ : Type} {S : StorageService σ} {b : Base64} {s t s' : Session} {r : Request}
  {page : Page} {e e' : σ}

/-- The row of the user after a DELETE. -/
lemma delete_row {name : Str} (he : S.valid e) (ht : s.received r = some t)
    (hcode : t.reply_code = .DELETE)
    (hname : parseQuery (cString r.content) "fileName".toList = name)
    (hne : r.content ≠ []) (hu : CleanUser t.username)
    (hf : CleanCells (driveOf (S.table e) t.username)) (hpath : CleanName (t.path name))
    (h : (s.request b r).run S.accepted e = some ((s', page), e')) :
    driveOf (S.table e') t.username =
      removeAll (contentPath (t.path name)) (driveOf (S.table e) t.username) := by
  have hchanges : ChangesDrive t.reply_code := by
    rw [hcode]
    unfold ChangesDrive
    decide
  have hfields : CleanName name → ∀ x ∈ fieldsOf t r.content, CleanName x := by
    intro hclean x hx
    unfold fieldsOf at hx
    rw [hcode] at hx
    rw [List.mem_singleton.mp hx, hname]
    exact hclean
  rw [drive_row he ht hchanges hne hu hf hpath hfields h]
  unfold driveAfter
  rw [hcode]
  dsimp only
  rw [hname]

/-- A DELETE removes its entry and what is below it exactly if no other stored column begins
with that of the entry. -/
theorem entry_deleted_iff {name : Str} (he : S.valid e) (ht : s.received r = some t)
    (hcode : t.reply_code = .DELETE)
    (hname : parseQuery (cString r.content) "fileName".toList = name)
    (hne : r.content ≠ []) (hu : CleanUser t.username)
    (hf : CleanCells (driveOf (S.table e) t.username)) (hpath : CleanName (t.path name))
    (h : (s.request b r).run S.accepted e = some ((s', page), e')) :
    EntryDeleted (driveOf (S.table e) t.username) (driveOf (S.table e') t.username)
        (contentPath (t.path name)) ↔
      ∀ c, (driveOf (S.table e) t.username c).isSome → contentPath (t.path name) <+: c →
        AtOrBelow (contentPath (t.path name)) c := by
  rw [delete_row he ht hcode hname hne hu hf hpath h]
  exact entryDeleted_removeAll_iff _ _

/-- The row of the user after a RENAME. -/
lemma rename_row {old new : Str} (he : S.valid e) (ht : s.received r = some t)
    (hcode : t.reply_code = .RENAME)
    (hold : parseQuery (cString r.content) "fileName".toList = old)
    (hnew : parseQuery (cString r.content) "newName".toList = new)
    (hne : r.content ≠ []) (hu : CleanUser t.username)
    (hf : CleanCells (driveOf (S.table e) t.username)) (hpath : CleanName (t.path old))
    (hclean : CleanName new)
    (h : (s.request b r).run S.accepted e = some ((s', page), e')) :
    driveOf (S.table e') t.username =
      moveValue (contentPath (t.path old)) (contentPath (t.path new))
        (driveOf (S.table e) t.username) := by
  have hchanges : ChangesDrive t.reply_code := by
    rw [hcode]
    unfold ChangesDrive
    decide
  have hfields : CleanName old → ∀ x ∈ fieldsOf t r.content, CleanName x := by
    intro hname x hx
    unfold fieldsOf at hx
    rw [hcode] at hx
    rcases List.mem_pair.mp hx with rfl | rfl
    · rw [hold]
      exact hname
    · rw [hnew]
      exact hclean
  rw [drive_row he ht hchanges hne hu hf hpath hfields h]
  unfold driveAfter
  rw [hcode]
  dsimp only
  rw [hold, hnew]

/-- A RENAME of an entry that is there keeps its value exactly if the name is a new one. -/
theorem entry_renamed_iff {old new : Str} (he : S.valid e) (ht : s.received r = some t)
    (hcode : t.reply_code = .RENAME)
    (hold : parseQuery (cString r.content) "fileName".toList = old)
    (hnew : parseQuery (cString r.content) "newName".toList = new)
    (hne : r.content ≠ []) (hu : CleanUser t.username)
    (hf : CleanCells (driveOf (S.table e) t.username))
    (hfile : (driveOf (S.table e) t.username (contentPath (t.path old))).isSome)
    (hclean : CleanName new)
    (h : (s.request b r).run S.accepted e = some ((s', page), e')) :
    EntryRenamed (driveOf (S.table e) t.username) (driveOf (S.table e') t.username)
        (contentPath (t.path old)) (contentPath (t.path new)) ↔ new ≠ old := by
  obtain ⟨v, hv⟩ := Option.isSome_iff_exists.mp hfile
  have hpath : CleanName (t.path old) := (cleanName_append.mp (hf.column _ v hv)).2
  rw [rename_row he ht hcode hold hnew hne hu hf hpath hclean h,
    entryRenamed_moveValue_iff hfile, Ne, path_inj]
  exact ne_comm

end

/-! ### Anna's entries -/

def deleteRequest : Request :=
  formRequest "/delete HTTP/1.1".toList "fileName=a".toList (by decide)

lemma deleteRequest_received : annasTab.received deleteRequest =
    some { annasTab with reply_code := .DELETE } := by rfl

theorem entry_deleted_folder : ∃ s' page e', (annasTab.request base64 deleteRequest).run
      (aloneService 0 (group1Address 2001)).accepted (aloneWorld annasDrive) =
        some ((s', page), e') ∧
    (EntryDeleted (driveOf annasDrive "anna".toList)
        (driveOf (e'.server (group1Address 2001)).table "anna".toList)
        (contentPath "a".toList) ↔
      ∀ c, (driveOf annasDrive "anna".toList c).isSome → contentPath "a".toList <+: c →
        AtOrBelow (contentPath "a".toList) c) := by
  have hrun : ((annasTab.request base64 deleteRequest).run
      (aloneService 0 (group1Address 2001)).accepted (aloneWorld annasDrive)).isSome = true := by
    decide +kernel
  obtain ⟨s', page, e', h⟩ := alone_request_runs hrun
  exact ⟨s', page, e', h, entry_deleted_iff (aloneWorld_alone _) deleteRequest_received rfl
    (by decide +kernel : parseQuery (cString deleteRequest.content) "fileName".toList =
      "a".toList) (by decide) (by decide) annasDrive_clean (by decide) h⟩

/-- A folder, and a file beside it whose name begins with the folder's. -/
def siblingDrive : Table :=
  ((∅ : Table).set "anna".toList "/content/a".toList "dummyData".toList).set "anna".toList
    "/content/ab".toList "QQ==".toList

lemma siblingDrive_clean : CleanCells (driveOf siblingDrive "anna".toList) := by
  rw [siblingDrive, driveOf_set, driveOf_set, driveOf_empty]
  exact (CleanCells.empty.update (by decide) (by decide)).update (by decide) (by decide)

/-- The file beside the folder is deleted as well. -/
theorem sibling_deleted : ¬∀ (b : Base64) (σ : Type) (S : StorageService σ)
    (s t s' : Session) (r : Request) (page : Page) (e e' : σ) (name : Str), S.valid e →
      s.received r = some t → t.reply_code = .DELETE →
      parseQuery (cString r.content) "fileName".toList = name → r.content ≠ [] →
      CleanUser t.username → CleanCells (driveOf (S.table e) t.username) →
      CleanName (t.path name) →
      (s.request b r).run S.accepted e = some ((s', page), e') →
      EntryDeleted (driveOf (S.table e) t.username) (driveOf (S.table e') t.username)
        (contentPath (t.path name)) := by
  intro h
  have hrun : ((annasTab.request base64 deleteRequest).run
      (aloneService 0 (group1Address 2001)).accepted (aloneWorld siblingDrive)).isSome = true := by
    decide +kernel
  have hname : parseQuery (cString deleteRequest.content) "fileName".toList = "a".toList := by
    decide +kernel
  obtain ⟨s', page, e', hrun⟩ := alone_request_runs hrun
  have hdeleted := h base64 World (aloneService 0 (group1Address 2001)) annasTab _ s'
    deleteRequest page (aloneWorld siblingDrive) e' "a".toList (aloneWorld_alone _)
    deleteRequest_received rfl hname (by decide) (by decide) siblingDrive_clean (by decide) hrun
  have hrow := delete_row (S := aloneService 0 (group1Address 2001)) (aloneWorld_alone _)
    deleteRequest_received rfl hname (by decide) (by decide) siblingDrive_clean (by decide) hrun
  rw [hrow] at hdeleted
  have hfile : (driveOf siblingDrive "anna".toList "/content/ab".toList).isSome = true := by
    decide +kernel
  have hbelow := (entryDeleted_removeAll_iff (driveOf siblingDrive "anna".toList) _).mp hdeleted
    "/content/ab".toList hfile
    (by decide : contentPath "a".toList <+: "/content/ab".toList)
  exact absurd hbelow (by decide : ¬AtOrBelow (contentPath "a".toList) "/content/ab".toList)

lemma annasDrive_folder :
    (driveOf annasDrive "anna".toList (contentPath "a".toList)).isSome = true := by
  decide +kernel

theorem entry_renamed_folder : ∃ s' page e', (annasTab.request base64 renameRequest).run
      (aloneService 0 (group1Address 2001)).accepted (aloneWorld annasDrive) =
        some ((s', page), e') ∧
    (EntryRenamed (driveOf annasDrive "anna".toList)
        (driveOf (e'.server (group1Address 2001)).table "anna".toList)
        (contentPath "a".toList) (contentPath "b".toList) ↔ "b".toList ≠ "a".toList) := by
  obtain ⟨s', page, e', h⟩ := renameRequest_runs
  exact ⟨s', page, e', h, entry_renamed_iff (aloneWorld_alone _) renameRequest_received rfl
    (by decide +kernel : parseQuery (cString renameRequest.content) "fileName".toList =
      "a".toList)
    (by decide +kernel : parseQuery (cString renameRequest.content) "newName".toList =
      "b".toList) (by decide) (by decide) annasDrive_clean annasDrive_folder (by decide) h⟩

def sameNameRequest : Request :=
  formRequest "/rename HTTP/1.1".toList "fileName=a&newName=a".toList rename_line

/-- An entry that is given its own name is lost. -/
theorem renamed_to_itself_lost : ¬∀ (b : Base64) (σ : Type) (S : StorageService σ)
    (s t s' : Session) (r : Request) (page : Page) (e e' : σ) (old new : Str), S.valid e →
      s.received r = some t → t.reply_code = .RENAME →
      parseQuery (cString r.content) "fileName".toList = old →
      parseQuery (cString r.content) "newName".toList = new → r.content ≠ [] →
      CleanUser t.username → CleanCells (driveOf (S.table e) t.username) →
      (driveOf (S.table e) t.username (contentPath (t.path old))).isSome → CleanName new →
      (s.request b r).run S.accepted e = some ((s', page), e') →
      EntryRenamed (driveOf (S.table e) t.username) (driveOf (S.table e') t.username)
        (contentPath (t.path old)) (contentPath (t.path new)) := by
  intro h
  have hrun : ((annasTab.request base64 sameNameRequest).run
      (aloneService 0 (group1Address 2001)).accepted (aloneWorld annasDrive)).isSome = true := by
    decide +kernel
  have hold : parseQuery (cString sameNameRequest.content) "fileName".toList = "a".toList := by
    decide +kernel
  have hnew : parseQuery (cString sameNameRequest.content) "newName".toList = "a".toList := by
    decide +kernel
  have hreceived : annasTab.received sameNameRequest =
      some { annasTab with reply_code := .RENAME } := by rfl
  obtain ⟨s', page, e', hrun⟩ := alone_request_runs hrun
  have hrenamed := h base64 World (aloneService 0 (group1Address 2001)) annasTab _ s'
    sameNameRequest page (aloneWorld annasDrive) e' "a".toList "a".toList (aloneWorld_alone _)
    hreceived rfl hold hnew (by decide) (by decide) annasDrive_clean annasDrive_folder
    (by decide) hrun
  have hrow := rename_row (S := aloneService 0 (group1Address 2001)) (aloneWorld_alone _)
    hreceived rfl hold hnew (by decide) (by decide) annasDrive_clean (by decide) (by decide) hrun
  rw [hrow] at hrenamed
  exact (entryRenamed_moveValue_iff annasDrive_folder).mp hrenamed rfl

end CloudStorage.Proofs
