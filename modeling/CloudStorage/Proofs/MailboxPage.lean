import CloudStorage.Pages
import CloudStorage.Proofs.Drive
import CloudStorage.Proofs.Substrings

/-!
# The mailbox page

Each entry of the mailbox is made from a line of the reply to a LIST, with positions of
characters that need not be there. This file shows that the entries are those of the stored
mails, and that each one names the column of its mail.
-/

namespace CloudStorage.Proofs
open DelimitedText Positions

/-- The line holds no comma, so the identifier is cut out behind a position that wraps to
the second character. -/
lemma emailOfLine_id {line : Str} (hstart : "/emails/".toList <+: line) (hc : ',' ∉ line)
    (hsize : line.length < npos) (u : Str) :
    ∃ e, emailOfLine u line = some e ∧ e.id = u ++ ',' :: line := by
  obtain ⟨name, rfl⟩ := hstart
  set line := "/emails/".toList ++ name with hline
  have hlen : 8 ≤ line.length := by
    rw [hline, List.length_append]
    exact Nat.le_add_right 8 _
  have hnone : position (find ',' (add (position (find '/' 8 line)) 1) line) = npos := by
    rw [find_eq_none hc]
    rfl
  have hsecond : add npos 2 = 1 := by decide
  have hrest : sub (sub line.length npos) 2 = line.length - 1 := by
    have hlast := npos_add_one
    rw [sub_npos hsize, sub_of_le (by omega) (by omega)]
    omega
  have hslice : slice 1 (line.length - 1) line = some ("emails/".toList ++ name) :=
    slice_rest (by omega) (by omega)
  obtain ⟨sender, hsender⟩ : ∃ sender,
      slice 8 (sub (position (find '/' 8 line)) 8) line = some sender :=
    ⟨_, slice_of_le hlen _⟩
  obtain ⟨epochTime, htime⟩ : ∃ epochTime, slice (add (position (find '/' 8 line)) 1)
      (sub (sub npos (position (find '/' 8 line))) 1) line = some epochTime :=
    ⟨_, slice_of_le (add_position_le hsize 8) _⟩
  refine ⟨⟨sender, epochTime, u ++ ",/".toList ++ ("emails/".toList ++ name)⟩, ?_, ?_⟩
  · unfold emailOfLine
    dsimp only
    rw [hnone, hsecond, hrest, hsender, htime, hslice]
    rfl
  · rw [hline]
    simp

/-- Lines that do not begin with `/emails/` are left out. -/
lemma emailsOfLines_eq {lines : List Str} (hc : ∀ l ∈ lines, ',' ∉ l)
    (hsize : ∀ l ∈ lines, l.length < npos) (u : Str) :
    ∃ emails, emailsOfLines u lines = some emails ∧
      emails.map Email.id =
        (lines.filter (fun l => "/emails/".toList.isPrefixOf l)).map (fun l => u ++ ',' :: l) := by
  induction lines with
  | nil => exact ⟨[], rfl, rfl⟩
  | cons line lines ih =>
    obtain ⟨emails, hemails, hids⟩ := ih (fun l hl => hc l (List.mem_cons_of_mem line hl))
      (fun l hl => hsize l (List.mem_cons_of_mem line hl))
    unfold emailsOfLines
    by_cases hstart : "/emails/".toList <+: line
    · have hne : line ≠ [] := by
        rintro rfl
        exact absurd hstart (by decide)
      have htake : line.take 8 = "/emails/".toList := (List.prefix_iff_eq_take.mp hstart).symm
      obtain ⟨e, he, hid⟩ := emailOfLine_id hstart (hc line List.mem_cons_self)
        (hsize line List.mem_cons_self) u
      refine ⟨e :: emails, ?_, ?_⟩
      · rw [if_neg hne, if_neg (not_not.mpr htake), he, hemails]
        rfl
      · rw [List.filter_cons_of_pos (List.isPrefixOf_iff_prefix.mpr hstart), List.map_cons,
          List.map_cons, hid, hids]
    · have htake : line.take 8 ≠ "/emails/".toList := fun h =>
        hstart (List.prefix_iff_eq_take.mpr h.symm)
      refine ⟨emails, ?_, ?_⟩
      · rw [if_pos htake, hemails, ite_self]
      · rw [List.filter_cons_of_neg (fun h => hstart (List.isPrefixOf_iff_prefix.mp h)), hids]

/-- The mailbox has one entry for each stored mail and no other one, in the order of the
reply, and each entry names the column of its mail. -/
theorem mailbox_entries (t : Table) (u reply : Str) (hu : ',' ∉ u)
    (hrow : ∀ c v, t.get u c = some v → CleanName c)
    (hreply : answerTo (splitKVStoreCommand ("LIST ".toList ++ u ++ ",/emails".toList)) t =
      some (reply, t)) (hsize : reply.length < npos) :
    ∃ columns : List Str, columns.Sublist (getlines '\n' reply) ∧ columns.Nodup ∧
      (∀ c, c ∈ columns ↔ (t.get u c).isSome ∧ "/emails/".toList <+: c) ∧
      ∃ emails, extractEmails u reply = some emails ∧
        emails.map Email.id = columns.map (fun c => u ++ ",".toList ++ c) := by
  have hcommand : "LIST ".toList ++ u ++ ",/emails".toList =
      "LIST".toList ++ [' '] ++ (u ++ ',' :: "/emails".toList) := by
    simp
  rw [hcommand, answerTo_list hu (by decide) (by decide)] at hreply
  obtain rfl := (Prod.mk.inj (Option.some.inj hreply)).1
  set columns := columnsFrom t u "/emails".toList with hcolumns
  have hclean : ∀ c ∈ columns, CleanName c := by
    intro c hc
    obtain ⟨v, hv⟩ := Option.isSome_iff_exists.mp ((mem_columnsFrom t u _ c).mp hc).1
    exact hrow c v hv
  obtain ⟨z, hz, hlines⟩ := lines_listAnswer (fun c hc => (hclean c hc).2.1)
  -- the line behind the columns is passed over
  have hzlast : ',' ∉ z ∧ ¬"/emails/".toList.isPrefixOf z := by
    rcases List.mem_pair.mp hz with rfl | rfl
    · decide
    · decide
  have hlength : ∀ l ∈ getlines '\n' (listAnswer columns), l.length < npos := fun l hl =>
    Nat.lt_of_le_of_lt (infix_of_mem_getlines hl).length_le hsize
  have hcomma : ∀ l ∈ columns ++ [z], ',' ∉ l := by
    intro l hl
    rcases List.mem_append.mp hl with hl | hl
    · exact (hclean l hl).1
    · rw [List.mem_singleton.mp hl]
      exact hzlast.1
  obtain ⟨emails, hemails, hids⟩ := emailsOfLines_eq hcomma (hlines ▸ hlength) u
  refine ⟨columns.filter (fun c => "/emails/".toList.isPrefixOf c), ?_, ?_, ?_, emails, ?_, ?_⟩
  · rw [hlines]
    exact List.filter_sublist.trans (List.sublist_append_left columns [z])
  · exact (columnsFrom_nodup t u _).filter _
  · intro c
    have hfolder : "/emails".toList <+: "/emails/".toList := ⟨"/".toList, rfl⟩
    have hcell : cellsOf t (u, c) = t.get u c := rfl
    rw [List.mem_filter, hcolumns, mem_columnsFrom, List.isPrefixOf_iff_prefix, hcell]
    exact ⟨fun h => ⟨h.1.1, h.2⟩, fun h => ⟨⟨h.1, hfolder.trans h.2⟩, h.2⟩⟩
  · rw [extractEmails, hlines, hemails]
  · rw [hids, List.filter_append, List.filter_cons_of_neg hzlast.2, List.filter_nil,
      List.append_nil]
    simp

/-- A file, and two mails of which one has no second slash. -/
def annasMails : Table :=
  (((∅ : Table).set "anna".toList "/content/a.txt".toList "QQ==".toList).set "anna".toList
    "/emails/bob".toList "QQ==".toList).set "anna".toList "/emails/carl/17".toList "QQ==".toList

lemma annasMails_clean : CleanCells (driveOf annasMails "anna".toList) := by
  rw [annasMails, driveOf_set, driveOf_set, driveOf_set, driveOf_empty]
  exact ((CleanCells.empty.update (by decide) (by decide)).update (by decide) (by decide)).update
    (by decide) (by decide)

theorem mailbox_entries_anna : ∃ columns : List Str,
    columns.Sublist (getlines '\n'
      "/emails/carl/17\n/emails/bob\n\r\n".toList) ∧ columns.Nodup ∧
    (∀ c, c ∈ columns ↔
      (annasMails.get "anna".toList c).isSome ∧ "/emails/".toList <+: c) ∧
    ∃ emails, extractEmails "anna".toList
        "/emails/carl/17\n/emails/bob\n\r\n".toList = some emails ∧
      emails.map Email.id = columns.map (fun c => "anna".toList ++ ",".toList ++ c) :=
  mailbox_entries annasMails "anna".toList _ (by decide) annasMails_clean.column rfl
    (by decide)

end CloudStorage.Proofs
