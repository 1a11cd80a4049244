import CloudStorage.Proofs.Substrings
import CloudStorage.RelayDelivery
import Mathlib.Data.List.TakeWhile

/-!
# The text of the relay queue

The queue file is read line by line, and a line that looks like the first line of a mail is
taken for one. This file proves which mails survive being written and read, and when a run of
`smtpec` leaves exactly the mails that it has not sent.
-/

namespace CloudStorage.Proofs
open DelimitedText

/-! ### Plain mails -/

/-- A line of a content that reads as itself. -/
structure PlainLine (line : Str) : Prop where
  oneLine : '\n' ∉ line
  noNul : '\x00' ∉ line
  short : line.length < 4096
  noFrom : contains emailStart line = false
  noTo : contains toStart line = false

/-- The content is made of complete lines. -/
def PlainContent (content : Str) : Prop :=
  ∃ lines : List Str, content = terminated '\n' lines ∧ ∀ line ∈ lines, PlainLine line

structure PlainMail (email : EmailInfo) : Prop where
  sender : '\n' ∉ email.senderEmail
  recipient : '\n' ∉ email.recipient
  noFrom : contains emailStart email.recipient = false
  content : PlainContent email.content

lemma plainContent_nil : PlainContent [] := ⟨[], rfl, by simp⟩

lemma PlainContent.line {content line : Str} (h : PlainContent content) (hl : PlainLine line) :
    PlainContent (content ++ line ++ "\n".toList) := by
  obtain ⟨lines, rfl, hlines⟩ := h
  refine ⟨lines ++ [line], ?_, ?_⟩
  · rw [terminated_append, List.append_assoc]
    congr 1
    simp [terminated]
  · intro x hx
    rcases List.mem_append.mp hx with hx | hx
    · exact hlines x hx
    · rw [List.mem_singleton.mp hx]
      exact hl

/-! ### What is read is plain -/

/-- All that the loop has read so far is plain. -/
structure PlainParse (p : Parse) : Prop where
  emails : ∀ email ∈ p.emails, PlainMail email
  current : PlainMail ⟨p.senderEmail, p.recipient, p.content⟩

lemma PlainParse.saved {p : Parse} (h : PlainParse p) : ∀ email ∈ p.saved, PlainMail email := by
  intro email he
  unfold Parse.saved at he
  split at he
  · rcases List.mem_append.mp he with he | he
    · exact h.emails email he
    · rw [List.mem_singleton.mp he]
      exact h.current
  · exact h.emails email he

lemma bracketed_within (start line : Str) : bracketed start line <:+: line := by
  unfold bracketed
  dsimp only
  split
  · split
    · exact (List.drop_suffix _ _).isInfix
    · exact (List.take_prefix _ _).isInfix.trans (List.drop_suffix _ _).isInfix
  · exact (List.drop_suffix _ _).isInfix

lemma cString_start (s : Str) : cString s <+: s := List.takeWhile_prefix _

lemma PlainParse.line {p : Parse} (h : PlainParse p) {line : Str} (hline : '\n' ∉ line)
    (hshort : line.length < 4096) : PlainParse (p.line line) := by
  have hseen : '\n' ∉ cString line := fun hm => hline ((cString_start line).subset hm)
  have hfield (start : Str) : '\n' ∉ bracketed start (cString line) :=
    fun hm => hseen ((bracketed_within start _).subset hm)
  unfold Parse.line
  dsimp only
  split
  · next hfrom =>
    refine ⟨h.saved, hfield _, h.current.recipient, h.current.noFrom, ?_⟩
    dsimp only
    split
    · exact plainContent_nil
    · exact h.current.content
  next hfrom =>
  split
  · next hto =>
    exact ⟨h.emails, h.current.sender, hfield _,
      not_contains_of_infix (Bool.not_eq_true _ ▸ hfrom) (bracketed_within _ _), h.current.content⟩
  next hto =>
  split
  · have hplain : PlainLine (cString line) := by
      refine ⟨hseen, not_mem_cString line, ?_, Bool.not_eq_true _ ▸ hfrom,
        Bool.not_eq_true _ ▸ hto⟩
      exact Nat.lt_of_le_of_lt (cString_start line).length_le hshort
    exact ⟨h.emails, h.current.sender, h.current.recipient, h.current.noFrom,
      h.current.content.line hplain⟩
  · exact h

lemma PlainParse.lines {p : Parse} (h : PlainParse p) {lines : List Str}
    (hlines : ∀ line ∈ lines, '\n' ∉ line ∧ line.length < 4096) :
    PlainParse (lines.foldl Parse.line p) := by
  induction lines generalizing p with
  | nil => exact h
  | cons line lines ih =>
    have hline := hlines line List.mem_cons_self
    exact ih (h.line hline.1 hline.2) (fun l hl => hlines l (List.mem_cons_of_mem line hl))

/-- Whatever the file holds, the mails that are read from it are plain. -/
theorem buildEmailInfo_plain (file : Str) : ∀ email ∈ buildEmailInfo file, PlainMail email := by
  have hempty : PlainParse {} :=
    ⟨by simp, by simp, by simp, by decide, plainContent_nil⟩
  refine (hempty.lines (fun line hline => ?_)).saved
  have hmem := (List.takeWhile_prefix _).subset hline
  have hshort := List.all_eq_true.mp
    (List.all_takeWhile (p := fun line : Str => decide (line.length < 4096))) line hline
  exact ⟨delim_not_mem_of_mem_getlines hmem, of_decide_eq_true hshort⟩

/-! ### Plain mails are read as they were written -/

/-- What an address is like that the mail server accepts. -/
structure AddressText (s : Str) : Prop where
  noEnd : '>' ∉ s
  noNul : '\x00' ∉ s
  short : s.length ≤ 1001

/-- The lines of a mail, with what stands in front of the line end in the first two. -/
def entryLines (eol : Str) (email : EmailInfo) (lines : List Str) : List Str :=
  (emailStart ++ email.senderEmail ++ '>' :: eol) ::
    (toStart ++ email.recipient ++ '>' :: eol) :: lines

lemma find_sep {ch : Char} {s : Str} (h : ch ∉ s) (t : Str) :
    find ch 0 (s ++ ch :: t) = some s.length := by
  have hmem : ch ∈ s ++ ch :: t := List.mem_append_right _ List.mem_cons_self
  rw [find, List.drop_zero, if_pos hmem, List.idxOf_append_of_notMem h, List.idxOf_cons_self]
  simp

lemma bracketed_header {start s : Str} (hne : start ≠ []) (hstart : '>' ∉ start)
    (hs : '>' ∉ s) (eol : Str) : bracketed start (start ++ s ++ '>' :: eol) = s := by
  have hno : '>' ∉ start ++ s := fun h => (List.mem_append.mp h).elim hstart hs
  have hfind : findStr start (start ++ s ++ '>' :: eol) = some 0 := by
    rw [List.append_assoc]
    exact findStr_start hne _
  unfold bracketed
  dsimp only
  rw [find_sep hno, hfind]
  dsimp only
  rw [Option.getD_some, Nat.zero_add, List.length_append, if_neg (by omega), List.append_assoc,
    List.drop_left, Nat.add_sub_cancel_left, List.take_left]

lemma header_noNul {start s eol : Str} (hstart : '\x00' ∉ start) (hs : '\x00' ∉ s)
    (heol : '\x00' ∉ eol) : cString (start ++ s ++ '>' :: eol) = start ++ s ++ '>' :: eol := by
  apply cString_of_not_mem
  simp only [List.mem_append, List.mem_cons, not_or]
  exact ⟨⟨hstart, hs⟩, by decide, heol⟩

lemma line_from (p : Parse) {s eol : Str} (hs : AddressText s) (heol : '\x00' ∉ eol) :
    p.line (emailStart ++ s ++ '>' :: eol) =
      { p with
        emails := p.saved
        content := if p.inEmail then [] else p.content
        inEmail := true
        senderEmail := s } := by
  have hcontains : contains emailStart (emailStart ++ s ++ '>' :: eol) = true := by
    rw [contains_iff, List.append_assoc]
    exact (List.prefix_append _ _).isInfix
  unfold Parse.line
  rw [header_noNul (by decide) hs.noNul heol]
  dsimp only
  rw [if_pos hcontains, bracketed_header (by decide) (by decide) hs.noEnd]

lemma contains_from_to {s : Str} (h : contains emailStart s = false) {eol : Str}
    (heol : contains emailStart eol = false) :
    contains emailStart (toStart ++ s ++ '>' :: eol) = false := by
  rw [contains_sep (by decide) (by decide), heol, Bool.or_false]
  exact h

lemma line_to (p : Parse) {s eol : Str} (hs : AddressText s)
    (hfrom : contains emailStart s = false) (heol : '\x00' ∉ eol)
    (heol' : contains emailStart eol = false) :
    p.line (toStart ++ s ++ '>' :: eol) = { p with recipient := s } := by
  have hcontains : contains toStart (toStart ++ s ++ '>' :: eol) = true := by
    rw [contains_iff, List.append_assoc]
    exact (List.prefix_append _ _).isInfix
  have hno := contains_from_to hfrom heol'
  unfold Parse.line
  rw [header_noNul (by decide) hs.noNul heol]
  dsimp only
  rw [if_neg (Bool.not_eq_true _ ▸ hno), if_pos hcontains,
    bracketed_header (by decide) (by decide) hs.noEnd]

lemma lines_content {p : Parse} (hp : p.inEmail = true) {lines : List Str}
    (hlines : ∀ line ∈ lines, PlainLine line) :
    lines.foldl Parse.line p = { p with content := p.content ++ terminated '\n' lines } := by
  induction lines generalizing p with
  | nil => simp [terminated]
  | cons line lines ih =>
    have hline := hlines line List.mem_cons_self
    have hstep : p.line line = { p with content := p.content ++ line ++ "\n".toList } := by
      unfold Parse.line
      rw [cString_of_not_mem hline.noNul]
      dsimp only
      rw [if_neg (Bool.not_eq_true _ ▸ hline.noFrom), if_neg (Bool.not_eq_true _ ▸ hline.noTo),
        if_pos hp]
    rw [List.foldl_cons, hstep, ih (by exact hp)
      (fun l hl => hlines l (List.mem_cons_of_mem line hl))]
    simp [terminated]

/-- The mail `email` with the lines of its content. -/
structure PlainEntry (email : EmailInfo) (lines : List Str) : Prop where
  sender : AddressText email.senderEmail
  recipient : AddressText email.recipient
  plain : PlainMail email
  content : email.content = terminated '\n' lines
  lines : ∀ line ∈ lines, PlainLine line

/-- What may stand in front of the line ends of a header. -/
def HeaderEnd (eol : Str) : Prop := eol = [] ∨ eol = ['\r']

lemma lines_entry {email : EmailInfo} {lines : List Str} (h : PlainEntry email lines) {eol : Str}
    (heol : HeaderEnd eol) {p : Parse} (hp : p.inEmail = true ∨ p.content = []) :
    (entryLines eol email lines).foldl Parse.line p =
      ⟨p.saved, true, email.senderEmail, email.recipient, email.content⟩ := by
  have hnul : '\x00' ∉ eol := by
    rcases heol with rfl | rfl <;> decide
  have hno : contains emailStart eol = false := by
    rcases heol with rfl | rfl <;> decide
  have hempty : (if p.inEmail = true then [] else p.content) = [] := by
    rcases hp with hp | hp
    · rw [if_pos hp]
    · rw [hp, ite_self]
  rw [entryLines, List.foldl_cons, List.foldl_cons, line_from p h.sender hnul,
    line_to _ h.recipient h.plain.noFrom hnul hno, lines_content rfl h.lines, hempty, h.content]
  rfl

lemma lines_entries {eol : Str} (heol : HeaderEnd eol) {emails : List EmailInfo}
    {linesOf : EmailInfo → List Str} (h : ∀ email ∈ emails, PlainEntry email (linesOf email))
    {p : Parse} (hp : p.inEmail = true ∨ p.content = []) :
    ((emails.flatMap (fun email => entryLines eol email (linesOf email))).foldl Parse.line
      p).saved = p.saved ++ emails := by
  induction emails generalizing p with
  | nil => rw [List.flatMap_nil, List.foldl_nil, List.append_nil]
  | cons email emails ih =>
    rw [List.flatMap_cons, List.foldl_append, lines_entry (h email List.mem_cons_self) heol hp,
      ih (fun x hx => h x (List.mem_cons_of_mem email hx)) (Or.inl rfl)]
    simp [Parse.saved]

lemma entryLines_oneLine {email : EmailInfo} {lines : List Str} (h : PlainEntry email lines)
    {eol : Str} (heol : HeaderEnd eol) :
    ∀ line ∈ entryLines eol email lines, '\n' ∉ line ∧ line.length < 4096 := by
  have hend : '\n' ∉ eol ∧ eol.length ≤ 1 := by
    rcases heol with rfl | rfl <;> decide
  have hheader {start s : Str} (hstart : '\n' ∉ start ∧ start.length ≤ 6) (hs : '\n' ∉ s)
      (hlen : s.length ≤ 1001) :
      '\n' ∉ start ++ s ++ '>' :: eol ∧ (start ++ s ++ '>' :: eol).length < 4096 := by
    constructor
    · simp only [List.mem_append, List.mem_cons, not_or]
      exact ⟨⟨hstart.1, hs⟩, by decide, hend.1⟩
    · simp only [List.length_append, List.length_cons]
      omega
  intro line hline
  rcases List.mem_cons.mp hline with rfl | hline
  · exact hheader (by decide) h.plain.sender h.sender.short
  rcases List.mem_cons.mp hline with rfl | hline
  · exact hheader (by decide) h.plain.recipient h.recipient.short
  · exact ⟨(h.lines line hline).oneLine, (h.lines line hline).short⟩

/-- A file of plain mails reads as these mails. -/
theorem buildEmailInfo_entries {eol : Str} (heol : HeaderEnd eol) {emails : List EmailInfo}
    {linesOf : EmailInfo → List Str} (h : ∀ email ∈ emails, PlainEntry email (linesOf email)) :
    buildEmailInfo (terminated '\n'
      (emails.flatMap (fun email => entryLines eol email (linesOf email)))) = emails := by
  have hlines : ∀ line ∈ emails.flatMap (fun email => entryLines eol email (linesOf email)),
      '\n' ∉ line ∧ line.length < 4096 := by
    intro line hline
    obtain ⟨email, he, hline⟩ := List.mem_flatMap.mp hline
    exact entryLines_oneLine (h email he) heol line hline
  unfold buildEmailInfo
  rw [getlines_terminated (fun line hl => (hlines line hl).1),
    List.takeWhile_eq_self_iff.mpr (fun line hl => decide_eq_true (hlines line hl).2),
    lines_entries heol h (Or.inr rfl)]
  rfl

/-! ### Appended mails -/

/-- An address that a handler of the mail server takes from its buffer. -/
def AcceptedAddress (s : Str) : Prop :=
  ∃ buffer : Str, buffer.length ≤ 1001 ∧ addressIn (cString buffer) = some s

lemma addressText_of_accepted {s : Str} (h : AcceptedAddress s) : AddressText s := by
  obtain ⟨buffer, hlen, haddress⟩ := h
  unfold addressIn at haddress
  split at haddress
  · cases haddress
    have hwithin : before '>' (after '<' (cString buffer)) <:+: cString buffer :=
      (List.takeWhile_prefix _).isInfix.trans (List.drop_suffix _ _).isInfix
    have hlength := hwithin.length_le
    have hbuffer := length_cString_le buffer
    refine ⟨fun hm => ?_, fun hm => not_mem_cString buffer (hwithin.subset hm), by omega⟩
    have hne := List.mem_takeWhile_imp hm
    simp at hne
  · exact absurd haddress (by simp)

lemma terminated_lines {content : Str} (h : PlainContent content) :
    content = terminated '\n' (getlines '\n' content) ∧
      ∀ line ∈ getlines '\n' content, PlainLine line := by
  obtain ⟨lines, rfl, hlines⟩ := h
  rw [getlines_terminated (fun line hl => (hlines line hl).oneLine)]
  exact ⟨rfl, hlines⟩

lemma noNul_of_plainContent {content : Str} (h : PlainContent content) : '\x00' ∉ content := by
  obtain ⟨lines, rfl, hlines⟩ := h
  intro hm
  obtain ⟨line, hline, hm⟩ := List.mem_flatMap.mp hm
  rcases List.mem_append.mp hm with hm | hm
  · exact (hlines line hline).noNul hm
  · exact absurd (List.mem_singleton.mp hm) (by decide)

lemma plainEntry_of_accepted {emails : List EmailInfo}
    (h : ∀ email ∈ emails, AcceptedAddress email.senderEmail ∧ AcceptedAddress email.recipient)
    (hplain : ∀ email ∈ emails, PlainMail email) :
    ∀ email ∈ emails, PlainEntry email (getlines '\n' email.content) := by
  intro email he
  obtain ⟨hcontent, hlines⟩ := terminated_lines (hplain email he).content
  exact ⟨addressText_of_accepted (h email he).1, addressText_of_accepted (h email he).2,
    hplain email he, hcontent, hlines⟩

/-- The queue of mails that were appended to an empty file. -/
def queueFile (emails : List EmailInfo) : Str := emails.flatMap appendEntry

lemma terminated_entryLines (eol : Str) (email : EmailInfo) (lines : List Str) :
    terminated '\n' (entryLines eol email lines) =
      emailStart ++ email.senderEmail ++ ('>' :: eol ++ ['\n']) ++ (toStart ++
        email.recipient ++ ('>' :: eol ++ ['\n'])) ++ terminated '\n' lines := by
  simp only [terminated, entryLines, List.flatMap_cons, List.append_assoc, List.cons_append]

lemma appendEntry_eq {email : EmailInfo} (h : PlainContent email.content) :
    appendEntry email =
      terminated '\n' (entryLines [] email (getlines '\n' email.content)) := by
  have hend : ">\n".toList = '>' :: [] ++ ['\n'] := rfl
  rw [terminated_entryLines, ← (terminated_lines h).1, appendEntry,
    cString_of_not_mem (noNul_of_plainContent h), hend]
  simp only [List.append_assoc]

lemma unsentEntry_eq {email : EmailInfo} (h : PlainContent email.content) :
    unsentEntry email =
      terminated '\n' (entryLines ['\r'] email (getlines '\n' email.content)) := by
  have hend : ">\r\n".toList = '>' :: ['\r'] ++ ['\n'] := rfl
  rw [terminated_entryLines, ← (terminated_lines h).1, unsentEntry, hend]
  simp only [List.append_assoc]

lemma terminated_flatMap {α : Type} (f : α → List Str) (xs : List α) :
    terminated '\n' (xs.flatMap f) = xs.flatMap (fun x => terminated '\n' (f x)) := by
  induction xs with
  | nil => rfl
  | cons x xs ih => rw [List.flatMap_cons, terminated_append, ih, List.flatMap_cons]

/-- Plain mails from accepted addresses are read as they were appended. -/
theorem buildEmailInfo_queueFile {emails : List EmailInfo}
    (h : ∀ email ∈ emails, PlainEntry email (getlines '\n' email.content)) :
    buildEmailInfo (queueFile emails) = emails := by
  have hfile : queueFile emails = terminated '\n'
      (emails.flatMap (fun email => entryLines [] email (getlines '\n' email.content))) := by
    rw [terminated_flatMap]
    exact List.flatMap_congr (fun email he => appendEntry_eq (h email he).plain.content)
  rw [hfile]
  exact buildEmailInfo_entries (Or.inl rfl) h

/-- Plain mails are read as a run of `smtpec` writes them back. -/
theorem buildEmailInfo_unsent {emails : List EmailInfo}
    (h : ∀ email ∈ emails, PlainEntry email (getlines '\n' email.content)) :
    buildEmailInfo (emails.flatMap unsentEntry) = emails := by
  have hfile : emails.flatMap unsentEntry = terminated '\n'
      (emails.flatMap (fun email => entryLines ['\r'] email (getlines '\n' email.content))) := by
    rw [terminated_flatMap]
    exact List.flatMap_congr (fun email he => unsentEntry_eq (h email he).plain.content)
  rw [hfile]
  exact buildEmailInfo_entries (Or.inr rfl) h

/-! ### What ends the process -/

section

open Smtpec Dialogue

/-- The answer does not end the process: records name a host, hosts have an address, and no
reading fails. -/
def Usable : (c : Smtpec.Call) → c.Answer → Prop
  | .getMxRecordsForDomain _, mxRecords => ∀ mxServer ∈ mxRecords, hostOf mxServer ≠ none
  | .gethostbyname _, host => host ≠ none
  | .recv, bytes => bytes ≠ none
  | .socket, _ | .connect _, _ | .send _, _ => True

lemma receive_lives (accept : Str → Bool) : (receive accept).Lives Usable :=
  fun _ hbytes => (lives_ofOption hbytes).bind (fun _ => trivial)

lemma sendCommands_lives (cmds : List Str) : (sendCommands cmds).Lives Usable := by
  induction cmds with
  | nil => trivial
  | cons cmd cmds ih =>
    intro sent _
    refine Lives.ite ?_ trivial
    exact (receive_lives isOKResponse).bind (fun ok => Lives.ite ih trivial)

lemma sendContent_lives (email : EmailInfo) : (sendContent email).Lives Usable :=
  fun _ _ _ _ _ _ => Lives.ite (receive_lives isOKResponse) trivial

lemma attemptDelivery_lives (email : EmailInfo) (address : Str) :
    (attemptDelivery email address).Lives Usable := by
  intro made _
  refine Lives.ite ?_ trivial
  intro connected _
  refine Lives.ite ?_ trivial
  refine (receive_lives isServiceReady).bind (fun greeted => Lives.ite ?_ trivial)
  refine (sendCommands_lives (commands email)).bind (fun taken => ?_)
  exact Lives.ite (sendContent_lives email) trivial

lemma tryServers_lives (email : EmailInfo) {mxRecords : List Str}
    (h : ∀ mxServer ∈ mxRecords, hostOf mxServer ≠ none) :
    (tryServers email mxRecords).Lives Usable := by
  induction mxRecords with
  | nil => trivial
  | cons mxServer mxRecords ih =>
    have hrest := ih (fun x hx => h x (List.mem_cons_of_mem mxServer hx))
    refine (lives_ofOption (h mxServer List.mem_cons_self)).bind (fun name => ?_)
    intro host hhost
    refine (lives_ofOption hhost).bind (fun address => ?_)
    exact (attemptDelivery_lives email address).bind (fun sent => Lives.ite trivial hrest)

/-- A delivery ends as long as every call returns and no answer ends the process. -/
theorem deliver_lives (email : EmailInfo) : (deliver email).Lives Usable :=
  fun _ hrecords => tryServers_lives email hrecords

end

/-! ### A run of `smtpec` -/

section

variable {σ : Type} (env : (c : Smtpec.Call) → σ → Option (c.Answer × σ))

/-- The mails that a run tries, each with whether it was sent. There is nothing of the mail in
whose delivery the process ends, and the mails behind it are not tried. -/
def triedMails : List EmailInfo → σ → List (EmailInfo × Option Bool)
  | [], _ => []
  | email :: emails, s =>
    match (Smtpec.deliver email).run env s with
    | some (sent, s') => (email, some sent) :: triedMails emails s'
    | none => [(email, none)]

/-- The mails that were tried and not sent. -/
def undelivered (tried : List (EmailInfo × Option Bool)) : List EmailInfo :=
  (tried.filter (fun x => x.2 ≠ some true)).map Prod.fst

/-- The queue file after a run. A process that ends before leaves it as it was. -/
def fileAfter (mqueue : Str) (s : σ) : Str :=
  ((Smtpec.main mqueue).run env s).elim mqueue Prod.fst

/-- The loop over the mails gets to its end if the process does not end in a delivery. -/
lemma deliverAll_run (emails : List EmailInfo) (s : σ) :
    (∃ sent s', (Smtpec.deliverAll emails).run env s = some (sent, s') ∧
      triedMails env emails s = emails.zip (sent.map some) ∧ sent.length = emails.length) ∨
    ((Smtpec.deliverAll emails).run env s = none ∧ ∃ x ∈ triedMails env emails s, x.2 = none) := by
  induction emails generalizing s with
  | nil => exact Or.inl ⟨[], s, rfl, rfl, rfl⟩
  | cons email emails ih =>
    unfold Smtpec.deliverAll triedMails
    rw [Dialogue.run_bind]
    cases hone : (Smtpec.deliver email).run env s with
    | none => exact Or.inr ⟨rfl, _, List.mem_cons_self, rfl⟩
    | some r =>
      obtain ⟨b, t⟩ := r
      rw [Option.bind_some, Dialogue.run_bind]
      rcases ih t with ⟨sent, s', hrun, hzip, hlen⟩ | ⟨hrun, x, hx, hnone⟩
      · left
        refine ⟨b :: sent, s', ?_, ?_, congrArg Nat.succ hlen⟩
        · rw [hrun]
          rfl
        · simp only [hzip, List.map_cons, List.zip_cons_cons]
      · right
        refine ⟨?_, x, List.mem_cons_of_mem _ hx, hnone⟩
        rw [hrun]
        rfl

lemma triedMails_isPrefix (emails : List EmailInfo) (s : σ) :
    (triedMails env emails s).map Prod.fst <+: emails := by
  induction emails generalizing s with
  | nil => exact List.prefix_rfl
  | cons email emails ih =>
    unfold triedMails
    split
    · next sent s' _ =>
      exact (List.cons_prefix_cons).mpr ⟨rfl, ih s'⟩
    · exact List.cons_prefix_cons.mpr ⟨rfl, List.nil_prefix⟩

variable {env}

lemma unsent_eq_undelivered {emails : List EmailInfo} {sent : List Bool} :
    Smtpec.unsent emails sent = undelivered (emails.zip (sent.map some)) := by
  unfold Smtpec.unsent undelivered
  rw [List.zip_map_right, List.filter_map, List.map_map]
  congr 1
  refine List.filter_congr (fun x _ => ?_)
  cases hx : x.2 <;> simp [hx]

/-- A run rewrites the file exactly if the process does not end in a delivery. -/
lemma fileAfter_eq {mqueue : Str} {s : σ} (hne : buildEmailInfo mqueue ≠ []) :
    fileAfter env mqueue s =
      if ∃ x ∈ triedMails env (buildEmailInfo mqueue) s, x.2 = none then mqueue
      else (undelivered (triedMails env (buildEmailInfo mqueue) s)).flatMap unsentEntry := by
  unfold fileAfter Smtpec.main
  dsimp only
  rw [if_neg hne, Dialogue.run_bind]
  rcases deliverAll_run env (buildEmailInfo mqueue) s with
    ⟨sent, s', hrun, hzip, -⟩ | ⟨hrun, hended⟩
  · have hlives : ¬∃ x ∈ triedMails env (buildEmailInfo mqueue) s, x.2 = none := by
      rintro ⟨x, hx, hnone⟩
      rw [hzip] at hx
      obtain ⟨b, -, hb⟩ := List.mem_map.mp (List.of_mem_zip hx).2
      exact absurd (hb.trans hnone) (by simp)
    rw [if_neg hlives, hzip, ← unsent_eq_undelivered, hrun]
    rfl
  · rw [if_pos hended, hrun]
    rfl

lemma tried_of_ended {emails : List EmailInfo} {s : σ}
    (h : ∀ x ∈ triedMails env emails s, x.2 ≠ none) :
    (triedMails env emails s).map Prod.fst = emails := by
  rcases deliverAll_run env emails s with
    ⟨sent, -, -, hzip, hlen⟩ | ⟨-, x, hx, hnone⟩
  · rw [hzip]
    exact List.map_fst_zip (by rw [List.length_map, hlen])
  · exact absurd hnone (h x hx)

lemma undelivered_eq_iff {tried : List (EmailInfo × Option Bool)} :
    undelivered tried = tried.map Prod.fst ↔ ∀ x ∈ tried, x.2 ≠ some true := by
  constructor
  · intro h
    have hlen : (tried.filter (fun x => x.2 ≠ some true)).length = tried.length := by
      simpa [undelivered] using congrArg List.length h
    intro x hx
    exact of_decide_eq_true (List.length_filter_eq_length_iff.mp hlen x hx)
  · intro h
    rw [undelivered, List.filter_eq_self.mpr (fun x hx => decide_eq_true (h x hx))]

lemma mem_of_mem_undelivered {tried : List (EmailInfo × Option Bool)} {email : EmailInfo}
    (h : email ∈ undelivered tried) : email ∈ tried.map Prod.fst := by
  obtain ⟨x, hx, rfl⟩ := List.mem_map.mp h
  exact List.mem_map_of_mem (List.mem_of_mem_filter hx)

variable (env)

/-- A run tries exactly the mails of the queue, and the file afterwards holds exactly those
that it has not delivered. -/
structure QueueSurvives (s : σ) (emails : List EmailInfo) : Prop where
  tried : (triedMails env (buildEmailInfo (queueFile emails)) s).map Prod.fst = emails
  left : buildEmailInfo (fileAfter env (queueFile emails) s) =
    undelivered (triedMails env (buildEmailInfo (queueFile emails)) s)

/-- The process does not end in a delivery, or it ends in the last one and has sent nothing. -/
def RunsThrough (s : σ) (emails : List EmailInfo) : Prop :=
  (∀ x ∈ triedMails env emails s, x.2 ≠ none) ∨
    (triedMails env emails s).length = emails.length ∧
      ∀ x ∈ triedMails env emails s, x.2 ≠ some true

variable {env}

lemma survives_of_runsThrough {emails : List EmailInfo} {s : σ}
    (hentry : ∀ email ∈ emails, PlainEntry email (getlines '\n' email.content))
    (h : RunsThrough env s emails) : QueueSurvives env s emails := by
  have hread := buildEmailInfo_queueFile hentry
  have htried : (triedMails env emails s).map Prod.fst = emails := by
    rcases h with hlives | ⟨hlen, -⟩
    · exact tried_of_ended hlives
    · exact (triedMails_isPrefix env emails s).eq_of_length (by rw [List.length_map, hlen])
  refine ⟨by rw [hread, htried], ?_⟩
  by_cases hnil : emails = []
  · subst hnil
    rfl
  · rw [fileAfter_eq (hread.symm ▸ hnil), hread]
    split
    · next hended =>
      obtain ⟨x, hx, hnone⟩ := hended
      rcases h with hlives | ⟨-, hunsent⟩
      · exact absurd hnone (hlives x hx)
      · rw [hread, undelivered_eq_iff.mpr hunsent, htried]
    · refine buildEmailInfo_unsent (fun email he => hentry email ?_)
      exact htried ▸ mem_of_mem_undelivered he

/-- The queue survives a run exactly if all its mails are plain and the process does not end
with mails sent or mails not tried. -/
theorem queue_survives_iff {emails : List EmailInfo}
    (h : ∀ email ∈ emails, AcceptedAddress email.senderEmail ∧ AcceptedAddress email.recipient)
    (s : σ) :
    QueueSurvives env s emails ↔
      (∀ email ∈ emails, PlainMail email) ∧ RunsThrough env s emails := by
  constructor
  · intro hkept
    have hplain : ∀ email ∈ emails, PlainMail email := by
      intro email he
      have hmem : email ∈ buildEmailInfo (queueFile emails) := by
        refine (triedMails_isPrefix env _ s).subset ?_
        rw [hkept.tried]
        exact he
      exact buildEmailInfo_plain _ email hmem
    have hread := buildEmailInfo_queueFile (plainEntry_of_accepted h hplain)
    obtain ⟨htried, hleft⟩ := hkept
    rw [hread] at htried hleft
    refine ⟨hplain, ?_⟩
    by_cases hended : ∃ x ∈ triedMails env emails s, x.2 = none
    · right
      have hne : emails ≠ [] := by
        rintro rfl
        simp [triedMails] at hended
      rw [fileAfter_eq (hread.symm ▸ hne), hread, if_pos hended, hread] at hleft
      refine ⟨by simpa using congrArg List.length htried, undelivered_eq_iff.mp ?_⟩
      rw [htried]
      exact hleft.symm
    · exact Or.inl (fun x hx hnone => hended ⟨x, hx, hnone⟩)
  · rintro ⟨hplain, hruns⟩
    exact survives_of_runsThrough (plainEntry_of_accepted h hplain) hruns

lemma runsThrough_of_usable (henv : ∀ c s, ∃ r, env c s = some r ∧ Usable c r.1)
    (emails : List EmailInfo) (s : σ) : RunsThrough env s emails := by
  left
  induction emails generalizing s with
  | nil => simp [triedMails]
  | cons email emails ih =>
    unfold triedMails
    split
    · next sent s' _ =>
      intro x hx
      rcases List.mem_cons.mp hx with rfl | hx
      · exact Option.some_ne_none _
      · exact ih s' x hx
    · next hnone =>
      exact absurd hnone ((deliver_lives email).run_ne_none henv s)

/-- Plain mails survive every run in which no answer ends the process. -/
theorem plain_queue_survives {emails : List EmailInfo}
    (h : ∀ email ∈ emails, AcceptedAddress email.senderEmail ∧ AcceptedAddress email.recipient)
    (hplain : ∀ email ∈ emails, PlainMail email)
    (henv : ∀ c s, ∃ r, env c s = some r ∧ Usable c r.1) (s : σ) : QueueSurvives env s emails :=
  survives_of_runsThrough (plainEntry_of_accepted h hplain) (runsThrough_of_usable henv emails s)

end

/-- A mail of `anna` to `carl` at another domain. -/
def mailToCarl (content : Str) : EmailInfo where
  senderEmail := "anna@localhost".toList
  recipient := "carl@elsewhere".toList
  content := content

lemma mailToCarl_accepted {emails : List EmailInfo}
    (h : ∀ email ∈ emails, email = mailToCarl email.content) :
    ∀ email ∈ emails, AcceptedAddress email.senderEmail ∧ AcceptedAddress email.recipient := by
  intro email he
  rw [h email he]
  have hanna : AcceptedAddress "anna@localhost".toList :=
    ⟨"MAIL FROM:<anna@localhost>\r\n".toList, by decide, by decide⟩
  have hcarl : AcceptedAddress "carl@elsewhere".toList :=
    ⟨"RCPT TO:<carl@elsewhere>\r\n".toList, by decide, by decide⟩
  exact ⟨hanna, hcarl⟩

/-- One host takes all mails and gives these replies in turn. It has an address as long as
`known` says so; the state counts the replies. -/
def serverReplies (known : Nat → Bool) (reply : Nat → String) :
    (c : Smtpec.Call) → Nat → Option (c.Answer × Nat)
  | .getMxRecordsForDomain _, n => some (["elsewhere. 300 IN MX 10 mail.elsewhere.".toList], n)
  | .gethostbyname _, n => some (if known n then some "10.0.0.9".toList else none, n)
  | .socket, n => some (true, n)
  | .connect _, n => some (true, n)
  | .send _, n => some (true, n)
  | .recv, n => some (some (reply n).toList, n + 1)

def carlsTwo : List EmailInfo := [mailToCarl "Hello\r\n".toList, mailToCarl "Again\r\n".toList]

lemma carlsTwo_accepted : ∀ email ∈ carlsTwo,
    AcceptedAddress email.senderEmail ∧ AcceptedAddress email.recipient :=
  mailToCarl_accepted (by decide)

lemma plainMail_hello : PlainMail (mailToCarl "Hello\r\n".toList) :=
  ⟨by decide, by decide, by decide, ["Hello\r".toList], by decide,
    by simpa using (⟨by decide, by decide, by decide, by decide, by decide⟩ : PlainLine _)⟩

lemma carlsTwo_plain : ∀ email ∈ carlsTwo, PlainMail email := by
  have hagain : PlainMail (mailToCarl "Again\r\n".toList) :=
    ⟨by decide, by decide, by decide, ["Again\r".toList], by decide,
      by simpa using (⟨by decide, by decide, by decide, by decide, by decide⟩ : PlainLine _)⟩
  intro email he
  simp only [carlsTwo, List.mem_cons, List.not_mem_nil, or_false] at he
  rcases he with rfl | rfl
  · exact plainMail_hello
  · exact hagain

/-- The first mail is taken, and the recipient of the second one is not. -/
def mixedReplies : Nat → String := fun n =>
  if n = 0 ∨ n = 6 then "220 ready\r\n" else if n = 9 then "550 no\r\n" else "250 OK\r\n"

theorem queue_survives_mixed :
    QueueSurvives (serverReplies (fun _ => true) mixedReplies) 0 carlsTwo ∧
      triedMails (serverReplies (fun _ => true) mixedReplies) carlsTwo 0 =
        carlsTwo.zip [some true, some false] := by
  have htried : triedMails (serverReplies (fun _ => true) mixedReplies) carlsTwo 0 =
      carlsTwo.zip [some true, some false] := by decide +kernel
  refine ⟨(queue_survives_iff carlsTwo_accepted 0).mpr ⟨carlsTwo_plain, Or.inl ?_⟩, htried⟩
  rw [htried]
  decide

/-- A line of the content is taken for the recipient; and a host without an address ends the
process when a mail has been delivered, which the file then still holds. -/
theorem content_taken_for_recipient :
    (¬∀ (env : (c : Smtpec.Call) → Nat → Option (c.Answer × Nat)) (emails : List EmailInfo),
      (∀ email ∈ emails, AcceptedAddress email.senderEmail ∧ AcceptedAddress email.recipient) →
        QueueSurvives env 0 emails) ∧
    ¬QueueSurvives (serverReplies (fun n => n < 6) mixedReplies) 0 carlsTwo := by
  constructor
  · intro h
    have hsurvives := h (serverReplies (fun _ => true) mixedReplies)
      [mailToCarl "To <all>: hello\r\n".toList] (mailToCarl_accepted (by decide))
    exact absurd hsurvives.tried (by decide +kernel)
  · intro hsurvives
    exact absurd hsurvives.left (by decide +kernel)

end CloudStorage.Proofs
