import CloudStorage.MailServer
import CloudStorage.Proofs.CommandText
import CloudStorage.Proofs.Substrings

/-!
# Command lines that arrive together

A handler of the mail server gets all that has been received and not the line alone. This
file proves for which lines the text behind them makes no difference.
-/

namespace CloudStorage.Proofs

/-! ### Which command it is -/

/-- A carriage return stands only in front of the last character, if anywhere. -/
def ReturnAtEnd (command : Str) : Prop :=
  '\r' ∉ (command.map Char.toLower).take (command.length - 2)

instance : DecidablePred ReturnAtEnd := fun _ => inferInstanceAs (Decidable (¬_))

/-- More characters than the line has include the end of the line. -/
lemma return_mem_take {l : Str} {n : Nat} (hlen : l.length < n) (rest : Str) :
    '\r' ∈ ((l ++ "\r\n".toList ++ rest).take n).map Char.toLower := by
  have hlower : Char.toLower '\r' = '\r' := by decide
  have hsplit : l ++ "\r\n".toList ++ rest = (l ++ ['\r']) ++ '\n' :: rest := by simp
  rw [← hlower, hsplit]
  apply List.mem_map_of_mem
  apply (List.prefix_take_iff.mpr ⟨List.prefix_append _ _, ?_⟩).subset
  · exact List.mem_append_right l List.mem_cons_self
  · rw [List.length_append, List.length_singleton]
    exact hlen

lemma compare_longer {command l : Str} (hc : ReturnAtEnd command)
    (hlen : l.length + 2 < command.length) (rest : Str) :
    caseInsensitiveStringCompare (l ++ "\r\n".toList ++ rest) command = false := by
  rw [caseInsensitiveStringCompare, beq_eq_false_iff_ne]
  intro heq
  apply hc
  rw [← heq, ← List.map_take, List.take_take, Nat.min_eq_left (Nat.sub_le _ _)]
  exact return_mem_take (by omega) rest

lemma length_of_helo {l : Str}
    (h : caseInsensitiveStringCompare (l ++ "\r\n".toList) "HELO ".toList = true) :
    5 ≤ l.length := by
  by_contra hlen
  have hreturn := return_mem_take (Nat.lt_of_not_le hlen) []
  rw [caseInsensitiveStringCompare, beq_iff_eq] at h
  have hfive : "HELO ".toList.length = 5 := rfl
  rw [List.append_nil, ← hfive, h] at hreturn
  exact absurd hreturn (by decide)

/-- What stands behind a line does not make it another command. -/
lemma compare_line {command : Str} (hc : ReturnAtEnd command) (l rest : Str) :
    caseInsensitiveStringCompare (l ++ "\r\n".toList ++ rest) command =
      caseInsensitiveStringCompare (l ++ "\r\n".toList) command := by
  by_cases hlen : l.length + 2 < command.length
  · have halone := compare_longer hc hlen []
    rw [List.append_nil] at halone
    rw [compare_longer hc hlen, halone]
  · have hline : command.length ≤ (l ++ "\r\n".toList).length := by
      rw [List.length_append]
      exact Nat.le_of_not_lt hlen
    rw [caseInsensitiveStringCompare, caseInsensitiveStringCompare,
      List.take_append_of_le_length hline]

/-! ### Addresses -/

/-- Where an address is found. -/
lemma addressIn_eq_some {text x : Str} : addressIn text = some x ↔
    ∃ a c, text = a ++ '<' :: (x ++ '>' :: c) ∧ '<' ∉ a ∧ '>' ∉ a ∧ '>' ∉ x := by
  unfold addressIn
  constructor
  · intro h
    split at h
    · next hs =>
      obtain ⟨hopen, hclose, hlt⟩ := hs
      obtain ⟨a, b, rfl, ha⟩ := List.eq_append_cons_of_mem hopen
      have hca : '>' ∉ a := by
        intro hmem
        rw [List.idxOf_append, if_neg ha, List.idxOf_append, if_pos hmem, List.idxOf_cons_self]
          at hlt
        have hle := List.idxOf_lt_length_of_mem hmem
        omega
      have hcb : '>' ∈ b := by
        rcases List.mem_append.mp hclose with hmem | hmem
        · exact absurd hmem hca
        · exact (List.mem_cons.mp hmem).resolve_left (by decide)
      obtain ⟨y, c, rfl, hy⟩ := List.eq_append_cons_of_mem hcb
      rw [after_append ha, before_append hy] at h
      obtain rfl := Option.some.inj h
      exact ⟨a, c, rfl, ha, hca, hy⟩
    · exact absurd h (by simp)
  · rintro ⟨a, c, rfl, ha, hca, hx⟩
    rw [after_append ha, before_append hx, if_pos]
    refine ⟨by simp, by simp, ?_⟩
    rw [List.idxOf_append, if_neg ha, List.idxOf_append, if_neg hca, List.idxOf_cons_self,
      List.idxOf_cons_ne _ (by decide)]
    omega

/-- An address in a text is still the first when the text goes on. -/
lemma addressIn_append {s x : Str} (h : addressIn s = some x) (t : Str) :
    addressIn (s ++ t) = some x := by
  obtain ⟨a, c, rfl, ha⟩ := addressIn_eq_some.mp h
  exact addressIn_eq_some.mpr ⟨a, c ++ t, by simp, ha⟩

/-- The line has no `>`, and an address ends or stands in the text behind it. -/
def AddressBehind (l rest : Str) : Prop :=
  '>' ∉ l ∧ '>' ∈ rest ∧ ('<' ∈ l ∨ '<' ∈ rest ∧ rest.idxOf '<' < rest.idxOf '>')

lemma addressIn_isSome (text : Str) : (addressIn text).isSome ↔
    '<' ∈ text ∧ '>' ∈ text ∧ text.idxOf '<' < text.idxOf '>' := by
  unfold addressIn
  split
  · next h => exact iff_of_true rfl h
  · next h => exact iff_of_false (by simp) h

/-- The address of a line is another one only where the line has none. -/
lemma addressIn_line_iff (l rest : Str) :
    addressIn (l ++ "\r\n".toList ++ rest) = addressIn (l ++ "\r\n".toList) ↔
      ¬AddressBehind l rest := by
  have hnotin : '<' ∉ "\r\n".toList ∧ '>' ∉ "\r\n".toList := by decide
  have hsome := addressIn_isSome (l ++ "\r\n".toList ++ rest)
  have halone := addressIn_isSome (l ++ "\r\n".toList)
  rw [List.append_assoc] at hsome
  simp only [List.mem_append, List.idxOf_append, hnotin.1, hnotin.2, false_or, or_false, if_false]
    at hsome halone
  cases h : addressIn (l ++ "\r\n".toList) with
  | some x =>
    rw [h] at halone
    exact iff_of_true (addressIn_append h rest) (fun hb => hb.1 (halone.mp rfl).2.1)
  | none =>
    rw [h] at halone
    have hno := mt halone.mpr (by simp)
    rw [← Option.not_isSome_iff_eq_none, List.append_assoc, hsome, not_iff_not]
    unfold AddressBehind
    by_cases hopen : '<' ∈ l
    · by_cases hclose : '>' ∈ l
      · simp only [hopen, hclose, true_and, if_true] at hno ⊢
        simp [hno]
      · have hlt := List.idxOf_lt_length_of_mem hopen
        simp only [hopen, hclose, if_true, if_false, true_or, true_and, false_or, not_false_eq_true,
          and_true]
        constructor
        · exact fun h => h.1
        · exact fun h => ⟨h, by omega⟩
    · by_cases hclose : '>' ∈ l
      · have hlt := List.idxOf_lt_length_of_mem hclose
        simp only [hopen, hclose, if_true, if_false, not_true, false_and, false_or]
        constructor
        · rintro ⟨-, -, h⟩
          omega
        · exact False.elim
      · simp only [hopen, hclose, if_false, false_or, not_false_eq_true, true_and]
        constructor
        · rintro ⟨ho, hc, h⟩
          exact ⟨hc, ho, by omega⟩
        · rintro ⟨hc, ho, h⟩
          exact ⟨ho, hc, by omega⟩

/-! ### The handlers -/

/-- The text behind a HELO is taken for its domain. -/
lemma helo_line_iff {l : Str} (hl : 5 ≤ l.length) (rest : Str) (t : Transaction) :
    helo (l ++ "\r\n".toList ++ rest) t = helo (l ++ "\r\n".toList) t ↔
      ¬((t.state = .Initial ∨ t.state = .HeloReceived) ∧ l.length = 5 ∧ rest ≠ []) := by
  have hdrop (rest : Str) :
      (l ++ "\r\n".toList ++ rest).drop 5 = l.drop 5 ++ ("\r\n".toList ++ rest) := by
    rw [List.append_assoc, List.drop_append_of_le_length hl]
  have halone : (l ++ "\r\n".toList).drop 5 = l.drop 5 ++ "\r\n".toList :=
    List.drop_append_of_le_length hl
  unfold helo
  rw [hdrop, halone]
  by_cases hstate : t.state ≠ .Initial ∧ t.state ≠ .HeloReceived
  · rw [if_pos hstate, if_pos hstate]
    simp [hstate.1, hstate.2]
  · rw [if_neg hstate, if_neg hstate]
    have hready : t.state = .Initial ∨ t.state = .HeloReceived := by tauto
    by_cases hfive : l.length = 5
    · have hnil : l.drop 5 = [] := by rw [← hfive, List.drop_length]
      rw [hnil, List.nil_append, List.nil_append, if_pos (Or.inr rfl)]
      by_cases hrest : rest = []
      · rw [hrest, List.append_nil, if_pos (Or.inr rfl)]
        simp
      · have hlonger : ¬("\r\n".toList ++ rest = [] ∨ "\r\n".toList ++ rest = "\r\n".toList) := by
          simp [hrest]
        rw [if_neg hlonger]
        refine iff_of_false (fun h => ?_) (not_not.mpr ⟨hready, hfive, hrest⟩)
        exact absurd (SmtpStep.replied.inj h).2 (by decide)
    · have hne : l.drop 5 ≠ [] := by
        rw [Ne, List.drop_eq_nil_iff]
        omega
      have hdomain (rest : Str) : ¬(l.drop 5 ++ ("\r\n".toList ++ rest) = [] ∨
          l.drop 5 ++ ("\r\n".toList ++ rest) = "\r\n".toList) := by
        rintro (h | h)
        · exact hne (List.append_eq_nil_iff.mp h).1
        · have hlen := congrArg List.length h
          rw [List.length_append, List.length_append] at hlen
          have hpos := List.length_pos_iff.mpr hne
          omega
      have halone' := hdomain []
      rw [List.append_nil] at halone'
      rw [if_neg (hdomain rest), if_neg halone']
      exact iff_of_true rfl (fun h => hfive h.2.1)

def badParameters : Str := "501 Syntax error in parameters or arguments\r\n".toList

lemma replied_ne {t t' : Transaction} {response response' : Str} (h : response ≠ response') :
    SmtpStep.replied t (some response) ≠ .replied t' (some response') := by
  intro heq
  exact h (Option.some.inj (SmtpStep.replied.inj heq).2)

/-- The answer to a sender that is no address is given to no other sender. -/
lemma mailCommand_none {text : Str} {t : Transaction} (h : t.state = .HeloReceived) :
    mailCommand text t = .replied t (some badParameters) ↔ addressIn text = none := by
  unfold mailCommand
  rw [if_neg (not_not.mpr h)]
  cases addressIn text with
  | none => exact iff_of_true rfl rfl
  | some mailFrom =>
    refine iff_of_false ?_ (Option.some_ne_none mailFrom)
    dsimp only
    split
    · exact replied_ne (by decide)
    · split
      · exact replied_ne (by decide)
      · exact replied_ne (by decide)

lemma rcptCommand_none {text : Str} {t : Transaction}
    (h : t.state = .MailFromReceived ∨ t.state = .RcptToReceived) :
    rcptCommand text t = .replied t (some badParameters) ↔ addressIn text = none := by
  unfold rcptCommand
  rw [if_neg (by tauto)]
  cases addressIn text with
  | none => exact iff_of_true rfl rfl
  | some email =>
    refine iff_of_false ?_ (Option.some_ne_none email)
    dsimp only
    split
    · exact replied_ne (by decide)
    · rw [if_pos (by rfl)]
      split
      · exact replied_ne (by decide)
      · split
        · simp
        · split
          · exact replied_ne (by decide)
          · exact replied_ne (by decide)

/-- A handler that reads the address and nothing else, and tells when there is none. -/
lemma address_line_iff (command : Str → SmtpStep) {bad : SmtpStep}
    (hsame : ∀ text text', addressIn text = addressIn text' → command text = command text')
    (hnone : ∀ text, command text = bad ↔ addressIn text = none) (l rest : Str) :
    command (l ++ "\r\n".toList ++ rest) = command (l ++ "\r\n".toList) ↔
      ¬AddressBehind l rest := by
  rw [← addressIn_line_iff]
  constructor
  · intro h
    cases halone : addressIn (l ++ "\r\n".toList) with
    | some x => exact addressIn_append halone rest
    | none => exact (hnone _).mp (h.trans ((hnone _).mpr halone))
  · exact fun h => hsame _ _ h

/-- The handler of the line finds in the text behind it what the line lacks: the domain of a
HELO, or an address or its end. -/
def ReadsOn (l rest : Str) (t : Transaction) : Prop :=
  if caseInsensitiveStringCompare (l ++ "\r\n".toList) "HELO ".toList then
    (t.state = .Initial ∨ t.state = .HeloReceived) ∧ l.length = 5 ∧ rest ≠ []
  else if caseInsensitiveStringCompare (l ++ "\r\n".toList) "MAIL FROM:".toList then
    t.state = .HeloReceived ∧ AddressBehind l rest
  else if caseInsensitiveStringCompare (l ++ "\r\n".toList) "RCPT TO:".toList then
    (t.state = .MailFromReceived ∨ t.state = .RcptToReceived) ∧ AddressBehind l rest
  else False

lemma mailCommand_line_iff (l rest : Str) (t : Transaction) :
    mailCommand (l ++ "\r\n".toList ++ rest) t = mailCommand (l ++ "\r\n".toList) t ↔
      ¬(t.state = .HeloReceived ∧ AddressBehind l rest) := by
  by_cases hstate : t.state = .HeloReceived
  · rw [and_iff_right hstate]
    refine address_line_iff (fun text => mailCommand text t) ?_
      (fun text => mailCommand_none hstate) l rest
    intro text text' h
    rw [mailCommand, mailCommand, h]
  · have hbad (text : Str) : mailCommand text t = .replied t (some badSequence) := by
      rw [mailCommand, if_pos hstate]
    rw [hbad, hbad]
    simp [hstate]

lemma rcptCommand_line_iff (l rest : Str) (t : Transaction) :
    rcptCommand (l ++ "\r\n".toList ++ rest) t = rcptCommand (l ++ "\r\n".toList) t ↔
      ¬((t.state = .MailFromReceived ∨ t.state = .RcptToReceived) ∧ AddressBehind l rest) := by
  by_cases hstate : t.state = .MailFromReceived ∨ t.state = .RcptToReceived
  · rw [and_iff_right hstate]
    refine address_line_iff (fun text => rcptCommand text t) ?_
      (fun text => rcptCommand_none hstate) l rest
    intro text text' h
    rw [rcptCommand, rcptCommand, h]
  · have hbad (text : Str) : rcptCommand text t = .replied t (some badSequence) := by
      rw [rcptCommand, if_pos (by tauto)]
    rw [hbad, hbad]
    simp [hstate]

/-- A line is handled as it would be alone exactly if its handler does not read on. -/
theorem line_alone_iff {l : Str} (hnul : '\x00' ∉ l) (rest : Str) (t : Transaction) :
    handleLine (cString (l ++ "\r\n".toList ++ rest)) t =
        handleLine (cString (l ++ "\r\n".toList)) t ↔
      ¬ReadsOn l (cString rest) t := by
  have hline : '\x00' ∉ l ++ "\r\n".toList := by
    rw [List.mem_append, not_or]
    exact ⟨hnul, by decide⟩
  rw [cString_append hline, cString_of_not_mem hline]
  unfold handleLine ReadsOn
  rw [compare_line (by decide), compare_line (by decide), compare_line (by decide),
    compare_line (by decide), compare_line (by decide), compare_line (by decide),
    compare_line (by decide)]
  split
  · next hhelo => exact helo_line_iff (length_of_helo hhelo) (cString rest) t
  split
  · exact mailCommand_line_iff l (cString rest) t
  split
  · exact rcptCommand_line_iff l (cString rest) t
  · exact iff_of_true rfl not_false

theorem line_alone_mail :
    handleLine (cString ("MAIL FROM:<anna@localhost>".toList ++ "\r\n".toList ++
        "RCPT TO:<bob@localhost>\r\n".toList)) { state := .HeloReceived } =
      handleLine (cString ("MAIL FROM:<anna@localhost>".toList ++ "\r\n".toList))
        { state := .HeloReceived } ↔
    ¬ReadsOn "MAIL FROM:<anna@localhost>".toList (cString "RCPT TO:<bob@localhost>\r\n".toList)
      { state := .HeloReceived } :=
  line_alone_iff (by decide) _ _

/-- A HELO without a domain is accepted if another command is behind it. -/
theorem pipelined_helo_accepted : ¬∀ (l rest : Str) (t : Transaction), '\x00' ∉ l → NoCrlf l →
    handleLine (cString (l ++ "\r\n".toList ++ rest)) t =
      handleLine (cString (l ++ "\r\n".toList)) t := by
  intro h
  have halone := h "HELO ".toList "NOOP\r\n".toList {} (by decide) (by decide)
  exact absurd halone (by decide)

end CloudStorage.Proofs
