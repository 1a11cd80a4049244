import CloudStorage.Lib.PathTree
import CloudStorage.Proofs.ClientFields
import CloudStorage.Proofs.Credentials
import CloudStorage.Proofs.PasswordPaths

/-!
# Drives

The files and folders of a user are the columns of the user's row under `/content/`. This
file proves what the requests that change a drive do to the row, command by command, where
the storage server accepts the writes.
-/

namespace CloudStorage.Proofs
open DelimitedText Dialogue

/-- The row of a user. -/
def driveOf (t : Table) (u : Str) : Str → Option Str := t.get u

/-- The storage server answers a write with success. -/
def WritesAccepted : (i : Action) → i.Answer → Prop
  | .connect _, _ => True
  | .storage _ command, reply =>
    "PUT ".toList <+: command ∨ "DELETE ".toList <+: command → "+OK".toList <+: reply
  | .mail _, _ => True

instance (i : Action) (o : i.Answer) : Decidable (WritesAccepted i o) :=
  match i with
  | .connect _ => isTrue trivial
  | .storage _ _ => inferInstanceAs (Decidable (_ → _))
  | .mail _ => isTrue trivial

/-- A name that goes through a command and a LIST. -/
def CleanName (s : Str) : Prop := ',' ∉ s ∧ '\n' ∉ s ∧ '\r' ∉ s

instance : DecidablePred CleanName := fun _ => inferInstanceAs (Decidable (_ ∧ _))

lemma CleanName.noCrlf {s : Str} (h : CleanName s) : NoCrlf s := noCrlf_of_not_mem h.2.2

lemma cleanName_append {s t : Str} : CleanName (s ++ t) ↔ CleanName s ∧ CleanName t := by
  simp only [CleanName, List.mem_append, not_or]
  tauto

/-- The cells of a row, with columns that are names and values as commands leave them. -/
structure CleanCells (f : Str → Option Str) : Prop where
  column : ∀ c v, f c = some v → CleanName c
  value : ∀ c v, f c = some v → ',' ∉ v ∧ NoCrlf v

/-- What a GET finds, behind the first four characters. -/
def movedValue (value : Option Str) : Str := value.getD " Not Found".toList

/-- A value in another place. -/
def moveValue (o n : Str) (f : Str → Option Str) : Str → Option Str :=
  Function.update (Function.update f n (some (movedValue (f o)))) o none

lemma substr_getAnswer (value : Option Str) :
    substr 4 (getAnswer value) = some (movedValue value ++ "\r\n".toList) := by
  cases value with
  | none => rfl
  | some v =>
    have hlen : 4 ≤ ("+OK ".toList ++ v ++ "\r\n".toList).length := by
      rw [List.length_append, List.length_append]
      exact Nat.le_add_right_of_le (Nat.le_add_right 4 _)
    show substr 4 ("+OK ".toList ++ v ++ "\r\n".toList) = _
    unfold substr
    rw [if_pos hlen]
    rfl

lemma driveOf_empty (u : Str) : driveOf ∅ u = fun _ => none := by
  funext c
  exact NestedMap.get_empty u c

lemma driveOf_set (t : Table) (u c v : Str) :
    driveOf (t.set u c v) u = Function.update (driveOf t u) c (some v) := by
  funext x
  unfold driveOf
  rw [NestedMap.get_set]
  by_cases hx : x = c
  · subst hx
    rw [if_pos ⟨rfl, rfl⟩, Function.update_self]
  · rw [if_neg (fun h => hx h.2), Function.update_of_ne hx]

lemma driveOf_eraseCell (t : Table) (u c : Str) :
    driveOf (t.eraseCell u c) u = Function.update (driveOf t u) c none := by
  funext x
  unfold driveOf
  rw [NestedMap.get_eraseCell]
  by_cases hx : x = c
  · subst hx
    rw [if_pos ⟨rfl, rfl⟩, Function.update_self]
  · rw [if_neg (fun h => hx h.2), Function.update_of_ne hx]

namespace CleanCells

variable {f : Str → Option Str}

lemma empty : CleanCells (fun _ => none) :=
  ⟨fun _ _ h => absurd h (by simp), fun _ _ h => absurd h (by simp)⟩

lemma update (h : CleanCells f) {c v : Str} (hc : CleanName c) (hv : ',' ∉ v ∧ NoCrlf v) :
    CleanCells (Function.update f c (some v)) := by
  constructor
  · intro x w hx
    by_cases hxc : x = c
    · rw [hxc]
      exact hc
    · rw [Function.update_of_ne hxc] at hx
      exact h.column x w hx
  · intro x w hx
    by_cases hxc : x = c
    · rw [hxc, Function.update_self] at hx
      cases hx
      exact hv
    · rw [Function.update_of_ne hxc] at hx
      exact h.value x w hx

lemma erase (h : CleanCells f) (c : Str) : CleanCells (Function.update f c none) := by
  have hsub : ∀ x w, Function.update f c none x = some w → f x = some w := by
    intro x w hx
    by_cases hxc : x = c
    · rw [hxc, Function.update_self] at hx
      exact absurd hx (by simp)
    · rwa [Function.update_of_ne hxc] at hx
  exact ⟨fun x w hx => h.column x w (hsub x w hx), fun x w hx => h.value x w (hsub x w hx)⟩

lemma movedValue (h : CleanCells f) (c : Str) :
    ',' ∉ Proofs.movedValue (f c) ∧ NoCrlf (Proofs.movedValue (f c)) := by
  cases hc : f c with
  | none => exact (by decide : ',' ∉ " Not Found".toList ∧ NoCrlf " Not Found".toList)
  | some v => exact h.value c v hc

lemma moveValue (h : CleanCells f) {n : Str} (hn : CleanName n) (o : Str) :
    CleanCells (Proofs.moveValue o n f) :=
  (h.update hn (h.movedValue o)).erase o

end CleanCells

/-! ### Single commands -/

section

variable {σ α : Type} {S : StorageService σ} {u : Str} {e : σ} {x : α × σ}

/-- The service, as long as it accepts the writes. -/
abbrev StorageService.accepted (S : StorageService σ) :
    (i : Action) → σ → Option (i.Answer × σ) :=
  accepting WritesAccepted S.answer

/-- A user whose name fits into a command. -/
def CleanUser (u : Str) : Prop := ',' ∉ u ∧ NoCrlf u

instance : DecidablePred CleanUser := fun _ => inferInstanceAs (Decidable (_ ∧ _))

lemma exchange_run {text c : Str} {k : Str → Web α} (he : S.valid e) (hc : NoCrlf c)
    (htext : text = c ++ "\r\n".toList)
    (h : (exchange u text >>= k).run S.accepted e = some x) :
    ∃ reply e', answerTo (splitKVStoreCommand c) (S.table e) = some (reply, S.table e') ∧
      S.valid e' ∧ WritesAccepted (.storage u text) reply ∧
      (k reply).run S.accepted e' = some x := by
  subst htext
  rw [run_bind, run_exchange] at h
  obtain ⟨⟨reply, e'⟩, hask, h⟩ := Option.bind_eq_some_iff.mp h
  obtain ⟨hask, hok⟩ := accepting_eq_some.mp hask
  obtain ⟨hv, ha⟩ := S.table_of_storage he hc hask
  exact ⟨reply, e', ha, hv, hok, h⟩

/-- A command over a row and a column, as the web server puts it together. -/
lemma commandText_eq (v : Str) {word : Str} (hword : word = v ++ [' ']) (u c : Str) :
    word ++ u ++ ",".toList ++ c ++ "\r\n".toList =
      v ++ [' '] ++ (u ++ ',' :: c) ++ "\r\n".toList := by
  have hcomma : ",".toList = [','] := rfl
  rw [hword, hcomma]
  simp only [List.append_assoc, List.cons_append, List.nil_append]

lemma putText_eq (u c v : Str) :
    "PUT ".toList ++ u ++ ",".toList ++ c ++ ",".toList ++ v ++ "\r\n".toList =
      putText u c v ++ "\r\n".toList := by
  have hcomma : ",".toList = [','] := rfl
  calc "PUT ".toList ++ u ++ ",".toList ++ c ++ ",".toList ++ v ++ "\r\n".toList
      = "PUT ".toList ++ u ++ ",".toList ++ (c ++ ",".toList ++ v) ++ "\r\n".toList := by
        simp only [List.append_assoc]
    _ = "PUT".toList ++ [' '] ++ (u ++ ',' :: (c ++ ",".toList ++ v)) ++ "\r\n".toList :=
        commandText_eq "PUT".toList rfl u _
    _ = putText u c v ++ "\r\n".toList := by
        rw [hcomma, putText, List.append_assoc c, List.singleton_append]

/-- A GET of a column reads the row and leaves it. -/
lemma get_run {c : Str} {k : Str → Web α} (he : S.valid e) (hu : CleanUser u) (hc : ',' ∉ c)
    (hline : NoCrlf c) (hne : c ≠ [])
    (h : (exchange u ("GET ".toList ++ u ++ ",".toList ++ c ++ "\r\n".toList) >>= k).run
      S.accepted e = some x) :
    ∃ e', S.table e' = S.table e ∧ S.valid e' ∧
      (k (getAnswer (driveOf (S.table e) u c))).run S.accepted e' = some x := by
  obtain ⟨reply, e', ha, hv, -, h⟩ := exchange_run he
    (noCrlf_word (by decide) (hu.2.comma hline)) (commandText_eq "GET".toList rfl u c) h
  have hsplit := split_getText u c
  rw [getText] at hsplit
  rw [hsplit, getlines_pair hu.1 hc, if_neg hne, answerTo_get, getReply_pair] at ha
  obtain ⟨hreply, htable⟩ := Prod.mk.inj (Option.some.inj ha)
  rw [← hreply] at h
  exact ⟨e', htable.symm, hv, h⟩

/-- A PUT that is accepted has a value, and stores it. -/
lemma put_run {c v text : Str} {k : Str → Web α} (he : S.valid e) (hu : CleanUser u)
    (hc : CleanName c) (hv : ',' ∉ v ∧ NoCrlf v) (htext : text = putText u c v ++ "\r\n".toList)
    (h : (exchange u text >>= k).run S.accepted e = some x) :
    ∃ reply e', S.table e' = (S.table e).set u c v ∧ S.valid e' ∧
      (k reply).run S.accepted e' = some x := by
  obtain ⟨reply, e', ha, hvalid, hok, h⟩ := exchange_run he
    (noCrlf_word (by decide) (hu.2.comma (hc.noCrlf.comma hv.2))) htext h
  refine ⟨reply, e', ?_, hvalid, h⟩
  have hsplit := split_putText u c v
  rw [putText] at hsplit
  rw [hsplit, getlines_append_delim hu.1, getlines_append_delim hc.1] at ha
  by_cases hne : v = []
  · subst hne
    have hput : "PUT ".toList <+: text := by
      rw [htext, putText, List.append_assoc]
      exact List.prefix_append _ _
    obtain ⟨rfl, -⟩ := Prod.mk.inj (Option.some.inj ha)
    exact absurd (hok (Or.inl hput)) (by decide)
  · rw [getlines_of_not_mem hv.1 hne] at ha
    obtain ⟨-, htable⟩ := Prod.mk.inj (Option.some.inj ha)
    exact htable.symm

lemma delete_run {c : Str} {k : Str → Web α} (he : S.valid e) (hu : CleanUser u)
    (hc : ',' ∉ c) (hline : NoCrlf c) (hne : c ≠ [])
    (h : (exchange u ("DELETE ".toList ++ u ++ ",".toList ++ c ++ "\r\n".toList) >>= k).run
      S.accepted e = some x) :
    ∃ reply e', S.table e' = (S.table e).eraseCell u c ∧ S.valid e' ∧
      (k reply).run S.accepted e' = some x := by
  obtain ⟨reply, e', ha, hv, -, h⟩ := exchange_run he
    (noCrlf_word (by decide) (hu.2.comma hline)) (commandText_eq "DELETE".toList rfl u c) h
  refine ⟨reply, e', ?_, hv, h⟩
  rw [splitKVStoreCommand_blank (v := "DELETE".toList) (by decide) rfl, getlines_pair hu.1 hc,
    if_neg hne] at ha
  obtain ⟨-, htable⟩ := Prod.mk.inj (Option.some.inj ha)
  exact htable.symm

/-- The reply to a LIST of one row. -/
lemma answerTo_list {u c : Str} (hu : ',' ∉ u) (hc : ',' ∉ c) (hne : c ≠ []) (t : Table) :
    answerTo (splitKVStoreCommand ("LIST".toList ++ [' '] ++ (u ++ ',' :: c))) t =
      some (listAnswer (columnsFrom t u c), t) := by
  have hanswer : answerTo ("LIST ".toList :: [u, c]) t =
      (listReply t [u, c]).map (fun reply => (reply, t)) := rfl
  have hword : "LIST".toList ++ [' '] = "LIST ".toList := rfl
  rw [splitKVStoreCommand_blank (v := "LIST".toList) (by decide) rfl, getlines_pair hu hc,
    if_neg hne, hword, hanswer, listReply_eq]
  rfl

lemma list_run {c text : Str} {k : Str → Web α} (he : S.valid e) (hu : CleanUser u)
    (hc : CleanName c) (hne : c ≠ [])
    (htext : text = "LIST ".toList ++ u ++ ",".toList ++ c ++ "\r\n".toList)
    (h : (exchange u text >>= k).run S.accepted e = some x) :
    ∃ e', S.table e' = S.table e ∧ S.valid e' ∧
      (k (listAnswer (columnsFrom (S.table e) u c))).run S.accepted e' = some x := by
  obtain ⟨reply, e', ha, hv, -, h⟩ := exchange_run he
    (noCrlf_word (by decide) (hu.2.comma hc.noCrlf))
    (htext.trans (commandText_eq "LIST".toList rfl u c)) h
  rw [answerTo_list hu.1 hc.1 hne] at ha
  obtain ⟨hreply, htable⟩ := Prod.mk.inj (Option.some.inj ha)
  rw [← hreply] at h
  exact ⟨e', htable.symm, hv, h⟩

/-! ### Loops over commands -/

/-- A line that can stand as a column in a command. -/
def CleanLine (c : Str) : Prop := ',' ∉ c ∧ '\n' ∉ c ∧ c ≠ []

lemma CleanLine.noCrlf {c : Str} (h : CleanLine c) : NoCrlf c := noCrlf_of_no_newline h.2.1

lemma moveCell_run {o n : Str} {e' : σ} (he : S.valid e) (hu : CleanUser u)
    (hf : CleanCells (driveOf (S.table e) u)) (ho : CleanLine o) (hn : CleanName n)
    (h : (moveCell u o n).run S.accepted e = some ((), e')) :
    S.valid e' ∧ driveOf (S.table e') u = moveValue o n (driveOf (S.table e) u) := by
  unfold moveCell at h
  obtain ⟨e₁, ht₁, hv₁, h⟩ := get_run he hu ho.1 ho.noCrlf ho.2.2 h
  rw [substr_getAnswer, ofOption_some, done_bind] at h
  have htext : "PUT ".toList ++ u ++ ",".toList ++ n ++ ",".toList ++
      (movedValue (driveOf (S.table e) u o) ++ "\r\n".toList) =
      putText u n (movedValue (driveOf (S.table e) u o)) ++ "\r\n".toList := by
    rw [← putText_eq]
    simp only [List.append_assoc]
  obtain ⟨_, e₂, ht₂, hv₂, h⟩ := put_run hv₁ hu hn (hf.movedValue o) htext h
  obtain ⟨_, e₃, ht₃, hv₃, h⟩ := delete_run hv₂ hu ho.1 ho.noCrlf ho.2.2 h
  cases h
  refine ⟨hv₃, ?_⟩
  rw [ht₃, driveOf_eraseCell, ht₂, driveOf_set, ht₁, moveValue]

lemma moveLines_run {n : Str} {lines : List Str} {e' : σ} (he : S.valid e) (hu : CleanUser u)
    (hf : CleanCells (driveOf (S.table e) u)) (hlines : ∀ l ∈ lines, CleanLine l)
    (hn : CleanName n) (h : (moveLines u n lines).run S.accepted e = some ((), e')) :
    S.valid e' ∧ driveOf (S.table e') u =
      lines.foldl (fun f l => moveValue l n f) (driveOf (S.table e) u) := by
  induction lines generalizing e with
  | nil =>
    cases h
    exact ⟨he, rfl⟩
  | cons l lines ih =>
    have hl := hlines l List.mem_cons_self
    have hmoved : l ≠ "\r\n".toList ∧ l ≠ "\n".toList := by
      constructor
      · rintro rfl
        exact hl.2.1 (by decide)
      · rintro rfl
        exact hl.2.1 (by decide)
    rw [moveLines, if_pos hmoved, run_bind] at h
    obtain ⟨⟨_, e₁⟩, hcell, h⟩ := Option.bind_eq_some_iff.mp h
    obtain ⟨hv₁, ht₁⟩ := moveCell_run he hu hf hl hn hcell
    obtain ⟨hv', ht'⟩ := ih hv₁ (ht₁ ▸ hf.moveValue hn l)
      (fun y hy => hlines y (List.mem_cons_of_mem l hy)) h
    exact ⟨hv', by rw [ht', ht₁, List.foldl_cons]⟩

lemma deleteLines_run {lines : List Str} {e' : σ} (he : S.valid e) (hu : CleanUser u)
    (hlines : ∀ l ∈ lines, CleanLine l)
    (h : (deleteLines u lines).run S.accepted e = some ((), e')) :
    S.valid e' ∧ driveOf (S.table e') u =
      lines.foldl (fun f l => Function.update f l none) (driveOf (S.table e) u) := by
  induction lines generalizing e with
  | nil =>
    cases h
    exact ⟨he, rfl⟩
  | cons l lines ih =>
    have hl := hlines l List.mem_cons_self
    rw [deleteLines, if_pos hl.2.2] at h
    obtain ⟨_, e₁, ht₁, hv₁, h⟩ := delete_run he hu hl.1 hl.noCrlf hl.2.2 h
    obtain ⟨hv', ht'⟩ := ih hv₁ (fun y hy => hlines y (List.mem_cons_of_mem l hy)) h
    exact ⟨hv', by rw [ht', ht₁, driveOf_eraseCell, List.foldl_cons]⟩

end

/-! ### What a LIST and the loops over it do -/

/-- A LIST is read as the columns that begin as asked, with one line behind them. -/
lemma lines_listAnswer {columns : List Str} (h : ∀ c ∈ columns, '\n' ∉ c) :
    ∃ z ∈ ["-ERR Nothing Found\r".toList, "\r".toList],
      getlines '\n' (listAnswer columns) = columns ++ [z] := by
  by_cases hnil : columns = []
  · subst hnil
    exact ⟨"-ERR Nothing Found\r".toList, by simp, rfl⟩
  · refine ⟨"\r".toList, by simp, ?_⟩
    have hterminated : columns.flatMap (fun col => col ++ "\n".toList) =
        terminated '\n' columns := rfl
    rw [listAnswer, if_neg hnil, hterminated, getlines_terminated_append h]
    rfl

/-- The line behind the columns is no column. -/
lemma getlines_listAnswer {columns : List Str} (h : ∀ c ∈ columns, '\n' ∉ c) :
    ∃ z, getlines '\n' (listAnswer columns) = columns ++ [z] ∧ '\r' ∈ z ∧ CleanLine z := by
  obtain ⟨z, hz, hlines⟩ := lines_listAnswer h
  refine ⟨z, hlines, ?_⟩
  rcases List.mem_pair.mp hz with rfl | rfl
  · exact ⟨by decide, (by decide : ',' ∉ _ ∧ '\n' ∉ _ ∧ _ ≠ [])⟩
  · exact ⟨by decide, (by decide : ',' ∉ _ ∧ '\n' ∉ _ ∧ _ ≠ [])⟩

/-- A row without the columns that begin with `p`. -/
def removeAll (p : Str) (f : Str → Option Str) : Str → Option Str :=
  fun c => if p <+: c then none else f c

/-- The one column that is left of those that begin with `p`. -/
def moveAll (p n : Str) (f : Str → Option Str) : Str → Option Str :=
  fun c => if c = n then some " Not Found".toList else removeAll p f c

lemma foldl_erase (lines : List Str) (f : Str → Option Str) (c : Str) :
    lines.foldl (fun f l => Function.update f l none) f c = if c ∈ lines then none else f c := by
  induction lines generalizing f with
  | nil => simp
  | cons l lines ih =>
    rw [List.foldl_cons, ih]
    by_cases hc : c = l
    · subst hc
      simp
    · rw [Function.update_of_ne hc]
      simp [hc]

lemma moveValue_of_ne {c n : Str} (hc : c ≠ n) (o : Str) (f : Str → Option Str) :
    moveValue o n f c = if c = o then none else f c := by
  unfold moveValue
  by_cases hco : c = o
  · rw [hco, if_pos rfl, Function.update_self]
  · rw [if_neg hco, Function.update_of_ne hco, Function.update_of_ne hc]

/-- Only the target can be found among the lines that were moved. -/
lemma foldl_moveValue_of_ne {c n : Str} (hc : c ≠ n) (lines : List Str)
    (f : Str → Option Str) :
    lines.foldl (fun f l => moveValue l n f) f c = if c ∈ lines then none else f c := by
  induction lines generalizing f with
  | nil => simp
  | cons l lines ih =>
    rw [List.foldl_cons, ih, moveValue_of_ne hc]
    by_cases hcl : c = l
    · simp [hcl]
    · simp [hcl]

/-- The last line moves what no GET finds. -/
lemma foldl_moveValue {columns : List Str} {z n : Str} {f : Str → Option Str}
    (hz : f z = none) (hzn : z ≠ n) (c : Str) :
    (columns ++ [z]).foldl (fun f l => moveValue l n f) f c =
      if c = n then some " Not Found".toList else if c ∈ columns then none else f c := by
  rw [List.foldl_append, List.foldl_cons, List.foldl_nil]
  by_cases hc : c = n
  · subst hc
    rw [if_pos rfl, moveValue, Function.update_of_ne hzn.symm, Function.update_self,
      foldl_moveValue_of_ne hzn, hz, ite_self]
    rfl
  · rw [if_neg hc, moveValue_of_ne hc, foldl_moveValue_of_ne hc]
    by_cases hcz : c = z
    · rw [if_pos hcz, hcz, hz, ite_self]
    · rw [if_neg hcz]

section

variable {σ : Type} {S : StorageService σ} {u : Str} {e e' : σ}

/-- The lines of a LIST in a clean row. -/
lemma lines_run {p text : Str} {k : Str → Web Unit} (he : S.valid e) (hu : CleanUser u)
    (hf : CleanCells (driveOf (S.table e) u)) (hp : CleanName p) (hne : p ≠ [])
    (htext : text = "LIST ".toList ++ u ++ ",".toList ++ p ++ "\r\n".toList)
    (h : (exchange u text >>= k).run S.accepted e = some ((), e')) :
    ∃ response columns z e₁, getlines '\n' response = columns ++ [z] ∧
      (∀ l ∈ columns ++ [z], CleanLine l) ∧ '\r' ∈ z ∧
      (∀ c, c ∈ columns ↔ (driveOf (S.table e) u c).isSome ∧ p <+: c) ∧
      S.table e₁ = S.table e ∧ S.valid e₁ ∧
      (k response).run S.accepted e₁ = some ((), e') := by
  obtain ⟨e₁, ht₁, hv₁, h⟩ := list_run he hu hp hne htext h
  have hmem : ∀ c, c ∈ columnsFrom (S.table e) u p ↔
      (driveOf (S.table e) u c).isSome ∧ p <+: c := mem_columnsFrom (S.table e) u p
  have hclean : ∀ c ∈ columnsFrom (S.table e) u p, CleanLine c := by
    intro c hc
    obtain ⟨hsome, hpre⟩ := (hmem c).mp hc
    obtain ⟨v, hv⟩ := Option.isSome_iff_exists.mp hsome
    have hname := hf.column c v hv
    refine ⟨hname.1, hname.2.1, ?_⟩
    rintro rfl
    exact hne (List.prefix_nil.mp hpre)
  obtain ⟨z, hlines, hz, hzline⟩ := getlines_listAnswer (fun c hc => (hclean c hc).2.1)
  refine ⟨_, _, z, e₁, hlines, ?_, hz, hmem, ht₁, hv₁, h⟩
  intro l hl
  rcases List.mem_append.mp hl with hl | hl
  · exact hclean l hl
  · exact List.mem_singleton.mp hl ▸ hzline

/-- No column of a clean row is the last line of a LIST. -/
lemma CleanCells.no_return {f : Str → Option Str} (h : CleanCells f) {z : Str} (hz : '\r' ∈ z) :
    f z = none := by
  cases hv : f z with
  | none => rfl
  | some v => exact absurd hz (h.column z v hv).2.2

lemma removeAll_run {p text : Str} (he : S.valid e) (hu : CleanUser u)
    (hf : CleanCells (driveOf (S.table e) u)) (hp : CleanName p) (hne : p ≠ [])
    (htext : text = "LIST ".toList ++ u ++ ",".toList ++ p ++ "\r\n".toList)
    (h : (exchange u text >>= fun response =>
      deleteLines u (getlines '\n' response)).run S.accepted e = some ((), e')) :
    S.valid e' ∧ driveOf (S.table e') u = removeAll p (driveOf (S.table e) u) := by
  obtain ⟨response, columns, z, e₁, hlines, hclean, hz, hmem, ht₁, hv₁, h⟩ :=
    lines_run he hu hf hp hne htext h
  rw [hlines] at h
  obtain ⟨hv', ht'⟩ := deleteLines_run hv₁ hu hclean h
  refine ⟨hv', ?_⟩
  funext c
  rw [ht', ht₁, foldl_erase, removeAll]
  by_cases hp : p <+: c
  · rw [if_pos hp]
    split
    · rfl
    · next hno =>
      by_contra hsome
      exact hno (List.mem_append_left _
        ((hmem c).mpr ⟨Option.isSome_iff_ne_none.mpr hsome, hp⟩))
  · rw [if_neg hp]
    split
    · next hin =>
      rcases List.mem_append.mp hin with hin | hin
      · exact absurd ((hmem c).mp hin).2 hp
      · rw [List.mem_singleton.mp hin, hf.no_return hz]
    · rfl

lemma moveAll_run {p n text : Str} (he : S.valid e) (hu : CleanUser u)
    (hf : CleanCells (driveOf (S.table e) u)) (hp : CleanName p) (hne : p ≠ [])
    (hn : CleanName n) (htext : text = "LIST ".toList ++ u ++ ",".toList ++ p ++ "\r\n".toList)
    (h : (exchange u text >>= fun response =>
      moveLines u n (getlines '\n' response)).run S.accepted e = some ((), e')) :
    S.valid e' ∧ driveOf (S.table e') u = moveAll p n (driveOf (S.table e) u) := by
  obtain ⟨response, columns, z, e₁, hlines, hclean, hz, hmem, ht₁, hv₁, h⟩ :=
    lines_run he hu hf hp hne htext h
  rw [hlines] at h
  obtain ⟨hv', ht'⟩ := moveLines_run hv₁ hu (ht₁ ▸ hf) hclean hn h
  have hzn : z ≠ n := by
    rintro rfl
    exact hn.2.2 hz
  refine ⟨hv', ?_⟩
  funext c
  rw [ht', ht₁, foldl_moveValue (hf.no_return hz) hzn, moveAll, removeAll]
  by_cases hc : c = n
  · rw [if_pos hc, if_pos hc]
  · rw [if_neg hc, if_neg hc]
    by_cases hp : p <+: c
    · rw [if_pos hp]
      split
      · rfl
      · next hno =>
        by_contra hsome
        exact hno ((hmem c).mpr ⟨Option.isSome_iff_ne_none.mpr hsome, hp⟩)
    · rw [if_neg hp, if_neg (fun hin => hp ((hmem c).mp hin).2)]

end

end CloudStorage.Proofs
