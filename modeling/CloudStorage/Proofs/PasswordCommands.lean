import CloudStorage.Proofs.Credentials
import CloudStorage.Proofs.StorageService

/-!
# Commands on passwords

The commands of login, signup and password change as the storage server parses them, and
what they do to the stored passwords.
-/

namespace CloudStorage.Proofs
open DelimitedText Registers

/-- The column of passwords. -/
def passwordColumn : Str := "password".toList

/-- The stored password of a user. -/
def storedPassword (t : Table) (u : Str) : Option Str := t.get u passwordColumn

/-! ### Texts -/

lemma passwordGet_eq (n : Str) : passwordGet n =
    "GET".toList ++ [' '] ++ (n ++ ',' :: passwordColumn) ++ "\r\n".toList := by
  unfold passwordGet
  rw [List.append_assoc _ _ "\r\n".toList, List.append_assoc n, List.append_assoc _ n]
  rfl

lemma passwordPut_eq (b : Base64) (n p : Str) : passwordPut b n p =
    "PUT".toList ++ [' '] ++ (n ++ ',' :: (passwordColumn ++ ',' :: b.encode p)) ++
      "\r\n".toList := by
  unfold passwordPut
  rw [List.append_assoc _ _ (b.encode p), List.append_assoc _ n]
  rfl

lemma passwordCput_eq (n old new : Str) : passwordCput n old new =
    "CPUT".toList ++ [' '] ++ (n ++ ',' :: (passwordColumn ++ ',' :: (old ++ ',' :: new))) ++
      "\r\n".toList := by
  unfold passwordCput
  rw [List.append_assoc _ _ new, List.append_assoc _ old, List.append_assoc _ _ (old ++ _),
    List.append_assoc _ n]
  rfl

lemma noCrlf_encode (b : Base64) (s : Str) : NoCrlf (b.encode s) :=
  noCrlf_of_not_mem (not_mem_encode b s (by decide))

lemma noCrlf_passwordColumn : NoCrlf passwordColumn := by decide

/-! ### The cell of a name -/

/-- A name with a comma does not name the password of another user. -/
def OwnCell (name : Str) : Prop := ',' ∈ name → before ',' (after ',' name) ≠ passwordColumn

instance : DecidablePred OwnCell := fun _ => inferInstanceAs (Decidable (_ → _))

lemma cell_of_name {n row x : Str} {rest : List Str} (h : OwnCell n)
    (hs : getlines ',' (n ++ ',' :: (passwordColumn ++ ',' :: x)) =
      row :: passwordColumn :: rest) :
    row = n ∧ rest = getlines ',' x := by
  by_cases hc : ',' ∈ n
  · obtain ⟨n₁, n₂, rfl, h₁⟩ := List.eq_append_cons_of_mem hc
    rw [List.append_assoc, List.cons_append, getlines_append_delim h₁] at hs
    obtain ⟨xs, hxs⟩ := getlines_takeWhile ',' n₂ (passwordColumn ++ ',' :: x)
    rw [hxs] at hs
    have hcol := (List.cons.inj (List.cons.inj hs).2).1
    have hno := h hc
    rw [after_append h₁] at hno
    exact absurd hcol hno
  · rw [getlines_append_delim hc, getlines_append_delim (by decide)] at hs
    obtain ⟨hrow, hs⟩ := List.cons.inj hs
    exact ⟨hrow.symm, (List.cons.inj hs).2.symm⟩

lemma getlines_encode (b : Base64) (s : Str) :
    getlines ',' (b.encode s) = if b.encode s = [] then [] else [b.encode s] := by
  split
  · next h => rw [h, getlines_nil]
  · next h => exact getlines_of_not_mem (not_mem_encode b s (by decide)) h

/-! ### What the commands do -/

lemma tableAfter_get (args : List Str) (t : Table) : tableAfter ("GET ".toList :: args) t = t := by
  unfold tableAfter
  match args with
  | [] | [_] => rfl
  | _ :: _ :: _ => rfl

/-- A signup changes no stored password but that of its name. -/
lemma storedPassword_put {b : Base64} {n p : Str} (h : OwnCell n) (t : Table) (u : Str) :
    storedPassword (tableAfter ("PUT ".toList :: getlines ','
      (n ++ ',' :: (passwordColumn ++ ',' :: b.encode p))) t) u = storedPassword t u ∨
    (u = n ∧ storedPassword (tableAfter ("PUT ".toList :: getlines ','
      (n ++ ',' :: (passwordColumn ++ ',' :: b.encode p))) t) u = some (b.encode p)) := by
  have hcell := fun row rest => @cell_of_name n row (b.encode p) rest h
  generalize getlines ',' (n ++ ',' :: (passwordColumn ++ ',' :: b.encode p)) = args at hcell ⊢
  match args with
  | [] | [_] | [_, _] => exact Or.inl rfl
  | row :: col :: value :: extra =>
    have hset : tableAfter ("PUT ".toList :: row :: col :: value :: extra) t =
        t.set row col value := rfl
    rw [hset, storedPassword, storedPassword, NestedMap.get_set]
    split
    · next heq =>
      obtain ⟨rfl, rfl⟩ := heq
      obtain ⟨hn, hrest⟩ := hcell u (value :: extra) rfl
      rw [getlines_encode] at hrest
      split at hrest
      · exact absurd hrest (by simp)
      · exact Or.inr ⟨hn, congrArg some (List.cons.inj hrest).1⟩
    · exact Or.inl rfl

/-- A conditional write changes no stored password but one that it names and carries. -/
lemma storedPassword_cputArgs {t : Table} {u v : Str} (hv : storedPassword t u = some v)
    (args : List Str) :
    storedPassword (tableAfter ("CPUT ".toList :: args) t) u = some v ∨
    ∃ extra, args = u :: passwordColumn :: v :: extra := by
  match args with
  | [] | [_] | [_, _] | [_, _, _] => exact Or.inl hv
  | row :: col :: cur :: value :: extra =>
    have hrun : tableAfter ("CPUT ".toList :: row :: col :: cur :: value :: extra) t =
        ((Write.cput row col cur value).run t).1 := rfl
    have htouch : storedPassword (t.touch row col []) u = some v := by
      unfold storedPassword at hv ⊢
      rw [NestedMap.get_touch]
      split
      · next heq =>
        obtain ⟨rfl, rfl⟩ := heq
        rw [hv, Option.getD_some]
      · exact hv
    rw [hrun]
    simp only [Write.run]
    split
    · next hcur =>
      unfold storedPassword at htouch ⊢
      rw [NestedMap.get_set]
      split
      · next heq =>
        obtain ⟨rfl, rfl⟩ := heq
        cases htouch.symm.trans hcur
        exact Or.inr ⟨value :: extra, rfl⟩
      · exact Or.inl htouch
    · exact Or.inl htouch

/-- A password change changes no stored password but one that it carries. -/
lemma storedPassword_cput {n old new : Str} (h : OwnCell n) (hold : ',' ∉ old) {t : Table}
    {u v : Str} (hv : storedPassword t u = some v) :
    storedPassword (tableAfter ("CPUT ".toList :: getlines ','
      (n ++ ',' :: (passwordColumn ++ ',' :: (old ++ ',' :: new)))) t) u = some v ∨
    (u = n ∧ v = old) := by
  refine (storedPassword_cputArgs hv _).imp_right ?_
  rintro ⟨extra, hargs⟩
  obtain ⟨hn, hrest⟩ := cell_of_name h hargs
  rw [getlines_append_delim hold] at hrest
  exact ⟨hn, (List.cons.inj hrest).1⟩

/-- A conditional write is always answered. -/
lemma answerTo_cput (args : List Str) (t : Table) :
    ∃ reply, answerTo ("CPUT ".toList :: args) t =
      some (reply, tableAfter ("CPUT ".toList :: args) t) := by
  match args with
  | [] | [_] | [_, _] | [_, _, _] => exact ⟨_, rfl⟩
  | _ :: _ :: _ :: _ :: _ => exact ⟨_, rfl⟩

/-! ### Exchanges -/

section

variable {σ : Type} {S : StorageService σ} {b : Base64} {e e' : σ} {n u o : Str}

lemma exchange_get (he : S.valid e) (hn : NoCrlf n)
    (h : S.answer (.storage u (passwordGet n)) e = some (o, e')) :
    S.valid e' ∧ S.table e' = S.table e := by
  rw [passwordGet_eq] at h
  obtain ⟨hv, ha⟩ := S.table_of_storage he
    (noCrlf_word (by decide) (hn.comma noCrlf_passwordColumn)) h
  refine ⟨hv, (tableAfter_of_answerTo ha).trans ?_⟩
  rw [splitKVStoreCommand_blank (v := "GET".toList) (by decide) rfl]
  exact tableAfter_get _ _

lemma exchange_put {p : Str} (he : S.valid e) (hn : NoCrlf n)
    (h : S.answer (.storage u (passwordPut b n p)) e = some (o, e')) :
    S.valid e' ∧ S.table e' = tableAfter ("PUT ".toList :: getlines ','
      (n ++ ',' :: (passwordColumn ++ ',' :: b.encode p))) (S.table e) := by
  rw [passwordPut_eq] at h
  obtain ⟨hv, ha⟩ := S.table_of_storage he
    (noCrlf_word (by decide) (hn.comma (noCrlf_passwordColumn.comma (noCrlf_encode b p)))) h
  refine ⟨hv, (tableAfter_of_answerTo ha).trans ?_⟩
  rw [splitKVStoreCommand_blank (v := "PUT".toList) (by decide) rfl]
  rfl

lemma exchange_cput {old new : Str} (he : S.valid e) (hn : NoCrlf n) (hold : NoCrlf old)
    (hnew : NoCrlf new) (h : S.answer (.storage u (passwordCput n old new)) e = some (o, e')) :
    S.valid e' ∧ S.table e' = tableAfter ("CPUT ".toList :: getlines ','
      (n ++ ',' :: (passwordColumn ++ ',' :: (old ++ ',' :: new)))) (S.table e) := by
  rw [passwordCput_eq] at h
  obtain ⟨hv, ha⟩ := S.table_of_storage he
    (noCrlf_word (by decide) (hn.comma (noCrlf_passwordColumn.comma (hold.comma hnew)))) h
  refine ⟨hv, (tableAfter_of_answerTo ha).trans ?_⟩
  rw [splitKVStoreCommand_blank (v := "CPUT".toList) (by decide) rfl]
  rfl

end

end CloudStorage.Proofs
