import CloudStorage.Proofs.Serving

/-!
# The store as a partial map

What a primary without secondaries shows through GET and LIST, compared with a map that
each command sets, removes or replaces cells of.
-/

namespace CloudStorage.Proofs
open DelimitedText Registers

/-! ### The reference map -/

abbrev PartialMap := Str × Str → Option Str

/-- The write that a parsed command asks for, none where parameters are missing. -/
def writeOf : List Str → Option Write
  | word :: row :: col :: args =>
    if word = "PUT ".toList then
      match args with
      | value :: _ => some (.put row col value)
      | [] => none
    else if word = "CPUT ".toList then
      match args with
      | currentValue :: newValue :: _ => some (.cput row col currentValue newValue)
      | _ => none
    else if word = "DELETE ".toList then some (.delete row col)
    else none
  | _ => none

lemma eq_of_writeOf {parameters : List Str} {x : Write} (h : writeOf parameters = some x) :
    ∃ extra, parameters = x.word :: (x.fields ++ extra) := by
  unfold writeOf at h
  split at h
  · next word row col args =>
    split at h
    · next hput =>
      match args, h with
      | value :: extra, h =>
        cases h
        exact ⟨extra, hput ▸ rfl⟩
    split at h
    · next hcput =>
      match args, h with
      | cur :: new :: extra, h =>
        cases h
        exact ⟨extra, hcput ▸ rfl⟩
    split at h
    · next hdelete =>
      cases h
      exact ⟨args, hdelete ▸ rfl⟩
    · exact absurd h (by simp)
  · exact absurd h (by simp)

/-- The reference: a conditional write replaces exactly the value it expects. -/
def reference (parameters : List Str) (m : PartialMap) : PartialMap :=
  match writeOf parameters with
  | some w => (opOf w).strictEffect m
  | none => m

/-- The command changes the map: it sets, removes, or replaces the expected value. -/
def TakesEffect (parameters : List Str) (m : PartialMap) : Prop :=
  match writeOf parameters with
  | some (.cput row col currentValue _) => m (row, col) = some currentValue
  | some _ => True
  | none => False

/-! ### What GET and LIST show -/

def getAnswer (value : Option Str) : Str :=
  match value with
  | some value => "+OK ".toList ++ value ++ "\r\n".toList
  | none => "-ERR Not Found\r\n".toList

def listAnswer (columns : List Str) : Str :=
  if columns = [] then "-ERR Nothing Found\r\n".toList
  else columns.flatMap (fun col => col ++ "\n".toList) ++ "\r\n".toList

/-- Every GET shows the map, and every LIST the columns of a row that begin as asked, in
some order. -/
structure Shows (t : Table) (m : PartialMap) : Prop where
  get : ∀ row col, getReply t [row, col] = getAnswer (m (row, col))
  list : ∀ row start, ∃ columns : List Str, columns.Nodup ∧
    (∀ col, col ∈ columns ↔ (m (row, col)).isSome ∧ start <+: col) ∧
    listReply t [row, start] = some (listAnswer columns)

lemma getAnswer_injective : Function.Injective getAnswer := by
  have hnone : (getAnswer none).head? = some '-' := rfl
  have hsome : ∀ v, (getAnswer (some v)).head? = some '+' := fun _ => rfl
  intro x y h
  have hhead := congrArg List.head? h
  cases x with
  | none =>
    cases y with
    | none => rfl
    | some w => exact absurd (hnone.symm.trans (hhead.trans (hsome w))) (by decide)
  | some v =>
    cases y with
    | none => exact absurd ((hsome v).symm.trans (hhead.trans hnone)) (by decide)
    | some w => exact congrArg some (List.append_cancel_left (List.append_cancel_right h))

/-- The columns that LIST shows. -/
def columnsFrom (t : Table) (row start : Str) : List Str :=
  ((t.row row).entries.map Sigma.fst).filter (fun col => start.isPrefixOf col)

lemma listReply_eq (t : Table) (row start : Str) (extra : List Str) :
    listReply t (row :: start :: extra) = some (listAnswer (columnsFrom t row start)) := by
  unfold listReply listAnswer
  dsimp only
  rw [columnsFrom]
  cases ((t.row row).entries.map Sigma.fst).filter (fun col => start.isPrefixOf col) with
  | nil => rfl
  | cons col cols =>
    have hlen : 0 < ((col :: cols).flatMap (fun col => col ++ "\n".toList)).length := by
      rw [List.flatMap_cons, List.length_append, List.length_append]
      exact Nat.lt_of_lt_of_le (Nat.succ_pos _) (Nat.le_add_right _ _)
    rw [if_pos hlen, if_neg (List.cons_ne_nil col cols)]

lemma mem_columnsFrom (t : Table) (row start col : Str) :
    col ∈ columnsFrom t row start ↔ (cellsOf t (row, col)).isSome ∧ start <+: col := by
  have hcell : (cellsOf t (row, col)).isSome ↔ col ∈ t.row row := AList.lookup_isSome
  rw [columnsFrom, List.mem_filter, List.isPrefixOf_iff_prefix, hcell]
  rfl

lemma columnsFrom_nodup (t : Table) (row start : Str) : (columnsFrom t row start).Nodup :=
  (t.row row).nodupKeys.filter _

theorem shows_iff (t : Table) (m : PartialMap) : Shows t m ↔ cellsOf t = m := by
  have hget : ∀ row col, getReply t [row, col] = getAnswer (cellsOf t (row, col)) := by
    intro row col
    rw [getReply, cellsOf]
    cases t.get row col <;> rfl
  constructor
  · intro h
    funext k
    exact getAnswer_injective ((hget k.1 k.2).symm.trans (h.get k.1 k.2))
  · intro h
    subst h
    constructor
    · exact hget
    · intro row start
      exact ⟨columnsFrom t row start, columnsFrom_nodup t row start, mem_columnsFrom t row start,
        listReply_eq t row start []⟩

/-! ### Commands at a primary without secondaries -/

/-- A primary whose server list holds no secondary. -/
structure PrimaryAlone (w : World) (p : Address) : Prop where
  isPrimary : (w.server p).myInfo.isPrimary = true
  ready : (w.server p).currentlyInitializing = false
  alone : ∀ it ∈ (w.server p).serverList, it.isPrimary = true

lemma forwardToAllSecondaryServers_alone (call : Call) (g : Int) (command : Str)
    {list : List ServerInfo} (h : ∀ it ∈ list, it.isPrimary = true) (w : World) :
    forwardToAllSecondaryServers call g command list w = some (true, w) := by
  induction list with
  | nil => rfl
  | cons it rest ih =>
    have hit := h it List.mem_cons_self
    simp only [forwardToAllSecondaryServers, hit, Bool.true_eq_false, false_and, if_false]
    exact ih (fun x hx => h x (List.mem_cons_of_mem it hx))

/-- LIST reads no parameter that is not there. -/
def ListDefined (t : Table) : List Str → Prop
  | [] => t.entries = []
  | [row] => (t.row row).entries = []
  | _ :: _ :: _ => True

lemma listReply_eq_none_iff (t : Table) (args : List Str) :
    listReply t args = none ↔ ¬ListDefined t args := by
  match args with
  | [] =>
    have hr : listReply t [] =
        if t.entries = [] then some "-ERR Nothing Found\r\n".toList else none := rfl
    rw [hr, ListDefined, ite_eq_right_iff]
    exact imp_congr_right (fun _ => iff_of_false (Option.some_ne_none _) id)
  | [row] =>
    have hr : listReply t [row] =
        if (t.row row).entries = [] then some "-ERR Nothing Found\r\n".toList else none := rfl
    rw [hr, ListDefined, ite_eq_right_iff]
    exact imp_congr_right (fun _ => iff_of_false (Option.some_ne_none _) id)
  | row :: start :: extra =>
    rw [listReply_eq]
    exact iff_of_false (Option.some_ne_none _) (not_not_intro trivial)

/-- Every parsed command asks for a write, or is answered without one, or is a LIST that
reads a missing parameter. -/
lemma handleCommand_writeOf (word : Str) (args : List Str) (origin : Origin) (msg : Str)
    (n : Node) :
    (∃ x, writeOf (word :: args) = some x ∧
      handleCommand (word :: args) origin msg n = handleWrite x origin msg n) ∨
    (writeOf (word :: args) = none ∧
      (word = "LIST ".toList → ListDefined n.server.table args) ∧
      ∃ reply, handleCommand (word :: args) origin msg n = .finished n reply) ∨
    (word = "LIST ".toList ∧ ¬ListDefined n.server.table args ∧
      handleCommand (word :: args) origin msg n = .undefined) := by
  have hword {s : Str} (hs : s ≠ "LIST ".toList) :
      s = "LIST ".toList → ListDefined n.server.table args := fun h => absurd h hs
  by_cases hput : word = "PUT ".toList
  · subst hput
    match args with
    | row :: col :: value :: extra => exact Or.inl ⟨.put row col value, rfl, rfl⟩
    | [] | [_] | [_, _] => exact Or.inr (Or.inl ⟨rfl, hword (by decide), _, rfl⟩)
  by_cases hget : word = "GET ".toList
  · subst hget
    match args with
    | [] | [_] | _ :: _ :: _ => exact Or.inr (Or.inl ⟨rfl, hword (by decide), _, rfl⟩)
  by_cases hcput : word = "CPUT ".toList
  · subst hcput
    match args with
    | row :: col :: cur :: new :: extra => exact Or.inl ⟨.cput row col cur new, rfl, rfl⟩
    | [] | [_] | [_, _] | [_, _, _] => exact Or.inr (Or.inl ⟨rfl, hword (by decide), _, rfl⟩)
  by_cases hdelete : word = "DELETE ".toList
  · subst hdelete
    match args with
    | row :: col :: extra => exact Or.inl ⟨.delete row col, rfl, rfl⟩
    | [] | [_] => exact Or.inr (Or.inl ⟨rfl, hword (by decide), _, rfl⟩)
  have hnone : writeOf (word :: args) = none := by
    match args with
    | [] | [_] => rfl
    | row :: col :: extra => simp only [writeOf, hput, hcput, hdelete, if_false]
  simp only [handleCommand, hput, hget, hcput, hdelete, if_false]
  by_cases hlist : word = "LIST ".toList
  · rw [if_pos hlist]
    cases hr : listReply n.server.table args with
    | some reply =>
      have hl : ListDefined n.server.table args := by
        by_contra hl
        rw [(listReply_eq_none_iff _ _).mpr hl] at hr
        exact absurd hr (by simp)
      exact Or.inr (Or.inl ⟨hnone, fun _ => hl, reply, rfl⟩)
    | none => exact Or.inr (Or.inr ⟨hlist, (listReply_eq_none_iff _ _).mp hr, rfl⟩)
  · rw [if_neg hlist]
    exact Or.inr (Or.inl ⟨hnone, hword hlist, _, rfl⟩)

lemma writeOf_list (args : List Str) : writeOf ("LIST ".toList :: args) = none := by
  match args with
  | [] | [_] => rfl
  | row :: col :: extra => rfl

/-- The table of `p` after a command, if the command is answered. -/
theorem serveCommand_alone {w : World} {p : Address} (hp : PrimaryAlone w p) (depth : Nat)
    (msg command : Str) :
    (∃ w' reply, serveCommand (depth + 1) p msg command w = some (w', reply) ∧
      ((w'.server p).table = match writeOf (splitKVStoreCommand command) with
        | some x => (x.run (w.server p).table).1
        | none => (w.server p).table) ∧
      ∀ args, splitKVStoreCommand command = "LIST ".toList :: args →
        ListDefined (w.server p).table args) ∨
    (serveCommand (depth + 1) p msg command w = none ∧
      ∃ args, splitKVStoreCommand command = "LIST ".toList :: args ∧
        ¬ListDefined (w.server p).table args) := by
  obtain ⟨word, args, hs⟩ : ∃ word args, splitKVStoreCommand command = word :: args :=
    ⟨_, _, rfl⟩
  unfold serveCommand
  dsimp only
  rw [hs]
  rcases handleCommand_writeOf word args (classify (word :: args)) msg (w.node p) with
    ⟨x, hx, hh⟩ | ⟨hx, hl, reply, hh⟩ | ⟨rfl, hl, hh⟩
  · left
    have hlist : ∀ args', word :: args = "LIST ".toList :: args' →
        ListDefined (w.server p).table args' := by
      intro args' ha
      rw [ha, writeOf_list] at hx
      exact absurd hx (by simp)
    rw [hh, handleWrite_at_primary hp.ready hp.isPrimary, hx]
    simp only [forwardToAllSecondaryServers_alone _ _ _ hp.alone, Option.map_some, if_true]
    exact ⟨_, _, rfl, applyAt_table w p x, hlist⟩
  · left
    rw [hh, hx]
    refine ⟨_, _, rfl, settle_table w p _, ?_⟩
    rintro args' ha
    obtain ⟨hw, rfl⟩ := List.cons.inj ha
    exact hl hw
  · right
    rw [hh]
    exact ⟨rfl, args, rfl, hl⟩

/-- A command is answered and does to the store what it does to the partial map; if it
does nothing there, every answer to GET and LIST is the one before. -/
def Refines (w : World) (p : Address) (depth : Nat) (msg command : Str) : Prop :=
  ∃ w' reply, serveCommand (depth + 1) p msg command w = some (w', reply) ∧
    Shows (w'.server p).table
      (reference (splitKVStoreCommand command) (cellsOf (w.server p).table)) ∧
    (¬TakesEffect (splitKVStoreCommand command) (cellsOf (w.server p).table) → ∀ args,
      getReply (w'.server p).table args = getReply (w.server p).table args ∧
      listReply (w'.server p).table args = listReply (w.server p).table args)

/-- The command is no conditional write of an absent cell, and no LIST that reads a missing
parameter. -/
structure Covered (parameters : List Str) (t : Table) : Prop where
  present : ∀ row col currentValue newValue,
    writeOf parameters = some (.cput row col currentValue newValue) → t.get row col ≠ none
  complete : ∀ args, parameters = "LIST ".toList :: args → ListDefined t args

lemma cellsOf_run_iff (x : Write) (t : Table) :
    cellsOf (x.run t).1 = (opOf x).strictEffect (cellsOf t) ↔
      ∀ row col cur new, x = .cput row col cur new → t.get row col ≠ none := by
  rw [cellsOf_run, Op.effect_eq_strictEffect_iff]
  cases x with
  | put row col value => simp [opOf, Op.Resets]
  | delete row col => simp [opOf, Op.Resets]
  | cput row col cur new =>
    simp only [opOf, Op.Resets, Op.key, cellsOf, false_or, Write.cput.injEq]
    constructor
    · rintro h row' col' cur' new' ⟨rfl, rfl, -, -⟩
      exact h
    · intro h
      exact h row col cur new ⟨rfl, rfl, rfl, rfl⟩

/-- A conditional write of a cell with another value leaves the very same table. -/
lemma run_of_not_takesEffect {parameters : List Str} {x : Write} {t : Table}
    (hx : writeOf parameters = some x)
    (hp : ∀ row col cur new, x = .cput row col cur new → t.get row col ≠ none)
    (h : ¬TakesEffect parameters (cellsOf t)) : (x.run t).1 = t := by
  unfold TakesEffect at h
  rw [hx] at h
  cases x with
  | put row col value => exact absurd trivial h
  | delete row col => exact absurd trivial h
  | cput row col cur new =>
    obtain ⟨v, hv⟩ := Option.ne_none_iff_exists'.mp (hp row col cur new rfl)
    have hne : t.get row col ≠ some cur := h
    have htouch : t.touch row col [] = t := by
      rw [NestedMap.touch, hv]
    simp only [Write.run, htouch, if_neg hne]

/-- A primary without secondaries treats a command as the partial map does exactly when it
is no conditional write of an absent cell and no LIST that reads a missing parameter. -/
theorem commands_refine_map_iff {w : World} {p : Address} (hp : PrimaryAlone w p)
    (depth : Nat) (msg command : Str) :
    Refines w p depth msg command ↔
      Covered (splitKVStoreCommand command) (w.server p).table := by
  rcases serveCommand_alone hp depth msg command with
    ⟨w', reply, hs, ht, hl⟩ | ⟨hs, args, ha, hl⟩
  · have hrefines : Refines w p depth msg command ↔ Shows (w'.server p).table
          (reference (splitKVStoreCommand command) (cellsOf (w.server p).table)) ∧
        (¬TakesEffect (splitKVStoreCommand command) (cellsOf (w.server p).table) → ∀ args,
          getReply (w'.server p).table args = getReply (w.server p).table args ∧
          listReply (w'.server p).table args = listReply (w.server p).table args) := by
      rw [Refines, hs]
      constructor
      · rintro ⟨u, r, h, hshows⟩
        cases h
        exact hshows
      · intro h
        exact ⟨w', reply, rfl, h⟩
    rw [hrefines, shows_iff, reference]
    cases hx : writeOf (splitKVStoreCommand command) with
    | none =>
      rw [hx] at ht
      simp only [ht, true_and]
      exact ⟨fun _ => ⟨by simp [hx], hl⟩, fun _ _ _ => trivial⟩
    | some x =>
      rw [hx] at ht
      simp only [ht, cellsOf_run_iff]
      constructor
      · intro h
        refine ⟨fun row col cur new hw => ?_, hl⟩
        exact h.1 row col cur new (Option.some.inj (hx.symm.trans hw))
      · intro h
        have hp : ∀ row col cur new, x = .cput row col cur new →
            (w.server p).table.get row col ≠ none :=
          fun row col cur new hw => h.present row col cur new (hw ▸ hx)
        refine ⟨hp, fun hno args => ?_⟩
        rw [run_of_not_takesEffect hx hp hno]
        exact ⟨rfl, rfl⟩
  · constructor
    · rintro ⟨w', reply, h, -⟩
      rw [hs] at h
      exact absurd h (by simp)
    · intro h
      exact absurd (h.complete args ha) hl

/-- Server 2001 of replica group 1 on its own. -/
def aloneWorld (t : Table) : World where
  server := fun _ =>
    { table := t
      servers := fun _ => [group1Info 2001]
      myInfo := group1Info 2001
      primaryInfo := group1Info 2001
      replicaGroup := 1
      diskFilePath := storagePath 1 2001 }
  disk := fun _ => none
  time := 0
  outcomes := []

lemma aloneWorld_alone (t : Table) : PrimaryAlone (aloneWorld t) (group1Address 2001) where
  isPrimary := rfl
  ready := rfl
  alone := by
    intro it hit
    rw [show it = group1Info 2001 from List.mem_singleton.mp hit]
    rfl

/-- Changing a password that is there. -/
theorem cput_of_present_cell :
    Refines (aloneWorld ((∅ : Table).set "anna".toList "password".toList "cXdlcnR5".toList))
      (group1Address 2001) 0 [] "CPUT anna,password,cXdlcnR5,cG9pdXl0".toList := by
  rw [commands_refine_map_iff (aloneWorld_alone _)]
  constructor
  · intro row col cur new h
    cases h
    decide
  · intro args h
    exact absurd (List.cons.inj h).1 (by decide)

/-- Changing a password that is not there is answered with an error, and yet the cell
exists afterwards. -/
theorem failed_cput_shows_cell :
    ¬∀ (w : World) (p : Address) (depth : Nat) (msg command : Str), PrimaryAlone w p →
      Refines w p depth msg command := by
  intro h
  obtain ⟨w', reply, hs, -, hsame⟩ := h (aloneWorld ∅) (group1Address 2001) 0 []
    "CPUT anna,password,cXdlcnR5,cG9pdXl0".toList (aloneWorld_alone ∅)
  let shown : World × Str → Str × Str := fun r =>
    (r.2, getReply (r.1.server (group1Address 2001)).table ["anna".toList, "password".toList])
  have hrun : (serveCommand 1 (group1Address 2001) []
      "CPUT anna,password,cXdlcnR5,cG9pdXl0".toList (aloneWorld ∅)).map shown =
      some (conditionalErr, "+OK \r\n".toList) := by
    decide +kernel
  rw [hs, Option.map_some, Option.some.injEq] at hrun
  have hno : ¬TakesEffect (splitKVStoreCommand "CPUT anna,password,cXdlcnR5,cG9pdXl0".toList)
      (cellsOf ((aloneWorld ∅).server (group1Address 2001)).table) := by
    intro he
    exact absurd (show (none : Option Str) = some "cXdlcnR5".toList from he) (by simp)
  have hget := (hsame hno ["anna".toList, "password".toList]).1
  have hafter : getReply (w'.server (group1Address 2001)).table
      ["anna".toList, "password".toList] = "+OK \r\n".toList := congrArg Prod.snd hrun
  rw [hafter] at hget
  exact absurd hget (by decide)

end CloudStorage.Proofs
