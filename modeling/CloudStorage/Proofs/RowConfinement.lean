import CloudStorage.Proofs.Authorisation
import CloudStorage.Proofs.LoginState
import CloudStorage.Proofs.StorageService

/-!
# A session and its row

User names, urls and form fields are put together to commands by concatenation. This file
traces the commands of a session through the splitter of the storage server, and proves
that they stay in the row of its user as long as the name, the fields and the emails named
by the requests can be told apart.
-/

namespace CloudStorage.Proofs
open DelimitedText Dialogue Registers

/-! ### Commands on a row -/

/-- The command reads and writes no row but `u`. -/
structure OnRow (u : Str) (parameters : List Str) : Prop where
  write : ∀ x, writeOf parameters = some x → x.fields.head? = some u
  get : ∀ row col, parameters = ["GET ".toList, row, col] → row = u
  list : ∀ args, parameters = "LIST ".toList :: args → args.head? = some u

/-- The cells of the other rows are the same. -/
def OthersKept (u : Str) (t t' : Table) : Prop :=
  ∀ row, row ≠ u → ∀ col, t'.get row col = t.get row col

lemma OthersKept.refl (u : Str) (t : Table) : OthersKept u t t := fun _ _ _ => rfl

lemma OthersKept.trans {u : Str} {t t' t'' : Table} (h : OthersKept u t t')
    (h' : OthersKept u t' t'') : OthersKept u t t'' :=
  fun row hrow col => (h' row hrow col).trans (h row hrow col)

lemma run_othersKept {u : Str} {x : Write} (hx : x.fields.head? = some u) (t : Table) :
    OthersKept u t (x.run t).1 := by
  intro row hrow col
  cases x with
  | put r c v =>
    cases hx
    have hne : ¬(row = u ∧ col = c) := fun h => hrow h.1
    rw [Write.run, NestedMap.get_set, if_neg hne]
  | cput r c cur new =>
    cases hx
    have hne : ¬(row = u ∧ col = c) := fun h => hrow h.1
    simp only [Write.run]
    split
    · rw [NestedMap.get_set, if_neg hne, NestedMap.get_touch, if_neg hne]
    · rw [NestedMap.get_touch, if_neg hne]
  | delete r c =>
    cases hx
    have hne : ¬(row = u ∧ col = c) := fun h => hrow h.1
    rw [Write.run, NestedMap.get_eraseCell, if_neg hne]

/-- What a write does in its row depends on that row only. -/
lemma run_of_row {u : Str} {x : Write} (hx : x.fields.head? = some u) {t t' : Table}
    (h : t.row u = t'.row u) :
    (x.run t).2 = (x.run t').2 ∧ NestedMap.row (x.run t).1 u = NestedMap.row (x.run t').1 u := by
  cases x with
  | put r c v =>
    cases hx
    refine ⟨rfl, ?_⟩
    simp only [Write.run, NestedMap.row_set, if_true, h]
  | cput r c cur new =>
    cases hx
    have htouch := NestedMap.row_touch_of_row h c []
    simp only [Write.run, NestedMap.get_of_row htouch]
    split
    · refine ⟨rfl, ?_⟩
      simp only [NestedMap.row_set, if_true, htouch]
    · exact ⟨rfl, htouch⟩
  | delete r c =>
    cases hx
    refine ⟨rfl, ?_⟩
    simp only [Write.run, NestedMap.row_eraseCell, if_true, h]

/-- An answer to a command on a row depends on that row only. -/
lemma readReply_of_row {u : Str} {parameters : List Str} (hp : OnRow u parameters)
    {t t' : Table} (h : t.row u = t'.row u) : readReply parameters t = readReply parameters t' := by
  cases parameters with
  | nil => rfl
  | cons word args =>
    unfold readReply
    dsimp only
    by_cases hget : word = "GET ".toList
    · subst hget
      rw [if_pos rfl, if_pos rfl]
      unfold getReply
      match args, hp.get with
      | [row, col], hrow =>
        cases hrow row col rfl
        dsimp only
        rw [NestedMap.get_of_row h]
      | [], _ | [_], _ | _ :: _ :: _ :: _, _ => rfl
    rw [if_neg hget, if_neg hget]
    by_cases hlist : word = "LIST ".toList
    · subst hlist
      rw [if_pos rfl, if_pos rfl]
      match args, hp.list args rfl with
      | [row], hrow =>
        cases hrow
        unfold listReply
        dsimp only
        rw [h]
      | row :: start :: extra, hrow =>
        cases hrow
        rw [listReply_eq, listReply_eq, columnsFrom, columnsFrom, h]
    · rw [if_neg hlist, if_neg hlist]

/-- Two tables with the same row answer a command on it alike, and agree on it afterwards. -/
theorem answerTo_of_row {u : Str} {parameters : List Str} (hp : OnRow u parameters)
    {t t' : Table} (h : t.row u = t'.row u) :
    (answerTo parameters t = none ∧ answerTo parameters t' = none) ∨
    ∃ reply s s', answerTo parameters t = some (reply, s) ∧
      answerTo parameters t' = some (reply, s') ∧ s.row u = s'.row u ∧ OthersKept u t s := by
  unfold answerTo
  cases hx : writeOf parameters with
  | some x =>
    have hrow := hp.write x hx
    obtain ⟨hok, hsame⟩ := run_of_row hrow h
    right
    refine ⟨writeReply x t, _, _, rfl, ?_, hsame, run_othersKept hrow t⟩
    unfold writeReply
    rw [hok]
  | none =>
    dsimp only
    rw [readReply_of_row hp h]
    cases readReply parameters t' with
    | none => exact Or.inl ⟨rfl, rfl⟩
    | some reply => exact Or.inr ⟨reply, t, t', rfl, rfl, h, OthersKept.refl u t⟩

/-! ### Texts on a row -/

lemma onRow_cons (word u : Str) (args : List Str) : OnRow u (word :: u :: args) where
  write x hx := by
    obtain ⟨extra, he⟩ := eq_of_writeOf hx
    have htail := (List.cons.inj he).2
    cases x <;> exact congrArg some (List.cons.inj htail).1.symm
  get row col h := (List.cons.inj (List.cons.inj h).2).1.symm
  list args' h := by
    rw [← (List.cons.inj h).2]
    rfl

/-- The text is a single command, on the row `u`. -/
def AskedOnRow (u text : Str) : Prop :=
  ∃ c, NoCrlf c ∧ text = c ++ "\r\n".toList ∧ OnRow u (splitKVStoreCommand c)

/-- A command word, a user name without comma, and a text without CR LF. -/
lemma askedOnRow_word {v u x : Str} (hb : ' ' ∉ v) (hr : '\r' ∉ v)
    (hup : (v ++ [' ']).map Char.toUpper = v ++ [' ']) (hcomma : ',' ∉ u) (hu : NoCrlf u)
    (hx : NoCrlf x) :
    AskedOnRow u (v ++ [' '] ++ u ++ ",".toList ++ x ++ "\r\n".toList) := by
  refine ⟨v ++ [' '] ++ (u ++ ',' :: x), noCrlf_word hr (hu.comma hx), ?_, ?_⟩
  · rw [List.append_assoc _ ",".toList, List.append_assoc _ u]
    rfl
  · rw [splitKVStoreCommand_blank hb hup, getlines_append_delim hcomma]
    exact onRow_cons _ u _

/-- What a session asks of the storage is on the row of its user. -/
def RowQuestions (u : Str) : Action → Prop
  | .connect _ => False
  | .storage _ text => AskedOnRow u text
  | .mail _ => True

/-- An answer to GET ends at its only CR LF, as far as it is stored again. -/
def RowAnswers : (i : Action) → i.Answer → Prop
  | .connect _, _ => True
  | .storage _ text, response => ∀ c, text = c ++ "\r\n".toList →
      (splitKVStoreCommand c).head? = some "GET ".toList →
      ∃ y, NoCrlf y ∧ response.drop 4 = y ++ "\r\n".toList
  | .mail _, _ => True

lemma permits_row {u : Str} (hcomma : ',' ∉ u) (hu : NoCrlf u) :
    Permits (RowQuestions u) RowAnswers u NoCrlf
      (fun r => ∃ y, NoCrlf y ∧ r = y ++ "\r\n".toList) where
  mail _ := trivial
  list x hx := askedOnRow_word (v := "LIST".toList) (by decide) (by decide) rfl hcomma hu hx
  get x hx := askedOnRow_word (v := "GET".toList) (by decide) (by decide) rfl hcomma hu hx
  delete x hx := askedOnRow_word (v := "DELETE".toList) (by decide) (by decide) rfl hcomma hu hx
  put x r hx hr := by
    obtain ⟨y, hy, rfl⟩ := hr
    have hask := askedOnRow_word (v := "PUT".toList) (by decide) (by decide) rfl hcomma hu
      (hx.comma hy)
    have htext : "PUT".toList ++ [' '] ++ u ++ ",".toList ++ (x ++ ',' :: y) ++ "\r\n".toList =
        "PUT ".toList ++ u ++ ",".toList ++ x ++ ",".toList ++ (y ++ "\r\n".toList) := by
      rw [← List.append_assoc _ x, List.append_assoc _ (',' :: y),
        List.append_assoc _ ",".toList (y ++ _)]
      rfl
    exact htext ▸ hask
  rest x response r hx hq hs := by
    have hget := splitKVStoreCommand_blank (v := "GET".toList) (by decide) rfl
      (u ++ ",".toList ++ x)
    obtain ⟨y, hy, hd⟩ := hq ("GET ".toList ++ (u ++ ",".toList ++ x)) (by
      rw [← List.append_assoc, ← List.append_assoc]) (congrArg List.head? hget)
    refine ⟨y, hy, ?_⟩
    unfold substr at hs
    split at hs
    · cases hs
      exact hd
    · exact absurd hs (by simp)
  value y hy := ⟨y, hy, rfl⟩
  slash x y hx hy := by
    rw [List.append_assoc]
    exact NoCrlf.sep (by decide : '/' ≠ '\r') (by decide) hx hy
  noCr y hy := noCrlf_of_not_mem hy
  noLf y hy := noCrlf_of_no_newline hy

/-! ### Answers on a row -/

/-- No value in the row holds a CR LF, as no command does. -/
def CleanRow (u : Str) (t : Table) : Prop := ∀ col v, t.get u col = some v → NoCrlf v

lemma CleanRow.run {u : Str} {t : Table} (h : CleanRow u t) {x : Write}
    (hx : ∀ f ∈ x.fields, NoCrlf f) : CleanRow u (x.run t).1 := by
  have htouch (r c : Str) : CleanRow u (t.touch r c []) := by
    intro col v hv
    rw [NestedMap.get_touch] at hv
    split at hv
    · next heq =>
      obtain ⟨rfl, rfl⟩ := heq
      cases hv
      cases hg : NestedMap.get t u col with
      | none => exact List.isChain_nil
      | some v => exact h col v hg
    · exact h col v hv
  have hset {t' : Table} (h' : CleanRow u t') (r c : Str) {new : Str} (hnew : NoCrlf new) :
      CleanRow u (t'.set r c new) := by
    intro col v hv
    rw [NestedMap.get_set] at hv
    split at hv
    · cases hv
      exact hnew
    · exact h' col v hv
  cases x with
  | put r c v => exact hset h r c (hx v (by simp [Write.fields]))
  | cput r c cur new =>
    simp only [Write.run]
    split
    · exact hset (htouch r c) r c (hx new (by simp [Write.fields]))
    · exact htouch r c
  | delete r c =>
    intro col v hv
    rw [Write.run, NestedMap.get_eraseCell] at hv
    split at hv
    · exact absurd hv (by simp)
    · exact h col v hv

lemma word_ne_get (x : Write) : x.word ≠ "GET ".toList := by
  cases x with
  | put => exact (by decide : "PUT ".toList ≠ "GET ".toList)
  | cput => exact (by decide : "CPUT ".toList ≠ "GET ".toList)
  | delete => exact (by decide : "DELETE ".toList ≠ "GET ".toList)

lemma getReply_rest {u : Str} {t : Table} (h : CleanRow u t) {args : List Str}
    (hrow : ∀ row col, args = [row, col] → row = u) :
    ∃ y, NoCrlf y ∧ (getReply t args).drop 4 = y ++ "\r\n".toList := by
  have hinvalid : ∃ y, NoCrlf y ∧
      "-ERR Invalid GET parameters\r\n".toList.drop 4 = y ++ "\r\n".toList :=
    ⟨" Invalid GET parameters".toList, by decide, rfl⟩
  match args, hrow with
  | [row, col], hrow =>
    cases hrow row col rfl
    unfold getReply
    dsimp only
    cases hg : NestedMap.get t u col with
    | none => exact ⟨" Not Found".toList, by decide, rfl⟩
    | some v => exact ⟨v, h col v hg, rfl⟩
  | [], _ | [_], _ | _ :: _ :: _ :: _, _ => exact hinvalid

lemma answerTo_clean {u c reply : Str} {t s : Table} (hc : NoCrlf c)
    (hrow : OnRow u (splitKVStoreCommand c)) (h : CleanRow u t)
    (ha : answerTo (splitKVStoreCommand c) t = some (reply, s)) :
    CleanRow u s ∧ ((splitKVStoreCommand c).head? = some "GET ".toList →
      ∃ y, NoCrlf y ∧ reply.drop 4 = y ++ "\r\n".toList) := by
  unfold answerTo at ha
  cases hx : writeOf (splitKVStoreCommand c) with
  | some x =>
    rw [hx] at ha
    cases ha
    obtain ⟨extra, hsplit⟩ := eq_of_writeOf hx
    refine ⟨h.run (noCrlf_fields hc hsplit), fun hget => ?_⟩
    rw [hsplit, List.head?_cons] at hget
    exact absurd (Option.some.inj hget) (word_ne_get x)
  | none =>
    rw [hx] at ha
    obtain ⟨reply', hreply, ha⟩ := Option.map_eq_some_iff.mp ha
    cases ha
    refine ⟨h, fun hget => ?_⟩
    generalize splitKVStoreCommand c = parameters at hrow hreply hget
    cases parameters with
    | nil => exact absurd hget (by simp)
    | cons word args =>
      cases hget
      cases hreply
      exact getReply_rest h (fun row col hargs => hrow.get row col (hargs ▸ rfl))

/-! ### Two stores side by side -/

variable {σ : Type} {S : StorageService σ}

/-- Two states of a store that agree on the row `u`. The other rows of the first one are as
they were in the table `t₀`. -/
structure SideBySide (S : StorageService σ) (u : Str) (t₀ : Table) (e e' : σ) : Prop where
  valid : S.valid e
  valid' : S.valid e'
  row : (S.table e).row u = (S.table e').row u
  clean : CleanRow u (S.table e)
  others : OthersKept u t₀ (S.table e)

/-- Questions about a row get the same answer side by side. -/
lemma answers_side_by_side {u : Str} {t₀ : Table} {i : Action} {e e' : σ}
    (hi : RowQuestions u i) (h : SideBySide S u t₀ e e') :
    Matching (SideBySide S u t₀) (RowAnswers i) (S.answer i e) (S.answer i e') := by
  cases i with
  | connect v => exact hi.elim
  | mail text =>
    obtain ⟨x, hx, hv, ht⟩ := S.mail text e h.valid
    obtain ⟨x', hx', hv', ht'⟩ := S.mail text e' h.valid'
    refine Or.inr ⟨(), x, x', hx, hx', trivial, ?_⟩
    exact ⟨hv, hv', by rw [ht, ht', h.row], ht ▸ h.clean, ht ▸ h.others⟩
  | storage v text =>
    obtain ⟨c, hc, rfl, hrow⟩ := hi
    have hs := S.storage v c e h.valid hc
    have hs' := S.storage v c e' h.valid' hc
    rcases answerTo_of_row hrow h.row with ⟨ha, ha'⟩ | ⟨reply, t, t', ha, ha', hsame, hkept⟩
    · rw [ha] at hs
      rw [ha'] at hs'
      exact Or.inl ⟨hs, hs'⟩
    · rw [ha] at hs
      rw [ha'] at hs'
      obtain ⟨x, hx, hv, ht⟩ := hs
      obtain ⟨x', hx', hv', ht'⟩ := hs'
      obtain ⟨hclean, hrest⟩ := answerTo_clean hc hrow h.clean ha
      refine Or.inr ⟨reply, x, x', hx, hx', ?_, ?_⟩
      · intro d hd hget
        rw [List.append_cancel_right hd] at hrest
        exact hrest hget
      · subst ht ht'
        exact ⟨hv, hv', hsame, hclean, h.others.trans hkept⟩

/-! ### What urls leave in a session -/

lemma noCrlf_urlOf {target url : Str} {rest : Option Str} (h : NoCrlf target)
    (hu : urlOf target = some (url, rest)) :
    NoCrlf url ∧ ∀ text, rest = some text → NoCrlf text := by
  have hs : NoCrlf (target.dropWhile (· = ' ')) :=
    List.IsChain.infix h (List.dropWhile_suffix _).isInfix
  have hurl : NoCrlf ((target.dropWhile (· = ' ')).takeWhile (· ≠ ' ')) :=
    List.IsChain.infix hs (List.takeWhile_prefix _).isInfix
  unfold urlOf at hu
  dsimp only at hu
  split at hu
  · exact absurd hu (by simp)
  split at hu
  · cases hu
    refine ⟨hurl, fun text ht => ?_⟩
    cases ht
    exact List.IsChain.infix hs (List.drop_suffix _ _).isInfix
  · cases hu
    exact ⟨hurl, fun text ht => absurd ht (by simp)⟩

lemma noCrlf_mailItem {url item : Str} {rest : Option Str} (hurl : NoCrlf url)
    (hrest : ∀ text, rest = some text → NoCrlf text) (h : mailItem url rest = some item) :
    NoCrlf item := by
  unfold mailItem at h
  split at h
  · cases h
    exact List.isChain_nil
  · next pos _ =>
    split at h
    · exact hrest item h
    · next ch item' hd =>
      cases h
      have hin : ch :: item <:+ url := hd ▸ List.drop_suffix _ url
      exact List.IsChain.infix hurl ((List.suffix_cons ch item).trans hin).isInfix

lemma received_item {s t : Session} {r : Request} (hs : NoCrlf s.item)
    (ht : s.received r = some t) : NoCrlf t.item := by
  obtain ⟨-, -, u, hu, -, hitem⟩ := received_same ht
  rw [hitem]
  unfold Session.requestLine at hu
  obtain ⟨⟨url, rest⟩, hurl, hu⟩ := Option.bind_eq_some_iff.mp hu
  obtain ⟨hclean, hrest⟩ :=
    noCrlf_urlOf (noCrlf_of_contains (r.lines _ List.mem_cons_self)) hurl
  cases hm : r.method with
  | POST =>
    simp only [hm] at hu
    cases hu
    exact hs
  | GET =>
    simp only [hm] at hu
    unfold Session.getLine at hu
    split at hu
    · cases hu
      exact hs
    split at hu
    · cases hu
      exact hs
    split at hu
    · cases hu
      unfold extractPath
      cases findStr "drive/".toList url with
      | none => exact List.isChain_nil
      | some pos => exact List.IsChain.infix hclean (List.drop_suffix _ _).isInfix
    split at hu
    · obtain ⟨item, hmail, hu⟩ := Option.map_eq_some_iff.mp hu
      cases hu
      exact noCrlf_mailItem hclean hrest hmail
    · cases hu
      exact hs

/-- A session of a connection that is logged in. -/
def LoggedIn (b : Base64) (s : Session) : Prop :=
  s.logged_in = true ∧ ∃ (τ : Type) (env : (i : Action) → τ → Option (i.Answer × τ)) (d : τ),
    (connection b env).Reachable (fun _ _ => True) (s, d)

lemma LoggedIn.item {b : Base64} {s : Session} (h : LoggedIn b s) : NoCrlf s.item := by
  obtain ⟨-, τ, env, d, hreach⟩ := h
  apply hreach.invariant (I := fun x => NoCrlf x.1.item)
  · rintro x ⟨sid, hx⟩
    rw [hx]
    exact List.isChain_nil
  · intro x r y hx _ hy
    obtain ⟨⟨⟨s', page⟩, e'⟩, hrun, hy⟩ := Option.map_eq_some_iff.mp hy
    cases hy
    obtain ⟨t, ht⟩ := received_of_run hrun
    rw [request_item ht hrun]
    exact received_item hx ht

/-! ### Runs -/

/-- Requests one after another, with the pages they get. -/
def browse (b : Base64) : List Request → Session → Web (List Page × Session)
  | [], s => return ([], s)
  | r :: rs, s => do
    let (s, page) ← s.request b r
    let (pages, s) ← browse b rs s
    return (page :: pages, s)

/-- A request with the cookie of the session that is no login, signup or password change. -/
def Ordinary (s : Session) (r : Request) : Prop :=
  cookieSent r = some s.sid ∧ ∀ t, s.received r = some t → NoCredentials t.reply_code

/-- No field of the request that becomes part of a column holds a CR LF, and the emails that
it names are in the row of the user. -/
structure KeepsToRow (b : Base64) (s : Session) (r : Request) : Prop where
  fields : ∀ t, s.received r = some t → ∀ x ∈ fieldsOf t r.content, NoCrlf x
  emails : ∀ t, s.received r = some t →
    ∀ text ∈ ownCommands b t r.content, AskedOnRow s.username text

/-- The replies are the same from both stores, and no cell of another row changes. -/
def Confined (b : Base64) (S : StorageService σ) (s : Session) (e e' : σ) (rs : List Request) :
    Prop :=
  ((browse b rs s).run S.answer e).map Prod.fst = ((browse b rs s).run S.answer e').map Prod.fst ∧
    ∀ y, (browse b rs s).run S.answer e = some y →
      OthersKept s.username (S.table e) (S.table y.2)

lemma browse_cons (b : Base64) (r : Request) (rs : List Request) (s : Session)
    (env : (i : Action) → σ → Option (i.Answer × σ)) (e : σ) :
    (browse b (r :: rs) s).run env e = ((s.request b r).run env e).bind (fun x =>
      ((browse b rs x.1.1).run env x.2).map (fun y => ((x.1.2 :: y.1.1, y.1.2), y.2))) := by
  rw [browse, run_bind]
  congr 1
  funext x
  rw [run_bind]
  cases (browse b rs x.1.1).run env x.2 <;> rfl

lemma side_by_side_request {b : Base64} {s : Session} {t₀ : Table} {e e' : σ} {r : Request}
    (hcomma : ',' ∉ s.username) (hu : NoCrlf s.username) (hi : NoCrlf s.item)
    (ho : Ordinary s r) (hr : KeepsToRow b s r) (h : SideBySide S s.username t₀ e e') :
    Matching (SideBySide S s.username t₀)
      (fun y => y.1.username = s.username ∧ NoCrlf y.1.item)
      ((s.request b r).run S.answer e) ((s.request b r).run S.answer e') := by
  cases ht : s.received r with
  | none =>
    have hstop : s.request b r = .stop := by
      unfold Session.request
      rw [ht, ofOption_none, stop_bind]
    rw [hstop]
    exact Or.inl ⟨rfl, rfl⟩
  | some t =>
    have hit := received_item hi ht
    have hasks := (permits_row hcomma hu).asks_request (b := b) ht rfl hit (ho.2 t ht)
      (hr.fields t ht) (hr.emails t ht)
    have hasks' : (s.request b r).Asks (RowQuestions s.username) RowAnswers
        (fun y => y.1.username = s.username ∧ NoCrlf y.1.item) :=
      hasks.mono (fun y hy => ⟨hy.1.username, hy.2 ▸ hit⟩)
    exact hasks'.run_matching (fun _ _ _ hp hs => answers_side_by_side hp hs) h

/-- Two stores that agree on the row of the user give the same replies to a run of requests,
and stay side by side. -/
lemma side_by_side_run {b : Base64} {rs : List Request} {s : Session} {t₀ : Table} {e e' : σ}
    (hcomma : ',' ∉ s.username) (hu : NoCrlf s.username) (hi : NoCrlf s.item)
    (h : SideBySide S s.username t₀ e e')
    (hrs : Throughout b S.answer (s, e) rs (fun s r => Ordinary s r ∧ KeepsToRow b s r)) :
    Matching (SideBySide S s.username t₀) (fun _ => True)
      ((browse b rs s).run S.answer e) ((browse b rs s).run S.answer e') := by
  induction rs generalizing s e e' with
  | nil => exact Or.inr ⟨([], s), e, e', rfl, rfl, trivial, h⟩
  | cons r rs ih =>
    rw [browse_cons, browse_cons]
    obtain ⟨⟨ho, hr⟩, htail⟩ := hrs
    rcases side_by_side_request hcomma hu hi ho hr h with
      ⟨hx, hx'⟩ | ⟨⟨s', page⟩, x, x', hx, hx', ⟨hname, hitem⟩, hside⟩
    · rw [hx, hx']
      exact Or.inl ⟨rfl, rfl⟩
    · rw [hx, hx', Option.bind_some, Option.bind_some]
      dsimp only at hname hitem ⊢
      have hnext : (connection b S.answer).next (s, e) r = some (s', x) := by
        unfold connection
        dsimp only
        rw [hx]
        rfl
      have hlater := htail _ hnext
      rw [← hname] at hcomma hu hside ⊢
      rcases ih hcomma hu hitem hside hlater with ⟨hy, hy'⟩ | ⟨y, z, z', hy, hy', -, hz⟩
      · rw [hy, hy']
        exact Or.inl ⟨rfl, rfl⟩
      · rw [hy, hy']
        exact Or.inr ⟨(page :: y.1, y.2), z, z', rfl, rfl, trivial, hz⟩

/-- A session is confined to the row of its user if the user's name holds no comma and no CR
LF, and its requests keep to the row. -/
theorem session_confined_to_row {b : Base64} {s : Session} (hs : LoggedIn b s)
    (hcomma : ',' ∉ s.username) (hu : NoCrlf s.username) {e e' : σ} (he : S.valid e)
    (he' : S.valid e') (hrow : (S.table e).row s.username = (S.table e').row s.username)
    (hclean : CleanRow s.username (S.table e)) {rs : List Request}
    (hrs : Throughout b S.answer (s, e) rs (fun s r => Ordinary s r ∧ KeepsToRow b s r)) :
    Confined b S s e e' rs := by
  have hside : SideBySide S s.username (S.table e) e e' :=
    ⟨he, he', hrow, hclean, OthersKept.refl _ _⟩
  rcases side_by_side_run hcomma hu hs.item hside hrs with
    ⟨hx, hx'⟩ | ⟨y, x, x', hx, hx', -, hend⟩
  · constructor
    · rw [hx, hx']
    · intro y hy
      rw [hx] at hy
      exact absurd hy (by simp)
  · constructor
    · rw [hx, hx']
      rfl
    · intro z hz
      rw [hx] at hz
      cases hz
      exact hend.others

/-- Anna's session after her login. -/
def annasSession : Session where
  sid := "5f".toList
  reply_code := .FORBIDDEN
  username := "anna".toList
  logged_in := true
  authenticated := some "anna".toList

lemma annasSession_loggedIn : LoggedIn base64 annasSession := by
  refine ⟨rfl, Option Str, alwaysQwerty.answer, some "anna".toList, ?_⟩
  have hstart : (connection base64 alwaysQwerty.answer).Reachable (fun _ _ => True)
      ({ sid := "5f".toList }, none) := .init ⟨"5f".toList, rfl⟩
  have hnext : (connection base64 alwaysQwerty.answer).next ({ sid := "5f".toList }, none)
      (loginRequest "username=anna&password=qwerty".toList) =
      some (annasSession, some "anna".toList) := by
    decide +kernel
  exact hstart.step trivial hnext

/-- A request for a page, with the cookie of that session. -/
def annasRequest (target : Str) (h : contains "\r\n".toList target = false) : Request where
  method := .GET
  target := target
  headers := ["Cookie: sid=5f".toList]
  lines := by
    intro l hl
    rcases List.mem_cons.mp hl with rfl | hl
    · exact h
    · exact List.mem_singleton.mp hl ▸ (by decide)
  headers_ne := by decide

/-- The store of one server on which Bob has a single email. -/
def bobsStore : World :=
  aloneWorld ((∅ : Table).set "bob".toList "/emails/1".toList "aGk=".toList)

lemma bobsStore_clean : CleanRow annasSession.username
    ((aloneService 0 (group1Address 2001)).table bobsStore) := by
  intro col v hv
  have hnone : NestedMap.get ((∅ : Table).set "bob".toList "/emails/1".toList "aGk=".toList)
      "anna".toList col = none := by
    rw [NestedMap.get_set, if_neg (fun h => absurd h.1 (by decide)), NestedMap.get_empty]
  exact absurd (hnone.symm.trans hv) (by simp)

/-- The text of a command on the row. -/
def askedOnRow (u text : Str) : Bool :=
  let c := text.take (text.length - 2)
  text = c ++ "\r\n".toList && decide (NoCrlf c) && (splitKVStoreCommand c)[1]? = some u

lemma askedOnRow_of_check {u text : Str} (h : askedOnRow u text = true) : AskedOnRow u text := by
  obtain ⟨h, hrow⟩ := Bool.and_eq_true_iff.mp h
  obtain ⟨htext, hcrlf⟩ := Bool.and_eq_true_iff.mp h
  refine ⟨_, of_decide_eq_true hcrlf, of_decide_eq_true htext, ?_⟩
  have hrow := of_decide_eq_true hrow
  generalize splitKVStoreCommand (text.take (text.length - 2)) = parameters at hrow ⊢
  rcases parameters with _ | ⟨word, _ | ⟨row, args⟩⟩
  · exact absurd hrow (by simp)
  · exact absurd hrow (by simp)
  · obtain rfl : row = u := Option.some.inj hrow
    exact onRow_cons word row args

instance : DecidablePred NoCredentials := fun _ => inferInstanceAs (Decidable (_ ∧ _ ∧ _))

/-- The conditions on a request. -/
def keepsToRow (b : Base64) (s : Session) (r : Request) : Bool :=
  cookieSent r = some s.sid && (s.received r).all (fun t =>
    decide (NoCredentials t.reply_code) &&
    (fieldsOf t r.content).all (fun x => decide (NoCrlf x)) &&
    (ownCommands b t r.content).all (askedOnRow s.username))

lemma keepsToRow_of_check {b : Base64} {s : Session} {r : Request}
    (h : keepsToRow b s r = true) : Ordinary s r ∧ KeepsToRow b s r := by
  obtain ⟨hcookie, hall⟩ := Bool.and_eq_true_iff.mp h
  have hparts (t : Session) (ht : s.received r = some t) :
      NoCredentials t.reply_code ∧ (∀ x ∈ fieldsOf t r.content, NoCrlf x) ∧
        ∀ text ∈ ownCommands b t r.content, AskedOnRow s.username text := by
    rw [ht, Option.all_some] at hall
    obtain ⟨hall, hown⟩ := Bool.and_eq_true_iff.mp hall
    obtain ⟨hcode, hfields⟩ := Bool.and_eq_true_iff.mp hall
    refine ⟨of_decide_eq_true hcode, fun x hx => ?_, fun text htext => ?_⟩
    · exact of_decide_eq_true (List.all_eq_true.mp hfields x hx)
    · exact askedOnRow_of_check (List.all_eq_true.mp hown text htext)
  exact ⟨⟨of_decide_eq_true hcookie, fun t ht => (hparts t ht).1⟩,
    fun t ht => (hparts t ht).2.1, fun t ht => (hparts t ht).2.2⟩

/-- Anna has an email of Carl and a file. -/
def annasRow : Table :=
  ((∅ : Table).set "anna".toList "/emails/carl/MQ==".toList "aGk=".toList).set "anna".toList
    "/content/a.txt".toList "QQ==".toList

/-- Next to them, Bob has an email. -/
def sharedRows : Table := annasRow.set "bob".toList "/emails/1".toList "aGk=".toList

lemma sharedRows_clean : CleanRow annasSession.username
    ((aloneService 0 (group1Address 2001)).table (aloneWorld sharedRows)) := by
  intro col v hv
  have hmem := (NestedMap.mem_cells sharedRows _ col v).mpr hv
  exact (by decide : ∀ e ∈ sharedRows.cells, NoCrlf e.2) _ hmem

def annasTargets : List Str :=
  ["/mailbox/anna,/emails/carl/MQ== HTTP/1.1".toList,
    "/mailbox/delete/anna,/emails/carl/MQ== HTTP/1.1".toList, "/drive HTTP/1.1".toList]

lemma annasTargets_oneLine : ∀ target ∈ annasTargets, contains "\r\n".toList target = false := by
  decide

lemma renameTarget_oneLine : contains "\r\n".toList "/rename HTTP/1.1".toList = false := by decide

/-- Anna views her email, deletes it, looks at her folders and renames her file. -/
def annasRequests : List Request :=
  annasTargets.pmap annasRequest annasTargets_oneLine ++
    [{ annasRequest "/rename HTTP/1.1".toList renameTarget_oneLine with
        method := .POST, content := "fileName=a.txt&newName=b.txt".toList }]

theorem session_confined_to_row_requests :
    Confined base64 (aloneService 0 (group1Address 2001)) annasSession (aloneWorld sharedRows)
      (aloneWorld annasRow) annasRequests ∧
    ∃ y, (browse base64 annasRequests annasSession).run
        (aloneService 0 (group1Address 2001)).answer (aloneWorld sharedRows) = some y ∧
      (y.2.server (group1Address 2001)).table.cells.map Prod.fst =
        [("anna".toList, "/content/b.txt".toList), ("bob".toList, "/emails/1".toList)] := by
  have hcheck : (connection base64 (aloneService 0 (group1Address 2001)).answer).checkAlong
      (fun x r => keepsToRow base64 x.1 r) (annasSession, aloneWorld sharedRows)
      annasRequests = true := by
    decide +kernel
  have hrun : ((browse base64 annasRequests annasSession).run
      (aloneService 0 (group1Address 2001)).answer (aloneWorld sharedRows)).map
      (fun y => (y.2.server (group1Address 2001)).table.cells.map Prod.fst) =
      some [("anna".toList, "/content/b.txt".toList), ("bob".toList, "/emails/1".toList)] := by
    decide +kernel
  have hkeeps : Throughout base64 (aloneService 0 (group1Address 2001)).answer
      (annasSession, aloneWorld sharedRows) annasRequests
      (fun s r => Ordinary s r ∧ KeepsToRow base64 s r) := by
    refine System.along_of_check (I := fun _ => True) ?_ ?_ trivial hcheck
    · exact fun _ _ _ h => keepsToRow_of_check h
    · exact fun _ _ _ _ _ _ => trivial
  have hrow : NestedMap.row sharedRows "anna".toList = NestedMap.row annasRow "anna".toList := by
    rw [sharedRows, NestedMap.row_set, if_neg (by decide)]
  refine ⟨?_, Option.map_eq_some_iff.mp hrun⟩
  exact session_confined_to_row (S := aloneService 0 (group1Address 2001))
    annasSession_loggedIn (by decide) (by decide) (aloneWorld_alone _) (aloneWorld_alone _)
    hrow sharedRows_clean hkeeps

/-- Anna deletes Bob's email by its name. -/
theorem email_of_other_row_deleted : ¬∀ (b : Base64) (σ : Type) (S : StorageService σ)
    (s : Session) (e e' : σ) (rs : List Request), LoggedIn b s → S.valid e → S.valid e' →
      (S.table e).row s.username = (S.table e').row s.username →
      CleanRow s.username (S.table e) → Throughout b S.answer (s, e) rs Ordinary →
      Confined b S s e e' rs := by
  intro h
  let request := annasRequest "/mailbox/delete/bob,/emails/1 HTTP/1.1".toList (by decide)
  have hrec : annasSession.received request = some { annasSession with
      reply_code := .EMAIL, item := "delete/bob,/emails/1".toList,
      tmp_sid := "5f".toList } := by
    decide +kernel
  have hordinary : Ordinary annasSession request := by
    refine ⟨by decide +kernel, fun t ht => ?_⟩
    cases hrec.symm.trans ht
    exact ⟨by decide, by decide, by decide⟩
  have hconf := h base64 World (aloneService 0 (group1Address 2001)) annasSession bobsStore
    bobsStore [request] annasSession_loggedIn (aloneWorld_alone _) (aloneWorld_alone _) rfl
    bobsStore_clean (System.along_one hordinary)
  obtain ⟨y, hy, hgone⟩ : ∃ y, (browse base64 [request] annasSession).run
      (aloneService 0 (group1Address 2001)).answer bobsStore = some y ∧
      (y.2.server (group1Address 2001)).table.get "bob".toList "/emails/1".toList = none := by
    have hrun : ((browse base64 [request] annasSession).run
        (aloneService 0 (group1Address 2001)).answer bobsStore).map (fun y =>
          (y.2.server (group1Address 2001)).table.get "bob".toList "/emails/1".toList) =
        some none := by
      decide +kernel
    exact Option.map_eq_some_iff.mp hrun
  have hkept := hconf.2 y hy "bob".toList (by decide) "/emails/1".toList
  have hthere : NestedMap.get ((aloneService 0 (group1Address 2001)).table bobsStore)
      "bob".toList "/emails/1".toList = some "aGk=".toList := by
    decide +kernel
  rw [hthere] at hkept
  exact absurd (hgone.symm.trans hkept) (by simp)

end CloudStorage.Proofs
