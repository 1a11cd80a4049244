import CloudStorage.Proofs.Forwarding
import CloudStorage.Proofs.RemoteControl

/-!
# The requests of the admin console

What a thread of `admin.cc` does with the request of each button, however the replies of the
servers are cut up on their way.
-/

namespace CloudStorage.Proofs
open DelimitedText

/-! ### The threads -/

lemma target_line {url : Str} (h : '\r' ∉ url) :
    contains "\r\n".toList (url ++ " HTTP/1.1".toList) = false := by
  refine contains_of_noCrlf (noCrlf_of_not_mem ?_)
  rw [List.mem_append, not_or]
  exact ⟨h, by decide⟩

lemma serverUrl_no_cr (port : Int) : '\r' ∉ serverUrl port := by
  have hport : '\r' ∉ toStr port := not_mem_toStr (by decide) (by decide)
  simpa [serverUrl] using hport

/-- The button of a server, with the word that it sends. -/
def serverRequest (port : Int) (word : Str) : Request :=
  formRequest (serverUrl port ++ " HTTP/1.1".toList) ("action=".toList ++ word)
    (target_line (serverUrl_no_cr port))

/-- The form of a cell. -/
def cellForm (row col : Str) : Str :=
  form [("key".toList, row), ("value".toList, col), ("get-value".toList, [])]

lemma look_lines : ∀ l ∈ ["/admin HTTP/1.1".toList], contains "\r\n".toList l = false := by
  intro l hl
  rw [List.mem_singleton.mp hl]
  decide

lemma look_headers : ∀ h ∈ ([] : List Str), h ≠ [] := fun _ hh => absurd hh List.not_mem_nil

lemma getValue_line : contains "\r\n".toList "/get-value HTTP/1.1".toList = false := by decide

def Button.request : Button → Request
  | .look => {
      method := .GET
      target := "/admin HTTP/1.1".toList
      headers := []
      lines := look_lines
      headers_ne := look_headers }
  | .switchFrontend port on | .switchBackend port on => serverRequest port (switchWord on)
  | .view port => serverRequest port "VIEW".toList
  | .getValue row col => formRequest "/get-value HTTP/1.1".toList (cellForm row col) getValue_line

/-- The connections, what they share, and the servers. -/
structure PanelState where
  session : Nat → PanelSession
  panel : Panel
  world : PanelWorld

/-- Each request is answered before the next is read on any connection. -/
def panelMachine (b : Base64) (result : Nat) (cut : Str → List Str) :
    Machine PanelEvent (Option PanelPage) PanelState
  | .press i button, x =>
    (((x.session i).request x.panel button.request).run (answerPanel b result cut) x.world).map
      (fun y => (some y.1.1, ⟨assign x.session i y.1.2.1, y.1.2.2, y.2⟩))
  | .change peer, x => some (none, { x with world := { x.world with peer := peer } })

/-! ### Request lines -/

lemma urlOf_line {url : Str} (hne : url ≠ []) (h : ' ' ∉ url) :
    urlOf (url ++ " HTTP/1.1".toList) = some (url, some "HTTP/1.1".toList) := by
  obtain ⟨ch, rest, rfl⟩ := List.exists_cons_of_ne_nil hne
  have hch : ch ≠ ' ' := fun heq => h (heq ▸ List.mem_cons_self)
  have hdrop : (ch :: rest ++ " HTTP/1.1".toList).dropWhile (· = ' ') =
      ch :: rest ++ ' ' :: "HTTP/1.1".toList := by
    rw [List.cons_append, List.dropWhile_cons_of_neg (by simpa using hch)]
    rfl
  have htake : (ch :: rest ++ ' ' :: "HTTP/1.1".toList).takeWhile (· ≠ ' ') = ch :: rest :=
    before_append h _
  unfold urlOf
  dsimp only
  rw [hdrop, htake, if_neg (List.cons_ne_nil ch rest), if_pos (by simp), after_append h]

lemma serverUrl_ne_nil (port : Int) : serverUrl port ≠ [] := List.cons_ne_nil _ _

lemma serverUrl_no_blank (port : Int) : ' ' ∉ serverUrl port := by
  have hport : ' ' ∉ toStr port := not_mem_toStr (by decide) (by decide)
  simpa [serverUrl] using hport

lemma serverUrl_inj {m n : Int} : serverUrl m = serverUrl n ↔ m = n :=
  ⟨fun h => toStr_injective (List.cons.inj h).2, congrArg serverUrl⟩

lemma serverUrl_ne_getValue (port : Int) : serverUrl port ≠ "/get-value".toList := by
  intro h
  have hport : 'g' ∉ toStr port := not_mem_toStr (by decide) (by decide)
  have htext : toStr port = "get-value".toList := (List.cons.inj h).2
  exact hport (htext ▸ by decide)

section Lookup

variable {s : PanelSession} {port : Int}

lemma findBackend_server (group : Int × List BackendServerInfo) :
    s.findBackend (serverUrl port) group =
      if port ∈ group.2.map BackendServerInfo.tcpPort2 then
        { s with reply_code := .BACKSERVER, server_port := some port }
      else s := by
  unfold PanelSession.findBackend
  cases hfind : group.2.find? (fun info => serverUrl port = serverUrl info.tcpPort2) with
  | none =>
    rw [if_neg]
    intro hmem
    obtain ⟨info, hinfo, rfl⟩ := List.mem_map.mp hmem
    have hnone := List.find?_eq_none.mp hfind info hinfo
    simp at hnone
  | some info =>
    have hfound := List.find?_some hfind
    have hport : port = info.tcpPort2 := serverUrl_inj.mp (of_decide_eq_true hfound)
    rw [if_pos (hport ▸ List.mem_map_of_mem (List.mem_of_find?_eq_some hfind))]
    dsimp only
    rw [hport]

lemma foldl_findBackend (groups : List (Int × List BackendServerInfo)) :
    groups.foldl (fun s group => s.findBackend (serverUrl port) group) s =
      if ∃ group ∈ groups, port ∈ group.2.map BackendServerInfo.tcpPort2 then
        { s with reply_code := .BACKSERVER, server_port := some port }
      else s := by
  induction groups generalizing s with
  | nil => simp
  | cons group groups ih =>
    rw [List.foldl_cons, ih, findBackend_server]
    by_cases hhead : port ∈ group.2.map BackendServerInfo.tcpPort2
    · simp only [hhead, if_true, List.mem_cons, exists_eq_or_imp, true_or]
      split <;> rfl
    · simp only [hhead, if_false, List.mem_cons, exists_eq_or_imp, false_or]

variable {p : Panel}

/-- The panel has the port among its storage servers and the master. -/
def Panel.Backend (p : Panel) (port : Int) : Prop :=
  ∃ group ∈ p.backend_servers.entries, port ∈ group.2.map BackendServerInfo.tcpPort2

def Panel.Frontend (p : Panel) (port : Int) : Prop :=
  ∃ e ∈ p.frontend_servers.entries, e.2.udpPort = port

lemma findFrontend_none (h : ¬Panel.Frontend p port) :
    s.findFrontend (serverUrl port) p.frontend_servers = s := by
  unfold PanelSession.findFrontend
  have hnone : p.frontend_servers.entries.find? (fun e => serverUrl port = serverUrl e.2.udpPort) =
      none := by
    refine List.find?_eq_none.mpr (fun e he => ?_)
    have hne : port ≠ e.2.udpPort := fun heq => h ⟨e, he, heq.symm⟩
    simpa [serverUrl_inj] using hne
  rw [hnone]

lemma findFrontend_server (h : Panel.Frontend p port) :
    s.findFrontend (serverUrl port) p.frontend_servers =
      { s with reply_code := .FRONTSERVER, server_port := some port } := by
  unfold PanelSession.findFrontend
  cases hfind : p.frontend_servers.entries.find?
      (fun e => serverUrl port = serverUrl e.2.udpPort) with
  | none =>
    obtain ⟨e, he, rfl⟩ := h
    have hnone := List.find?_eq_none.mp hfind e he
    simp at hnone
  | some e =>
    have hfound := List.find?_some hfind
    have hport : port = e.2.udpPort := serverUrl_inj.mp (of_decide_eq_true hfound)
    dsimp only
    rw [hport]

lemma postLine_backend (hb : Panel.Backend p port) (hf : ¬Panel.Frontend p port) :
    s.postLine p (serverUrl port) =
      { s with reply_code := .BACKSERVER, server_port := some port } := by
  unfold PanelSession.postLine
  dsimp only
  rw [findFrontend_none hf, foldl_findBackend, if_neg (serverUrl_ne_getValue port)]
  exact if_pos hb

lemma postLine_frontend (hf : Panel.Frontend p port) (hb : ¬Panel.Backend p port) :
    s.postLine p (serverUrl port) =
      { s with reply_code := .FRONTSERVER, server_port := some port } := by
  unfold PanelSession.postLine
  dsimp only
  rw [findFrontend_server hf, foldl_findBackend, if_neg (serverUrl_ne_getValue port)]
  exact if_neg hb

/-- A url that is no server's leaves the server. -/
lemma findServer_other {url : Str} (h : ∀ port, serverUrl port ≠ url) :
    s.findFrontend url p.frontend_servers = s ∧
    ∀ group : Int × List BackendServerInfo, s.findBackend url group = s := by
  constructor
  · unfold PanelSession.findFrontend
    have hnone : p.frontend_servers.entries.find? (fun e => url = serverUrl e.2.udpPort) = none :=
      List.find?_eq_none.mpr (fun e _ => by simpa using (h e.2.udpPort).symm)
    rw [hnone]
  · intro group
    unfold PanelSession.findBackend
    have hnone : group.2.find? (fun info => url = serverUrl info.tcpPort2) = none :=
      List.find?_eq_none.mpr (fun info _ => by simpa using (h info.tcpPort2).symm)
    rw [hnone]

lemma postLine_getValue :
    s.postLine p "/get-value".toList = { s with reply_code := .VALUE } := by
  have hloop : ∀ groups : List (Int × List BackendServerInfo),
      groups.foldl (fun s group => s.findBackend "/get-value".toList group) s = s := by
    intro groups
    induction groups with
    | nil => rfl
    | cons group groups ih =>
      rw [List.foldl_cons, (findServer_other (p := p) serverUrl_ne_getValue).2, ih]
  unfold PanelSession.postLine
  dsimp only
  rw [(findServer_other serverUrl_ne_getValue).1, hloop, if_pos rfl]

end Lookup

/-! ### Requests -/

section Requests

variable {b : Base64} {result : Nat} {cut : Str → List Str} {s : PanelSession} {p : Panel}
  {port : Int} {w : PanelWorld}

/-- A form that is posted to a url. -/
lemma request_form {url content : Str} (hne : url ≠ []) (hblank : ' ' ∉ url)
    (hcontent : content ≠ []) (h : contains "\r\n".toList (url ++ " HTTP/1.1".toList) = false) :
    s.request p (formRequest (url ++ " HTTP/1.1".toList) content h) =
      (do
        let x ← (s.postLine p url).requestContent p content
        let page ← x.1.generateReply x.2
        return (page, x)) := by
  unfold PanelSession.request formRequest
  dsimp only
  rw [urlOf_line hne hblank, Dialogue.ofOption_some, Dialogue.done_bind]
  dsimp only
  rw [if_neg hcontent]
  rfl

lemma request_server (word : Str) : s.request p (serverRequest port word) =
    (do
      let x ← (s.postLine p (serverUrl port)).requestContent p ("action=".toList ++ word)
      let page ← x.1.generateReply x.2
      return (page, x)) :=
  request_form (serverUrl_ne_nil port) (serverUrl_no_blank port) (by simp) _

/-- What a request to a storage server leaves in a session. -/
def atBackend (s : PanelSession) (code : PanelCode) (port : Int) : PanelSession :=
  { s with reply_code := code, server_port := some port }

lemma run_request_switchBackend (hcut : Cuts cut) (hb : Panel.Backend p port)
    (hf : ¬Panel.Frontend p port) (on : Bool) :
    (s.request p (Button.switchBackend port on).request).run (answerPanel b result cut) w =
      (switchedWorld result port on w).map
        (fun w => ((p.renderAdminPage, atBackend s .BACKSERVER port, p), w)) := by
  have hrequest : s.request p (serverRequest port (switchWord on)) =
      .ask (PanelAction.console port (switchWord on ++ "\r\n".toList))
        (fun _ => .done (p.renderAdminPage, atBackend s .BACKSERVER port, p)) := by
    rw [request_server, postLine_backend hb hf]
    cases on
    · rfl
    · rfl
  rw [Button.request, hrequest, ← run_switch (b := b) hcut on, Option.map_map, Option.map_eq_bind]
  rfl

lemma run_request_view (hcut : Cuts cut) (hb : Panel.Backend p port)
    (hf : ¬Panel.Frontend p port) (h : Viewable (w.peer port)) :
    (s.request p (Button.view port).request).run (answerPanel b result cut) w =
      some ((.storage (shownCells (w.peer port)), atBackend s .STORAGE port, p), w) := by
  have hrequest : s.request p (serverRequest port "VIEW".toList) =
      (do
        let all_pairs ← get_storage_content port
        return (.storage all_pairs, atBackend s .STORAGE port, p)) := by
    rw [request_server, postLine_backend hb hf]
    rfl
  rw [Button.request, hrequest, Dialogue.run_bind, run_get_storage_content hcut h]
  rfl

lemma formFields_cell {row col : Str} (hrow : Bytes row) (hcol : Bytes col) :
    FormFields [("key".toList, row), ("value".toList, col), ("get-value".toList, [])] := by
  have hkeys : FormPlain "key".toList ∧ FormPlain "value".toList ∧
      FormPlain "get-value".toList := by
    decide
  intro f hf
  simp only [List.mem_cons, List.not_mem_nil, or_false] at hf
  rcases hf with rfl | rfl | rfl
  · exact ⟨hkeys.1, hrow⟩
  · exact ⟨hkeys.2.1, hcol⟩
  · exact ⟨hkeys.2.2, fun _ h => absurd h List.not_mem_nil⟩

/-- The form of a cell is read to its row and its column. -/
lemma parseQuery_cellForm {row col : Str} (hrow : Bytes row) (hcol : Bytes col) :
    parseQuery (cellForm row col) "key".toList = row ∧
    parseQuery (cellForm row col) "value".toList = col := by
  have hplain : FormPlain "key".toList ∧ FormPlain "value".toList ∧
      FormPlain "get-value".toList := by
    decide
  have hdecode : decodeURIComponent "key".toList = "key".toList ∧
      decodeURIComponent "value".toList = "value".toList ∧
      decodeURIComponent "get-value".toList = "get-value".toList := by
    decide
  obtain ⟨hkey, hvalue, hget⟩ := hplain
  unfold parseQuery cellForm
  rw [getlines_form (formFields_cell hrow hcol), List.map_cons, List.map_cons, List.map_cons,
    List.map_nil, List.foldl_cons, List.foldl_cons, List.foldl_cons, List.foldl_nil]
  dsimp only
  rw [before_formField hkey, before_formField hvalue, before_formField hget,
    after_formField hkey, after_formField hvalue, decode_formText hrow, decode_formText hcol,
    hdecode.1, hdecode.2.1, hdecode.2.2]
  refine ⟨?_, ?_⟩
  · rw [Function.update_of_ne (by decide), Function.update_of_ne (by decide),
      Function.update_self]
  · rw [Function.update_of_ne (by decide), Function.update_self]

/-- The form is not taken for the word of a button. -/
lemma cellForm_not_view {row col : Str} (hrow : Bytes row) (hcol : Bytes col) :
    ∃ rest, substr 7 (cellForm row col) = some rest ∧ cString rest ≠ "VIEW".toList := by
  have hlen : 22 ≤ (cellForm row col).length := by
    simp only [cellForm, form, List.map_cons, List.map_nil, joined, formField,
      List.length_append, List.length_cons]
    change 22 ≤ 3 + ((formText row).length + 1) +
      (5 + ((formText col).length + 1) + (9 + _ + 1) + 1)
    omega
  have htext : cString (cellForm row col) = cellForm row col :=
    cString_form (formFields_cell hrow hcol)
  have hnul : '\x00' ∉ cellForm row col := by
    rw [← htext]
    exact not_mem_cString _
  refine ⟨(cellForm row col).drop 7, if_pos (by omega), fun heq => ?_⟩
  rw [cString_of_not_mem (fun hmem => hnul (List.mem_of_mem_drop hmem))] at heq
  have hfour := congrArg List.length heq
  rw [List.length_drop] at hfour
  change _ = 4 at hfour
  omega

lemma run_request_getValue (hcut : Cuts cut) {row col : Str} (hport : s.server_port = some port)
    (h : Openable row col (w.peer port)) :
    (s.request p (Button.getValue row col).request).run (answerPanel b result cut) w =
      (shownValue row col (w.peer port)).map (fun text =>
        ((.value text, { s with reply_code := .VALUE, rowkey := row, colkey := col }, p), w)) := by
  obtain ⟨hrow, hcol⟩ := parseQuery_cellForm h.bytes.1 h.bytes.2
  obtain ⟨rest, hrest, hview⟩ := cellForm_not_view h.bytes.1 h.bytes.2
  have hne : cellForm row col ≠ [] := by
    intro hnil
    rw [hnil] at hrest
    exact Option.some_ne_none rest hrest.symm
  have hurl : ' ' ∉ "/get-value".toList := by decide
  have hline : contains "\r\n".toList ("/get-value".toList ++ " HTTP/1.1".toList) = false := by
    decide
  have hrequest : s.request p (Button.getValue row col).request =
      (do
        let x ← (s.postLine p "/get-value".toList).requestContent p (cellForm row col)
        let page ← x.1.generateReply x.2
        return (page, x)) :=
    request_form (List.cons_ne_nil _ _) hurl hne hline
  have hcontent : PanelSession.requestContent { s with reply_code := .VALUE } p (cellForm row col) =
      .done ({ s with reply_code := .VALUE, rowkey := row, colkey := col }, p) := by
    unfold PanelSession.requestContent
    rw [hrest, Dialogue.ofOption_some, Dialogue.done_bind]
    dsimp only
    rw [if_neg hview, cellForm, cString_form (formFields_cell h.bytes.1 h.bytes.2)]
    change Dialogue.done (_, p) = _
    rw [← cellForm, hrow, hcol]
  rw [hrequest, postLine_getValue, hcontent, Dialogue.done_bind]
  have hreply : PanelSession.generateReply
      { s with reply_code := .VALUE, rowkey := row, colkey := col } p =
      (do return PanelPage.value (← get_value port row col)) := by
    unfold PanelSession.generateReply
    dsimp only
    rw [hport]
    rfl
  dsimp only
  rw [hreply, Dialogue.run_bind, Dialogue.run_bind, run_get_value hcut h]
  cases shownValue row col (w.peer port) with
  | none => rfl
  | some text => rfl

lemma run_request_switchFrontend (hf : Panel.Frontend p port) (hb : ¬Panel.Backend p port)
    (on : Bool) :
    (s.request p (Button.switchFrontend port on).request).run (answerPanel b result cut) w =
      some (((p.mark port (!on)).renderAdminPage,
        { s with reply_code := .FRONTSERVER, server_port := some port }, p.mark port (!on)),
        frontendWorld port on w) := by
  rw [Button.request, request_server, postLine_frontend hf hb]
  cases on
  · have hworld : frontendWorld port false w =
        { w with datagrams := w.datagrams ++ [(port, "DISABLE".toList)] } := by
      unfold frontendWorld
      rw [if_neg Bool.false_ne_true, List.append_nil]
      rfl
    rw [hworld]
    rfl
  · rfl

end Requests

end CloudStorage.Proofs
