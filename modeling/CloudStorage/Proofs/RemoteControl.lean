import CloudStorage.AdminPanel
import CloudStorage.Lib.Simulation
import CloudStorage.Proofs.ConfigFile
import CloudStorage.Proofs.MasterLoops

/-!
# The admin console as a remote control

What the buttons of the console's pages mean, as a machine of its own: a switch for each
server, a view of the first cells of a server's table, and the value of a cell. This file
states that machine, and proves what the commands that `admin.cc` sends to the servers do and
how their replies are read.
-/

namespace CloudStorage.Proofs
open DelimitedText

/-! ### The remote control -/

/-- A button of the pages, and the page itself. -/
inductive Button where
  | look
  | switchFrontend (port : Int) (on : Bool)
  | switchBackend (port : Int) (on : Bool)
  | view (port : Int)
  | getValue (row col : Str)

/-- A button is pressed on a connection, or what the servers hold changes otherwise. -/
inductive PanelEvent where
  | press (i : Nat) (button : Button)
  | change (peer : Int → Option ConsolePeer)

/-- What the remote control knows: the server whose button was the last on a connection, which
frontends were not switched on, and what it acts on. -/
structure Remote where
  viewed : Nat → Option Int
  isDead : Int → Bool
  world : PanelWorld

def switchWord (on : Bool) : Str := if on then "ENABLE".toList else "DISABLE".toList

/-- The message to a frontend, and the command that starts it. -/
def frontendWorld (port : Int) (on : Bool) (w : PanelWorld) : PanelWorld :=
  { w with
    datagrams := w.datagrams ++ [(port, switchWord on)]
    started := w.started ++
      if on then ["./frontendserver -v -p ".toList ++ toStr (port - 10000) ++ " &".toList]
      else [] }

/-- A storage server after its switch. -/
def switchNode (result : Nat) (on : Bool) (n : Node) : Option Node :=
  if on then if n.server.enabled = false then enableServer result n else some n
  else some { n with server := { n.server with enabled := false } }

def switchedWorld (result : Nat) (port : Int) (on : Bool) (w : PanelWorld) : Option PanelWorld :=
  match w.peer port with
  | some (.storage n) => (switchNode result on n).map
      (fun n => { w with peer := assign w.peer port (some (.storage n)) })
  | _ => some w

/-- The cells that a view shows. -/
def shownCells : Option ConsolePeer → List (Str × Str)
  | some (.storage n) => (cellNames n.server.table).take 3
  | _ => []

/-- The text that stands for the value of a cell; nothing comes from where no server is. -/
def shownValue (row col : Str) : Option ConsolePeer → Option Str
  | some (.storage n) =>
    match n.server.table.get row col with
    | some v => some (v ++ "\r\n".toList)
    | none => some " Not Found\r\n".toList
  | some (.master _) => some " Invalid Command\r\n".toList
  | none => none

namespace Remote

variable (frontends : List Int) (backends : List (Int × List Int)) (result : Nat)

/-- The switches of storage servers do not show. -/
def page (r : Remote) : PanelPage :=
  .admin (frontends.map (fun port => (port, r.isDead port)))
    (backends.map (fun group => (group.1, group.2.map (fun port => (port, true)))))

def viewing (r : Remote) (i : Nat) (port : Int) : Remote :=
  { r with viewed := assign r.viewed i (some port) }

def switchFrontend (r : Remote) (port : Int) (on : Bool) : Remote :=
  { r with
    isDead := assign r.isDead port (!on)
    world := frontendWorld port on r.world }

def switchBackend (r : Remote) (port : Int) (on : Bool) : Option Remote :=
  (switchedWorld result port on r.world).map (fun w => { r with world := w })

def press (r : Remote) (i : Nat) : Button → Option (PanelPage × Remote)
  | .look => some (r.page frontends backends, r)
  | .switchFrontend port on =>
    let r := (r.viewing i port).switchFrontend port on
    some (r.page frontends backends, r)
  | .switchBackend port on =>
    ((r.viewing i port).switchBackend result port on).map (fun r => (r.page frontends backends, r))
  | .view port => some (.storage (shownCells (r.world.peer port)), r.viewing i port)
  | .getValue row col => do
    let port ← r.viewed i
    let text ← shownValue row col (r.world.peer port)
    return (.value text, r)

/-- The remote control answers presses by pages. -/
def machine : Machine PanelEvent (Option PanelPage) Remote
  | .press i button, r =>
    (r.press frontends backends result i button).map (fun x => (some x.1, x.2))
  | .change peer, r => some (none, { r with world := { r.world with peer := peer } })

end Remote

/-! ### Texts to the servers -/

section Console

variable {b : Base64} {result : Nat} {cut : Str → List Str} {w : PanelWorld} {port : Int}

/-- A reply with one end is read whole, however it is cut. -/
lemma read_reply (hcut : Cuts cut) {body : Str} (hbody : '\r' ∉ body) :
    Panel.readFromBackendSocket ((cut (body ++ "\r\n".toList)).map some) =
      some (body ++ "\r\n".toList) :=
  readResponse_line hbody (by rw [List.nil_append, hcut]) (by decide)

lemma assign_same {κ ν : Type} [DecidableEq κ] (m : κ → ν) (key : κ) :
    assign m key (m key) = m := by
  funext k
  unfold assign
  split
  · next hk => rw [hk]
  · rfl

/-- A command that fits in one buffer. -/
structure FitsBuffer (command : Str) : Prop where
  noCrlf : NoCrlf command
  size : command.length + 2 ≤ BUFFER_SIZE

lemma FitsBuffer.not_lt {command : Str} (h : FitsBuffer command) :
    ¬BUFFER_SIZE < (command ++ "\r\n".toList).length := by
  have hsize := h.size
  have hlen : (command ++ "\r\n".toList).length = command.length + 2 := List.length_append
  omega

lemma exchange_storage (hcut : Cuts cut) {n n' : Node} {command body : Str}
    (hpeer : w.peer port = some (.storage n)) (hfits : FitsBuffer command)
    (hreply : adminConsole result command n = some (n', body ++ "\r\n".toList))
    (hbody : '\r' ∉ body) :
    answerConsole b result cut port (command ++ "\r\n".toList) w =
      some (body ++ "\r\n".toList,
        { w with peer := assign w.peer port (some (.storage n')) }) := by
  have hrun : adminConsoleSignalHandler result (commandLines [] (command ++ "\r\n".toList)) n =
      some (n', body ++ "\r\n".toList) := by
    rw [commandLines_line hfits.noCrlf, List.nil_append, adminConsoleSignalHandler, hreply]
    change some (n', body ++ "\r\n".toList ++ []) = _
    rw [List.append_nil]
  unfold answerConsole
  rw [if_neg hfits.not_lt, hpeer]
  dsimp only
  rw [hrun]
  change (Panel.readFromBackendSocket ((cut (body ++ "\r\n".toList)).map some)).bind _ = _
  rw [read_reply hcut hbody]
  rfl

lemma exchange_stopped {n : Node} {command : Str} (hpeer : w.peer port = some (.storage n))
    (hfits : FitsBuffer command) (hreply : adminConsole result command n = none) :
    answerConsole b result cut port (command ++ "\r\n".toList) w = none := by
  have hrun : adminConsoleSignalHandler result (commandLines [] (command ++ "\r\n".toList)) n =
      none := by
    rw [commandLines_line hfits.noCrlf, List.nil_append, adminConsoleSignalHandler, hreply]
    rfl
  unfold answerConsole
  rw [if_neg hfits.not_lt, hpeer]
  dsimp only
  rw [hrun]
  rfl

lemma exchange_unchanged (hcut : Cuts cut) {n : Node} {command body : Str}
    (hpeer : w.peer port = some (.storage n)) (hfits : FitsBuffer command)
    (hreply : adminConsole result command n = some (n, body ++ "\r\n".toList))
    (hbody : '\r' ∉ body) :
    answerConsole b result cut port (command ++ "\r\n".toList) w =
      some (body ++ "\r\n".toList, w) := by
  rw [exchange_storage hcut hpeer hfits hreply hbody, ← hpeer, assign_same]

lemma exchange_master (hcut : Cuts cut) {file command : Str}
    (hpeer : w.peer port = some (.master file)) (hfits : FitsBuffer command)
    (hword : command.map Char.toUpper ≠ "REQUEST".toList) :
    answerConsole b result cut port (command ++ "\r\n".toList) w =
      some ("-ERR Invalid Command\r\n".toList, w) := by
  have hreply : (receiveAdminConsoleRequest b file (command ++ "\r\n".toList)).flatten =
      "-ERR Invalid Command".toList ++ "\r\n".toList := by
    rw [receiveAdminConsoleRequest, commandLines_line hfits.noCrlf, List.nil_append,
      List.flatMap_singleton, adminRequest, if_neg hword, List.flatten_singleton]
    rfl
  unfold answerConsole
  rw [if_neg hfits.not_lt, hpeer]
  dsimp only
  rw [hreply, read_reply hcut (by decide)]
  rfl

lemma exchange_none {command : Str} (hpeer : w.peer port = none) (hfits : FitsBuffer command) :
    answerConsole b result cut port (command ++ "\r\n".toList) w = some ([], w) := by
  unfold answerConsole
  rw [if_neg hfits.not_lt, hpeer]

/-- A row and a column that can stand in a line of the list. -/
structure ClearName (name : Str × Str) : Prop where
  no_comma : ',' ∉ name.1
  no_newline : '\n' ∉ name.1 ∧ '\n' ∉ name.2
  no_cr : '\r' ∉ name.1 ∧ '\r' ∉ name.2

/-- The lines of the list, read back. -/
lemma pairs_of_reply {names : List (Str × Str)} (h : ∀ name ∈ names, ClearName name) :
    ((getlines '\n' (after '\n' (pageReply names))).filter (fun line => ',' ∈ line)).map
      (fun line => (before ',' line, after ',' line)) = names := by
  have hlines : names.flatMap (fun name => name.1 ++ ",".toList ++ name.2 ++ "\n".toList) =
      terminated '\n' (names.map (fun name => name.1 ++ ',' :: name.2)) := by
    rw [terminated, List.flatMap_map]
    simp
  have hreply : pageReply names = "+OK".toList ++ '\n' ::
      (terminated '\n' (names.map (fun name => name.1 ++ ',' :: name.2)) ++ "\r\n".toList) := by
    rw [pageReply, hlines]
    simp
  have hfree : ∀ line ∈ names.map (fun name => name.1 ++ ',' :: name.2), '\n' ∉ line := by
    intro line hline
    obtain ⟨name, hname, rfl⟩ := List.mem_map.mp hline
    have hn := (h name hname).no_newline
    simp [hn.1, hn.2]
  have hcomma : ∀ line ∈ names.map (fun name => name.1 ++ ',' :: name.2),
      decide (',' ∈ line) = true := by
    intro line hline
    obtain ⟨name, -, rfl⟩ := List.mem_map.mp hline
    simp
  have hlast : getlines '\n' "\r\n".toList = ["\r".toList] := by decide
  rw [hreply, after_append (by decide), getlines_terminated_append hfree, hlast,
    List.filter_append, List.filter_eq_self.mpr hcomma, List.filter_cons_of_neg (by decide),
    List.filter_nil, List.append_nil, List.map_map]
  have hread : ∀ name ∈ names, (before ',' (name.1 ++ ',' :: name.2),
      after ',' (name.1 ++ ',' :: name.2)) = name := by
    intro name hname
    have hn := (h name hname).no_comma
    rw [before_append hn, after_append hn]
  exact (List.map_congr_left hread).trans (List.map_id' names)

/-- What is at the other end can be listed. -/
def Viewable : Option ConsolePeer → Prop
  | some (.storage n) => ∀ name ∈ (cellNames n.server.table).take 3, ClearName name
  | _ => True

lemma fits_getall : FitsBuffer ("GETALL ".toList ++ toStr 0) := ⟨by decide, by decide⟩

/-- The list has the first cells of the table as it is. -/
lemma run_get_storage_content (hcut : Cuts cut) (h : Viewable (w.peer port)) :
    (get_storage_content port).run (answerPanel b result cut) w =
      some (shownCells (w.peer port), w) := by
  have hrun : (get_storage_content port).run (answerPanel b result cut) w =
      (answerConsole b result cut port ("GETALL ".toList ++ toStr 0 ++ "\r\n".toList) w).bind
        (fun r => some (((getlines '\n' (after '\n' r.1)).filter (fun line => ',' ∈ line)).map
          (fun line => (before ',' line, after ',' line)), r.2)) := rfl
  rw [hrun]
  cases hpeer : w.peer port with
  | none => rw [exchange_none hpeer fits_getall]; rfl
  | some peer =>
    cases peer with
    | master file => rw [exchange_master hcut hpeer fits_getall (by decide)]; rfl
    | storage n =>
      rw [hpeer] at h
      have hreply : adminConsole result ("GETALL ".toList ++ toStr 0) n =
          some (n, pageReply ((cellNames n.server.table).take 3)) := by
        rw [adminConsole_getall result (by decide)]
        exact congrArg (fun reply => some (n, reply)) (getAllReply_page n.server.table 0)
      have hbody : '\r' ∉ "+OK\n".toList ++ ((cellNames n.server.table).take 3).flatMap
          (fun name => name.1 ++ ",".toList ++ name.2 ++ "\n".toList) := by
        rw [List.mem_append, not_or, List.mem_flatMap]
        refine ⟨by decide, fun ⟨name, hname, hmem⟩ => ?_⟩
        have hn := (h name hname).no_cr
        simp [hn.1, hn.2] at hmem
      rw [exchange_unchanged hcut hpeer fits_getall hreply hbody]
      exact congrArg (fun pairs => some (pairs, w)) (pairs_of_reply h)

/-- A cell whose form and whose value go through the texts. -/
structure Openable (row col : Str) (peer : Option ConsolePeer) : Prop where
  bytes : Bytes row ∧ Bytes col
  no_comma : ',' ∉ row ∧ ',' ∉ col
  no_cr : '\r' ∉ row ∧ '\r' ∉ col
  ne_nil : col ≠ []
  size : row.length + col.length + 7 ≤ BUFFER_SIZE
  value : ∀ n v, peer = some (.storage n) → n.server.table.get row col = some v → '\r' ∉ v

lemma adminConsole_get (result : Nat) {row col : Str} (hrow : ',' ∉ row) (hcol : ',' ∉ col)
    (hne : col ≠ []) (n : Node) :
    adminConsole result ("GET ".toList ++ row ++ ",".toList ++ col) n =
      some (n, getReply n.server.table [row, col]) := by
  have htext : "GET ".toList ++ row ++ ",".toList ++ col =
      "GET".toList ++ [' '] ++ (row ++ ',' :: col) := by
    simp
  have hsplit : consoleCommands ("GET ".toList ++ row ++ ",".toList ++ col) =
      ["GET ".toList, row, col] := by
    rw [consoleCommands, if_pos (by simp), htext, splitKVStoreCommand_blank (by decide) (by decide),
      getlines_append_delim hrow, getlines_of_not_mem hcol hne]
    rfl
  have hword : consoleWord ("GET ".toList ++ row ++ ",".toList ++ col) = "GET ".toList := by
    rw [consoleWord, hsplit]
    rfl
  unfold adminConsole
  dsimp only
  rw [hword, hsplit, if_neg (by simp), if_neg (by simp), if_neg (by decide), if_pos rfl]
  rfl

lemma fits_get {row col : Str} {peer : Option ConsolePeer} (h : Openable row col peer) :
    FitsBuffer ("GET ".toList ++ row ++ ",".toList ++ col) where
  noCrlf := by
    refine noCrlf_of_not_mem ?_
    simp [h.no_cr.1, h.no_cr.2]
  size := by
    have hsize := h.size
    have hlen : ("GET ".toList ++ row ++ ",".toList ++ col).length =
        row.length + col.length + 5 := by
      simp only [List.length_append]
      change 4 + row.length + 1 + col.length = _
      omega
    omega

/-- The value is that of the table as it is. -/
lemma run_get_value (hcut : Cuts cut) {row col : Str} (h : Openable row col (w.peer port)) :
    (get_value port row col).run (answerPanel b result cut) w =
      (shownValue row col (w.peer port)).map (fun text => (text, w)) := by
  have hrun : (get_value port row col).run (answerPanel b result cut) w =
      (answerConsole b result cut port
        ("GET ".toList ++ row ++ ",".toList ++ col ++ "\r\n".toList) w).bind
        (fun r => (Dialogue.ofOption (substr 4 r.1) : PanelDialogue Str).run
          (answerPanel b result cut) r.2) := rfl
  have hfits := fits_get h
  rw [hrun]
  cases hpeer : w.peer port with
  | none => rw [exchange_none hpeer hfits]; rfl
  | some peer =>
    cases peer with
    | master file =>
      rw [exchange_master hcut hpeer hfits]
      · rfl
      · intro heq
        have hhead := congrArg List.head? heq
        simp at hhead
    | storage n =>
      have hreply := adminConsole_get result h.no_comma.1 h.no_comma.2 h.ne_nil n
      cases hget : n.server.table.get row col with
      | none =>
        have hmissing : getReply n.server.table [row, col] =
            "-ERR Not Found".toList ++ "\r\n".toList := by
          rw [getReply, hget]
          rfl
        rw [hmissing] at hreply
        rw [exchange_unchanged hcut hpeer hfits hreply (by decide), shownValue, hget]
        rfl
      | some v =>
        have hfound : getReply n.server.table [row, col] =
            ("+OK ".toList ++ v) ++ "\r\n".toList := by
          rw [getReply, hget]
        have hv := h.value n v hpeer hget
        rw [hfound] at hreply
        rw [exchange_unchanged hcut hpeer hfits hreply (by simp [hv]), shownValue, hget]
        rfl

/-- The switch of a server that is as it should be is an unknown command. -/
lemma adminConsole_switch (result : Nat) (on : Bool) (n : Node) :
    ∃ body : Str, '\r' ∉ body ∧ adminConsole result (switchWord on) n =
      (switchNode result on n).map (fun n => (n, body ++ "\r\n".toList)) := by
  have hword : consoleWord (switchWord on) = switchWord on := by
    cases on
    · decide
    · decide
  have herr : "-ERR Invalid Command\r\n".toList = "-ERR Invalid Command".toList ++ "\r\n".toList :=
    rfl
  unfold adminConsole switchNode
  dsimp only
  rw [hword]
  cases on with
  | true =>
    cases henabled : n.server.enabled with
    | true => exact ⟨"-ERR Invalid Command".toList, by decide, rfl⟩
    | false => exact ⟨"+OK".toList, by decide, rfl⟩
  | false =>
    cases henabled : n.server.enabled with
    | true => exact ⟨"+OK".toList, by decide, rfl⟩
    | false =>
      refine ⟨"-ERR Invalid Command".toList, by decide, ?_⟩
      have hsame : ({ n with server := { n.server with enabled := false } } : Node) = n := by
        rw [← henabled]
      rw [hsame]
      rfl

lemma fits_switch (on : Bool) : FitsBuffer (switchWord on) := by
  cases on
  · exact ⟨by decide, by decide⟩
  · exact ⟨by decide, by decide⟩

lemma run_switch (hcut : Cuts cut) (on : Bool) :
    (answerConsole b result cut port (switchWord on ++ "\r\n".toList) w).map Prod.snd =
      switchedWorld result port on w := by
  unfold switchedWorld
  cases hpeer : w.peer port with
  | none => rw [exchange_none hpeer (fits_switch on)]; rfl
  | some peer =>
    cases peer with
    | master file =>
      rw [exchange_master hcut hpeer (fits_switch on)]
      · rfl
      · cases on
        · decide
        · decide
    | storage n =>
      obtain ⟨body, hbody, hreply⟩ := adminConsole_switch result on n
      dsimp only
      cases hn : switchNode result on n with
      | none =>
        rw [hn] at hreply
        rw [exchange_stopped hpeer (fits_switch on) hreply]
        rfl
      | some n' =>
        rw [hn] at hreply
        rw [exchange_storage hcut hpeer (fits_switch on) hreply hbody]
        rfl

end Console

end CloudStorage.Proofs
