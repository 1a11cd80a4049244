import CloudStorage.Proofs.PanelRequests

/-!
# The threads of the admin console

The threads of `admin.cc`, with the texts that they exchange with browsers and with the
servers, behave as the remote control, whatever buttons are pressed on whatever connections.
-/

namespace CloudStorage.Proofs
open DelimitedText

/-! ### The statuses of the frontends -/

/-- The port of a frontend, and whether it is shown as dead. -/
def statusOf (e : Int × FrontendServerInfo) : Int × Bool := (e.2.udpPort, e.2.isDead)

lemma mark_statuses {p : Panel} {port : Int} (hf : Panel.Frontend p port)
    (hports : (p.frontend_servers.entries.map (fun e => e.2.udpPort)).Nodup) (isDead : Bool) :
    (p.mark port isDead).frontend_servers.entries.map statusOf =
      (p.frontend_servers.entries.map statusOf).map
        (fun status => (status.1, if status.1 = port then isDead else status.2)) := by
  unfold Panel.mark
  cases hfind : p.frontend_servers.entries.find? (fun e => e.2.udpPort = port) with
  | none =>
    obtain ⟨e, he, hport⟩ := hf
    have hnone := List.find?_eq_none.mp hfind e he
    simp [hport] at hnone
  | some e =>
    have he := List.mem_of_find?_eq_some hfind
    have hfound := List.find?_some hfind
    have hport : e.2.udpPort = port := of_decide_eq_true hfound
    dsimp only
    rw [OrderedMap.entries_insert_of_mem _ he, List.map_map, List.map_map]
    refine List.map_congr_left (fun d hd => ?_)
    dsimp only [Function.comp]
    by_cases hkey : d.1 = e.1
    · have hsame : d.2 = e.2 := by
        have hd' := (p.frontend_servers.mem_entries d.1 d.2).mp hd
        rw [hkey, (p.frontend_servers.mem_entries e.1 e.2).mp he] at hd'
        exact (Option.some.inj hd').symm
      rw [if_pos hkey, statusOf, statusOf, hsame, if_pos hport]
    · have hne : d.2.udpPort ≠ port := by
        intro heq
        have hde := List.inj_on_of_nodup_map hports hd he (heq.trans hport.symm)
        exact hkey (congrArg Prod.fst hde)
      rw [if_neg hkey, statusOf, if_neg hne]

lemma mark_backends (p : Panel) (port : Int) (isDead : Bool) :
    (p.mark port isDead).backend_servers = p.backend_servers := by
  unfold Panel.mark
  split
  · rfl
  · rfl

/-! ### The threads behave as the remote control -/

/-- The remote control knows what the threads know. -/
structure Mirrors (frontends : List Int) (backends : List (Int × List Int)) (x : PanelState)
    (r : Remote) : Prop where
  frontends : x.panel.frontend_servers.entries.map statusOf =
    frontends.map (fun port => (port, r.isDead port))
  backends : x.panel.backend_servers.entries.map
      (fun e => (e.1, e.2.map (fun info => (info.tcpPort2, info.isDead)))) =
    backends.map (fun group => (group.1, group.2.map (fun port => (port, true))))
  viewed : ∀ i, (x.session i).server_port = r.viewed i
  world : x.world = r.world

/-- A button of a page, and for what stands in the texts, that it goes through them. -/
def Allowed (frontends : List Int) (backends : List (Int × List Int)) :
    PanelEvent → Remote → Prop
  | .press _ .look, _ => True
  | .press _ (.switchFrontend port _), _ => port ∈ frontends
  | .press _ (.switchBackend port _), _ => port ∈ backends.flatMap Prod.snd
  | .press _ (.view port), r => port ∈ backends.flatMap Prod.snd ∧ Viewable (r.world.peer port)
  | .press i (.getValue row col), r =>
    ∃ port, r.viewed i = some port ∧ Openable row col (r.world.peer port)
  | .change _, _ => True

section Simulation

variable {b : Base64} {result : Nat} {cut : Str → List Str} {frontends : List Int}
  {backends : List (Int × List Int)} {x : PanelState} {r : Remote} {port : Int}

lemma Mirrors.frontendPorts (h : Mirrors frontends backends x r) :
    x.panel.frontend_servers.entries.map (fun e => e.2.udpPort) = frontends := by
  have hfst := congrArg (List.map Prod.fst) h.frontends
  rw [List.map_map, List.map_map] at hfst
  exact hfst.trans (List.map_id' frontends)

lemma Mirrors.frontend_iff (h : Mirrors frontends backends x r) :
    Panel.Frontend x.panel port ↔ port ∈ frontends := by
  rw [← h.frontendPorts, List.mem_map]
  rfl

lemma Mirrors.backend_iff (h : Mirrors frontends backends x r) :
    Panel.Backend x.panel port ↔ port ∈ backends.flatMap Prod.snd := by
  have hfst := congrArg (List.flatMap (fun group => group.2.map Prod.fst)) h.backends
  rw [List.flatMap_map, List.flatMap_map] at hfst
  have hports : x.panel.backend_servers.entries.flatMap
      (fun e => e.2.map BackendServerInfo.tcpPort2) = backends.flatMap Prod.snd := by
    refine Eq.trans ?_ (hfst.trans ?_)
    · simp only [List.map_map]
      rfl
    · simp only [List.map_map]
      exact congrArg (fun f => backends.flatMap f) (funext (fun group => List.map_id' group.2))
  rw [← hports, List.mem_flatMap]
  rfl

lemma Mirrors.page (h : Mirrors frontends backends x r) :
    x.panel.renderAdminPage = r.page frontends backends := by
  have hfront := h.frontends
  have hback := h.backends
  unfold statusOf at hfront
  rw [Panel.renderAdminPage, Remote.page, hfront, hback]

/-- Only the code and the form's fields of a session change. -/
lemma Mirrors.session (h : Mirrors frontends backends x r) {i : Nat} {s : PanelSession}
    (hs : s.server_port = (x.session i).server_port) :
    Mirrors frontends backends { x with session := assign x.session i s } r where
  frontends := h.frontends
  backends := h.backends
  viewed j := by
    dsimp only
    by_cases hj : j = i
    · rw [hj, assign_self, hs, h.viewed]
    · rw [assign_of_ne hj, h.viewed]
  world := h.world

lemma Mirrors.viewing (h : Mirrors frontends backends x r) {i : Nat} {s : PanelSession}
    (hs : s.server_port = some port) :
    Mirrors frontends backends { x with session := assign x.session i s } (r.viewing i port) where
  frontends := h.frontends
  backends := h.backends
  viewed j := by
    dsimp only [Remote.viewing]
    by_cases hj : j = i
    · rw [hj, assign_self, assign_self, hs]
    · rw [assign_of_ne hj, assign_of_ne hj, h.viewed]
  world := h.world

lemma Mirrors.mark (h : Mirrors frontends backends x r) (hnodup : frontends.Nodup)
    (hport : port ∈ frontends) (on : Bool) :
    Mirrors frontends backends
      { x with panel := x.panel.mark port (!on), world := frontendWorld port on x.world }
      (r.switchFrontend port on) where
  frontends := by
    have hports : (x.panel.frontend_servers.entries.map (fun e => e.2.udpPort)).Nodup := by
      rw [h.frontendPorts]
      exact hnodup
    dsimp only [Remote.switchFrontend]
    rw [mark_statuses (h.frontend_iff.mpr hport) hports, h.frontends, List.map_map]
    rfl
  backends := by
    dsimp only
    rw [mark_backends]
    exact h.backends
  viewed := h.viewed
  world := by
    dsimp only [Remote.switchFrontend]
    rw [h.world]

lemma Mirrors.setWorld (h : Mirrors frontends backends x r) (w : PanelWorld) :
    Mirrors frontends backends { x with world := w } { r with world := w } :=
  ⟨h.frontends, h.backends, h.viewed, rfl⟩

/-- The threads of the console, on whatever connections and with replies cut up however they
are, behave as the remote control. -/
theorem panel_simulates_remote (hcut : Cuts cut)
    (hports : (frontends ++ backends.flatMap Prod.snd).Nodup) :
    (panelMachine b result cut).Simulates (Remote.machine frontends backends result) Eq
      (Mirrors frontends backends) (Allowed frontends backends) := by
  have hfronts : frontends.Nodup := hports.of_append_left
  have hapart : ∀ {port}, port ∈ frontends → port ∉ backends.flatMap Prod.snd :=
    fun hf hb => List.disjoint_of_nodup_append hports hf hb
  intro event x r h hok
  cases event with
  | change peer =>
    refine .some ⟨rfl, h.frontends, h.backends, h.viewed, ?_⟩
    dsimp only
    rw [h.world]
  | press i button =>
    unfold panelMachine Remote.machine
    dsimp only
    cases button with
    | look =>
      refine .some ⟨congrArg some h.page, h.session ?_⟩
      rfl
    | switchFrontend port on =>
      have hf := h.frontend_iff.mpr hok
      have hb : ¬Panel.Backend x.panel port := fun hb => hapart hok (h.backend_iff.mp hb)
      rw [run_request_switchFrontend hf hb]
      have hshows := (h.viewing (i := i) (s := { x.session i with
        reply_code := .FRONTSERVER, server_port := some port }) rfl).mark hfronts hok on
      exact .some ⟨congrArg some hshows.page, hshows⟩
    | switchBackend port on =>
      have hb := h.backend_iff.mpr hok
      have hf : ¬Panel.Frontend x.panel port := fun hf => hapart (h.frontend_iff.mp hf) hok
      rw [run_request_switchBackend hcut hb hf, h.world]
      unfold Remote.press Remote.switchBackend
      dsimp only [Remote.viewing]
      cases switchedWorld result port on r.world with
      | none => exact .none
      | some w =>
        have hshows := (h.viewing (i := i) (s := atBackend (x.session i) .BACKSERVER port)
          rfl).setWorld w
        exact .some ⟨congrArg some hshows.page, hshows⟩
    | view port =>
      obtain ⟨hport, hview⟩ := hok
      have hb := h.backend_iff.mpr hport
      have hf : ¬Panel.Frontend x.panel port := fun hf => hapart (h.frontend_iff.mp hf) hport
      rw [← h.world] at hview
      rw [run_request_view hcut hb hf hview, h.world]
      exact .some ⟨rfl, (h.viewing (i := i) (s := atBackend (x.session i) .STORAGE port)
        rfl).setWorld r.world⟩
    | getValue row col =>
      obtain ⟨port, hport, hopen⟩ := hok
      rw [← h.world] at hopen
      rw [run_request_getValue hcut ((h.viewed i).trans hport) hopen, h.world]
      unfold Remote.press
      rw [hport]
      change Machine.Agree _ _ _ (((shownValue row col (r.world.peer port)).bind _).map _)
      cases shownValue row col (r.world.peer port) with
      | none => exact .none
      | some text =>
        exact .some ⟨rfl, (h.session (i := i) (s := { x.session i with
          reply_code := .VALUE, rowkey := row, colkey := col }) rfl).setWorld r.world⟩

/-- The ports of the frontends' buttons, and those of the other servers by their groups. -/
def Panel.frontendPorts (p : Panel) : List Int :=
  p.frontend_servers.entries.map (fun e => e.2.udpPort)

def Panel.backendPorts (p : Panel) : List (Int × List Int) :=
  p.backend_servers.entries.map (fun e => (e.1, e.2.map BackendServerInfo.tcpPort2))

/-- The servers as the configuration files are read. -/
structure Panel.Unmarked (p : Panel) : Prop where
  frontends : ∀ e ∈ p.frontend_servers.entries, e.2.isDead = true
  backends : ∀ e ∈ p.backend_servers.entries, ∀ info ∈ e.2, info.isDead = true

lemma foldlM_keeps {σ α : Type} {P : σ → Prop} {step : σ → α → Option σ}
    (hstep : ∀ s a t, P s → step s a = some t → P t) {xs : List α} {s t : σ}
    (h : xs.foldlM step s = some t) (hs : P s) : P t := by
  induction xs generalizing s with
  | nil => exact Option.some.inj h ▸ hs
  | cons a xs ih =>
    rw [List.foldlM_cons] at h
    obtain ⟨u, hu, hrest⟩ := Option.bind_eq_some_iff.mp h
    exact ih hrest (hstep s a u hs hu)

lemma readInfo_isDead {parts : List Str} {info : BackendServerInfo}
    (h : readInfo parts = some info) : info.isDead = true := by
  unfold readInfo at h
  split at h
  · simp only [Option.bind_eq_bind, Option.bind_eq_some_iff] at h
    obtain ⟨_, _, _, _, _, _, _, _, _, _, hinfo⟩ := h
    rw [← Option.some.inj hinfo]
  · exact absurd h (by simp)

lemma readFrontendInfo_isDead {parts : List Str} {info : FrontendServerInfo}
    (h : readFrontendInfo parts = some info) : info.isDead = true := by
  unfold readFrontendInfo at h
  split at h
  · simp only [Option.bind_eq_bind, Option.bind_eq_some_iff] at h
    obtain ⟨_, _, _, _, hinfo⟩ := h
    rw [← Option.some.inj hinfo]
  · exact absurd h (by simp)

lemma startAdmin_eq {sent : Bool} {received : List (Option Str)} {config frontendConfig : Str}
    {servers : ServerMap} {frontends : FrontendServerMap}
    (hfile : getConfigFile b sent received = some config)
    (hback : parseBackendServers config .empty = some servers)
    (hfront : parseFrontendServers frontendConfig .empty = some frontends) :
    startAdmin b sent received frontendConfig = some ⟨frontends, servers⟩ := by
  unfold startAdmin
  rw [hfile, hfront]
  change (parseBackendServers config .empty).bind _ = _
  rw [hback]
  rfl

lemma startAdmin_unmarked {sent : Bool} {received : List (Option Str)} {frontendConfig : Str}
    {p : Panel} (h : startAdmin b sent received frontendConfig = some p) : Panel.Unmarked p := by
  obtain ⟨configFile, -, h⟩ := Option.bind_eq_some_iff.mp h
  obtain ⟨backend_servers, hback, h⟩ := Option.bind_eq_some_iff.mp h
  obtain ⟨frontend_servers, hfront, h⟩ := Option.bind_eq_some_iff.mp h
  obtain rfl := Option.some.inj h
  constructor
  · refine foldlM_keeps (P := fun servers : FrontendServerMap =>
      ∀ e ∈ servers.entries, e.2.isDead = true) ?_ hfront (fun e he => absurd he List.not_mem_nil)
    intro servers line servers' hservers hline e he
    obtain ⟨info, hinfo, rfl⟩ := Option.map_eq_some_iff.mp hline
    rcases (servers.mem_insert _ info e).mp he with rfl | ⟨-, he⟩
    · exact readFrontendInfo_isDead hinfo
    · exact hservers e he
  · refine foldlM_keeps (P := fun servers : ServerMap =>
      ∀ e ∈ servers.entries, ∀ info ∈ e.2, info.isDead = true) ?_ hback
      (fun e he => absurd he List.not_mem_nil)
    intro servers parts servers' hservers hline e he
    obtain ⟨info, hinfo, rfl⟩ := Option.map_eq_some_iff.mp hline
    rcases (servers.mem_insert _ _ e).mp he with rfl | ⟨-, he⟩
    · intro other hother
      rcases List.mem_append.mp hother with hother | hother
      · obtain ⟨e, he, hmem⟩ := List.mem_flatMap.mp (mem_infos.mpr ⟨_, hother⟩)
        exact hservers e he other hmem
      · exact List.mem_singleton.mp hother ▸ readInfo_isDead hinfo
    · exact hservers e he

lemma Panel.Unmarked.shows {p : Panel} (h : Panel.Unmarked p) (w : PanelWorld) :
    Mirrors (Panel.frontendPorts p) (Panel.backendPorts p) ⟨fun _ => {}, p, w⟩
      ⟨fun _ => none, fun _ => true, w⟩ where
  frontends := by
    rw [Panel.frontendPorts, List.map_map]
    exact List.map_congr_left (fun e he => congrArg (Prod.mk _) (h.frontends e he))
  backends := by
    rw [Panel.backendPorts, List.map_map]
    refine List.map_congr_left (fun e he => ?_)
    dsimp only [Function.comp]
    rw [List.map_map]
    exact congrArg (Prod.mk e.1)
      (List.map_congr_left (fun info hinfo => congrArg (Prod.mk _) (h.backends e he info hinfo)))
  viewed _ := rfl
  world := rfl

/-- From the start of the console, every list of presses on any connections, among any changes
of what the servers hold, is answered by the pages of the remote control, and leaves the
statuses, the servers shown on the connections and the world as the remote control has them. -/
theorem panel_answers_as_remote (hcut : Cuts cut) {sent : Bool} {received : List (Option Str)}
    {frontendConfig : Str} {p : Panel} (hp : startAdmin b sent received frontendConfig = some p)
    (hports : (Panel.frontendPorts p ++ (Panel.backendPorts p).flatMap Prod.snd).Nodup)
    {w : PanelWorld} {events : List PanelEvent}
    (hok : (Remote.machine (Panel.frontendPorts p) (Panel.backendPorts p) result).Along
      (Allowed (Panel.frontendPorts p) (Panel.backendPorts p)) events
      ⟨fun _ => none, fun _ => true, w⟩) :
    Machine.Agree Eq (Mirrors (Panel.frontendPorts p) (Panel.backendPorts p))
      ((panelMachine b result cut).answers events ⟨fun _ => {}, p, w⟩)
      ((Remote.machine (Panel.frontendPorts p) (Panel.backendPorts p) result).answers events
        ⟨fun _ => none, fun _ => true, w⟩) :=
  have hrun := (panel_simulates_remote hcut hports).answers ((startAdmin_unmarked hp).shows w) hok
  hrun.eq_of_forall₂

end Simulation

/-! ### A console with one frontend -/

def smallFrontend : FrontendServerInfo where
  ip := "127.0.0.1".toList
  tcpPort := 10000
  udpPort := 20000

def smallPanel : Panel where
  frontend_servers := OrderedMap.empty.insert 1 smallFrontend
  backend_servers := smallInfos.foldl ServerMap.push .empty

lemma startAdmin_small : startAdmin base64 true (smallPieces.map some)
    "ip:127.0.0.1,tcp:10000,udp:20000".toList = some smallPanel := by
  have hfront : parseFrontendServers "ip:127.0.0.1,tcp:10000,udp:20000".toList .empty =
      some (OrderedMap.empty.insert 1 smallFrontend) := rfl
  have hback : parseBackendServers (joined '\n' smallLines) .empty =
      some (smallInfos.foldl ServerMap.push .empty) := describes_small.parseServers .empty
  exact startAdmin_eq (getConfigFile_pieces (fun _ hx => base64_decode_line hx) smallLines_bytes
    smallPieces_flatten) hback hfront

/-- A storage server with one cell. -/
def smallNode : Node where
  server := { startServer 1 (smallInfo 1 1).serverInfo with
    table := (∅ : Table).set "anna".toList "pwd".toList "aGk=".toList }
  disk := fun _ => none

/-- The master and the storage server. -/
def smallWorld : PanelWorld where
  peer := fun port =>
    if port = 3000 then some (.master (joined '\n' smallLines))
    else if port = 3001 then some (.storage smallNode)
    else none

def smallPresses : List PanelEvent :=
  [.press 0 .look, .press 1 (.switchFrontend 20000 true), .press 0 (.switchBackend 3001 false),
    .press 0 (.view 3001), .press 0 (.getValue "anna".toList "pwd".toList), .press 0 (.view 3000)]

def smallRemote : Machine PanelEvent (Option PanelPage) Remote :=
  Remote.machine (Panel.frontendPorts smallPanel) (Panel.backendPorts smallPanel) 0

lemma smallPresses_allowed : smallRemote.Along
    (Allowed (Panel.frontendPorts smallPanel) (Panel.backendPorts smallPanel)) smallPresses
    ⟨fun _ => none, fun _ => true, smallWorld⟩ := by
  have hports : (3000 : Int) ∈ (Panel.backendPorts smallPanel).flatMap Prod.snd ∧
      (3001 : Int) ∈ (Panel.backendPorts smallPanel).flatMap Prod.snd ∧
      (20000 : Int) ∈ Panel.frontendPorts smallPanel := by
    decide
  have hnames : ∀ name ∈ (cellNames smallNode.server.table).take 3, ClearName name := by
    have hcells : ∀ name ∈ (cellNames smallNode.server.table).take 3,
        ',' ∉ name.1 ∧ ('\n' ∉ name.1 ∧ '\n' ∉ name.2) ∧ '\r' ∉ name.1 ∧ '\r' ∉ name.2 := by
      decide
    intro name hname
    obtain ⟨hcomma, hnewline, hcr⟩ := hcells name hname
    exact ⟨hcomma, hnewline, hcr⟩
  have hopen : Openable "anna".toList "pwd".toList (some (.storage { smallNode with
      server := { smallNode.server with enabled := false } })) := by
    refine ⟨⟨by decide, by decide⟩, by decide, by decide, by decide, by decide, ?_⟩
    intro n v hn hv
    obtain rfl := ConsolePeer.storage.inj (Option.some.inj hn)
    have hvalue : smallNode.server.table.get "anna".toList "pwd".toList =
        some "aGk=".toList := by
      decide
    rw [hvalue] at hv
    exact Option.some.inj hv ▸ by decide
  refine Machine.Along.cons trivial rfl ?_
  refine Machine.Along.cons hports.2.2 rfl ?_
  refine Machine.Along.cons hports.2.1 rfl ?_
  refine Machine.Along.cons ⟨hports.2.1, hnames⟩ rfl ?_
  refine Machine.Along.cons ⟨3001, rfl, hopen⟩ rfl ?_
  exact Machine.Along.cons ⟨hports.1, trivial⟩ rfl trivial

lemma cuts_whole : Cuts (fun s => [s]) := fun _ => List.flatten_singleton

/-- After the presses the frontend has its message and its command, and the storage server is
off. -/
theorem panel_answers_small :
    Machine.Agree Eq (Mirrors (Panel.frontendPorts smallPanel) (Panel.backendPorts smallPanel))
      ((panelMachine base64 0 (fun s => [s])).answers smallPresses
        ⟨fun _ => {}, smallPanel, smallWorld⟩)
      (smallRemote.answers smallPresses ⟨fun _ => none, fun _ => true, smallWorld⟩) ∧
    (∃ pages r, smallRemote.answers smallPresses ⟨fun _ => none, fun _ => true, smallWorld⟩ =
        some (pages, r) ∧
      r.world.datagrams = [(20000, "ENABLE".toList)] ∧
      r.world.peer 3001 = some (.storage { smallNode with
        server := { smallNode.server with enabled := false } })) :=
  ⟨panel_answers_as_remote cuts_whole startAdmin_small (by decide) smallPresses_allowed,
    _, _, rfl, rfl, rfl⟩

end CloudStorage.Proofs
