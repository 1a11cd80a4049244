import CloudStorage.ConfigFile
import CloudStorage.Proofs.ConsolePages
import CloudStorage.Proofs.FormEncoding
import CloudStorage.Proofs.Requests
import CloudStorage.Proofs.Substrings

/-!
# One configuration

The master and the storage servers read the same file, and the admin console gets it from the
master. This file proves that all of them end up with the same servers, and that a file with a
line for each server is read as these servers in their order.
-/

namespace CloudStorage.Proofs
open DelimitedText

/-! ### The file on its way to the admin console -/

lemma sendToAdminConsole_flatten (b : Base64) (file : Str) :
    (sendToAdminConsole b file).flatten = b.encode file ++ "\r\n".toList := by
  have hpos : 0 < BUFFER_SIZE := by decide
  have hwhole : (b.encode file).length ≤
      BUFFER_SIZE * (((b.encode file).length + BUFFER_SIZE - 1) / BUFFER_SIZE) := by
    have hdiv := Nat.div_add_mod ((b.encode file).length + BUFFER_SIZE - 1) BUFFER_SIZE
    have hmod := Nat.mod_lt ((b.encode file).length + BUFFER_SIZE - 1) hpos
    omega
  unfold sendToAdminConsole
  dsimp only
  rw [List.flatten_append, ← List.flatMap_def, flatMap_windows, List.take_of_length_le hwhole,
    List.flatten_singleton]

lemma admin_request (b : Base64) (file : Str) :
    (receiveAdminConsoleRequest b file "REQUEST\r\n".toList).flatten =
      b.encode file ++ "\r\n".toList := by
  have hline : receiveAdminConsoleRequest b file "REQUEST\r\n".toList =
      sendToAdminConsole b file ++ [[]] := by
    have hcut : commandLines [] "REQUEST\r\n".toList = ["REQUEST".toList] := by decide
    rw [receiveAdminConsoleRequest, hcut, List.flatMap_singleton, adminRequest, if_pos (by decide)]
  rw [hline, List.flatten_append, sendToAdminConsole_flatten, List.flatten_singleton,
    List.append_nil]

/-- The end of the line comes once. -/
lemma crlf_last {s a t : Str} (hs : '\r' ∉ s) (h : a ++ '\r' :: '\n' :: t = s ++ ['\r', '\n']) :
    t = [] := by
  rcases List.append_eq_append_iff.mp h with ⟨u, rfl, hu⟩ | ⟨u, rfl, hu⟩
  · cases u with
    | nil => simpa using hu
    | cons ch u =>
      obtain ⟨rfl, -⟩ := List.cons.inj hu
      exact absurd (List.mem_append_right a List.mem_cons_self) hs
  · have hlen := congrArg List.length hu
    simp only [List.length_append, List.length_cons, List.length_nil] at hlen
    exact List.length_eq_zero_iff.mp (by omega)

/-- The loop goes on up to the end of the line, however the line arrives. -/
lemma readResponse_line {s : Str} (hs : '\r' ∉ s) {acc : Str} {pieces : List Str}
    (h : acc ++ pieces.flatten = s ++ "\r\n".toList) (hacc : contains "\r\n".toList acc = false) :
    MailServer.readResponse acc (pieces.map some) = some (s ++ "\r\n".toList) := by
  induction pieces generalizing acc with
  | nil =>
    rw [List.flatten_nil, List.append_nil] at h
    have hend : contains "\r\n".toList (s ++ "\r\n".toList) = true :=
      (contains_iff _ _).mpr (List.suffix_append s _).isInfix
    rw [h, hend] at hacc
    exact absurd hacc (by decide)
  | cons piece pieces ih =>
    rw [List.flatten_cons, ← List.append_assoc] at h
    change (if (findStr "\r\n".toList (acc ++ piece)).isSome then some (acc ++ piece)
      else MailServer.readResponse (acc ++ piece) (pieces.map some)) = _
    rw [findStr_isSome]
    split
    · next hfound =>
      obtain ⟨u, v, huv⟩ := (contains_iff _ _).mp hfound
      have hwhole : u ++ "\r\n".toList ++ (v ++ pieces.flatten) = s ++ "\r\n".toList := by
        rw [← List.append_assoc, huv, h]
      have hrest : v ++ pieces.flatten = [] := crlf_last hs (by simpa using hwhole)
      rw [← h, (List.append_eq_nil_iff.mp hrest).2, List.append_nil]
    · next hnot => exact ih h (by simpa using hnot)

lemma encode_no_cr (b : Base64) (s : Str) : '\r' ∉ b.encode s := by
  intro hch
  exact absurd (b.alphabet s '\r' hch) (by decide)

lemma getConfigFile_pieces {b : Base64}
    (hdecode : ∀ x, Bytes x → b.decode (b.encode x ++ "\r\n".toList) = x)
    {config : Str} (hbytes : Bytes config) {pieces : List Str}
    (h : pieces.flatten = (receiveAdminConsoleRequest b config "REQUEST\r\n".toList).flatten) :
    getConfigFile b true (pieces.map some) = some config := by
  have hread : MailServer.readResponse [] (pieces.map some) =
      some (b.encode config ++ "\r\n".toList) := by
    refine readResponse_line (encode_no_cr b config) ?_ (by decide)
    rw [List.nil_append, h, admin_request]
  rw [getConfigFile, if_pos rfl, Panel.readFromBackendSocket, hread, Option.map_some,
    hdecode _ hbytes]

/-- For every file and however the reply of the master is cut into pieces, the admin console
reads the servers that the master and the storage servers read. -/
theorem admin_reads_config {b : Base64}
    (hdecode : ∀ x, Bytes x → b.decode (b.encode x ++ "\r\n".toList) = x)
    {config : Str} (hbytes : Bytes config) {pieces : List Str}
    (h : pieces.flatten = (receiveAdminConsoleRequest b config "REQUEST\r\n".toList).flatten)
    (servers : ServerMap) :
    (getConfigFile b true (pieces.map some)).bind (parseBackendServers · servers) =
      parseServers config servers := by
  rw [getConfigFile_pieces hdecode hbytes h]
  rfl

/-! ### A line for each server -/

/-- The values of a line for a server. -/
def infoValues (info : BackendServerInfo) : List Str :=
  [toStr info.replicaGroup, info.ip, toStr info.tcpPort, toStr info.udpPort,
    toStr info.udpPort2, toStr info.tcpPort2]

/-- Values behind labels, with commas between them. -/
def labelled (fields : List (Str × Str)) : Str :=
  joined ',' (fields.map (fun field => field.1 ++ ':' :: field.2))

/-- A server as it can stand in the file. -/
structure Listable (info : BackendServerInfo) : Prop where
  ip : ∀ ch ∈ [',', '\n', ':', ';', '@'], ch ∉ info.ip
  isInt : ∀ n ∈ [info.replicaGroup, info.tcpPort, info.udpPort, info.udpPort2, info.tcpPort2],
    IsInt n
  isPrimary : info.isPrimary = false
  isDead : info.isDead = true

/-- The lines of a file, with the servers that they are for in their order. The labels can be
any, and so can lines that do not have six parts. -/
inductive Describes : List Str → List BackendServerInfo → Prop where
  | nil : Describes [] []
  | server {fields : List (Str × Str)} {info : BackendServerInfo} {lines : List Str}
      {infos : List BackendServerInfo} (hvalues : fields.map Prod.snd = infoValues info)
      (hlabels : ∀ field ∈ fields, ∀ ch ∈ [',', '\n', ':'], ch ∉ field.1) (hinfo : Listable info)
      (h : Describes lines infos) : Describes (labelled fields :: lines) (info :: infos)
  | other {line : Str} {lines : List Str} {infos : List BackendServerInfo}
      (hparts : (configParts line).length ≠ 6) (hline : '\n' ∉ line)
      (h : Describes lines infos) : Describes (line :: lines) infos

/-- Labelled values are read without their labels. -/
lemma configParts_labelled {fields : List (Str × Str)}
    (hlabels : ∀ field ∈ fields, ',' ∉ field.1 ∧ ':' ∉ field.1)
    (hvalues : ∀ field ∈ fields, ',' ∉ field.2) :
    configParts (labelled fields) = fields.map Prod.snd := by
  have hcomma : ∀ part ∈ fields.map (fun field => field.1 ++ ':' :: field.2),
      ',' ∉ part ∧ ':' ∈ part := by
    intro part hpart
    obtain ⟨field, hfield, rfl⟩ := List.mem_map.mp hpart
    have hl := (hlabels field hfield).1
    have hv := hvalues field hfield
    simp [hl, hv]
  have hlast : (fields.map (fun field => field.1 ++ ':' :: field.2)).getLast? ≠ some [] := by
    intro he
    exact absurd (hcomma [] (List.mem_of_getLast? he)).2 List.not_mem_nil
  rw [configParts, labelled, getlines_joined (fun part hpart => (hcomma part hpart).1) hlast,
    List.filter_eq_self.mpr (fun part hpart => by simpa using (hcomma part hpart).2),
    List.map_map]
  exact List.map_congr_left (fun field hfield => after_append (hlabels field hfield).2 field.2)

lemma infoValues_free {info : BackendServerInfo} (h : Listable info) {ch : Char}
    (hch : ch ∈ [',', '\n']) : ∀ value ∈ infoValues info, ch ∉ value := by
  have hnumber : ∀ n : Int, ch ∉ toStr n := by
    intro n
    rcases List.mem_pair.mp hch with rfl | rfl
    · exact not_mem_toStr (by decide) (by decide)
    · exact not_mem_toStr (by decide) (by decide)
  have hfree : [',', '\n'] ⊆ [',', '\n', ':', ';', '@'] := by simp
  have hip : ch ∉ info.ip := h.ip ch (hfree hch)
  intro value hvalue
  simp only [infoValues, List.mem_cons, List.not_mem_nil, or_false] at hvalue
  rcases hvalue with rfl | rfl | rfl | rfl | rfl | rfl
  · exact hnumber _
  · exact hip
  · exact hnumber _
  · exact hnumber _
  · exact hnumber _
  · exact hnumber _

/-- The values of a server are read to this server. -/
lemma readInfo_infoValues {info : BackendServerInfo} (h : Listable info) :
    readInfo (infoValues info) = some info := by
  have hn := h.isInt
  simp only [List.forall_mem_cons] at hn
  obtain ⟨hgroup, htcp, hudp, hudp2, htcp2, -⟩ := hn
  rw [infoValues, readInfo, stoi_toStr_end hgroup, stoi_toStr_end htcp, stoi_toStr_end hudp,
    stoi_toStr_end hudp2, stoi_toStr_end htcp2]
  obtain ⟨ip, tcpPort, udpPort, udpPort2, tcpPort2, isPrimary, isDead, replicaGroup⟩ := info
  obtain rfl : isPrimary = false := h.isPrimary
  obtain rfl : isDead = true := h.isDead
  rfl

lemma Describes.no_newline {lines : List Str} {infos : List BackendServerInfo}
    (h : Describes lines infos) : ∀ line ∈ lines, '\n' ∉ line := by
  induction h with
  | nil => exact fun _ hline => absurd hline List.not_mem_nil
  | server hvalues hlabels hinfo _ ih =>
    refine List.forall_mem_cons.mpr ⟨not_mem_joined (by decide) ?_, ih⟩
    intro part hpart
    obtain ⟨field, hfield, rfl⟩ := List.mem_map.mp hpart
    have hnewline : '\n' ∈ [',', '\n'] := by decide
    have hvalue := infoValues_free hinfo hnewline field.2
      (hvalues ▸ List.mem_map_of_mem hfield)
    have hlabel := hlabels field hfield '\n' (by decide)
    simp [hlabel, hvalue]
  | other _ hline _ ih => exact List.forall_mem_cons.mpr ⟨hline, ih⟩

/-- A last line that is empty has no parts, so that it makes no difference whether the last
line of the file is complete. -/
lemma configLines_joined {lines : List Str} (h : ∀ line ∈ lines, '\n' ∉ line) :
    configLines 6 (joined '\n' lines) =
      (lines.map configParts).filter (fun parts => parts.length = 6) := by
  by_cases hlast : lines.getLast? = some []
  · obtain ⟨front, rfl⟩ := List.getLast?_eq_some_iff.mp hlast
    rw [configLines, getlines_joined_nil (fun line hline => h line (List.mem_append_left _ hline)),
      List.map_append, List.filter_append]
    exact (List.append_nil _).symm
  · rw [configLines, getlines_joined h hlast]

/-- The servers are added one after another, in the order of their lines. -/
theorem Describes.parseServers {lines : List Str} {infos : List BackendServerInfo}
    (h : Describes lines infos) (servers : ServerMap) :
    parseServers (joined '\n' lines) servers = some (infos.foldl ServerMap.push servers) := by
  rw [CloudStorage.parseServers, configLines_joined h.no_newline]
  induction h generalizing servers with
  | nil => rfl
  | @server fields info lines infos hvalues hlabels hinfo _ ih =>
    have hparts : configParts (labelled fields) = infoValues info := by
      rw [← hvalues]
      refine configParts_labelled (fun field hfield => ⟨hlabels field hfield ',' (by decide),
        hlabels field hfield ':' (by decide)⟩) (fun field hfield => ?_)
      exact infoValues_free hinfo (by decide) field.2 (hvalues ▸ List.mem_map_of_mem hfield)
    rw [List.map_cons, List.filter_cons_of_pos (by rw [hparts]; rfl), hparts, List.foldlM_cons,
      readInfo_infoValues hinfo]
    exact ih (servers.push info)
  | other hparts _ _ ih =>
    rw [List.map_cons, List.filter_cons_of_neg (by simpa using hparts)]
    exact ih servers

/-! ### The groups -/

lemma group_push (servers : ServerMap) (info : BackendServerInfo) (g : Int) :
    (servers.push info).group g =
      servers.group g ++ (if info.replicaGroup = g then [info] else []) := by
  rw [ServerMap.push, ServerMap.group, OrderedMap.find?_insert]
  by_cases hg : g = info.replicaGroup
  · rw [if_pos hg, if_pos hg.symm, hg]
    rfl
  · rw [if_neg hg, if_neg (Ne.symm hg), List.append_nil]
    rfl

/-- A group has its servers in the order of the file. -/
lemma group_foldl (infos : List BackendServerInfo) (servers : ServerMap) (g : Int) :
    (infos.foldl ServerMap.push servers).group g =
      servers.group g ++ infos.filter (fun info => info.replicaGroup = g) := by
  induction infos generalizing servers with
  | nil => exact (List.append_nil _).symm
  | cons info infos ih =>
    rw [List.foldl_cons, ih, group_push, List.append_assoc, List.filter_cons]
    congr 1
    by_cases hg : info.replicaGroup = g
    · simp [hg]
    · simp [hg]

lemma mem_infos {servers : ServerMap} {info : BackendServerInfo} :
    info ∈ servers.infos ↔ ∃ g, info ∈ servers.group g := by
  rw [ServerMap.infos, List.mem_flatMap]
  constructor
  · rintro ⟨⟨g, infos⟩, he, hinfo⟩
    refine ⟨g, ?_⟩
    rw [ServerMap.group, (servers.mem_entries g infos).mp he]
    exact hinfo
  · rintro ⟨g, hinfo⟩
    cases hfind : servers.find? g with
    | none =>
      rw [ServerMap.group, hfind] at hinfo
      exact absurd hinfo List.not_mem_nil
    | some infos =>
      rw [ServerMap.group, hfind] at hinfo
      exact ⟨(g, infos), (servers.mem_entries g infos).mpr hfind, hinfo⟩

/-- A loop that keeps what it finds ends with the last of it. -/
lemma foldl_last {α : Type*} (p : α → Bool) (xs : List α) (x : α) :
    xs.foldl (fun found a => if p a then a else found) x = (xs.filter p).getLast?.getD x := by
  induction xs using List.reverseRecOn with
  | nil => rfl
  | append_singleton xs a ih =>
    rw [List.foldl_append, ih, List.filter_append, List.foldl_cons, List.foldl_nil]
    by_cases ha : p a = true
    · simp [ha]
    · simp [ha]

/-- What is looked for by its group is the last server of the group. -/
lemma lookFor_group (servers : ServerMap) (g : Int) (info : BackendServerInfo) :
    lookFor (fun replicaGroup _ => replicaGroup = g) servers info =
      (servers.group g).getLast?.getD info := by
  have hloop : ∀ found : BackendServerInfo, ∀ server : Int × List BackendServerInfo,
      server.2.foldl (fun found info => if decide (server.1 = g) then info else found) found =
        if decide (server.1 = g) then server.2.getLast?.getD found else found := by
    intro found server
    rw [foldl_last (fun _ => decide (server.1 = g))]
    by_cases hg : server.1 = g
    · simp [hg]
    · simp [hg]
  unfold lookFor
  simp only [hloop]
  rw [← List.foldl_filter (p := fun server : Int × List BackendServerInfo => decide (server.1 = g)),
    servers.filter_key g]
  unfold ServerMap.group
  cases servers.find? g with
  | none => rfl
  | some infos => rfl

/-- What is looked for and is there once is found. -/
lemma lookFor_unique {p : BackendServerInfo → Bool} {servers : ServerMap}
    {found : BackendServerInfo} (hmem : found ∈ servers.infos) (hp : p found = true)
    (huniq : ∀ info ∈ servers.infos, p info = true → info = found) (start : BackendServerInfo) :
    lookFor (fun _ => p) servers start = found := by
  have hloop : lookFor (fun _ => p) servers start =
      (servers.infos.filter p).getLast?.getD start := by
    rw [← foldl_last, ServerMap.infos, List.flatMap_def, List.foldl_flatten, List.foldl_map]
    rfl
  have hne : servers.infos.filter p ≠ [] :=
    List.ne_nil_of_mem (List.mem_filter.mpr ⟨hmem, hp⟩)
  obtain ⟨hlast, hlastp⟩ := List.mem_filter.mp (List.getLast_mem hne)
  rw [hloop, List.getLast?_eq_some_getLast hne, Option.getD_some]
  exact huniq _ hlast hlastp

/-! ### A master and two servers -/

def smallInfo (g n : Int) : BackendServerInfo where
  ip := "127.0.0.1".toList
  tcpPort := 2000 + n
  udpPort := 8000 + n
  udpPort2 := 9000 + n
  tcpPort2 := 3000 + n
  replicaGroup := g

def smallFields (info : BackendServerInfo) : List (Str × Str) :=
  ["id".toList, "ip".toList, "tcp".toList, "udp".toList, "udp2".toList, "tcp2".toList].zip
    (infoValues info)

def smallLines : List Str :=
  [labelled (smallFields (smallInfo 0 0)), "group 1".toList,
    labelled (smallFields (smallInfo 1 1)), labelled (smallFields (smallInfo 1 2)), []]

def smallInfos : List BackendServerInfo := [smallInfo 0 0, smallInfo 1 1, smallInfo 1 2]

/-- The reply of the master, byte by byte. -/
def smallPieces : List Str :=
  (receiveAdminConsoleRequest base64 (joined '\n' smallLines) "REQUEST\r\n".toList).flatten.map
    (fun ch => [ch])

lemma smallLines_bytes : Bytes (joined '\n' smallLines) := by
  have hbytes : (joined '\n' smallLines).all (fun ch => ch.toNat < 256) = true := by
    decide +kernel
  exact fun ch hch => of_decide_eq_true (List.all_eq_true.mp hbytes ch hch)

lemma smallPieces_flatten : smallPieces.flatten =
    (receiveAdminConsoleRequest base64 (joined '\n' smallLines) "REQUEST\r\n".toList).flatten := by
  rw [smallPieces, ← List.flatMap_def]
  exact List.flatMap_singleton' _

/-- The decoder passes over the end of the line. -/
lemma base64_decode_line {x : Str} (hx : Bytes x) :
    base64.decode (base64.encode x ++ "\r\n".toList) = x :=
  Radix64.decode_encode_append hx (by decide)

theorem admin_reads_config_small :
    (getConfigFile base64 true (smallPieces.map some)).bind (parseBackendServers · .empty) =
      parseServers (joined '\n' smallLines) .empty :=
  admin_reads_config (fun _ hx => base64_decode_line hx) smallLines_bytes smallPieces_flatten .empty

lemma describes_small : Describes smallLines smallInfos := by
  have hlabels : ∀ info, ∀ field ∈ smallFields info, ∀ ch ∈ [',', '\n', ':'], ch ∉ field.1 := by
    intro info field hfield
    have hlabel : ["id".toList, "ip".toList, "tcp".toList, "udp".toList, "udp2".toList,
        "tcp2".toList].all (fun label => [',', '\n', ':'].all (fun ch => ch ∉ label)) = true := by
      decide
    have hfree := List.all_eq_true.mp hlabel field.1 (List.of_mem_zip hfield).1
    exact fun ch hch => of_decide_eq_true (List.all_eq_true.mp hfree ch hch)
  have hinfo : ∀ info ∈ smallInfos, Listable info := by
    have hfacts : ∀ info ∈ smallInfos, info.ip = "127.0.0.1".toList ∧
        (∀ n ∈ [info.replicaGroup, info.tcpPort, info.udpPort, info.udpPort2, info.tcpPort2],
          IsInt n) ∧ info.isPrimary = false ∧ info.isDead = true := by
      decide
    have hfree : [',', '\n', ':', ';', '@'].all (fun ch => ch ∉ "127.0.0.1".toList) = true := by
      decide
    intro info hmem
    obtain ⟨hip, hint, hprimary, hdead⟩ := hfacts info hmem
    refine ⟨fun ch hch => ?_, hint, hprimary, hdead⟩
    rw [hip]
    exact of_decide_eq_true (List.all_eq_true.mp hfree ch hch)
  have hmaster := hinfo (smallInfo 0 0) (by decide)
  have hfirst := hinfo (smallInfo 1 1) (by decide)
  have hsecond := hinfo (smallInfo 1 2) (by decide)
  exact .server rfl (hlabels _) hmaster (.other (by decide) (by decide) (.server rfl (hlabels _)
    hfirst (.server rfl (hlabels _) hsecond (.other (by decide) (by decide) .nil))))

end CloudStorage.Proofs
