import CloudStorage.BackendSocket
import CloudStorage.Proofs.ControlMessages
import CloudStorage.Proofs.RoundRobin

/-!
# The reply of the master

The frontend reads the reply of the master with one parser, whatever it says, out of an array
that has no end of its own. This file proves which replies are understood: those with an
address are where they fit into the array, and the one that no server is alive is only where
the memory behind it looks like an address.
-/

namespace CloudStorage.Proofs
open DelimitedText Positions

/-! ### The parser -/

/-- What stands in front of the first CR LF. -/
def firstLine (s : Str) : Str := s.take ((findStr "\r\n".toList s).getD s.length)

/-- A piece that ends at the next CR LF, or at the end of the text. -/
lemma slice_line {s : Str} {pos : Nat} (hpos : pos ≤ s.length) (hsize : s.length < npos) :
    slice pos (sub (position (findStrFrom "\r\n".toList pos s)) pos) s =
      some (firstLine (s.drop pos)) := by
  have hlast := npos_add_one
  unfold findStrFrom firstLine
  cases hfind : findStr "\r\n".toList (s.drop pos) with
  | none =>
    rw [Option.map_none, position_none, sub_of_le (by omega) (by omega),
      slice_rest hpos (by omega), Option.getD_none, List.take_length]
  | some k =>
    have hk := findStr_le hfind
    rw [List.length_drop] at hk
    rw [Option.map_some, position_some, sub_of_le (by omega) (by omega), Nat.add_sub_cancel_left,
      slice_of_le hpos, Option.getD_some]

/-- With two colons the parser reads the text between them and the number behind. -/
lemma extractIPAndPort_colons {front ip rest : Str} (hfront : ':' ∉ front) (hip : ':' ∉ ip)
    (hsize : (front ++ ':' :: (ip ++ ':' :: rest)).length < npos) :
    extractIPAndPort (front ++ ':' :: (ip ++ ':' :: rest)) =
      (stoi (firstLine rest)).map (fun port => (ip, port)) := by
  have hlast := npos_add_one
  set text := front ++ ':' :: (ip ++ ':' :: rest) with htext
  have hlen : text.length = front.length + 1 + (ip.length + 1 + rest.length) := by
    rw [htext]
    simp
    omega
  have hstart : add (position (find ':' 0 text)) 1 = front.length + 1 := by
    rw [add_position_find hsize, posAfter_mid hfront]
  have hdrop : text.drop (front.length + 1) = ip ++ ':' :: rest := by
    have hafter := after_append hfront (ip ++ ':' :: rest)
    rwa [after, posAfter_mid hfront] at hafter
  have hend : position (find ':' (front.length + 1) text) = front.length + 1 + ip.length := by
    unfold find
    rw [hdrop, if_pos (by simp), List.idxOf_append_of_notMem hip, List.idxOf_cons_self]
    rfl
  have hcut : slice (front.length + 1) ip.length text = some ip := by
    rw [slice_of_le (by omega), hdrop, List.take_left]
  have hrest : text.drop (front.length + 1 + ip.length + 1) = rest := by
    rw [Nat.add_assoc, ← List.drop_drop, hdrop, ← List.drop_drop, List.drop_left]
    rfl
  unfold extractIPAndPort
  dsimp only
  rw [hstart, hend, sub_of_le (by omega) (by omega), Nat.add_sub_cancel_left, hcut,
    add_of_lt (by omega), slice_line (by omega) hsize, hrest]
  simp only [Option.bind_eq_bind, Option.bind_some, Option.pure_def]
  cases stoi (firstLine rest) <;> rfl

/-- With fewer colons it reads the number from the beginning. -/
lemma extractIPAndPort_none {text : Str} (hsize : text.length < npos)
    (hcolon : ':' ∉ after ':' text) (hword : stoi (firstLine text) = none) :
    extractIPAndPort text = none := by
  have hend : position (find ':' (posAfter ':' text) text) = npos := by
    rw [after] at hcolon
    rw [find, if_neg hcolon, position_none]
  unfold extractIPAndPort
  dsimp only
  rw [add_position_find hsize, hend, add_npos_one, slice_line (Nat.zero_le _) hsize,
    List.drop_zero]
  cases slice (posAfter ':' text) (sub npos (posAfter ':' text)) text with
  | none => rfl
  | some ip =>
    simp only [Option.bind_eq_bind, Option.bind_some, hword, Option.bind_none]

/-- The text has a first part between colons, and a number behind. -/
def Readable (text ip : Str) (port : Int) : Prop :=
  ∃ front rest, text = front ++ ':' :: (ip ++ ':' :: rest) ∧ ':' ∉ front ∧ ':' ∉ ip ∧
    stoi (firstLine rest) = some port

/-- What is in front of the first colon does not matter. -/
lemma readable_append {word : Str} (hword : ':' ∉ word) {text ip : Str} {port : Int} :
    Readable (word ++ text) ip port ↔ Readable text ip port := by
  constructor
  · rintro ⟨front, rest, heq, hfront, hip, hport⟩
    rcases List.append_eq_append_iff.mp heq with ⟨a, rfl, ha⟩ | ⟨c, hc, hrest⟩
    · exact ⟨a, rest, ha, fun hmem => hfront (List.mem_append_right _ hmem), hip, hport⟩
    · cases c with
      | nil =>
        rw [List.nil_append] at hrest
        exact ⟨[], rest, hrest.symm, List.not_mem_nil, hip, hport⟩
      | cons ch c =>
        obtain ⟨rfl, -⟩ := List.cons.inj hrest
        exact absurd (hc ▸ List.mem_append_right _ List.mem_cons_self) hword
  · rintro ⟨front, rest, rfl, hfront, hip, hport⟩
    refine ⟨word ++ front, rest, (List.append_assoc _ _ _).symm, ?_, hip, hport⟩
    rw [List.mem_append, not_or]
    exact ⟨hword, hfront⟩

theorem extractIPAndPort_iff {text ip : Str} {port : Int} (hsize : text.length < npos)
    (hword : stoi (firstLine text) = none) :
    extractIPAndPort text = some (ip, port) ↔ Readable text ip port := by
  constructor
  · intro h
    by_cases hcolon : ':' ∈ after ':' text
    · have hmem : ':' ∈ text := List.mem_of_mem_drop hcolon
      obtain ⟨front, behind, rfl, hfront⟩ := List.eq_append_cons_of_mem hmem
      rw [after_append hfront] at hcolon
      obtain ⟨ip', rest, rfl, hip⟩ := List.eq_append_cons_of_mem hcolon
      rw [extractIPAndPort_colons hfront hip hsize] at h
      obtain ⟨port', hport, heq⟩ := Option.map_eq_some_iff.mp h
      obtain ⟨rfl, rfl⟩ := Prod.mk.inj heq
      exact ⟨front, rest, rfl, hfront, hip, hport⟩
    · rw [extractIPAndPort_none hsize hcolon hword] at h
      cases h
  · rintro ⟨front, rest, rfl, hfront, hip, hport⟩
    rw [extractIPAndPort_colons hfront hip hsize, hport]
    rfl

/-! ### What the array holds -/

lemma firstLine_cons {ch : Char} (hch : ch ≠ '\r') (s : Str) :
    firstLine (ch :: s) = ch :: firstLine s := by
  have hno : "\r\n".toList.isPrefixOf (ch :: s) = false := by
    rw [← Bool.not_eq_true, List.isPrefixOf_iff_prefix]
    intro hbegins
    exact hch (List.cons_prefix_cons.mp hbegins).1.symm
  unfold firstLine
  rw [findStr, hno, if_neg (by decide)]
  cases findStr "\r\n".toList s <;> rfl

lemma firstLine_line {l : Str} (h : NoCrlf l) (rest : Str) :
    firstLine (l ++ "\r\n".toList ++ rest) = l := by
  rw [firstLine, findStr_line h, Option.getD_some, List.append_assoc, List.take_left]

/-- What fits into the array is read, and the memory behind it, up to a NUL. -/
lemma serverInfoText_append {front : Str} (hnul : '\x00' ∉ front)
    (hfits : front.length ≤ buffer_size) (rest memory : Str) :
    serverInfoText (front ++ rest) memory =
      front ++ cString (rest.take (buffer_size - front.length) ++ memory) := by
  unfold serverInfoText
  rw [List.take_append, List.take_of_length_le hfits, List.append_assoc, cString_append hnul]

lemma length_serverInfoText_le (reply memory : Str) :
    (serverInfoText reply memory).length ≤ buffer_size + memory.length := by
  have hle := (List.takeWhile_prefix (l := reply.take buffer_size ++ memory)
    (fun ch => decide (ch ≠ '\x00'))).length_le
  have htake := List.length_take_le buffer_size reply
  rw [List.length_append] at hle
  unfold serverInfoText cString
  omega

/-! ### The address of a server -/

/-- The text is the address of a server, and what follows up to the end of the line is read as
its port. -/
def Arrived (info : ServerInfo) (text : Str) : Prop :=
  ∃ rest, text = "SERVER_INFO:".toList ++ info.ip ++ ':' :: rest ∧
    stoi (firstLine rest) = some info.tcpPort

lemma serverReply_eq (info : ServerInfo) : serverReply info =
    "SERVER_INFO:".toList ++ info.ip ++ ':' :: (toStr info.tcpPort ++ "\r\n".toList) := by
  unfold serverReply endpoint
  simp only [List.append_assoc]
  rfl

lemma address_understood_iff {info : ServerInfo} (hip : ':' ∉ info.ip) {memory : Str}
    (hsize : buffer_size + memory.length < npos) :
    extractIPAndPort (serverInfoText (serverReply info) memory) = some info.address ↔
      Arrived info (serverInfoText (serverReply info) memory) := by
  have hshort := (length_serverInfoText_le (serverReply info) memory).trans_lt hsize
  obtain ⟨t, ht⟩ : ∃ t, serverInfoText (serverReply info) memory = "SERVER_INFO:".toList ++ t := by
    rw [serverReply_eq, List.append_assoc]
    exact ⟨_, serverInfoText_append (by decide) (by decide) _ memory⟩
  rw [ht] at hshort ⊢
  have hword : stoi (firstLine ("SERVER_INFO:".toList ++ t)) = none := by
    change stoi (firstLine ('S' :: ("ERVER_INFO:".toList ++ t))) = none
    rw [firstLine_cons (by decide)]
    rfl
  have hline : ∀ x : Str, "SERVER_INFO:".toList ++ x = "SERVER_INFO".toList ++ ':' :: x :=
    fun x => rfl
  rw [ServerInfo.address, extractIPAndPort_iff hshort hword]
  constructor
  · rintro ⟨front, rest, htext, hfront, -, hport⟩
    have hparts := congrArg (after ':') htext
    rw [hline, after_append (by decide), after_append hfront] at hparts
    exact ⟨rest, by rw [hparts, List.append_assoc], hport⟩
  · rintro ⟨rest, htext, hport⟩
    exact ⟨"SERVER_INFO".toList, rest, by rw [htext, List.append_assoc, hline], by decide, hip,
      hport⟩

/-- So an address without NUL is understood if it fits. -/
theorem address_understood {info : ServerInfo} (hip : ':' ∉ info.ip) (hnul : '\x00' ∉ info.ip)
    (hport : IsInt info.tcpPort) (hfits : (serverReply info).length ≤ buffer_size) {memory : Str}
    (hsize : buffer_size + memory.length < npos) :
    extractIPAndPort (serverInfoText (serverReply info) memory) = some info.address := by
  rw [address_understood_iff hip hsize]
  have hdigits : '\x00' ∉ toStr info.tcpPort := not_mem_toStr (by decide) (by decide)
  have hnewline : '\n' ∉ toStr info.tcpPort := not_mem_toStr (by decide) (by decide)
  have hplain : '\x00' ∉ serverReply info := by
    have hword : '\x00' ∉ "SERVER_INFO:".toList := by decide
    have hbreak : '\x00' ∉ "\r\n".toList := by decide
    simp only [serverReply_eq, List.mem_append, List.mem_cons, hword, hnul, hdigits, hbreak,
      or_false]
    decide
  have htext := serverInfoText_append hplain hfits [] memory
  rw [List.append_nil, List.take_nil, List.nil_append] at htext
  refine ⟨toStr info.tcpPort ++ "\r\n".toList ++ cString memory, ?_, ?_⟩
  · rw [htext, serverReply_eq]
    simp only [List.append_assoc, List.cons_append]
  · rw [firstLine_line (noCrlf_of_no_newline hnewline), stoi_toStr_end hport]

/-! ### No server -/

/-- The calls up to the reply succeed. -/
def ReceivesReply (calls : ConnectCalls) (username reply : Str) : Prop :=
  calls.master_sock ≠ none ∧ calls.masterConnected = true ∧
    calls.commandSent ("GET_SERVER:".toList ++ username ++ "\r\n".toList) = true ∧
    calls.reply = some reply

/-- There is no connection to a server with that address. -/
def Unreachable (calls : ConnectCalls) (ip : Str) (port : Int) : Prop :=
  calls.backend_sock = none ∨ calls.backendConnected ip port = false ∨ calls.greeted = false

lemma connectToBackend_failed_iff {calls : ConnectCalls} {username reply : Str}
    (h : ReceivesReply calls username reply) :
    calls.connectToBackend username = some .failed ↔ ∃ ip port,
      extractIPAndPort (serverInfoText reply calls.memory) = some (ip, port) ∧
        Unreachable calls ip port := by
  obtain ⟨hmaster, hconnected, hsent, hreply⟩ := h
  obtain ⟨sock, hsock⟩ := Option.ne_none_iff_exists'.mp hmaster
  unfold ConnectCalls.connectToBackend Unreachable
  dsimp only
  rw [hsock, hconnected, hsent, hreply]
  dsimp only
  rw [if_neg (by decide), if_neg (by decide)]
  cases extractIPAndPort (serverInfoText reply calls.memory) with
  | none => simp
  | some ipAndPort =>
    obtain ⟨ip, port⟩ := ipAndPort
    simp only [Option.bind_eq_bind, Option.bind_some, Option.pure_def, Option.some.injEq,
      Prod.mk.injEq]
    cases calls.backend_sock with
    | none => simp
    | some backend_sock =>
      cases hconnect : calls.backendConnected ip port <;> cases hgreeted : calls.greeted <;>
        simp [hconnect]

/-- Without a server alive the address is what the memory behind the reply looks like. -/
lemma no_servers_iff {calls : ConnectCalls} {username : Str}
    (h : ReceivesReply calls username noServersReply)
    (hsize : buffer_size + calls.memory.length < npos) :
    calls.connectToBackend username = some .failed ↔
      ∃ ip port, Readable (cString calls.memory) ip port ∧ Unreachable calls ip port := by
  have hnul : '\x00' ∉ noServersReply := by decide
  have hcolon : ':' ∉ noServersReply := by decide
  have hshort := (length_serverInfoText_le noServersReply calls.memory).trans_lt hsize
  have htext := serverInfoText_append hnul (by decide) [] calls.memory
  rw [List.append_nil, List.take_nil, List.nil_append] at htext
  rw [htext] at hshort
  have hword : stoi (firstLine (noServersReply ++ cString calls.memory)) = none := by
    change stoi (firstLine ('-' :: 'E' :: ("RR NO_SERVERS_ALIVE\r\n".toList ++ _))) = none
    rw [firstLine_cons (by decide), firstLine_cons (by decide)]
    rfl
  rw [connectToBackend_failed_iff h, htext]
  simp only [extractIPAndPort_iff hshort hword, readable_append hcolon]

/-! ### What the master sends -/

lemma searchLoop_alive {list : List ServerInfo} {start steps i next : Nat} {x : ServerInfo}
    (h : searchLoop list start steps i = some (some (x, next))) :
    x ∈ list ∧ x.isDead = false := by
  induction steps generalizing i with
  | zero => cases h
  | succ steps ih =>
    rw [searchLoop] at h
    cases hget : list[i]? with
    | none =>
      rw [hget] at h
      cases h
    | some selectedServer =>
      rw [hget] at h
      dsimp only [Option.bind_eq_bind, Option.bind_some] at h
      by_cases halive : selectedServer.isDead = false
      · rw [if_pos halive] at h
        cases h
        exact ⟨List.mem_of_getElem? hget, halive⟩
      · rw [if_neg halive] at h
        split at h
        · cases h
        · exact ih h

/-- The reply is the address of a server alive, or that there is none. -/
lemma getServer_reply {junk : Int} {username reply : Str} {s s' : Dispatcher}
    (h : getServer junk username s = some (reply, s')) :
    (∃ g, ∃ info ∈ s.servers g, info.isDead = false ∧ reply = serverReply info) ∨
      reply = noServersReply := by
  unfold getServer at h
  dsimp only at h
  cases hsearch : searchLoop (s.servers ((replicaGroupOf username).getD junk))
      (s.nextServerRoundRobin ((replicaGroupOf username).getD junk))
      (s.servers ((replicaGroupOf username).getD junk)).length
      (s.nextServerRoundRobin ((replicaGroupOf username).getD junk)) with
  | none =>
    rw [hsearch] at h
    cases h
  | some found =>
    rw [hsearch] at h
    cases found with
    | none =>
      obtain ⟨rfl, -⟩ := Prod.mk.inj (Option.some.inj h)
      exact Or.inr rfl
    | some selected =>
      obtain ⟨info, next⟩ := selected
      obtain ⟨rfl, -⟩ := Prod.mk.inj (Option.some.inj h)
      obtain ⟨hmem, halive⟩ := searchLoop_alive hsearch
      exact Or.inl ⟨_, info, hmem, halive, rfl⟩

/-- An address is understood exactly if it arrives, and a failure is reported for the other
reply exactly if the memory behind it has an address that cannot be reached. -/
theorem master_reply_iff {junk : Int} {username reply : Str} {s s' : Dispatcher}
    (h : getServer junk username s = some (reply, s'))
    (hip : ∀ g, ∀ info ∈ s.servers g, info.isDead = false → ':' ∉ info.ip) {calls : ConnectCalls}
    (hreply : ReceivesReply calls username reply)
    (hsize : buffer_size + calls.memory.length < npos) :
    (∃ g, ∃ info ∈ s.servers g, info.isDead = false ∧ reply = serverReply info ∧
      (extractIPAndPort (serverInfoText reply calls.memory) = some info.address ↔
        Arrived info (serverInfoText reply calls.memory))) ∨
    reply = noServersReply ∧ (calls.connectToBackend username = some .failed ↔
      ∃ ip port, Readable (cString calls.memory) ip port ∧ Unreachable calls ip port) := by
  rcases getServer_reply h with ⟨g, info, hmem, halive, rfl⟩ | rfl
  · exact Or.inl ⟨g, info, hmem, halive, rfl, address_understood_iff (hip g info hmem halive) hsize⟩
  · exact Or.inr ⟨rfl, no_servers_iff hreply hsize⟩

/-- The only server is dead. -/
def allDead : Dispatcher where
  servers := fun _ =>
    [{ ip := "127.0.0.1".toList, tcpPort := 6000, udpPort2 := 8000, replicaGroup := 1 }]
  nextServerRoundRobin := fun _ => 0

/-- Everything succeeds, and the memory behind the reply begins with a NUL. -/
def askedInVain : ConnectCalls where
  master_sock := some 5
  masterConnected := true
  commandSent := fun _ => true
  reply := some noServersReply
  memory := ['\x00']
  backend_sock := some 6
  backendConnected := fun _ _ => true
  greeted := true

lemma allDead_reply : getServer 0 "anna".toList allDead = some (noServersReply, allDead) := rfl

lemma askedInVain_receives : ReceivesReply askedInVain "anna".toList noServersReply :=
  ⟨by decide, rfl, rfl, rfl⟩

lemma allDead_colon : ∀ g, ∀ info ∈ allDead.servers g, info.isDead = false → ':' ∉ info.ip := by
  intro g info hmem halive
  obtain rfl := List.mem_singleton.mp hmem
  cases halive

/-- The same server, alive. -/
def liveServer : ServerInfo where
  ip := "127.0.0.1".toList
  tcpPort := 6000
  udpPort2 := 8000
  replicaGroup := 1
  isDead := false

def oneAlive : Dispatcher := { allDead with servers := fun _ => [liveServer] }

def askedAlive : ConnectCalls := { askedInVain with reply := some (serverReply liveServer) }

/-- The address of the live server is understood, and no failure is reported where there is
none. -/
theorem master_reply_both :
    extractIPAndPort (serverInfoText (serverReply liveServer) askedAlive.memory) =
      some liveServer.address ∧
    (askedInVain.connectToBackend "anna".toList = some .failed ↔
      ∃ ip port, Readable (cString askedInVain.memory) ip port ∧
        Unreachable askedInVain ip port) := by
  constructor
  · obtain ⟨s', hs⟩ : ∃ s', getServer 0 "anna".toList oneAlive =
        some (serverReply liveServer, s') := ⟨_, rfl⟩
    have hcolon : ∀ g, ∀ info ∈ oneAlive.servers g, info.isDead = false → ':' ∉ info.ip := by
      intro g info hmem _
      obtain rfl := List.mem_singleton.mp hmem
      decide
    have hreceived : ReceivesReply askedAlive "anna".toList (serverReply liveServer) :=
      ⟨by decide, rfl, rfl, rfl⟩
    rcases master_reply_iff hs hcolon hreceived (by decide) with
      ⟨g, info, hmem, -, -, hunderstood⟩ | ⟨hnone, -⟩
    · obtain rfl := List.mem_singleton.mp hmem
      exact hunderstood.mpr ⟨"6000\r\n".toList, by decide, by decide⟩
    · exact absurd hnone (by decide)
  · rcases master_reply_iff allDead_reply allDead_colon askedInVain_receives (by decide) with
      ⟨g, info, hmem, halive, -⟩ | ⟨-, hfailed⟩
    · obtain rfl := List.mem_singleton.mp hmem
      cases halive
    · exact hfailed

/-- The word behind the beginning of the text is no number, and the parser throws. -/
theorem error_reply_throws : ¬∀ (junk : Int) (username reply : Str) (s s' : Dispatcher)
    (calls : ConnectCalls), getServer junk username s = some (reply, s') →
    (∀ g, ∀ info ∈ s.servers g, info.isDead = false → ':' ∉ info.ip) →
    ReceivesReply calls username reply →
    (∃ g, ∃ info ∈ s.servers g, info.isDead = false ∧ reply = serverReply info ∧
      extractIPAndPort (serverInfoText reply calls.memory) = some info.address) ∨
    reply = noServersReply ∧ calls.connectToBackend username = some .failed := by
  intro h
  rcases h 0 "anna".toList noServersReply allDead allDead askedInVain allDead_reply allDead_colon
    askedInVain_receives with ⟨g, info, hmem, halive, -⟩ | ⟨-, hfailed⟩
  · obtain rfl := List.mem_singleton.mp hmem
    cases halive
  · exact absurd hfailed (by decide)

end CloudStorage.Proofs
