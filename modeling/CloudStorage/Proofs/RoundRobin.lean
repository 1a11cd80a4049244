import CloudStorage.Dispatcher
import CloudStorage.Lib.Turns
import CloudStorage.Proofs.ElectionState

/-!
# Which server a frontend is sent to

Every search goes once around the servers of the group and takes the first one alive, so the
live servers are given out in turns. The group must have been assigned, and have servers.
-/

namespace CloudStorage.Proofs
open DelimitedText Turns

def alive (it : ServerInfo) : Bool := !it.isDead

lemma alive_iff {it : ServerInfo} : alive it = true ↔ it.isDead = false := by
  unfold alive
  rw [Bool.not_eq_true']

/-! ### The search -/

/-- The index after `d` steps. -/
lemma succ_mod (i d n : Nat) : ((i + d) % n + 1) % n = (i + (d + 1)) % n := by
  rw [Nat.mod_add_mod, Nat.add_assoc]

/-- The search is back at its start after as many steps as there are servers. -/
lemma back_iff {i d n : Nat} (hi : i < n) (hd : d < n) : (i + (d + 1)) % n = i ↔ d + 1 = n := by
  constructor
  · intro h
    by_contra hne
    have hlt : d + 1 < n := by omega
    by_cases hwrap : i + (d + 1) < n
    · rw [Nat.mod_eq_of_lt hwrap] at h
      omega
    · rw [Nat.mod_eq_sub_mod (by omega), Nat.mod_eq_of_lt (by omega)] at h
      omega
  · intro h
    rw [h, Nat.add_mod_right, Nat.mod_eq_of_lt hi]

/-- From `d` servers behind the start, the search finds the first one alive of the rest of
the circle, if there is one. -/
lemma searchLoop_from {list : List ServerInfo} {i : Nat} (hi : i < list.length) (steps d : Nat)
    (hsteps : d + steps = list.length) (hpos : 0 < steps) :
    ∃ found, searchLoop list i steps ((i + d) % list.length) = some found ∧
      match found with
      | some (x, j) => ∃ skipped rest, (list.rotate i).drop d = skipped ++ x :: rest ∧
          (∀ y ∈ skipped, alive y = false) ∧ alive x = true ∧
          j = (i + (d + skipped.length) + 1) % list.length
      | none => ∀ y ∈ (list.rotate i).drop d, alive y = false := by
  induction steps generalizing d with
  | zero => exact absurd hpos (by omega)
  | succ steps ih =>
    have hd : d < list.length := by omega
    have hlen : d < (list.rotate i).length := by
      rw [List.length_rotate]
      exact hd
    have hget : list[(i + d) % list.length]? = some (list.rotate i)[d] := by
      rw [Nat.add_comm, ← List.getElem?_rotate hd, List.getElem?_eq_getElem hlen]
    have hdrop : (list.rotate i).drop d = (list.rotate i)[d] :: (list.rotate i).drop (d + 1) :=
      List.drop_eq_getElem_cons hlen
    rw [searchLoop, hget]
    dsimp only [Option.bind_eq_bind, Option.bind_some]
    rw [succ_mod]
    by_cases hdead : (list.rotate i)[d].isDead = false
    · rw [if_pos hdead]
      refine ⟨_, rfl, [], _, hdrop, fun _ hy => absurd hy List.not_mem_nil, alive_iff.mpr hdead, ?_⟩
      rfl
    · rw [if_neg hdead]
      have hnot : alive (list.rotate i)[d] = false := by
        rw [← Bool.not_eq_true, alive_iff]
        exact hdead
      by_cases hback : (i + (d + 1)) % list.length = i
      · rw [if_pos hback]
        refine ⟨none, rfl, ?_⟩
        have hend := (back_iff hi hd).mp hback
        rw [hdrop, List.drop_of_length_le (by rw [List.length_rotate]; omega)]
        intro y hy
        rw [List.mem_singleton.mp hy]
        exact hnot
      · rw [if_neg hback]
        have hmore : d + 1 ≠ list.length := fun h => hback ((back_iff hi hd).mpr h)
        obtain ⟨found, hfound, hspec⟩ := ih (d + 1) (by omega) (by omega)
        refine ⟨found, hfound, ?_⟩
        cases found with
        | none =>
          intro y hy
          rw [hdrop] at hy
          cases List.mem_cons.mp hy with
          | inl hy => exact hy ▸ hnot
          | inr hy => exact hspec y hy
        | some xj =>
          obtain ⟨skipped, rest, hrest, hskipped, hx, hj⟩ := hspec
          refine ⟨(list.rotate i)[d] :: skipped, rest, ?_, ?_, hx, ?_⟩
          · rw [hdrop, hrest, List.cons_append]
          · intro y hy
            cases List.mem_cons.mp hy with
            | inl hy => exact hy ▸ hnot
            | inr hy => exact hskipped y hy
          · rw [hj, List.length_cons]
            congr 2
            omega

/-- A search that goes around the whole list ends: it is the turn of a server alive, or all
are dead. -/
theorem searchLoop_spec {list : List ServerInfo} {i : Nat} (hi : i < list.length) :
    (∃ x j, searchLoop list i list.length i = some (some (x, j)) ∧ Turn alive list i x j ∧
      j < list.length) ∨
    (searchLoop list i list.length i = some none ∧ ∀ y ∈ list, y.isDead = true) := by
  have hpos : 0 < list.length := by omega
  obtain ⟨found, hfound, hspec⟩ := searchLoop_from hi list.length 0 (Nat.zero_add _) hpos
  rw [Nat.add_zero, Nat.mod_eq_of_lt hi] at hfound
  cases found with
  | none =>
    right
    refine ⟨hfound, fun y hy => ?_⟩
    have hdead := hspec y (by rw [List.drop_zero]; exact List.mem_rotate.mpr hy)
    unfold alive at hdead
    rwa [Bool.not_eq_false'] at hdead
  | some xj =>
    left
    obtain ⟨x, j⟩ := xj
    obtain ⟨skipped, rest, hrest, hskipped, hx, hj⟩ := hspec
    rw [List.drop_zero] at hrest
    rw [Nat.zero_add] at hj
    refine ⟨x, j, hfound, ⟨hx, skipped, rest, hrest, hskipped, ?_⟩, ?_⟩
    · rw [hj, Nat.mod_mod]
    · rw [hj]
      exact Nat.mod_lt _ hpos

/-! ### Requests -/

def getServerCommand (username : Str) : Str := "GET_SERVER:".toList ++ username

/-- The group that a request uses. -/
def usedGroup (junk : Int) (username : Str) : Int := (replicaGroupOf username).getD junk

lemma handleRequest_getServer (junk : Int) (username : Str) (s : Dispatcher) :
    handleRequest junk (getServerCommand username) s = getServer junk username s := by
  have htake : ((getServerCommand username).map Char.toUpper).take 11 = "GET_SERVER:".toList := by
    unfold getServerCommand
    rw [List.map_append]
    rfl
  unfold handleRequest
  rw [if_pos htake]
  rfl

/-- A request whose group has servers is answered by whose turn it is, or with an error. -/
lemma getServer_spec {junk : Int} {username : Str} {s : Dispatcher} {g : Int}
    (hg : usedGroup junk username = g)
    (hi : s.nextServerRoundRobin g < (s.servers g).length) :
    (∃ x j, getServer junk username s = some (serverReply x, { s with
        nextServerRoundRobin := assign s.nextServerRoundRobin g j }) ∧
      Turn alive (s.servers g) (s.nextServerRoundRobin g) x j ∧ j < (s.servers g).length) ∨
    (getServer junk username s = some (noServersReply, s) ∧
      ∀ y ∈ s.servers g, y.isDead = true) := by
  unfold usedGroup at hg
  unfold getServer
  dsimp only
  rw [hg]
  rcases searchLoop_spec hi with ⟨x, j, hfound, hturn, hj⟩ | ⟨hfound, hdead⟩
  · left
    refine ⟨x, j, ?_, hturn, hj⟩
    rw [hfound]
    rfl
  · right
    refine ⟨?_, hdead⟩
    rw [hfound]
    rfl

/-! ### The index -/

inductive DispatcherEvent where
  | request (junk : Int) (command : Str)
  /-- The other threads set flags of a group. -/
  | flags (g : Int) (list : List ServerInfo)

/-- The thread with the configured servers, whose flags change in any way. -/
def dispatching (servers : Int → List ServerInfo) : System Dispatcher DispatcherEvent where
  init := fun s => s = ⟨servers, fun _ => 0⟩
  next := fun s e =>
    match e with
    | .request junk command => (handleRequest junk command s).map Prod.snd
    | .flags g list =>
      if list.map resetFlags = (s.servers g).map resetFlags then
        some { s with servers := assign s.servers g list }
      else none

/-- The indices of groups with servers are within their lists. -/
structure InRange (servers : Int → List ServerInfo) (s : Dispatcher) : Prop where
  length : ∀ g, (s.servers g).length = (servers g).length
  index : ∀ g, servers g ≠ [] → s.nextServerRoundRobin g < (servers g).length

variable {servers : Int → List ServerInfo} {s : Dispatcher} {g : Int}

lemma next_flags {list : List ServerInfo}
    (h : list.map resetFlags = (s.servers g).map resetFlags) :
    (dispatching servers).next s (.flags g list) =
      some { s with servers := CloudStorage.assign s.servers g list } :=
  if_pos h

lemma InRange.lt (h : InRange servers s) (hg : servers g ≠ []) :
    s.nextServerRoundRobin g < (s.servers g).length := by
  rw [h.length]
  exact h.index g hg

lemma InRange.assign (h : InRange servers s) {j : Nat} (hj : j < (s.servers g).length) :
    InRange servers { s with
      nextServerRoundRobin := CloudStorage.assign s.nextServerRoundRobin g j } := by
  refine ⟨h.length, fun k hk => ?_⟩
  change CloudStorage.assign s.nextServerRoundRobin g j k < _
  unfold CloudStorage.assign
  split
  · next heq =>
    rw [heq, ← h.length]
    exact hj
  · exact h.index k hk

lemma InRange.request (h : InRange servers s) {junk : Int} {username reply : Str}
    {s' : Dispatcher} (hs : getServer junk username s = some (reply, s')) : InRange servers s' := by
  by_cases hnil : servers (usedGroup junk username) = []
  · -- a search in an empty list finds no entry to look at
    have hlist : s.servers (usedGroup junk username) = [] := by
      rw [← List.length_eq_zero_iff, h.length, hnil, List.length_nil]
    unfold usedGroup at hlist
    unfold getServer at hs
    dsimp only at hs
    rw [hlist] at hs
    exact absurd hs (by simp [searchLoop])
  · rcases getServer_spec rfl (h.lt hnil) with ⟨x, j, hserve, -, hj⟩ | ⟨hserve, -⟩
    · rw [hserve] at hs
      obtain ⟨-, rfl⟩ := Prod.mk.inj (Option.some.inj hs)
      exact h.assign hj
    · rw [hserve] at hs
      obtain ⟨-, rfl⟩ := Prod.mk.inj (Option.some.inj hs)
      exact h

theorem reachable_inRange (h : (dispatching servers).Reachable (fun _ _ => True) s) :
    InRange servers s := by
  apply h.invariant
  · rintro s rfl
    exact ⟨fun _ => rfl, fun g hg => List.length_pos_iff.mpr hg⟩
  · intro s e s' hs _ hnext
    cases e with
    | request junk command =>
      obtain ⟨⟨reply, t⟩, hhandle, rfl⟩ := Option.map_eq_some_iff.mp hnext
      unfold handleRequest at hhandle
      split at hhandle
      · exact hs.request hhandle
      · obtain ⟨-, rfl⟩ := Prod.mk.inj (Option.some.inj hhandle)
        exact hs
    | flags k list =>
      change (if _ then _ else _) = _ at hnext
      split at hnext
      · next hsame =>
        obtain rfl := Option.some.inj hnext
        refine ⟨fun j => ?_, hs.index⟩
        change (assign s.servers k list j).length = _
        unfold assign
        split
        · next hj =>
          have hlen := congrArg List.length hsame
          rw [List.length_map, List.length_map] at hlen
          rw [hlen, hj]
          exact hs.length k
        · exact hs.length j
      · exact absurd hnext (by simp)

/-! ### Fairness -/

/-- A request for the group gives a live server its turn. -/
lemma request_turn (h : InRange servers s) (hnil : servers g ≠ [])
    (hlive : ∃ it ∈ s.servers g, it.isDead = false) {junk : Int} {username : Str}
    (hg : usedGroup junk username = g) :
    ∃ x s', handleRequest junk (getServerCommand username) s = some (serverReply x, s') ∧
      InRange servers s' ∧ s'.servers = s.servers ∧
      Turn alive (s.servers g) (s.nextServerRoundRobin g) x (s'.nextServerRoundRobin g) := by
  rw [handleRequest_getServer]
  rcases getServer_spec hg (h.lt hnil) with ⟨x, j, hserve, hturn, hj⟩ | ⟨-, hdead⟩
  · refine ⟨x, _, hserve, h.assign hj, rfl, ?_⟩
    change Turn _ _ _ x (assign s.nextServerRoundRobin g j g)
    unfold assign
    rw [if_pos rfl]
    exact hturn
  · obtain ⟨it, hit, hd⟩ := hlive
    rw [hdead it hit] at hd
    exact absurd hd (by decide)

/-- A request for another group leaves the index. -/
lemma request_other (h : InRange servers s) {junk : Int} {username : Str}
    (hnil : servers (usedGroup junk username) ≠ []) (hg : usedGroup junk username ≠ g) :
    ∃ reply s', handleRequest junk (getServerCommand username) s = some (reply, s') ∧
      InRange servers s' ∧ s'.servers = s.servers ∧
      s'.nextServerRoundRobin g = s.nextServerRoundRobin g := by
  rw [handleRequest_getServer]
  rcases getServer_spec rfl (h.lt hnil) with ⟨x, j, hserve, -, hj⟩ | ⟨hserve, -⟩
  · refine ⟨_, _, hserve, h.assign hj, rfl, ?_⟩
    change assign s.nextServerRoundRobin _ j g = _
    unfold assign
    rw [if_neg (Ne.symm hg)]
  · exact ⟨_, _, hserve, h, rfl, rfl⟩

/-- The answers to the requests for a group. -/
def repliesFor (g : Int) (requests : List (Int × Str)) (replies : List Str) : List Str :=
  ((requests.zip replies).filter (fun x => usedGroup x.1.1 x.1.2 = g)).map Prod.snd

/-- The requests for one group in a run are answered in turns. -/
lemma requests_run (h : InRange servers s) (hlive : ∃ it ∈ s.servers g, it.isDead = false)
    {requests : List (Int × Str)} (hconf : ∀ r ∈ requests, servers (usedGroup r.1 r.2) ≠ []) :
    ∃ replies s' xs, handleIncomingRequests
        (requests.map (fun r => (r.1, getServerCommand r.2))) s = some (replies, s') ∧
      Run alive (s.servers g) (s.nextServerRoundRobin g) xs (s'.nextServerRoundRobin g) ∧
      xs.length = (requests.filter (fun r => usedGroup r.1 r.2 = g)).length ∧
      repliesFor g requests replies = xs.map serverReply := by
  induction requests generalizing s with
  | nil => exact ⟨[], s, [], rfl, .nil _, rfl, rfl⟩
  | cons r requests ih =>
    obtain ⟨junk, username⟩ := r
    have hrest : ∀ r ∈ requests, servers (usedGroup r.1 r.2) ≠ [] :=
      fun r hr => hconf r (List.mem_cons_of_mem _ hr)
    have hnil : servers (usedGroup junk username) ≠ [] :=
      hconf (junk, username) List.mem_cons_self
    rw [List.map_cons, handleIncomingRequests]
    by_cases hg : usedGroup junk username = g
    · obtain ⟨x, t, hserve, hrange, hservers, hturn⟩ := request_turn h (hg ▸ hnil) hlive hg
      obtain ⟨replies, s', xs, hrun, hturns, hcount, hreplies⟩ :=
        ih hrange (hservers ▸ hlive) hrest
      rw [hservers] at hturns
      refine ⟨serverReply x :: replies, s', x :: xs, ?_, .cons hturn hturns, ?_, ?_⟩
      · dsimp only
        rw [hserve]
        dsimp only [Option.bind_eq_bind, Option.bind_some]
        rw [hrun]
        rfl
      · rw [List.filter_cons_of_pos (by simpa using hg), List.length_cons, List.length_cons,
          hcount]
      · unfold repliesFor
        rw [List.zip_cons_cons, List.filter_cons_of_pos (by simpa using hg), List.map_cons,
          List.map_cons]
        exact congrArg (serverReply x :: ·) hreplies
    · obtain ⟨reply, t, hserve, hrange, hservers, hindex⟩ := request_other h hnil hg
      obtain ⟨replies, s', xs, hrun, hturns, hcount, hreplies⟩ :=
        ih hrange (hservers ▸ hlive) hrest
      rw [hservers, hindex] at hturns
      refine ⟨reply :: replies, s', xs, ?_, hturns, ?_, ?_⟩
      · dsimp only
        rw [hserve]
        dsimp only [Option.bind_eq_bind, Option.bind_some]
        rw [hrun]
        rfl
      · rw [List.filter_cons_of_neg (by simpa using hg), hcount]
      · unfold repliesFor
        rw [List.zip_cons_cons, List.filter_cons_of_neg (by simpa using hg)]
        exact hreplies

/-- As many requests for a group as it has live servers, among requests for other groups or
not, are answered with each live server once. Every search ends within as many steps as the
group has servers. -/
theorem round_robin_fair (h : (dispatching servers).Reachable (fun _ _ => True) s)
    {requests : List (Int × Str)} (hconf : ∀ r ∈ requests, servers (usedGroup r.1 r.2) ≠ [])
    (hpos : 0 < ((s.servers g).filter alive).length)
    (hcount : (requests.filter (fun r => usedGroup r.1 r.2 = g)).length =
      ((s.servers g).filter alive).length) :
    ∃ replies s', handleIncomingRequests
        (requests.map (fun r => (r.1, getServerCommand r.2))) s = some (replies, s') ∧
      (repliesFor g requests replies).Perm (((s.servers g).filter alive).map serverReply) ∧
      (searchLoop (s.servers g) (s.nextServerRoundRobin g) (s.servers g).length
        (s.nextServerRoundRobin g)).isSome := by
  obtain ⟨it, hit⟩ := List.exists_mem_of_length_pos hpos
  obtain ⟨hmem, hlive⟩ := List.mem_filter.mp hit
  have hnil : servers g ≠ [] := by
    rw [← List.length_pos_iff, ← (reachable_inRange h).length]
    exact List.length_pos_of_mem hmem
  obtain ⟨replies, s', xs, hrun, hturns, hlength, hreplies⟩ :=
    requests_run (reachable_inRange h) ⟨it, hmem, alive_iff.mp hlive⟩ hconf
  refine ⟨replies, s', hrun, ?_, ?_⟩
  · rw [hreplies]
    exact (hturns.perm (hlength.trans hcount)).map serverReply
  · rcases searchLoop_spec ((reachable_inRange h).lt hnil) with ⟨x, j, hfound, -, -⟩ | ⟨hfound, -⟩
    · rw [hfound]
      rfl
    · rw [hfound]
      rfl

/-- Group 1 when 2002 is dead. -/
def group1Living : List ServerInfo :=
  [{ group1Entry 2001 with isDead := false }, group1Entry 2002,
    { group1Entry 2003 with isDead := false }]

def withoutSecond : Dispatcher where
  servers := assign group1Configuration.servers 1 group1Living
  nextServerRoundRobin := fun _ => 0

lemma withoutSecond_reachable :
    (dispatching group1Configuration.servers).Reachable (fun _ _ => True) withoutSecond := by
  have hsame : group1Living.map resetFlags = (group1Configuration.servers 1).map resetFlags := by
    decide
  apply System.Reachable.step (.init rfl) trivial
  exact next_flags hsame

def twoRequests : List (Int × Str) := [(7, "anna".toList), (7, "Bob".toList)]

theorem round_robin_fair_two : ∃ replies s', handleIncomingRequests
      (twoRequests.map (fun r => (r.1, getServerCommand r.2))) withoutSecond =
        some (replies, s') ∧
    (repliesFor 1 twoRequests replies).Perm
      (((withoutSecond.servers 1).filter alive).map serverReply) ∧
    (searchLoop (withoutSecond.servers 1) 0 3 0).isSome :=
  round_robin_fair withoutSecond_reachable (by decide) (by decide) (by decide)

/-! ### Soundness -/

/-- The group was assigned from the name and has servers, and the answer is a live one of
them, or an error when all are dead. -/
def AnsweredSoundly (junk : Int) (username : Str) (s : Dispatcher) : Prop :=
  ∃ g, replicaGroupOf username = some g ∧ s.servers g ≠ [] ∧ ∃ reply s',
    handleRequest junk (getServerCommand username) s = some (reply, s') ∧
    ((∃ it ∈ s.servers g, it.isDead = false ∧ reply = serverReply it) ∨
      (∀ it ∈ s.servers g, it.isDead = true) ∧ reply = noServersReply)

lemma toNat_toLower (ch : Char) : ch.toLower.toNat =
    if 65 ≤ ch.toNat ∧ ch.toNat ≤ 90 then ch.toNat + 32 else ch.toNat := by
  have hupper : (ch.val ≥ 'A'.val ∧ ch.val ≤ 'Z'.val) ↔ 65 ≤ ch.toNat ∧ ch.toNat ≤ 90 := Iff.rfl
  unfold Char.toLower
  split
  · next h =>
    have hrange := hupper.mp h
    rw [if_pos hrange]
    change (ch.val + ('a'.val - 'A'.val)).toNat = _
    rw [UInt32.toNat_add]
    have hval : ch.val.toNat = ch.toNat := rfl
    have hdiff : ('a'.val - 'A'.val).toNat = 32 := by
      decide
    rw [hval, hdiff]
    omega
  · next h => rw [if_neg (fun hrange => h (hupper.mpr hrange))]

lemma isAlphanum_iff (ch : Char) : ch.isAlphanum = true ↔
    (65 ≤ ch.toNat ∧ ch.toNat ≤ 90) ∨ (97 ≤ ch.toNat ∧ ch.toNat ≤ 122) ∨
      (48 ≤ ch.toNat ∧ ch.toNat ≤ 57) := by
  unfold Char.isAlphanum Char.isAlpha Char.isUpper Char.isLower Char.isDigit
  simp only [Bool.or_eq_true, Bool.and_eq_true, decide_eq_true_eq, or_assoc]
  exact Iff.rfl

/-- The three ranges cover the letters and the digits. -/
lemma replicaGroupOf_isSome_iff (username : Str) :
    (replicaGroupOf username).isSome ↔ ∃ ch rest, username = ch :: rest ∧ ch.isAlphanum := by
  cases username with
  | nil => exact iff_of_false (by decide) (fun ⟨_, _, h, _⟩ => absurd h (by simp))
  | cons ch rest =>
    have hle : ∀ a b : Char, a ≤ b ↔ a.toNat ≤ b.toNat := fun _ _ => Iff.rfl
    have hlower := toNat_toLower ch
    have hsome : (replicaGroupOf (ch :: rest)).isSome ↔ ch.isAlphanum = true := by
      rw [isAlphanum_iff]
      unfold replicaGroupOf
      simp only [List.head?_cons, Option.getD_some, hle]
      have ha : 'a'.toNat = 97 := rfl
      have hi : 'i'.toNat = 105 := rfl
      have hj : 'j'.toNat = 106 := rfl
      have hr : 'r'.toNat = 114 := rfl
      have hs : 's'.toNat = 115 := rfl
      have hz : 'z'.toNat = 122 := rfl
      have h0 : '0'.toNat = 48 := rfl
      have h9 : '9'.toNat = 57 := rfl
      rw [ha, hi, hj, hr, hs, hz, h0, h9]
      split at hlower <;> split_ifs <;> simp <;> omega
    rw [hsome]
    constructor
    · exact fun h => ⟨ch, rest, rfl, h⟩
    · rintro ⟨c, r, heq, h⟩
      rwa [(List.cons.inj heq).1]

/-- A request is answered soundly exactly if its name begins with a letter or a digit whose
group is configured. -/
theorem getServer_sound_iff (h : (dispatching servers).Reachable (fun _ _ => True) s)
    (junk : Int) (username : Str) : AnsweredSoundly junk username s ↔
      (∃ ch rest, username = ch :: rest ∧ ch.isAlphanum) ∧
        ∀ g, replicaGroupOf username = some g → servers g ≠ [] := by
  have hrange := reachable_inRange h
  have hnil : ∀ g, s.servers g ≠ [] ↔ servers g ≠ [] := by
    intro g
    rw [← List.length_pos_iff, ← List.length_pos_iff, hrange.length]
  rw [← replicaGroupOf_isSome_iff]
  constructor
  · rintro ⟨g, hg, hne, -⟩
    refine ⟨by rw [hg]; rfl, fun k hk => ?_⟩
    obtain rfl := Option.some.inj (hg.symm.trans hk)
    exact (hnil g).mp hne
  · rintro ⟨hsome, hconf⟩
    obtain ⟨g, hg⟩ := Option.isSome_iff_exists.mp hsome
    have hused : usedGroup junk username = g := by
      unfold usedGroup
      rw [hg]
      rfl
    have hne := hconf g hg
    refine ⟨g, hg, (hnil g).mpr hne, ?_⟩
    rw [handleRequest_getServer]
    rcases getServer_spec hused (hrange.lt hne) with ⟨x, j, hserve, hturn, -⟩ | ⟨hserve, hdead⟩
    · obtain ⟨skipped, rest, hrotate, -⟩ := hturn.next
      have hmem : x ∈ (s.servers g).rotate (s.nextServerRoundRobin g) := by
        rw [hrotate]
        exact List.mem_append_right _ List.mem_cons_self
      exact ⟨_, _, hserve, Or.inl ⟨x, List.mem_rotate.mp hmem, alive_iff.mp hturn.meets, rfl⟩⟩
    · exact ⟨_, _, hserve, Or.inr ⟨hdead, rfl⟩⟩

/-- Group 1 is configured, and the group of the digits is not. -/
theorem getServer_sound_iff_names :
    AnsweredSoundly 7 "anna".toList withoutSecond ∧
      ¬AnsweredSoundly 7 "3dog".toList withoutSecond := by
  have hletter : replicaGroupOf "anna".toList = some 1 := by decide
  have hdigit : replicaGroupOf "3dog".toList = some 3 := by decide
  constructor
  · refine (getServer_sound_iff withoutSecond_reachable 7 "anna".toList).mpr
      ⟨⟨'a', "nna".toList, rfl, by decide⟩, fun g hg => ?_⟩
    obtain rfl := Option.some.inj (hletter.symm.trans hg)
    decide
  · intro h
    have hconf := ((getServer_sound_iff withoutSecond_reachable 7 "3dog".toList).mp h).2 3 hdigit
    exact hconf rfl

/-- No group is assigned to an empty name, and the one the variable happens to hold has no
servers: the search indexes an empty list. -/
theorem empty_name_not_sound : ¬ AnsweredSoundly 7 [] withoutSecond ∧
    handleRequest 7 (getServerCommand []) withoutSecond = none := by
  constructor
  · rintro ⟨g, hg, -⟩
    have hnone : replicaGroupOf [] = none := by
      decide
    rw [hnone] at hg
    exact absurd hg (by simp)
  · rfl

/-! ### The other threads -/

/-- What a heartbeat or a timeout does to the lists of servers is such a change of flags. -/
theorem flags_of_acts {config : Configuration} {m m' : Master} {out : List Datagram}
    (hm : Consistent config m) (hacts : Acts config g m m' out) (index : Int → Nat) :
    (dispatching config.servers).next ⟨m.servers, index⟩ (.flags g (m'.servers g)) =
      some ⟨m'.servers, index⟩ := by
  have hsame : (m'.servers g).map resetFlags = (m.servers g).map resetFlags := by
    rw [hacts.consistent.settings, hm.settings]
  have hservers : assign m.servers g (m'.servers g) = m'.servers := by
    funext k
    unfold assign
    split
    · next hk => rw [hk]
    · next hk => rw [hacts.frame k hk]
  rw [next_flags hsame]
  dsimp only
  rw [hservers]

end CloudStorage.Proofs
