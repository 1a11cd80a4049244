import CloudStorage.BackendSocket
import CloudStorage.Proofs.Substrings
import Mathlib.Data.Nat.Find
import Mathlib.Data.Stream.Init

/-!
# Changing over to another storage server

After an error the frontend connects again, and tells success from failure the wrong way
round. This file proves for which outcomes of the calls a command is still handed over and a
response still read as if it did not.
-/

namespace CloudStorage.Proofs

/-! ### Sending -/

/-- The call is one of `send` on that socket. -/
def CallsSend (socket : Int) : SocketEvent → Prop
  | .sent s _ => s = socket
  | .sendFailed s => s = socket
  | _ => False

/-- `true` says that the whole command was taken over, and behind a new connection there is a
call of `send` on it. -/
structure SendFailsOver (command : Str) (x : Bool × List SocketEvent) : Prop where
  whole : x.1 = true → ∃ socket, SocketEvent.sent socket command ∈ x.2
  retried : ∀ (node : BackendNode) (earlier later : List SocketEvent),
    x.2 = earlier ++ .connecting (.connected node) :: later →
      ∃ event ∈ later.head?, CallsSend node.socket event

/-- Whole commands are taken over, and there is no new connection. -/
def SendGoesWell (command : Str) (calls : SendCalls) : Prop :=
  match calls.first with
  | some n => command.length ≤ n
  | none => calls.reconnect = .failed ∧ ∀ n, calls.second = some n → command.length ≤ n

lemma sendFailsOver_of_unconnected {command : Str} {x : Bool × List SocketEvent}
    (hwhole : x.1 = true → ∃ socket, SocketEvent.sent socket command ∈ x.2)
    (hnone : ∀ node, SocketEvent.connecting (.connected node) ∉ x.2) :
    SendFailsOver command x := by
  refine ⟨hwhole, ?_⟩
  intro node earlier later hevents
  exact absurd (hevents ▸ List.mem_append_right _ List.mem_cons_self) (hnone node)

lemma sent_whole_iff {socket : Int} {command : Str} {n : Nat} :
    (∃ s, SocketEvent.sent s command = .sent socket (command.take n)) ↔ command.length ≤ n := by
  constructor
  · rintro ⟨s, h⟩
    rw [(SocketEvent.sent.inj h).2]
    exact List.length_take_le n command
  · intro hn
    exact ⟨socket, by rw [List.take_of_length_le hn]⟩

theorem send_fails_over_iff (node : BackendNode) (command : Str) (calls : SendCalls) :
    SendFailsOver command (node.sendToBackendSocket command calls) ↔
      SendGoesWell command calls := by
  unfold BackendNode.sendToBackendSocket SendGoesWell
  dsimp only
  cases calls.first with
  | some n =>
    dsimp only
    rw [← @sent_whole_iff node.socket]
    constructor
    · intro h
      obtain ⟨socket, hsent⟩ := h.whole rfl
      exact ⟨socket, List.mem_singleton.mp hsent⟩
    · rintro ⟨socket, hsent⟩
      exact sendFailsOver_of_unconnected (fun _ => ⟨socket, List.mem_singleton.mpr hsent⟩)
        (fun node' hmem => by cases List.mem_singleton.mp hmem)
  | none =>
    cases calls.reconnect with
    | connected node' =>
      -- the new connection is taken for a failure
      refine iff_of_false (fun h => ?_) (fun h => by cases h.1)
      obtain ⟨event, hevent, -⟩ := h.retried node' [.sendFailed node.socket] [] rfl
      cases hevent
    | failed =>
      have hcode : ¬ConnectResult.failed.code = 0 := by decide
      dsimp only
      rw [if_neg hcode]
      cases calls.second with
      | none =>
        refine iff_of_true ?_ ⟨rfl, fun n h => by cases h⟩
        exact sendFailsOver_of_unconnected (fun h => by cases h) (fun node' => by simp)
      | some n =>
        dsimp only
        constructor
        · intro h
          obtain ⟨socket, hsent⟩ := h.whole rfl
          refine ⟨rfl, ?_⟩
          rintro _ ⟨⟩
          exact sent_whole_iff.mp ⟨socket, by simpa using hsent⟩
        · rintro ⟨-, hn⟩
          obtain ⟨socket, hsent⟩ := (@sent_whole_iff node.socket command n).mpr (hn n rfl)
          exact sendFailsOver_of_unconnected (fun _ => ⟨socket, by simp [hsent]⟩)
            (fun node' => by simp)

/-! ### Reading -/

/-- The call is one of `recv` on that socket. -/
def CallsRecv (socket : Int) : SocketEvent → Prop
  | .received s _ => s = socket
  | .recvFailed s => s = socket
  | _ => False

/-- `run` says what the first passes come to. Behind a new connection the reading goes on
there, behind a failed one it is given up, and it ends once the peer has closed. -/
structure ReadFailsOver (run : Nat → Option Str × List SocketEvent) : Prop where
  continued : ∀ k (node : BackendNode), (run k).2.getLast? = some (.connecting (.connected node)) →
    ∃ event later, (run (k + 1)).2 = (run k).2 ++ event :: later ∧ CallsRecv node.socket event
  given_up : ∀ k, (run k).2.getLast? = some (.connecting .failed) → (run k).1 = some []
  ended : ∀ k socket, SocketEvent.received socket [] ∈ (run k).2 → ∃ n, (run n).1 ≠ none

def Unfailing (passes : List ReadPass) : Prop := ∀ reconnect, .failed reconnect ∉ passes

/-- A whole line arrives before any error. -/
def LineArrives (passes : Stream' ReadPass) : Prop :=
  ∃ n, Unfailing (passes.take n) ∧
    contains "\r\n".toList ((passes.take n).flatMap ReadPass.bytes) = true

section

variable {sock : Int} {response : Str}

/-- A pass without an error. -/
lemma readPasses_cons {pass : ReadPass} (hpass : ∀ reconnect, pass ≠ .failed reconnect)
    (passes : List ReadPass) : readPasses sock response (pass :: passes) =
      if (findStr "\r\n".toList (response ++ pass.bytes)).isSome then
        (some (response ++ pass.bytes), [.received sock pass.bytes])
      else ((readPasses sock (response ++ pass.bytes) passes).1,
        .received sock pass.bytes :: (readPasses sock (response ++ pass.bytes) passes).2) := by
  cases pass with
  | received piece nonempty => rfl
  | closed => rfl
  | failed reconnect => exact absurd rfl (hpass reconnect)

lemma readPasses_failed (reconnect : ConnectResult) (passes : List ReadPass) :
    readPasses sock response (.failed reconnect :: passes) =
      if reconnect.code = 0 then (some [], [.recvFailed sock, .connecting reconnect])
      else ((readPasses sock response passes).1,
        .recvFailed sock :: .connecting reconnect :: (readPasses sock response passes).2) := rfl

/-- More passes go on where the first ones stopped, if they did not return. -/
lemma readPasses_append (passes more : List ReadPass) :
    readPasses sock response (passes ++ more) =
      if (readPasses sock response passes).1 = none then
        ((readPasses sock (response ++ passes.flatMap ReadPass.bytes) more).1,
          (readPasses sock response passes).2 ++
            (readPasses sock (response ++ passes.flatMap ReadPass.bytes) more).2)
      else readPasses sock response passes := by
  induction passes generalizing response with
  | nil => simp [readPasses]
  | cons pass passes ih =>
    rw [List.cons_append, List.flatMap_cons, ← List.append_assoc]
    by_cases hpass : ∀ reconnect, pass ≠ .failed reconnect
    · rw [readPasses_cons hpass, readPasses_cons hpass, ih]
      split
      · rfl
      · dsimp only
        split <;> rfl
    · obtain ⟨reconnect, hfailed⟩ := not_forall.mp hpass
      obtain rfl := not_not.mp hfailed
      have hbytes : (ReadPass.failed reconnect).bytes = [] := rfl
      rw [readPasses_failed, readPasses_failed, ih, hbytes, List.append_nil]
      split
      · rfl
      · dsimp only
        split <;> rfl

/-- Without an error there are only pieces. -/
lemma received_of_unfailing {passes : List ReadPass} (h : Unfailing passes)
    {event : SocketEvent} (hevent : event ∈ (readPasses sock response passes).2) :
    ∃ pass ∈ passes, event = .received sock pass.bytes := by
  induction passes generalizing response with
  | nil => cases hevent
  | cons pass passes ih =>
    have hpass : ∀ reconnect, pass ≠ .failed reconnect := by
      rintro reconnect rfl
      exact h reconnect List.mem_cons_self
    rw [readPasses_cons hpass] at hevent
    split at hevent
    · exact ⟨pass, List.mem_cons_self, List.mem_singleton.mp hevent⟩
    · rcases List.mem_cons.mp hevent with rfl | hevent
      · exact ⟨pass, List.mem_cons_self, rfl⟩
      · obtain ⟨pass', hmem, heq⟩ :=
          ih (fun reconnect hr => h reconnect (List.mem_cons_of_mem pass hr)) hevent
        exact ⟨pass', List.mem_cons_of_mem pass hmem, heq⟩

/-- Without an error the loop goes on exactly as long as there is no line. -/
lemma readPasses_none_iff {passes : List ReadPass} (h : Unfailing passes)
    (hstart : contains "\r\n".toList response = false) :
    (readPasses sock response passes).1 = none ↔
      contains "\r\n".toList (response ++ passes.flatMap ReadPass.bytes) = false := by
  induction passes generalizing response with
  | nil =>
    refine iff_of_true rfl ?_
    rwa [List.flatMap_nil, List.append_nil]
  | cons pass passes ih =>
    have hpass : ∀ reconnect, pass ≠ .failed reconnect := by
      rintro reconnect rfl
      exact h reconnect List.mem_cons_self
    rw [readPasses_cons hpass, List.flatMap_cons, ← List.append_assoc]
    cases hline : contains "\r\n".toList (response ++ pass.bytes) with
    | true =>
      rw [if_pos (by rw [findStr_isSome, hline])]
      refine iff_of_false (by simp) ?_
      rw [contains_iff] at hline
      rw [Bool.not_eq_false, contains_iff]
      exact hline.trans (List.prefix_append _ _).isInfix
    | false =>
      rw [if_neg (by rw [findStr_isSome, hline]; decide)]
      exact ih (fun reconnect hr => h reconnect (List.mem_cons_of_mem pass hr)) hline

end

/-- The passes of a longer run begin with those of a shorter one. -/
lemma take_of_le (passes : Stream' ReadPass) {n k : Nat} (h : n ≤ k) :
    ∃ more, passes.take k = passes.take n ++ more := by
  refine ⟨(passes.take k).drop n, ?_⟩
  have htake := List.take_append_drop n (passes.take k)
  rw [Stream'.take_take, Nat.min_eq_right h] at htake
  exact htake.symm

lemma get_of_mem_take {passes : Stream' ReadPass} {pass : ReadPass} {k : Nat}
    (h : pass ∈ passes.take k) : ∃ j < k, passes.get j = pass := by
  induction k with
  | zero => cases h
  | succ k ih =>
    rw [Stream'.take_succ', List.mem_append, List.mem_singleton] at h
    rcases h with h | rfl
    · obtain ⟨j, hj, hget⟩ := ih h
      exact ⟨j, Nat.lt_succ_of_lt hj, hget⟩
    · exact ⟨k, Nat.lt_succ_self k, rfl⟩

section

variable {node : BackendNode} {passes : Stream' ReadPass}

/-- Nothing happens once the loop has returned. -/
lemma run_of_returned {n k : Nat} (h : n ≤ k)
    (hn : (node.readFromBackendSocket (passes.take n)).1 ≠ none) :
    node.readFromBackendSocket (passes.take k) = node.readFromBackendSocket (passes.take n) := by
  obtain ⟨more, hmore⟩ := take_of_le passes h
  unfold BackendNode.readFromBackendSocket at hn ⊢
  rw [hmore, readPasses_append, if_neg hn]

/-- One more pass. -/
lemma run_succ {k : Nat} (h : (node.readFromBackendSocket (passes.take k)).1 = none) :
    ∃ response, node.readFromBackendSocket (passes.take (k + 1)) =
      ((readPasses node.socket response [passes.get k]).1,
        (node.readFromBackendSocket (passes.take k)).2 ++
          (readPasses node.socket response [passes.get k]).2) := by
  unfold BackendNode.readFromBackendSocket at h ⊢
  rw [Stream'.take_succ', readPasses_append, if_pos h]
  exact ⟨_, rfl⟩

lemma run_none_iff {k : Nat} (h : Unfailing (passes.take k)) :
    (node.readFromBackendSocket (passes.take k)).1 = none ↔
      contains "\r\n".toList ((passes.take k).flatMap ReadPass.bytes) = false :=
  readPasses_none_iff h (by decide)

/-- A run that sees no error does what it should if it ends. -/
lemma readFailsOver_of_unfailing
    (h : ∀ k, ∃ n, Unfailing (passes.take n) ∧
      node.readFromBackendSocket (passes.take k) = node.readFromBackendSocket (passes.take n))
    (hended : (∃ n, (node.readFromBackendSocket (passes.take n)).1 ≠ none) ∨
      ∀ k, passes.get k ≠ .closed) :
    ReadFailsOver (fun k => node.readFromBackendSocket (passes.take k)) := by
  have hreceived : ∀ k, ∀ event ∈ (node.readFromBackendSocket (passes.take k)).2,
      ∃ j, (∀ reconnect, passes.get j ≠ .failed reconnect) ∧
        event = .received node.socket (passes.get j).bytes := by
    intro k event hevent
    obtain ⟨n, hn, hrun⟩ := h k
    rw [hrun] at hevent
    obtain ⟨pass, hpass, rfl⟩ := received_of_unfailing hn hevent
    obtain ⟨j, -, rfl⟩ := get_of_mem_take hpass
    exact ⟨j, fun reconnect hfailed => hn reconnect (hfailed ▸ hpass), rfl⟩
  constructor
  · intro k node' hlast
    obtain ⟨j, -, hevent⟩ := hreceived k _ (List.mem_of_getLast? hlast)
    cases hevent
  · intro k hlast
    obtain ⟨j, -, hevent⟩ := hreceived k _ (List.mem_of_getLast? hlast)
    cases hevent
  · intro k socket hmem
    rcases hended with hended | hopen
    · exact hended
    · obtain ⟨j, hj, hevent⟩ := hreceived k _ hmem
      have hbytes := (SocketEvent.received.inj hevent).2
      cases hpass : passes.get j with
      | received piece nonempty =>
        rw [hpass] at hbytes
        exact absurd hbytes.symm nonempty
      | closed => exact absurd hpass (hopen j)
      | failed reconnect => exact absurd hpass (hj reconnect)

/-- The first error makes the loop stop, or go on, when it should not. -/
lemma not_readFailsOver_of_failed {k : Nat} {reconnect : ConnectResult}
    (hk : passes.get k = .failed reconnect)
    (hnone : (node.readFromBackendSocket (passes.take k)).1 = none) :
    ¬ReadFailsOver (fun k => node.readFromBackendSocket (passes.take k)) := by
  intro h
  obtain ⟨response, hrun⟩ := run_succ hnone
  cases reconnect with
  | connected node' =>
    have hpass : readPasses node.socket response [.failed (.connected node')] =
        (some [], [.recvFailed node.socket, .connecting (.connected node')]) := rfl
    rw [hk, hpass] at hrun
    have hlast : (node.readFromBackendSocket (passes.take (k + 1))).2.getLast? =
        some (.connecting (.connected node')) := by
      rw [hrun]
      exact List.getLast?_append_of_ne_nil _ (by simp)
    have hreturned : (node.readFromBackendSocket (passes.take (k + 1))).1 ≠ none := by
      rw [hrun]
      exact Option.some_ne_none []
    obtain ⟨event, later, hmore, -⟩ := h.continued (k + 1) node' hlast
    rw [run_of_returned (Nat.le_succ (k + 1)) hreturned] at hmore
    have hlen := congrArg List.length hmore
    rw [List.length_append, List.length_cons] at hlen
    omega
  | failed =>
    have hpass : readPasses node.socket response [.failed .failed] =
        (none, [.recvFailed node.socket, .connecting .failed]) := rfl
    rw [hk, hpass] at hrun
    have hlast : (node.readFromBackendSocket (passes.take (k + 1))).2.getLast? =
        some (.connecting .failed) := by
      rw [hrun]
      exact List.getLast?_append_of_ne_nil _ (by simp)
    have hreturned := h.given_up (k + 1) hlast
    rw [hrun] at hreturned
    cases hreturned

/-- A peer that closes in front of the end of a line is read for ever. -/
lemma not_readFailsOver_of_closed {k : Nat} (hk : passes.get k = .closed)
    (hnone : ∀ n, (node.readFromBackendSocket (passes.take n)).1 = none) :
    ¬ReadFailsOver (fun k => node.readFromBackendSocket (passes.take k)) := by
  intro h
  obtain ⟨response, hrun⟩ := run_succ (hnone k)
  have hclosed : SocketEvent.received node.socket [] ∈
      (node.readFromBackendSocket (passes.take (k + 1))).2 := by
    rw [hrun, hk, readPasses_cons (by simp)]
    apply List.mem_append_right
    split <;> exact List.mem_cons_self
  obtain ⟨n, hn⟩ := h.ended (k + 1) node.socket hclosed
  exact hn (hnone n)

theorem read_fails_over_iff (node : BackendNode) (passes : Stream' ReadPass) :
    ReadFailsOver (fun k => node.readFromBackendSocket (passes.take k)) ↔
      LineArrives passes ∨ ∀ k, ∃ piece nonempty, passes.get k = .received piece nonempty := by
  constructor
  · intro h
    by_cases hline : LineArrives passes
    · exact Or.inl hline
    right
    have hnone : ∀ n, Unfailing (passes.take n) →
        (node.readFromBackendSocket (passes.take n)).1 = none := by
      intro n hn
      rw [run_none_iff hn]
      exact Bool.eq_false_iff.mpr (fun hcontains => hline ⟨n, hn, hcontains⟩)
    by_cases hfailed : ∃ k reconnect, passes.get k = .failed reconnect
    · -- before the first error the loop has not returned
      classical
      obtain ⟨reconnect, hk⟩ := Nat.find_spec hfailed
      refine absurd h (not_readFailsOver_of_failed hk (hnone _ ?_))
      intro reconnect' hmem
      obtain ⟨j, hj, hget⟩ := get_of_mem_take hmem
      exact Nat.find_min hfailed hj ⟨reconnect', hget⟩
    · have hunfailing : ∀ n, Unfailing (passes.take n) := by
        intro n reconnect hmem
        obtain ⟨j, -, hget⟩ := get_of_mem_take hmem
        exact hfailed ⟨j, reconnect, hget⟩
      intro k
      cases hk : passes.get k with
      | received piece nonempty => exact ⟨piece, nonempty, rfl⟩
      | closed =>
        exact absurd h (not_readFailsOver_of_closed hk (fun n => hnone n (hunfailing n)))
      | failed reconnect => exact absurd ⟨k, reconnect, hk⟩ hfailed
  · rintro (⟨n, hn, hline⟩ | hopen)
    · have hreturned : (node.readFromBackendSocket (passes.take n)).1 ≠ none := by
        rw [Ne, run_none_iff hn, hline]
        decide
      refine readFailsOver_of_unfailing (fun k => ?_) (Or.inl ⟨n, hreturned⟩)
      rcases Nat.le_total n k with hk | hk
      · exact ⟨n, hn, run_of_returned hk hreturned⟩
      · obtain ⟨more, hmore⟩ := take_of_le passes hk
        refine ⟨k, fun reconnect hmem => hn reconnect ?_, rfl⟩
        rw [hmore]
        exact List.mem_append_left _ hmem
    · refine readFailsOver_of_unfailing (fun k => ⟨k, ?_, rfl⟩) (Or.inr (fun k hk => ?_))
      · intro reconnect hmem
        obtain ⟨j, -, hget⟩ := get_of_mem_take hmem
        obtain ⟨piece, nonempty, hpiece⟩ := hopen j
        rw [hpiece] at hget
        cases hget
      · obtain ⟨piece, nonempty, hpiece⟩ := hopen k
        rw [hpiece] at hk
        cases hk

end

/-! ### Both -/

/-- The frontend changes over to another server exactly if there is nothing to change over
from, apart from a command that is sent on the old connection once more. -/
theorem failover_iff (node : BackendNode) (command : Str) (calls : SendCalls)
    (passes : Stream' ReadPass) :
    (SendFailsOver command (node.sendToBackendSocket command calls) ↔
      SendGoesWell command calls) ∧
    (ReadFailsOver (fun k => node.readFromBackendSocket (passes.take k)) ↔
      LineArrives passes ∨ ∀ k, ∃ piece nonempty, passes.get k = .received piece nonempty) :=
  ⟨send_fails_over_iff node command calls, read_fails_over_iff node passes⟩

/-- The first server is gone, and there is a connection to the second. -/
def secondServer : SendCalls where
  first := none
  reconnect := .connected { ip := "127.0.0.1".toList, port := 6001, socket := 8 }
  second := some 10

/-- The command is not sent on the new connection. -/
theorem command_dropped : ¬∀ (node : BackendNode) (command : Str) (calls : SendCalls)
    (passes : Stream' ReadPass),
    SendFailsOver command (node.sendToBackendSocket command calls) ∧
      ReadFailsOver (fun k => node.readFromBackendSocket (passes.take k)) := by
  intro h
  have hsend := (h { ip := "127.0.0.1".toList, port := 6000, socket := 7 } "LIST anna\r\n".toList
    secondServer (Stream'.const .closed)).1
  rw [send_fails_over_iff] at hsend
  cases hsend.1

end CloudStorage.Proofs
