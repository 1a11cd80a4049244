import CloudStorage.PeerReader
import Mathlib.Data.Stream.Init

/-!
# When the reply of another server is read as it is

The response grows with every call of `read` by at least what the call brought, and by more
as soon as the total of the calls before it was not zero. So the response is what was
received only if one call brings all of it.
-/

namespace CloudStorage.Proofs

variable {expect : Int} {s : PeerReader} {results : List ReadResult} {response : Str}

/-- The bytes that the calls of `read` brought. -/
def received : List ReadResult → Str
  | [] => []
  | .received piece :: results => piece.bytes ++ received results
  | .closed :: results => received results
  | .failed :: results => received results

/-- The call ends by returning, and if as much arrived as it expects, it returns what was
received until then. -/
def ReadsExactly (buffer : ReadBuffer) (expect : Int) (reads : Stream' ReadResult) : Prop :=
  ∃ n response, readFromSocket buffer expect (reads.take n) = .returned response [] ∧
    (expect ≤ (received (reads.take n)).length → response = received (reads.take n))

/-! ### One call of `read` -/

/-- What remains of a call that returns: it has taken the next result. -/
lemma readLoop_cons {result : ReadResult}
    (h : readLoop expect s (result :: results) = .returned response []) :
    s.bytesRead < expect ∧ 0 ≤ (s.afterRead result).bytesRead ∧
      (s.afterRead result).bytesRead ≤ BUFFER_SIZE ∧
      readLoop expect (s.afterRead result) results = .returned response [] := by
  unfold readLoop at h
  split at h
  · next hmore =>
    dsimp only at h
    split at h
    · exact Progress.noConfusion h
    · next hneg =>
      split at h
      · exact Progress.noConfusion h
      · next hfits => exact ⟨hmore, Int.not_lt.mp hneg, Int.not_lt.mp hfits, h⟩
  · injection h with _ hrest
    exact absurd hrest (by simp)

lemma readLoop_nil (h : readLoop expect s [] = .returned response []) :
    expect ≤ s.bytesRead ∧ response = s.response := by
  unfold readLoop at h
  split at h
  · exact Progress.noConfusion h
  · next hdone =>
    injection h with hresponse
    exact ⟨Int.not_lt.mp hdone, hresponse.symm⟩

lemma length_afterRead {result : ReadResult} (h : 0 ≤ (s.afterRead result).bytesRead)
    (hfits : (s.afterRead result).bytesRead ≤ BUFFER_SIZE) :
    ((s.afterRead result).response.length : Int) =
      s.response.length + (s.afterRead result).bytesRead := by
  have hbuffer := (s.buffer.fill result).length_eq
  have htotal : (s.afterRead result).bytesRead = s.bytesRead + result.count := rfl
  unfold PeerReader.afterRead
  dsimp only
  rw [List.length_append, List.length_take, hbuffer]
  omega

lemma length_received_cons (result : ReadResult) (results : List ReadResult) :
    ((received (result :: results)).length : Int) =
      max result.count 0 + (received results).length := by
  cases result with
  | received piece =>
    change ((piece.bytes ++ received results).length : Int) = max (piece.bytes.length : Int) 0 + _
    rw [List.length_append]
    omega
  | closed =>
    change ((received results).length : Int) = max 0 0 + _
    omega
  | failed =>
    change ((received results).length : Int) = max (-1) 0 + _
    omega

/-! ### The whole call -/

/-- A call that returns has received what it expects. -/
lemma expect_le_of_returned (h : readLoop expect s results = .returned response []) :
    expect ≤ s.bytesRead + (received results).length := by
  induction results generalizing s with
  | nil =>
    have hdone := (readLoop_nil h).1
    change expect ≤ s.bytesRead + 0
    omega
  | cons result results ih =>
    have hrest := ih (readLoop_cons h).2.2.2
    have htotal : (s.afterRead result).bytesRead = s.bytesRead + result.count := rfl
    have hlen := length_received_cons result results
    omega

/-- The response grows by as much as is received. -/
lemma length_le_of_returned (h : readLoop expect s results = .returned response [])
    (hpos : 0 ≤ s.bytesRead) :
    s.response.length + (received results).length ≤ response.length := by
  induction results generalizing s with
  | nil => rw [(readLoop_nil h).2, received, List.length_nil, Nat.add_zero]
  | cons result results ih =>
    obtain ⟨-, hnext, hfits, hreturned⟩ := readLoop_cons h
    have hrest := ih hreturned hnext
    have hlen := length_afterRead hnext hfits
    have hreceived := length_received_cons result results
    have htotal : (s.afterRead result).bytesRead = s.bytesRead + result.count := rfl
    omega

/-- From a total that is not zero, the response can only be what is received if the total
is one and the next call fails. -/
lemma failed_of_returned (h : readLoop expect s results = .returned response [])
    (hpos : 0 < s.bytesRead) (hmore : s.bytesRead < expect)
    (hexact : response.length = s.response.length + (received results).length) :
    ∃ rest, results = .failed :: rest ∧ s.bytesRead = 1 := by
  cases results with
  | nil =>
    have hdone := (readLoop_nil h).1
    omega
  | cons result rest =>
    obtain ⟨-, hnext, hfits, hreturned⟩ := readLoop_cons h
    have hrest := length_le_of_returned hreturned hnext
    have hlen := length_afterRead hnext hfits
    have hreceived := length_received_cons result rest
    have htotal : (s.afterRead result).bytesRead = s.bytesRead + result.count := rfl
    cases result with
    | received piece =>
      have hcount : (ReadResult.received piece).count = piece.bytes.length := rfl
      omega
    | closed =>
      have hcount : ReadResult.closed.count = 0 := rfl
      omega
    | failed =>
      have hcount : ReadResult.failed.count = -1 := rfl
      exact ⟨rest, rfl, by omega⟩

/-! ### The results that are read as they are -/

/-- Calls that leave the total at zero and the response as received: calls that bring
nothing, and errors that come behind single bytes. -/
inductive Idle : List ReadResult → Prop where
  | nil : Idle []
  | closed {results : List ReadResult} : Idle results → Idle (.closed :: results)
  | undone {piece : Piece} {results : List ReadResult} : piece.bytes.length = 1 →
      Idle results → Idle (.received piece :: .failed :: results)

/-- A piece that arrives when the total is zero is appended as it is. -/
lemma afterRead_received (hzero : s.bytesRead = 0) (piece : Piece) :
    (s.afterRead (.received piece)).bytesRead = piece.bytes.length ∧
      (s.afterRead (.received piece)).response = s.response ++ piece.bytes := by
  have htotal : (s.bytesRead + (ReadResult.received piece).count).toNat = piece.bytes.length := by
    change (s.bytesRead + (piece.bytes.length : Int)).toNat = _
    omega
  have hfill : (s.buffer.fill (.received piece)).chars =
      piece.bytes ++ s.buffer.chars.drop piece.bytes.length := rfl
  constructor
  · change s.bytesRead + (piece.bytes.length : Int) = _
    omega
  · unfold PeerReader.afterRead
    dsimp only
    rw [htotal, hfill, List.take_left]

lemma afterRead_nothing {result : ReadResult} (hzero : s.bytesRead + result.count = 0) :
    (s.afterRead result).bytesRead = 0 ∧ (s.afterRead result).response = s.response := by
  refine ⟨hzero, ?_⟩
  unfold PeerReader.afterRead
  dsimp only
  rw [hzero]
  exact List.append_nil _

/-- A call that returns exactly what was received had all it expects in one piece. -/
lemma idle_of_returned {s : PeerReader} {results : List ReadResult} (hzero : s.bytesRead = 0)
    (hmore : 0 < expect) (h : readLoop expect s results = .returned response [])
    (hexact : response.length = s.response.length + (received results).length) :
    ∃ idle piece, Idle idle ∧ expect ≤ piece.bytes.length ∧
      results = idle ++ [.received piece] := by
  match results with
  | [] =>
    have hdone := (readLoop_nil h).1
    omega
  | result :: rest =>
    obtain ⟨-, hnext, hfits, hreturned⟩ := readLoop_cons h
    cases result with
    | failed =>
      have htotal : (s.afterRead .failed).bytesRead = s.bytesRead + -1 := rfl
      omega
    | closed =>
      have htotal : s.bytesRead + ReadResult.closed.count = 0 := by
        rw [hzero]
        rfl
      obtain ⟨hbytes, hresponse⟩ := afterRead_nothing htotal
      obtain ⟨idle, piece, hidle, hpiece, hrest⟩ :=
        idle_of_returned hbytes hmore hreturned (by rw [hresponse]; exact hexact)
      exact ⟨_, piece, hidle.closed, hpiece, by rw [hrest]; rfl⟩
    | received piece =>
      obtain ⟨hbytes, hresponse⟩ := afterRead_received hzero piece
      have hpos : 0 < piece.bytes.length := List.length_pos_iff.mpr piece.nonempty
      have hlen : (received (.received piece :: rest)).length =
          piece.bytes.length + (received rest).length := List.length_append
      have hexact' : response.length =
          (s.afterRead (.received piece)).response.length + (received rest).length := by
        rw [hresponse, List.length_append]
        omega
      by_cases hall : expect ≤ piece.bytes.length
      · match rest with
        | [] => exact ⟨[], piece, .nil, hall, rfl⟩
        | _ :: _ =>
          have hmore' := (readLoop_cons hreturned).1
          omega
      · obtain ⟨rest', hrest, hone⟩ := failed_of_returned hreturned (by omega) (by omega) hexact'
        subst hrest
        have hreturned' := (readLoop_cons hreturned).2.2.2
        have hundo : (s.afterRead (.received piece)).bytesRead + ReadResult.failed.count = 0 := by
          rw [hone]
          rfl
        obtain ⟨hbytes', hresponse'⟩ := afterRead_nothing hundo
        obtain ⟨idle, last, hidle, hlast, hrest⟩ :=
          idle_of_returned hbytes' hmore hreturned' (by rw [hresponse']; exact hexact')
        have hsingle : piece.bytes.length = 1 := by omega
        refine ⟨_, last, .undone hsingle hidle, hlast, ?_⟩
        rw [hrest]
        rfl

/-- A result is taken as long as the total is not enough. -/
lemma readLoop_afterRead {result : ReadResult} (hmore : s.bytesRead < expect)
    (hpos : 0 ≤ (s.afterRead result).bytesRead)
    (hfits : (s.afterRead result).bytesRead ≤ BUFFER_SIZE) :
    readLoop expect s (result :: results) = readLoop expect (s.afterRead result) results := by
  rw [readLoop, if_pos hmore]
  dsimp only
  exact (if_neg (Int.not_lt.mpr hpos)).trans (if_neg (Int.not_lt.mpr hfits))

lemma readLoop_done (hdone : expect ≤ s.bytesRead) :
    readLoop expect s [] = .returned s.response [] := by
  rw [readLoop, if_neg (Int.not_lt.mpr hdone)]

/-- A piece with all that is expected is the whole response, which is how `Group` takes the
reply of a call. -/
lemma readLoop_whole (hzero : s.bytesRead = 0) (hmore : 0 < expect) {piece : Piece}
    (hpiece : expect ≤ piece.bytes.length) :
    readLoop expect s [.received piece] = .returned (s.response ++ piece.bytes) [] := by
  obtain ⟨hbytes, hresponse⟩ := afterRead_received hzero piece
  have hfits := piece.fits
  rw [readLoop_afterRead (by omega) (by omega) (by omega), readLoop_done (by omega), hresponse]

/-- One piece with all that is expected is returned, behind idle calls as well. -/
lemma returned_of_idle (hzero : s.bytesRead = 0) {idle : List ReadResult} (hidle : Idle idle)
    {piece : Piece} (hpiece : expect ≤ piece.bytes.length) :
    ∃ n, n ≤ (idle ++ [ReadResult.received piece]).length ∧
      readLoop expect s ((idle ++ [ReadResult.received piece]).take n) =
        .returned (s.response ++ received ((idle ++ [ReadResult.received piece]).take n)) [] := by
  by_cases hmore : s.bytesRead < expect
  · induction hidle generalizing s with
    | nil =>
      refine ⟨1, le_rfl, ?_⟩
      change readLoop expect s [.received piece] =
        .returned (s.response ++ (piece.bytes ++ [])) []
      rw [readLoop_whole hzero (by omega) hpiece, List.append_nil]
    | @closed results hidle ih =>
      have htotal : s.bytesRead + ReadResult.closed.count = 0 := by
        rw [hzero]
        rfl
      obtain ⟨hbytes, hresponse⟩ := afterRead_nothing htotal
      obtain ⟨n, hn, hrun⟩ := ih hbytes (by omega)
      refine ⟨n + 1, Nat.succ_le_succ hn, ?_⟩
      rw [List.cons_append, List.take_succ_cons, readLoop_afterRead hmore (by omega) (by omega),
        hrun, hresponse]
      rfl
    | @undone single results hsingle hidle ih =>
      obtain ⟨hbytes, hresponse⟩ := afterRead_received hzero single
      have hfits := single.fits
      by_cases hmore' : (s.afterRead (.received single)).bytesRead < expect
      · have hundo : (s.afterRead (.received single)).bytesRead + ReadResult.failed.count = 0 := by
          rw [hbytes, hsingle]
          rfl
        obtain ⟨hbytes', hresponse'⟩ := afterRead_nothing hundo
        obtain ⟨n, hn, hrun⟩ := ih hbytes' (by omega)
        refine ⟨n + 2, Nat.add_le_add_right hn 2, ?_⟩
        rw [List.cons_append, List.cons_append, List.take_succ_cons, List.take_succ_cons,
          readLoop_afterRead hmore (by omega) (by omega),
          readLoop_afterRead hmore' (by omega) (by omega), hrun, hresponse', hresponse,
          List.append_assoc]
        rfl
      · -- a single byte is already enough
        refine ⟨1, Nat.succ_le_succ (Nat.zero_le _), ?_⟩
        change readLoop expect s [.received single] =
          .returned (s.response ++ (single.bytes ++ [])) []
        rw [readLoop_whole hzero (by omega) (by omega), List.append_nil]
  · refine ⟨0, Nat.zero_le _, ?_⟩
    change readLoop expect s [] = .returned (s.response ++ []) []
    rw [readLoop_done (by omega), List.append_nil]

lemma idle_of_exact {buffer : ReadBuffer} {reads : Stream' ReadResult} (hmore : 0 < expect)
    (h : ReadsExactly buffer expect reads) :
    ∃ idle piece, Idle idle ∧ expect ≤ piece.bytes.length ∧
      reads.take (idle.length + 1) = idle ++ [.received piece] := by
  obtain ⟨n, response, hreturned, hexact⟩ := h
  have henough : expect ≤ 0 + ((received (reads.take n)).length : Int) :=
    expect_le_of_returned hreturned
  have hresponse := hexact (by omega)
  have hlen : response.length = ([] : Str).length + (received (reads.take n)).length := by
    rw [hresponse, List.length_nil, Nat.zero_add]
  obtain ⟨idle, piece, hidle, hpiece, hreads⟩ := idle_of_returned rfl hmore hreturned hlen
  refine ⟨idle, piece, hidle, hpiece, ?_⟩
  have hn : n = idle.length + 1 := by
    rw [← Stream'.length_take n reads, hreads, List.length_append, List.length_singleton]
  rw [← hn, hreads]

/-- A reply is read as it is exactly if nothing is expected, or if all that is expected
comes with one call of `read`, before which the calls brought nothing, or single bytes with
an error behind each. -/
theorem peer_reply_exact_iff (buffer : ReadBuffer) (expect : Int) (reads : Stream' ReadResult) :
    ReadsExactly buffer expect reads ↔ expect ≤ 0 ∨
      ∃ idle piece, Idle idle ∧ expect ≤ piece.bytes.length ∧
        reads.take (idle.length + 1) = idle ++ [.received piece] := by
  constructor
  · intro h
    by_cases hmore : expect ≤ 0
    · exact Or.inl hmore
    · exact Or.inr (idle_of_exact (by omega) h)
  · rintro (hnone | ⟨idle, piece, hidle, hpiece, hreads⟩)
    · exact ⟨0, [], readLoop_done hnone, fun _ => rfl⟩
    · obtain ⟨n, hn, hrun⟩ := returned_of_idle (s := { buffer := buffer }) rfl hidle hpiece
      rw [← hreads, Stream'.length_take] at hn
      rw [← hreads, Stream'.take_take, Nat.min_eq_right hn] at hrun
      exact ⟨n, _, hrun, fun _ => rfl⟩

/-- The last of the calls brings the whole reply. -/
lemma get_of_take {reads : Stream' ReadResult} {idle : List ReadResult} {result : ReadResult}
    (h : reads.take (idle.length + 1) = idle ++ [result]) : reads.get idle.length = result := by
  rw [Stream'.take_succ'] at h
  exact List.singleton_inj.mp (List.append_inj_right' h rfl)

/-- `+OK` and its line end in two pieces; then the connection is closed. -/
def splitReply : Stream' ReadResult
  | 0 => .received ⟨"+O".toList, by decide, by decide⟩
  | 1 => .received ⟨"K\r\n".toList, by decide, by decide⟩
  | _ => .closed

def blankBuffer : ReadBuffer where
  chars := List.replicate BUFFER_SIZE ' '
  length_eq := List.length_replicate

/-- Of a reply in two pieces, the second is appended with the length of both; and without
any bytes the loop goes on for ever. -/
theorem split_reply_grows : ¬ ReadsExactly blankBuffer 5 splitReply ∧
    readFromSocket blankBuffer 5 (splitReply.take 2) = .returned "+OK\r\n  ".toList [] ∧
    ¬ ReadsExactly blankBuffer 5 (Stream'.const .closed) := by
  refine ⟨?_, ?_, ?_⟩
  · intro h
    obtain ⟨idle, piece, -, hpiece, hreads⟩ := idle_of_exact (by decide) h
    have hlast : splitReply idle.length = .received piece := get_of_take hreads
    match hn : idle.length with
    | 0 =>
      rw [hn] at hlast
      obtain rfl := ReadResult.received.inj hlast
      exact absurd hpiece (by decide)
    | 1 =>
      rw [hn] at hlast
      obtain rfl := ReadResult.received.inj hlast
      exact absurd hpiece (by decide)
    | _ + 2 =>
      rw [hn] at hlast
      exact ReadResult.noConfusion hlast
  · rfl
  · intro h
    obtain ⟨idle, piece, -, -, hreads⟩ := idle_of_exact (by decide) h
    have hlast : ReadResult.closed = .received piece := get_of_take hreads
    exact ReadResult.noConfusion hlast

end CloudStorage.Proofs
