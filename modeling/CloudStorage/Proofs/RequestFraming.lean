import CloudStorage.Lib.Pieces
import CloudStorage.Proofs.Substrings
import CloudStorage.Proofs.Wire
import CloudStorage.RequestReader

/-!
# Requests on a connection

The bytes of a connection are a sequence of requests, in pieces as they happen to arrive.
This file proves for which pieces the loop of `thread_worker` finds exactly these requests.
-/

namespace CloudStorage.Proofs
open Pieces Dialogue

/-! ### Requests as bytes -/

def methodText : Method → Str
  | .GET => "GET ".toList
  | .POST => "POST ".toList

/-- The lines of a request up to the empty one. -/
def linesOf (r : Request) : List Str := (methodText r.method ++ r.target) :: r.headers ++ [[]]

def lineBytes (lines : List Str) : Str := lines.flatMap (fun l => l ++ "\r\n".toList)

def requestBytes (r : Request) : Str := lineBytes (linesOf r) ++ r.content

/-- How a request is handled: line, headers, and the content, if there is one. -/
def eventsOf (r : Request) : List HttpEvent :=
  .command r.method r.target :: r.headers.map .header ++
    [if r.content = [] then .reply else .content r.content]

/-- Lines without the character that ends a C string. -/
def NulFree (r : Request) : Prop := ∀ l ∈ linesOf r, '\x00' ∉ l

instance : DecidablePred NulFree := fun _ => inferInstanceAs (Decidable (∀ _ ∈ _, _))

/-- The length that the loop reads in the headers is that of the content. -/
def Announces (r : Request) : Prop :=
  (r.headers.foldl lengthAfter 0).toNat = r.content.length

instance : DecidablePred Announces := fun _ => inferInstanceAs (Decidable (_ = _))

/-- There is a further read. -/
def NextRead (P : Str → List Str → Prop) : List Str → Prop
  | [] => False
  | p :: ps => P p ps

/-- The reads come in time. In the read that completes the headers of a request with content
no CR LF shows behind them, and there is a further read, in which the content can be found.
What stands behind a content waits for one more. -/
def Timely : List Request → Str → List Str → Prop
  | [], _, _ => True
  | r :: rs, buffer, pieces =>
    let behind := skip (lineBytes (linesOf r)).length buffer pieces
    if r.content = [] then Timely rs behind.1 behind.2
    else findStr "\r\n".toList (cString behind.1) = none ∧
      NextRead (fun p ps =>
        let left := skip r.content.length (behind.1 ++ p) ps
        rs = [] ∨ NextRead (fun p ps => Timely rs (left.1 ++ p) ps) left.2) behind.2

/-! ### Lines in the buffer -/

/-- A line as it may stand in a buffer. -/
def OneLine (l : Str) : Prop := '\x00' ∉ l ∧ NoCrlf l

lemma cString_line {l : Str} (h : '\x00' ∉ l) (rest : Str) :
    cString (l ++ "\r\n".toList ++ rest) = l ++ "\r\n".toList ++ cString rest := by
  have hline : '\x00' ∉ l ++ "\r\n".toList := by
    rw [List.mem_append, not_or]
    exact ⟨h, by decide⟩
  exact cString_append hline rest

/-- No line is found before its CR LF is there. -/
lemma findStr_of_incomplete {l buffer : Str} (h : OneLine l)
    (hpre : buffer <+: l ++ "\r\n".toList) (hlen : buffer.length < l.length + 2) :
    findStr "\r\n".toList (cString buffer) = none := by
  have hreturn : NoCrlf (l ++ ['\r']) :=
    h.2.append (noCrlf_of_no_newline (by decide)) (fun _ => by simp)
  have hline : l ++ ['\r'] <+: l ++ "\r\n".toList := by
    rw [List.prefix_append_right_inj]
    decide
  have hshort : buffer <+: l ++ ['\r'] := by
    apply List.prefix_of_prefix_length_le hpre hline
    rw [List.length_append, List.length_singleton]
    omega
  have hc : cString buffer <+: buffer := List.takeWhile_prefix _
  have hclean : NoCrlf (cString buffer) := List.IsChain.infix hreturn (hc.trans hshort).isInfix
  exact findStr_eq_none (contains_of_noCrlf hclean)

lemma scanLines_none {buffer : Str} (h : findStr "\r\n".toList (cString buffer) = none)
    (r : Reader) : scanLines buffer r = ((r, buffer), []) := by
  rw [scanLines.eq_def]
  split
  · rfl
  · next hline => exact absurd (h.symm.trans hline) (by simp)

lemma scanLines_some {buffer : Str} {k : Nat}
    (h : findStr "\r\n".toList (cString buffer) = some k) (r : Reader) :
    scanLines buffer r =
      ((scanLines (buffer.drop (k + 2)) (r.line (buffer.take k)).1).1,
        (r.line (buffer.take k)).2 ++
          (scanLines (buffer.drop (k + 2)) (r.line (buffer.take k)).1).2) := by
  rw [scanLines.eq_def]
  split
  · next hline => exact absurd (h.symm.trans hline) (by simp)
  · next k' hline =>
    obtain rfl : k = k' := Option.some.inj (h.symm.trans hline)
    rfl

/-! ### Within a read -/

/-- What the loop finds from the middle of a read on. -/
def resume (r : Reader) (buffer : Str) (pieces : List Str) : List HttpEvent :=
  (scanLines buffer r).2 ++ readPieces pieces (scanLines buffer r).1

lemma resume_none {buffer : Str} (h : findStr "\r\n".toList (cString buffer) = none)
    (r : Reader) (pieces : List Str) : resume r buffer pieces = readPieces pieces (r, buffer) := by
  rw [resume, scanLines_none h, List.nil_append]

lemma resume_some {buffer : Str} {k : Nat}
    (h : findStr "\r\n".toList (cString buffer) = some k) (r : Reader) (pieces : List Str) :
    resume r buffer pieces = (r.line (buffer.take k)).2 ++
      resume (r.line (buffer.take k)).1 (buffer.drop (k + 2)) pieces := by
  rw [resume, scanLines_some h, List.append_assoc]
  rfl

lemma readPieces_line {r : Reader} (h : r.read_body = false) (buffer p : Str)
    (pieces : List Str) :
    readPieces (p :: pieces) (r, buffer) = resume r (buffer ++ p) pieces := by
  unfold readPieces Reader.read
  dsimp only
  rw [if_neg (by simp [h])]
  rfl

/-- A line is found whatever the pieces. -/
lemma resume_line {l rest : Str} (hl : OneLine l) {r : Reader} (hr : r.read_body = false)
    {buffer : Str} {pieces : List Str}
    (h : buffer ++ pieces.flatten = l ++ "\r\n".toList ++ rest) :
    resume r buffer pieces = (r.line l).2 ++
      resume (r.line l).1 (skip (l.length + 2) buffer pieces).1
        (skip (l.length + 2) buffer pieces).2 := by
  have htwo : (l ++ "\r\n".toList).length = l.length + 2 := by
    rw [List.length_append]
    rfl
  have hcomplete {buffer : Str} {pieces : List Str}
      (h : buffer ++ pieces.flatten = l ++ "\r\n".toList ++ rest)
      (hlen : l.length + 2 ≤ buffer.length) :
      resume r buffer pieces = (r.line l).2 ++
        resume (r.line l).1 (skip (l.length + 2) buffer pieces).1
          (skip (l.length + 2) buffer pieces).2 := by
    have hpre : l ++ "\r\n".toList <+: buffer := by
      have hx : l ++ "\r\n".toList <+: buffer ++ pieces.flatten := h ▸ List.prefix_append _ _
      exact List.prefix_of_prefix_length_le hx (List.prefix_append _ _) (by omega)
    obtain ⟨behind, rfl⟩ := hpre
    have hfind : findStr "\r\n".toList (cString (l ++ "\r\n".toList ++ behind)) =
        some l.length := by
      rw [cString_line hl.1]
      exact findStr_line hl.2 _
    rw [resume_some hfind, skip_of_le hlen, List.append_assoc, List.take_left]
  induction pieces generalizing buffer with
  | nil =>
    apply hcomplete h
    have hlen := congrArg List.length h
    rw [List.flatten_nil, List.append_nil, List.length_append, htwo] at hlen
    omega
  | cons p pieces ih =>
    by_cases hlen : buffer.length < l.length + 2
    · have hnone := findStr_of_incomplete hl (prefix_of_lt h (by omega)) hlen
      rw [resume_none hnone, readPieces_line hr, skip_of_lt hlen]
      apply ih
      rw [← h, List.flatten_cons, List.append_assoc]
    · exact hcomplete h (by omega)

/-! ### A request -/

lemma oneLine_linesOf {r : Request} (h : NulFree r) : ∀ l ∈ linesOf r, OneLine l := by
  intro l hl
  refine ⟨h l hl, ?_⟩
  rcases List.mem_append.mp hl with hl | hl
  · rcases List.mem_cons.mp hl with rfl | hl
    · have htarget := noCrlf_of_contains (r.lines _ List.mem_cons_self)
      have hmethod : '\r' ∉ methodText r.method ∧ (methodText r.method).getLast? ≠ some '\r' := by
        cases r.method <;> exact ⟨by decide, by decide⟩
      exact (noCrlf_of_not_mem hmethod.1).append htarget (fun hlast => absurd hlast hmethod.2)
    · exact noCrlf_of_contains (r.lines l (List.mem_cons_of_mem _ hl))
  · rw [List.mem_singleton.mp hl]
    exact List.isChain_nil

lemma lineBytes_cons (l : Str) (lines : List Str) :
    lineBytes (l :: lines) = l ++ "\r\n".toList ++ lineBytes lines := rfl

lemma length_lineBytes_cons (l : Str) (lines : List Str) :
    (lineBytes (l :: lines)).length = l.length + 2 + (lineBytes lines).length := by
  rw [lineBytes_cons, List.length_append, List.length_append]
  rfl

/-- A line of the headers, outside of a content. -/
lemma line_header {cmd : Str} (h : cmd ≠ []) (n : Int) :
    Reader.line cmd { read_header := true, contentlen := n } =
      ({ read_header := true, contentlen := lengthAfter n cmd }, [.header cmd]) := by
  unfold Reader.line
  dsimp only
  rw [if_pos rfl, if_neg h]

/-- The headers of a request up to the empty line. -/
lemma resume_headers {headers : List Str} (hne : ∀ l ∈ headers, l ≠ [])
    (hl : ∀ l ∈ headers, OneLine l) {n : Int} {buffer rest : Str} {pieces : List Str}
    (h : buffer ++ pieces.flatten = lineBytes (headers ++ [[]]) ++ rest) :
    resume { read_header := true, contentlen := n } buffer pieces =
      headers.map .header ++
        ((Reader.line [] { read_header := true, contentlen := headers.foldl lengthAfter n }).2 ++
        resume (Reader.line [] { read_header := true
                                 contentlen := headers.foldl lengthAfter n }).1
          (skip (lineBytes (headers ++ [[]])).length buffer pieces).1
          (skip (lineBytes (headers ++ [[]])).length buffer pieces).2) := by
  induction headers generalizing n buffer pieces with
  | nil =>
    have hempty : OneLine [] := ⟨List.not_mem_nil, List.isChain_nil⟩
    exact resume_line hempty rfl h
  | cons l headers ih =>
    rw [List.cons_append, lineBytes_cons, List.append_assoc] at h
    have hrest := skip_rest h
    have htwo : (l ++ "\r\n".toList).length = l.length + 2 := by
      rw [List.length_append]
      rfl
    rw [htwo] at hrest
    have hlen : (lineBytes (l :: headers ++ [[]])).length =
        l.length + 2 + (lineBytes (headers ++ [[]])).length := length_lineBytes_cons l _
    rw [resume_line (hl l List.mem_cons_self) rfl h, line_header (hne l List.mem_cons_self),
      ih (fun x hx => hne x (List.mem_cons_of_mem l hx))
        (fun x hx => hl x (List.mem_cons_of_mem l hx)) hrest,
      hlen, skip_add (l.length + 2), List.foldl_cons, List.map_cons]
    rfl

lemma line_command (r : Request) (n : Int) :
    Reader.line (methodText r.method ++ r.target) { contentlen := n } =
      ({ read_header := true, contentlen := n }, [.command r.method r.target]) := by
  cases hm : r.method <;> rfl

/-- The lines of a request are found whatever the pieces, and leave its length. -/
lemma resume_request {r : Request} (hr : NulFree r) {n : Int} {buffer rest : Str}
    {pieces : List Str} (h : buffer ++ pieces.flatten = lineBytes (linesOf r) ++ rest) :
    resume { contentlen := n } buffer pieces =
      .command r.method r.target :: r.headers.map .header ++
        ((Reader.line [] { read_header := true
                           contentlen := r.headers.foldl lengthAfter n }).2 ++
        resume (Reader.line [] { read_header := true
                                 contentlen := r.headers.foldl lengthAfter n }).1
          (skip (lineBytes (linesOf r)).length buffer pieces).1
          (skip (lineBytes (linesOf r)).length buffer pieces).2) := by
  have hl := oneLine_linesOf hr
  unfold linesOf at h hl ⊢
  rw [List.cons_append, lineBytes_cons, List.append_assoc] at h
  have hrest := skip_rest h
  have htwo : (methodText r.method ++ r.target ++ "\r\n".toList).length =
      (methodText r.method ++ r.target).length + 2 := by
    rw [List.length_append]
    rfl
  rw [htwo] at hrest
  have hheader : ∀ l ∈ r.headers, OneLine l := fun l hl' =>
    hl l (List.mem_append_left _ (List.mem_cons_of_mem _ hl'))
  have hlen : (lineBytes ((methodText r.method ++ r.target) :: r.headers ++ [[]])).length =
      (methodText r.method ++ r.target).length + 2 + (lineBytes (r.headers ++ [[]])).length :=
    length_lineBytes_cons _ _
  rw [resume_line (hl _ List.mem_cons_self) rfl h, line_command,
    resume_headers r.headers_ne hheader hrest, hlen,
    skip_add ((methodText r.method ++ r.target).length + 2)]
  rfl

/-! ### A content -/

/-- While a content is awaited the loop finds nothing, or a line that is no header, or a
content of the announced length. -/
lemma resume_body_head {n : Int} {buffer : Str} {pieces : List Str} {event : HttpEvent}
    {events : List HttpEvent}
    (h : resume { read_body := true, contentlen := n } buffer pieces = event :: events) :
    (findStr "\r\n".toList (cString buffer) ≠ none ∧
      ((∃ cmd, event = .unknown cmd) ∨ ∃ method target, event = .command method target)) ∨
    (findStr "\r\n".toList (cString buffer) = none ∧
      ∃ c, event = .content c ∧ c.length = (n % 2 ^ 64).toNat) := by
  cases hfind : findStr "\r\n".toList (cString buffer) with
  | some k =>
    left
    refine ⟨by simp, ?_⟩
    rw [resume_some hfind] at h
    unfold Reader.line at h
    dsimp only at h
    rw [if_neg (by decide)] at h
    split at h
    · exact Or.inr ⟨_, _, (List.cons.inj h).1.symm⟩
    split at h
    · exact Or.inr ⟨_, _, (List.cons.inj h).1.symm⟩
    · exact Or.inl ⟨_, (List.cons.inj h).1.symm⟩
  | none =>
    right
    refine ⟨rfl, ?_⟩
    rw [resume_none hfind] at h
    clear hfind
    induction pieces generalizing buffer with
    | nil => exact absurd h (by simp [readPieces])
    | cons p pieces ih =>
      unfold readPieces Reader.read at h
      dsimp only at h
      rw [if_pos rfl] at h
      split at h
      · exact ih h
      · next hlen =>
        obtain ⟨rfl, -⟩ := List.cons.inj h
        refine ⟨_, rfl, ?_⟩
        rw [List.length_take]
        omega

/-- A content is found with the read that completes it. -/
lemma readPieces_body {c rest : Str} {n : Int} (hn : (n % 2 ^ 64).toNat = c.length)
    {buffer p : Str} {pieces : List Str} (h : buffer ++ p ++ pieces.flatten = c ++ rest) :
    readPieces (p :: pieces) ({ read_body := true, contentlen := n }, buffer) =
      .content c :: readPieces (skip c.length (buffer ++ p) pieces).2
        ({}, (skip c.length (buffer ++ p) pieces).1) := by
  induction pieces generalizing buffer p with
  | nil =>
    rw [List.flatten_nil, List.append_nil] at h
    have hlen : ¬(buffer ++ p).length < c.length := by
      rw [h, List.length_append]
      omega
    unfold readPieces Reader.read
    dsimp only
    rw [if_pos rfl, hn, if_neg hlen, skip, h, List.take_left]
    rfl
  | cons q pieces ih =>
    rw [readPieces]
    unfold Reader.read
    dsimp only
    rw [if_pos rfl, hn]
    by_cases hlen : (buffer ++ p).length < c.length
    · rw [if_pos hlen, skip_of_lt hlen]
      apply ih
      rw [← h, List.flatten_cons]
      simp only [List.append_assoc]
    · have hle : c.length ≤ (buffer ++ p).length := by omega
      have htake := congrArg (List.take c.length) h
      rw [List.take_append_of_le_length hle, List.take_left] at htake
      rw [if_neg hlen, skip_of_le hle, htake]
      rfl

/-! ### All requests -/

lemma atoi_lt (s : Str) : atoi s < 2 ^ 31 := by
  unfold atoi
  dsimp only
  exact Int.bmod_lt (by decide)

/-- What a header announces fits into an `int`. -/
lemma lengthAfter_lt {n : Int} (h : n < 2 ^ 31) (cmd : Str) : lengthAfter n cmd < 2 ^ 31 := by
  unfold lengthAfter
  split
  · exact atoi_lt _
  · exact h

lemma foldl_lengthAfter_lt {n : Int} (h : n < 2 ^ 31) (headers : List Str) :
    headers.foldl lengthAfter n < 2 ^ 31 := by
  induction headers generalizing n with
  | nil => exact h
  | cons l headers ih => exact ih (lengthAfter_lt h l)

/-- A length left by an earlier request does not matter, as it is not positive. -/
lemma toNat_foldl_lengthAfter {n : Int} (h : n ≤ 0) (headers : List Str) :
    (headers.foldl lengthAfter n).toNat = (headers.foldl lengthAfter 0).toNat := by
  induction headers generalizing n with
  | nil =>
    rw [List.foldl_nil, List.foldl_nil]
    omega
  | cons l headers ih =>
    rw [List.foldl_cons, List.foldl_cons]
    by_cases hl : contentLength.isPrefixOf l = true
    · have hn : ∀ m : Int, lengthAfter m l = atoi (l.drop contentLength.length) := by
        intro m
        rw [lengthAfter, if_pos hl]
      rw [hn, hn]
    · have hn : ∀ m : Int, lengthAfter m l = m := by
        intro m
        rw [lengthAfter, if_neg hl]
      rw [hn, hn]
      exact ih h

/-- Nothing is found where nothing comes. -/
lemma readPieces_nil {r : Reader} (hr : r.read_body = false) {buffer : Str} {pieces : List Str}
    (h : buffer ++ pieces.flatten = []) : readPieces pieces (r, buffer) = [] := by
  obtain ⟨rfl, hflat⟩ := List.append_eq_nil_iff.mp h
  induction pieces with
  | nil => rfl
  | cons p pieces ih =>
    rw [List.flatten_cons] at hflat
    obtain ⟨rfl, hpieces⟩ := List.append_eq_nil_iff.mp hflat
    rw [readPieces_line hr, List.append_nil, resume_none (by rfl)]
    exact ih hpieces hpieces

lemma eventsOf_ne_nil {rs : List Request} (h : rs ≠ []) : rs.flatMap eventsOf ≠ [] := by
  obtain ⟨r, rs, rfl⟩ := List.exists_cons_of_ne_nil h
  rw [List.flatMap_cons]
  exact List.append_ne_nil_of_left_ne_nil (List.cons_ne_nil _ _) _

/-- Behind the empty line of a request with content. -/
lemma resume_content_iff {c : Str} {n : Int} (hpos : 0 < n) (hn : n < 2 ^ 31)
    {buffer rest : Str} {pieces : List Str} (h : buffer ++ pieces.flatten = c ++ rest)
    (events : List HttpEvent) :
    resume { read_body := true, contentlen := n } buffer pieces = .content c :: events ↔
      n.toNat = c.length ∧ findStr "\r\n".toList (cString buffer) = none ∧
      NextRead (fun p ps => readPieces (skip c.length (buffer ++ p) ps).2
        ({}, (skip c.length (buffer ++ p) ps).1) = events) pieces := by
  have hsize : (n % 2 ^ 64).toNat = n.toNat := by
    rw [Int.emod_eq_of_lt (by omega) (by omega)]
  constructor
  · intro hrun
    rcases resume_body_head hrun with
      ⟨-, ⟨cmd, hcmd⟩ | ⟨method, target, hcmd⟩⟩ | ⟨hnone, d, hd, hlen⟩
    · exact absurd hcmd (by simp)
    · exact absurd hcmd (by simp)
    · obtain rfl : c = d := HttpEvent.content.inj hd
      rw [hsize] at hlen
      refine ⟨hlen.symm, hnone, ?_⟩
      rw [resume_none hnone] at hrun
      cases pieces with
      | nil => exact absurd hrun (by simp [readPieces])
      | cons p ps =>
        rw [readPieces_body (hsize.trans hlen.symm)
          (by rw [← h, List.flatten_cons, List.append_assoc])] at hrun
        exact (List.cons.inj hrun).2
  · rintro ⟨hlen, hnone, hrest⟩
    rw [resume_none hnone]
    cases pieces with
    | nil => exact hrest.elim
    | cons p ps =>
      rw [readPieces_body (hsize.trans hlen)
        (by rw [← h, List.flatten_cons, List.append_assoc]), hrest]

lemma line_end_content {n : Int} (h : 0 < n) :
    Reader.line [] { read_header := true, contentlen := n } =
      ({ read_body := true, contentlen := n }, []) := by
  have hn : lengthAfter n [] = n := rfl
  unfold Reader.line
  dsimp only
  rw [if_pos rfl, if_pos rfl, hn, if_pos h]

lemma line_end_reply {n : Int} (h : ¬0 < n) :
    Reader.line [] { read_header := true, contentlen := n } =
      ({ contentlen := n }, [.reply]) := by
  have hn : lengthAfter n [] = n := rfl
  unfold Reader.line
  dsimp only
  rw [if_pos rfl, if_pos rfl, hn, if_neg h]

/-- Between two reads, outside of a content, the requests wait for the next one. -/
lemma readPieces_requests_iff {rs : List Request} {buffer : Str} {pieces : List Str}
    (hresume : ∀ {n : Int}, n ≤ 0 → ∀ {buffer : Str} {pieces : List Str},
      buffer ++ pieces.flatten = rs.flatMap requestBytes →
      (resume { contentlen := n } buffer pieces = rs.flatMap eventsOf ↔
        (∀ r ∈ rs, Announces r) ∧ Timely rs buffer pieces))
    (h : buffer ++ pieces.flatten = rs.flatMap requestBytes) :
    readPieces pieces ({}, buffer) = rs.flatMap eventsOf ↔
      (∀ r ∈ rs, Announces r) ∧
        (rs = [] ∨ NextRead (fun p ps => Timely rs (buffer ++ p) ps) pieces) := by
  by_cases hrs : rs = []
  · subst hrs
    rw [List.flatMap_nil] at h
    rw [readPieces_nil rfl h]
    exact iff_of_true rfl ⟨fun _ hr => absurd hr List.not_mem_nil, Or.inl rfl⟩
  · rw [or_iff_right hrs]
    cases pieces with
    | nil =>
      refine iff_of_false (fun hrun => ?_) (fun hno => hno.2)
      exact eventsOf_ne_nil hrs hrun.symm
    | cons p ps =>
      rw [readPieces_line rfl]
      apply hresume (Int.le_refl 0)
      rw [← h, List.flatten_cons, List.append_assoc]

/-- From the middle of a read on, exactly the requests are found if their lengths are
announced and the reads come in time. -/
lemma resume_requests_iff {rs : List Request} (hnul : ∀ r ∈ rs, NulFree r) {n : Int}
    (hn : n ≤ 0) {buffer : Str} {pieces : List Str}
    (h : buffer ++ pieces.flatten = rs.flatMap requestBytes) :
    resume { contentlen := n } buffer pieces = rs.flatMap eventsOf ↔
      (∀ r ∈ rs, Announces r) ∧ Timely rs buffer pieces := by
  induction rs generalizing n buffer pieces with
  | nil =>
    rw [List.flatMap_nil] at h
    have hbuffer := (List.append_eq_nil_iff.mp h).1
    rw [resume_none (by rw [hbuffer]; rfl), readPieces_nil rfl h]
    exact iff_of_true rfl ⟨fun _ hr => absurd hr List.not_mem_nil, trivial⟩
  | cons r rs ih =>
    have hrs : ∀ r ∈ rs, NulFree r := fun x hx => hnul x (List.mem_cons_of_mem r hx)
    rw [List.flatMap_cons, requestBytes, List.append_assoc] at h
    have hrest := skip_rest h
    have hlength := toNat_foldl_lengthAfter hn r.headers
    have hbound := foldl_lengthAfter_lt (n := n) (by omega) r.headers
    rw [resume_request (hnul r List.mem_cons_self) h, List.flatMap_cons, eventsOf,
      List.append_assoc, List.append_cancel_left_eq, List.singleton_append, List.forall_mem_cons,
      Announces, ← hlength, Timely]
    generalize r.headers.foldl lengthAfter n = a at hbound
    generalize skip (lineBytes (linesOf r)).length buffer pieces = behind at hrest
    obtain ⟨behind, left⟩ := behind
    dsimp only at hrest ⊢
    by_cases hpos : 0 < a
    · rw [line_end_content hpos, List.nil_append]
      by_cases hc : r.content = []
      · -- an answer is not found before another line
        rw [if_pos hc, hc, List.length_nil]
        refine iff_of_false (fun hrun => ?_) (fun hannounced => by omega)
        rcases resume_body_head hrun with ⟨-, ⟨_, h⟩ | ⟨_, _, h⟩⟩ | ⟨-, _, h, -⟩ <;>
          exact absurd h (by simp)
      · have hcontent := resume_content_iff hpos hbound hrest (rs.flatMap eventsOf)
        rw [if_neg hc, if_neg hc, hcontent]
        cases left with
        | nil => simp [NextRead]
        | cons p ps =>
          have hflat : behind ++ p ++ ps.flatten = r.content ++ rs.flatMap requestBytes := by
            rw [← hrest, List.flatten_cons, List.append_assoc]
          have hnext := readPieces_requests_iff (fun hn _ _ h => ih hrs hn h) (skip_rest hflat)
          dsimp only [NextRead] at hnext ⊢
          rw [hnext]
          tauto
    · rw [line_end_reply hpos, List.singleton_append]
      by_cases hc : r.content = []
      · rw [hc, List.nil_append] at hrest
        rw [if_pos hc, if_pos hc, hc, List.length_nil, List.cons_eq_cons, ih hrs (by omega) hrest]
        have hzero : a.toNat = 0 := by omega
        tauto
      · rw [if_neg hc]
        have hlen := List.length_pos_iff.mpr hc
        exact iff_of_false (fun hrun => absurd (List.cons.inj hrun).1 (by simp))
          (fun hannounced => by omega)

/-- Exactly the requests are handled, in order and each with its own content, if the lengths
that the loop reads are those of the contents and the reads come in time. -/
theorem requests_framed_iff {rs : List Request} {pieces : List Str}
    (hnul : ∀ r ∈ rs, NulFree r) (h : pieces.flatten = rs.flatMap requestBytes) :
    readPieces pieces ({}, []) = rs.flatMap eventsOf ↔
      (∀ r ∈ rs, Announces r) ∧ Timely rs [] pieces := by
  have hstart : resume {} [] pieces = readPieces pieces ({}, []) := resume_none (by rfl) {} pieces
  rw [← hstart]
  exact resume_requests_iff hnul (Int.le_refl 0) h

/-! ### A login with a content of one byte -/

/-- The content is too short to be a login, but any byte would do. -/
def shortRequest : Request where
  method := .POST
  target := "/menu HTTP/1.1".toList
  headers := ["Content-Length: 1".toList]
  content := "a".toList
  lines := by decide
  headers_ne := by decide

/-- As they come when the content is sent behind the headers in a second packet. -/
def twoPackets : List Str :=
  ["POST ".toList, "/menu".toList, " HTTP".toList, "/1.1\r".toList, "\nCont".toList,
    "ent-L".toList, "ength".toList, ": 1\r\n".toList, "\r\n".toList, "a".toList]

/-- As they come when each read but the last is full. -/
def fullReads : List Str :=
  ["POST ".toList, "/menu".toList, " HTTP".toList, "/1.1\r".toList, "\nCont".toList,
    "ent-L".toList, "ength".toList, ": 1\r\n".toList, "\r\na".toList]

theorem requests_framed_short :
    readPieces twoPackets ({}, []) = [shortRequest].flatMap eventsOf ↔
      (∀ r ∈ [shortRequest], Announces r) ∧ Timely [shortRequest] [] twoPackets :=
  requests_framed_iff (by decide) (by decide)

/-- A content that arrives with the end of its headers waits for more bytes. -/
theorem content_not_handled : ¬∀ (rs : List Request) (pieces : List Str),
    (∀ r ∈ rs, NulFree r) → (∀ r ∈ rs, Announces r) →
      (∀ p ∈ pieces, 1 ≤ p.length ∧ p.length ≤ 5) → pieces.flatten = rs.flatMap requestBytes →
      readPieces pieces ({}, []) = rs.flatMap eventsOf := by
  intro h
  have hrun := h [shortRequest] fullReads (by decide) (by decide) (by decide) (by decide)
  have hevents : (readPieces fullReads ({}, [])).length ≠
      ([shortRequest].flatMap eventsOf).length := by decide +kernel
  exact hevents (congrArg List.length hrun)

end CloudStorage.Proofs
