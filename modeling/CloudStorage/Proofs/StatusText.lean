import CloudStorage.Configuration
import CloudStorage.Proofs.Files

/-!
# What a status message says

The texts of heartbeats, status messages and the keys of `last_heartbeat` are read back to
what they were made from.
-/

namespace CloudStorage.Proofs

/-! ### Numbers -/

lemma takeWhile_digits {s rest : Str} (hs : ∀ ch ∈ s, ch.isDigit = true)
    (hr : ∀ ch ∈ rest.head?, ch.isDigit = false) :
    (s ++ rest).takeWhile Char.isDigit = s := by
  induction s with
  | nil =>
    cases rest with
    | nil => rfl
    | cons ch rest => simp [hr ch rfl]
  | cons ch s ih =>
    have hch := hs ch List.mem_cons_self
    simp [hch, ih (fun x hx => hs x (List.mem_cons_of_mem ch hx))]

lemma digit_not_space {ch : Char} (h : ch.isDigit = true) :
    isSpace ch = false ∧ ch ≠ '-' ∧ ch ≠ '+' := by
  unfold isSpace
  refine ⟨?_, ?_, ?_⟩
  · rw [decide_eq_false_iff_not]
    intro hm
    simp only [List.mem_cons, List.not_mem_nil, or_false] at hm
    rcases hm with rfl | rfl | rfl | rfl | rfl | rfl <;> exact absurd h (by decide)
  · rintro rfl
    exact absurd h (by decide)
  · rintro rfl
    exact absurd h (by decide)

lemma digits_of_toDigits (n : Nat) :
    ∃ ch ds, Nat.toDigits 10 n = ch :: ds ∧ ∀ x ∈ ch :: ds, x.isDigit = true := by
  cases h : Nat.toDigits 10 n with
  | nil => exact absurd h Nat.toDigits_ne_nil
  | cons ch ds =>
    refine ⟨ch, ds, rfl, ?_⟩
    intro x hx
    exact Nat.isDigit_of_mem_toDigits (by decide) (by decide) (h ▸ hx)

/-- A number is read back from its text, whatever follows that is not a digit. -/
theorem stoi_toStr {n : Int} (hn : IsInt n) {rest : Str}
    (hr : ∀ ch ∈ rest.head?, ch.isDigit = false) : stoi (toStr n ++ rest) = some n := by
  obtain ⟨ch, ds, hds, hdig⟩ := digits_of_toDigits n.natAbs
  have hval : Nat.ofDigitChars 10 (ch :: ds) 0 = n.natAbs := by
    rw [← hds]
    exact Nat.ofDigitChars_ten_toDigits
  have htake := takeWhile_digits hdig hr
  have hch := digit_not_space (hdig ch List.mem_cons_self)
  unfold IsInt at hn
  unfold toStr
  split
  · next hneg =>
    have hminus : isSpace '-' = false := by decide
    have hcond : -2 ^ 31 ≤ -((n.natAbs : Nat) : Int) ∧ -((n.natAbs : Nat) : Int) < 2 ^ 31 := by
      omega
    have hn' : -((n.natAbs : Nat) : Int) = n := by omega
    unfold stoi
    rw [hds, List.cons_append, List.dropWhile_cons_of_neg (by simp [hminus])]
    simp only [List.head?_cons, List.tail_cons, true_or, if_true, htake, hval]
    rw [if_pos ⟨List.cons_ne_nil ch ds, hcond⟩, hn']
  · next hpos =>
    have hcond : -2 ^ 31 ≤ ((n.natAbs : Nat) : Int) ∧ ((n.natAbs : Nat) : Int) < 2 ^ 31 := by
      omega
    have hn' : ((n.natAbs : Nat) : Int) = n := by omega
    unfold stoi
    rw [hds, List.cons_append, List.dropWhile_cons_of_neg (by simp [hch.1])]
    simp only [List.head?_cons, Option.some.injEq, hch.2.1, hch.2.2, or_self, if_false]
    rw [← List.cons_append, htake, hval, if_pos ⟨List.cons_ne_nil ch ds, hcond⟩, hn']

lemma stoi_toStr_end {n : Int} (hn : IsInt n) : stoi (toStr n) = some n := by
  have h := @stoi_toStr n hn [] (by simp)
  simpa using h

lemma not_mem_toStr {n : Int} {ch : Char} (h : ch.isDigit = false) (hm : ch ≠ '-') :
    ch ∉ toStr n := by
  intro hmem
  rcases toStr_chars n hmem with hd | hd
  · simp [h] at hd
  · exact hm hd

/-! ### Endpoints -/

variable {info : ServerInfo}

lemma not_mem_endpoint (h : Printable info) {ch : Char} (hch : ch ∈ [';', '@']) :
    ch ∉ endpoint info := by
  have hip : ch ∉ info.ip := h.ip ch (List.mem_cons_of_mem _ hch)
  have hchar : ch.isDigit = false ∧ ch ≠ '-' ∧ ch ≠ ':' := by
    rcases List.mem_cons.mp hch with rfl | hch
    · decide
    · rw [List.mem_singleton.mp hch]
      decide
  unfold endpoint
  simp only [List.mem_append, not_or]
  refine ⟨⟨hip, ?_⟩, not_mem_toStr hchar.1 hchar.2.1⟩
  intro hmem
  exact hchar.2.2 (by simpa using hmem)

lemma endpoint_eq (info : ServerInfo) : endpoint info = info.ip ++ ':' :: toStr info.tcpPort := by
  simp [endpoint]

theorem readEndpoint_endpoint (h : Printable info) :
    readEndpoint (endpoint info) = some info.address := by
  have hc : ':' ∉ info.ip := h.ip ':' (by decide)
  unfold readEndpoint
  rw [endpoint_eq, after_append hc, before_append hc, stoi_toStr_end h.tcpPort]
  rfl

/-! ### Messages -/

/-- What a status message says of a server that is given as dead. -/
def deadPart (dead : ServerInfo) : Str :=
  if dead.isDead then ";".toList ++ endpoint dead else []

lemma text_primary (recv primary dead : ServerInfo) :
    (sendIsPrimary true recv primary dead).text = "PRIMARY".toList ++ ':' :: deadPart dead := by
  unfold sendIsPrimary deadPart
  simp

lemma text_secondary (recv primary dead : ServerInfo) :
    (sendIsPrimary false recv primary dead).text =
      "SECONDARY".toList ++ ':' :: (endpoint primary ++ '@' :: deadPart dead) := by
  unfold sendIsPrimary deadPart
  simp

lemma text_new (primary secondary : ServerInfo) :
    (sendNewSecondaryInfoToPrimary primary secondary).text =
      "PRIMARY".toList ++ ':' :: (endpoint secondary ++ '@' :: []) := by
  unfold sendNewSecondaryInfoToPrimary
  simp

lemma deadPart_eq (dead : ServerInfo) :
    deadPart dead = if dead.isDead then ';' :: endpoint dead else [] := rfl

/-- Which server a message reports as dead. -/
def reported (dead : ServerInfo) : Option Address :=
  if dead.isDead then some dead.address else none

/-- The part about a dead server is read wherever no `;` comes before it. -/
lemma readDead_deadPart {dead : ServerInfo} (h : dead.isDead = true → Printable dead) {s : Str}
    (hs : ';' ∉ s) : readDead (s ++ deadPart dead) = some (reported dead) := by
  rw [deadPart_eq]
  unfold reported readDead
  cases hd : dead.isDead with
  | true =>
    have hmem : ';' ∈ s ++ ';' :: endpoint dead := by simp
    simp only [if_true]
    rw [if_pos hmem, after_append hs, readEndpoint_endpoint (h hd)]
    rfl
  | false => simp [hs]

lemma at_not_mem_deadPart {dead : ServerInfo} (h : dead.isDead = true → Printable dead) :
    '@' ∉ deadPart dead := by
  rw [deadPart_eq]
  cases hd : dead.isDead with
  | true =>
    have hend : '@' ∉ endpoint dead :=
      not_mem_endpoint (h hd) (by decide)
    simp [hend]
  | false => simp

lemma readStatus_of {message : Str} {isPrimary : Bool} {named dead : Option Address}
    (hp : decide (before ':' message = "PRIMARY".toList) = isPrimary)
    (hn : readNamed isPrimary message = some named) (hd : readDead message = some dead) :
    readStatus message = some ⟨isPrimary, named, dead⟩ := by
  subst hp
  unfold readStatus
  simp only [hn, hd]
  rfl

theorem readStatus_primary {dead : ServerInfo} (h : dead.isDead = true → Printable dead)
    (recv primary : ServerInfo) :
    readStatus (sendIsPrimary true recv primary dead).text =
      some ⟨true, none, reported dead⟩ := by
  have hword : ':' ∉ "PRIMARY".toList := by decide
  have hat : '@' ∉ "PRIMARY".toList ++ ':' :: deadPart dead := by
    have hp := at_not_mem_deadPart h
    simpa using hp
  have hdead := readDead_deadPart h (s := "PRIMARY:".toList) (by decide)
  have htext : "PRIMARY".toList ++ ':' :: deadPart dead = "PRIMARY:".toList ++ deadPart dead := rfl
  rw [text_primary]
  have hnamed : readNamed true ("PRIMARY".toList ++ ':' :: deadPart dead) = some none :=
    if_pos ⟨rfl, hat⟩
  apply readStatus_of
  · rw [before_append hword]
    rfl
  · exact hnamed
  · exact hdead

theorem readStatus_secondary {primary dead : ServerInfo} (hp : Printable primary)
    (h : dead.isDead = true → Printable dead) (recv : ServerInfo) :
    readStatus (sendIsPrimary false recv primary dead).text =
      some ⟨false, some primary.address, reported dead⟩ := by
  have hword : ':' ∉ "SECONDARY".toList := by decide
  have hat : '@' ∉ endpoint primary :=
    not_mem_endpoint hp (by decide)
  have hsemi : ';' ∉ "SECONDARY".toList ++ ':' :: (endpoint primary ++ ['@']) := by
    have hend : ';' ∉ endpoint primary :=
      not_mem_endpoint hp (by decide)
    simpa using hend
  have hdead := readDead_deadPart h hsemi
  have htext : "SECONDARY".toList ++ ':' :: (endpoint primary ++ ['@']) ++ deadPart dead =
      "SECONDARY".toList ++ ':' :: (endpoint primary ++ '@' :: deadPart dead) := by simp
  rw [htext] at hdead
  rw [text_secondary]
  apply readStatus_of
  · rw [before_append hword]
    rfl
  · unfold readNamed
    rw [if_neg (by simp), between_append hword (by decide) (by decide) hat,
      readEndpoint_endpoint hp]
    rfl
  · exact hdead

theorem readStatus_new {secondary : ServerInfo} (hs : Printable secondary)
    (primary : ServerInfo) :
    readStatus (sendNewSecondaryInfoToPrimary primary secondary).text =
      some ⟨true, some secondary.address, none⟩ := by
  have hword : ':' ∉ "PRIMARY".toList := by decide
  have hat : '@' ∉ endpoint secondary :=
    not_mem_endpoint hs (by decide)
  have hsemi : ';' ∉ "PRIMARY".toList ++ ':' :: (endpoint secondary ++ ['@']) := by
    have hend : ';' ∉ endpoint secondary :=
      not_mem_endpoint hs (by decide)
    simpa using hend
  have hmem : '@' ∈ "PRIMARY".toList ++ ':' :: (endpoint secondary ++ ['@']) := by simp
  rw [text_new]
  apply readStatus_of
  · rw [before_append hword]
    rfl
  · unfold readNamed
    rw [if_neg (fun hc => hc.2 hmem), between_append hword (by decide) (by decide) hat,
      readEndpoint_endpoint hs]
    rfl
  · exact if_neg hsemi

/-! ### Heartbeats and the keys of `last_heartbeat` -/

theorem readHeartbeat_heartbeatMessage {g p : Int} (hg : IsInt g) (hp : IsInt p) :
    readHeartbeat (heartbeatMessage g p) = some (g, p) := by
  have hcomma : ',' ∉ toStr g := not_mem_toStr (by decide) (by decide)
  have hcomma' : ',' ∉ toStr p := not_mem_toStr (by decide) (by decide)
  have htext : heartbeatMessage g p =
      toStr g ++ ',' :: (toStr p ++ ',' :: "heartbeat".toList) := by
    unfold heartbeatMessage
    simp
  have hlen : (toStr p).length ≤ (toStr g).length + 1 + (toStr p).length - 1 := by omega
  have hpos : posAfter ',' (heartbeatMessage g p) = (toStr g).length + 1 := by
    rw [htext, posAfter_mid hcomma]
  have hafter : after ',' (heartbeatMessage g p) = toStr p ++ ',' :: "heartbeat".toList := by
    rw [htext, after_append hcomma]
  have hdrop : (heartbeatMessage g p).drop ((toStr g).length + 1) =
      toStr p ++ ',' :: "heartbeat".toList := by
    rw [← hpos]
    exact hafter
  have hfind : find ',' ((toStr g).length + 1) (heartbeatMessage g p) =
      some ((toStr g).length + 1 + (toStr p).length) := by
    unfold find
    rw [hdrop, if_pos (by simp), List.idxOf_append_of_notMem hcomma']
    simp
  -- the second part runs on into the rest of the text, where the number ends
  have htake : (toStr p ++ ',' :: "heartbeat".toList).take
      ((toStr g).length + 1 + (toStr p).length - 1) =
      toStr p ++ (',' :: "heartbeat".toList).take (toStr g).length := by
    rw [List.take_append, List.take_of_length_le hlen]
    congr 2
    omega
  unfold readHeartbeat
  rw [hpos, hafter, hfind]
  dsimp only
  rw [htake, stoi_toStr hp]
  · rw [htext, before_append hcomma, stoi_toStr_end hg]
    rfl
  · intro ch hch
    cases hg' : (toStr g).length with
    | zero => simp [hg'] at hch
    | succ k =>
      rw [hg', List.take_succ_cons] at hch
      have hc : ',' = ch := by simpa using hch
      exact hc ▸ (by decide)

theorem readKey_heartbeatKey (h : Printable info) (hg : IsInt info.replicaGroup) :
    readKey (heartbeatKey info) = some (info.replicaGroup, info.address) := by
  have hsemi : ';' ∉ toStr info.replicaGroup := not_mem_toStr (by decide) (by decide)
  have hcolon : ':' ∉ toStr info.replicaGroup := not_mem_toStr (by decide) (by decide)
  have hip : ':' ∉ info.ip := h.ip ':' (by decide)
  have htext : heartbeatKey info =
      toStr info.replicaGroup ++ ';' :: (info.ip ++ ':' :: toStr info.tcpPort) := by
    unfold heartbeatKey endpoint
    simp
  have hafter : after ':' (heartbeatKey info) = toStr info.tcpPort := by
    have hmid : ':' ∉ toStr info.replicaGroup ++ ';' :: info.ip := by
      simp only [List.mem_append, List.mem_cons, not_or]
      exact ⟨hcolon, by decide, hip⟩
    have happ := after_append hmid (toStr info.tcpPort)
    rw [htext]
    simpa using happ
  unfold readKey
  rw [hafter, htext, before_append hsemi, between_append hsemi hcolon (by decide) hip,
    stoi_toStr_end hg, stoi_toStr_end h.tcpPort]
  rfl

/-- The keys tell servers of different groups or addresses apart. -/
lemma eq_of_heartbeatKey {a b : ServerInfo} (ha : Printable a) (hb : Printable b)
    (hga : IsInt a.replicaGroup) (hgb : IsInt b.replicaGroup)
    (h : heartbeatKey a = heartbeatKey b) :
    a.replicaGroup = b.replicaGroup ∧ a.address = b.address := by
  have hka := readKey_heartbeatKey ha hga
  have hkb := readKey_heartbeatKey hb hgb
  rw [h, hkb] at hka
  have hpair := Prod.mk.inj (Option.some.inj hka)
  exact ⟨hpair.1.symm, hpair.2.symm⟩

end CloudStorage.Proofs
