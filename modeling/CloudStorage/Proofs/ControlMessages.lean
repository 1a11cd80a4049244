import CloudStorage.ControlMessages
import CloudStorage.Proofs.ElectionState
import CloudStorage.Proofs.Substrings

/-!
# Control messages are read back

The texts are read back to what they were made from (`StatusText`), and they come out of the
receiver's buffer as they were sent where they have no NUL and fit.
-/

namespace CloudStorage.Proofs

variable {info recv primary secondary dead : ServerInfo} {s t : Str}

/-- A message that fits into the buffer with its NUL and leaves place for the receiver's. -/
def Fits (s : Str) : Prop := s.length + 1 < BUFFER_SIZE

lemma cString_append_nul (h : '\x00' ∉ s) : cString (s ++ ['\x00']) = s := by
  rw [cString_append h]
  exact List.append_nil s

lemma receivedMessage_of_fits (h : '\x00' ∉ s) (hfits : Fits s) : receivedMessage s = some s := by
  have hlen : (s ++ ['\x00']).length < BUFFER_SIZE := by
    rw [List.length_append, List.length_singleton]
    exact hfits
  unfold receivedMessage
  dsimp only
  rw [if_pos hlen, cString_append_nul h]

lemma receivedMessage_full (h : ¬ Fits s) : receivedMessage s = none := by
  have hlen : ¬ (s ++ ['\x00']).length < BUFFER_SIZE := by
    rw [List.length_append, List.length_singleton]
    exact h
  unfold receivedMessage
  dsimp only
  rw [if_neg hlen]

/-! ### Texts without NUL -/

/-- An address that can be sent in a message. -/
structure Transmissible (info : ServerInfo) : Prop extends Printable info where
  nul : '\x00' ∉ info.ip

lemma nul_not_mem_toStr (n : Int) : '\x00' ∉ toStr n := not_mem_toStr (by decide) (by decide)

lemma nul_not_mem_endpoint (h : Transmissible info) : '\x00' ∉ endpoint info := by
  have hport := nul_not_mem_toStr info.tcpPort
  rw [endpoint_eq]
  simp only [List.mem_append, List.mem_cons, not_or]
  exact ⟨h.nul, by decide, hport⟩

lemma nul_not_mem_deadPart (h : dead.isDead = true → Transmissible dead) :
    '\x00' ∉ deadPart dead := by
  rw [deadPart_eq]
  split
  · next hd =>
    have hend := nul_not_mem_endpoint (h hd)
    simpa using hend
  · exact List.not_mem_nil

/-! ### Status messages -/

lemma statusReceived_primary (h : dead.isDead = true → Transmissible dead)
    (hfits : Fits (sendIsPrimary true recv primary dead).text) :
    statusReceived (sendIsPrimary true recv primary dead) = some ⟨true, none, reported dead⟩ := by
  have hnul : '\x00' ∉ (sendIsPrimary true recv primary dead).text := by
    have hdead := nul_not_mem_deadPart h
    rw [text_primary]
    simpa using hdead
  unfold statusReceived
  rw [receivedMessage_of_fits hnul hfits]
  exact readStatus_primary (fun hd => (h hd).toPrintable) recv primary

lemma statusReceived_secondary (hp : Transmissible primary)
    (h : dead.isDead = true → Transmissible dead)
    (hfits : Fits (sendIsPrimary false recv primary dead).text) :
    statusReceived (sendIsPrimary false recv primary dead) =
      some ⟨false, some primary.address, reported dead⟩ := by
  have hnul : '\x00' ∉ (sendIsPrimary false recv primary dead).text := by
    have hdead := nul_not_mem_deadPart h
    have hend := nul_not_mem_endpoint hp
    rw [text_secondary]
    simp [hdead, hend]
  unfold statusReceived
  rw [receivedMessage_of_fits hnul hfits]
  exact readStatus_secondary hp.toPrintable (fun hd => (h hd).toPrintable) recv

lemma statusReceived_new (hs : Transmissible secondary)
    (hfits : Fits (sendNewSecondaryInfoToPrimary primary secondary).text) :
    statusReceived (sendNewSecondaryInfoToPrimary primary secondary) =
      some ⟨true, some secondary.address, none⟩ := by
  have hnul : '\x00' ∉ (sendNewSecondaryInfoToPrimary primary secondary).text := by
    have hend := nul_not_mem_endpoint hs
    rw [text_new]
    simp [hend]
  unfold statusReceived
  rw [receivedMessage_of_fits hnul hfits]
  exact readStatus_new hs.toPrintable primary

/-! ### Heartbeats -/

/-- The text of an `int` has at most eleven characters. -/
lemma length_toStr_le {n : Int} (hn : IsInt n) : (toStr n).length ≤ 11 := by
  have habs : n.natAbs < 10 ^ 10 := by
    unfold IsInt at hn
    omega
  have hdigits : (Nat.toDigits 10 n.natAbs).length ≤ 10 :=
    (Nat.length_toDigits_le_iff (by decide) (by decide)).mpr habs
  unfold toStr
  split
  · rw [List.length_cons]
    omega
  · omega

lemma heartbeatReceived_eq {g p : Int} (hg : IsInt g) (hp : IsInt p) :
    heartbeatReceived g p = some (g, p) := by
  have hnul : '\x00' ∉ heartbeatMessage g p := by
    have hgroup := nul_not_mem_toStr g
    have hport := nul_not_mem_toStr p
    unfold heartbeatMessage
    simp [hgroup, hport]
  have hfits : Fits (heartbeatMessage g p) := by
    have hgroup := length_toStr_le hg
    have hport := length_toStr_le hp
    have hlen : (heartbeatMessage g p).length = (toStr g).length + 1 + (toStr p).length + 10 := by
      unfold heartbeatMessage
      simp
      omega
    unfold Fits BUFFER_SIZE
    omega
  unfold heartbeatReceived
  rw [receivedMessage_of_fits hnul hfits]
  exact readHeartbeat_heartbeatMessage hg hp

/-- What the receivers read from the messages, and `checkHeartbeats` from the keys, is what
they were built from, and different servers have different keys. -/
theorem control_messages_decode :
    (∀ recv primary dead : ServerInfo, (dead.isDead = true → Transmissible dead) →
      Fits (sendIsPrimary true recv primary dead).text →
      statusReceived (sendIsPrimary true recv primary dead) = some ⟨true, none, reported dead⟩) ∧
    (∀ recv primary dead : ServerInfo, Transmissible primary →
      (dead.isDead = true → Transmissible dead) →
      Fits (sendIsPrimary false recv primary dead).text →
      statusReceived (sendIsPrimary false recv primary dead) =
        some ⟨false, some primary.address, reported dead⟩) ∧
    (∀ primary secondary : ServerInfo, Transmissible secondary →
      Fits (sendNewSecondaryInfoToPrimary primary secondary).text →
      statusReceived (sendNewSecondaryInfoToPrimary primary secondary) =
        some ⟨true, some secondary.address, none⟩) ∧
    (∀ g p : Int, IsInt g → IsInt p → heartbeatReceived g p = some (g, p)) ∧
    (∀ info : ServerInfo, Printable info → IsInt info.replicaGroup →
      readKey (heartbeatKey info) = some (info.replicaGroup, info.address)) ∧
    ∀ a b : ServerInfo, Printable a → Printable b → IsInt a.replicaGroup → IsInt b.replicaGroup →
      heartbeatKey a = heartbeatKey b →
      a.replicaGroup = b.replicaGroup ∧ a.address = b.address := by
  refine ⟨?_, ?_, ?_, ?_, ?_, ?_⟩
  · intro recv primary dead hdead hfits
    exact statusReceived_primary hdead hfits
  · intro recv primary dead hprimary hdead hfits
    exact statusReceived_secondary hprimary hdead hfits
  · intro primary secondary hsecondary hfits
    exact statusReceived_new hsecondary hfits
  · intro g p hg hp
    exact heartbeatReceived_eq hg hp
  · intro info hinfo hg
    exact readKey_heartbeatKey hinfo hg
  · intro a b ha hb hga hgb h
    exact eq_of_heartbeatKey ha hb hga hgb h

lemma group1Entry_transmissible {port : Int} (hp : IsInt port) :
    Transmissible (group1Entry port) where
  toPrintable := (group1Entry_configured hp).toPrintable
  nul := (by decide : '\x00' ∉ "127.0.0.1".toList)

theorem control_messages_decode_demo :
    statusReceived (sendIsPrimary false (group1Entry 2002) (group1Entry 2003) (group1Entry 2001)) =
      some ⟨false, some (group1Entry 2003).address, some (group1Entry 2001).address⟩ :=
  control_messages_decode.2.1 _ _ _ (group1Entry_transmissible (by decide))
    (fun _ => group1Entry_transmissible (by decide)) (by unfold Fits; decide)

/-- The text that a secondary gets holds the address of its primary. -/
lemma length_ip_le (recv primary dead : ServerInfo) :
    primary.ip.length ≤ (sendIsPrimary false recv primary dead).text.length := by
  rw [text_secondary, endpoint_eq]
  simp only [List.length_append, List.length_cons]
  omega

/-- Server 2001 with some address. -/
def entryAt (ip : Str) : ServerInfo := { group1Entry 2001 with ip := ip }

/-- An address with a NUL ends the message, and the port is read from the address; and an
address that fills the buffer makes the receiver write behind it. -/
theorem nul_ends_message :
    (∀ ch ∈ [':', ';', '@', ','], ch ∉ "127.0.0.1\x00".toList) ∧
    (∀ ch ∈ [':', ';', '@', ','], ch ∉ List.replicate BUFFER_SIZE '1') ∧
    statusReceived (sendIsPrimary false (group1Entry 2002) (entryAt "127.0.0.1\x00".toList)
      noDeath) = some ⟨false, some ("127.0.0.1".toList, 127), none⟩ ∧
    statusReceived (sendIsPrimary false (group1Entry 2002)
      (entryAt (List.replicate BUFFER_SIZE '1')) noDeath) = none := by
  refine ⟨?_, ?_, by decide +kernel, ?_⟩
  · simp
  · intro ch hch hmem
    rw [List.eq_of_mem_replicate hmem] at hch
    exact absurd hch (by decide)
  · have hlen : ¬ Fits (sendIsPrimary false (group1Entry 2002)
        (entryAt (List.replicate BUFFER_SIZE '1')) noDeath).text := by
      have hip := length_ip_le (group1Entry 2002) (entryAt (List.replicate BUFFER_SIZE '1')) noDeath
      have hfull : (entryAt (List.replicate BUFFER_SIZE '1')).ip.length = BUFFER_SIZE :=
        List.length_replicate
      unfold Fits
      omega
    unfold statusReceived
    rw [receivedMessage_full hlen]
    rfl

end CloudStorage.Proofs
