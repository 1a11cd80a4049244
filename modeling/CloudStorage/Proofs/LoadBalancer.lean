import CloudStorage.LoadBalancer

/-!
# Where a client is sent

The choice is made among all ports that a datagram has come from, and only the configured ones
are looked after when they stop. This file proves when a configured server is chosen, and that
it is then one with the least load.
-/

namespace CloudStorage.Proofs
open LoadBalancer

/-! ### The choice -/

/-- The port is marked as alive. -/
def Alive (b : LoadBalancer) (port : Int) : Prop :=
  ∃ status, (port, status) ∈ b.server_status.entries ∧ status ≠ 0

/-- A load below the bound of the loop. -/
def Candidate (b : LoadBalancer) (port : Int) : Prop :=
  Alive b port ∧ b.server_load port < 666666

/-- The order in which the loop prefers ports. -/
def Preferred (server_load : Int → Int) (p q : Int) : Prop :=
  server_load p < server_load q ∨ server_load p = server_load q ∧ p ≤ q

/-- The loop keeps what it has, if no entry is below, or takes the preferred entry. -/
lemma chooseLoop_spec (server_load : Int → Int) {entries : List (Int × Int)}
    (h : entries.Pairwise (fun x y => x.1 < y.1)) (port min_clients : Int) :
    chooseLoop server_load entries port min_clients = port ∧
        (∀ e ∈ entries, e.2 ≠ 0 → min_clients ≤ server_load e.1) ∨
      ∃ e ∈ entries, e.2 ≠ 0 ∧ server_load e.1 < min_clients ∧
        chooseLoop server_load entries port min_clients = e.1 - 10000 ∧
        ∀ d ∈ entries, d.2 ≠ 0 → Preferred server_load e.1 d.1 := by
  induction entries generalizing port min_clients with
  | nil => exact Or.inl ⟨rfl, by simp⟩
  | cons status rest ih =>
    obtain ⟨hfirst, hrest⟩ := List.pairwise_cons.mp h
    rw [chooseLoop]
    split
    · next htaken =>
      obtain ⟨halive, hless⟩ := htaken
      right
      rcases ih hrest (status.1 - 10000) (server_load status.1) with
        ⟨hkept, hmin⟩ | ⟨e, he, hlive, hbelow, hchosen, hpreferred⟩
      · refine ⟨status, List.mem_cons_self, halive, hless, hkept, fun d hd hdlive => ?_⟩
        rcases List.mem_cons.mp hd with rfl | hd
        · exact Or.inr ⟨rfl, Int.le_refl _⟩
        · have hkey := hfirst d hd
          have hload := hmin d hd hdlive
          unfold Preferred
          omega
      · refine ⟨e, List.mem_cons_of_mem _ he, hlive, Int.lt_trans hbelow hless, hchosen,
          fun d hd hdlive => ?_⟩
        rcases List.mem_cons.mp hd with rfl | hd
        · exact Or.inl hbelow
        · exact hpreferred d hd hdlive
    · next hskipped =>
      have hhead : status.2 ≠ 0 → min_clients ≤ server_load status.1 := by
        intro hlive
        exact Int.not_lt.mp (fun hless => hskipped ⟨hlive, hless⟩)
      rcases ih hrest port min_clients with
        ⟨hkept, hmin⟩ | ⟨e, he, hlive, hbelow, hchosen, hpreferred⟩
      · exact Or.inl ⟨hkept, List.forall_mem_cons.mpr ⟨hhead, hmin⟩⟩
      · refine Or.inr ⟨e, List.mem_cons_of_mem _ he, hlive, hbelow, hchosen, ?_⟩
        refine List.forall_mem_cons.mpr ⟨fun hfirstLive => ?_, hpreferred⟩
        exact Or.inl (Int.lt_of_lt_of_le hbelow (hhead hfirstLive))

/-- The choice is the preferred candidate, and the first server if there is none. -/
lemma choose_port_spec (b : LoadBalancer) :
    b.choose_port = 10000 ∧ (∀ q, ¬Candidate b q) ∨
      Candidate b (b.choose_port + 10000) ∧
        ∀ q, Alive b q → Preferred b.server_load (b.choose_port + 10000) q := by
  rcases chooseLoop_spec b.server_load b.server_status.sorted 10000 666666 with
    ⟨hkept, hmin⟩ | ⟨e, he, hlive, hbelow, hchosen, hpreferred⟩
  · refine Or.inl ⟨hkept, ?_⟩
    rintro q ⟨⟨status, hentry, hlive⟩, hless⟩
    exact absurd (hmin (q, status) hentry hlive) (Int.not_le.mpr hless)
  · have hport : b.choose_port + 10000 = e.1 := by
      rw [choose_port, hchosen]
      omega
    rw [hport]
    refine Or.inr ⟨⟨⟨e.2, he, hlive⟩, hbelow⟩, ?_⟩
    rintro q ⟨status, hentry, hqlive⟩
    exact hpreferred (q, status) hentry hqlive

/-- A client is sent to a configured server, and to one that is alive and has the least load,
if there is such a server. -/
structure RedirectsToLeast (b : LoadBalancer) : Prop where
  configured : b.choose_port + 10000 ∈ ports
  alive : (∃ p ∈ ports, Candidate b p) → Alive b (b.choose_port + 10000)
  least : (∃ p ∈ ports, Candidate b p) →
    ∀ q ∈ ports, Alive b q → b.server_load (b.choose_port + 10000) ≤ b.server_load q

/-- Every other port that counts as a server has more clients than a configured one, or as
many as one with a smaller port. -/
def OthersBeaten (b : LoadBalancer) : Prop :=
  ∀ f, f ∉ ports → Candidate b f →
    ∃ p ∈ ports, Candidate b p ∧ Preferred b.server_load p f

lemma redirects_iff (b : LoadBalancer) : RedirectsToLeast b ↔ OthersBeaten b := by
  rcases choose_port_spec b with ⟨hfirst, hnone⟩ | ⟨hchosen, hpreferred⟩
  · refine iff_of_true ⟨?_, ?_, ?_⟩ (fun f _ hf => absurd hf (hnone f))
    · rw [hfirst]
      decide
    · rintro ⟨p, -, hp⟩
      exact absurd hp (hnone p)
    · rintro ⟨p, -, hp⟩
      exact absurd hp (hnone p)
  · constructor
    · intro h f hf hcandidate
      exact ⟨_, h.configured, hchosen, hpreferred f hcandidate.1⟩
    · intro h
      refine ⟨?_, fun _ => hchosen.1, fun _ q _ hq => ?_⟩
      · by_contra hforeign
        obtain ⟨p, hp, hcandidate, hbeats⟩ := h _ hforeign hchosen
        have hne : p ≠ b.choose_port + 10000 := fun heq => hforeign (heq ▸ hp)
        have hleast := hpreferred p hcandidate.1
        unfold Preferred at hbeats hleast
        omega
      · have hleast := hpreferred q hq
        unfold Preferred at hleast
        omega

/-! ### Runs -/

/-- A datagram comes from a configured port, or its number is not below the bound. -/
def HarmlessEvent : HeartbeatEvent → Prop
  | .received sin_port buffer _ =>
    (sin_port.toNat : Int) ∈ ports ∨ 666666 ≤ atoi (cString buffer)
  | .checked _ => True

/-- No port that is not configured has a load below the bound. -/
def NoOthers (b : LoadBalancer) : Prop := ∀ f, f ∉ ports → ¬Candidate b f

lemma alive_insert {b : LoadBalancer} {port status f : Int} {load : Int → Int}
    {last : Int → Option Int} (hf : f ≠ port) :
    Alive ⟨b.server_status.insert port status, load, last⟩ f ↔ Alive b f := by
  unfold Alive
  simp only [OrderedMap.mem_insert, Prod.mk.injEq, hf, false_and, false_or, ne_eq,
    not_false_eq_true, true_and]

lemma NoOthers.checkPort {b : LoadBalancer} (h : NoOthers b) (currentTime : Int) {port : Int}
    (hport : port ∈ ports) : NoOthers (b.checkPort currentTime port) := by
  unfold LoadBalancer.checkPort
  split
  · split
    · rintro f hf ⟨halive, hless⟩
      have hne : f ≠ port := fun heq => hf (heq ▸ hport)
      exact h f hf ⟨(alive_insert hne).mp halive, hless⟩
    · exact h
  · exact h

/-- The loop over the configured ports leaves the others as they are. -/
lemma NoOthers.checkPorts {b : LoadBalancer} (h : NoOthers b) (currentTime : Int)
    {checked : List Int} (hchecked : ∀ p ∈ checked, p ∈ ports) :
    NoOthers (checked.foldl (LoadBalancer.checkPort currentTime) b) := by
  induction checked generalizing b with
  | nil => exact h
  | cons p checked ih =>
    rw [List.forall_mem_cons] at hchecked
    exact ih (h.checkPort currentTime hchecked.1) hchecked.2

lemma NoOthers.apply {b : LoadBalancer} (h : NoOthers b) {e : HeartbeatEvent}
    (he : HarmlessEvent e) : NoOthers (e.apply b) := by
  cases e with
  | received sin_port buffer time =>
    change NoOthers (b.receiveHeartbeat sin_port buffer time)
    unfold receiveHeartbeat
    split
    · exact h
    · rintro f hf ⟨halive, hless⟩
      dsimp only at hless
      by_cases hport : f = sin_port.toNat
      · rw [hport, Function.update_self] at hless
        rw [hport] at hf
        exact absurd (he.resolve_left hf) (Int.not_le.mpr hless)
      · rw [Function.update_of_ne hport] at hless
        exact h f hf ⟨(alive_insert hport).mp halive, hless⟩
  | checked currentTime => exact h.checkPorts currentTime (fun _ hp => hp)

lemma noOthers_start : NoOthers {} := by
  rintro f hf ⟨⟨status, hentry, hlive⟩, -⟩
  have hentries : ({} : LoadBalancer).server_status.entries =
      [(20000, 0), (20001, 0), (20002, 0)] := rfl
  rw [hentries] at hentry
  simp only [List.mem_cons, List.not_mem_nil, Prod.mk.injEq, or_false] at hentry
  omega

/-- The choice is right in every state of the runs whose datagrams are harmless, and in any
state exactly if no other port beats the configured ones. -/
theorem redirects_to_least (b : LoadBalancer) :
    (loadBalancer.Reachable (fun _ e => HarmlessEvent e) b → RedirectsToLeast b) ∧
    (loadBalancer.Reachable (fun _ _ => True) b → (RedirectsToLeast b ↔ OthersBeaten b)) := by
  refine ⟨fun hb => ?_, fun _ => redirects_iff b⟩
  have hothers : NoOthers b := by
    refine hb.invariant ?_ ?_
    · rintro b rfl
      exact noOthers_start
    · rintro b e b' h he hnext
      obtain rfl := Option.some.inj hnext
      exact h.apply he
  exact (redirects_iff b).mpr (fun f hf hcandidate => absurd hcandidate (hothers f hf))

instance : DecidablePred HarmlessEvent := fun e =>
  match e with
  | .received _ _ _ => inferInstanceAs (Decidable (_ ∨ _))
  | .checked _ => isTrue trivial

/-- All three servers send their loads, and a stranger sends a large number. When the servers
are checked, 20000 has been silent for too long. -/
def heartbeats : List HeartbeatEvent :=
  [.received 20000 "1".toList 0, .received 20001 "5".toList 1, .received 20002 "7".toList 2,
    .received 31000 "700000".toList 3, .received 20002 "2".toList 4, .checked 6]

theorem redirects_to_least_checked : ∃ b, loadBalancer.exec {} heartbeats = some b ∧
    b.choose_port = 10002 ∧ Alive b 20001 ∧ ¬Alive b 20000 ∧ RedirectsToLeast b := by
  have hrun : (loadBalancer.exec {} heartbeats).map (fun b =>
      (b.choose_port, b.server_status.entries)) =
      some (10002, [(20000, 0), (20001, 1), (20002, 1), (31000, 1)]) := by
    decide +kernel
  have hharmless : ∀ e ∈ heartbeats, HarmlessEvent e := by decide
  obtain ⟨b, hb, hr⟩ := Option.map_eq_some_iff.mp hrun
  obtain ⟨hport, hentries⟩ := Prod.mk.inj hr
  have hreach := (System.Reachable.init (S := loadBalancer) rfl).exec
    (fun _ e he => hharmless e he) hb
  refine ⟨b, hb, hport, ?_, ?_, (redirects_to_least b).1 hreach⟩
  · unfold Alive
    rw [hentries]
    exact ⟨1, by decide, by decide⟩
  · rintro ⟨status, hentry, hlive⟩
    rw [hentries] at hentry
    simp only [List.mem_cons, List.not_mem_nil, Prod.mk.injEq, or_false] at hentry
    omega

/-- A datagram from any other port redirects all clients to that port. -/
theorem redirected_elsewhere :
    ¬∀ b, loadBalancer.Reachable (fun _ _ => True) b → RedirectsToLeast b := by
  intro h
  have hone : loadBalancer.Reachable (fun _ _ => True)
      ((HeartbeatEvent.received 30000 "0".toList 0).apply {}) :=
    (System.Reachable.init rfl).step trivial rfl
  have hconfigured := (h _ hone).configured
  have hport : (HeartbeatEvent.received 30000 "0".toList 0 |>.apply {}).choose_port = 20000 := by
    decide
  rw [hport] at hconfigured
  exact absurd hconfigured (by decide)

end CloudStorage.Proofs
