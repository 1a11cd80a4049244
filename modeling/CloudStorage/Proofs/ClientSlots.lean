import CloudStorage.ClientSlots

/-!
# Numbers of client connections

The number a connection takes is how many clients were counted in less how many left
before its thread started, so two connections share a number exactly when these balance
between their starts.
-/

namespace CloudStorage.Proofs

/-- The connections that are served have numbers of their own, each an index into
`backend_socks`. -/
structure SlotsDisjoint (s : Clients) : Prop where
  distinct : ∀ i j n, s.number i = some n → s.number j = some n → i = j
  inRange : ∀ i n, s.number i = some n → 0 ≤ n ∧ n < MAX_CLIENTS

/-- What the events do to `num_client`. -/
def counted : List ClientEvent → Int
  | [] => 0
  | .count :: es => counted es + 1
  | .exit _ :: es => counted es - 1
  | _ :: es => counted es

lemma counted_append (es fs : List ClientEvent) :
    counted (es ++ fs) = counted es + counted fs := by
  induction es with
  | nil => simp [counted]
  | cons e es ih =>
    cases e with
    | accept fd => exact ih
    | count =>
      simp only [List.cons_append, counted, ih]
      omega
    | start i => exact ih
    | close i => exact ih
    | exit i =>
      simp only [List.cons_append, counted, ih]
      omega

/-- Whenever a thread starts, fewer than `MAX_CLIENTS` clients are counted, and since the
start of each connection that is still served the clients counted in and those that left
do not balance. -/
def NeverBalanced (es : List ClientEvent) : Prop :=
  ∀ pre i post, es = pre ++ .start i :: post → counted pre < MAX_CLIENTS ∧
    ∀ before j between, pre = before ++ .start j :: between →
      ClientEvent.close j ∉ between → counted between ≠ 0

/-! ### What an event does -/

inductive Moves (s : Clients) : ClientEvent → Clients → Prop where
  | accept (fd : Int) : s.counting = false → s.numClient < MAX_CLIENTS → 0 ∈ s.clientSocks →
      Moves s (.accept fd) { s with
        clientSocks := s.clientSocks.replace 0 fd
        counting := true
        threads := s.threads ++ [⟨fd, .created⟩] }
  | full (fd : Int) : s.counting = false → s.numClient < MAX_CLIENTS → 0 ∉ s.clientSocks →
      Moves s (.accept fd) { s with counting := true }
  | count : s.counting = true →
      Moves s .count { s with numClient := s.numClient + 1, counting := false }
  | start {i : Nat} {sock : Int} : s.threads[i]? = some ⟨sock, .created⟩ →
      Moves s (.start i) (s.setPhase i (.serving s.numClient))
  | close {i : Nat} {sock n : Int} : s.threads[i]? = some ⟨sock, .serving n⟩ →
      Moves s (.close i)
        { s.setPhase i .closed with clientSocks := s.clientSocks.replace sock 0 }
  | exit {i : Nat} {sock : Int} : s.threads[i]? = some ⟨sock, .closed⟩ →
      Moves s (.exit i) { s.setPhase i .exited with numClient := s.numClient - 1 }

theorem next_moves {s t : Clients} {e : ClientEvent} (h : s.next e = some t) : Moves s e t := by
  cases e with
  | accept fd =>
    simp only [Clients.next, Option.ite_none_right_eq_some] at h
    obtain ⟨⟨hc, hn⟩, h⟩ := h
    by_cases hfree : 0 ∈ s.clientSocks
    · rw [if_pos hfree] at h
      exact Option.some.inj h ▸ Moves.accept fd hc hn hfree
    · rw [if_neg hfree] at h
      exact Option.some.inj h ▸ Moves.full fd hc hn hfree
  | count =>
    simp only [Clients.next, Option.ite_none_right_eq_some] at h
    exact Option.some.inj h.2 ▸ Moves.count h.1
  | start i =>
    simp only [Clients.next] at h
    split at h
    · next sock hi => exact Option.some.inj h ▸ Moves.start hi
    · exact absurd h (by simp)
  | close i =>
    simp only [Clients.next] at h
    split at h
    · next sock n hi => exact Option.some.inj h ▸ Moves.close hi
    · exact absurd h (by simp)
  | exit i =>
    simp only [Clients.next] at h
    split at h
    · next sock hi => exact Option.some.inj h ▸ Moves.exit hi
    · exact absurd h (by simp)

lemma number_create {s t : Clients} {fd : Int} (h : t.threads = s.threads ++ [⟨fd, .created⟩])
    (j : Nat) : t.number j = s.number j := by
  unfold Clients.number
  rw [h]
  by_cases hj : j < s.threads.length
  · rw [List.getElem?_append_left hj]
  · have hnone : s.threads[j]? = none := List.getElem?_eq_none (by omega)
    rw [List.getElem?_append_right (by omega), hnone]
    cases j - s.threads.length with
    | zero => rfl
    | succ k => rfl

lemma number_setPhase_of_ne (s : Clients) {i j : Nat} (h : j ≠ i) (phase : ClientPhase) :
    (s.setPhase i phase).number j = s.number j := by
  unfold Clients.number Clients.setPhase
  rw [List.getElem?_modify_ne _ _ (Ne.symm h)]

lemma number_setPhase_self {s : Clients} {i : Nat} {t : ClientThread}
    (h : s.threads[i]? = some t) (phase : ClientPhase) :
    (s.setPhase i phase).number i = phase.number := by
  unfold Clients.number Clients.setPhase
  rw [List.getElem?_modify_eq, h]
  rfl

lemma number_of_phase {s : Clients} {i : Nat} {sock : Int} {phase : ClientPhase}
    (h : s.threads[i]? = some ⟨sock, phase⟩) :
    s.number i = phase.number := by
  unfold Clients.number
  rw [h]
  rfl

/-- The number of a connection after an event. -/
theorem next_number {s t : Clients} {e : ClientEvent} (h : s.next e = some t) (j : Nat) :
    t.number j = if e = .start j then some s.numClient
      else if e = .close j then none else s.number j := by
  cases next_moves h with
  | accept fd => exact number_create rfl j
  | full fd => rfl
  | count => rfl
  | start hi =>
    next i sock =>
    by_cases hj : j = i
    · subst hj
      rw [if_pos rfl, number_setPhase_self hi]
      rfl
    · rw [if_neg (by simpa using Ne.symm hj), if_neg (by simp)]
      exact number_setPhase_of_ne s hj _
  | close hi =>
    next i sock n =>
    rw [if_neg (by simp)]
    by_cases hj : j = i
    · subst hj
      rw [if_pos rfl]
      exact number_setPhase_self hi .closed
    · rw [if_neg (by simpa using Ne.symm hj)]
      exact number_setPhase_of_ne s hj .closed
  | exit hi =>
    next i sock =>
    rw [if_neg (by simp), if_neg (by simp)]
    by_cases hj : j = i
    · subst hj
      rw [number_of_phase hi]
      exact number_setPhase_self hi .exited
    · exact number_setPhase_of_ne s hj .exited

lemma start_number {s t : Clients} {i : Nat} (h : s.next (.start i) = some t) :
    s.number i = none := by
  cases next_moves h with
  | start hi => exact number_of_phase hi

lemma next_numClient {s t : Clients} {e : ClientEvent} (h : s.next e = some t) :
    t.numClient = s.numClient + counted [e] := by
  cases next_moves h with
  | accept fd => simp [counted]
  | full fd => simp [counted]
  | count => simp [counted]
  | start hi => simp [counted, Clients.setPhase]
  | close hi => simp [counted, Clients.setPhase]
  | exit hi => simp [counted, Int.sub_eq_add_neg]

/-! ### Threads that have not ended -/

/-- The threads that `num_client` counts, or is about to. -/
def running (s : Clients) : Nat := s.threads.countP (fun t => t.phase ≠ .exited)

lemma countP_modify {α : Type*} (p : α → Bool) (f : α → α) {l : List α} {i : Nat} {a : α}
    (h : l[i]? = some a) :
    (l.modify i f).countP p + (if p a then 1 else 0) =
      l.countP p + if p (f a) then 1 else 0 := by
  induction l generalizing i with
  | nil => simp at h
  | cons b l ih =>
    cases i with
    | zero =>
      obtain rfl : b = a := by simpa using h
      simp only [List.modify_zero_cons, List.countP_cons]
      omega
    | succ i =>
      have hi := ih (i := i) (by simpa using h)
      simp only [List.modify_succ_cons, List.countP_cons]
      omega

lemma running_setPhase {s : Clients} {i : Nat} {sock : Int} {phase : ClientPhase}
    (h : s.threads[i]? = some ⟨sock, phase⟩) (phase' : ClientPhase) :
    running (s.setPhase i phase') + (if phase ≠ .exited then 1 else 0) =
      running s + if phase' ≠ .exited then 1 else 0 := by
  have hc := countP_modify (fun t => decide (t.phase ≠ .exited))
    (fun t : ClientThread => { t with phase := phase' }) h
  simpa [running, Clients.setPhase] using hc

/-- A thread that has not ended is counted, except the newest while the main loop has yet to
count it. -/
def CountsRunning (s : Clients) : Prop :=
  (running s : Int) ≤ s.numClient + if s.counting then 1 else 0

lemma next_countsRunning {s t : Clients} {e : ClientEvent} (hs : CountsRunning s)
    (h : s.next e = some t) : CountsRunning t := by
  unfold CountsRunning at hs ⊢
  cases next_moves h with
  | accept fd hc =>
    have hr : running { s with
        clientSocks := s.clientSocks.replace 0 fd
        counting := true
        threads := s.threads ++ [⟨fd, .created⟩] } = running s + 1 := by
      simp [running]
    simp only [hc, Bool.false_eq_true, if_false] at hs
    rw [hr]
    change ((running s + 1 : Nat) : Int) ≤ s.numClient + 1
    omega
  | full fd hc =>
    simp only [hc, Bool.false_eq_true, if_false] at hs
    change (running s : Int) ≤ s.numClient + 1
    omega
  | count hc =>
    simp only [hc, if_true] at hs
    change (running s : Int) ≤ s.numClient + 1 + 0
    omega
  | start hi =>
    have hr := running_setPhase hi (.serving s.numClient)
    simp only [ne_eq, reduceCtorEq, not_false_eq_true, if_true] at hr
    change (running (s.setPhase _ _) : Int) ≤ s.numClient + if s.counting then 1 else 0
    omega
  | close hi =>
    have hr := running_setPhase hi .closed
    simp only [ne_eq, reduceCtorEq, not_false_eq_true, if_true] at hr
    change (running (s.setPhase _ _) : Int) ≤ s.numClient + if s.counting then 1 else 0
    omega
  | exit hi =>
    have hr := running_setPhase hi .exited
    simp only [ne_eq, reduceCtorEq, not_false_eq_true, not_true_eq_false, if_true, if_false] at hr
    change (running (s.setPhase _ _) : Int) ≤ s.numClient - 1 + if s.counting then 1 else 0
    omega

/-- A thread that starts reads no negative number. -/
lemma start_numClient {s t : Clients} {i : Nat} (hs : CountsRunning s)
    (h : s.next (.start i) = some t) : 0 ≤ s.numClient := by
  cases next_moves h with
  | start hi =>
    have hpos : 0 < running s :=
      List.countP_pos_iff.mpr ⟨_, List.mem_of_getElem? hi, by simp⟩
    unfold CountsRunning at hs
    split at hs <;> omega

/-! ### Runs -/

/-- The thread of connection `i` started when `n` was counted, and still serves it. -/
def StartedWith (es : List ClientEvent) (i : Nat) (n : Int) : Prop :=
  ∃ before between, es = before ++ .start i :: between ∧ ClientEvent.close i ∉ between ∧
    n = counted before

lemma startedWith_concat (es : List ClientEvent) (e : ClientEvent) (i : Nat) (n : Int) :
    StartedWith (es ++ [e]) i n ↔
      (e = .start i ∧ n = counted es) ∨ (e ≠ .close i ∧ StartedWith es i n) := by
  constructor
  · rintro ⟨before, between, he, hclose, hn⟩
    rcases List.eq_nil_or_concat between with rfl | ⟨rest, last, rfl⟩
    · obtain ⟨rfl, hlast⟩ := List.append_inj' he rfl
      exact Or.inl ⟨(List.cons.inj hlast).1, hn⟩
    · rw [List.concat_eq_append, ← List.cons_append, ← List.append_assoc] at he
      obtain ⟨rfl, hlast⟩ := List.append_inj' he rfl
      obtain rfl : e = last := (List.cons.inj hlast).1
      simp only [List.concat_eq_append, List.mem_append, List.mem_singleton, not_or] at hclose
      exact Or.inr ⟨Ne.symm hclose.2, before, rest, rfl, hclose.1, hn⟩
  · rintro (⟨rfl, rfl⟩ | ⟨he, before, between, rfl, hclose, rfl⟩)
    · exact ⟨es, [], rfl, by simp, rfl⟩
    · refine ⟨before, between ++ [e], by simp, ?_, rfl⟩
      simp [hclose, Ne.symm he]

/-- What the events of a run say about the state they lead to. -/
structure History (es : List ClientEvent) (s : Clients) : Prop where
  numClient : s.numClient = counted es
  counts : CountsRunning s
  number : ∀ i n, s.number i = some n ↔ StartedWith es i n
  nonneg : ∀ i n, s.number i = some n → 0 ≤ n

lemma history_init : History [] ({} : Clients) where
  numClient := rfl
  counts := by
    unfold CountsRunning running
    simp
  number := by
    intro i n
    constructor
    · intro h
      simp [Clients.number] at h
    · rintro ⟨before, between, he, -⟩
      simp at he
  nonneg := by
    intro i n h
    simp [Clients.number] at h

lemma History.next {es : List ClientEvent} {s t : Clients} {e : ClientEvent}
    (hs : History es s) (h : s.next e = some t) : History (es ++ [e]) t where
  numClient := by rw [next_numClient h, hs.numClient, counted_append]
  counts := next_countsRunning hs.counts h
  number := by
    intro i n
    rw [next_number h, startedWith_concat, ← hs.number, ← hs.numClient]
    by_cases hstart : e = .start i
    · subst hstart
      rw [if_pos rfl, start_number h]
      simp [eq_comm]
    · by_cases hclose : e = .close i
      · simp [hclose]
      · simp [hstart, hclose]
  nonneg := by
    intro i n hn
    rw [next_number h] at hn
    split at hn
    · next he =>
      subst he
      exact Option.some.inj hn ▸ start_numClient hs.counts h
    · split at hn
      · exact absurd hn (by simp)
      · exact hs.nonneg i n hn

theorem history {es : List ClientEvent} {s : Clients}
    (h : clientSystem.exec {} es = some s) : History es s :=
  System.exec_history history_init (fun _ _ _ _ hs hnext => hs.next hnext) h

/-- The states of a run before each of its events and at its end. -/
def AlongRun (P : Clients → Prop) (es : List ClientEvent) : Prop :=
  ∀ before after s, es = before ++ after → clientSystem.exec {} before = some s → P s

lemma exec_of_append {es fs : List ClientEvent} {t : Clients}
    (h : clientSystem.exec {} (es ++ fs) = some t) :
    ∃ s, clientSystem.exec {} es = some s := by
  rw [System.exec_append] at h
  obtain ⟨s, hs, -⟩ := Option.bind_eq_some_iff.mp h
  exact ⟨s, hs⟩

/-- Of two events of a run one comes first. -/
lemma split_twice {a b : ClientEvent} {before before' between between' : List ClientEvent}
    (h : before ++ a :: between = before' ++ b :: between') :
    a = b ∨ (∃ c, before' = before ++ a :: c ∧ between = c ++ b :: between') ∨
      (∃ c, before = before' ++ b :: c ∧ between' = c ++ a :: between) := by
  rcases List.append_eq_append_iff.mp h with ⟨c, hc, hr⟩ | ⟨c, hc, hr⟩
  · cases c with
    | nil => exact Or.inl (List.cons.inj hr).1
    | cons x c =>
      obtain ⟨rfl, htail⟩ := List.cons.inj hr
      exact Or.inr (Or.inl ⟨c, hc, htail⟩)
  · cases c with
    | nil => exact Or.inl (List.cons.inj hr).1.symm
    | cons x c =>
      obtain ⟨rfl, htail⟩ := List.cons.inj hr
      exact Or.inr (Or.inr ⟨c, hc, htail⟩)

/-- A thread that starts while another serves reads another number. -/
lemma counted_ne {es before between post : List ClientEvent} {i j : Nat}
    (h : NeverBalanced es) (he : es = (before ++ .start j :: between) ++ .start i :: post)
    (hclose : ClientEvent.close j ∉ between) :
    counted before ≠ counted (before ++ .start j :: between) := by
  have hne := (h _ i post he).2 before j between rfl hclose
  have hcons : counted (.start j :: between) = counted between := rfl
  rw [counted_append, hcons]
  omega

lemma slotsDisjoint_of_neverBalanced {es : List ClientEvent} {s : Clients}
    (hs : History es s) (h : NeverBalanced es) : SlotsDisjoint s where
  distinct := by
    intro i j n hi hj
    obtain ⟨before, between, he, hclose, hn⟩ := (hs.number i n).mp hi
    obtain ⟨before', between', he', hclose', hn'⟩ := (hs.number j n).mp hj
    rcases split_twice (he.symm.trans he') with hij | ⟨c, hb, hm⟩ | ⟨c, hb, hm⟩
    · exact ClientEvent.start.inj hij
    · have hc : ClientEvent.close i ∉ c := fun hc => hclose (hm ▸ List.mem_append_left _ hc)
      exact absurd (hn.symm.trans (hb ▸ hn')) (counted_ne h (hb ▸ he') hc)
    · have hc : ClientEvent.close j ∉ c := fun hc => hclose' (hm ▸ List.mem_append_left _ hc)
      exact absurd (hn'.symm.trans (hb ▸ hn)) (counted_ne h (hb ▸ he) hc)
  inRange := by
    intro i n hi
    obtain ⟨before, between, he, -, hn⟩ := (hs.number i n).mp hi
    exact ⟨hs.nonneg i n hi, hn ▸ (h before i between he).1⟩

lemma neverBalanced_of_slotsDisjoint {es : List ClientEvent} {t : Clients}
    (ht : clientSystem.exec {} es = some t) (h : AlongRun SlotsDisjoint es) :
    NeverBalanced es := by
  intro pre i post he
  have he' : es = (pre ++ [.start i]) ++ post := by simp [he]
  obtain ⟨u, hu⟩ := exec_of_append (he' ▸ ht)
  have hdisjoint := h _ _ u he' hu
  obtain ⟨v, hv, hnext⟩ := (System.exec_concat_iff clientSystem {} u pre (.start i)).mp hu
  change v.next (.start i) = some u at hnext
  have hpre := history hv
  have hi : u.number i = some (counted pre) := by
    rw [next_number hnext, if_pos rfl, hpre.numClient]
  refine ⟨(hdisjoint.inRange i _ hi).2, ?_⟩
  intro before j between hb hclose hzero
  have hvj : v.number j = some (counted before) :=
    (hpre.number j _).mpr ⟨before, between, hb, hclose, rfl⟩
  have hij : i ≠ j := by
    rintro rfl
    rw [start_number hnext] at hvj
    exact absurd hvj (by simp)
  have huj : u.number j = some (counted before) := by
    rw [next_number hnext, if_neg (by simpa using hij), if_neg (by simp), hvj]
  have hsame : counted pre = counted before := by
    have hcons : counted (.start j :: between) = counted between := rfl
    rw [hb, counted_append, hcons, hzero, Int.add_zero]
  exact hij (hdisjoint.distinct i j _ (hsame ▸ hi) huj)

/-- The connections of a run keep their numbers to themselves exactly when arrivals and
departures never balance between the starts of two connections that are served together,
and every thread starts below the limit. -/
theorem slots_disjoint_iff {es : List ClientEvent} {t : Clients}
    (ht : clientSystem.exec {} es = some t) :
    AlongRun SlotsDisjoint es ↔ NeverBalanced es := by
  constructor
  · exact neverBalanced_of_slotsDisjoint ht
  · intro h before after s he hs
    apply slotsDisjoint_of_neverBalanced (history hs)
    intro pre i post hpre
    exact h pre i (post ++ after) (by rw [he, hpre]; simp)

/-- Two clients that come one after the other and stay. -/
theorem two_clients_disjoint :
    AlongRun SlotsDisjoint [.accept 5, .start 0, .count, .accept 6, .start 1] := by
  have hrun : (clientSystem.exec {} [.accept 5, .start 0, .count, .accept 6, .start 1]).isSome := by
    decide
  obtain ⟨t, ht⟩ := Option.isSome_iff_exists.mp hrun
  rw [slots_disjoint_iff ht]
  intro pre i post he
  match pre with
  | [] | [_, _] | [_, _, _] => simp at he
  | [a] =>
    obtain ⟨rfl, -⟩ : ClientEvent.accept 5 = a ∧ _ := List.cons.inj he
    refine ⟨by decide, fun before j between hb => ?_⟩
    match before with
    | [] | _ :: _ => simp at hb
  | [a, b, c, d] =>
    simp only [List.cons_append, List.nil_append, List.cons.injEq] at he
    obtain ⟨rfl, rfl, rfl, rfl, -⟩ := he
    refine ⟨by decide, fun before j between hb _ => ?_⟩
    match before with
    | [] | [_, _] | [_, _, _] | _ :: _ :: _ :: _ :: _ => simp at hb
    | [a] =>
      simp only [List.cons_append, List.nil_append, List.cons.injEq] at hb
      rw [← hb.2.2]
      decide
  | _ :: _ :: _ :: _ :: _ :: _ => simp at he

/-- The first of two clients leaves and a third one comes: it shares the number of the
second. -/
theorem third_client_takes_slot :
    ¬∀ es t, clientSystem.exec {} es = some t → AlongRun SlotsDisjoint es := by
  intro h
  let es : List ClientEvent := [.accept 5, .start 0, .count, .accept 6, .start 1, .count,
    .close 0, .exit 0, .accept 5, .start 2]
  have hrun : (clientSystem.exec {} es).map (fun s => (s.number 1, s.number 2)) =
      some (some 1, some 1) := by decide
  obtain ⟨t, ht, hnumbers⟩ := Option.map_eq_some_iff.mp hrun
  have hdisjoint := h es t ht es [] t (by simp) ht
  obtain ⟨h1, h2⟩ := Prod.mk.inj hnumbers
  exact absurd (hdisjoint.distinct 1 2 1 h1 h2) (by decide)

end CloudStorage.Proofs
