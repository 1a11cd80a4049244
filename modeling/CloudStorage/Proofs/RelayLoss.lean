import CloudStorage.RelayQueue

/-!
# Mails between processes

The mail server appends to the relay queue while runs of `smtpec` read and rewrite it. This
file proves that no mail is lost in a run in which the file is not written between the read
and the rewrite, and that the lock alone does not keep it so.
-/

namespace CloudStorage.Proofs

/-! ### The mails of a file -/

/-- A mail as it was appended. -/
def intact (long : Nat → Bool) (i : Nat) : Entry :=
  if long i then [.head i, .tail i] else [.whole i]

variable {long : Nat → Bool}

lemma entriesFrom_intact (entry : Option Entry) (i : Nat) (file : List Part) :
    entriesFrom entry (intact long i ++ file) =
      entry.toList ++ entriesFrom (some (intact long i)) file := by
  unfold intact
  split <;> rfl

lemma entriesFrom_mails (entry : Option Entry) (es : List Nat) :
    entriesFrom entry (es.flatMap (intact long)) = entry.toList ++ es.map (intact long) := by
  induction es generalizing entry with
  | nil => cases entry <;> rfl
  | cons i es ih =>
    rw [List.flatMap_cons, entriesFrom_intact, ih]
    rfl

lemma entriesFrom_open (entry : Option Entry) (es : List Nat) (j : Nat) :
    entriesFrom entry (es.flatMap (intact long) ++ [.head j]) =
      entry.toList ++ es.map (intact long) ++ [[.head j]] := by
  induction es generalizing entry with
  | nil => cases entry <;> rfl
  | cons i es ih =>
    rw [List.flatMap_cons, List.append_assoc, entriesFrom_intact, ih]
    simp

/-! ### Stages -/

@[simp] lemma setAppend_append (q : Queue) (i : Nat) (stage : AppendStage) (j : Nat) :
    (q.setAppend i stage).append j = if j = i then stage else q.append j :=
  Function.update_apply _ _ _ _

@[simp] lemma setRun_run (q : Queue) (k : Nat) (stage : RunStage) (l : Nat) :
    (q.setRun k stage).run l = if l = k then stage else q.run l :=
  Function.update_apply _ _ _ _

/-- Between its read and its rewrite of the file. -/
def Busy : RunStage → Prop
  | .delivering _ _ => True
  | .truncated _ => True
  | _ => False

/-- The beginning of mail `j` is in the file, and its end is not. -/
def HalfWritten (long : Nat → Bool) (q : Queue) (j : Nat) : Prop :=
  long j = true ∧ (q.append j = .printed ∨ q.append j = .unlocked)

/-- Nothing is written between a read and its rewrite, and nothing is written or read between
the two halves of a mail. -/
def Undisturbed (long : Nat → Bool) (q : Queue) : QueueStep → Prop
  | .print i => long i = true → ∀ j, ¬HalfWritten long q j
  | .closeFile i => (∀ k, ¬Busy (q.run k)) ∧ ∀ j, j ≠ i → ¬HalfWritten long q j
  | .readQueue _ => ∀ j, ¬HalfWritten long q j
  | _ => True

/-- The mail was delivered, or is in the file, or is among the mails that a run of `smtpec`
has not sent. -/
def Accounted (long : Nat → Bool) (q : Queue) (i : Nat) : Prop :=
  intact long i ∈ q.delivered ∨ intact long i ∈ entries q.file ∨
    ∃ k, intact long i ∈ (q.run k).unsent

/-! ### The invariant -/

/-- The file holds the mails `es` and at most one beginning. -/
def Holds (long : Nat → Bool) (q : Queue) (es : List Nat) : Prop :=
  (q.file = es.flatMap (intact long) ∧ ∀ j, ¬HalfWritten long q j) ∨
  ∃ j, q.file = es.flatMap (intact long) ++ [.head j] ∧ HalfWritten long q j ∧
    ∀ l, HalfWritten long q l → l = j

structure QueueInv (long : Nat → Bool) (q : Queue) (es : List Nat) : Prop where
  appendHolds : ∀ i, q.append i = .locked ∨ q.append i = .printed → q.holder = some (.append i)
  runHolds : ∀ k, q.run k ≠ .idle → q.run k ≠ .finished → q.holder = some (.run k)
  file : Holds long q es
  calm : ∀ k, Busy (q.run k) → ∀ j, ¬HalfWritten long q j
  unsent : ∀ k, ∃ left : List Nat, (q.run k).unsent = left.map (intact long)
  kept : ∀ i, q.append i = .closed → intact long i ∈ q.delivered ∨
    (∃ k, intact long i ∈ (q.run k).unsent) ∨ ((∀ k, ¬Busy (q.run k)) ∧ i ∈ es)

lemma busy_held {q : Queue} {es : List Nat} (h : QueueInv long q es) {k : Nat}
    (hk : Busy (q.run k)) : q.holder = some (.run k) := by
  apply h.runHolds
  · intro hr
    rw [hr] at hk
    exact hk
  · intro hr
    rw [hr] at hk
    exact hk

lemma queueInv_init : QueueInv long {} [] where
  appendHolds i h := by simp at h
  runHolds k h := absurd rfl h
  file := Or.inl ⟨rfl, fun j h => by simp [HalfWritten] at h⟩
  calm k h := absurd h (by simp [Busy])
  unsent k := ⟨[], rfl⟩
  kept i h := by simp at h

theorem QueueInv.accounted {q : Queue} {es : List Nat} (h : QueueInv long q es) {i : Nat}
    (hi : q.append i = .closed) : Accounted long q i := by
  rcases h.kept i hi with hd | hk | ⟨-, hes⟩
  · exact Or.inl hd
  · exact Or.inr (Or.inr hk)
  · right
    left
    have hmem : intact long i ∈ es.map (intact long) := List.mem_map_of_mem hes
    rcases h.file with ⟨hfile, -⟩ | ⟨j, hfile, -⟩
    · rw [entries, hfile, entriesFrom_mails]
      exact List.mem_append_right _ hmem
    · rw [entries, hfile, entriesFrom_open]
      exact List.mem_append_left _ (List.mem_append_right _ hmem)

/-! ### Steps of an append -/

section

variable {q q' : Queue} {es : List Nat}

/-- A step of an append that leaves the file, and completes nothing. -/
lemma QueueInv.appendStep (h : QueueInv long q es) (hfile : q'.file = q.file)
    (hdelivered : q'.delivered = q.delivered) (hrun : q'.run = q.run)
    (hhalf : ∀ j, HalfWritten long q' j ↔ HalfWritten long q j)
    (hclosed : ∀ j, q'.append j = .closed → q.append j = .closed)
    (happend : ∀ i, q'.append i = .locked ∨ q'.append i = .printed →
      q'.holder = some (.append i))
    (hruns : ∀ k, q.run k ≠ .idle → q.run k ≠ .finished → q'.holder = some (.run k)) :
    QueueInv long q' es where
  appendHolds := happend
  runHolds k := by
    rw [hrun]
    exact hruns k
  file := by
    unfold Holds
    simp only [hfile, hhalf]
    exact h.file
  calm k hk j hj := by
    rw [hrun] at hk
    exact h.calm k hk j ((hhalf j).mp hj)
  unsent k := by
    rw [hrun]
    exact h.unsent k
  kept i hi := by
    rw [hdelivered, hrun]
    exact h.kept i (hclosed i hi)

lemma halfWritten_setAppend {i : Nat} {stage : AppendStage}
    (h : (q.append i = .printed ∨ q.append i = .unlocked) ↔
      (stage = .printed ∨ stage = .unlocked)) (j : Nat) :
    HalfWritten long (q.setAppend i stage) j ↔ HalfWritten long q j := by
  unfold HalfWritten
  rw [setAppend_append]
  split
  · next hj =>
    subst hj
    rw [h]
  · exact Iff.rfl

lemma openFile_inv {i : Nat} (h : QueueInv long q es) (hi : q.append i = .idle) :
    QueueInv long (q.setAppend i .opened) es := by
  refine h.appendStep rfl rfl rfl (halfWritten_setAppend (by simp [hi])) ?_ ?_ h.runHolds
  · intro j hj
    rw [setAppend_append] at hj
    split at hj
    · exact absurd hj (by simp)
    · exact hj
  · intro j hj
    rw [setAppend_append] at hj
    split at hj
    · exact absurd hj (by simp)
    · exact h.appendHolds j hj

lemma lockFile_inv {i : Nat} (h : QueueInv long q es) (hi : q.append i = .opened)
    (hfree : q.holder = none) :
    QueueInv long { q.setAppend i .locked with holder := some (.append i) } es := by
  refine h.appendStep rfl rfl rfl (halfWritten_setAppend (by simp [hi])) ?_ ?_ ?_
  · intro j hj
    have hj : (q.setAppend i .locked).append j = .closed := hj
    rw [setAppend_append] at hj
    split at hj
    · exact absurd hj (by simp)
    · exact hj
  · intro j hj
    have hj : (q.setAppend i .locked).append j = .locked ∨
        (q.setAppend i .locked).append j = .printed := hj
    rw [setAppend_append] at hj
    split at hj
    · next heq => rw [heq]
    · have hheld := h.appendHolds j hj
      rw [hfree] at hheld
      exact absurd hheld (by simp)
  · intro k hidle hfinished
    have hheld := h.runHolds k hidle hfinished
    rw [hfree] at hheld
    exact absurd hheld (by simp)

lemma unlockFile_inv {i : Nat} (h : QueueInv long q es) (hi : q.append i = .printed) :
    QueueInv long { q.setAppend i .unlocked with holder := none } es := by
  have hheld := h.appendHolds i (Or.inr hi)
  refine h.appendStep rfl rfl rfl (halfWritten_setAppend (by simp [hi])) ?_ ?_ ?_
  · intro j hj
    have hj : (q.setAppend i .unlocked).append j = .closed := hj
    rw [setAppend_append] at hj
    split at hj
    · exact absurd hj (by simp)
    · exact hj
  · intro j hj
    have hj : (q.setAppend i .unlocked).append j = .locked ∨
        (q.setAppend i .unlocked).append j = .printed := hj
    rw [setAppend_append] at hj
    split at hj
    · exact absurd hj (by simp)
    · next hne =>
      have hboth := (h.appendHolds j hj).symm.trans hheld
      cases hboth
      exact absurd rfl hne
  · intro k hidle hfinished
    have hboth := (h.runHolds k hidle hfinished).symm.trans hheld
    exact absurd hboth (by simp)

/-- No run is busy while an append holds the lock. -/
lemma QueueInv.not_busy (h : QueueInv long q es) {i : Nat}
    (hheld : q.holder = some (.append i)) (k : Nat) : ¬Busy (q.run k) := by
  intro hk
  have hboth := (busy_held h hk).symm.trans hheld
  exact absurd hboth (by simp)

lemma print_inv {i : Nat} (h : QueueInv long q es) (hi : q.append i = .locked)
    (hok : long i = true → ∀ j, ¬HalfWritten long q j) :
    QueueInv long { q.setAppend i .printed with
      file := if long i then q.file ++ [.head i] else q.file } es := by
  have hheld := h.appendHolds i (Or.inl hi)
  have hcalm := h.not_busy hheld
  let p : Queue := { q.setAppend i .printed with
    file := if long i then q.file ++ [.head i] else q.file }
  have hhalf (j : Nat) : HalfWritten long p j ↔
      HalfWritten long q j ∨ (j = i ∧ long i = true) := by
    have happend : p.append j = if j = i then .printed else q.append j := setAppend_append _ _ _ _
    unfold HalfWritten
    rw [happend]
    split
    · next hj =>
      subst hj
      simp [hi]
    · next hj => simp [hj]
  refine ⟨?_, h.runHolds, ?_, fun k hk => absurd hk (hcalm k), h.unsent, ?_⟩
  · intro j hj
    have hj : (q.setAppend i .printed).append j = .locked ∨
        (q.setAppend i .printed).append j = .printed := hj
    rw [setAppend_append] at hj
    split at hj
    · next heq => exact heq ▸ hheld
    · exact h.appendHolds j hj
  · by_cases hl : long i = true
    · have hnone := hok hl
      right
      refine ⟨i, ?_, (hhalf i).mpr (Or.inr ⟨rfl, hl⟩), ?_⟩
      · rcases h.file with ⟨hfile, -⟩ | ⟨j, -, hj, -⟩
        · rw [← hfile]
          exact if_pos hl
        · exact absurd hj (hnone j)
      · intro j hj
        rcases (hhalf j).mp hj with hj | hj
        · exact absurd hj (hnone j)
        · exact hj.1
    · have hsame (j : Nat) : HalfWritten long p j ↔ HalfWritten long q j :=
        (hhalf j).trans (or_iff_left (fun hj => hl hj.2))
      have hfile : p.file = q.file := if_neg hl
      have hp : Holds long p es := by
        unfold Holds
        simp only [hsame, hfile]
        exact h.file
      exact hp
  · intro j hj
    have hj : (q.setAppend i .printed).append j = .closed := hj
    rw [setAppend_append] at hj
    split at hj
    · exact absurd hj (by simp)
    · exact h.kept j hj

/-- Nothing is read or rewritten meanwhile, so the mail is in the file as a whole. -/
lemma closeFile_inv {i : Nat} (h : QueueInv long q es) (hi : q.append i = .unlocked)
    (hcalm : ∀ k, ¬Busy (q.run k)) (hothers : ∀ j, j ≠ i → ¬HalfWritten long q j) :
    QueueInv long { q.setAppend i .closed with
      file := q.file ++ [if long i then .tail i else .whole i] } (es ++ [i]) := by
  let p : Queue := { q.setAppend i .closed with
    file := q.file ++ [if long i then .tail i else .whole i] }
  have happend (j : Nat) : p.append j = if j = i then .closed else q.append j :=
    setAppend_append _ _ _ _
  have hnone (j : Nat) : ¬HalfWritten long p j := by
    intro hj
    unfold HalfWritten at hj
    rw [happend] at hj
    split at hj
    · simp at hj
    · next hne => exact hothers j hne hj
  refine ⟨?_, h.runHolds, Or.inl ⟨?_, hnone⟩, fun k hk => absurd hk (hcalm k), h.unsent, ?_⟩
  · intro j hj
    have hj : p.append j = .locked ∨ p.append j = .printed := hj
    rw [happend] at hj
    split at hj
    · exact absurd hj (by simp)
    · exact h.appendHolds j hj
  · have hfile : p.file = q.file ++ [if long i then .tail i else .whole i] := rfl
    rw [List.flatMap_append, List.flatMap_singleton]
    rcases h.file with ⟨hq, hclean⟩ | ⟨j, hq, hj, -⟩
    · have hl : long i = false := by
        rw [← Bool.not_eq_true]
        exact fun hl => hclean i ⟨hl, Or.inr hi⟩
      refine hfile.trans ?_
      rw [hq, intact, hl]
      rfl
    · have hji : j = i := by
        by_contra hne
        exact hothers j hne hj
      subst hji
      refine hfile.trans ?_
      rw [hq, intact, hj.1, List.append_assoc]
      rfl
  · intro j hj
    have hj : p.append j = .closed := hj
    rw [happend] at hj
    split at hj
    · next heq => exact Or.inr (Or.inr ⟨hcalm, List.mem_append_right _ (by simp [heq])⟩)
    · rcases h.kept j hj with hd | hk | ⟨-, hes⟩
      · exact Or.inl hd
      · exact Or.inr (Or.inl hk)
      · exact Or.inr (Or.inr ⟨hcalm, List.mem_append_left _ hes⟩)

/-! ### Steps of a run -/

lemma intact_injective (long : Nat → Bool) : Function.Injective (intact long) := by
  intro i j h
  unfold intact at h
  split at h <;> split at h <;> simp_all

/-- Two runs, or a run and an append, do not hold the lock at once. -/
lemma QueueInv.run_eq (h : QueueInv long q es) {k l : Nat} (hk : q.holder = some (.run k))
    (hidle : q.run l ≠ .idle) (hfinished : q.run l ≠ .finished) : l = k := by
  have hboth := (h.runHolds l hidle hfinished).symm.trans hk
  cases hboth
  rfl

lemma QueueInv.not_locked (h : QueueInv long q es) {k : Nat} (hk : q.holder = some (.run k))
    (i : Nat) : ¬(q.append i = .locked ∨ q.append i = .printed) := by
  intro hi
  have hboth := (h.appendHolds i hi).symm.trans hk
  exact absurd hboth (by simp)

/-- A step of the run `k` that leaves the lock. What its mails become is left to show. -/
lemma QueueInv.runStep (h : QueueInv long q es) {k : Nat} (hheld : q.holder = some (.run k))
    (stage : RunStage) (delivered : List Entry) (hnone : ∀ j, ¬HalfWritten long q j)
    {file : List Part} {es' : List Nat} (hfile : file = es'.flatMap (intact long))
    (hunsent : ∃ left : List Nat, stage.unsent = left.map (intact long))
    (hkept : ∀ i, q.append i = .closed → intact long i ∈ delivered ∨
      (∃ l, intact long i ∈ ((q.setRun k stage).run l).unsent) ∨
      ((∀ l, ¬Busy ((q.setRun k stage).run l)) ∧ i ∈ es')) :
    QueueInv long { q.setRun k stage with file := file, delivered := delivered } es' where
  appendHolds i hi := absurd hi (h.not_locked hheld i)
  runHolds l hidle hfinished := by
    have hidle : (q.setRun k stage).run l ≠ .idle := hidle
    have hfinished : (q.setRun k stage).run l ≠ .finished := hfinished
    rw [setRun_run] at hidle hfinished
    split at hidle
    · next hl => exact hl ▸ hheld
    · next hl =>
      rw [if_neg hl] at hfinished
      exact h.runHolds l hidle hfinished
  file := Or.inl ⟨hfile, hnone⟩
  calm _ _ := hnone
  unsent l := by
    have hleft : ∃ left : List Nat,
        ((q.setRun k stage).run l).unsent = left.map (intact long) := by
      rw [setRun_run]
      split
      · exact hunsent
      · exact h.unsent l
    exact hleft
  kept := hkept

/-- A run that has no unsent mails may lock or unlock the queue. -/
lemma QueueInv.setHolder {k : Nat} {stage : RunStage} {holder : Option Process}
    (h : QueueInv long q es) (hold : (q.run k).unsent = []) (hcalm : ¬Busy stage)
    (hnew : stage.unsent = [])
    (happend : ∀ i, q.append i = .locked ∨ q.append i = .printed → holder = some (.append i))
    (hrun : ∀ l, (q.setRun k stage).run l ≠ .idle → (q.setRun k stage).run l ≠ .finished →
      holder = some (.run l)) :
    QueueInv long { q.setRun k stage with holder := holder } es := by
  let p : Queue := { q.setRun k stage with holder := holder }
  have hstage (l : Nat) : p.run l = if l = k then stage else q.run l := setRun_run _ _ _ _
  have hbusy : ∀ l, Busy (p.run l) → Busy (q.run l) := by
    intro l hl
    rw [hstage] at hl
    split at hl
    · exact absurd hl hcalm
    · exact hl
  refine ⟨happend, hrun, h.file, fun l hl => h.calm l (hbusy l hl), ?_, ?_⟩
  · intro l
    have hunsent : ∃ left : List Nat, (p.run l).unsent = left.map (intact long) := by
      rw [hstage]
      split
      · exact ⟨[], hnew⟩
      · exact h.unsent l
    exact hunsent
  · intro i hi
    rcases h.kept i hi with hd | ⟨l, hl⟩ | ⟨hall, hes⟩
    · exact Or.inl hd
    · refine Or.inr (Or.inl ⟨l, ?_⟩)
      have hne : l ≠ k := by
        rintro rfl
        rw [hold] at hl
        exact absurd hl List.not_mem_nil
      have hsame : p.run l = q.run l := (hstage l).trans (if_neg hne)
      exact hsame ▸ hl
    · exact Or.inr (Or.inr ⟨fun l hl => hall l (hbusy l hl), hes⟩)

lemma lockQueue_inv {k : Nat} (h : QueueInv long q es) (hk : q.run k = .idle)
    (hfree : q.holder = none) :
    QueueInv long { q.setRun k .locked with holder := some (.run k) } es := by
  refine h.setHolder (by rw [hk]; rfl) id rfl ?_ ?_
  · intro i hi
    have hheld := h.appendHolds i hi
    rw [hfree] at hheld
    exact absurd hheld (by simp)
  · intro l hidle hfinished
    rw [setRun_run] at hidle hfinished
    split at hidle
    · next hl => exact congrArg some (congrArg Process.run hl.symm)
    · next hl =>
      rw [if_neg hl] at hfinished
      have hheld := h.runHolds l hidle hfinished
      rw [hfree] at hheld
      exact absurd hheld (by simp)

lemma readQueue_inv {k : Nat} (h : QueueInv long q es) (hk : q.run k = .locked)
    (hnone : ∀ j, ¬HalfWritten long q j) :
    QueueInv long (q.setRun k
      (if entries q.file = [] then .written else .delivering (entries q.file) [])) es := by
  have hheld := h.runHolds k (by simp [hk]) (by simp [hk])
  have hfile : q.file = es.flatMap (intact long) := by
    rcases h.file with ⟨hfile, -⟩ | ⟨j, -, hj, -⟩
    · exact hfile
    · exact absurd hj (hnone j)
  have hentries : entries q.file = es.map (intact long) := by
    rw [entries, hfile, entriesFrom_mails]
    rfl
  rw [hentries]
  refine h.runStep hheld _ q.delivered hnone hfile ?_ ?_
  · split
    · exact ⟨[], rfl⟩
    · exact ⟨es, rfl⟩
  · intro i hi
    rcases h.kept i hi with hd | ⟨l, hl⟩ | ⟨-, hes⟩
    · exact Or.inl hd
    · refine Or.inr (Or.inl ⟨l, ?_⟩)
      have hne : l ≠ k := by
        rintro rfl
        rw [hk] at hl
        exact absurd hl (by simp [RunStage.unsent])
      rw [setRun_run, if_neg hne]
      exact hl
    · refine Or.inr (Or.inl ⟨k, ?_⟩)
      have hmem : intact long i ∈ es.map (intact long) := List.mem_map_of_mem hes
      rw [setRun_run, if_pos rfl, if_neg (List.ne_nil_of_mem hmem)]
      exact hmem

lemma deliver_inv {k : Nat} {entry : Entry} {todo unsent : List Entry} (h : QueueInv long q es)
    (hk : q.run k = .delivering (entry :: todo) unsent) :
    QueueInv long { q.setRun k (.delivering todo unsent) with
      delivered := q.delivered ++ [entry] } es ∧
    QueueInv long (q.setRun k (.delivering todo (unsent ++ [entry]))) es := by
  have hbusy : Busy (q.run k) := by
    rw [hk]
    trivial
  have hheld := busy_held h hbusy
  have hnone := h.calm k hbusy
  have hfile : q.file = es.flatMap (intact long) := by
    rcases h.file with ⟨hfile, -⟩ | ⟨j, -, hj, -⟩
    · exact hfile
    · exact absurd hj (hnone j)
  obtain ⟨left, hleft⟩ := h.unsent k
  rw [hk] at hleft
  have hleft : unsent ++ entry :: todo = left.map (intact long) := hleft
  -- where a mail is that the run had in its list
  have hcases (i : Nat) (hi : q.append i = .closed) : intact long i ∈ q.delivered ∨
      (∃ l, l ≠ k ∧ intact long i ∈ (q.run l).unsent) ∨
      intact long i ∈ unsent ++ entry :: todo := by
    rcases h.kept i hi with hd | ⟨l, hl⟩ | ⟨hcalm, -⟩
    · exact Or.inl hd
    · by_cases hlk : l = k
      · subst hlk
        rw [hk] at hl
        exact Or.inr (Or.inr hl)
      · exact Or.inr (Or.inl ⟨l, hlk, hl⟩)
    · exact absurd hbusy (hcalm k)
  constructor
  · refine h.runStep hheld (.delivering todo unsent) _ hnone hfile ?_ ?_
    · obtain ⟨a, b, rfl, ha, hb⟩ := List.map_eq_append_iff.mp hleft.symm
      obtain ⟨x, c, rfl, -, hc⟩ := List.map_eq_cons_iff.mp hb
      refine ⟨a ++ c, ?_⟩
      rw [List.map_append, ha, hc]
      rfl
    · intro i hi
      rcases hcases i hi with hd | ⟨l, hlk, hl⟩ | hmem
      · exact Or.inl (List.mem_append_left _ hd)
      · refine Or.inr (Or.inl ⟨l, ?_⟩)
        rw [setRun_run, if_neg hlk]
        exact hl
      · rcases List.mem_append.mp hmem with hmem | hmem
        · refine Or.inr (Or.inl ⟨k, ?_⟩)
          rw [setRun_run, if_pos rfl]
          exact List.mem_append_left todo hmem
        rcases List.mem_cons.mp hmem with heq | hmem
        · exact Or.inl (List.mem_append_right _ (List.mem_singleton.mpr heq))
        · refine Or.inr (Or.inl ⟨k, ?_⟩)
          rw [setRun_run, if_pos rfl]
          exact List.mem_append_right unsent hmem
  · refine h.runStep hheld (.delivering todo (unsent ++ [entry])) q.delivered hnone hfile ?_ ?_
    · refine ⟨left, ?_⟩
      rw [← hleft]
      simp [RunStage.unsent]
    · intro i hi
      rcases hcases i hi with hd | ⟨l, hlk, hl⟩ | hmem
      · exact Or.inl hd
      · refine Or.inr (Or.inl ⟨l, ?_⟩)
        rw [setRun_run, if_neg hlk]
        exact hl
      · refine Or.inr (Or.inl ⟨k, ?_⟩)
        rw [setRun_run, if_pos rfl]
        simpa [RunStage.unsent] using hmem

lemma truncate_inv {k : Nat} {unsent : List Entry} (h : QueueInv long q es)
    (hk : q.run k = .delivering [] unsent) :
    QueueInv long { q.setRun k (.truncated unsent) with file := [] } [] := by
  have hbusy : Busy (q.run k) := by
    rw [hk]
    trivial
  refine h.runStep (busy_held h hbusy) (.truncated unsent) q.delivered (h.calm k hbusy) rfl ?_ ?_
  · obtain ⟨left, hleft⟩ := h.unsent k
    rw [hk] at hleft
    have hleft : unsent ++ [] = left.map (intact long) := hleft
    exact ⟨left, (List.append_nil unsent).symm.trans hleft⟩
  · intro i hi
    rcases h.kept i hi with hd | ⟨l, hl⟩ | ⟨hcalm, -⟩
    · exact Or.inl hd
    · refine Or.inr (Or.inl ⟨l, ?_⟩)
      rw [setRun_run]
      split
      · next hlk =>
        rw [hlk, hk] at hl
        have hl : intact long i ∈ unsent ++ [] := hl
        rw [List.append_nil] at hl
        exact hl
      · exact hl
    · exact absurd hbusy (hcalm k)

lemma writeBack_inv {k : Nat} {unsent : List Entry} (h : QueueInv long q es)
    (hk : q.run k = .truncated unsent) :
    ∃ left, QueueInv long { q.setRun k .written with file := unsent.flatten } left := by
  have hbusy : Busy (q.run k) := by
    rw [hk]
    trivial
  have hheld := busy_held h hbusy
  obtain ⟨left, hleft⟩ := h.unsent k
  rw [hk] at hleft
  have hleft : unsent = left.map (intact long) := hleft
  have hfile : unsent.flatten = left.flatMap (intact long) := by
    rw [hleft]
    rfl
  refine ⟨left, h.runStep hheld .written q.delivered (h.calm k hbusy) hfile ⟨[], rfl⟩ ?_⟩
  have hrun (l : Nat) : (q.setRun k .written).run l = if l = k then .written else q.run l :=
    setRun_run _ _ _ _
  have hcalm (l : Nat) : ¬Busy ((q.setRun k .written).run l) := by
    rw [hrun]
    split
    · simp [Busy]
    · next hlk =>
      intro hl
      have hboth := (busy_held h hl).symm.trans hheld
      cases hboth
      exact hlk rfl
  intro i hi
  rcases h.kept i hi with hd | ⟨l, hl⟩ | ⟨hall, -⟩
  · exact Or.inl hd
  · by_cases hlk : l = k
    · subst hlk
      rw [hk, RunStage.unsent, hleft] at hl
      obtain ⟨x, hx, heq⟩ := List.mem_map.mp hl
      exact Or.inr (Or.inr ⟨hcalm, intact_injective long heq ▸ hx⟩)
    · refine Or.inr (Or.inl ⟨l, ?_⟩)
      have hsame := (hrun l).trans (if_neg hlk)
      exact hsame ▸ hl
  · exact absurd hbusy (hall k)

lemma unlockQueue_inv {k : Nat} (h : QueueInv long q es) (hk : q.run k = .written) :
    QueueInv long { q.setRun k .finished with holder := none } es := by
  have hheld := h.runHolds k (by simp [hk]) (by simp [hk])
  refine h.setHolder (by rw [hk]; rfl) id rfl ?_ ?_
  · exact fun i hi => absurd hi (h.not_locked hheld i)
  · intro l hidle hfinished
    rw [setRun_run] at hidle hfinished
    split at hidle
    · next hl => exact absurd (if_pos hl) hfinished
    · next hl =>
      rw [if_neg hl] at hfinished
      exact absurd (h.run_eq hheld hidle hfinished) hl

end

/-! ### Runs -/

theorem queueInv_step {q q' : Queue} {es : List Nat} {step : QueueStep}
    (h : QueueInv long q es) (hok : Undisturbed long q step)
    (hnext : q.next long step = some q') : ∃ es', QueueInv long q' es' := by
  cases step with
  | openFile i =>
    obtain ⟨hi, hq⟩ := Option.ite_none_right_eq_some.mp hnext
    cases hq
    exact ⟨es, openFile_inv h hi⟩
  | lockFile i =>
    obtain ⟨⟨hi, hfree⟩, hq⟩ := Option.ite_none_right_eq_some.mp hnext
    cases hq
    exact ⟨es, lockFile_inv h hi hfree⟩
  | print i =>
    obtain ⟨hi, hq⟩ := Option.ite_none_right_eq_some.mp hnext
    cases hq
    exact ⟨es, print_inv h hi hok⟩
  | unlockFile i =>
    obtain ⟨hi, hq⟩ := Option.ite_none_right_eq_some.mp hnext
    cases hq
    exact ⟨es, unlockFile_inv h hi⟩
  | closeFile i =>
    obtain ⟨hi, hq⟩ := Option.ite_none_right_eq_some.mp hnext
    cases hq
    exact ⟨es ++ [i], closeFile_inv h hi hok.1 hok.2⟩
  | lockQueue k =>
    obtain ⟨⟨hk, hfree⟩, hq⟩ := Option.ite_none_right_eq_some.mp hnext
    cases hq
    exact ⟨es, lockQueue_inv h hk hfree⟩
  | readQueue k =>
    obtain ⟨hk, hq⟩ := Option.ite_none_right_eq_some.mp hnext
    cases hq
    exact ⟨es, readQueue_inv h hk hok⟩
  | deliver k ok =>
    rw [Queue.next] at hnext
    split at hnext
    · next entry todo unsent hk =>
      split at hnext
      · cases hnext
        exact ⟨es, (deliver_inv h hk).1⟩
      · cases hnext
        exact ⟨es, (deliver_inv h hk).2⟩
    · exact absurd hnext (by simp)
  | truncate k =>
    rw [Queue.next] at hnext
    split at hnext
    · next unsent hk =>
      cases hnext
      exact ⟨[], truncate_inv h hk⟩
    · exact absurd hnext (by simp)
  | writeBack k =>
    rw [Queue.next] at hnext
    split at hnext
    · next unsent hk =>
      cases hnext
      exact writeBack_inv h hk
    · exact absurd hnext (by simp)
  | unlockQueue k =>
    obtain ⟨hk, hq⟩ := Option.ite_none_right_eq_some.mp hnext
    cases hq
    exact ⟨es, unlockQueue_inv h hk⟩

/-- In every run that is not disturbed, each mail whose append is complete was delivered, or
is in the queue, or is among the unsent mails of a run of `smtpec`. -/
theorem undisturbed_loses_nothing {q : Queue}
    (h : (relayQueue long).Reachable (Undisturbed long) q) :
    ∀ i, q.append i = .closed → Accounted long q i := by
  have hinv : ∃ es, QueueInv long q es := by
    refine h.invariant (I := fun q => ∃ es, QueueInv long q es) ?_ ?_
    · rintro q rfl
      exact ⟨[], queueInv_init⟩
    · rintro q step q' ⟨es, hes⟩ hok hnext
      exact queueInv_step hes hok hnext
  obtain ⟨es, hes⟩ := hinv
  exact fun i hi => hes.accounted hi

/-- The steps of one append. -/
def appendSteps (i : Nat) : List QueueStep :=
  [.openFile i, .lockFile i, .print i, .unlockFile i, .closeFile i]

instance : DecidablePred Busy := fun stage =>
  match stage with
  | .delivering _ _ | .truncated _ => isTrue trivial
  | .idle | .locked | .written | .finished => isFalse not_false

instance (long : Nat → Bool) (q : Queue) (j : Nat) : Decidable (HalfWritten long q j) :=
  inferInstanceAs (Decidable (_ ∧ _))

/-- Only mail 2 does not fit into the buffer of a stream. -/
def secondLong : Nat → Bool := fun i => i = 2

/-- The condition on a step, where run 0 of `smtpec` is the only one. -/
def undisturbedByOne (q : Queue) : QueueStep → Bool
  | .print i => decide (i ≠ 2 ∨ ¬HalfWritten secondLong q 2)
  | .closeFile i => decide (¬Busy (q.run 0) ∧ (i = 2 ∨ ¬HalfWritten secondLong q 2))
  | .readQueue k => decide (k = 0 ∧ ¬HalfWritten secondLong q 2)
  | .lockQueue k | .deliver k _ | .truncate k | .writeBack k | .unlockQueue k => decide (k = 0)
  | .openFile _ | .lockFile _ | .unlockFile _ => true

/-- No run but run 0 has begun. -/
def OneRun (q : Queue) : Prop := ∀ k, k ≠ 0 → q.run k = .idle

lemma OneRun.setRun {q : Queue} (h : OneRun q) (stage : RunStage) : OneRun (q.setRun 0 stage) := by
  intro k hk
  rw [setRun_run, if_neg hk]
  exact h k hk

lemma OneRun.next {long : Nat → Bool} {q q' : Queue} {step : QueueStep} (h : OneRun q)
    (hcheck : undisturbedByOne q step = true) (hnext : q.next long step = some q') :
    OneRun q' := by
  cases step with
  | openFile i | lockFile i | print i | unlockFile i | closeFile i =>
    obtain ⟨-, hq⟩ := Option.ite_none_right_eq_some.mp hnext
    cases hq
    exact h
  | lockQueue k | unlockQueue k =>
    obtain rfl : k = 0 := of_decide_eq_true hcheck
    obtain ⟨-, hq⟩ := Option.ite_none_right_eq_some.mp hnext
    cases hq
    exact h.setRun _
  | readQueue k =>
    obtain rfl : k = 0 := (of_decide_eq_true hcheck).1
    obtain ⟨-, hq⟩ := Option.ite_none_right_eq_some.mp hnext
    cases hq
    exact h.setRun _
  | deliver k ok =>
    obtain rfl : k = 0 := of_decide_eq_true hcheck
    rw [Queue.next] at hnext
    split at hnext
    · split at hnext
      · cases hnext
        exact h.setRun _
      · cases hnext
        exact h.setRun _
    · exact absurd hnext (by simp)
  | truncate k | writeBack k =>
    obtain rfl : k = 0 := of_decide_eq_true hcheck
    rw [Queue.next] at hnext
    split at hnext
    · cases hnext
      exact h.setRun _
    · exact absurd hnext (by simp)

lemma half_of_secondLong {q : Queue} {j : Nat} (h : HalfWritten secondLong q j) : j = 2 :=
  of_decide_eq_true h.1

lemma undisturbed_of_check {q : Queue} {step : QueueStep} (h : OneRun q)
    (hcheck : undisturbedByOne q step = true) : Undisturbed secondLong q step := by
  cases step with
  | print i =>
    intro hi j hj
    obtain rfl := half_of_secondLong hj
    have htwo : i = 2 := of_decide_eq_true hi
    exact (of_decide_eq_true hcheck).elim (fun hne => hne htwo) (fun hnone => hnone hj)
  | closeFile i =>
    obtain ⟨hcalm, hhalf⟩ := of_decide_eq_true hcheck
    refine ⟨fun k hk => ?_, fun j hne hj => ?_⟩
    · by_cases hzero : k = 0
      · exact hcalm (hzero ▸ hk)
      · rw [h k hzero] at hk
        exact hk
    · obtain rfl := half_of_secondLong hj
      exact hhalf.elim (fun hi => hne hi.symm) (fun hnone => hnone hj)
  | readQueue k =>
    intro j hj
    obtain rfl := half_of_secondLong hj
    exact (of_decide_eq_true hcheck).2 hj
  | openFile _ | lockFile _ | unlockFile _ | lockQueue _ | deliver _ _ | truncate _
  | writeBack _ | unlockQueue _ => trivial

/-- A run of `smtpec` sends mail 0 and fails at mail 1, whose stream was closed while the run
waited with the lock. Mail 2 is a long one and gets the lock after the run. -/
def sharedSteps : List QueueStep :=
  appendSteps 0 ++ [.openFile 1, .lockFile 1, .print 1, .unlockFile 1, .openFile 2,
    .lockQueue 0, .closeFile 1, .readQueue 0, .deliver 0 true, .deliver 0 false, .truncate 0,
    .writeBack 0, .unlockQueue 0, .lockFile 2, .print 2, .unlockFile 2, .closeFile 2]

theorem undisturbed_loses_nothing_shared :
    ∃ q, (relayQueue secondLong).exec {} sharedSteps = some q ∧
      q.delivered = [intact secondLong 0] ∧
      entries q.file = [intact secondLong 1, intact secondLong 2] ∧
      ∀ i, q.append i = .closed → Accounted secondLong q i := by
  have hrun : ((relayQueue secondLong).exec {} sharedSteps).map
      (fun q => (q.delivered, entries q.file)) =
      some ([intact secondLong 0], [intact secondLong 1, intact secondLong 2]) := by
    decide +kernel
  have hcheck : (relayQueue secondLong).checkAlong undisturbedByOne {} sharedSteps = true := by
    decide +kernel
  obtain ⟨q, hq, hr⟩ := Option.map_eq_some_iff.mp hrun
  obtain ⟨hdelivered, hfile⟩ := Prod.mk.inj hr
  have hcalm : (relayQueue secondLong).Along (Undisturbed secondLong) {} sharedSteps := by
    refine System.along_of_check (I := OneRun) ?_ ?_ (fun _ _ => rfl) hcheck
    · exact fun _ _ h hstep => undisturbed_of_check h hstep
    · exact fun _ _ _ h hstep hnext => h.next hstep hnext
  have hreach := (System.Reachable.init (S := relayQueue secondLong) rfl).along hcalm hq
  exact ⟨q, hq, hdelivered, hfile, undisturbed_loses_nothing hreach⟩

/-- No text is longer than the buffer. -/
def shortTexts : Nat → Bool := fun _ => false

/-- The stream is closed behind the lock, between the read and the rewrite of `smtpec`. -/
def lossySteps : List QueueStep :=
  appendSteps 0 ++ [.openFile 1, .lockFile 1, .print 1, .unlockFile 1, .lockQueue 0,
    .readQueue 0, .closeFile 1, .deliver 0 true, .truncate 0]

lemma lossySteps_run : ((relayQueue shortTexts).exec {} lossySteps).isSome = true := by
  decide +kernel

def lossyQueue : Queue := ((relayQueue shortTexts).exec {} lossySteps).get lossySteps_run

theorem late_close_loses_mail : ¬∀ (long : Nat → Bool) (q : Queue),
    (relayQueue long).Reachable (fun _ _ => True) q →
      ∀ i, q.append i = .closed → Accounted long q i := by
  intro h
  have hreach : (relayQueue shortTexts).Reachable (fun _ _ => True) lossyQueue :=
    System.Reachable.exec (.init rfl) (fun _ _ _ => trivial) (Option.some_get lossySteps_run).symm
  rcases h shortTexts lossyQueue hreach 1 (by decide +kernel) with hd | hf | ⟨k, hk⟩
  · exact absurd hd (by decide +kernel)
  · exact absurd hf (by decide +kernel)
  · cases k with
    | zero => exact absurd hk (by decide +kernel)
    | succ k => exact absurd hk List.not_mem_nil

end CloudStorage.Proofs
