import Mathlib.Data.List.Basic
import Mathlib.Tactic.Common

/-!
# Delimited text

A text is read piece by piece, each piece ending at a delimiter or at the end of the
text; a last piece that would be empty is not read. This file proves when reading gives
back the pieces that were written, either each followed by the delimiter (the lines of
a file) or joined by it (the fields of a line).
-/

namespace DelimitedText

variable {α : Type*}

/-- Pieces each followed by the delimiter. -/
def terminated (d : α) (xs : List (List α)) : List α :=
  xs.flatMap (fun x => x ++ [d])

/-- Pieces with the delimiter between them. -/
def joined (d : α) : List (List α) → List α
  | [] => []
  | [x] => x
  | x :: y :: xs => x ++ d :: joined d (y :: xs)

lemma terminated_append (d : α) (xs ys : List (List α)) :
    terminated d (xs ++ ys) = terminated d xs ++ terminated d ys := by
  simp [terminated]

lemma joined_append {d : α} {xs ys : List (List α)} (hx : xs ≠ []) (hy : ys ≠ []) :
    joined d (xs ++ ys) = joined d xs ++ d :: joined d ys := by
  induction xs with
  | nil => exact absurd rfl hx
  | cons x xs ih =>
    cases xs with
    | nil =>
      obtain ⟨y, ys, rfl⟩ := List.exists_cons_of_ne_nil hy
      rfl
    | cons z zs =>
      have hz := ih (List.cons_ne_nil z zs)
      simp only [List.cons_append, joined, List.append_assoc] at hz ⊢
      rw [hz]

lemma joined_append_singleton {d : α} {xs : List (List α)} (hne : xs ≠ []) (y : List α) :
    joined d (xs ++ [y]) = joined d xs ++ d :: y :=
  joined_append hne (List.cons_ne_nil y [])

/-- Every text is joined from pieces without the delimiter. -/
lemma exists_joined (d : α) (s : List α) :
    ∃ xs : List (List α), xs ≠ [] ∧ (∀ x ∈ xs, d ∉ x) ∧ joined d xs = s := by
  induction s with
  | nil => exact ⟨[[]], List.cons_ne_nil _ _, by simp, rfl⟩
  | cons c s ih =>
    obtain ⟨xs, hne, hfree, rfl⟩ := ih
    obtain ⟨x, xs, rfl⟩ := List.exists_cons_of_ne_nil hne
    by_cases hc : c = d
    · subst hc
      exact ⟨[] :: x :: xs, List.cons_ne_nil _ _,
        List.forall_mem_cons.mpr ⟨List.not_mem_nil, hfree⟩, rfl⟩
    · refine ⟨(c :: x) :: xs, List.cons_ne_nil _ _, ?_, ?_⟩
      · obtain ⟨hx, hxs⟩ := List.forall_mem_cons.mp hfree
        exact List.forall_mem_cons.mpr ⟨by simp [Ne.symm hc, hx], hxs⟩
      · cases xs with
        | nil => rfl
        | cons y ys => rfl

lemma not_mem_joined {d e : α} {xs : List (List α)} (hd : e ≠ d) (h : ∀ x ∈ xs, e ∉ x) :
    e ∉ joined d xs := by
  induction xs with
  | nil => exact List.not_mem_nil
  | cons x xs ih =>
    have hx := h x List.mem_cons_self
    cases xs with
    | nil => exact hx
    | cons y ys =>
      have hy := ih (fun z hz => h z (List.mem_cons_of_mem x hz))
      simp only [joined, List.mem_append, List.mem_cons, not_or]
      exact ⟨hx, hd, hy⟩

variable [DecidableEq α]

/-- The pieces of a text up to each delimiter. -/
def getlines (d : α) : List α → List (List α)
  | [] => []
  | c :: s =>
    if c = d then [] :: getlines d s
    else match getlines d s with
      | [] => [[c]]
      | x :: xs => (c :: x) :: xs

@[simp] lemma getlines_nil (d : α) : getlines d [] = [] := rfl

@[simp] lemma getlines_cons_self (d : α) (s : List α) :
    getlines d (d :: s) = [] :: getlines d s := by
  simp [getlines]

lemma getlines_eq_nil {d : α} {s : List α} : getlines d s = [] ↔ s = [] := by
  cases s with
  | nil => simp
  | cons c s =>
    rw [getlines]
    split
    · simp
    · split <;> simp

lemma getlines_append_delim {d : α} {x : List α} (h : d ∉ x) (s : List α) :
    getlines d (x ++ d :: s) = x :: getlines d s := by
  induction x with
  | nil => simp
  | cons c x ih =>
    simp only [List.mem_cons, not_or] at h
    rw [List.cons_append, getlines, if_neg (Ne.symm h.1), ih h.2]

/-- The first piece of a text that goes on behind a delimiter. -/
lemma getlines_takeWhile (d : α) (s t : List α) :
    ∃ xs, getlines d (s ++ d :: t) = s.takeWhile (· ≠ d) :: xs := by
  induction s with
  | nil => exact ⟨getlines d t, getlines_cons_self d t⟩
  | cons c s ih =>
    by_cases hc : c = d
    · subst hc
      refine ⟨getlines c (s ++ c :: t), ?_⟩
      rw [List.cons_append, getlines_cons_self, List.takeWhile_cons_of_neg (by simp)]
    · obtain ⟨xs, hxs⟩ := ih
      refine ⟨xs, ?_⟩
      rw [List.cons_append, getlines, if_neg hc, hxs, List.takeWhile_cons_of_pos (by simp [hc])]

lemma getlines_of_not_mem {d : α} {x : List α} (h : d ∉ x) (hx : x ≠ []) :
    getlines d x = [x] := by
  induction x with
  | nil => exact absurd rfl hx
  | cons c x ih =>
    simp only [List.mem_cons, not_or] at h
    rw [getlines, if_neg (Ne.symm h.1)]
    by_cases he : x = []
    · simp [he]
    · rw [ih h.2 he]

/-- Reading a text whose first lines are complete reads these lines first. -/
lemma getlines_terminated_append {d : α} {xs : List (List α)} (h : ∀ x ∈ xs, d ∉ x)
    (s : List α) : getlines d (terminated d xs ++ s) = xs ++ getlines d s := by
  induction xs with
  | nil => simp [terminated]
  | cons x xs ih =>
    have hx : terminated d (x :: xs) ++ s = x ++ d :: (terminated d xs ++ s) := by
      simp [terminated]
    rw [hx, getlines_append_delim (h x List.mem_cons_self),
      ih (fun y hy => h y (List.mem_cons_of_mem x hy)), List.cons_append]

lemma getlines_terminated {d : α} {xs : List (List α)} (h : ∀ x ∈ xs, d ∉ x) :
    getlines d (terminated d xs) = xs := by
  simpa using getlines_terminated_append h []

/-- Joined pieces are read back when none holds the delimiter and the last is not empty. -/
lemma getlines_joined {d : α} {xs : List (List α)} (h : ∀ x ∈ xs, d ∉ x)
    (hl : xs.getLast? ≠ some []) : getlines d (joined d xs) = xs := by
  induction xs with
  | nil => rfl
  | cons x xs ih =>
    have hx : d ∉ x := h x List.mem_cons_self
    cases xs with
    | nil =>
      have hne : x ≠ [] := by simpa using hl
      exact getlines_of_not_mem hx hne
    | cons y ys =>
      rw [joined, getlines_append_delim hx]
      congr 1
      exact ih (fun z hz => h z (List.mem_cons_of_mem x hz)) (by simpa using hl)

/-- Joined pieces of which the last is empty are read without it. -/
lemma getlines_joined_nil {d : α} {xs : List (List α)} (h : ∀ x ∈ xs, d ∉ x) :
    getlines d (joined d (xs ++ [[]])) = xs := by
  induction xs with
  | nil => rfl
  | cons x xs ih =>
    obtain ⟨y, ys, hys⟩ := List.exists_cons_of_ne_nil (List.append_ne_nil_of_right_ne_nil xs
      (List.cons_ne_nil [] []))
    have hxs := ih (fun z hz => h z (List.mem_cons_of_mem x hz))
    rw [hys] at hxs
    rw [List.cons_append, hys, joined, getlines_append_delim (h x List.mem_cons_self), hxs]

lemma delim_not_mem_of_mem_getlines {d : α} {s x : List α} (h : x ∈ getlines d s) : d ∉ x := by
  induction s generalizing x with
  | nil => simp at h
  | cons c s ih =>
    by_cases hc : c = d
    · subst hc
      rw [getlines_cons_self, List.mem_cons] at h
      rcases h with rfl | h
      · exact List.not_mem_nil
      · exact ih h
    · rw [getlines, if_neg hc] at h
      cases hs : getlines d s with
      | nil =>
        have hx : x = [c] := by simpa [hs] using h
        simp [hx, Ne.symm hc]
      | cons y ys =>
        have hy : x = c :: y ∨ x ∈ ys := by simpa [hs] using h
        rcases hy with rfl | hy
        · simp only [List.mem_cons, not_or]
          exact ⟨Ne.symm hc, ih (hs ▸ List.mem_cons_self)⟩
        · exact ih (hs ▸ List.mem_cons_of_mem y hy)

/-- The first piece is the beginning of the text. -/
lemma prefix_of_getlines {d : α} {s x : List α} {xs : List (List α)}
    (h : getlines d s = x :: xs) : x <+: s := by
  induction s generalizing x xs with
  | nil => simp at h
  | cons c s ih =>
    by_cases hc : c = d
    · subst hc
      rw [getlines_cons_self] at h
      obtain ⟨rfl, -⟩ := List.cons.inj h
      exact List.nil_prefix
    · rw [getlines, if_neg hc] at h
      cases hs : getlines d s with
      | nil =>
        have hx : [c] = x ∧ xs = [] := by simpa [hs] using h
        exact hx.1 ▸ List.prefix_append [c] s
      | cons y ys =>
        have hx : c :: y = x := (List.cons.inj (by simpa [hs] using h)).1
        exact hx ▸ (List.cons_prefix_cons.mpr ⟨rfl, ih hs⟩)

lemma infix_of_mem_getlines {d : α} {s x : List α} (h : x ∈ getlines d s) : x <:+: s := by
  induction s generalizing x with
  | nil => simp at h
  | cons c s ih =>
    have hcons : s <:+: c :: s := (List.suffix_cons c s).isInfix
    cases hg : getlines d (c :: s) with
    | nil => simp [hg] at h
    | cons y ys =>
      rw [hg] at h
      rcases List.mem_cons.mp h with rfl | h
      · exact (prefix_of_getlines hg).isInfix
      · -- the pieces after the first are pieces of the rest of the text
        have hys : x ∈ getlines d s := by
          by_cases hc : c = d
          · subst hc
            rw [getlines_cons_self] at hg
            exact (List.cons.inj hg).2 ▸ h
          · rw [getlines, if_neg hc] at hg
            cases hs : getlines d s with
            | nil => simp_all
            | cons z zs =>
              have hz : zs = ys := (List.cons.inj (by simpa [hs] using hg)).2
              exact List.mem_cons_of_mem z (hz ▸ h)
        exact (ih hys).trans hcons

/-- A text has at most one piece more than delimiters. -/
lemma length_getlines_le (d : α) (s : List α) : (getlines d s).length ≤ s.count d + 1 := by
  induction s with
  | nil => simp
  | cons c s ih =>
    by_cases hc : c = d
    · subst hc
      rw [getlines_cons_self, List.length_cons, List.count_cons_self]
      omega
    · rw [getlines, if_neg hc, List.count_cons_of_ne hc]
      cases hs : getlines d s with
      | nil => simp
      | cons y ys =>
        rw [hs] at ih
        exact ih

lemma length_getlines_cons_of_ne {c d : α} (hc : c ≠ d) (s : List α) :
    (getlines d (c :: s)).length = max 1 (getlines d s).length := by
  rw [getlines, if_neg hc]
  cases getlines d s with
  | nil => rfl
  | cons x xs => simp

lemma count_le_length_getlines (d : α) (s : List α) : s.count d ≤ (getlines d s).length := by
  induction s with
  | nil => simp
  | cons c s ih =>
    by_cases hc : c = d
    · subst hc
      rw [getlines_cons_self, List.length_cons, List.count_cons_self]
      omega
    · rw [List.count_cons_of_ne hc, length_getlines_cons_of_ne hc]
      omega

/-- A text that ends with a delimiter has as many pieces as delimiters. -/
lemma length_getlines_end (d : α) (s : List α) :
    (getlines d (s ++ [d])).length = s.count d + 1 := by
  induction s with
  | nil => simp
  | cons c s ih =>
    rw [List.cons_append]
    by_cases hc : c = d
    · subst hc
      rw [getlines_cons_self, List.length_cons, ih, List.count_cons_self]
    · rw [length_getlines_cons_of_ne hc, ih, List.count_cons_of_ne hc]
      omega

lemma mem_of_mem_getlines {d e : α} {s x : List α} (h : x ∈ getlines d s) (he : e ∈ x) :
    e ∈ s :=
  (infix_of_mem_getlines h).subset he

end DelimitedText
