import Mathlib.Data.List.Rotate
import Mathlib.Tactic.Common

/-!
# Taking turns

A list with a position. The next element that meets a condition has its turn, and the
position moves behind it. This file proves that as many turns as there are elements to have
one reach each of them once, from every position.
-/

namespace Turns

variable {α : Type*} {p : α → Bool} {l xs : List α} {x : α} {i j k : Nat}

/-- The elements that meet `p` in the order of their turns from position `i` on. -/
def upcoming (p : α → Bool) (l : List α) (i : Nat) : List α := (l.rotate i).filter p

theorem upcoming_perm (p : α → Bool) (l : List α) (i : Nat) :
    (upcoming p l i).Perm (l.filter p) :=
  (l.rotate_perm i).filter p

lemma upcoming_congr (h : i % l.length = j % l.length) : upcoming p l i = upcoming p l j := by
  unfold upcoming
  rw [← List.rotate_mod l i, h, List.rotate_mod]

/-- From position `i` it is the turn of `x`, and the next turn is from position `j`. -/
structure Turn (p : α → Bool) (l : List α) (i : Nat) (x : α) (j : Nat) : Prop where
  meets : p x = true
  next : ∃ skipped rest, l.rotate i = skipped ++ x :: rest ∧ (∀ y ∈ skipped, p y = false) ∧
    j % l.length = (i + skipped.length + 1) % l.length

/-- Who has had a turn comes last. -/
theorem Turn.upcoming_eq (h : Turn p l i x j) :
    ∃ rest, upcoming p l i = x :: rest ∧ upcoming p l j = rest ++ [x] := by
  obtain ⟨skipped, rest, hrotate, hskipped, hj⟩ := h.next
  have hnone : skipped.filter p = [] := by
    rw [List.filter_eq_nil_iff]
    intro y hy
    rw [hskipped y hy]
    decide
  have hbehind : l.rotate (i + skipped.length + 1) = rest ++ (skipped ++ [x]) := by
    have happ : skipped ++ x :: rest = (skipped ++ [x]) ++ rest := by simp
    have hlen : i + skipped.length + 1 = i + (skipped ++ [x]).length := by
      rw [List.length_append, List.length_singleton]
      omega
    rw [hlen, ← List.rotate_rotate, hrotate, happ, List.rotate_append_length_eq]
  refine ⟨rest.filter p, ?_, ?_⟩
  · unfold upcoming
    rw [hrotate, List.filter_append, hnone, List.nil_append, List.filter_cons_of_pos h.meets]
  · rw [upcoming_congr hj, upcoming, hbehind, List.filter_append, List.filter_append, hnone,
      List.nil_append, List.filter_cons_of_pos h.meets, List.filter_nil]

/-- Turns one after another. -/
inductive Run (p : α → Bool) (l : List α) : Nat → List α → Nat → Prop where
  | nil (i : Nat) : Run p l i [] i
  | cons {i j k : Nat} {x : α} {xs : List α} (turn : Turn p l i x j) (run : Run p l j xs k) :
      Run p l i (x :: xs) k

/-- As long as nobody has a second turn, the turns come in order. -/
theorem Run.eq_take (h : Run p l i xs k) (hlen : xs.length ≤ (l.filter p).length) :
    xs = (upcoming p l i).take xs.length := by
  induction h with
  | nil i => rfl
  | @cons i j k x xs turn run ih =>
    obtain ⟨rest, hi, hj⟩ := turn.upcoming_eq
    have hcount := (upcoming_perm p l i).length_eq
    rw [hi, List.length_cons] at hcount
    rw [List.length_cons] at hlen
    have hrest := ih (by omega)
    rw [hj, List.take_append_of_le_length (by omega)] at hrest
    rw [hi, List.length_cons, List.take_succ_cons, ← hrest]

/-- As many turns as there are elements to have one are one turn for each. -/
theorem Run.perm (h : Run p l i xs k) (hlen : xs.length = (l.filter p).length) :
    xs.Perm (l.filter p) := by
  have htake := h.eq_take hlen.le
  have hcount := (upcoming_perm p l i).length_eq
  rw [hlen, ← hcount, List.take_length] at htake
  rw [htake]
  exact upcoming_perm p l i

end Turns
