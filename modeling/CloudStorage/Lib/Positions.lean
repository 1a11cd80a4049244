import Mathlib.Algebra.Group.Nat.Defs
import Mathlib.Data.List.Basic
import Mathlib.Tactic.Common

/-!
# Positions in a text

Positions and lengths that are computed modulo `2 ^ 64`, with the greatest of them for a
search that finds nothing. This file says when a piece that is cut out with such numbers is
the one that was meant.
-/

namespace Positions

def npos : Nat := 2 ^ 64 - 1

def add (m n : Nat) : Nat := (m + n) % 2 ^ 64

def sub (m n : Nat) : Nat := (m + (2 ^ 64 - n)) % 2 ^ 64

/-- The position that a search returns. -/
def position (found : Option Nat) : Nat := found.getD npos

variable {α : Type*}

/-- `n` characters from a position on, or as many as there are; nothing where the position
is behind the end. -/
def slice (pos n : Nat) (s : List α) : Option (List α) :=
  if pos ≤ s.length then some ((s.drop pos).take n) else none

lemma npos_add_one : npos + 1 = 2 ^ 64 := by decide

@[simp] lemma position_none : position none = npos := rfl

@[simp] lemma position_some (pos : Nat) : position (some pos) = pos := rfl

lemma add_of_lt {m n : Nat} (h : m + n < 2 ^ 64) : add m n = m + n := Nat.mod_eq_of_lt h

lemma sub_of_le {m n : Nat} (h : n ≤ m) (hm : m < 2 ^ 64) : sub m n = m - n := by
  unfold sub
  rw [show m + (2 ^ 64 - n) = m - n + 2 ^ 64 by omega, Nat.add_mod_right]
  exact Nat.mod_eq_of_lt (by omega)

/-- One behind nothing is the beginning. -/
lemma add_npos_one : add npos 1 = 0 := by decide

/-- The distance from nothing wraps, too. -/
lemma sub_npos {n : Nat} (h : n < npos) : sub n npos = n + 1 := by
  unfold sub
  have hone : 2 ^ 64 - npos = 1 := by decide
  have hlast := npos_add_one
  rw [hone, Nat.mod_eq_of_lt]
  omega

lemma slice_of_le {pos : Nat} {s : List α} (h : pos ≤ s.length) (n : Nat) :
    slice pos n s = some ((s.drop pos).take n) := if_pos h

/-- A length that is great enough takes the rest. -/
lemma slice_rest {pos n : Nat} {s : List α} (h : pos ≤ s.length) (hn : s.length ≤ pos + n) :
    slice pos n s = some (s.drop pos) := by
  rw [slice_of_le h, List.take_of_length_le]
  rw [List.length_drop]
  omega

end Positions
