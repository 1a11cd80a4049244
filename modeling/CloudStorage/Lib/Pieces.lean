import Mathlib.Data.List.Basic
import Mathlib.Tactic.Common

/-!
# Streams in pieces

A reader takes a stream into a buffer piece by piece, and cuts what it uses off the front of
the buffer. `skip` reads on until there is enough in the buffer for the next cut. This file
proves that the cuts do not depend on the pieces: skipping in two steps is skipping at once,
and what is left of the buffer and the pieces is the rest of the stream.
-/

namespace Pieces

variable {α : Type*}

/-- Cuts `n` items off the buffer, once that many are there. -/
def skip (n : Nat) : List α → List (List α) → List α × List (List α)
  | buffer, [] => (buffer.drop n, [])
  | buffer, p :: ps =>
    if buffer.length < n then skip n (buffer ++ p) ps else (buffer.drop n, p :: ps)

lemma skip_of_lt {n : Nat} {buffer : List α} (h : buffer.length < n) (p : List α)
    (ps : List (List α)) : skip n buffer (p :: ps) = skip n (buffer ++ p) ps := by
  rw [skip, if_pos h]

lemma skip_of_le {n : Nat} {buffer : List α} (h : n ≤ buffer.length) (ps : List (List α)) :
    skip n buffer ps = (buffer.drop n, ps) := by
  cases ps with
  | nil => rfl
  | cons p ps => rw [skip, if_neg (by omega)]

theorem skip_add (m n : Nat) (buffer : List α) (ps : List (List α)) :
    skip (m + n) buffer ps = skip n (skip m buffer ps).1 (skip m buffer ps).2 := by
  induction ps generalizing buffer with
  | nil => simp only [skip, List.drop_drop]
  | cons p ps ih =>
    by_cases hm : buffer.length < m
    · rw [skip_of_lt hm, skip_of_lt (by omega), ih]
    · have hm : m ≤ buffer.length := by omega
      rw [skip_of_le hm]
      by_cases hn : buffer.length < m + n
      · have hbuffer : m ≤ (buffer ++ p).length := by
          rw [List.length_append]
          omega
        have hdrop : (buffer.drop m).length < n := by
          rw [List.length_drop]
          omega
        rw [skip_of_lt hn, ih, skip_of_le hbuffer, skip_of_lt hdrop,
          List.drop_append_of_le_length hm]
      · have hdrop : n ≤ (buffer.drop m).length := by
          rw [List.length_drop]
          omega
        rw [skip_of_le (by omega), skip_of_le hdrop, List.drop_drop]

/-- What is left is the rest of the stream. -/
theorem skip_rest {x rest buffer : List α} {ps : List (List α)}
    (h : buffer ++ ps.flatten = x ++ rest) :
    (skip x.length buffer ps).1 ++ (skip x.length buffer ps).2.flatten = rest := by
  induction ps generalizing buffer with
  | nil =>
    rw [List.flatten_nil, List.append_nil] at h
    rw [h, skip, List.drop_left, List.flatten_nil, List.append_nil]
  | cons p ps ih =>
    by_cases hlen : buffer.length < x.length
    · rw [skip_of_lt hlen]
      apply ih
      rw [← h, List.flatten_cons, List.append_assoc]
    · have hlen : x.length ≤ buffer.length := by omega
      have hdrop := congrArg (List.drop x.length) h
      rw [List.drop_append_of_le_length hlen, List.drop_left] at hdrop
      rw [skip_of_le hlen, hdrop]

/-- What is in the buffer before there is enough is the beginning of the cut. -/
lemma prefix_of_lt {x rest buffer : List α} {ps : List (List α)}
    (h : buffer ++ ps.flatten = x ++ rest) (hlen : buffer.length < x.length) : buffer <+: x := by
  have hx : x <+: buffer ++ ps.flatten := h ▸ List.prefix_append x rest
  exact List.prefix_of_prefix_length_le (List.prefix_append _ _) hx (by omega)

end Pieces
