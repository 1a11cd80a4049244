import CloudStorage.FormText
import CloudStorage.Lib.Positions
import CloudStorage.Proofs.Wire

/-!
# Substrings

What the searches of the source find in a text.
-/

namespace CloudStorage.Proofs
open Positions

lemma contains_iff (pattern s : Str) : contains pattern s = true ↔ pattern <:+: s := by
  induction s with
  | nil => simp [contains]
  | cons ch s ih =>
    rw [contains, Bool.or_eq_true, List.isPrefixOf_iff_prefix, ih, List.infix_cons_iff]

lemma not_contains_of_infix {pattern s t : Str} (h : contains pattern t = false) (hs : s <:+: t) :
    contains pattern s = false := by
  rw [← Bool.not_eq_true, contains_iff] at h ⊢
  exact fun hp => h (hp.trans hs)

/-- A text without the separator that a longer text begins with ends in front of it. -/
lemma prefix_sep {pattern : Str} {ch : Char} (hch : ch ∉ pattern) {s t : Str}
    (h : pattern <+: s ++ ch :: t) : pattern <+: s := by
  obtain ⟨u, hu⟩ := h
  rcases List.append_eq_append_iff.mp hu with ⟨a, rfl, -⟩ | ⟨c, rfl, hc⟩
  · exact List.prefix_append _ _
  · cases c with
    | nil => exact (List.append_nil s).symm ▸ List.prefix_rfl
    | cons d c =>
      obtain ⟨rfl, -⟩ := List.cons.inj hc
      exact absurd (List.mem_append_right _ List.mem_cons_self) hch

/-- A pattern without the separator is found on one of its sides. -/
lemma contains_sep {pattern : Str} {ch : Char} (hp : pattern ≠ []) (hch : ch ∉ pattern)
    (s t : Str) : contains pattern (s ++ ch :: t) = (contains pattern s || contains pattern t) := by
  have hprefix (s : Str) : pattern.isPrefixOf (s ++ ch :: t) = pattern.isPrefixOf s := by
    rw [Bool.eq_iff_iff, List.isPrefixOf_iff_prefix, List.isPrefixOf_iff_prefix]
    exact ⟨prefix_sep hch, List.prefix_append_of_prefix⟩
  have hnil : pattern.isPrefixOf [] = false := by
    cases pattern with
    | nil => exact absurd rfl hp
    | cons d p => rfl
  induction s with
  | nil =>
    have h := hprefix []
    rw [List.nil_append, hnil] at h
    have hempty : contains pattern [] = false := List.isEmpty_eq_false_iff.mpr hp
    have hcons : contains pattern (ch :: t) = (pattern.isPrefixOf (ch :: t) ||
        contains pattern t) := rfl
    rw [List.nil_append, hcons, h, hempty]
  | cons c s ih =>
    have h := hprefix (c :: s)
    rw [List.cons_append] at h
    rw [List.cons_append, contains, h, ih, contains, Bool.or_assoc]

lemma findStr_start {pattern : Str} (hp : pattern ≠ []) (s : Str) :
    findStr pattern (pattern ++ s) = some 0 := by
  obtain ⟨ch, rest, rfl⟩ := List.exists_cons_of_ne_nil hp
  rw [List.cons_append, findStr, if_pos]
  rw [List.isPrefixOf_iff_prefix, ← List.cons_append]
  exact List.prefix_append _ _

/-- A pattern without the separator that is not in front of it is searched for behind it. -/
lemma findStr_sep {pattern : Str} {ch : Char} (hp : pattern ≠ []) (hch : ch ∉ pattern) {s : Str}
    (hs : contains pattern s = false) (t : Str) :
    findStr pattern (s ++ ch :: t) = (findStr pattern t).map (· + (s.length + 1)) := by
  have hstep : ∀ (c : Char) (u : Str), ¬pattern.isPrefixOf (c :: u) →
      findStr pattern (c :: u) = (findStr pattern u).map (· + 1) := by
    intro c u h
    rw [findStr, if_neg h]
  induction s with
  | nil =>
    have hno : ¬pattern.isPrefixOf (ch :: t) := by
      rw [List.isPrefixOf_iff_prefix, ← List.nil_append (ch :: t)]
      exact fun h => hp (List.prefix_nil.mp (prefix_sep hch h))
    rw [List.nil_append, hstep ch t hno]
    rfl
  | cons c s ih =>
    rw [contains, Bool.or_eq_false_iff] at hs
    have hno : ¬pattern.isPrefixOf (c :: (s ++ ch :: t)) := by
      rw [List.isPrefixOf_iff_prefix, ← List.cons_append]
      intro h
      have hshort := List.isPrefixOf_iff_prefix.mpr (prefix_sep hch h)
      rw [hs.1] at hshort
      exact absurd hshort (by decide)
    rw [List.cons_append, hstep c _ hno, ih hs.2, Option.map_map]
    rfl

/-- What was found lies in the text. -/
lemma findStr_le {pattern s : Str} {n : Nat} (h : findStr pattern s = some n) :
    n + pattern.length ≤ s.length := by
  induction s generalizing n with
  | nil =>
    rw [findStr] at h
    split at h
    · next hnil =>
      obtain rfl := Option.some.inj h
      rw [hnil]
      exact le_rfl
    · exact absurd h (by simp)
  | cons ch s ih =>
    rw [findStr] at h
    split at h
    · next hp =>
      obtain rfl := Option.some.inj h
      rw [List.isPrefixOf_iff_prefix] at hp
      rw [Nat.zero_add]
      exact hp.length_le
    · obtain ⟨m, hm, rfl⟩ := Option.map_eq_some_iff.mp h
      have hle := ih hm
      rw [List.length_cons]
      omega

lemma findStr_prefix {pattern s : Str} {n : Nat} (h : findStr pattern s = some n) :
    pattern <+: s.drop n := by
  induction s generalizing n with
  | nil =>
    rw [findStr] at h
    split at h
    · next hnil =>
      rw [hnil]
      exact List.nil_prefix
    · exact absurd h (by simp)
  | cons ch s ih =>
    rw [findStr] at h
    split at h
    · next hp =>
      obtain rfl := Option.some.inj h
      exact List.isPrefixOf_iff_prefix.mp hp
    · obtain ⟨m, hm, rfl⟩ := Option.map_eq_some_iff.mp h
      exact ih hm

/-- What was found stays the first when the text goes on. -/
lemma findStr_append {pattern s : Str} {n : Nat} (h : findStr pattern s = some n) (t : Str) :
    findStr pattern (s ++ t) = some n := by
  induction s generalizing n with
  | nil =>
    rw [findStr] at h
    split at h
    · next hnil =>
      obtain rfl := Option.some.inj h
      subst hnil
      cases t with
      | nil => rfl
      | cons ch t => rfl
    · exact absurd h (by simp)
  | cons ch s ih =>
    rw [findStr] at h
    rw [List.cons_append, findStr]
    split at h
    · next hp =>
      rw [if_pos, h]
      rw [List.isPrefixOf_iff_prefix] at hp ⊢
      exact hp.trans (List.prefix_append (ch :: s) t)
    · next hp =>
      obtain ⟨m, hm, rfl⟩ := Option.map_eq_some_iff.mp h
      have hle := findStr_le hm
      rw [ih hm, if_neg]
      · rfl
      · intro hlong
        apply hp
        rw [List.isPrefixOf_iff_prefix] at hlong ⊢
        apply List.prefix_of_prefix_length_le hlong (List.prefix_append (ch :: s) t)
        rw [List.length_cons]
        omega

lemma findStr_eq_none {pattern s : Str} (h : contains pattern s = false) :
    findStr pattern s = none := by
  induction s with
  | nil =>
    rw [contains, List.isEmpty_eq_false_iff] at h
    rw [findStr, if_neg h]
  | cons ch s ih =>
    rw [contains, Bool.or_eq_false_iff] at h
    rw [findStr, if_neg (by rw [h.1]; decide), ih h.2, Option.map_none]

lemma findStr_isSome (pattern s : Str) : (findStr pattern s).isSome = contains pattern s := by
  induction s with
  | nil =>
    rw [findStr, contains]
    cases pattern <;> rfl
  | cons ch s ih =>
    rw [findStr, contains, ← ih]
    cases pattern.isPrefixOf (ch :: s) <;> simp

lemma contains_of_noCrlf {s : Str} (h : NoCrlf s) : contains "\r\n".toList s = false := by
  rw [← Bool.not_eq_true, contains_iff]
  intro hin
  have hcrlf : NoCrlf "\r\n".toList := List.IsChain.infix h hin
  exact absurd hcrlf (by decide)

lemma findStr_line {l : Str} (h : NoCrlf l) (rest : Str) :
    findStr "\r\n".toList (l ++ "\r\n".toList ++ rest) = some l.length := by
  induction l with
  | nil => exact findStr_start (by decide) rest
  | cons ch l ih =>
    have hno : "\r\n".toList.isPrefixOf (ch :: (l ++ "\r\n".toList ++ rest)) = false := by
      rw [← Bool.not_eq_true, List.isPrefixOf_iff_prefix]
      intro hpre
      obtain ⟨hch, hpre⟩ := List.cons_prefix_cons.mp hpre
      cases l with
      | nil =>
        obtain ⟨hnl, -⟩ := List.cons_prefix_cons.mp hpre
        exact absurd hnl (by decide)
      | cons d l =>
        obtain ⟨hnl, -⟩ := List.cons_prefix_cons.mp hpre
        exact List.IsChain.rel_head? h (y := d) rfl ⟨hch.symm, hnl.symm⟩
    rw [List.cons_append, List.cons_append, findStr, hno, if_neg (by decide),
      ih (List.IsChain.tail h)]
    rfl

/-! ### Positions of characters -/

/-- One behind what is searched for, or the beginning. -/
lemma add_position_find {c : Char} {s : Str} (hsize : s.length < npos) :
    add (position (find c 0 s)) 1 = posAfter c s := by
  have hlast := npos_add_one
  unfold posAfter
  by_cases hmem : c ∈ s
  · have hlt := List.idxOf_lt_length_of_mem hmem
    rw [find_zero.mpr ⟨hmem, rfl⟩, if_pos hmem, position_some, add_of_lt (by omega)]
  · rw [find_eq_none hmem, if_neg hmem]
    exact add_npos_one

/-- The character behind one that is searched for is in the text, or behind its end; where
the search finds nothing it is the first one. -/
lemma add_position_le {c : Char} {s : Str} (hsize : s.length < npos) (pos : Nat) :
    add (position (find c pos s)) 1 ≤ s.length := by
  cases hfind : find c pos s with
  | none =>
    rw [position_none, add_npos_one]
    exact Nat.zero_le _
  | some k =>
    have hk := find_lt hfind
    have hlast := npos_add_one
    rw [position_some, add_of_lt (by omega)]
    exact hk

/-! ### Up to a NUL -/

lemma cString_append {s : Str} (h : '\x00' ∉ s) (t : Str) : cString (s ++ t) = s ++ cString t := by
  have hs : ∀ ch ∈ s, decide (ch ≠ '\x00') = true := by
    intro ch hch
    exact decide_eq_true (fun he => h (he ▸ hch))
  exact List.takeWhile_append_of_pos hs

lemma cString_of_not_mem {s : Str} (h : '\x00' ∉ s) : cString s = s := by
  have happend := cString_append h []
  rwa [List.append_nil, show cString [] = [] from rfl, List.append_nil] at happend

lemma not_mem_cString (s : Str) : '\x00' ∉ cString s := by
  intro h
  have hall := List.all_takeWhile (p := (· ≠ '\x00')) (l := s)
  have hne := List.all_eq_true.mp hall _ h
  simp at hne

end CloudStorage.Proofs
