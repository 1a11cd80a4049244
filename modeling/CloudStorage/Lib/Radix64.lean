import Mathlib.Data.List.Basic
import Mathlib.Tactic.Common

/-!
# Base64

Three bytes are written as four digits of an alphabet of 64 characters, and a last group of
one or two bytes is filled up with `=`. A byte is a character below 256.
-/

namespace Radix64

def alphabet : List Char :=
  "ABCDEFGHIJKLMNOPQRSTUVWXYZabcdefghijklmnopqrstuvwxyz0123456789+/".toList

def digit (n : Nat) : Char := (alphabet[n]?).getD 'A'

def value (ch : Char) : Nat := alphabet.idxOf ch

def encode : List Char → List Char
  | a :: b :: c :: s =>
    let n := a.toNat * 65536 + b.toNat * 256 + c.toNat
    digit (n / 262144) :: digit (n / 4096 % 64) :: digit (n / 64 % 64) :: digit (n % 64) ::
      encode s
  | [a, b] =>
    let n := a.toNat * 256 + b.toNat
    [digit (n / 1024), digit (n / 16 % 64), digit (n % 16 * 4), '=']
  | [a] => [digit (a.toNat / 4), digit (a.toNat % 4 * 16), '=', '=']
  | [] => []

def decode : List Char → List Char
  | p :: q :: r :: t :: s =>
    let n := (value p * 64 + value q) * 4096 + value r * 64 + value t
    if r = '=' then [Char.ofNat ((value p * 64 + value q) / 16)]
    else if t = '=' then
      [Char.ofNat ((value p * 64 + value q) / 16),
        Char.ofNat (((value p * 64 + value q) * 64 + value r) / 4 % 256)]
    else Char.ofNat (n / 65536) :: Char.ofNat (n / 256 % 256) :: Char.ofNat (n % 256) :: decode s
  | _ => []

lemma value_digit {n : Nat} (h : n < 64) : value (digit n) = n :=
  (by decide : ∀ n < 64, value (digit n) = n) n h

lemma digit_mem (n : Nat) : digit n ∈ alphabet := by
  unfold digit
  cases h : alphabet[n]? with
  | none => exact (by decide : 'A' ∈ alphabet)
  | some ch => exact List.mem_of_getElem? h

lemma digit_ne (n : Nat) : digit n ≠ '=' := by
  intro h
  have hno : '=' ∉ alphabet := by decide
  exact hno (h ▸ digit_mem n)

/-- Four digits are three bytes. -/
lemma decode_digits {n : Nat} (hn : n < 16777216) (s : List Char) :
    decode (digit (n / 262144) :: digit (n / 4096 % 64) :: digit (n / 64 % 64) ::
      digit (n % 64) :: s) =
    Char.ofNat (n / 65536) :: Char.ofNat (n / 256 % 256) :: Char.ofNat (n % 256) ::
      decode s := by
  have h₁ : value (digit (n / 262144)) = n / 262144 := value_digit (by omega)
  have h₂ : value (digit (n / 4096 % 64)) = n / 4096 % 64 := value_digit (by omega)
  have h₃ : value (digit (n / 64 % 64)) = n / 64 % 64 := value_digit (by omega)
  have h₄ : value (digit (n % 64)) = n % 64 := value_digit (by omega)
  have hsum : (n / 262144 * 64 + n / 4096 % 64) * 4096 + n / 64 % 64 * 64 + n % 64 = n := by
    omega
  rw [decode, if_neg (digit_ne _), if_neg (digit_ne _), h₁, h₂, h₃, h₄, hsum]

lemma decode_two {n : Nat} (hn : n < 65536) :
    decode [digit (n / 1024), digit (n / 16 % 64), digit (n % 16 * 4), '='] =
      [Char.ofNat (n / 256), Char.ofNat (n % 256)] := by
  have h₁ : value (digit (n / 1024)) = n / 1024 := value_digit (by omega)
  have h₂ : value (digit (n / 16 % 64)) = n / 16 % 64 := value_digit (by omega)
  have h₃ : value (digit (n % 16 * 4)) = n % 16 * 4 := value_digit (by omega)
  have h₄ : (n / 1024 * 64 + n / 16 % 64) / 16 = n / 256 := by omega
  have h₅ : ((n / 1024 * 64 + n / 16 % 64) * 64 + n % 16 * 4) / 4 % 256 = n % 256 := by omega
  rw [decode, if_neg (digit_ne _), if_pos rfl, h₁, h₂, h₃, h₄, h₅]

lemma decode_one {n : Nat} (hn : n < 256) :
    decode [digit (n / 4), digit (n % 4 * 16), '=', '='] = [Char.ofNat n] := by
  have h₁ : value (digit (n / 4)) = n / 4 := value_digit (by omega)
  have h₂ : value (digit (n % 4 * 16)) = n % 4 * 16 := value_digit (by omega)
  have h₃ : (n / 4 * 64 + n % 4 * 16) / 16 = n := by omega
  rw [decode, if_pos rfl, h₁, h₂, h₃]

theorem decode_encode {s : List Char} (h : ∀ ch ∈ s, ch.toNat < 256) :
    decode (encode s) = s := by
  induction s using encode.induct with
  | case1 a b c s ih =>
    have ha := h a (by simp)
    have hb := h b (by simp)
    have hc := h c (by simp)
    have hs := ih (fun ch hch => h ch (by simp [hch]))
    rw [encode, decode_digits (by omega), hs]
    congr 1
    · rw [show (a.toNat * 65536 + b.toNat * 256 + c.toNat) / 65536 = a.toNat by omega,
        Char.ofNat_toNat]
    · congr 1
      · rw [show (a.toNat * 65536 + b.toNat * 256 + c.toNat) / 256 % 256 = b.toNat by omega,
          Char.ofNat_toNat]
      · rw [show (a.toNat * 65536 + b.toNat * 256 + c.toNat) % 256 = c.toNat by omega,
          Char.ofNat_toNat]
  | case2 a b =>
    have ha := h a (by simp)
    have hb := h b (by simp)
    rw [encode, decode_two (by omega), show (a.toNat * 256 + b.toNat) / 256 = a.toNat by omega,
      show (a.toNat * 256 + b.toNat) % 256 = b.toNat by omega, Char.ofNat_toNat,
      Char.ofNat_toNat]
  | case3 a =>
    have ha := h a (by simp)
    rw [encode, decode_one ha, Char.ofNat_toNat]
  | case4 => rfl

/-- What follows a padded group is not looked at. -/
lemma decode_padded (p q r : Char) (s : List Char) :
    decode (p :: q :: r :: '=' :: s) = decode [p, q, r, '='] := by
  rw [decode, decode, if_pos rfl, if_pos rfl]

/-- A rest that is too short for a group is dropped. -/
theorem decode_encode_append {s : List Char} (h : ∀ ch ∈ s, ch.toNat < 256) {rest : List Char}
    (hrest : rest.length < 4) : decode (encode s ++ rest) = s := by
  induction s using encode.induct with
  | case1 a b c s ih =>
    have ha := h a (by simp)
    have hb := h b (by simp)
    have hc := h c (by simp)
    have hs : ∀ ch ∈ s, ch.toNat < 256 := fun ch hch => h ch (by simp [hch])
    have hplain := decode_encode h
    rw [encode, decode_digits (by omega), decode_encode hs] at hplain
    rw [encode, List.cons_append, List.cons_append, List.cons_append, List.cons_append,
      decode_digits (by omega), ih hs]
    exact hplain
  | case2 a b => exact (decode_padded _ _ _ rest).trans (decode_encode h)
  | case3 a => exact (decode_padded _ _ _ rest).trans (decode_encode h)
  | case4 =>
    rcases rest with _ | ⟨p, _ | ⟨q, _ | ⟨r, _ | ⟨t, rest⟩⟩⟩⟩
    · rfl
    · rfl
    · rfl
    · rfl
    · simp only [List.length_cons] at hrest
      omega

theorem mem_encode {s : List Char} {ch : Char} (h : ch ∈ encode s) :
    ch ∈ alphabet ∨ ch = '=' := by
  induction s using encode.induct with
  | case1 a b c s ih =>
    rw [encode] at h
    simp only [List.mem_cons] at h
    rcases h with rfl | rfl | rfl | rfl | h
    · exact Or.inl (digit_mem _)
    · exact Or.inl (digit_mem _)
    · exact Or.inl (digit_mem _)
    · exact Or.inl (digit_mem _)
    · exact ih h
  | case2 a b =>
    rw [encode] at h
    simp only [List.mem_cons, List.not_mem_nil, or_false] at h
    rcases h with rfl | rfl | rfl | rfl
    · exact Or.inl (digit_mem _)
    · exact Or.inl (digit_mem _)
    · exact Or.inl (digit_mem _)
    · exact Or.inr rfl
  | case3 a =>
    rw [encode] at h
    simp only [List.mem_cons, List.not_mem_nil, or_false] at h
    rcases h with rfl | rfl | rfl | rfl
    · exact Or.inl (digit_mem _)
    · exact Or.inl (digit_mem _)
    · exact Or.inr rfl
    · exact Or.inr rfl
  | case4 => simp [encode] at h

end Radix64
