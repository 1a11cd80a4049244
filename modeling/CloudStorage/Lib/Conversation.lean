import CloudStorage.Lib.Dialogue

/-!
# Conversations

The questions of one run of a program with their answers. A program and a conversation fit
together whatever environment gave the answers, so what holds for every conversation holds
in every environment.
-/

universe u v w

namespace Dialogue

variable {ι : Type u} {ο : ι → Type v} {α β : Type w}

/-- Questions with their answers. -/
abbrev Conversation (ι : Type u) (ο : ι → Type v) := List (Σ i : ι, ο i)

/-- The program asks the questions of the conversation in turn, and with these answers it ends
with the result. -/
def Ends : Dialogue ι ο α → Conversation ι ο → α → Prop
  | done b, log, a => log = [] ∧ b = a
  | stop, _, _ => False
  | ask i k, log, a => ∃ o rest, log = ⟨i, o⟩ :: rest ∧ Ends (k o) rest a

@[simp] lemma ends_done {a b : α} {log : Conversation ι ο} :
    (done b : Dialogue ι ο α).Ends log a ↔ log = [] ∧ b = a := Iff.rfl

@[simp] lemma ends_stop {a : α} {log : Conversation ι ο} :
    (stop : Dialogue ι ο α).Ends log a ↔ False := Iff.rfl

lemma ends_question {i : ι} {o : ο i} {log : Conversation ι ο} :
    (question i : Dialogue ι ο (ο i)).Ends log o ↔ log = [⟨i, o⟩] := by
  constructor
  · rintro ⟨o', rest, rfl, rfl, rfl⟩
    rfl
  · rintro rfl
    exact ⟨o, [], rfl, rfl, rfl⟩

/-- The conversation of two programs, one after the other, comes in two parts. -/
theorem ends_bind {d : Dialogue ι ο α} {f : α → Dialogue ι ο β} {log : Conversation ι ο} {b : β} :
    (d >>= f).Ends log b ↔
      ∃ l₁ l₂ a, log = l₁ ++ l₂ ∧ d.Ends l₁ a ∧ (f a).Ends l₂ b := by
  induction d generalizing log with
  | done a =>
    constructor
    · intro h
      exact ⟨[], log, a, rfl, ⟨rfl, rfl⟩, h⟩
    · rintro ⟨l₁, l₂, a', rfl, ⟨rfl, rfl⟩, h⟩
      exact h
  | stop =>
    constructor
    · exact False.elim
    · rintro ⟨l₁, l₂, a, hlog, h, h'⟩
      exact h
  | ask i k ih =>
    constructor
    · rintro ⟨o, rest, rfl, h⟩
      obtain ⟨l₁, l₂, a, rfl, h₁, h₂⟩ := (ih o).mp h
      exact ⟨⟨i, o⟩ :: l₁, l₂, a, rfl, ⟨o, l₁, rfl, h₁⟩, h₂⟩
    · rintro ⟨l₁, l₂, a, rfl, ⟨o, rest, rfl, h₁⟩, h₂⟩
      exact ⟨o, rest ++ l₂, rfl, (ih o).mpr ⟨rest, l₂, a, rfl, h₁, h₂⟩⟩

lemma ends_ofOption {x : Option α} {log : Conversation ι ο} {a : α} :
    (ofOption x : Dialogue ι ο α).Ends log a ↔ log = [] ∧ x = some a := by
  cases x with
  | none => simp
  | some b => simp

/-! ### Conversations of runs -/

variable {σ : Type*} {env : (i : ι) → σ → Option (ο i × σ)}

/-- The environment writes down what it is asked and what it answers. -/
def logged (env : (i : ι) → σ → Option (ο i × σ)) (i : ι) (x : σ × Conversation ι ο) :
    Option (ο i × (σ × Conversation ι ο)) :=
  (env i x.1).map (fun r => (r.1, (r.2, x.2 ++ [⟨i, r.1⟩])))

/-- What is written down during a run is a conversation of the program. -/
theorem ends_of_logged {d : Dialogue ι ο α} {x y : σ × Conversation ι ο} {a : α}
    (h : d.run (logged env) x = some (a, y)) : ∃ log, y.2 = x.2 ++ log ∧ d.Ends log a := by
  induction d generalizing x with
  | done b =>
    cases h
    exact ⟨[], (List.append_nil _).symm, rfl, rfl⟩
  | stop => exact absurd h (by simp [run])
  | ask i k ih =>
    obtain ⟨⟨o, x'⟩, hi, hk⟩ := Option.bind_eq_some_iff.mp h
    obtain ⟨r, -, hr⟩ := Option.map_eq_some_iff.mp hi
    cases hr
    obtain ⟨log, hlog, hends⟩ := ih r.1 hk
    refine ⟨⟨i, r.1⟩ :: log, ?_, r.1, log, rfl, hends⟩
    rw [hlog, List.append_assoc]
    rfl

end Dialogue
