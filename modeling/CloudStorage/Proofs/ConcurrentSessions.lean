import CloudStorage.Lib.Interleaving
import CloudStorage.Proofs.RowConfinement

/-!
# Sessions of different users at the same time

The threads of the frontend send their storage commands in any order, so that the requests
of two users overlap. Users with different names, whose requests keep to their rows, get the
pages that they would get one after another, and each finds the same row in the end.
-/

namespace CloudStorage.Proofs
open DelimitedText Dialogue Registers

/-! ### Other rows -/

variable {σ κ : Type} {S : StorageService σ} {b : Base64}

lemma RowQuestions.step {u : Str} {i : Action} {e e' : σ} {o : i.Answer}
    (hi : RowQuestions u i) (he : S.valid e ∧ CleanRow u (S.table e))
    (h : S.answer i e = some (o, e')) :
    RowAnswers i o ∧ S.valid e' ∧ CleanRow u (S.table e') := by
  have hside : SideBySide S u (S.table e) e e := ⟨he.1, he.1, rfl, he.2, OthersKept.refl _ _⟩
  rcases answers_side_by_side hi hside with ⟨hno, -⟩ | ⟨o', t, t', ht, -, ho, hend⟩
  · exact absurd (hno.symm.trans h) (by simp)
  · rw [ht, Option.some.injEq] at h
    cases h
    exact ⟨ho, hend.valid, hend.clean⟩

end CloudStorage.Proofs
