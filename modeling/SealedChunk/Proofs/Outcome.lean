import Mathlib.Tactic.Lemma
import SealedChunk.Crypto.Nonce

/-!
# Computations that succeed

A computation in several parts succeeds only if every part does, and its result is made of theirs.
For `Except` and for `Drawing` that is said once here, one statement for each way of putting parts
together, so that a success can be taken apart step by step without opening the monad.
-/

namespace SealedChunk

section Except

variable {ε ε' α β : Type} {x : Except ε α}

lemma map_eq_ok_iff {f : α → β} {y : β} : x.map f = .ok y ↔ ∃ a, x = .ok a ∧ f a = y := by
  cases x <;> simp [Except.map]

lemma mapError_eq_ok_iff {f : ε → ε'} {a : α} : x.mapError f = .ok a ↔ x = .ok a := by
  constructor
  · cases x <;> rintro ⟨⟩
    rfl
  · rintro rfl
    rfl

lemma mapError_eq_error_iff {f : ε → ε'} {error : ε'} :
    x.mapError f = .error error ↔ ∃ e, x = .error e ∧ f e = error := by
  constructor
  · cases x <;> rintro ⟨⟩
    exact ⟨_, rfl, rfl⟩
  · rintro ⟨e, rfl, rfl⟩
    rfl

lemma toOption_eq_some_iff {a : α} : x.toOption = some a ↔ x = .ok a := by
  cases x <;> simp [Except.toOption]

lemma bind_eq_ok_iff {f : α → Except ε β} {y : β} :
    (x >>= f) = .ok y ↔ ∃ a, x = .ok a ∧ f a = .ok y := by
  cases x <;> simp [bind, Except.bind]

end Except

namespace Crypto.Drawing

variable {ε ε' α β : Type} {nonces later : Nonces}

/-- A sequence succeeds if its first part does, and the rest with the nonces that are left. -/
lemma run_bind_eq_ok_iff {x : Drawing ε α} {f : α → Drawing ε β} {y : β} :
    (x >>= f).run nonces = (.ok y, later)
      ↔ ∃ a between, x.run nonces = (.ok a, between) ∧ (f a).run between = (.ok y, later) := by
  rcases hx : x.run nonces with ⟨e | a, between⟩
  · rw [run_bind_error hx]
    simp
  · rw [run_bind_ok hx]
    constructor
    · exact fun h => ⟨a, between, rfl, h⟩
    · rintro ⟨b, n, hb, h⟩
      cases hb
      exact h

/-- A sequence fails where its first part does, or else where the rest does. -/
lemma run_bind_eq_error_iff {x : Drawing ε α} {f : α → Drawing ε β} {e : ε} :
    (x >>= f).run nonces = (.error e, later) ↔ x.run nonces = (.error e, later)
      ∨ ∃ a between, x.run nonces = (.ok a, between) ∧ (f a).run between = (.error e, later) := by
  rcases hx : x.run nonces with ⟨failed | a, between⟩
  · rw [run_bind_error hx]
    simp
  · rw [run_bind_ok hx]
    constructor
    · exact fun h => .inr ⟨a, between, rfl, h⟩
    · rintro (h | ⟨b, n, hb, h⟩)
      · cases h
      · cases hb
        exact h

lemma run_pure_eq_ok_iff {a b : α} :
    (pure a : Drawing ε α).run nonces = (.ok b, later) ↔ a = b ∧ nonces = later := by
  simp [run_pure]

lemma run_lift_eq_ok_iff {outcome : Except ε α} {a : α} :
    (lift outcome).run nonces = (.ok a, later) ↔ outcome = .ok a ∧ nonces = later := by
  simp [run_lift]

lemma run_mapError_eq_ok_iff {f : ε → ε'} {x : Drawing ε α} {a : α} :
    (x.mapError f).run nonces = (.ok a, later) ↔ x.run nonces = (.ok a, later) := by
  show ((x nonces).1.mapError f, (x nonces).2) = _ ↔ x nonces = _
  rw [Prod.ext_iff, Prod.ext_iff, mapError_eq_ok_iff]

lemma run_mapError_eq_error_iff {f : ε → ε'} {x : Drawing ε α} {error : ε'} :
    (x.mapError f).run nonces = (.error error, later)
      ↔ ∃ e, x.run nonces = (.error e, later) ∧ f e = error := by
  show ((x nonces).1.mapError f, (x nonces).2) = _ ↔ ∃ e, x nonces = _ ∧ _
  simp only [Prod.ext_iff, mapError_eq_error_iff]
  constructor
  · rintro ⟨⟨e, he, hf⟩, hlater⟩
    exact ⟨e, ⟨he, hlater⟩, hf⟩
  · rintro ⟨e, ⟨he, hlater⟩, hf⟩
    exact ⟨⟨e, he, hf⟩, hlater⟩

end Crypto.Drawing

end SealedChunk
