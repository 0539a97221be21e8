import Mathlib.Logic.Basic

/-!
# Sequences of steps

Readers, writers and parsers are all made of steps that change a state whether they succeed or fail.
What a sequence of steps does follows from what its first step does.

## Main results

* `bind_of_ok`, `bind_of_error`: the sequence goes on after a success and stops at a failure
* `bind_eq_ok_iff`, `bind_eq_error_iff`: the ways in which a sequence succeeds and fails
* `except_bind_eq_ok_iff`: the way in which a sequence without a state succeeds
* `mapError_eq_ok_iff`, `mapError_eq_error_iff`: what is left when errors are renamed
-/

namespace FrameChunks.Steps

variable {ε σ α β : Type} {m : EStateM ε σ α} {k : α → EStateM ε σ β}
  {s t : σ} {a : α} {b : β} {e : ε}

theorem bind_of_ok (h : m s = .ok a t) : (m >>= k) s = k a t := by
  show EStateM.bind m k s = _
  rw [EStateM.bind, h]

theorem bind_of_error (h : m s = .error e t) : (m >>= k) s = .error e t := by
  show EStateM.bind m k s = _
  rw [EStateM.bind, h]

theorem map_of_ok {f : α → β} (h : m s = .ok a t) : (f <$> m) s = .ok (f a) t := by
  show EStateM.map f m s = _
  rw [EStateM.map, h]

theorem map_of_error {f : α → β} (h : m s = .error e t) : (f <$> m) s = .error e t := by
  show EStateM.map f m s = _
  rw [EStateM.map, h]

theorem map_eq_ok_iff {f : α → β} : (f <$> m) s = .ok b t ↔ ∃ a, m s = .ok a t ∧ f a = b := by
  constructor
  · intro h
    rcases hm : m s with ⟨a, u⟩ | ⟨e, u⟩
    · obtain ⟨rfl, rfl⟩ := EStateM.Result.ok.inj ((map_of_ok hm).symm.trans h)
      exact ⟨a, rfl, rfl⟩
    · nomatch (map_of_error hm).symm.trans h
  · rintro ⟨a, hm, rfl⟩
    exact map_of_ok hm

theorem map_eq_error_iff {f : α → β} : (f <$> m) s = .error e t ↔ m s = .error e t := by
  constructor
  · intro h
    rcases hm : m s with ⟨a, u⟩ | ⟨e', u⟩
    · nomatch (map_of_ok hm).symm.trans h
    · rw [map_of_error hm] at h
      obtain ⟨rfl, rfl⟩ := EStateM.Result.error.inj h
      rfl
  · exact map_of_error

/-- What a sequence does depends only on what its first step does. -/
theorem bind_congr_left {m' : EStateM ε σ α} (h : m s = m' t) : (m >>= k) s = (m' >>= k) t := by
  show EStateM.bind m k s = EStateM.bind m' k t
  rw [EStateM.bind, EStateM.bind, h]

/-- A sequence succeeds if its first step does and then the rest. -/
theorem bind_eq_ok_iff : (m >>= k) s = .ok b t ↔ ∃ a u, m s = .ok a u ∧ k a u = .ok b t := by
  constructor
  · intro h
    rcases hm : m s with ⟨a, u⟩ | ⟨e, u⟩
    · exact ⟨a, u, rfl, (bind_of_ok hm).symm.trans h⟩
    · nomatch (bind_of_error hm).symm.trans h
  · rintro ⟨a, u, hm, hk⟩
    rw [bind_of_ok hm, hk]

/-- A sequence fails with its first step, or with the rest after a success. -/
theorem bind_eq_error_iff :
    (m >>= k) s = .error e t ↔ m s = .error e t ∨ ∃ a u, m s = .ok a u ∧ k a u = .error e t := by
  constructor
  · intro h
    rcases hm : m s with ⟨a, u⟩ | ⟨e', u⟩
    · exact .inr ⟨a, u, rfl, (bind_of_ok hm).symm.trans h⟩
    · rw [bind_of_error hm] at h
      obtain ⟨rfl, rfl⟩ := EStateM.Result.error.inj h
      exact .inl rfl
  · rintro (hm | ⟨a, u, hm, hk⟩)
    · exact bind_of_error hm
    · rw [bind_of_ok hm, hk]

/-- Without a state too, a sequence succeeds if its first step does and then the rest. -/
theorem except_bind_eq_ok_iff {x : Except ε α} {k : α → Except ε β} :
    (x >>= k) = .ok b ↔ ∃ a, x = .ok a ∧ k a = .ok b := by
  constructor
  · intro h
    rcases x with e | a
    · nomatch h
    · exact ⟨a, rfl, h⟩
  · rintro ⟨a, rfl, h⟩
    exact h

/-- An error that is renamed is not a success. -/
theorem mapError_eq_ok_iff {δ : Type} {x : Except ε α} {f : ε → δ} :
    x.mapError f = .ok a ↔ x = .ok a := by
  cases x with
  | ok b => exact ⟨fun h => congrArg _ (Except.ok.inj h), fun h => congrArg _ (Except.ok.inj h)⟩
  | error _ => exact ⟨nofun, nofun⟩

/-- If errors keep their differences, a renamed error tells what it was. -/
theorem mapError_eq_error_iff {δ : Type} {x : Except ε α} {f : ε → δ}
    (hf : ∀ e e', f e = f e' → e = e') : x.mapError f = .error (f e) ↔ x = .error e := by
  cases x with
  | ok _ => exact ⟨nofun, nofun⟩
  | error e' =>
    constructor
    · intro h
      exact congrArg _ (hf e' e (Except.error.inj h))
    · intro h
      rw [Except.error.inj h]
      rfl

end FrameChunks.Steps
