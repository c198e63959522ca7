import Mathlib.Tactic.Common

/-!
# Things to do that may fail

What is done one after the other until something fails. On a state, the state is then what the
failure has left.
-/

namespace SeedVault.Attempt

universe u v

section Results

variable {ε ε' : Type u} {α β : Type v} {x : Except ε α}

/-- Two steps succeed if each of them does. -/
lemma ok_bind_iff {f : α → Except ε β} {b} : (x >>= f) = .ok b ↔ ∃ a, x = .ok a ∧ f a = .ok b := by
  cases x with
  | error e =>
    refine iff_of_false nofun ?_
    rintro ⟨_, h, _⟩
    cases h
  | ok a =>
    constructor
    · intro h
      exact ⟨a, rfl, h⟩
    · rintro ⟨_, h, next⟩
      cases h
      exact next

/-- Of two steps the first one fails, or the second one behind it. -/
lemma error_bind_iff {f : α → Except ε β} {e} :
    (x >>= f) = .error e ↔ x = .error e ∨ ∃ a, x = .ok a ∧ f a = .error e := by
  cases x with
  | error e' =>
    constructor
    · intro h
      cases h
      exact .inl rfl
    · rintro (h | ⟨_, h, _⟩)
      · cases h
        rfl
      · cases h
  | ok a =>
    constructor
    · intro h
      exact .inr ⟨a, rfl, h⟩
    · rintro (h | ⟨_, h, next⟩)
      · cases h
      · cases h
        exact next

/-- What is said of a failure is said of one. -/
lemma error_mapError_iff {f : ε → ε'} {e'} :
    x.mapError f = .error e' ↔ ∃ e, x = .error e ∧ f e = e' := by
  cases x with
  | ok a => exact iff_of_false nofun (by rintro ⟨_, h, _⟩; cases h)
  | error e => simp [Except.mapError]

/-- A success has its value. -/
lemma toOption_eq_some_iff {a} : x.toOption = some a ↔ x = .ok a := by
  cases x with
  | error e => exact iff_of_false nofun nofun
  | ok a' => rw [Except.toOption, Option.some_inj, Except.ok.injEq]

/-- What is made of a result is made of a success. -/
lemma ok_map_iff {f : α → β} {b} : x.map f = .ok b ↔ ∃ a, x = .ok a ∧ f a = b := by
  cases x with
  | error e => exact iff_of_false nofun (by rintro ⟨_, h, _⟩; cases h)
  | ok a => simp [Except.map]

/-- What is made of a result leaves a failure as it is. -/
lemma error_map_iff {f : α → β} {e} : x.map f = .error e ↔ x = .error e := by
  cases x with
  | error e' => rw [Except.map, Except.error.injEq, Except.error.injEq]
  | ok a => exact iff_of_false nofun nofun

/-- What is said of a failure makes no success. -/
lemma ok_mapError_iff {f : ε → ε'} {a} : x.mapError f = .ok a ↔ x = .ok a := by
  cases x with
  | error e => exact iff_of_false nofun nofun
  | ok a => rw [Except.mapError, Except.ok.injEq, Except.ok.injEq]

/-- If two first steps come to the same, up to what is made of their results, and so do the second
steps behind them, then both steps together do. -/
lemma map_bind_eq {γ δ : Type v} {x' : Except ε α} {f f' : α → Except ε β} {p : α → γ} {q : β → δ}
    (first : x'.map p = x.map p) (next : ∀ a a', p a' = p a → (f' a').map q = (f a).map q) :
    (x' >>= f').map q = (x >>= f).map q := by
  cases x with
  | error e =>
    rw [Except.map, error_map_iff] at first
    rw [first]
    rfl
  | ok a =>
    obtain ⟨a', rfl, same⟩ := ok_map_iff.1 first
    exact next a a' same

/-- Behind one first step it is enough to compare the second steps. -/
lemma map_bind_congr {γ : Type v} {f f' : α → Except ε β} {q : β → γ}
    (next : ∀ a, (f' a).map q = (f a).map q) : (x >>= f').map q = (x >>= f).map q := by
  apply map_bind_eq (p := id) rfl
  rintro _ a rfl
  exact next a

end Results

section OnState

variable {ε σ α β : Type} {act : ExceptT ε (StateM σ) α} {next : α → ExceptT ε (StateM σ) β}
  {s s' s'' : σ}

/-- Behind something that succeeds comes the next thing to do. -/
lemma bind_of_ok {a} (h : act s = (.ok a, s')) : (act >>= next) s = next a s' := by
  change (ExceptT.bind act next) s = _
  simp only [ExceptT.bind, ExceptT.mk, bind, StateT.bind, h, ExceptT.bindCont]

/-- Behind something that fails nothing is done. -/
lemma bind_of_error {e} (h : act s = (.error e, s')) : (act >>= next) s = (.error e, s') := by
  change (ExceptT.bind act next) s = _
  simp only [ExceptT.bind, ExceptT.mk, bind, StateT.bind, h, ExceptT.bindCont]
  rfl

/-- Two things to do succeed if each of them does. -/
lemma bind_ok_iff {b} :
    (act >>= next) s = (.ok b, s'') ↔ ∃ a s', act s = (.ok a, s') ∧ next a s' = (.ok b, s'') := by
  constructor
  · intro done
    cases h : act s with
    | mk result s' =>
      cases result with
      | ok a => exact ⟨a, s', rfl, (bind_of_ok h).symm.trans done⟩
      | error e =>
        rw [bind_of_error h] at done
        cases done
  · rintro ⟨a, s', h, done⟩
    exact (bind_of_ok h).trans done

end OnState

end SeedVault.Attempt
