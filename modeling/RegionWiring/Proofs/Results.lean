import Mathlib.Logic.Function.Basic

namespace RegionWiring

section Results

variable {ε δ α β : Type}

theorem bind_eq_ok_iff {x : Except ε α} {f : α → Except ε β} {b : β} : x >>= f = .ok b ↔ ∃ a, x = .ok a ∧ f a = .ok b := by
  constructor
  · intro accepted
    cases x with
    | error fault => cases accepted
    | ok a => exact ⟨a, rfl, accepted⟩
  · rintro ⟨a, rfl, accepted⟩
    exact accepted

theorem mapError_eq_ok_iff {f : ε → δ} {x : Except ε α} {a : α} : x.mapError f = .ok a ↔ x = .ok a := by
  cases x with
  | error fault =>
      constructor
      · intro refused
        cases refused
      · intro refused
        cases refused
  | ok b =>
      constructor
      · intro same
        rw [Except.ok.inj same]
      · intro same
        rw [Except.ok.inj same]
        rfl

theorem toOption_mapError (f : ε → δ) (x : Except ε α) : (x.mapError f).toOption = x.toOption := by
  cases x <;> rfl

theorem toOption_eq_some_iff {x : Except ε α} {a : α} : x.toOption = some a ↔ x = .ok a := by
  cases x <;> simp [Except.toOption]

theorem mapError_inj {f : ε → δ} (distinct : Function.Injective f) {x y : Except ε α} :
    x.mapError f = y.mapError f ↔ x = y := by
  constructor
  · intro same
    cases x with
    | error fault =>
        cases y with
        | error other => rw [distinct (Except.error.inj same)]
        | ok b => cases same
    | ok a =>
        cases y with
        | error other => cases same
        | ok b => rw [Except.ok.inj same]
  · rintro rfl
    rfl

end Results
end RegionWiring
