/-!
# Steps that succeed

A sequence of steps succeeds when each of them does, with the results that they pass on. Wording an
error differently changes no success.
-/
namespace JsonShape

variable {ε δ α β : Type}

/-- Two steps in a row succeed when the first does and the second does on its result. -/
theorem bind_eq_ok {first : Except ε α} {next : α → Except ε β} {result : β} :
    first >>= next = .ok result ↔ ∃ value, first = .ok value ∧ next value = .ok result := by
  constructor
  · intro both
    cases first with
    | error error => cases both
    | ok value => exact ⟨value, rfl, both⟩
  · rintro ⟨value, rfl, second⟩
    exact second

/-- Changing the error of a step changes no success. -/
theorem mapError_eq_ok {f : ε → δ} {first : Except ε α} {value : α} :
    first.mapError f = .ok value ↔ first = .ok value := by
  cases first with
  | error error => constructor <;> intro none <;> cases none
  | ok other => constructor <;> intro same <;> cases same <;> rfl

end JsonShape
