/-! Outcomes that are a value or an error: when a chain of them gives a value, and where an error goes. -/

namespace TableQuery

variable {ε ε' α β : Type}

theorem bind_eq_ok_iff {outcome : Except ε α} {next : α → Except ε β} {result : β} :
    outcome.bind next = .ok result ↔ ∃ value, outcome = .ok value ∧ next value = .ok result := by
  cases outcome with
  | error error => simp [Except.bind]
  | ok value => simp [Except.bind]

theorem map_eq_ok_iff {outcome : Except ε α} {f : α → β} {result : β} :
    outcome.map f = .ok result ↔ ∃ value, outcome = .ok value ∧ f value = result := by
  cases outcome with
  | error error => simp [Except.map]
  | ok value => simp [Except.map]

theorem mapError_eq_ok_iff {outcome : Except ε α} {f : ε → ε'} {result : α} :
    outcome.mapError f = .ok result ↔ outcome = .ok result := by
  cases outcome with
  | error error =>
    constructor
    · rintro ⟨⟩
    · rintro ⟨⟩
  | ok value =>
    constructor
    · rintro ⟨⟩
      rfl
    · rintro ⟨⟩
      rfl

theorem map_eq_error_iff {outcome : Except ε α} {f : α → β} {error : ε} :
    outcome.map f = .error error ↔ outcome = .error error := by
  cases outcome with
  | error other => simp [Except.map]
  | ok value => simp [Except.map]

theorem mapError_bind (f : ε → ε') (outcome : Except ε α) (next : α → Except ε β) :
    (outcome.bind next).mapError f =
      (outcome.mapError f).bind fun value => (next value).mapError f := by
  cases outcome with
  | error error => rfl
  | ok value => rfl

theorem mapError_map (f : ε → ε') (g : α → β) (outcome : Except ε α) :
    (outcome.map g).mapError f = (outcome.mapError f).map g := by
  cases outcome with
  | error error => rfl
  | ok value => rfl

theorem eq_ok_of_toOption {outcome : Except ε α} {value : α}
    (found : outcome.toOption = some value) : outcome = .ok value := by
  cases outcome with
  | error error => cases found
  | ok other => exact congrArg Except.ok (Option.some.inj found)

end TableQuery
