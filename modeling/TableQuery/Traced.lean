import TableQuery.Error

/-! Computations that may fail and that leave a trace: what was noted before a failure stays
noted. -/

namespace TableQuery

structure Traced (ω α : Type) where
  trace : List ω
  outcome : Except QueryError α

namespace Traced

variable {ω α β : Type}

def ok (value : α) : Traced ω α := ⟨[], .ok value⟩

def fail (error : QueryError) : Traced ω α := ⟨[], .error error⟩

def note (entry : ω) : Traced ω Unit := ⟨[entry], .ok ()⟩

def ofExcept (outcome : Except QueryError α) : Traced ω α := ⟨[], outcome⟩

def andThen (first : Traced ω α) (next : α → Traced ω β) : Traced ω β :=
  match first.outcome with
  | .ok value =>
    let second := next value
    ⟨first.trace ++ second.trace, second.outcome⟩
  | .error error => ⟨first.trace, .error error⟩

instance : Monad (Traced ω) where
  pure := ok
  bind := andThen

@[simp] theorem pure_eq (value : α) : (pure value : Traced ω α) = ok value := rfl

@[simp] theorem bind_ok (value : α) (next : α → Traced ω β) : ok value >>= next = next value :=
  rfl

theorem mk_ok_bind (trace : List ω) (value : α) (next : α → Traced ω β) :
    (⟨trace, .ok value⟩ : Traced ω α) >>= next =
      ⟨trace ++ (next value).trace, (next value).outcome⟩ := rfl

@[simp] theorem bind_fail (error : QueryError) (next : α → Traced ω β) :
    fail error >>= next = fail error := rfl

@[simp] theorem note_bind (entry : ω) (next : Unit → Traced ω β) :
    note entry >>= next = ⟨entry :: (next ()).trace, (next ()).outcome⟩ := rfl

@[simp] theorem ofExcept_ok (value : α) : (ofExcept (.ok value) : Traced ω α) = ok value := rfl

@[simp] theorem ofExcept_error (error : QueryError) :
    (ofExcept (.error error) : Traced ω α) = fail error := rfl

theorem outcome_bind (first : Traced ω α) (next : α → Traced ω β) :
    (first >>= next).outcome = first.outcome.bind fun value => (next value).outcome := by
  change (andThen first next).outcome = _
  unfold andThen
  cases first.outcome with
  | error error => rfl
  | ok value => rfl

theorem outcome_noted (first : Traced ω α) (entry : α → ω) :
    (do let value ← first
        note (entry value)
        pure value).outcome = first.outcome := by
  rw [outcome_bind]
  cases first.outcome with
  | error error => rfl
  | ok value => rfl

end Traced

end TableQuery
