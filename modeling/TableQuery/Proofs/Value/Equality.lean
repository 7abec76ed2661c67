import TableQuery.Proofs.Number.Parts
import TableQuery.Value

/-! Equality of values in a join condition is the same both ways. -/

namespace TableQuery

theorem Value.equals_comm (v w : Value) : v.equals w = w.equals v := by
  cases v with
  | null => cases w <;> rfl
  | number a =>
    cases w with
    | number b => exact Number.float_beq_comm a b
    | _ => rfl
  | text s =>
    cases w with
    | text t => exact BEq.comm
    | _ => rfl

end TableQuery
