import TableQuery.Coercion
import TableQuery.Error
import TableQuery.Query.Predicate
import TableQuery.Row

/-! Which rows satisfy the conditions of a query. The conditions of a row are looked at in order
until one is false, and a condition on a column that the row lacks is an error. -/

namespace TableQuery

def Predicate.evaluate (predicate : Predicate) (row : Row) : Except QueryError Bool :=
  match row.get? predicate.field with
  | none => .error (.field predicate.field)
  | some value =>
    .ok (predicate.operator.holds (value.coerce.compare (coerceText predicate.literal)))

def satisfies (row : Row) : List Predicate → Except QueryError Bool
  | [] => .ok true
  | predicate :: rest =>
    match predicate.evaluate row with
    | .error error => .error error
    | .ok false => .ok false
    | .ok true => satisfies row rest

def keepRows (predicates : List Predicate) : List Row → Except QueryError (List Row)
  | [] => .ok []
  | row :: rest =>
    match satisfies row predicates with
    | .error error => .error error
    | .ok holds => (keepRows predicates rest).map fun kept => if holds then row :: kept else kept

@[simp] theorem satisfies_nil (row : Row) : satisfies row [] = .ok true := rfl

@[simp] theorem keepRows_nil (predicates : List Predicate) : keepRows predicates [] = .ok [] := rfl

theorem Predicate.evaluate_eq_error_iff {predicate : Predicate} {row : Row} {error : QueryError} :
    predicate.evaluate row = .error error ↔
      row.get? predicate.field = none ∧ error = .field predicate.field := by
  unfold Predicate.evaluate
  split
  next h => simp [h, eq_comm]
  next value h => simp [h]

theorem keepRows_no_predicates (rows : List Row) : keepRows [] rows = .ok rows := by
  induction rows with
  | nil => rfl
  | cons row rest ih => simp [keepRows, ih, Except.map]

end TableQuery
