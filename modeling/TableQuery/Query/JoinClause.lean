import TableQuery.ColumnKey

/-! The join of a query: its kind, the joined table, and the condition that a column of one
table equals a column of the other. -/

namespace TableQuery

/-- A kind that cannot be executed is kept by name. -/
inductive JoinKind where
  | inner
  | left
  | right
  | unsupported (name : String)
  deriving DecidableEq

namespace JoinKind

def name : JoinKind → String
  | inner => "INNER"
  | left => "LEFT"
  | right => "RIGHT"
  | unsupported name => name

def isSupported : JoinKind → Bool
  | unsupported _ => false
  | _ => true

end JoinKind

structure JoinCondition where
  left : String
  right : String
  deriving DecidableEq

namespace JoinCondition

def isReversed (condition : JoinCondition) (base joined : String) : Bool :=
  base != joined && (ColumnKey.ofText condition.left).table == some joined &&
    (ColumnKey.ofText condition.right).table == some base

/-- The condition with the column of the base table on its left. A condition that does not name
one column of each table stays as it is. -/
def oriented (condition : JoinCondition) (base joined : String) : JoinCondition :=
  if condition.isReversed base joined then ⟨condition.right, condition.left⟩ else condition

@[simp] theorem oriented_same (condition : JoinCondition) (table : String) :
    condition.oriented table table = condition := by
  simp [oriented, isReversed]

end JoinCondition

structure JoinClause where
  kind : JoinKind
  table : String
  condition : JoinCondition
  deriving DecidableEq

end TableQuery
